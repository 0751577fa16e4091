import TypeProjection.Rendering
import TypeProjection.Session.Fault
import TypeProjection.Settings.Configuration

/-!
Why the command gives no text, with the wording of each cause.
-/

namespace TypeProjection.Command

/-- A cause. -/
inductive Fault where
  | settings (cause : SettingsFault)
  | file (cause : FileFault)
  | input (cause : InputFault)
  | noTypes
  | pattern (cause : Text.PatternFault)
  | template (cause : Template.Fault)
  /-- Types that nest without end. -/
  | endless

/-- The wording of a cause, or what is raised instead. -/
def Fault.message : Fault → Except Annotation.Fault String
  | settings cause => .ok cause.message
  | file cause => .ok cause.message
  | input cause => cause.message
  | noTypes => .ok "No types found in inputs."
  | pattern cause => .ok cause.message
  | template cause => .ok (renderingFailure cause)
  | endless => .ok "maximum recursion depth exceeded"

end TypeProjection.Command
