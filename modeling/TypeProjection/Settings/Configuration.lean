import TypeProjection.Options
import TypeProjection.Settings.Basic
import TypeProjection.Settings.TypeMap

/-!
The configuration of a run: the settings together with what a caller chooses instead, and the
contents of the files that both name.
-/

namespace TypeProjection

/-- What a caller chooses. What is missing is left to the settings; patterns are added to theirs. -/
structure Choices where
  skip : List String
  interfacesOnly : Option Bool
  dates : Option Bool
  template : Option Path
  typeMap : Option Path

/-- A configuration. The patterns are still texts, which may be wrong. -/
structure Configuration where
  skip : List String
  interfacesOnly : Bool
  dates : Bool
  overrides : List (String × String)
  template : Option String

namespace Configuration

/-- The replacements in the file at a path; no file gives none. -/
def replacements (t : FileTree) (p : Path) : Except FileFault (List (String × String)) := do
  if t.has p then return TypeMap.read (← t.readText p) else return []

/-- The configuration from settings and choices. -/
def make (t : FileTree) (s : Settings) (c : Choices) : Except FileFault Configuration := do
  let overrides ← match c.typeMap.orElse fun _ => s.typeMap with
    | some p => do
      let entries ← replacements t p
      pure (putPairs defaultOverrides entries)
    | none => pure defaultOverrides
  let template ← match c.template.orElse fun _ => s.template with
    | some p => do
      let text ← t.readText p
      pure (some text)
    | none => pure none
  return {
    skip := s.skip ++ c.skip
    interfacesOnly := c.interfacesOnly.getD s.interfacesOnly
    dates := c.dates.getD s.dates
    overrides := overrides
    template := template }

/-- The options of a run, with its patterns read. -/
def options {τ : Type} (c : Configuration) : Except Text.PatternFault (Options τ) := do
  let skip ← c.skip.mapM Text.Pattern.parse
  return {
    skip := skip
    interfacesOnly := c.interfacesOnly
    dates := c.dates
    defaultBase := none
    rename := id
    overrides := c.overrides
    template := c.template }

end Configuration

end TypeProjection
