import TypeProjection.Text.Case
import TypeProjection.Text.Pattern.Parser

/-!
Options of a run: which types are skipped, how names are written, and what replaces a type or a
missing base.
-/

namespace TypeProjection

/-- A rule on names. `table` has an entry for some names, and a value for all others or nothing. -/
inductive NameRule where
  | prepend (text : String)
  | append (text : String)
  | upper
  | const (value : Option String)
  | table (entries : List (String × Option String)) (other : Option (Option String))

/-- What a rule makes of a name. -/
def NameRule.apply : NameRule → String → Option String
  | .prepend text, name => some (text ++ name)
  | .append text, name => some (name ++ text)
  | .upper, name => some (Text.upper name)
  | .const value, _ => value
  | .table entries other, name =>
    match entries.lookup name with
    | some value => value
    | none =>
      match other with
      | some value => value
      | none => some name

/-- Settings of a run over types `τ`. -/
structure Options (τ : Type) where
  /-- A type is skipped when one of these is found in its display name. -/
  skip : List Text.Pattern
  /-- Declare every class as an interface. -/
  interfacesOnly : Bool
  /-- Map dates to the native date type. -/
  dates : Bool
  /-- The base of a class whose own base is missing, not a structure, or skipped. -/
  defaultBase : Option (τ → Option String)
  /-- Applied to the name of every class, interface, enumeration and type parameter. -/
  rename : String → String
  /-- Display names with the reference that replaces them. -/
  overrides : List (String × String)
  /-- A template in place of the packaged one. -/
  template : Option String

/-- The replacements when none are given. -/
def defaultOverrides : List (String × String) := [("uuid.UUID", "string")]

/-- The settings when none are given. -/
def Options.default {τ : Type} : Options τ :=
  ⟨[], false, false, none, id, defaultOverrides, none⟩

/-- Is a type with this display name skipped? -/
def Options.skips {τ : Type} (o : Options τ) (displayName : String) : Bool :=
  o.skip.any fun p => p.found displayName

end TypeProjection
