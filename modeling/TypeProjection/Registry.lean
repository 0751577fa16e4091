import TypeProjection.Event
import TypeProjection.Options

/-!
The registry of one run. Declarations stand in the order in which they were registered. A
declaration is in progress from the moment its type is claimed until it is registered, so a walk
that comes back to the type finds it instead of starting again.
-/

namespace TypeProjection

/-- The state of one run. -/
structure Registry (τ : Type) where
  options : Options τ
  types : List (TypeDeclaration τ)
  enums : List (EnumDeclaration τ)
  inProgress : List (TypeDeclaration τ)
  events : List Event

namespace Registry

variable {τ : Type}

/-- A run that has declared nothing yet. -/
def fresh (options : Options τ) : Registry τ := ⟨options, [], [], [], []⟩

/-- The registry after a report. -/
def report (r : Registry τ) (e : Event) : Registry τ := { r with events := r.events ++ [e] }

variable [BEq τ]

/-- The declaration of a type in a list. -/
def lookupType (t : τ) (ds : List (TypeDeclaration τ)) : Option (TypeDeclaration τ) :=
  ds.find? fun d => d.source == t

/-- A declaration put into a list: in the place of the one with its source, or at the end. -/
def putType (d : TypeDeclaration τ) : List (TypeDeclaration τ) → List (TypeDeclaration τ)
  | [] => [d]
  | e :: rest => if e.source == d.source then d :: rest else e :: putType d rest

/-- A declaration of an enumeration put into a list likewise. -/
def putEnum (d : EnumDeclaration τ) : List (EnumDeclaration τ) → List (EnumDeclaration τ)
  | [] => [d]
  | e :: rest => if e.source == d.source then d :: rest else e :: putEnum d rest

/-- The declaration of a type, registered or in progress. -/
def findType (r : Registry τ) (t : τ) : Option (TypeDeclaration τ) :=
  match lookupType t r.types with
  | some d => some d
  | none => lookupType t r.inProgress

/-- The registered declaration of an enumeration. -/
def findEnum (r : Registry τ) (t : τ) : Option (EnumDeclaration τ) :=
  r.enums.find? fun d => d.source == t

/-- The registry after a declaration has been begun, or taken further while it is in progress. -/
def claimType (r : Registry τ) (d : TypeDeclaration τ) : Registry τ :=
  { r with inProgress := putType d r.inProgress }

/-- The registry after a declaration has got its place. -/
def registerType (r : Registry τ) (d : TypeDeclaration τ) : Registry τ :=
  { r with
    inProgress := r.inProgress.filter fun e => !(e.source == d.source)
    types := putType d r.types }

/-- The registry after an enumeration has got its place. -/
def registerEnum (r : Registry τ) (d : EnumDeclaration τ) : Registry τ :=
  { r with enums := putEnum d r.enums }

/-- The registry with the members of a registered type filled in. -/
def setMembers (r : Registry τ) (t : τ) (members : List MemberDeclaration) : Registry τ :=
  { r with
    types := r.types.map fun d => if d.source == t then { d with members := members } else d }

end Registry

end TypeProjection
