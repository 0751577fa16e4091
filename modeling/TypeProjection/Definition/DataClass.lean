import TypeProjection.Definition.ClassBuilding

/-!
Data classes: the constructor that a class gets from its fields. Nothing of it is ever declared,
but a class whose constructor cannot be made is refused.
-/

namespace TypeProjection.Definition

open Annotation

/-- How a data class is made. -/
structure DataOptions where
  isFrozen : Bool
  hasSlots : Bool
  isKeywordOnly : Bool

/-- A field put among others: it keeps its first place. -/
def putField (f : DataField) : List DataField → List DataField
  | [] => [f]
  | g :: rest => if g.name == f.name then f :: rest else g :: putField f rest

/-- What stands under a name in a class about to be made. -/
def inheritedAttribute? (w : World) (info : ClassInfo) (name : String) : Option Attribute :=
  match info.attributes.lookup name with
  | some a => some a
  | none =>
    info.ancestors.findSome? fun c => (w.attributesOf c).lookup name

/-- Is the attribute the trace of a slot? -/
def isSlot : Attribute → Bool
  | .value (.other "<slot>") => true
  | _ => false

/-- The default of a field, if it has one. -/
def fieldDefault? (w : World) (info : ClassInfo) (name : String) : Option Attribute :=
  (inheritedAttribute? w info name).filter fun a => !isSlot a

/-- The collection that a default is, which all instances would share. -/
def sharedDefault? (w : World) : Attribute → Option String
  | .value (.list _) => some (w.displayClass (builtin "list"))
  | .value (.dict _ _) => some (w.displayClass (builtin "dict"))
  | .value (.set _) => some (w.displayClass (builtin "set"))
  | _ => none

/-- The fields of a class about to be made, its ancestors' first. -/
def collectFields (w : World) (info : ClassInfo) : List DataField → List (String × Value) →
    Except Fault (List DataField)
  | fields, [] => .ok fields
  | fields, (name, annotation) :: rest =>
    if isClassVar annotation then collectFields w info fields rest
    else
      let default := fieldDefault? w info name
      match default.bind (sharedDefault? w) with
      | some shown =>
        .error (.wrongValue ("mutable default " ++ shown ++ " for field " ++ name ++
          " is not allowed: use default_factory"))
      | none => collectFields w info (putField ⟨name, default.isSome⟩ fields) rest

/-- Checks that no field without a default follows one with a default. -/
def checkFieldOrder : Bool → List DataField → Except Fault Unit
  | _, [] => .ok ()
  | seen, f :: rest =>
    if f.hasDefault then checkFieldOrder true rest
    else if seen then
      .error (.wrongType ("non-default argument " ++ Text.display f.name ++
        " follows default argument"))
    else checkFieldOrder false rest

/-- What slots leave in a class: fields keep no values. -/
def slotAttributes (info : ClassInfo) (fields : List DataField) : List (String × Attribute) :=
  let names := (info.annotations.map (·.1)).filter fun n => fields.any fun f => f.name == n
  info.attributes.filter (fun a => !names.contains a.1) ++
    names.map fun n => (n, .value (.other "<slot>"))

/-- A class made a data class. -/
def makeDataClass (w : World) (options : DataOptions) (info : ClassInfo) :
    Except Fault ClassInfo := do
  let above := info.ancestors.filterMap fun c => (w.info? c).bind ClassInfo.dataFields
  let inherited := above.reverse.foldl (fun all d => d.1.foldl (fun fs f => putField f fs) all) []
  if above.any (·.2) && !options.isFrozen then
    .error (.wrongType "cannot inherit non-frozen dataclass from a frozen one")
  else if options.isFrozen && !above.isEmpty && !above.any (·.2) then
    .error (.wrongType "cannot inherit frozen dataclass from a non-frozen one")
  else
    let fields ← collectFields w info inherited info.annotations
    if !options.isKeywordOnly then checkFieldOrder false fields
    return { info with
      dataFields := some (fields, options.isFrozen)
      attributes := if options.hasSlots then slotAttributes info fields else info.attributes }

end TypeProjection.Definition
