import TypeProjection.Registry
import TypeProjection.Supertypes

/-!
The walk over a universe that turns types into declarations. Resolving a type gives the text that
refers to it and builds, on the way, the structures it names; building a declaration resolves its
base, interfaces, type parameters and members. The two call each other, so each is written against
the calls it may make, and `calls` ties the knot with a bound on how deep they nest.

A type is claimed before anything else is resolved for it, and registered before its members are,
so every cycle through bases, interfaces, parameters or members comes back to a declaration that
exists. Running out of depth is `none`, never a part of an answer.
-/

namespace TypeProjection

/-- A step that changes the registry, or runs out of depth. -/
abbrev Walk (τ : Type) := StateT (Registry τ) Option

/-- The calls that a step may make. -/
structure Calls (τ : Type) where
  resolve : τ → Walk τ String
  build : τ → Walk τ (Option (TypeDeclaration τ))

namespace Walk

variable {τ : Type} [BEq τ]

/-- Reports an event. -/
def report (e : Event) : Walk τ Unit := modify fun r => r.report e

/-- Reports what a provider could not resolve. -/
def reportNotes (notes : List String) : Walk τ Unit :=
  notes.forM fun n => report (.unresolved n)

/-- Is the type skipped? -/
def isSkipped (U : Universe τ) (t : τ) : Walk τ Bool := do
  return (← get).options.skips (U.displayName t)

/-- The name as it is declared. -/
def renamed (name : String) : Walk τ String := do
  return (← get).options.rename name

/-- Parts of a union, each once. -/
def unionText (parts : List String) : String := String.intercalate " | " (distinct parts)

/-- The fields of an enumeration: one for each member, in order. -/
def enumFields (members : List (String × Literal)) : List EnumField :=
  members.map fun m => ⟨m.1, m.2.enumText⟩

/-- The declaration of an enumeration, made or found; nothing if it is skipped. -/
def buildEnum (U : Universe τ) (t : τ) : Walk τ (Option (EnumDeclaration τ)) := do
  if ← isSkipped U t then
    report (.skippedEnum (U.displayName t))
    return none
  else
    match (← get).findEnum t with
    | some d => return some d
    | none =>
      let d : EnumDeclaration τ := ⟨t, ← renamed (U.name t), enumFields (U.enumMembers t)⟩
      modify fun r => r.registerEnum d
      report (.declaredEnum d.name)
      return some d

/-- A key of a record type: anything but a string or a number counts as a string. -/
def recordKey (key : String) : String :=
  if key == "string" || key == "number" then key else "string"

/-- The reference to a structure: its name, its arguments if it is constructed, and the fallback
for each parameter if it is a bare definition. -/
def structureReference (U : Universe τ) (c : Calls τ) (t : τ) : Walk τ String := do
  match ← c.build t with
  | none => return fallbackReference
  | some d =>
    if U.isConstructed t then
      let arguments ← (U.arguments t).mapM c.resolve
      return d.name ++ "<" ++ String.intercalate ", " arguments ++ ">"
    else if U.isDefinition t then
      let arguments := (U.arguments t).map fun _ => fallbackReference
      return d.name ++ "<" ++ String.intercalate ", " arguments ++ ">"
    else return d.name

/-- The text that refers to a type. The questions are asked in a fixed order: parameter,
enumeration, override, scalar, union, sequence, mapping, tuple, structure. -/
def resolveStep (U : Universe τ) (c : Calls τ) (t : τ) : Walk τ String := do
  if U.isParameter t then renamed (U.name t)
  else if U.isEnum t then
    match ← buildEnum U t with
    | some d => return d.name
    | none => return fallbackReference
  else
    let options := (← get).options
    match options.overrides.lookup (U.displayName t) with
    | some reference => return reference
    | none =>
      match U.primitive t with
      | some kind => return kind.reference options.dates
      | none =>
        if !(U.union t).isEmpty then
          return unionText (← (U.union t).mapM c.resolve)
        else match U.element t with
        | some e => return "Array<" ++ (← c.resolve e) ++ ">"
        | none =>
          match U.keyValue t with
          | some (k, v) =>
            let key ← c.resolve k
            let value ← c.resolve v
            return "Record<" ++ recordKey key ++ ", " ++ value ++ ">"
          | none =>
            match U.tuple t with
            | some ts =>
              return "[" ++ String.intercalate ", " (← ts.mapM c.resolve) ++ "]"
            | none =>
              if U.isStructural t then structureReference U c t
              else return fallbackReference

/-- The reference to the base of a type, with the base itself if it is declared. A class without
such a base takes the default one; an interface never does. -/
def baseReference (U : Universe τ) (c : Calls τ) (t : τ) :
    Walk τ (Option String × Option τ) := do
  let fromDefault : Walk τ (Option String × Option τ) := do
    match (← get).options.defaultBase with
    | none => return (none, none)
    | some choose =>
      if U.isInterface t then return (none, none)
      else return ((choose t).filter (· != ""), none)
  match U.base t with
  | none => fromDefault
  | some b =>
    if U.isStructural b then
      match ← c.build b with
      | some _ => return (some (← c.resolve b), some b)
      | none => fromDefault
    else fromDefault

/-- The definitions that need no mention because the base or a candidate extends them. -/
def implied (U : Universe τ) (candidates : List τ) (base : Option τ) : Walk τ (List τ) := do
  let fromBase ← match base with
    | none => pure []
    | some b => do
      let above ← StateT.lift (U.supertypes b)
      pure (U.definition b :: above)
  let fromCandidates ← candidates.mapM fun t => StateT.lift (U.supertypes t)
  return fromBase ++ fromCandidates.flatten

/-- The references to those candidates that are neither implied nor listed before. -/
def interfaceReferencesFrom (U : Universe τ) (c : Calls τ) (implied : List τ) :
    List τ → List τ → Walk τ (List String)
  | _, [] => return []
  | listed, t :: rest => do
    let d := U.definition t
    if implied.contains d || listed.contains d then
      interfaceReferencesFrom U c implied listed rest
    else if !U.isStructural t then interfaceReferencesFrom U c implied (d :: listed) rest
    else
      match ← c.build t with
      | none => interfaceReferencesFrom U c implied (d :: listed) rest
      | some _ =>
        let reference ← c.resolve t
        return reference :: (← interfaceReferencesFrom U c implied (d :: listed) rest)

/-- The references to the interfaces of a type, without those that its base or another interface
implies. -/
def interfaceReferences (U : Universe τ) (c : Calls τ) (t : τ) (base : Option τ) :
    Walk τ (List String) := do
  let implied ← implied U (U.interfaces t) base
  interfaceReferencesFrom U c implied [] (U.interfaces t)

/-- The references to the bounds of a parameter. A skipped bound and one that refers to anything
are left out. -/
def boundReferences (U : Universe τ) (c : Calls τ) : List τ → Walk τ (List String)
  | [] => return []
  | b :: rest => do
    let kept ← if U.isStructural b then (do return (← c.build b).isSome) else pure true
    if kept then
      let reference ← c.resolve b
      let others ← boundReferences U c rest
      return if reference == fallbackReference then others else reference :: others
    else boundReferences U c rest

/-- A part of a constraint, in parentheses if it is a union. -/
def groupUnion (part : String) : String :=
  if Text.contains " | ".toList part.toList then "(" ++ part ++ ")" else part

/-- The constraint that all parts hold; a union is put in parentheses unless it stands alone. -/
def constraintText (parts : List String) : String :=
  String.intercalate " & " (if 1 < parts.length then parts.map groupUnion else parts)

/-- The part that asks for a constructor without parameters. -/
def constructorPart (name : String) : String := "\x7b new(): " ++ name ++ " \x7d"

/-- A parameter as it is declared: its name, and what it extends if anything is asked of it. -/
def typeParameter (U : Universe τ) (c : Calls τ) (asInterface : Bool) (p : τ) :
    Walk τ String := do
  let name ← renamed (U.name p)
  reportNotes (U.boundNotes p)
  let bounds ← boundReferences U c (U.bounds p)
  reportNotes (U.alternativeNotes p)
  let alternatives ← (U.alternatives p).mapM c.resolve
  let parts := bounds ++ (if alternatives.isEmpty then [] else [unionText alternatives]) ++
    (if U.needsConstructor p && !asInterface then [constructorPart name] else [])
  return if parts.isEmpty then name else name ++ " extends " ++ constraintText parts

/-- The parameters of a definition, as they are declared. -/
def typeParameters (U : Universe τ) (c : Calls τ) (asInterface : Bool) (t : τ) :
    Walk τ (List String) := do
  if U.isDefinition t then (U.arguments t).mapM (typeParameter U c asInterface) else return []

/-- The members of a type, each with the reference to its type. -/
def memberDeclarations (U : Universe τ) (c : Calls τ) (t : τ) :
    Walk τ (List MemberDeclaration) := do
  reportNotes (U.memberNotes t)
  (U.members t).mapM fun m => do return ⟨m.1, ← c.resolve m.2⟩

/-- Declares a type that has no declaration yet. -/
def declareType (U : Universe τ) (c : Calls τ) (t : τ) : Walk τ (TypeDeclaration τ) := do
  let asInterface := U.isInterface t || (← get).options.interfacesOnly
  let begun : TypeDeclaration τ :=
    { TypeDeclaration.bare t (← renamed (U.name t)) with
      kind := if asInterface then .interfaceKind else .classKind
      isAbstract := U.isAbstract t && !asInterface }
  modify fun r => r.claimType begun
  let (baseText, base) ← baseReference U c t
  let interfaces ← interfaceReferences U c t base
  let named := (baseText.filter (· != "")).toList
  let placed : TypeDeclaration τ :=
    { begun with
      bases := if asInterface then named ++ interfaces else named
      implements := if asInterface then [] else interfaces }
  modify fun r => r.claimType placed
  let parameters ← typeParameters U c asInterface t
  let headed : TypeDeclaration τ := { placed with typeParameters := parameters }
  modify fun r => r.registerType headed
  let members ← memberDeclarations U c t
  modify fun r => r.setMembers t members
  report (.declaredType headed.kind headed.name)
  return { headed with members := members }

/-- The declaration of a structure, made or found; nothing if its type is skipped. A constructed
type stands for its definition. -/
def buildStep (U : Universe τ) (c : Calls τ) (t : τ) : Walk τ (Option (TypeDeclaration τ)) := do
  if ← isSkipped U t then
    report (.skippedType (U.displayName t))
    return none
  else
    let d := if U.isConstructed t then U.definition t else t
    match (← get).findType d with
    | some found => return some found
    | none => return some (← declareType U c d)

end Walk

open Walk in
/-- The calls that may nest to a depth. -/
def calls {τ : Type} [BEq τ] (U : Universe τ) : Nat → Calls τ
  | 0 => ⟨fun _ _ => none, fun _ _ => none⟩
  | depth + 1 =>
    ⟨fun t r => resolveStep U (calls U depth) t r, fun t r => buildStep U (calls U depth) t r⟩

namespace Universe

variable {τ : Type} [BEq τ]

/-- The calls that may nest as deep as the universe asks for. -/
def calls (U : Universe τ) : Calls τ := TypeProjection.calls U U.depth

/-- The text that refers to a type. -/
def resolve (U : Universe τ) (t : τ) : Walk τ String := U.calls.resolve t

/-- The declaration of a structure. -/
def build (U : Universe τ) (t : τ) : Walk τ (Option (TypeDeclaration τ)) := U.calls.build t

/-- Declares a root. A root that is neither an enumeration nor a structure is reported. -/
def declareRoot (U : Universe τ) (t : τ) : Walk τ Unit := do
  if U.isEnum t then
    let _ ← Walk.buildEnum U t
  else if U.isStructural t then
    let _ ← U.build t
  else Walk.report (.ignoredRoot (U.displayName t))

/-- Declares the roots in order. -/
def declareRoots (U : Universe τ) (roots : List τ) : Walk τ Unit := roots.forM U.declareRoot

/-- The registry of a run over the roots. -/
def collect (U : Universe τ) (options : Options τ) (roots : List τ) : Option (Registry τ) :=
  ((U.declareRoots roots).run (Registry.fresh options)).map (·.2)

end Universe

end TypeProjection
