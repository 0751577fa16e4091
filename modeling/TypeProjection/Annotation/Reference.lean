import TypeProjection.Annotation.Evaluate

/-!
Texts that stand for types. Such a text is evaluated where it was written: in the names of a class
and then in those of a module. What comes out may hold further texts, which are evaluated the same
way, but never a text inside of its own evaluation: that one stays as it is.
-/

namespace TypeProjection.Annotation

/-- The names that a text can use. -/
structure Surroundings where
  locals : List (String × Value)
  globals : List (String × Value)

namespace Surroundings

/-- The scope of an expression. -/
def scope (s : Surroundings) : Scope := ⟨[s.locals, s.globals], none⟩

/-- The surroundings of a text that belongs to a module of its own. -/
def inModule (s : Surroundings) (w : World) (module : String) : Surroundings :=
  match w.loaded? module with
  | some m => { s with globals := m.names }
  | none => s

end Surroundings

/-- A text on the way to its type: what is written, the module it belongs to if it has one of its
own, and whether plain special words may come out. -/
structure Pending where
  text : String
  module : String
  allowsForms : Bool

namespace World

/-- A plain text as a reference to a type. -/
def referred : Value → Value
  | .str s => .forward s "" false
  | v => v

/-- A value with the texts inside of it replaced by their types. A callable kept as written becomes
a loose one if that changes it. -/
def resolveParts (w : World) (resolve : Pending → Except Fault Value) :
    Value → Except Fault Value
  | .forward text module allowsForms => resolve ⟨text, module, allowsForms⟩
  | .applied name origin arguments => do
    return .applied name origin (← resolveAll w resolve arguments)
  | .native origin arguments => do
    let resolved ← resolveNative w resolve arguments
    let written := arguments.map referred
    if origin == callableRoot && !(Value.tuple written).same (.tuple resolved) then
      return .looseCallable resolved
    else return .native origin resolved
  | .looseCallable arguments => do return .looseCallable (← resolveNative w resolve arguments)
  | .formed "Literal" arguments => .ok (.formed "Literal" arguments)
  | .formed name arguments => do return .formed name (← resolveAll w resolve arguments)
  | .union piped members => do
    let resolved ← resolveAll w resolve members
    if (Value.tuple members).same (.tuple resolved) then return .union piped members
    else if piped then w.pipeAll resolved
    else w.checkedUnion resolved
  | .annotated inner notes => do w.annotate (← resolveParts w resolve inner) notes
  | v => .ok v
where
  resolveAll (w : World) (resolve : Pending → Except Fault Value) :
      List Value → Except Fault (List Value)
    | [] => .ok []
    | v :: vs => do
      let first ← resolveParts w resolve v
      return first :: (← resolveAll w resolve vs)
  /-- Among arguments that were kept as written, a plain text stands for a type. -/
  resolveNative (w : World) (resolve : Pending → Except Fault Value) :
      List Value → Except Fault (List Value)
    | [] => .ok []
    | .str s :: vs => do
      let first ← resolve ⟨s, "", false⟩
      return first :: (← resolveNative w resolve vs)
    | v :: vs => do
      let first ← resolveParts w resolve v
      return first :: (← resolveNative w resolve vs)

/-- The expression of a text. -/
def expressionOf (text : String) : Except Fault Expr :=
  match Expr.ofText? text with
  | some e => .ok e
  | none =>
    .error (.badSyntax ("Forward reference must be an expression -- got " ++
      Text.display text))

/-- The type that a text inside of a type stands for. -/
def resolvePending (w : World) : Nat → Surroundings → List String → Pending → Except Fault Value
  | 0, _, _, _ => .error .endless
  | fuel + 1, names, seen, p => do
    let e ← expressionOf p.text
    if seen.contains p.text then return .forward p.text p.module p.allowsForms
    else
      let names := if p.module == "" then names else names.inModule w p.module
      let v ← w.evaluate names.scope e
      let v ← w.checkType
        { message := "Forward references must evaluate to types.", allowsForms := p.allowsForms } v
      w.resolveParts (resolvePending w fuel names (p.text :: seen)) v

/-- What a text says at first sight: the meaning of a name, or the value of an expression. -/
def readText (w : World) (names : Surroundings) (text : String) : Except Fault Value := do
  let e ← expressionOf text
  if Text.isIdentifier text.toList && !Reader.keywords.contains text then
    match Scope.find? names.scope.spaces text with
    | some v => return v
    | none => .error (.unknownText text)
  else w.evaluate names.scope e

/-- The type that a text stands for. A text that says another text stands for what that one
does. -/
def resolveText (w : World) : Nat → Surroundings → List String → Pending → Except Fault Value
  | 0, _, _, _ => .error .endless
  | fuel + 1, names, seen, p => do
    if seen.contains p.text then return .forward p.text p.module p.allowsForms
    else
      match ← w.readText names p.text with
      | .str s => resolveText w fuel names seen ⟨s, "", false⟩
      | .forward s m f =>
        let names := if m == "" then names else names.inModule w m
        resolveText w fuel names seen ⟨s, m, f⟩
      | v => w.resolveParts (w.resolvePending fuel names (p.text :: seen)) v

/-- How many texts may stand for one another. -/
def textLimit : Nat := 200

/-- The type that an annotation stands for in a module, and possibly among the names of a class.
An annotation that is no text stands for itself. -/
def resolveAnnotation (w : World) (locals : List (String × Value)) (module : String) (v : Value) :
    Except Fault Value :=
  let names : Surroundings := ⟨locals, w.namesOf module⟩
  match v with
  | .str s => w.resolveText textLimit names [] ⟨s, "", false⟩
  | .forward s m f => w.resolveText textLimit names [] ⟨s, m, f⟩
  | v => .ok v

/-- The text of an annotation that is one. -/
def annotationText? : Value → Option String
  | .str s => some (Text.stripString s)
  | .forward s _ _ => some s
  | _ => none

/-- What is reported of an annotation that cannot be resolved. -/
def unresolvedNote (v : Value) (module : String) (f : Fault) : String :=
  "Unresolved annotation " ++
    (match annotationText? v with
      | some s => Text.display s
      | none => "None") ++ " in " ++ module ++ ": " ++ f.shown

/-- An annotation resolved as far as possible, with a note if it cannot be: then it may be
anything. -/
def annotationType (w : World) (locals : List (String × Value)) (module : String) (v : Value) :
    Value × List String :=
  match w.resolveAnnotation locals module v with
  | .ok t => (t, [])
  | .error f => (Value.any, [unresolvedNote v module f])

end World

end TypeProjection.Annotation
