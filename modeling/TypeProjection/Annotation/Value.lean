import TypeProjection.Literal

/-!
Values: what an annotation stands for once it has been evaluated. Classes, variables and the names
given to other types are known by a reference; all else is its parts.

`same` is the equality of values. It ignores the order of a union's alternatives and how the union
was written, and it compares numbers by value. `isHashable` says which values can be keys: a value
that holds a changeable collection cannot, so two such values are never one key.
-/

namespace TypeProjection.Annotation

/-- A class: one that every program finds, or one that a module declared. Every run of a
declaration makes a new class. -/
inductive ClassRef where
  | library (module name : String)
  | declared (serial : Nat)
  deriving DecidableEq, Repr, Inhabited

/-- The class at the root of all. -/
def ClassRef.root : ClassRef := .library "builtins" "object"

/-- The class of callables. -/
def callableRoot : ClassRef := .library "collections.abc" "Callable"

/-- Are two references equal as values? The two base classes of protocols are. -/
def ClassRef.equals : ClassRef → ClassRef → Bool
  | .library "typing_extensions" "Protocol", .library "typing" "Protocol" => true
  | .library "typing" "Protocol", .library "typing_extensions" "Protocol" => true
  | c, d => c == d

/-- What an annotation can stand for. -/
inductive Value where
  | none
  | ellipsis
  | bool (value : Bool)
  | int (value : Int)
  | float (value : Binary64)
  | str (value : String)
  | bytes (value : List Nat)
  | list (items : List Value)
  | tuple (items : List Value)
  | set (items : List Value)
  | dict (keys values : List Value)
  | cls (c : ClassRef)
  /-- A type variable. -/
  | typeVar (serial : Nat)
  /-- A variable for a list of parameters. -/
  | paramSpec (serial : Nat)
  /-- A name of its own for another type. -/
  | newType (serial : Nat)
  /-- A special word such as `Optional`, without arguments. -/
  | form (name : String)
  /-- A generic name for a library class, without arguments. -/
  | alias (name : String)
  /-- A class with arguments; the name is empty unless a generic name was used. -/
  | applied (name : String) (origin : ClassRef) (arguments : List Value)
  /-- A class with arguments that are kept as they were written. -/
  | native (origin : ClassRef) (arguments : List Value)
  /-- A special word with arguments. -/
  | formed (name : String) (arguments : List Value)
  /-- A callable whose parameters and result stand in one list, also when it is displayed. -/
  | looseCallable (arguments : List Value)
  /-- One of several types; `piped` if it was written with bars between classes. -/
  | union (piped : Bool) (members : List Value)
  /-- A type with notes on it. -/
  | annotated (inner : Value) (notes : List Value)
  /-- A text that stands for a type. -/
  | forward (text : String) (module : String) (allowsForms : Bool)
  /-- A parameter of a constructor that is no field. -/
  | initVar (inner : Value)
  /-- A member of an enumeration. -/
  | member (owner : ClassRef) (name : String)
  | function (module name : String)
  | module (name : String)
  /-- A value known by its display alone. -/
  | other (display : String)
  deriving Inhabited, Repr

namespace Value

/-- The class of absent values. -/
def noneType : Value := .cls (.library "builtins" "NoneType")

/-- The type of anything. -/
def any : Value := .cls (.library "typing" "Any")

/-- The number that a value counts as. -/
def number? : Value → Option (Int ⊕ Binary64)
  | .bool b => some (.inl (if b then 1 else 0))
  | .int n => some (.inl n)
  | .float x => some (.inr x)
  | _ => Option.none

/-- A word for the kind of a value, by which equal literals of different kinds are told apart. -/
def kindWord : Value → String
  | .bool _ => "bool"
  | .int _ => "int"
  | .float _ => "float"
  | .str _ => "str"
  | .bytes _ => "bytes"
  | .none => "NoneType"
  | .cls _ => "type"
  | _ => ""

/-- Do the tests hold item by item? -/
def itemwise : List (Value → Bool) → List Value → Bool
  | [], [] => true
  | p :: ps, y :: ys => p y && itemwise ps ys
  | _, _ => false

/-- Does every test hold of some item, and of every item some test? -/
def mutually {α : Type} (ps : List (α → Bool)) (ys : List α) : Bool :=
  ps.all (fun p => ys.any p) && ys.all fun y => ps.any fun p => p y

/-- The tests of literals: equality alone does not tell a literal of another kind apart. -/
def kindTests (xs : List Value) (ps : List (Value → Bool)) : List (Value → Bool) :=
  List.zipWith (fun x p y => p y && x.kindWord == y.kindWord) xs ps

/-- The tests of entries: of the key and of the value. -/
def entryTests (ps qs : List (Value → Bool)) : List (Value × Value → Bool) :=
  List.zipWith (fun p q e => p e.1 && q e.2) ps qs

/-- Are two values equal? -/
def same : Value → Value → Bool
  | .none, y => match y with
    | .none => true
    | _ => false
  | .ellipsis, y => match y with
    | .ellipsis => true
    | _ => false
  | .bool b, y => sameAsNumber (.inl (if b then 1 else 0)) y
  | .int n, y => sameAsNumber (.inl n) y
  | .float x, y => sameAsNumber (.inr x) y
  | .str s, y => match y with
    | .str t => s == t
    | _ => false
  | .bytes s, y => match y with
    | .bytes t => s == t
    | _ => false
  | .list xs, y => match y with
    | .list ys => itemwise (tests xs) ys
    | _ => false
  | .tuple xs, y => match y with
    | .tuple ys => itemwise (tests xs) ys
    | _ => false
  | .set xs, y => match y with
    | .set ys => mutually (tests xs) ys
    | _ => false
  | .dict ks vs, y => match y with
    | .dict js ws => mutually (entryTests (tests ks) (tests vs)) (js.zip ws)
    | _ => false
  | .cls c, y => match y with
    | .cls d => c.equals d
    | _ => false
  | .typeVar i, y => match y with
    | .typeVar j => i == j
    | _ => false
  | .paramSpec i, y => match y with
    | .paramSpec j => i == j
    | _ => false
  | .newType i, y => match y with
    | .newType j => i == j
    | _ => false
  | .form s, y => match y with
    | .form t => s == t
    | _ => false
  | .alias s, y => match y with
    | .alias t => s == t
    | _ => false
  | .applied _ c xs, y => match y with
    | .applied _ d ys => c.equals d && itemwise (tests xs) ys
    | _ => false
  | .native c xs, y => match y with
    | .native d ys => c.equals d && itemwise (tests xs) ys
    | .looseCallable ys => c.equals callableRoot && itemwise (tests xs) ys
    | _ => false
  | .looseCallable xs, y => match y with
    | .native d ys => d.equals callableRoot && itemwise (tests xs) ys
    | .looseCallable ys => itemwise (tests xs) ys
    | _ => false
  | .formed s xs, y => match y with
    | .formed t ys =>
      s == t &&
        (if s == "Literal" then mutually (kindTests xs (tests xs)) ys
        else itemwise (tests xs) ys)
    | _ => false
  | .union _ xs, y => match y with
    | .union _ ys => mutually (tests xs) ys
    | _ => false
  | .annotated x xs, y => match y with
    | .annotated z ys => x.same z && itemwise (tests xs) ys
    | _ => false
  | .forward s m _, y => match y with
    | .forward t n _ => s == t && m == n
    | _ => false
  | .initVar _, _ => false
  | .member c s, y => match y with
    | .member d t => c == d && s == t
    | _ => false
  | .function m s, y => match y with
    | .function n t => m == n && s == t
    | _ => false
  | .module s, y => match y with
    | .module t => s == t
    | _ => false
  | .other _, _ => false
where
  /-- Is the value a number, and this one? -/
  sameAsNumber (n : Int ⊕ Binary64) (y : Value) : Bool :=
    match y.number? with
    | some m => Literal.sameNumber n m
    | Option.none => false
  /-- The equality with each of the items. -/
  tests : List Value → List (Value → Bool)
    | [] => []
    | x :: xs => x.same :: tests xs

/-- Can the value be a key? -/
def isHashable : Value → Bool
  | .list _ | .set _ | .dict _ _ => false
  | .tuple xs | .applied _ _ xs | .native _ xs | .looseCallable xs | .formed _ xs
  | .union _ xs => allHashable xs
  | .annotated x xs => x.isHashable && allHashable xs
  | _ => true
where
  allHashable : List Value → Bool
    | [] => true
    | x :: xs => x.isHashable && allHashable xs

/-- Are two values one key? -/
def sameKey (x y : Value) : Bool := x.same y && x.isHashable && y.isHashable

/-- The values of a list, each at its first occurrence only. -/
def distinctValues (xs : List Value) : List Value :=
  (xs.foldl (fun kept x => if kept.any (fun y => y.same x) then kept else x :: kept) []).reverse

/-- Literals, each at its first occurrence only; those of different kinds are kept apart. -/
def distinctLiterals (xs : List Value) : List Value :=
  (xs.foldl (fun kept x =>
    if kept.any (fun y => y.same x && y.kindWord == x.kindWord) then kept else x :: kept)
    []).reverse

/-- A text as a value; one with surrogates is known by its display. -/
def ofPoints (ps : List Text.Point) : Value :=
  match Text.ofPoints? ps with
  | some s => .str s
  | Option.none => .other (Text.displayPoints ps)

/-- A literal as a value. -/
def ofLiteral : Literal → Value
  | .none => .none
  | .bool b => .bool b
  | .int n => .int n
  | .float x => .float x
  | .str ps => ofPoints ps
  | .bytes bs => .bytes bs
  | .list items => .list (ofLiterals items)
  | .tuple items => .tuple (ofLiterals items)
  | .other d => .other d
where
  ofLiterals : List Literal → List Value
    | [] => []
    | x :: xs => ofLiteral x :: ofLiterals xs

end Value

/-- Types are looked up by their keys. -/
instance : BEq Value := ⟨Value.sameKey⟩

end TypeProjection.Annotation
