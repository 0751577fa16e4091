import TypeProjection.Annotation.Value

/-!
Descriptors: handles of the objects that annotations stand for. Two descriptors are equal if they
are of one object or of equal values. The hash of a descriptor is that of its value; a value that
holds a changeable collection has none, and the identity of the object stands in for it. An identity
tells apart what is alive at one moment, and no more: it may come back when its object is gone.
-/

namespace TypeProjection.Annotation

/-- The hashes of what values are made of. A class, a variable or any other object with an identity
has a hash of its own; otherwise the hash follows from the parts, and equal numbers have one hash.
The order of hashes counts in a tuple, but not in a set. -/
structure Hashing where
  absent : Int
  ellipsis : Int
  number : Int ⊕ Binary64 → Int
  text : String → Int
  bytes : List Nat → Int
  cls : ClassRef → Int
  typeVar : Nat → Int
  paramSpec : Nat → Int
  newType : Nat → Int
  form : String → Int
  aliased : String → Int
  member : ClassRef → String → Int
  function : String → String → Int
  module : String → Int
  /-- The class of a literal, by the word for its kind. -/
  kind : String → Int
  /-- An object that equals only itself. -/
  single : Value → Int
  ordered : List Int → Int
  unordered : List Int → Int
  /-- A class and its arguments, as they were written. -/
  native : Int → Int → Int
  number_congr : ∀ m n, Literal.sameNumber m n = true → number m = number n
  unordered_congr : ∀ hs ks : List Int, hs.Perm ks → unordered hs = unordered ks

namespace Value

/-- The items of a list that no earlier item equals. -/
def firstsBy {α : Type} (equal : α → α → Bool) : List α → List α
  | [] => []
  | x :: xs => x :: (firstsBy equal xs).filter fun y => !equal x y

/-- Are two literals equal as members of a set of literals? -/
def sameLiteral (x y : Value) : Bool := x.same y && x.kindWord == y.kindWord

variable (h : Hashing)

/-- The hash of a value, if it has one. -/
def hash? : Value → Option Int
  | .none => some h.absent
  | .ellipsis => some h.ellipsis
  | .bool b => some (h.number (.inl (if b then 1 else 0)))
  | .int n => some (h.number (.inl n))
  | .float x => some (h.number (.inr x))
  | .str s => some (h.text s)
  | .bytes bs => some (h.bytes bs)
  | .list _ | .set _ | .dict _ _ => Option.none
  | .tuple xs => (hashes? xs).map h.ordered
  | .cls c => some (h.cls c)
  | .typeVar i => some (h.typeVar i)
  | .paramSpec i => some (h.paramSpec i)
  | .newType i => some (h.newType i)
  | .form s => some (h.form s)
  | .alias s => some (h.aliased s)
  | .applied _ c xs => (hashes? xs).map fun hs => h.ordered [h.cls c, h.ordered hs]
  | .native c xs => (hashes? xs).map fun hs => h.native (h.cls c) (h.ordered hs)
  | .looseCallable xs =>
    (hashes? xs).map fun hs => h.native (h.cls callableRoot) (h.ordered hs)
  | .formed s xs =>
    (hashes? xs).map fun hs =>
      if s == "Literal" then
        h.unordered ((firstsBy (fun a b => a.1.sameLiteral b.1) (xs.zip hs)).map fun a =>
          h.ordered [a.2, h.kind a.1.kindWord])
      else h.ordered [h.form s, h.ordered hs]
  | .union _ xs =>
    (hashes? xs).map fun hs =>
      h.unordered ((firstsBy (fun a b => a.1.same b.1) (xs.zip hs)).map (·.2))
  | .annotated x notes =>
    match hash? x with
    | some k => (hashes? notes).map fun hs => h.ordered [k, h.ordered hs]
    | Option.none => Option.none
  | .forward s m _ => some (h.ordered [h.text s, h.text m])
  | .initVar x => some (h.single (.initVar x))
  | .member c s => some (h.member c s)
  | .function m s => some (h.function m s)
  | .module s => some (h.module s)
  | .other s => some (h.single (.other s))
where
  /-- The hashes of some values, if all have one. -/
  hashes? : List Value → Option (List Int)
    | [] => some []
    | x :: xs =>
      match hash? x with
      | some k => (hashes? xs).map (k :: ·)
      | Option.none => Option.none

end Value

/-- The objects of a process, each with its value, and when it is alive. Objects that are alive at
one moment have identities of their own; one that is gone may leave its identity to a later one. -/
structure Objects where
  value : Nat → Value
  identity : Nat → Int
  alive : Nat → Nat → Prop
  apart : ∀ moment i j, alive i moment → alive j moment → identity i = identity j → i = j

namespace Objects

/-- Are the descriptors of two objects equal? -/
def equal (o : Objects) (i j : Nat) : Bool := i == j || (o.value i).same (o.value j)

/-- The hash of the descriptor of an object. -/
def hash (o : Objects) (h : Hashing) (i : Nat) : Int :=
  ((o.value i).hash? h).getD (o.identity i)

end Objects

end TypeProjection.Annotation
