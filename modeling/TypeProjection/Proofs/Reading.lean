import TypeProjection.Proofs.Outcome

/-!
# Reading a reference without a registry

`shape` answers the questions that a reference depends on, in their order, and `reading` writes
the reference from the shapes of a type and of its parts. No registry enters: only the universe,
the options and a bound on how deep parts nest, and running out of that depth is `none`.
-/

namespace TypeProjection

/-- How a type is referred to. -/
inductive Shape (τ : Type) where
  | parameter
  | enumeration
  | overridden (reference : String)
  | scalar (kind : PrimitiveKind)
  | union (members : List τ)
  | sequence (element : τ)
  | mapping (key value : τ)
  | tuple (elements : List τ)
  | declared
  | unknown

namespace Universe

variable {τ : Type}

/-- The type under which a declaration is filed: the definition of a constructed type, and any
other type itself. -/
def normal (U : Universe τ) (t : τ) : τ := if U.isConstructed t then U.definition t else t

/-- Is the type skipped? -/
def skipped (U : Universe τ) (o : Options τ) (t : τ) : Bool := o.skips (U.displayName t)

/-- The first question of the fixed order that a type answers. -/
def shape (U : Universe τ) (o : Options τ) (t : τ) : Shape τ :=
  if U.isParameter t then .parameter
  else if U.isEnum t then .enumeration
  else
    match o.overrides.lookup (U.displayName t) with
    | some reference => .overridden reference
    | none =>
      match U.primitive t with
      | some kind => .scalar kind
      | none =>
        if !(U.union t).isEmpty then .union (U.union t)
        else match U.element t with
        | some e => .sequence e
        | none =>
          match U.keyValue t with
          | some (k, v) => .mapping k v
          | none =>
            match U.tuple t with
            | some ts => .tuple ts
            | none => if U.isStructural t then .declared else .unknown

/-- What a shape says about the answers of its type. -/
def Fits (U : Universe τ) (t : τ) : Shape τ → Prop
  | .enumeration => U.isEnum t = true
  | .union ts => ts = U.union t
  | .sequence e => U.element t = some e
  | .mapping k v => U.keyValue t = some (k, v)
  | .tuple ts => U.tuple t = some ts
  | .declared => U.isStructural t = true
  | _ => True

theorem shape_fits (U : Universe τ) (o : Options τ) (t : τ) : U.Fits t (U.shape o t) := by
  unfold shape
  split
  · trivial
  split
  · assumption
  split
  · trivial
  split
  · trivial
  split
  · rfl
  split
  · assumption
  split
  · assumption
  split
  · assumption
  split
  · assumption
  · trivial

/-- Only a structure is declared, and only after every other question. -/
theorem isStructural_of_shape {U : Universe τ} {o : Options τ} {t : τ}
    (h : U.shape o t = .declared) : U.isStructural t = true := by
  have hf := U.shape_fits o t
  rwa [h] at hf

theorem isEnum_of_shape {U : Universe τ} {o : Options τ} {t : τ}
    (h : U.shape o t = .enumeration) : U.isEnum t = true := by
  have hf := U.shape_fits o t
  rwa [h] at hf

/-- The text of a list of arguments. -/
def argumentText (arguments : List String) : String :=
  "<" ++ String.intercalate ", " arguments ++ ">"

/-- The reference to a type whose parts are read by `read`. -/
def readingFrom (U : Universe τ) (o : Options τ) (read : τ → Option String) (t : τ) :
    Option String :=
  match U.shape o t with
  | .parameter => some (o.rename (U.name t))
  | .enumeration => some (if U.skipped o t then fallbackReference else o.rename (U.name t))
  | .overridden reference => some reference
  | .scalar kind => some (kind.reference o.dates)
  | .union ts => (ts.mapM read).map Walk.unionText
  | .sequence e => (read e).map fun s => "Array<" ++ s ++ ">"
  | .mapping k v => do
    let key ← read k
    let value ← read v
    return "Record<" ++ Walk.recordKey key ++ ", " ++ value ++ ">"
  | .tuple ts => (ts.mapM read).map fun items => "[" ++ String.intercalate ", " items ++ "]"
  | .declared =>
    let name := o.rename (U.name (U.normal t))
    if U.skipped o t then some fallbackReference
    else if U.isConstructed t then
      ((U.arguments t).mapM read).map fun items => name ++ argumentText items
    else if U.isDefinition t then
      some (name ++ argumentText ((U.arguments t).map fun _ => fallbackReference))
    else some name
  | .unknown => some fallbackReference

/-- The reference to a type, its parts read to a depth. -/
def reading (U : Universe τ) (o : Options τ) : Nat → τ → Option String
  | 0 => fun _ => none
  | depth + 1 => U.readingFrom o (U.reading o depth)

end Universe

namespace Walk

variable {τ : Type} [BEq τ]

/-- The text that refers to a type of a known shape. -/
def resolveShape (U : Universe τ) (c : Calls τ) (t : τ) : Shape τ → Walk τ String
  | .parameter => renamed (U.name t)
  | .enumeration => do
    match ← buildEnum U t with
    | some d => return d.name
    | none => return fallbackReference
  | .overridden reference => return reference
  | .scalar kind => do return kind.reference (← get).options.dates
  | .union ts => do return unionText (← ts.mapM c.resolve)
  | .sequence e => do return "Array<" ++ (← c.resolve e) ++ ">"
  | .mapping k v => do
    let key ← c.resolve k
    let value ← c.resolve v
    return "Record<" ++ recordKey key ++ ", " ++ value ++ ">"
  | .tuple ts => do return "[" ++ String.intercalate ", " (← ts.mapM c.resolve) ++ "]"
  | .declared => structureReference U c t
  | .unknown => return fallbackReference

/-- Resolving a type asks for its shape once and then follows it. -/
theorem resolveStep_eq (U : Universe τ) (c : Calls τ) (t : τ) (r : Registry τ) :
    resolveStep U c t r = resolveShape U c t (U.shape r.options t) r := by
  unfold resolveStep Universe.shape
  cases U.isParameter t with
  | true => rfl
  | false =>
  cases U.isEnum t with
  | true => rfl
  | false =>
  simp only [Bool.false_eq_true, ↓reduceIte]
  change (match r.options.overrides.lookup (U.displayName t) with
    | some reference => pure reference
    | none => _ : Walk τ String) r = _
  cases r.options.overrides.lookup (U.displayName t) with
  | some reference => rfl
  | none =>
  cases U.primitive t with
  | some kind => rfl
  | none =>
  cases !(U.union t).isEmpty with
  | true => rfl
  | false =>
  simp only [Bool.false_eq_true, ↓reduceIte]
  cases U.element t with
  | some e => rfl
  | none =>
  cases U.keyValue t with
  | some kv => rfl
  | none =>
  cases U.tuple t with
  | some ts => rfl
  | none =>
  cases U.isStructural t with
  | true => rfl
  | false => rfl

end Walk

end TypeProjection
