import TypeProjection.Proofs.HeritageNames

/-!
# The one shape of a type

The questions that a reference depends on stand in a fixed order, and the first one that a type
answers decides. The order is not needed: a type of a world answers one of them at most, because the
classes behind the answers are different ones. So a walk that asks in any other order does the same,
as long as it asks all questions and leaves replaced types alone.
-/

namespace TypeProjection

/-- The questions that a reference depends on, but for the one that the options answer. -/
inductive Question where
  | parameter | enumeration | scalar | union | sequence | mapping | tuple | declared
  deriving DecidableEq, Repr

namespace Question

/-- All questions, in their order. -/
def all : List Question :=
  [.parameter, .enumeration, .scalar, .union, .sequence, .mapping, .tuple, .declared]

theorem mem_all (q : Question) : q ∈ all := by cases q <;> decide

end Question

namespace Universe

variable {τ : Type}

/-- The shape of a type that has an answer to a question. -/
def answer (U : Universe τ) (t : τ) : Question → Option (Shape τ)
  | .parameter => if U.isParameter t then some .parameter else none
  | .enumeration => if U.isEnum t then some .enumeration else none
  | .scalar => (U.primitive t).map .scalar
  | .union => if (U.union t).isEmpty then none else some (.union (U.union t))
  | .sequence => (U.element t).map .sequence
  | .mapping => (U.keyValue t).map fun kv => .mapping kv.1 kv.2
  | .tuple => (U.tuple t).map .tuple
  | .declared => if U.isStructural t then some .declared else none

/-- Has a type an answer to a question? -/
def Answers (U : Universe τ) (t : τ) (q : Question) : Prop := (U.answer t q).isSome

instance (U : Universe τ) (t : τ) (q : Question) : Decidable (U.Answers t q) :=
  inferInstanceAs (Decidable ((U.answer t q).isSome = true))

theorem answers_enumeration {U : Universe τ} {t : τ} :
    U.Answers t .enumeration ↔ U.isEnum t = true := by
  simp [Answers, answer]

theorem answers_declared {U : Universe τ} {t : τ} :
    U.Answers t .declared ↔ U.isStructural t = true := by
  simp [Answers, answer]

theorem answers_scalar {U : Universe τ} {t : τ} :
    U.Answers t .scalar ↔ (U.primitive t).isSome := by
  simp [Answers, answer]

theorem answers_sequence {U : Universe τ} {t : τ} :
    U.Answers t .sequence ↔ (U.element t).isSome := by
  simp [Answers, answer]

theorem answers_mapping {U : Universe τ} {t : τ} :
    U.Answers t .mapping ↔ (U.keyValue t).isSome := by
  simp [Answers, answer]

theorem answers_tuple {U : Universe τ} {t : τ} : U.Answers t .tuple ↔ (U.tuple t).isSome := by
  simp [Answers, answer]

/-- A type has an answer to one question at most. -/
def Single (U : Universe τ) (t : τ) : Prop := ∀ q q', U.Answers t q → U.Answers t q' → q = q'

/-- The shape of a type when the questions are asked in another order. A type that the options
replace keeps the fixed one. -/
def shapeIn (order : List Question) (U : Universe τ) (o : Options τ) (t : τ) : Shape τ :=
  match o.overrides.lookup (U.displayName t) with
  | some _ => U.shape o t
  | none => (order.findSome? (U.answer t)).getD .unknown

/-- Without a replacement, the shape is the first answer in the fixed order. -/
theorem shape_eq_first {U : Universe τ} {o : Options τ} {t : τ}
    (h : o.overrides.lookup (U.displayName t) = none) :
    U.shape o t = (Question.all.findSome? (U.answer t)).getD .unknown := by
  unfold shape Question.all
  rw [h]
  simp only [List.findSome?_cons, List.findSome?_nil, answer]
  cases U.isParameter t with
  | true => rfl
  | false =>
  cases U.isEnum t with
  | true => rfl
  | false =>
  cases U.primitive t with
  | some kind => rfl
  | none =>
  cases (U.union t).isEmpty with
  | false => rfl
  | true =>
  cases U.element t with
  | some e => rfl
  | none =>
  cases U.keyValue t with
  | some kv => rfl
  | none =>
  cases U.tuple t with
  | some ts => rfl
  | none =>
  cases U.isStructural t with
  | true => rfl
  | false => rfl

/-- Where one question is answered at most, the order of the questions does not matter. -/
theorem findSome?_answer_of_single {U : Universe τ} {t : τ} (hsingle : U.Single t)
    {order order' : List Question} (h : ∀ q, q ∈ order) (h' : ∀ q, q ∈ order') :
    order.findSome? (U.answer t) = order'.findSome? (U.answer t) := by
  cases hfirst : order.findSome? (U.answer t) with
  | none =>
    rw [List.findSome?_eq_none_iff] at hfirst
    exact (List.findSome?_eq_none_iff.mpr fun q _ => hfirst q (h q)).symm
  | some s =>
    obtain ⟨q, -, hq⟩ := List.exists_of_findSome?_eq_some hfirst
    cases hfirst' : order'.findSome? (U.answer t) with
    | none =>
      rw [List.findSome?_eq_none_iff] at hfirst'
      rw [hfirst' q (h' q)] at hq
      cases hq
    | some s' =>
      obtain ⟨q', -, hq'⟩ := List.exists_of_findSome?_eq_some hfirst'
      have hsame : q = q' :=
        hsingle q q' (Option.isSome_of_eq_some hq) (Option.isSome_of_eq_some hq')
      rw [← hq, ← hq', hsame]

theorem shapeIn_eq_shape {U : Universe τ} (hsingle : ∀ t, U.Single t) {order : List Question}
    (h : ∀ q, q ∈ order) : U.shapeIn order = U.shape := by
  funext o t
  unfold shapeIn
  cases hlookup : o.overrides.lookup (U.displayName t) with
  | some _ => rfl
  | none =>
    rw [shape_eq_first hlookup]
    exact congrArg (·.getD .unknown) (findSome?_answer_of_single (hsingle t) h Question.mem_all)

end Universe

namespace Walk

variable {τ : Type} [BEq τ]

/-- The text that refers to a type, with the questions asked in another order. -/
def resolveIn (order : List Question) (U : Universe τ) (c : Calls τ) (t : τ) : Walk τ String := do
  resolveShape U c t (U.shapeIn order (← get).options t)

end Walk

open Walk in
/-- The calls that may nest to a depth, with the questions asked in another order. -/
def callsIn {τ : Type} [BEq τ] (order : List Question) (U : Universe τ) : Nat → Calls τ
  | 0 => ⟨fun _ _ => none, fun _ _ => none⟩
  | depth + 1 =>
    ⟨fun t r => resolveIn order U (callsIn order U depth) t r,
      fun t r => buildStep U (callsIn order U depth) t r⟩

theorem callsIn_eq_calls {τ : Type} [BEq τ] {U : Universe τ} (hsingle : ∀ t, U.Single t)
    {order : List Question} (h : ∀ q, q ∈ order) (n : Nat) : callsIn order U n = calls U n := by
  induction n with
  | zero => rfl
  | succ n ih =>
    have hresolve : ∀ t r, Walk.resolveIn order U (calls U n) t r =
        Walk.resolveStep U (calls U n) t r := by
      intro t r
      rw [Walk.resolveStep_eq, ← Universe.shapeIn_eq_shape hsingle h]
      rfl
    unfold callsIn calls
    rw [ih]
    simp only [hresolve]

/-! The questions about values. -/

namespace Annotation

open Universe

/-- The classes behind the answers to a question. -/
def classesBehind : Question → List ClassRef
  | .scalar => World.scalarKinds.map Prod.fst
  | .union => [Value.unionClass]
  | .sequence => World.sequenceClasses ++ [builtin "tuple"]
  | .mapping => World.mappingClasses
  | .tuple => [builtin "tuple"]
  | _ => []

/-- Only tuples answer two of the questions by their class. -/
theorem classesBehind_apart {q q' : Question} {c : ClassRef} (h : c ∈ classesBehind q)
    (h' : c ∈ classesBehind q') (hne : q ≠ q') : c = builtin "tuple" := by
  have hall : Question.all.all fun q => Question.all.all fun q' =>
      q == q' || (classesBehind q).all fun c =>
        !(classesBehind q').contains c || c == builtin "tuple" := by decide
  have hq := List.all_eq_true.mp (List.all_eq_true.mp hall q q.mem_all) q' q'.mem_all
  rw [beq_eq_false_iff_ne.mpr hne, Bool.false_or] at hq
  have hc := List.all_eq_true.mp hq c h
  rw [List.contains_iff_mem.mpr h', Bool.not_true, Bool.false_or] at hc
  exact beq_iff_eq.mp hc

namespace World

variable {w : World} {t : Value} {q q' : Question} {c : ClassRef}

/-- Is the class one of the library that is no enumeration? -/
def isPlainLibraryClass : ClassRef → Bool
  | .library m n => !(libraryAncestors libraryDepth (.library m n)).contains enumRoot
  | .declared _ => false

/-- None of these classes is an enumeration. -/
theorem isEnumeration_of_mem_classesBehind (h : c ∈ classesBehind q) :
    w.isEnumeration c = false := by
  have hall : Question.all.all fun q => (classesBehind q).all isPlainLibraryClass := by
    decide +kernel
  have hc := List.all_eq_true.mp (List.all_eq_true.mp hall q q.mem_all) c h
  cases c with
  | library m n => exact Bool.not_eq_true' _ ▸ hc
  | declared i => cases hc

theorem class_of_elementOf {p : Value} (h : w.elementOf t = some p) :
    ∃ c, t.class? = some c ∧ (sequenceClasses.contains c = true ∨ c = builtin "tuple") := by
  unfold elementOf containerOf at h
  split at h
  · cases h
  · rename_i c hc
    split at h
    · exact ⟨c, hc, .inl ‹_›⟩
    · split at h
      · rename_i htuple
        exact ⟨c, hc, .inr (eq_of_beq (Bool.and_eq_true_iff.mp htuple).1)⟩
      · cases h

/-- The class of a type that answers one of these questions stands behind the answer. A union that
was not written with bars has no class. -/
theorem class_of_answers (h : w.types.Answers t q) (hparameter : q ≠ .parameter)
    (henum : q ≠ .enumeration) (hdeclared : q ≠ .declared) :
    (t.class? = none ∧ q = .union) ∨ ∃ c, t.class? = some c ∧ c ∈ classesBehind q := by
  cases q with
  | parameter => exact (hparameter rfl).elim
  | enumeration => exact (henum rfl).elim
  | declared => exact (hdeclared rfl).elim
  | scalar =>
    have hsome := answers_scalar.mp h
    cases t with
    | cls c =>
      obtain ⟨kind, hkind⟩ := Option.isSome_iff_exists.mp hsome
      have hmem := List.mem_map_of_mem (f := Prod.fst) (mem_of_lookup hkind)
      exact .inr ⟨c, Value.class?_cls c, hmem⟩
    | _ => cases hsome
  | union =>
    cases t with
    | union piped members =>
      cases piped with
      | false => exact .inl ⟨rfl, rfl⟩
      | true => exact .inr ⟨Value.unionClass, rfl, List.mem_singleton_self _⟩
    | _ => cases h
  | sequence =>
    obtain ⟨e, he⟩ := Option.isSome_iff_exists.mp (answers_sequence.mp h)
    obtain ⟨c, hc, hmem⟩ := class_of_elementOf he
    refine .inr ⟨c, hc, List.mem_append.mpr ?_⟩
    exact hmem.imp List.contains_iff_mem.mp fun hc => List.mem_singleton.mpr hc
  | mapping =>
    have hsome : (w.keyValueOf t).isSome := answers_mapping.mp h
    unfold keyValueOf containerOf at hsome
    cases hc : t.class? with
    | none => rw [hc] at hsome; cases hsome
    | some c =>
      rw [hc] at hsome
      dsimp only at hsome
      split at hsome
      · next hmem => exact .inr ⟨c, rfl, List.contains_iff_mem.mp hmem⟩
      · cases hsome
  | tuple =>
    have hsome : (w.tupleOf t).isSome := answers_tuple.mp h
    unfold tupleOf containerOf at hsome
    split at hsome
    · next hall =>
      have hc : t.class? = some (builtin "tuple") := by
        simp only [Bool.and_eq_true, beq_iff_eq] at hall
        exact hall.1.1
      exact .inr ⟨_, hc, List.mem_singleton_self _⟩
    · cases hsome

/-- A tuple is open or of fixed length. -/
theorem not_sequence_and_tuple (hsequence : w.types.Answers t .sequence)
    (htuple : w.types.Answers t .tuple) : False := by
  have hfixed : (w.tupleOf t).isSome := answers_tuple.mp htuple
  have hopen : (w.elementOf t).isSome := answers_sequence.mp hsequence
  unfold tupleOf at hfixed
  split at hfixed
  case isFalse => cases hfixed
  next hall =>
  simp only [Bool.and_eq_true, beq_iff_eq, Bool.not_eq_true'] at hall
  obtain ⟨⟨hc, harguments⟩, hellipsis⟩ := hall
  unfold elementOf at hopen
  have hlist : sequenceClasses.contains (builtin "tuple") = false := by decide
  rw [hc] at hopen
  simp only [hlist, harguments, hellipsis, Bool.or_false, Bool.and_false, Bool.false_eq_true,
    ↓reduceIte] at hopen
  cases hopen

/-- A variable is nothing but a variable. -/
theorem eq_parameter (h : w.types.Answers t .parameter) (h' : w.types.Answers t q) :
    q = .parameter := by
  cases t with
  | typeVar i => cases q <;> first | rfl | cases h'
  | _ => cases h

/-- An enumeration is nothing but an enumeration. -/
theorem eq_enumeration (h : w.types.Answers t .enumeration) (h' : w.types.Answers t q) :
    q = .enumeration := by
  have henum := answers_enumeration.mp h
  by_cases hparameter : q = .parameter
  · subst hparameter
    exact (eq_parameter h' h).symm
  by_cases hdeclared : q = .declared
  · subst hdeclared
    rw [(types_separated w).enumeration t (answers_declared.mp h')] at henum
    cases henum
  by_contra hq
  change (t.class?.map w.isEnumeration).getD false = true at henum
  rcases class_of_answers h' hparameter hq hdeclared with ⟨hc, -⟩ | ⟨c, hc, hmem⟩
  · rw [hc] at henum
    cases henum
  · rw [hc] at henum
    exact Bool.false_ne_true ((isEnumeration_of_mem_classesBehind hmem).symm.trans henum)

/-- A structure is nothing but a structure. -/
theorem eq_declared (h : w.types.Answers t .declared) (h' : w.types.Answers t q) :
    q = .declared := by
  have hs := answers_declared.mp h
  have hw := types_separated w
  unfold Answers at h'
  cases q with
  | declared => rfl
  | parameter => simp [answer, hw.parameter t hs] at h'
  | enumeration => simp [answer, hw.enumeration t hs] at h'
  | scalar => simp [answer, hw.primitive t hs] at h'
  | union => simp [answer, hw.union t hs] at h'
  | sequence => simp [answer, hw.element t hs] at h'
  | mapping => simp [answer, hw.keyValue t hs] at h'
  | tuple => simp [answer, hw.tuple t hs] at h'

/-- A type of a world answers one question at most. -/
theorem single_types (w : World) (t : Value) : w.types.Single t := by
  intro q q' h h'
  by_cases hparameter : q = .parameter ∨ q' = .parameter
  · rcases hparameter with rfl | rfl
    · exact (eq_parameter h h').symm
    · exact eq_parameter h' h
  by_cases henum : q = .enumeration ∨ q' = .enumeration
  · rcases henum with rfl | rfl
    · exact (eq_enumeration h h').symm
    · exact eq_enumeration h' h
  by_cases hdeclared : q = .declared ∨ q' = .declared
  · rcases hdeclared with rfl | rfl
    · exact (eq_declared h h').symm
    · exact eq_declared h' h
  rw [not_or] at hparameter henum hdeclared
  by_contra hne
  rcases class_of_answers h hparameter.1 henum.1 hdeclared.1 with ⟨hc, rfl⟩ | ⟨c, hc, hmem⟩
  · rcases class_of_answers h' hparameter.2 henum.2 hdeclared.2 with ⟨-, hq⟩ | ⟨d, hd, -⟩
    · exact hne hq.symm
    · rw [hc] at hd
      cases hd
  · rcases class_of_answers h' hparameter.2 henum.2 hdeclared.2 with ⟨hd, -⟩ | ⟨d, hd, hmem'⟩
    · rw [hc] at hd
      cases hd
    rw [hc, Option.some_inj] at hd
    subst hd
    have htuple := classesBehind_apart hmem hmem' hne
    subst htuple
    -- Open tuples and those of fixed length share their class.
    have hpair : ∀ q, builtin "tuple" ∈ classesBehind q → q = .sequence ∨ q = .tuple := by
      intro q hq
      cases q <;> first | exact .inl rfl | exact .inr rfl | exact absurd hq (by decide)
    rcases hpair q hmem with rfl | rfl <;> rcases hpair q' hmem' with rfl | rfl
    · exact hne rfl
    · exact not_sequence_and_tuple h h'
    · exact not_sequence_and_tuple h' h
    · exact hne rfl

/-- A bare class has no origin that was given arguments. -/
theorem not_isConstructed_cls (c : ClassRef) : (Value.cls c).isConstructed = false := by
  unfold Value.isConstructed Value.origin?
  dsimp only
  split
  · rfl
  · rfl

theorem definitionOf_idempotent (t : Value) : definitionOf (definitionOf t) = definitionOf t := by
  cases ht : t.isConstructed with
  | false =>
    have hself : definitionOf t = t := by rw [definitionOf, ht]; rfl
    rw [hself, hself]
  | true =>
    obtain ⟨c, hc⟩ : ∃ c, t.class? = some c := by
      unfold Value.isConstructed at ht
      split at ht
      · next c hc =>
        refine ⟨c, ?_⟩
        unfold Value.class?
        rw [hc]
      · cases ht
    have hcls : definitionOf t = .cls c := by rw [definitionOf, ht, hc]; rfl
    rw [hcls, definitionOf, not_isConstructed_cls]
    rfl

/-- An annotated type answers one question at most. It is never both a definition and made of one,
and its definition is its own. Hence the references and declarations of a world do not depend on
the order in which the questions are asked. -/
theorem one_shape (w : World) (v : Value) (order : List Question) (horder : ∀ q, q ∈ order) :
    w.types.Single (w.describe v) ∧
    ¬(w.types.isDefinition (w.describe v) = true ∧ w.types.isConstructed (w.describe v) = true) ∧
    w.types.definition (w.types.definition (w.describe v)) = w.types.definition (w.describe v) ∧
    callsIn order w.types = TypeProjection.calls w.types := by
  refine ⟨single_types w _, ?_, definitionOf_idempotent _, ?_⟩
  · rintro ⟨hdefinition, hconstructed⟩
    generalize w.describe v = t at hdefinition hconstructed
    cases t with
    | cls c => exact Bool.false_ne_true ((not_isConstructed_cls c).symm.trans hconstructed)
    | _ => cases hdefinition
  · exact funext fun n => callsIn_eq_calls (single_types w) horder n

/-- A list of numbers, or nothing. -/
def optionalList : Value := .union true [.native (builtin "list") [.cls (builtin "int")], .none]

/-- A union with bars is made of a class, but it is a union only. -/
theorem one_shape_optional :
    (∀ q, q ∈ Question.all.reverse) ∧ initial.types.Answers (initial.describe optionalList) .union ∧
    (∀ q, initial.types.Answers (initial.describe optionalList) q → q = .union) ∧
    callsIn Question.all.reverse initial.types = TypeProjection.calls initial.types := by
  have horder : ∀ q, q ∈ Question.all.reverse := fun q => List.mem_reverse.mpr q.mem_all
  have hunion : initial.types.Answers (initial.describe optionalList) .union := by decide
  obtain ⟨hsingle, -, -, hcalls⟩ := one_shape initial optionalList Question.all.reverse horder
  exact ⟨horder, hunion, fun q hq => hsingle q .union hq hunion, hcalls⟩

end World

end Annotation

end TypeProjection
