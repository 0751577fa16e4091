import Mathlib.Data.List.Forall2
import TypeProjection.Proofs.AnnotationKeys
import TypeProjection.Proofs.Heritage
import TypeProjection.Proofs.Reference
import TypeProjection.Proofs.Respelling

/-!
# The grammar of references

A reference is a keyword, a replacement, the name of a parameter, of an enumeration or of a type
with its arguments, or it is built from references by the words for arrays, records, tuples and
unions. `Vocabulary` says which names may be used, and with how many arguments. The names are those
of the registry: at a call those of the types that are declared or about to be, after a run those
of the declared types alone.
-/

namespace TypeProjection

/-- The words that a reference may use beside the keywords. A type stands with a number of
arguments. -/
structure Vocabulary where
  replacement : String → Prop
  parameter : String → Prop
  enumeration : String → Prop
  type : String → Nat → Prop

/-- The words for scalars. -/
def scalarWords : List String := ["boolean", "number", "string", "Date", "null", "any"]

open Universe (argumentText) in
/-- The references over a vocabulary. -/
inductive Vocabulary.Generates (V : Vocabulary) : String → Prop
  | scalar {s : String} : s ∈ scalarWords → Generates V s
  | replacement {s : String} : V.replacement s → Generates V s
  | parameter {s : String} : V.parameter s → Generates V s
  | enumeration {s : String} : V.enumeration s → Generates V s
  | type {s : String} : V.type s 0 → Generates V s
  | applied {name : String} {arguments : List String} : V.type name arguments.length →
      arguments ≠ [] → (∀ a ∈ arguments, Generates V a) →
      Generates V (name ++ argumentText arguments)
  | array {s : String} : Generates V s → Generates V ("Array<" ++ s ++ ">")
  | record {key s : String} : key = "string" ∨ key = "number" → Generates V s →
      Generates V ("Record<" ++ key ++ ", " ++ s ++ ">")
  | tuple {items : List String} : items ≠ [] → (∀ s ∈ items, Generates V s) →
      Generates V ("[" ++ String.intercalate ", " items ++ "]")
  | union {items : List String} : items ≠ [] → (∀ s ∈ items, Generates V s) →
      Generates V (String.intercalate " | " items)

theorem mapM_eq_some {α β : Type} {f : α → Option β} {xs : List α} {ys : List β}
    (h : xs.mapM f = some ys) : List.Forall₂ (fun x y => f x = some y) xs ys := by
  induction xs generalizing ys with
  | nil =>
    cases h
    exact .nil
  | cons x xs ih =>
    rw [List.mapM_cons] at h
    obtain ⟨y, hy, h⟩ := Option.bind_eq_some_iff.mp h
    obtain ⟨zs, hzs, h⟩ := Option.bind_eq_some_iff.mp h
    cases h
    exact .cons hy (ih hzs)

theorem exists_of_forall₂ {α β : Type} {R : α → β → Prop} {xs : List α} {ys : List β}
    (h : List.Forall₂ R xs ys) {y : β} (hy : y ∈ ys) : ∃ x ∈ xs, R x y := by
  induction h with
  | nil => exact (List.not_mem_nil hy).elim
  | cons hxy _ ih =>
    rcases List.mem_cons.mp hy with rfl | hy
    · exact ⟨_, List.mem_cons_self .., hxy⟩
    · obtain ⟨x, hx, hr⟩ := ih hy
      exact ⟨x, List.mem_cons_of_mem _ hx, hr⟩

theorem mem_of_lookup {α β : Type} [BEq α] [LawfulBEq α] {k : α} {v : β} {xs : List (α × β)}
    (h : xs.lookup k = some v) : (k, v) ∈ xs := by
  induction xs with
  | nil => cases h
  | cons x xs ih =>
    rw [List.lookup_cons] at h
    split at h
    · rename_i hk
      cases h
      cases eq_of_beq hk
      exact List.mem_cons_self ..
    · exact List.mem_cons_of_mem _ (ih h)

theorem reference_mem_scalarWords (kind : PrimitiveKind) (dates : Bool) :
    kind.reference dates ∈ scalarWords := by
  cases kind <;> cases dates <;> decide

theorem recordKey_eq (key : String) :
    Walk.recordKey key = "string" ∨ Walk.recordKey key = "number" := by
  unfold Walk.recordKey
  split
  · rename_i h
    simpa using h
  · exact .inl rfl

namespace Vocabulary

variable {V : Vocabulary}

/-- Leaving out repetitions of the parts leaves at least one part. -/
theorem generates_unionText {items : List String} (hne : items ≠ [])
    (h : ∀ s ∈ items, V.Generates s) : V.Generates (Walk.unionText items) := by
  refine .union ?_ fun s hs => h s (mem_of_mem_distinct hs)
  cases items with
  | nil => exact absurd rfl hne
  | cons s items => exact List.cons_ne_nil _ _

end Vocabulary

namespace Universe

variable {τ : Type} {U : Universe τ} {o : Options τ} {n : Nat} {t u : τ}

/-- Lists that a reference puts between brackets are not empty. -/
structure Filled (U : Universe τ) : Prop where
  constructed : ∀ t, U.isConstructed t = true → U.arguments t ≠ []
  definition : ∀ t, U.isConstructed t = false → U.isDefinition t = true → U.arguments t ≠ []
  tuple : ∀ t ts, U.tuple t = some ts → ts ≠ []

/-- The types whose references stand in the reference to a type: itself, and what stands in the
references to its parts. -/
inductive Occurs (U : Universe τ) (o : Options τ) : τ → τ → Prop
  | self {t : τ} : Occurs U o t t
  | part {t p u : τ} : p ∈ U.parts o t → Occurs U o p u → Occurs U o t u

/-- How many arguments stand behind the name of a structure. -/
def arity (U : Universe τ) (t : τ) : Nat :=
  if U.isConstructed t || U.isDefinition t then (U.arguments t).length else 0

/-- The vocabulary has the words that a type contributes by itself. -/
def Admits (U : Universe τ) (o : Options τ) (V : Vocabulary) (t : τ) : Prop :=
  match U.shape o t with
  | .parameter => V.parameter (o.rename (U.name t))
  | .overridden reference => V.replacement reference
  | .enumeration => U.skipped o t = false → V.enumeration (o.rename (U.name t))
  | .declared => U.skipped o t = false → V.type (o.rename (U.name (U.normal t))) (U.arity t)
  | _ => True

/-- The words that a type contributes by itself, the keywords apart. -/
def words (U : Universe τ) (o : Options τ) (t : τ) : List String :=
  match U.shape o t with
  | .parameter => [o.rename (U.name t)]
  | .overridden reference => [reference]
  | .enumeration => if U.skipped o t then [] else [o.rename (U.name t)]
  | .declared => if U.skipped o t then [] else [o.rename (U.name (U.normal t))]
  | _ => []

/-- What the shapes of parameters, replaced types and unions say about their types. -/
theorem shape_answers (U : Universe τ) (o : Options τ) (t : τ) :
    match U.shape o t with
    | .parameter => U.isParameter t = true
    | .overridden reference => o.overrides.lookup (U.displayName t) = some reference
    | .union ts => ts ≠ []
    | _ => True := by
  unfold shape
  cases U.isParameter t with
  | true => rfl
  | false =>
  cases U.isEnum t with
  | true => trivial
  | false =>
  cases o.overrides.lookup (U.displayName t) with
  | some reference => rfl
  | none =>
  cases U.primitive t with
  | some kind => trivial
  | none =>
  cases hu : !(U.union t).isEmpty with
  | true =>
    intro hnil
    rw [hnil] at hu
    exact Bool.noConfusion hu
  | false =>
  cases U.element t with
  | some e => trivial
  | none =>
  rcases U.keyValue t with _ | ⟨k, v⟩
  · cases U.tuple t with
    | some ts => trivial
    | none => cases U.isStructural t <;> trivial
  · trivial

/-- What an occurring structure or enumeration needs is met by the reference. -/
theorem Occurs.meets {i : Item τ} (h : U.Occurs o t u) (hu : U.Meets o u i) : U.Meets o t i := by
  induction h with
  | self => exact hu
  | part hp _ ih => exact .part hp (ih hu)

/-- What holds of a type and passes on to parts holds of all that occurs. -/
theorem Occurs.closed {P : τ → Prop} (h : U.Occurs o t u)
    (hP : ∀ t, P t → ∀ p ∈ U.parts o t, P p) (ht : P t) : P u := by
  induction h with
  | self => exact ht
  | part hp _ ih => exact ih (hP _ ht _ hp)

/-- References have a property if the words in them have it and every form passes it on from its
parts: arrays, records, tuples, unions, and structures with their arguments. -/
structure Inherits (U : Universe τ) (o : Options τ) (t : τ) (P : String → Prop) : Prop where
  scalar : ∀ s ∈ scalarWords, P s
  parameter : ∀ u, U.Occurs o t u → U.shape o u = .parameter → P (o.rename (U.name u))
  overridden : ∀ u s, U.Occurs o t u → U.shape o u = .overridden s → P s
  enumeration : ∀ u, U.Occurs o t u → U.shape o u = .enumeration → U.skipped o u = false →
    P (o.rename (U.name u))
  named : ∀ u, U.Occurs o t u → U.shape o u = .declared → U.skipped o u = false →
    (U.isConstructed u || U.isDefinition u) = false → P (o.rename (U.name (U.normal u)))
  applied : ∀ u items, U.Occurs o t u → U.shape o u = .declared → U.skipped o u = false →
    (U.isConstructed u || U.isDefinition u) = true → items.length = (U.arguments u).length →
      (∀ a ∈ items, P a) → P (o.rename (U.name (U.normal u)) ++ argumentText items)
  array : ∀ s, P s → P ("Array<" ++ s ++ ">")
  record : ∀ key s, key = "string" ∨ key = "number" → P s →
    P ("Record<" ++ key ++ ", " ++ s ++ ">")
  tuple : ∀ u ts items, U.Occurs o t u → U.tuple u = some ts → items.length = ts.length →
    (∀ s ∈ items, P s) → P ("[" ++ String.intercalate ", " items ++ "]")
  union : ∀ items, items ≠ [] → (∀ s ∈ items, P s) → P (Walk.unionText items)

section Inheritance

variable {P : String → Prop}

theorem Inherits.part {p : τ} (h : U.Inherits o t P) (hp : p ∈ U.parts o t) : U.Inherits o p P where
  scalar := h.scalar
  parameter u hu := h.parameter u (.part hp hu)
  overridden u s hu := h.overridden u s (.part hp hu)
  enumeration u hu := h.enumeration u (.part hp hu)
  named u hu := h.named u (.part hp hu)
  applied u items hu := h.applied u items (.part hp hu)
  array := h.array
  record := h.record
  tuple u ts items hu := h.tuple u ts items (.part hp hu)
  union := h.union

theorem Inherits.fallback (h : U.Inherits o t P) : P fallbackReference :=
  h.scalar _ (reference_mem_scalarWords .any false)

/-- A reference to a structure has what those to its arguments have. -/
theorem Inherits.declared {read : τ → Option String} {s : String} (hP : U.Inherits o t P)
    (hs : U.shape o t = .declared)
    (hparts : ∀ p ∈ U.parts o t, ∀ s, read p = some s → P s)
    (h : U.readingFrom o read t = some s) : P s := by
  unfold readingFrom at h
  rw [hs] at h
  dsimp only at h
  cases hk : U.skipped o t with
  | true =>
    rw [if_pos hk] at h
    cases h
    exact hP.fallback
  | false =>
    rw [hk, if_neg Bool.false_ne_true] at h
    cases hc : U.isConstructed t with
    | true =>
      rw [if_pos hc] at h
      obtain ⟨items, hitems, rfl⟩ := Option.map_eq_some_iff.mp h
      have hread := mapM_eq_some hitems
      have hp : U.parts o t = U.arguments t := by
        unfold parts
        rw [hs]
        dsimp only
        rw [hk, hc]
        rfl
      refine hP.applied t items .self hs hk (by rw [hc]; rfl) hread.length_eq.symm fun a ha => ?_
      obtain ⟨p, hmem, ha⟩ := exists_of_forall₂ hread ha
      exact hparts p (hp ▸ hmem) a ha
    | false =>
      rw [hc, if_neg Bool.false_ne_true] at h
      cases hd : U.isDefinition t with
      | true =>
        rw [if_pos hd] at h
        cases h
        refine hP.applied t _ .self hs hk (by rw [hc, hd]; rfl) (List.length_map ..) fun a ha => ?_
        obtain ⟨_, _, rfl⟩ := List.mem_map.mp ha
        exact hP.fallback
      | false =>
        rw [hd, if_neg Bool.false_ne_true] at h
        cases h
        exact hP.named t .self hs hk (by rw [hc, hd]; rfl)

/-- What references inherit, the reference to a type has. The induction is on the depth to which the
parts are read. -/
theorem Inherits.reading {s : String} (hP : U.Inherits o t P) (h : U.reading o n t = some s) :
    P s := by
  induction n generalizing t s with
  | zero => cases h
  | succ n ih =>
    have hparts : ∀ p ∈ U.parts o t, ∀ s, U.reading o n p = some s → P s :=
      fun p hp s hs => ih (hP.part hp) hs
    have hfits := U.shape_fits o t
    have hanswers := U.shape_answers o t
    cases hs : U.shape o t with
    | declared => exact hP.declared hs hparts h
    | parameter =>
      simp only [Universe.reading, readingFrom, hs] at h
      cases h
      exact hP.parameter t .self hs
    | overridden reference =>
      simp only [Universe.reading, readingFrom, hs] at h
      cases h
      exact hP.overridden t _ .self hs
    | enumeration =>
      simp only [Universe.reading, readingFrom, hs] at h
      cases hk : U.skipped o t with
      | true =>
        rw [hk] at h
        cases h
        exact hP.fallback
      | false =>
        rw [hk] at h
        cases h
        exact hP.enumeration t .self hs hk
    | scalar kind =>
      simp only [Universe.reading, readingFrom, hs] at h
      cases h
      exact hP.scalar _ (reference_mem_scalarWords kind o.dates)
    | unknown =>
      simp only [Universe.reading, readingFrom, hs] at h
      cases h
      exact hP.fallback
    | sequence e =>
      simp only [Universe.reading, readingFrom, hs] at h
      obtain ⟨s, hread, rfl⟩ := Option.map_eq_some_iff.mp h
      exact hP.array s (hparts e (by simp [parts, hs]) s hread)
    | mapping k v =>
      simp only [Universe.reading, readingFrom, hs] at h
      obtain ⟨key, hkey, h⟩ := Option.bind_eq_some_iff.mp h
      obtain ⟨value, hvalue, h⟩ := Option.bind_eq_some_iff.mp h
      cases h
      exact hP.record _ value (recordKey_eq key) (hparts v (by simp [parts, hs]) value hvalue)
    | tuple ts =>
      simp only [Universe.reading, readingFrom, hs] at h
      obtain ⟨items, hitems, rfl⟩ := Option.map_eq_some_iff.mp h
      have hread := mapM_eq_some hitems
      rw [hs] at hfits
      refine hP.tuple t ts items .self hfits hread.length_eq.symm fun a ha => ?_
      obtain ⟨p, hp, ha⟩ := exists_of_forall₂ hread ha
      exact hparts p (by simpa [parts, hs] using hp) a ha
    | union ts =>
      simp only [Universe.reading, readingFrom, hs] at h
      obtain ⟨items, hitems, rfl⟩ := Option.map_eq_some_iff.mp h
      have hread := mapM_eq_some hitems
      rw [hs] at hanswers
      refine hP.union items ?_ fun a ha => ?_
      · rintro rfl
        exact hanswers (List.forall₂_nil_right_iff.mp hread)
      · obtain ⟨p, hp, ha⟩ := exists_of_forall₂ hread ha
        exact hparts p (by simpa [parts, hs] using hp) a ha

end Inheritance

/-- References are generated by a vocabulary that has the words of the types that occur in them. -/
theorem inherits_generates {V : Vocabulary} (hU : U.Filled)
    (hV : ∀ u, U.Occurs o t u → U.Admits o V u) : U.Inherits o t V.Generates where
  scalar _ := .scalar
  parameter u hu hs := by
    have hword := hV u hu
    simp only [Admits, hs] at hword
    exact .parameter hword
  overridden u s hu hs := by
    have hword := hV u hu
    simp only [Admits, hs] at hword
    exact .replacement hword
  enumeration u hu hs hk := by
    have hword := hV u hu
    simp only [Admits, hs] at hword
    exact .enumeration (hword hk)
  named u hu hs hk hplain := by
    have hword := hV u hu
    simp only [Admits, hs, arity, hplain] at hword
    exact .type (hword hk)
  applied u items hu hs hk happlied hlength hitems := by
    have hword := hV u hu
    simp only [Admits, hs, arity, happlied, if_true, ← hlength] at hword
    refine .applied (hword hk) ?_ hitems
    rintro rfl
    have hnone : U.arguments u = [] := List.length_eq_zero_iff.mp hlength.symm
    cases hc : U.isConstructed u with
    | true => exact hU.constructed u hc hnone
    | false =>
      rw [hc, Bool.false_or] at happlied
      exact hU.definition u hc happlied hnone
  array _ := .array
  record _ _ := .record
  tuple u ts items _ hts hlength := by
    refine .tuple ?_
    rintro rfl
    exact hU.tuple u ts hts (List.length_eq_zero_iff.mp hlength.symm)
  union _ := Vocabulary.generates_unionText

/-- The reference to a type is generated by the words of the types that occur in it. -/
theorem generates_reading {V : Vocabulary} (hU : U.Filled) {s : String}
    (hV : ∀ u, U.Occurs o t u → U.Admits o V u) (h : U.reading o n t = some s) :
    V.Generates s :=
  (inherits_generates hU hV).reading h

/-- The references in a declaration are generated. A default base is what the options say, and a
parameter is its name with the references in its constraint. -/
structure Worded (U : Universe τ) (o : Options τ) (V : Vocabulary) (d : TypeDeclaration τ) :
    Prop where
  heritage : ∀ s ∈ d.bases ++ d.implements, V.Generates s ∨
    U.emittedBase o d.source = none ∧ U.defaultBaseText o d.source = some s
  parameters : ∀ s ∈ d.typeParameters, ∃ p ∈ U.arguments d.source, ∃ bounds alternatives,
    (∀ b ∈ bounds ++ alternatives, V.Generates b) ∧
    s = U.parameterText o (U.isInterface d.source || o.interfacesOnly) p bounds alternatives
  members : ∀ m ∈ d.members, V.Generates m.reference

variable [BEq τ]

/-- The types to which a declaration refers: the base and the interfaces in its header, the bounds
and alternatives of its parameters, and its members. -/
inductive Refers (U : Universe τ) (o : Options τ) (k : τ) : τ → Prop
  | base {b : τ} : U.emittedBase o k = some b → Refers U o k b
  | interface {ts : List τ} {t : τ} : U.survivors o k = some ts → t ∈ ts → Refers U o k t
  | bound {p b : τ} : U.isDefinition k = true → p ∈ U.arguments k →
      b ∈ (U.bounds p).filter (U.keptBound o) → Refers U o k b
  | alternative {p a : τ} : U.isDefinition k = true → p ∈ U.arguments k →
      a ∈ U.alternatives p → Refers U o k a
  | member {m : String × τ} : m ∈ U.members k → Refers U o k m.2

/-- What a reference in a declaration meets, the declaration needs. -/
theorem Refers.needs {k : τ} {i : Item τ} (h : U.Refers o k t) (hi : U.Meets o t i) :
    U.Needs o k i := by
  cases h with
  | base hb => exact .inl (.base hb (.below hi))
  | interface hs ht => exact .inl (.interface hs ht (.below hi))
  | bound hd hp hb => exact .inl (.bound hd hp hb (.below hi))
  | alternative hd hp ha => exact .inl (.alternative hd hp ha hi)
  | member hm => exact .inr ⟨_, hm, hi⟩

/-- A record whose references are read from generated ones is worded. -/
theorem worded_of_record {V : Vocabulary} {d : TypeDeclaration τ}
    (h : U.declaration o n d.source = some d)
    (hV : ∀ t s, U.Refers o d.source t → U.reading o n t = some s → V.Generates s) :
    U.Worded o V d := by
  obtain ⟨ts, hsurvivors, base, refs, hbase, hrefs, hheritage⟩ := lists_of_record h
  obtain ⟨_, _, h⟩ := Option.bind_eq_some_iff.mp h
  obtain ⟨_, _, h⟩ := Option.bind_eq_some_iff.mp h
  obtain ⟨parameters, hparameters, h⟩ := Option.bind_eq_some_iff.mp h
  obtain ⟨members, hmembers, h⟩ := Option.bind_eq_some_iff.mp h
  have hd := Option.some_inj.mp h
  have htypeParameters : d.typeParameters = parameters := by rw [← hd]; rfl
  have hdmembers : d.members = members := by rw [← hd]
  constructor
  · intro s hs
    rw [hheritage, List.mem_append] at hs
    rcases hs with hs | hs
    · rw [Option.mem_toList, Option.filter_eq_some_iff] at hs
      unfold baseText at hbase
      cases hb : U.emittedBase o d.source with
      | some b =>
        rw [hb] at hbase
        obtain ⟨s', hread, hs'⟩ := Option.map_eq_some_iff.mp hbase
        rw [← hs', Option.some_inj] at hs
        exact .inl (hV b s (.base hb) (hs.1 ▸ hread))
      | none =>
        rw [hb, Option.some_inj] at hbase
        exact .inr ⟨rfl, hbase.trans hs.1⟩
    · obtain ⟨t, ht, hread⟩ := exists_of_forall₂ (mapM_eq_some hrefs) hs
      exact .inl (hV t s (.interface hsurvivors ht) hread)
  · intro s hs
    rw [htypeParameters] at hs
    unfold parameterTexts at hparameters
    cases hd : U.isDefinition d.source with
    | false =>
      rw [hd] at hparameters
      cases hparameters
      exact (List.not_mem_nil hs).elim
    | true =>
      rw [hd] at hparameters
      obtain ⟨p, hp, hread⟩ := exists_of_forall₂ (mapM_eq_some hparameters) hs
      obtain ⟨bounds, hbounds, hread⟩ := Option.bind_eq_some_iff.mp hread
      obtain ⟨alternatives, halternatives, hread⟩ := Option.bind_eq_some_iff.mp hread
      obtain ⟨kept, hkept, rfl⟩ := Option.map_eq_some_iff.mp hbounds
      cases hread
      refine ⟨p, hp, _, _, fun b hb => ?_, rfl⟩
      rcases List.mem_append.mp hb with hb | hb
      · obtain ⟨t, ht, hread⟩ :=
          exists_of_forall₂ (mapM_eq_some hkept) (List.mem_filter.mp hb).1
        exact hV t b (.bound hd hp ht) hread
      · obtain ⟨t, ht, hread⟩ := exists_of_forall₂ (mapM_eq_some halternatives) hb
        exact hV t b (.alternative hd hp ht) hread
  · intro m hm
    rw [hdmembers] at hm
    obtain ⟨member, hmember, hread⟩ := exists_of_forall₂ (mapM_eq_some hmembers) hm
    obtain ⟨reference, hreference, rfl⟩ := Option.map_eq_some_iff.mp hread
    exact hV member.2 reference (.member hmember) hreference

end Universe

/-- The words of a registry: what the options say, the registered enumerations, and the names of
some declared types, which may stand with any arguments. -/
def Registry.vocabulary {τ : Type} (U : Universe τ) (r : Registry τ)
    (declared : List (TypeDeclaration τ)) : Vocabulary where
  replacement s := ∃ name, (name, s) ∈ r.options.overrides
  parameter s := ∃ p, U.isParameter p = true ∧ s = r.options.rename (U.name p)
  enumeration s := ∃ e ∈ r.enums, e.name = s
  type s _ := ∃ d ∈ declared, d.name = s

namespace Universe

variable {τ : Type} [BEq τ] {U : Universe τ} {K : τ → Prop} {o : Options τ} {n : Nat} {t u : τ}
  {r : Registry τ}

/-- A registry has the words of a type if it has the declarations that the reference meets. -/
theorem admits_of_has (hU : U.Coherent K) (hr : U.Ready o r)
    (hhas : ∀ i, U.Meets o t i → r.Has i) (hu : U.Occurs o t u) :
    U.Admits o (r.vocabulary U (r.types ++ r.inProgress)) u := by
  have hanswers := U.shape_answers o u
  unfold Admits
  cases hs : U.shape o u with
  | parameter =>
    rw [hs] at hanswers
    exact ⟨u, hanswers, by rw [hr.options]⟩
  | overridden reference =>
    rw [hs] at hanswers
    exact ⟨U.displayName u, by rw [hr.options]; exact mem_of_lookup hanswers⟩
  | enumeration =>
    intro hk
    obtain ⟨e, he, heu⟩ := hhas _ (hu.meets (.enumeration hs hk))
    refine ⟨e, he, ?_⟩
    have hname : U.name e.source = U.name u := by
      rcases heu with rfl | heu
      · rfl
      · exact hU.enumName _ _ (isEnum_of_shape hs) heu
    rw [hr.named.enums e he, hr.options, hname]
  | declared =>
    intro hk
    obtain ⟨d, hd, hdu⟩ := hhas _ (hu.meets (.type hs hk))
    have halike := hU.alike _ _ (hU.structural u (isStructural_of_shape hs)) hdu
    exact ⟨d, hd, by rw [hr.named.types d hd, hr.options, halike.name]⟩
  | _ => trivial

/-- Whatever a call answers in the midst of a run is generated by the words of the registry that it
leaves. -/
theorem generates_of_resolve (hU : U.Coherent K) (hfilled : U.Filled) {s : String}
    {r' : Registry τ} (hr : U.Reached o r)
    (h : (TypeProjection.calls U n).resolve t r = some (s, r')) :
    (r'.vocabulary U (r'.types ++ r'.inProgress)).Generates s := by
  obtain ⟨hread, hserves⟩ := Walk.ends_loose.mp ((follow_calls hU o n).resolve t r hr.ready) s r' h
  have hr' : U.Ready o r' := hserves.ready hr.ready
  exact generates_reading hfilled (fun u hu => admits_of_has hU hr' hserves.has hu) hread

/-- After a run, nothing that a declaration needs is missing. -/
theorem has_of_needs (hU : U.Coherent K) {roots : List τ} (h : U.collect o roots = some r)
    {d : TypeDeclaration τ} (hd : d ∈ r.types) {i : Item τ} (hi : U.Needs o d.source i) :
    r.Has i := by
  have hpopulated := populated_of_collect hU h
  have hrequired := Reach.step (hpopulated.typesRequired d hd) not_false hi
  cases i with
  | type k =>
    obtain ⟨e, he, hek⟩ := hpopulated.typesFound k hrequired
    exact ⟨e, List.mem_append_left _ he, hek⟩
  | enumeration t => exact hpopulated.enumsFound t hrequired

/-- After a run, the references in each declaration are generated by the words of the registry. -/
theorem worded_of_collect (hU : U.Coherent K) (hfilled : U.Filled) {roots : List τ}
    (h : U.collect o roots = some r) {d : TypeDeclaration τ} (hd : d ∈ r.types) :
    U.Worded o (r.vocabulary U r.types) d := by
  have hpopulated := populated_of_collect hU h
  have hr : U.Ready o r := (serves_collect hU h).ready (ready_fresh U o)
  have hwords : r.types ++ r.inProgress = r.types := by
    rw [hpopulated.finished, List.append_nil]
  refine worded_of_record (hpopulated.records d hd) fun t s ht hread => ?_
  refine generates_reading hfilled (fun u hu => ?_) hread
  have hadmits := admits_of_has hU hr (fun i hi => has_of_needs hU h hd (ht.needs hi)) hu
  rwa [hwords] at hadmits

end Universe

namespace Annotation.World

open Universe

theorem types_filled (w : World) : w.types.Filled where
  constructed t hc := by
    change t.isConstructed = true at hc
    have hne : t.arguments ≠ [] := by
      unfold Value.isConstructed at hc
      split at hc
      · simpa using hc
      · exact Bool.noConfusion hc
    change (if t.isConstructed then t.arguments.map w.describe else _) ≠ []
    rw [if_pos hc]
    simpa using hne
  definition t hc hd := by
    change t.isConstructed = false at hc
    change (!(w.declaredParameters t).isEmpty) = true at hd
    change (if t.isConstructed then _ else (w.declaredParameters t).map w.describe) ≠ []
    rw [hc, if_neg Bool.false_ne_true]
    simpa using hd
  tuple t ts ht := by
    change w.tupleOf t = some ts at ht
    unfold tupleOf at ht
    split at ht
    · rename_i hcond
      cases ht
      simp only [Bool.and_eq_true] at hcond
      simpa using hcond.1.2
    · cases ht

/-- The answer of every call in the midst of a run is a reference over the types that are declared
or about to be, and after a run the references in headers and members are references over the
declared types. -/
theorem references_generated (w : World) (o : Options Value) :
    (∀ n t r s r', w.types.Reached o r → (calls w.types n).resolve t r = some (s, r') →
      (r'.vocabulary w.types (r'.types ++ r'.inProgress)).Generates s) ∧
    ∀ roots r, w.types.collect o roots = some r →
      ∀ d ∈ r.types, w.types.Worded o (r.vocabulary w.types r.types) d := by
  constructor
  · intro n t r s r' hr h
    exact generates_of_resolve (types_coherent w) (types_filled w) hr h
  · intro roots r h d hd
    exact worded_of_collect (types_coherent w) (types_filled w) h hd

/-- A generic class, and a class that holds boxes of itself. -/
def boxes : World where
  classes := #[
    { plainClass "Box" 0 [("item", .typeVar 0)] with
      subscription := some .generic
      parameters := [.typeVar 0] },
    plainClass "Holder" 1 [("box", .applied "" (.declared 0) [.cls (.declared 1)])]]
  typeVars := #[⟨"T", "models", .invariant, none, [], false⟩]
  paramSpecs := #[]
  newTypes := #[]
  modules := #[]
  current := []

/-- The box is referred to while its holder is only claimed, and a run declares both. -/
theorem references_generated_boxes :
    (∃ r', boxes.types.resolve (.applied "" (.declared 0) [.cls (.declared 1)])
        ((Registry.fresh Options.default).claimType
          (boxes.types.begun Options.default (.cls (.declared 1)))) = some ("Box<Holder>", r') ∧
      (r'.vocabulary boxes.types (r'.types ++ r'.inProgress)).Generates "Box<Holder>") ∧
    ∃ r, boxes.types.collect Options.default [.cls (.declared 1)] = some r ∧
      r.types.map (·.name) = ["Holder", "Box"] ∧
      ∀ d ∈ r.types, boxes.types.Worded Options.default (r.vocabulary boxes.types r.types) d := by
  constructor
  · have hrun : (boxes.types.resolve (.applied "" (.declared 0) [.cls (.declared 1)])
        ((Registry.fresh Options.default).claimType
          (boxes.types.begun Options.default (.cls (.declared 1))))).map (·.1) =
        some "Box<Holder>" := by decide +kernel
    obtain ⟨⟨s, r'⟩, hr', rfl⟩ := Option.map_eq_some_iff.mp hrun
    have hr := (Reached.fresh (U := boxes.types) (o := Options.default)).claimType
      (.cls (.declared 1))
    exact ⟨r', hr', (references_generated boxes Options.default).1 _ _ _ _ _ hr hr'⟩
  · have hrun : (boxes.types.collect Options.default [.cls (.declared 1)]).map
        (fun r => r.types.map (·.name)) = some ["Holder", "Box"] := by decide +kernel
    obtain ⟨r, hr, hnames⟩ := Option.map_eq_some_iff.mp hrun
    exact ⟨r, hr, hnames, (references_generated boxes Options.default).2 _ _ hr⟩

end Annotation.World

end TypeProjection
