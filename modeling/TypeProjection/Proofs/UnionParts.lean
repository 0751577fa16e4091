import TypeProjection.Proofs.Coherence
import TypeProjection.Proofs.DistinctLists
import TypeProjection.Proofs.NestedTexts
import TypeProjection.Proofs.ReferenceGrammar

/-!
# The parts of unions

A union is written from the texts of its alternatives, each text once. An alternative that is a
union behind a name is written before its parts are known to stand in a union, so what is left out
are whole texts and not parts of them: the parts of the written union are those of the flattened
alternatives, but a part that two different texts have is written for both (`merges_unionText`).
-/

namespace TypeProjection

/-! ### Parts of texts -/

open Nesting

/-- The parts of a reference: what stands between bars outside of all brackets. -/
def unionParts (s : String) : List String := (cut '|' s.toList).map String.ofList

/-- A text that can be part of a union: it closes the brackets that it opens, and no others, and
does not end in the midst of a separator. -/
def Joinable (s : String) : Prop := Standalone '|' s.toList

instance (s : String) : Decidable (Joinable s) :=
  inferInstanceAs (Decidable (Standalone '|' s.toList))

namespace Joinable

variable {s : String} {items : List String}

theorem parts_separated (h : Joinable s) (rest : String) :
    unionParts (s ++ " | " ++ rest) = unionParts s ++ unionParts rest := by
  unfold unionParts
  rw [String.toList_append, String.toList_append, List.append_assoc]
  exact (congrArg _ (h.cut_separated (by decide) (by decide))).trans (List.map_append ..)

/-- The parts of joined texts are the parts of each. -/
theorem parts_joined (hne : items ≠ []) (h : ∀ s ∈ items, Joinable s) :
    unionParts (String.intercalate " | " items) = items.flatMap unionParts := by
  induction items with
  | nil => exact absurd rfl hne
  | cons s items ih =>
    obtain ⟨hs, hitems⟩ := List.forall_mem_cons.mp h
    cases items with
    | nil => rw [String.intercalate_singleton, List.flatMap_singleton]
    | cons t items =>
      rw [String.intercalate_cons_cons, hs.parts_separated, List.flatMap_cons,
        ih (List.cons_ne_nil _ _) hitems]

theorem joined (hne : items ≠ []) (h : ∀ s ∈ items, Joinable s) :
    Joinable (String.intercalate " | " items) := by
  induction items with
  | nil => exact absurd rfl hne
  | cons s items ih =>
    obtain ⟨hs, hitems⟩ := List.forall_mem_cons.mp h
    cases items with
    | nil => rwa [String.intercalate_singleton]
    | cons t items =>
      unfold Joinable
      rw [String.intercalate_cons_cons, String.toList_append, String.toList_append,
        List.append_assoc]
      exact hs.balanced.separated (by decide) (by decide) (ih (List.cons_ne_nil _ _) hitems)

end Joinable

open Universe

/-! ### Joinable references -/

/-- A text that ends in a bracket with something balanced in it. -/
theorem joinable_closed {s : String} {inner : List Char} {closer : Char} (front : List Char)
    (opener : Char)
    (htext : s.toList = front ++ (opener :: inner ++ [closer]))
    (hopen : closer? opener = some closer) (hclose : closer? closer = none)
    (hcloser : isCloser closer = true) (hmark : closer ≠ '|') (hfront : Balanced front)
    (hinner : Balanced inner) : Joinable s := by
  unfold Joinable
  rw [htext, ← List.append_assoc]
  refine Balanced.standalone ?_ hmark
  rw [List.append_assoc]
  exact hfront.append (hinner.enclosed hopen hclose hcloser)

theorem balanced_listed {items : List String} (h : ∀ s ∈ items, Balanced s.toList) :
    Balanced (String.intercalate ", " items).toList := by
  induction items with
  | nil => exact balanced_nil
  | cons s items ih =>
    obtain ⟨hs, hitems⟩ := List.forall_mem_cons.mp h
    cases items with
    | nil => rwa [String.intercalate_singleton]
    | cons t items =>
      rw [String.intercalate_cons_cons, String.toList_append, String.toList_append]
      exact (hs.append (by decide)).append (ih hitems)

namespace Universe

variable {τ : Type} {U : Universe τ} {o : Options τ} {n : Nat} {t : τ}

/-- References are joinable if the words in them are. -/
theorem inherits_joinable (h : ∀ u, U.Occurs o t u → ∀ s ∈ U.words o u, Joinable s) :
    U.Inherits o t Joinable where
  scalar := by decide
  parameter u hu hs := h u hu _ (by simp [words, hs])
  overridden u s hu hs := h u hu _ (by simp [words, hs])
  enumeration u hu hs hk := h u hu _ (by simp [words, hs, hk])
  named u hu hs hk _ := h u hu _ (by simp [words, hs, hk])
  applied u items hu hs hk _ _ hitems := by
    have hname : Joinable (o.rename (U.name (U.normal u))) := h u hu _ (by simp [words, hs, hk])
    refine joinable_closed _ '<' (by simp [argumentText]) rfl rfl rfl (by decide) hname.balanced
      (balanced_listed fun s hs => (hitems s hs).balanced)
  array s hs := joinable_closed "Array".toList '<' (by simp) rfl rfl rfl
    (by decide) (by decide) hs.balanced
  record key s hkey hs := by
    have hinner : Balanced (key ++ ", " ++ s).toList := by
      have hword : Balanced key.toList := by rcases hkey with rfl | rfl <;> decide
      rw [String.toList_append, String.toList_append]
      exact (hword.append (by decide)).append hs.balanced
    exact joinable_closed "Record".toList '<' (by simp) rfl rfl rfl
      (by decide) (by decide) hinner
  tuple u ts items _ _ _ hitems := joinable_closed [] '[' (by simp) rfl rfl
    rfl (by decide) balanced_nil (balanced_listed fun s hs => (hitems s hs).balanced)
  union items hne hitems := by
    refine Joinable.joined ?_ fun s hs => hitems s (mem_of_mem_distinct hs)
    cases items with
    | nil => exact absurd rfl hne
    | cons s items => exact List.cons_ne_nil _ _

/-! ### Flattened alternatives -/

/-- The alternatives of a type: those of its members if it is a union, and else the type itself.
Unions are looked into down to a depth. -/
def flattened (U : Universe τ) (o : Options τ) : Nat → τ → List τ
  | 0, t => [t]
  | depth + 1, t =>
    match U.shape o t with
    | .union ts => ts.flatMap (U.flattened o depth)
    | _ => [t]

/-- The references to some types, in order. -/
def Refer (U : Universe τ) (o : Options τ) (depth : Nat) : List τ → List String → Prop :=
  List.Forall₂ fun t s => U.reading o depth t = some s

theorem Refer.deeper {m : Nat} {ts : List τ} {texts : List String} (h : U.Refer o m ts texts)
    (hmn : m ≤ n) : U.Refer o n ts texts :=
  List.Forall₂.imp (fun t s => reading_agrees hmn t s) h

/-- Alternatives one after another, each with the parts of its flattened ones. -/
theorem exists_flattened_all {ts : List τ} {texts : List String} (hts : U.Refer o n ts texts)
    (h : ∀ t ∈ ts, ∀ s, U.reading o n t = some s →
      ∃ leaves, U.Refer o n (U.flattened o n t) leaves ∧
        distinct (unionParts s) = distinct (leaves.flatMap unionParts)) :
    ∃ leaves, U.Refer o n (ts.flatMap (U.flattened o n)) leaves ∧
      distinct (texts.flatMap unionParts) = distinct (leaves.flatMap unionParts) := by
  induction hts with
  | nil => exact ⟨[], .nil, rfl⟩
  | @cons t s ts texts hread _ ih =>
    obtain ⟨first, hfirst, hparts⟩ := h t (List.mem_cons_self ..) s hread
    obtain ⟨rest, hrest, hmore⟩ := ih fun u hu => h u (List.mem_cons_of_mem _ hu)
    refine ⟨first ++ rest, List.rel_append hfirst hrest, ?_⟩
    rw [List.flatMap_cons, List.flatMap_append, ← distinct_append_left, hparts,
      distinct_append_left]
    exact distinct_append_congr hmore

end Universe

/-! ### Unions of texts -/

/-- The parts of a union of texts are those of each different text, so up to repetitions they are
the parts of the flattened alternatives. They are exactly these, each at its first occurrence, if
no text repeats a part and no two texts share one, and only then. -/
structure Merges (texts leaves : List String) : Prop where
  parts : unionParts (Walk.unionText texts) = (distinct texts).flatMap unionParts
  same : distinct (unionParts (Walk.unionText texts)) = distinct (leaves.flatMap unionParts)
  exact : unionParts (Walk.unionText texts) = distinct (leaves.flatMap unionParts) ↔
    (∀ s ∈ texts, (unionParts s).Nodup) ∧
      ∀ s ∈ texts, ∀ s' ∈ texts, s ≠ s' → (unionParts s).Disjoint (unionParts s')

theorem merges_unionText {texts leaves : List String} (hne : texts ≠ [])
    (h : ∀ s ∈ texts, Joinable s)
    (hparts : distinct (texts.flatMap unionParts) = distinct (leaves.flatMap unionParts)) :
    Merges texts leaves := by
  have hdistinct : distinct texts ≠ [] := by
    cases texts with
    | nil => exact absurd rfl hne
    | cons s texts => exact List.cons_ne_nil _ _
  have hall : unionParts (Walk.unionText texts) = (distinct texts).flatMap unionParts :=
    Joinable.parts_joined hdistinct fun s hs => h s (mem_of_mem_distinct hs)
  have hsame : distinct (unionParts (Walk.unionText texts)) =
      distinct (leaves.flatMap unionParts) := by
    rw [hall, distinct_flatMap_distinct, hparts]
  refine ⟨hall, hsame, ?_⟩
  rw [← nodup_flatMap_distinct, ← hall, ← hsame]
  exact ⟨fun heq => heq ▸ nodup_distinct _, fun hnodup => (distinct_of_nodup hnodup).symm⟩

namespace Universe

variable {τ : Type} {U : Universe τ} {o : Options τ} {n : Nat} {t : τ}

theorem Refer.joinable {ts : List τ} {texts : List String} (h : U.Refer o n ts texts)
    (hwords : ∀ t ∈ ts, ∀ u, U.Occurs o t u → ∀ w ∈ U.words o u, Joinable w) :
    ∀ s ∈ texts, Joinable s := by
  intro s hs
  obtain ⟨t, ht, hread⟩ := exists_of_forall₂ h hs
  exact (inherits_joinable (hwords t ht)).reading hread

theorem Refer.texts_ne_nil {ts : List τ} {texts : List String} (h : U.Refer o n ts texts)
    (hne : ts ≠ []) : texts ≠ [] := by
  rintro rfl
  exact hne (List.forall₂_nil_right_iff.mp h)

/-- The parts of a reference are those of its flattened alternatives, up to repetitions. The
induction is on the depth to which unions are looked into. -/
theorem exists_flattened {s : String}
    (hwords : ∀ u, U.Occurs o t u → ∀ w ∈ U.words o u, Joinable w)
    (h : U.reading o n t = some s) :
    ∃ leaves, U.Refer o n (U.flattened o n t) leaves ∧
      distinct (unionParts s) = distinct (leaves.flatMap unionParts) := by
  induction n generalizing t s with
  | zero => cases h
  | succ n ih =>
    have hself : U.flattened o (n + 1) t = [t] → ∃ leaves,
        U.Refer o (n + 1) (U.flattened o (n + 1) t) leaves ∧
          distinct (unionParts s) = distinct (leaves.flatMap unionParts) := by
      intro hleaf
      refine ⟨[s], hleaf ▸ .cons h .nil, ?_⟩
      rw [List.flatMap_singleton]
    cases hs : U.shape o t with
    | union ts =>
      have hanswers := U.shape_answers o t
      rw [hs] at hanswers
      have hread := h
      simp only [Universe.reading, readingFrom, hs] at hread
      obtain ⟨texts, htexts, rfl⟩ := Option.map_eq_some_iff.mp hread
      have hrefer : U.Refer o n ts texts := mapM_eq_some htexts
      have hbelow : ∀ p ∈ ts, ∀ u, U.Occurs o p u → ∀ w ∈ U.words o u, Joinable w :=
        fun p hp u hu => hwords u (.part (by simpa [parts, hs] using hp) hu)
      obtain ⟨leaves, hleaves, hparts⟩ :=
        exists_flattened_all hrefer fun p hp s hread => ih (hbelow p hp) hread
      have hmerges :=
        merges_unionText (hrefer.texts_ne_nil hanswers) (hrefer.joinable hbelow) hparts
      have hflattened : U.flattened o (n + 1) t = ts.flatMap (U.flattened o n) := by
        simp only [flattened, hs]
      exact ⟨leaves, hflattened ▸ hleaves.deeper (Nat.le_succ n), hmerges.same⟩
    | _ => exact hself (by simp only [flattened, hs])

/-- What stands in a union of alternatives. -/
theorem Refer.merges {ts : List τ} {texts : List String} (h : U.Refer o n ts texts) (hne : ts ≠ [])
    (hwords : ∀ t ∈ ts, ∀ u, U.Occurs o t u → ∀ w ∈ U.words o u, Joinable w) :
    ∃ leaves, U.Refer o n (ts.flatMap (U.flattened o n)) leaves ∧ Merges texts leaves := by
  obtain ⟨leaves, hleaves, hparts⟩ :=
    exists_flattened_all h fun t ht s hread => exists_flattened (hwords t ht) hread
  exact ⟨leaves, hleaves, merges_unionText (h.texts_ne_nil hne) (h.joinable hwords) hparts⟩

end Universe

namespace Annotation.World

open Universe

/-- **The parts of unions.** Whatever stands in the alternatives of a union or of a type parameter,
if the names and replacements in them can be parts of a union, then the union that a call writes has
the parts of the flattened alternatives. A part that comes twice in it comes from two different
texts that have it: unions behind other names, or a replacement. -/
theorem union_parts (w : World) {o : Options Value} {r : Registry Value}
    (hr : w.types.Reached o r) (n : Nat) :
    (∀ t ts s r', w.types.shape o t = .union ts →
      (∀ u, w.types.Occurs o t u → ∀ word ∈ w.types.words o u, Joinable word) →
      (calls w.types (n + 1)).resolve t r = some (s, r') →
        ∃ texts leaves, s = Walk.unionText texts ∧ w.types.Refer o n ts texts ∧
          w.types.Refer o n (ts.flatMap (w.types.flattened o n)) leaves ∧ Merges texts leaves) ∧
    ∀ ts texts r', ts ≠ [] →
      (∀ t ∈ ts, ∀ u, w.types.Occurs o t u → ∀ word ∈ w.types.words o u, Joinable word) →
      (ts.mapM (calls w.types n).resolve) r = some (texts, r') →
        w.types.Refer o n ts texts ∧
        ∃ leaves, w.types.Refer o n (ts.flatMap (w.types.flattened o n)) leaves ∧
          Merges texts leaves := by
  have hfollow := fun n => follow_calls (types_coherent w) o n
  constructor
  · intro t ts s r' hs hwords hresolve
    have hread := (Walk.ends_loose.mp ((hfollow (n + 1)).resolve t r hr.ready) s r' hresolve).1
    have hne := w.types.shape_answers o t
    rw [hs] at hne
    simp only [Universe.reading, readingFrom, hs] at hread
    obtain ⟨texts, htexts, rfl⟩ := Option.map_eq_some_iff.mp hread
    have hrefer : w.types.Refer o n ts texts := mapM_eq_some htexts
    obtain ⟨leaves, hleaves, hmerges⟩ := hrefer.merges hne fun p hp u hu =>
      hwords u (.part (by simpa [parts, hs] using hp) hu)
    exact ⟨texts, leaves, rfl, hrefer, hleaves, hmerges⟩
  · intro ts texts r' hne hwords hresolve
    have hread := Walk.ends_loose.mp ((hfollow n).resolveAll ts hr.ready) texts r' hresolve
    have hrefer : w.types.Refer o n ts texts := mapM_eq_some hread.1
    exact ⟨hrefer, hrefer.merges hne hwords⟩

/-! A union behind a name, with one of its members beside it. -/

def codes : World where
  classes := #[]
  typeVars := #[]
  paramSpecs := #[]
  newTypes := #[⟨"Code", "models", .union false [.cls (builtin "int"), .cls (builtin "str")]⟩]
  modules := #[]
  current := []

def codeOrNumber : Value := .union false [.newType 0, .cls (builtin "int")]

theorem resolve_codeOrNumber :
    ((calls codes.types 4).resolve codeOrNumber (Registry.fresh Options.default)).map (·.1) =
      some "number | string | number" := by
  decide

/-- In the union stand another union and scalars only. -/
theorem words_codeOrNumber {u : Value}
    (h : codes.types.Occurs Options.default codeOrNumber u) :
    codes.types.words Options.default u = [] := by
  have hmem : u ∈ [codeOrNumber, .union false [.cls (builtin "int"), .cls (builtin "str")],
      .cls (builtin "int"), .cls (builtin "str")] := by
    refine h.closed (fun t ht p hp => ?_) (List.mem_cons_self ..)
    simp only [List.mem_cons, List.not_mem_nil, or_false] at ht
    rcases ht with rfl | rfl | rfl | rfl
    · change p ∈ [_, _] at hp
      rcases List.mem_pair.mp hp with rfl | rfl
      · exact List.mem_cons_of_mem _ (List.mem_cons_self ..)
      · exact List.mem_cons_of_mem _ (List.mem_cons_of_mem _ (List.mem_cons_self ..))
    · change p ∈ [_, _] at hp
      exact List.mem_cons_of_mem _ (List.mem_cons_of_mem _ hp)
    · exact (List.not_mem_nil hp).elim
    · exact (List.not_mem_nil hp).elim
  simp only [List.mem_cons, List.not_mem_nil, or_false] at hmem
  rcases hmem with rfl | rfl | rfl | rfl <;> rfl

theorem union_parts_codeOrNumber :
    ∃ leaves, codes.types.Refer Options.default 3
        ((codes.types.union codeOrNumber).flatMap (codes.types.flattened Options.default 3))
        leaves ∧
      distinct (unionParts "number | string | number") = distinct (leaves.flatMap unionParts) := by
  obtain ⟨⟨s, r'⟩, hrun, hs⟩ := Option.map_eq_some_iff.mp resolve_codeOrNumber
  obtain ⟨texts, leaves, rfl, -, hleaves, hmerges⟩ :=
    (union_parts codes (Reached.fresh (o := Options.default)) 3).1 codeOrNumber _ s r' rfl
      (fun u hu word hword => by
        rw [words_codeOrNumber hu] at hword
        exact (List.not_mem_nil hword).elim) hrun
  refine ⟨leaves, hleaves, ?_⟩
  dsimp only at hs
  rw [← hs]
  exact hmerges.same

/-- What a union behind a name has in common with its neighbours is written twice, also where
neither names nor replacements occur. -/
theorem union_parts_not_always_distinct :
    ¬ ∀ (w : World) (n : Nat) (t : Value) (ts : List Value) (s : String) (r' : Registry Value),
      w.types.shape Options.default t = .union ts →
      (∀ u, w.types.Occurs Options.default t u → w.types.words Options.default u = []) →
      (calls w.types n).resolve t (Registry.fresh Options.default) = some (s, r') →
        (unionParts s).Nodup := by
  intro hall
  obtain ⟨⟨s, r'⟩, hrun, hs⟩ := Option.map_eq_some_iff.mp resolve_codeOrNumber
  have hnodup := hall codes 4 codeOrNumber _ s r' rfl (fun _ => words_codeOrNumber) hrun
  have hparts : unionParts "number | string | number" = ["number", "string", "number"] := by
    decide
  dsimp only at hs
  rw [hs, hparts] at hnodup
  exact absurd hnodup (by decide)

end Annotation.World

end TypeProjection
