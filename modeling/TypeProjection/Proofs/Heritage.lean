import TypeProjection.Proofs.Hierarchy
import TypeProjection.Proofs.Population

/-!
# What a header lists

A header names the base that it extends, if that is declared, and those interfaces that are left
when the implied ones and repetitions are gone. Interfaces are implied by the base, and by every
interface of the type, listed or not. So no entry of a header is above another one, in whatever
way the hierarchy is entangled above it.
-/

namespace TypeProjection.Universe

open Relation

variable {τ : Type} [BEq τ] {U : Universe τ} {K : τ → Prop} {o : Options τ} {n : Nat}
  {implied listed ts : List τ} {base : Option τ}

/-- What a declaration says about its supertypes: the reference to the base stands before those to
the interfaces `ts`. -/
structure Lists (U : Universe τ) (o : Options τ) (n : Nat) (d : TypeDeclaration τ)
    (ts : List τ) : Prop where
  survivors : U.survivors o d.source = some ts
  references : ∃ base refs, U.baseText o (U.reading o n) d.source = some base ∧
    ts.mapM (U.reading o n) = some refs ∧
    d.bases ++ d.implements = (base.filter (· != "")).toList ++ refs

/-- The types that a header names: the base that it extends and the interfaces that it lists. -/
def heritage (U : Universe τ) (o : Options τ) (k : τ) (ts : List τ) : List τ :=
  (U.emittedBase o k).toList ++ ts

/-- One type is above another, after their definitions have been taken. -/
def Implies (U : Universe τ) (m t : τ) : Prop :=
  ∃ d, TransGen U.Extends (U.definition m) d ∧ (U.definition t == d) = true

/-- A record names its base and its surviving interfaces, as a class in two lists and as an
interface in one. -/
theorem lists_of_record {k : τ} {d : TypeDeclaration τ} (h : U.declaration o n k = some d) :
    ∃ ts, U.Lists o n d ts := by
  obtain ⟨base, hb, h⟩ := Option.bind_eq_some_iff.mp h
  obtain ⟨refs, hi, h⟩ := Option.bind_eq_some_iff.mp h
  obtain ⟨parameters, _, h⟩ := Option.bind_eq_some_iff.mp h
  obtain ⟨members, _, h⟩ := Option.bind_eq_some_iff.mp h
  obtain ⟨ts, hts, hrefs⟩ := Option.bind_eq_some_iff.mp hi
  cases h
  refine ⟨ts, hts, base, refs, hb, hrefs, ?_⟩
  change (if U.isInterface k || o.interfacesOnly then (base.filter (· != "")).toList ++ refs
    else (base.filter (· != "")).toList) ++
      (if U.isInterface k || o.interfacesOnly then [] else refs) = _
  cases U.isInterface k || o.interfacesOnly with
  | true => exact List.append_nil _
  | false => rfl

/-- What is implied: the definition of the base, and what is above the base or a candidate. -/
theorem mem_impliedDefinitions (h : U.impliedDefinitions ts base = some implied) :
    (∀ m ∈ base.toList ++ ts, ∃ above, U.supertypes m = some above) ∧
      ∀ s, s ∈ implied ↔ (∃ b, base = some b ∧ s = U.definition b) ∨
        ∃ m ∈ base.toList ++ ts, ∃ above, U.supertypes m = some above ∧ s ∈ above := by
  have hall : ∀ {ts : List τ} {dss : List (List τ)}, ts.mapM U.supertypes = some dss →
      (∀ m ∈ ts, ∃ above, U.supertypes m = some above) ∧
        ∀ s, s ∈ dss.flatten ↔ ∃ m ∈ ts, ∃ above, U.supertypes m = some above ∧ s ∈ above := by
    intro ts
    induction ts with
    | nil =>
      intro dss hdss
      cases hdss
      simp
    | cons t ts ih =>
      intro dss hdss
      rw [List.mapM_cons] at hdss
      obtain ⟨above, habove, hdss⟩ := Option.bind_eq_some_iff.mp hdss
      obtain ⟨rest, hrest, hdss⟩ := Option.bind_eq_some_iff.mp hdss
      cases hdss
      obtain ⟨hsome, hmem⟩ := ih hrest
      refine ⟨fun m hm => ?_, fun s => ?_⟩
      · rcases List.mem_cons.mp hm with rfl | hm
        · exact ⟨above, habove⟩
        · exact hsome m hm
      · simp [hmem s, habove]
  unfold impliedDefinitions at h
  cases base with
  | none =>
    obtain ⟨fromBase, hbase, h⟩ := Option.bind_eq_some_iff.mp h
    cases hbase
    obtain ⟨dss, hdss, h⟩ := Option.bind_eq_some_iff.mp h
    cases h
    obtain ⟨hsome, hmem⟩ := hall hdss
    refine ⟨hsome, fun s => ?_⟩
    rw [List.nil_append, hmem s]
    simp
  | some b =>
    obtain ⟨fromBase, hbase, h⟩ := Option.bind_eq_some_iff.mp h
    obtain ⟨above, habove, rfl⟩ := Option.map_eq_some_iff.mp hbase
    obtain ⟨dss, hdss, h⟩ := Option.bind_eq_some_iff.mp h
    cases h
    obtain ⟨hsome, hmem⟩ := hall hdss
    refine ⟨fun m hm => ?_, fun s => ?_⟩
    · rcases List.mem_cons.mp hm with rfl | hm
      · exact ⟨above, habove⟩
      · exact hsome m hm
    · rw [List.mem_append, List.mem_cons, hmem s]
      simp [habove, or_assoc]

/-- What survives is a declared candidate that is neither implied nor listed before. -/
theorem mem_survivingFrom {t : τ} (h : t ∈ U.survivingFrom o implied listed ts) :
    t ∈ ts ∧ U.emitted o t = true ∧ implied.contains (U.definition t) = false ∧
      listed.contains (U.definition t) = false := by
  induction ts generalizing listed with
  | nil => exact (List.not_mem_nil h).elim
  | cons a ts ih =>
    unfold survivingFrom at h
    cases hd : implied.contains (U.definition a) || listed.contains (U.definition a) with
    | true =>
      rw [if_pos hd] at h
      obtain ⟨hmem, hrest⟩ := ih h
      exact ⟨List.mem_cons_of_mem a hmem, hrest⟩
    | false =>
      rw [if_neg (by rw [hd]; exact Bool.false_ne_true)] at h
      have hlater : t ∈ U.survivingFrom o implied (U.definition a :: listed) ts →
          t ∈ a :: ts ∧ U.emitted o t = true ∧ implied.contains (U.definition t) = false ∧
            listed.contains (U.definition t) = false := by
        intro h
        obtain ⟨hmem, he, hi, hl⟩ := ih h
        rw [List.contains_cons, Bool.or_eq_false_iff] at hl
        exact ⟨List.mem_cons_of_mem a hmem, he, hi, hl.2⟩
      split at h
      · rcases List.mem_cons.mp h with rfl | h
        · rw [Bool.or_eq_false_iff] at hd
          exact ⟨List.mem_cons_self .., ‹_›, hd⟩
        · exact hlater h
      · exact hlater h

/-- No two survivors have one definition. -/
theorem pairwise_survivingFrom :
    (U.survivingFrom o implied listed ts).Pairwise
      fun t u => (U.definition u == U.definition t) = false := by
  induction ts generalizing listed with
  | nil => exact .nil
  | cons a ts ih =>
    unfold survivingFrom
    split
    · exact ih
    · split
      · refine List.pairwise_cons.mpr ⟨fun u hu => ?_, ih⟩
        have hl := (mem_survivingFrom hu).2.2.2
        rw [List.contains_cons, Bool.or_eq_false_iff] at hl
        exact hl.1
      · exact ih

theorem survivors_eq {k : τ} (h : U.survivors o k = some ts) :
    ∃ implied, U.impliedDefinitions (U.interfaces k) (U.emittedBase o k) = some implied ∧
      ts = U.survivingFrom o implied [] (U.interfaces k) := by
  obtain ⟨implied, hi, rfl⟩ := Option.map_eq_some_iff.mp h
  exact ⟨implied, hi, rfl⟩

/-- What a header names is a direct supertype. -/
theorem extends_of_mem_heritage {k m : τ} (h : U.survivors o k = some ts)
    (hm : m ∈ U.heritage o k ts) : U.Extends k (U.definition m) := by
  obtain ⟨implied, _, rfl⟩ := survivors_eq h
  rcases List.mem_append.mp hm with hm | hm
  · exact extends_of_base (Option.filter_eq_some_iff.mp (Option.mem_toList.mp hm)).1
  · exact extends_of_interface (mem_survivingFrom hm).1

/-- No interface of a header is above the base or an interface in it, itself included. -/
theorem not_implies_of_survivors (hU : U.Coherent K) {k : τ}
    (hK : ∀ x, TransGen U.Extends k x → K x) (h : U.survivors o k = some ts) {t m : τ}
    (ht : t ∈ ts) (hm : m ∈ U.heritage o k ts) : ¬ U.Implies m t := by
  rintro ⟨d, hd, htd⟩
  have hmk := extends_of_mem_heritage h hm
  obtain ⟨implied, himplied, rfl⟩ := survivors_eq h
  obtain ⟨hsome, hmem⟩ := mem_impliedDefinitions himplied
  have hcandidate : m ∈ (U.emittedBase o k).toList ++ U.interfaces k := by
    rcases List.mem_append.mp hm with hm | hm
    · exact List.mem_append_left _ hm
    · exact List.mem_append_right _ (mem_survivingFrom hm).1
  obtain ⟨above, habove⟩ := hsome m hcandidate
  have hS : U.Rising K (TransGen U.Extends k) := ⟨hK, fun t ht d hd => ht.tail hd⟩
  obtain ⟨s, hs, hds⟩ := mem_supertypes_of_above hU hS (.single hmk) habove hd
  have hKs : K s := hK s (hS.above (.single hmk) (above_of_mem_supertypes habove hs))
  have hKd : K d := hK d (hS.above (.single hmk) hd)
  obtain ⟨htk, _, hnot, _⟩ := mem_survivingFrom ht
  have hKt : K (U.definition t) := hK _ (.single (extends_of_interface htk))
  have hts := hU.trans _ _ _ hKt hKd hKs htd hds
  have hin : implied.contains (U.definition t) = true :=
    List.contains_iff_exists_mem_beq.mpr ⟨s, (hmem s).mpr (.inr ⟨m, hcandidate, above, habove, hs⟩),
      hts⟩
  rw [hnot] at hin
  cases hin

/-- The types of a header have definitions of their own. -/
theorem pairwise_heritage (hU : U.Coherent K) {k : τ} (hK : ∀ x, U.Extends k x → K x)
    (h : U.survivors o k = some ts) :
    (U.heritage o k ts).Pairwise fun t u => (U.definition t == U.definition u) = false := by
  have hkey : ∀ m ∈ U.heritage o k ts, K (U.definition m) := fun m hm =>
    hK _ (extends_of_mem_heritage h hm)
  have hflip : ∀ {t u : τ}, t ∈ U.heritage o k ts → u ∈ U.heritage o k ts →
      (U.definition u == U.definition t) = false → (U.definition t == U.definition u) = false := by
    intro t u ht hu hne
    rw [← Bool.not_eq_true]
    intro htu
    rw [hU.symm _ _ (hkey t ht) (hkey u hu) htu] at hne
    cases hne
  obtain ⟨implied, himplied, hts⟩ := survivors_eq h
  have hbase : ∀ b, U.emittedBase o k = some b → ∀ t ∈ ts,
      (U.definition t == U.definition b) = false := by
    intro b hb t ht
    rw [← Bool.not_eq_true]
    intro htb
    have hin : implied.contains (U.definition t) = true :=
      List.contains_iff_exists_mem_beq.mpr
        ⟨_, ((mem_impliedDefinitions himplied).2 _).mpr (.inl ⟨b, hb, rfl⟩), htb⟩
    rw [hts] at ht
    rw [(mem_survivingFrom ht).2.2.1] at hin
    cases hin
  have hlater : ts.Pairwise fun t u => (U.definition u == U.definition t) = false := by
    rw [hts]
    exact pairwise_survivingFrom
  refine List.Pairwise.imp_of_mem (fun ht hu hne => hflip ht hu hne) ?_
  unfold heritage
  cases hb : U.emittedBase o k with
  | none => exact hlater
  | some b => exact List.pairwise_cons.mpr ⟨hbase b hb, hlater⟩

/-- Every declaration of a run, whatever the options and the cycles above it, names types with
definitions of their own, and names no interface that is above another entry. -/
theorem heritage_irredundant (hU : U.Coherent K) {roots : List τ} {r : Registry τ}
    {d : TypeDeclaration τ} (h : U.collect o roots = some r) (hd : d ∈ r.types)
    (hK : ∀ x, TransGen U.Extends d.source x → K x) :
    ∃ ts, U.Lists o U.depth d ts ∧
      (U.heritage o d.source ts).Pairwise
        (fun t u => (U.definition t == U.definition u) = false) ∧
      ∀ t ∈ ts, ∀ m ∈ U.heritage o d.source ts, ¬ U.Implies m t := by
  obtain ⟨ts, hlists⟩ := lists_of_record ((populated_of_collect hU h).records d hd)
  refine ⟨ts, hlists, ?_, fun t ht m hm => ?_⟩
  · exact pairwise_heritage hU (fun x hx => hK x (.single hx)) hlists.survivors
  · exact not_implies_of_survivors hU hK hlists.survivors ht hm

/-- A class with a base and three interfaces: one is above the base, and two of them extend a
fourth one, which extends one of the two in turn. -/
def tangledHierarchy : TypeGraph where
  nodes := [
    ("Badge", { GraphNode.plain "Badge" with
      base := some "Card", interfaces := ["Sized", "Labelled", "Named"] }),
    ("Card", { GraphNode.plain "Card" with interfaces := ["Sized"] }),
    ("Sized", { GraphNode.plain "Sized" with isInterface := true }),
    ("Labelled", { GraphNode.plain "Labelled" with isInterface := true, interfaces := ["Keyed"] }),
    ("Named", { GraphNode.plain "Named" with isInterface := true, interfaces := ["Keyed"] }),
    ("Keyed", { GraphNode.plain "Keyed" with isInterface := true, interfaces := ["Named"] })]

/-- The class is declared, and its header lists one interface beside the base. -/
theorem heritage_irredundant_tangled :
    ∃ r d, tangledHierarchy.types.collect Options.default ["Badge"] = some r ∧ d ∈ r.types ∧
      d.header = "export class Badge extends Card implements Labelled" ∧
      ∃ ts, tangledHierarchy.types.Lists Options.default tangledHierarchy.types.depth d ts ∧
        (tangledHierarchy.types.heritage Options.default d.source ts).Pairwise
          (fun t u => (tangledHierarchy.types.definition t ==
            tangledHierarchy.types.definition u) = false) ∧
        ∀ t ∈ ts, ∀ m ∈ tangledHierarchy.types.heritage Options.default d.source ts,
          ¬ tangledHierarchy.types.Implies m t := by
  have hrun : (tangledHierarchy.types.collect Options.default ["Badge"]).bind
      (fun r => (r.types.find? fun d => d.source == "Badge").map (·.header)) =
        some "export class Badge extends Card implements Labelled" := by decide +kernel
  obtain ⟨r, hr, hfound⟩ := Option.bind_eq_some_iff.mp hrun
  obtain ⟨d, hd, hheader⟩ := Option.map_eq_some_iff.mp hfound
  have hmem := List.mem_of_find?_eq_some hd
  exact ⟨r, d, hr, hmem, hheader,
    heritage_irredundant (coherent_of_lawful _) hr hmem fun _ _ => trivial⟩

end TypeProjection.Universe
