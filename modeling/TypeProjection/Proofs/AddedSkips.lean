import TypeProjection.Proofs.HeaderPaths
import TypeProjection.Proofs.ReferenceGrammar

/-!
# What more skip patterns change

Skipping more types takes declarations away, with one exception. An interface that is implied by
the base stands in no header; if the base is skipped as well, then the interface is listed, with
its own arguments. So whatever a run with more patterns registers was registered before, or it is
needed by an interface that a skipped base no longer implies.
-/

namespace TypeProjection

/-- The second options skip at least what the first ones skip, and agree with them otherwise. -/
structure Options.Tightens {τ : Type} (o o' : Options τ) : Prop where
  skip : ∀ p ∈ o.skip, p ∈ o'.skip
  rest : { o with skip := o'.skip } = o'

namespace Universe

open Relation

variable {τ : Type} {U : Universe τ} {K : τ → Prop} {o o' : Options τ} {t k : τ} {i : Item τ}

section Tightens

variable (ho : o.Tightens o')
include ho

theorem kept_of_tightens (h : U.skipped o' t = false) : U.skipped o t = false := by
  unfold skipped Options.skips at h ⊢
  rw [List.any_eq_false] at h ⊢
  exact fun p hp => h p (ho.skip p hp)

theorem shape_of_tightens (t : τ) : U.shape o' t = U.shape o t := by
  rw [← ho.rest]
  rfl

theorem emitted_of_tightens (h : U.emitted o' t = true) : U.emitted o t = true := by
  simp only [emitted, Bool.and_eq_true, Bool.not_eq_true'] at h ⊢
  exact ⟨h.1, kept_of_tightens ho h.2⟩

theorem parts_of_tightens {p : τ} (h : p ∈ U.parts o' t) : p ∈ U.parts o t := by
  unfold parts at h ⊢
  rw [shape_of_tightens ho] at h
  cases hs : U.shape o t with
  | declared =>
    simp only [hs] at h ⊢
    cases hk : U.skipped o' t with
    | true =>
      rw [hk] at h
      exact (List.not_mem_nil h).elim
    | false =>
      rw [hk] at h
      rwa [kept_of_tightens ho hk]
  | _ =>
    rw [hs] at h
    exact h

theorem Meets.tightens (h : U.Meets o' t i) : U.Meets o t i := by
  induction h with
  | type hs hk => exact .type (shape_of_tightens ho _ ▸ hs) (kept_of_tightens ho hk)
  | enumeration hs hk => exact .enumeration (shape_of_tightens ho _ ▸ hs) (kept_of_tightens ho hk)
  | part hp _ ih => exact .part (parts_of_tightens ho hp) ih

theorem Mentions.tightens (h : U.Mentions o' t i) : U.Mentions o t i := by
  cases h with
  | self ht => exact .self (emitted_of_tightens ho ht)
  | below hm => exact .below (hm.tightens ho)

theorem RootItem.tightens {roots : List τ} (h : U.RootItem o' roots i) :
    U.RootItem o roots i := by
  obtain ⟨t, ht, hi⟩ := h
  refine ⟨t, ht, ?_⟩
  split at hi
  · next he =>
    rw [if_pos he]
    exact ⟨kept_of_tightens ho hi.1, hi.2⟩
  · next he =>
    rw [if_neg he]
    exact ⟨emitted_of_tightens ho hi.1, hi.2⟩

theorem emittedBase_of_tightens {b : τ} (h : U.emittedBase o' k = some b) :
    U.emittedBase o k = some b := by
  unfold emittedBase at h ⊢
  rw [Option.filter_eq_some_iff] at h ⊢
  exact ⟨h.1, emitted_of_tightens ho h.2⟩

theorem keptBound_of_tightens (h : U.keptBound o' t = true) : U.keptBound o t = true := by
  simp only [keptBound, Bool.not_eq_true', Bool.and_eq_false_iff] at h ⊢
  exact h.imp_right (kept_of_tightens ho)

omit ho in
/-- A base that more patterns take away is skipped by them. -/
theorem skipped_of_emittedBase_eq_none {b : τ} (h : U.emittedBase o k = some b)
    (h' : U.emittedBase o' k = none) : U.skipped o' b = true := by
  obtain ⟨hb, he⟩ := Option.filter_eq_some_iff.mp h
  unfold emittedBase at h'
  rw [hb, Option.filter_some] at h'
  unfold emitted at h'
  rw [isStructural_of_emitted he, Bool.true_and] at h'
  cases hk : U.skipped o' b with
  | true => rfl
  | false =>
    rw [hk] at h'
    cases h'

end Tightens

variable [BEq τ]

/-- An interface is listed under the second options because the base, which implied it under the
first ones, is skipped. -/
structure Revives (U : Universe τ) (o o' : Options τ) (k t : τ) : Prop where
  listed : ∃ ts, U.survivors o' k = some ts ∧ t ∈ ts
  base : ∃ b, U.emittedBase o k = some b ∧ U.skipped o' b = true ∧
    ((U.definition t == U.definition b) = true ∨ U.Implies b t)

/-- What is needed because an interface is revived in a declaration of both runs: what the
reference to it names beside itself, and the interface itself, if other supertypes hid it before. -/
inductive Revived (U : Universe τ) (o o' : Options τ) (r r' : Registry τ) : Item τ → Prop
  | reference {d d' : TypeDeclaration τ} {t : τ} {i : Item τ} : d ∈ r.types → d' ∈ r'.types →
      (d.source == d'.source) = true → U.Revives o o' d'.source t → U.Meets o' t i →
      i ≠ .type (U.normal t) → Revived U o o' r r' i
  | hidden {d d' : TypeDeclaration τ} {t : τ} : d ∈ r.types → d' ∈ r'.types →
      (d.source == d'.source) = true → U.Revives o o' d'.source t →
      ¬ U.Unhidden o d'.source (U.definition t) → Revived U o o' r r' (.type (U.normal t))

theorem Coherent.contains_congr (hU : U.Coherent K) {xs : List τ} {x y : τ} (hxs : ∀ z ∈ xs, K z)
    (hx : K x) (hy : K y) (h : (x == y) = true) (hc : xs.contains y = true) :
    xs.contains x = true := by
  obtain ⟨z, hz, hyz⟩ := List.contains_iff_exists_mem_beq.mp hc
  exact List.contains_iff_exists_mem_beq.mpr ⟨z, hz, hU.trans _ _ _ hx hy (hxs z hz) h hyz⟩

section Surviving

variable {implied listed ts : List τ}

/-- What survives is the first candidate with its definition. -/
theorem first_of_mem_survivingFrom (hU : U.Coherent K) (hts : ∀ u ∈ ts, K (U.definition u))
    (himplied : ∀ x ∈ implied, K x) (hlisted : ∀ x ∈ listed, K x)
    (h : t ∈ U.survivingFrom o implied listed ts) :
    ∃ before after, ts = before ++ t :: after ∧
      ∀ a ∈ before, (U.definition t == U.definition a) = false := by
  induction ts generalizing listed with
  | nil => exact (List.not_mem_nil h).elim
  | cons a ts ih =>
    obtain ⟨hmem, _, htimplied, htlisted⟩ := mem_survivingFrom h
    have hKt := hts t hmem
    have hKa := hts a (List.mem_cons_self ..)
    have hrest := fun u hu => hts u (List.mem_cons_of_mem a hu)
    -- A survivor behind the head is a first one in the rest, and differs from the head.
    have hbehind : ∀ listed', (∀ x ∈ listed', K x) →
        (U.definition t == U.definition a) = false → t ∈ U.survivingFrom o implied listed' ts →
        ∃ before after, a :: ts = before ++ t :: after ∧
          ∀ a ∈ before, (U.definition t == U.definition a) = false := by
      intro listed' hlisted' hta h
      obtain ⟨before, after, rfl, hbefore⟩ := ih hrest hlisted' h
      exact ⟨a :: before, after, rfl, List.forall_mem_cons.mpr ⟨hta, hbefore⟩⟩
    unfold survivingFrom at h
    split at h
    · next hdropped =>
      refine hbehind listed hlisted ?_ h
      cases hta : U.definition t == U.definition a with
      | false => rfl
      | true =>
        rcases Bool.or_eq_true_iff.mp hdropped with hc | hc
        · exact (hU.contains_congr himplied hKt hKa hta hc).symm.trans htimplied
        · exact (hU.contains_congr hlisted hKt hKa hta hc).symm.trans htlisted
    · have hlater : t ∈ U.survivingFrom o implied (U.definition a :: listed) ts →
          ∃ before after, a :: ts = before ++ t :: after ∧
            ∀ a ∈ before, (U.definition t == U.definition a) = false := by
        intro h
        have hnew := (mem_survivingFrom h).2.2.2
        rw [List.contains_cons, Bool.or_eq_false_iff] at hnew
        exact hbehind _ (List.forall_mem_cons.mpr ⟨hKa, hlisted⟩) hnew.1 h
      split at h
      · rcases List.mem_cons.mp h with rfl | h
        · exact ⟨[], ts, rfl, fun _ ha => (List.not_mem_nil ha).elim⟩
        · exact hlater h
      · exact hlater h

/-- The first candidate with its definition survives, if it is declared and nothing implies it. -/
theorem mem_survivingFrom_of_first {before after : List τ}
    (hbefore : ∀ a ∈ before, (U.definition t == U.definition a) = false)
    (ht : U.emitted o t = true) (himplied : implied.contains (U.definition t) = false)
    (hlisted : listed.contains (U.definition t) = false) :
    t ∈ U.survivingFrom o implied listed (before ++ t :: after) := by
  induction before generalizing listed with
  | nil =>
    rw [List.nil_append]
    unfold survivingFrom
    rw [himplied, hlisted, Bool.false_or, if_neg Bool.false_ne_true, if_pos ht]
    exact List.mem_cons_self ..
  | cons a before ih =>
    obtain ⟨hta, hrest⟩ := List.forall_mem_cons.mp hbefore
    have hlater : (U.definition a :: listed).contains (U.definition t) = false := by
      rw [List.contains_cons, hta, hlisted]
      rfl
    rw [List.cons_append]
    unfold survivingFrom
    split
    · exact ih hrest hlisted
    · split
      · exact List.mem_cons_of_mem a (ih hrest hlater)
      · exact ih hrest hlater

/-- An interface that is listed under more patterns was listed before, or it is revived. -/
theorem revives_of_tightens (hU : U.Coherent K) (ho : o.Tightens o')
    (hK : ∀ x, TransGen U.Extends k x → K x) {ts ts' : List τ} (h : U.survivors o k = some ts)
    (h' : U.survivors o' k = some ts') (ht : t ∈ ts') : t ∈ ts ∨ U.Revives o o' k t := by
  obtain ⟨implied, himplied, rfl⟩ := survivors_eq h
  obtain ⟨implied', himplied', rfl⟩ := survivors_eq h'
  obtain ⟨_, htemitted, htimplied', _⟩ := mem_survivingFrom ht
  have hKi : ∀ u ∈ U.interfaces k, K (U.definition u) := fun u hu =>
    hK _ (.single (extends_of_interface hu))
  have hKimplied' : ∀ x ∈ implied', K x := by
    intro x hx
    rcases ((mem_impliedDefinitions himplied').2 x).mp hx with ⟨b, hb, rfl⟩ | ⟨m, hm, above, ha, hx⟩
    · exact hK _ (.single (extends_of_base (Option.filter_eq_some_iff.mp hb).1))
    · refine hK x (.head ?_ (above_of_mem_supertypes ha hx))
      rcases List.mem_append.mp hm with hm | hm
      · exact extends_of_base (Option.filter_eq_some_iff.mp (Option.mem_toList.mp hm)).1
      · exact extends_of_interface hm
  obtain ⟨before, after, hsplit, hbefore⟩ := first_of_mem_survivingFrom hU hKi hKimplied'
    (fun _ hx => (List.not_mem_nil hx).elim) ht
  cases hc : implied.contains (U.definition t) with
  | false =>
    refine .inl (hsplit ▸ ?_)
    exact mem_survivingFrom_of_first hbefore (emitted_of_tightens ho htemitted) hc
      (List.contains_nil ..)
  | true =>
    -- Only the base of the first run can have implied it, and the second run has no base.
    have hnot : ∀ x ∈ implied', (U.definition t == x) = false := by
      intro x hx
      cases htx : U.definition t == x with
      | false => rfl
      | true =>
        exact (List.contains_iff_exists_mem_beq.mpr ⟨x, hx, htx⟩).symm.trans htimplied'
    obtain ⟨x, hx, htx⟩ := List.contains_iff_exists_mem_beq.mp hc
    have hmem := (mem_impliedDefinitions himplied').2 x
    obtain ⟨b, hb, himplies⟩ : ∃ b, U.emittedBase o k = some b ∧
        (x = U.definition b ∨ ∃ above, U.supertypes b = some above ∧ x ∈ above) := by
      rcases ((mem_impliedDefinitions himplied).2 x).mp hx with ⟨b, hb, hxb⟩ | ⟨m, hm, habove⟩
      · exact ⟨b, hb, .inl hxb⟩
      · rcases List.mem_append.mp hm with hm | hm
        · exact ⟨m, Option.mem_toList.mp hm, .inr habove⟩
        · have hx' := hmem.mpr (.inr ⟨m, List.mem_append_right _ hm, habove⟩)
          rw [hnot x hx'] at htx
          cases htx
    have hnone : U.emittedBase o' k = none := by
      cases hb' : U.emittedBase o' k with
      | none => rfl
      | some b' =>
        cases hb.symm.trans (emittedBase_of_tightens ho hb')
        have hx' : x ∈ implied' := by
          refine hmem.mpr ?_
          rcases himplies with hxb | habove
          · exact .inl ⟨b, hb', hxb⟩
          · exact .inr ⟨b, List.mem_append_left _ (Option.mem_toList.mpr hb'), habove⟩
        rw [hnot x hx'] at htx
        cases htx
    refine .inr ⟨⟨_, h', ht⟩, b, hb, skipped_of_emittedBase_eq_none hb hnone, ?_⟩
    rcases himplies with rfl | ⟨above, ha, hxa⟩
    · exact .inl htx
    · exact .inr ⟨x, above_of_mem_supertypes ha hxa, htx⟩

end Surviving

section Runs

variable {roots : List τ} {r r' : Registry τ}

/-- What the roots need is registered. -/
theorem Populated.has (h : U.Populated o roots r) (hi : U.Required o roots i) : r.Has i := by
  cases i with
  | type k =>
    obtain ⟨d, hd, hdk⟩ := h.typesFound k hi
    exact ⟨d, List.mem_append_left _ hd, hdk⟩
  | enumeration t => exact h.enumsFound t hi

theorem emitted_of_mem_heritage {ts : List τ} {w : τ} (h : U.survivors o k = some ts)
    (hw : w ∈ U.heritage o k ts) : U.emitted o w = true := by
  rcases List.mem_append.mp hw with hw | hw
  · exact emitted_of_emittedBase (Option.mem_toList.mp hw)
  · obtain ⟨implied, _, rfl⟩ := survivors_eq h
    exact (mem_survivingFrom hw).2.1

/-- A declaration of the first run has registered what it needs under more patterns, unless a
revived interface needs it. -/
theorem has_or_revived (hU : U.Coherent K) (ho : o.Tightens o') (h : U.Populated o roots r)
    {d d' : TypeDeclaration τ} (hd : d ∈ r.types) (hd' : d' ∈ r'.types)
    (hdd' : (d.source == d'.source) = true) (hKd' : K d'.source)
    (hK : ∀ x, TransGen U.Extends d'.source x → K x) (hi : U.Needs o' d'.source i) :
    r.Has i ∨ U.Revived o o' r r' i := by
  have halike := hU.alike _ _ hKd' hdd'
  have hneeds : U.Needs o d'.source i → r.Has i := fun hn =>
    h.has (.step (h.typesRequired d hd) not_false (halike.symm.needs hn))
  rcases hi with hh | ⟨m, hm, hi⟩
  · cases hh with
    | base hb hi => exact .inl (hneeds (.inl (.base (emittedBase_of_tightens ho hb) (hi.tightens ho))))
    | @bound p b _ hd hp hb hi =>
      have hb : b ∈ (U.bounds p).filter (U.keptBound o) := by
        rw [List.mem_filter] at hb ⊢
        exact ⟨hb.1, keptBound_of_tightens ho hb.2⟩
      exact .inl (hneeds (.inl (.bound hd hp hb (hi.tightens ho))))
    | alternative hd hp ha hi => exact .inl (hneeds (.inl (.alternative hd hp ha (hi.tightens ho))))
    | @interface ts' t _ hts' ht hi =>
      obtain ⟨ts, hlists⟩ := lists_of_record (h.records d hd)
      have hts : U.survivors o d'.source = some ts := halike.survivors ▸ hlists.survivors
      rcases revives_of_tightens hU ho hK hts hts' ht with ht | hrevives
      · exact .inl (hneeds (.inl (.interface hts ht (hi.tightens ho))))
      by_cases hself : i = .type (U.normal t)
      · subst hself
        by_cases hclear : U.Unhidden o d'.source (U.definition t)
        · left
          obtain ⟨implied', _, rfl⟩ := survivors_eq hts'
          have hti := (mem_survivingFrom ht).1
          have hmem : t ∈ U.directSupertypes d'.source := List.mem_append_right _ hti
          have hKt : K (U.definition t) := hK _ (.single (extends_of_interface hti))
          have htt := hU.refl _ hKt
          obtain ⟨x, hx, htx⟩ := links_of_unhidden hU h hKd' hK hKt hclear .refl hd hdd' hmem
            (.inl htt)
          obtain ⟨_, _, e, he, _, ts₁, hlists₁, w, hw, rfl⟩ := TransGen.tail'_iff.mp hx
          obtain ⟨e', he', hew⟩ := h.registered he hlists₁.survivors hw
          have hKe' : K e'.source := (h.typesRequired e' he').key hU fun _ hj => hj.key hU
          have hKw : K (U.normal w) := hU.structural w
            (isStructural_of_emitted (emitted_of_mem_heritage hlists₁.survivors hw))
          have het := hU.trans _ _ _ hKe' hKw hKt hew (hU.symm _ _ hKt hKw htx)
          refine ⟨e', List.mem_append_left _ he', ?_⟩
          rwa [(hclear.declared _ .refl t hmem (.inl htt)).2]
        · exact .inr (.hidden hd hd' hdd' hrevives hclear)
      · cases hi with
        | self => exact (hself rfl).elim
        | below hi => exact .inr (.reference hd hd' hdd' hrevives hi hself)
  · exact .inl (hneeds (.inr ⟨m, hm, hi.tightens ho⟩))

/-- Whatever a run with more skip patterns registers was registered without them, or it is needed
by an interface that is listed only because the base that implied it is skipped. -/
theorem registered_of_tightens (hU : U.Coherent K) (ho : o.Tightens o')
    (h : U.collect o roots = some r) (h' : U.collect o' roots = some r')
    (hK : ∀ d ∈ r'.types, ∀ x, TransGen U.Extends d.source x → K x) :
    (∀ d' ∈ r'.types, (∃ d ∈ r.types, (d.source == d'.source) = true) ∨
      U.Reach o' (fun _ => False) (U.Revived o o' r r') (.type d'.source)) ∧
    ∀ e' ∈ r'.enums, (∃ e ∈ r.enums, e.source = e'.source ∨ (e.source == e'.source) = true) ∨
      U.Reach o' (fun _ => False) (U.Revived o o' r r') (.enumeration e'.source) := by
  have hp := populated_of_collect hU h
  have hp' := populated_of_collect hU h'
  have hfinished : r.types ++ r.inProgress = r.types := by rw [hp.finished, List.append_nil]
  have hall : ∀ i, U.Required o' roots i →
      r.Has i ∨ U.Reach o' (fun _ => False) (U.Revived o o' r r') i := by
    intro i hi
    induction hi with
    | seed hs => exact .inl (hp.has (.seed (hs.tightens ho)))
    | @step k i hk _ hn ih =>
      rcases ih with ⟨d, hd, hdk⟩ | hreach
      · rw [hfinished] at hd
        obtain ⟨d', hd', hdk'⟩ := hp'.typesFound k hk
        have hKk : K k := hk.key hU fun _ hj => hj.key hU
        have hKd := (hp.typesRequired d hd).key hU fun _ hj => hj.key hU
        have hKd' := (hp'.typesRequired d' hd').key hU fun _ hj => hj.key hU
        have hdd' := hU.trans _ _ _ hKd hKk hKd' hdk (hU.symm _ _ hKd' hKk hdk')
        have hn' := (hU.alike _ _ hKk hdk').symm.needs hn
        exact (has_or_revived hU ho hp hd hd' hdd' hKd' (hK d' hd') hn').imp_right .seed
      · exact .inr (.step hreach not_false hn)
  refine ⟨fun d' hd' => ?_, fun e' he' => hall _ (hp'.enumsRequired e' he')⟩
  rcases hall _ (hp'.typesRequired d' hd') with ⟨d, hd, hdd'⟩ | hreach
  · exact .inl ⟨d, hfinished ▸ hd, hdd'⟩
  · exact .inr hreach

end Runs

/-- A class with a base and a generic interface, which the base has with another argument. -/
def rebasedGraph : TypeGraph where
  nodes := [
    ("Card", { GraphNode.plain "Card" with
      base := some "Pass", interfaces := ["Sealed[Wax]"] }),
    ("Pass", { GraphNode.plain "Pass" with interfaces := ["Sealed[Ink]"] }),
    ("Sealed", { GraphNode.plain "Sealed" with
      isInterface := true, isDefinition := true, arguments := ["T"] }),
    ("Sealed[Wax]", { GraphNode.plain "Sealed" with
      isInterface := true, isConstructed := true, definition := some "Sealed",
      arguments := ["Wax"] }),
    ("Sealed[Ink]", { GraphNode.plain "Sealed" with
      isInterface := true, isConstructed := true, definition := some "Sealed",
      arguments := ["Ink"] }),
    ("T", { GraphNode.plain "T" with isStructural := false, isParameter := true }),
    ("Wax", GraphNode.plain "Wax"),
    ("Ink", GraphNode.plain "Ink")]

/-- Skip the base. -/
def skippingPass : Options String := { Options.default with skip := [.char 'P' false] }

theorem tightens_skippingPass : (Options.default (τ := String)).Tightens skippingPass :=
  ⟨fun _ hp => (List.not_mem_nil hp).elim, rfl⟩

/-- With its base the class needs no interface of its own, and without it the class lists one. -/
theorem collect_rebasedGraph :
    ∃ r r', rebasedGraph.types.collect Options.default ["Card"] = some r ∧
      rebasedGraph.types.collect skippingPass ["Card"] = some r' ∧
      r.types.map (·.source) = ["Sealed", "Ink", "Pass", "Card"] ∧
      r'.types.map (·.source) = ["Sealed", "Wax", "Card"] := by
  have hrun : (rebasedGraph.types.collect Options.default ["Card"]).map
      (fun r => r.types.map (·.source)) = some ["Sealed", "Ink", "Pass", "Card"] := by
    decide +kernel
  have hrun' : (rebasedGraph.types.collect skippingPass ["Card"]).map
      (fun r => r.types.map (·.source)) = some ["Sealed", "Wax", "Card"] := by decide +kernel
  obtain ⟨r, hr, hsources⟩ := Option.map_eq_some_iff.mp hrun
  obtain ⟨r', hr', hsources'⟩ := Option.map_eq_some_iff.mp hrun'
  exact ⟨r, r', hr, hr', hsources, hsources'⟩

/-- The argument of the interface is registered in the second run alone. -/
theorem registered_of_tightens_rebased :
    ∃ r r', rebasedGraph.types.collect Options.default ["Card"] = some r ∧
      rebasedGraph.types.collect skippingPass ["Card"] = some r' ∧
      (∃ d ∈ r'.types, d.source = "Wax") ∧ (∀ d ∈ r.types, d.source ≠ "Wax") ∧
      rebasedGraph.types.Reach skippingPass (fun _ => False)
        (rebasedGraph.types.Revived Options.default skippingPass r r') (.type "Wax") := by
  obtain ⟨r, r', hr, hr', hsources, hsources'⟩ := collect_rebasedGraph
  have hwax : "Wax" ∈ r'.types.map (·.source) := by
    rw [hsources']
    decide
  have habsent : ∀ d ∈ r.types, d.source ≠ "Wax" := by
    intro d hd hsource
    have hmem : "Wax" ∈ r.types.map (·.source) := hsource ▸ List.mem_map_of_mem hd
    rw [hsources] at hmem
    exact absurd hmem (by decide)
  obtain ⟨d, hd, hsource⟩ := List.mem_map.mp hwax
  refine ⟨r, r', hr, hr', ⟨d, hd, hsource⟩, habsent, ?_⟩
  rcases (registered_of_tightens (coherent_of_lawful _) tightens_skippingPass hr hr'
    fun _ _ _ _ => trivial).1 d hd with ⟨e, he, hed⟩ | hreach
  · exact (habsent e he ((eq_of_beq hed).trans hsource)).elim
  · exact hsource ▸ hreach

/-- A skip pattern can bring in a type: the base that it takes away implied an interface. -/
theorem skipping_not_always_removes :
    ¬ ∀ (g : TypeGraph) (o o' : Options String), o.Tightens o' →
      ∀ (roots : List String) (r r' : Registry String), g.types.collect o roots = some r →
        g.types.collect o' roots = some r' →
          (∀ d' ∈ r'.types, ∃ d ∈ r.types, d.source = d'.source) ∧
          ∀ e' ∈ r'.enums, ∃ e ∈ r.enums, e.source = e'.source := by
  intro hall
  obtain ⟨r, r', hr, hr', hsources, hsources'⟩ := collect_rebasedGraph
  have hwax : "Wax" ∈ r'.types.map (·.source) := by
    rw [hsources']
    decide
  obtain ⟨d', hd', hsource'⟩ := List.mem_map.mp hwax
  obtain ⟨d, hd, hsource⟩ := (hall _ _ _ tightens_skippingPass _ _ _ hr hr').1 d' hd'
  have hmem : "Wax" ∈ r.types.map (·.source) :=
    (hsource.trans hsource') ▸ List.mem_map_of_mem hd
  rw [hsources] at hmem
  exact absurd hmem (by decide)

end Universe

end TypeProjection
