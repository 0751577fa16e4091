import Mathlib.Data.Finite.Defs
import Mathlib.Data.Set.Finite.List
import Mathlib.Order.WellFounded
import TypeProjection.Proofs.Heritage

/-!
# Interfaces that headers lead to

An interface that a header does not list is implied by something: by the base, which the header
names, or by another interface, which need not be listed itself. From a declaration its headers
lead to every interface that nothing hides, that is, if every supertype on the way to it is
declared and the way ends. A skipped interface that extends another one hides it, and so do two
interfaces that extend each other.
-/

namespace TypeProjection.Universe

open Relation

variable {τ : Type} [BEq τ] {U : Universe τ} {K : τ → Prop} {o : Options τ} {roots : List τ}
  {r : Registry τ}

/-- The header of a registered declaration names a type. -/
def Links (U : Universe τ) (o : Options τ) (r : Registry τ) (x y : τ) : Prop :=
  ∃ d ∈ r.types, (d.source == x) = true ∧ ∃ ts, U.Lists o U.depth d ts ∧
    ∃ t ∈ U.heritage o d.source ts, y = U.normal t

/-- A type is another one or above it. -/
def Tops (U : Universe τ) (d t : τ) : Prop :=
  (d == t) = true ∨ ∃ s, TransGen U.Extends t s ∧ (d == s) = true

/-- A step up that stays below a type. -/
def Climbs (U : Universe τ) (d t s : τ) : Prop := U.Extends t s ∧ U.Tops d s

/-- Nothing hides a type from another one: all supertypes on the way to it are declared under
their definitions, and the way ends. -/
structure Unhidden (U : Universe τ) (o : Options τ) (k d : τ) : Prop where
  declared : ∀ t, ReflTransGen U.Extends k t → ∀ s ∈ U.directSupertypes t,
    U.Tops d (U.definition s) → U.emitted o s = true ∧ U.normal s = U.definition s
  ends : Acc (fun s t => U.Climbs d t s) k

theorem Tops.of_above {d t s : τ} (h : TransGen U.Extends t s) (hs : U.Tops d s) :
    U.Tops d t := by
  rcases hs with hd | ⟨x, hx, hd⟩
  · exact .inr ⟨s, h, hd⟩
  · exact .inr ⟨x, h.trans hx, hd⟩

theorem Tops.congr (hU : U.Coherent K) {d t s : τ} (hd : K d) (ht : K t) (hs : K s)
    (h : U.Tops d t) (hts : (t == s) = true) : U.Tops d s := by
  rcases h with hdt | ⟨x, hx, hdx⟩
  · exact .inl (hU.trans _ _ _ hd ht hs hdt hts)
  · exact .inr ⟨x, (hU.alike t s hs hts).above hx, hdx⟩

/-- A way up stays below whatever its end is below. -/
theorem climbs_of_above {d t s : τ} (h : TransGen U.Extends t s) (hs : U.Tops d s) :
    TransGen (fun s t => U.Climbs d t s) s t := by
  induction h using TransGen.head_induction_on with
  | single h => exact .single ⟨h, hs⟩
  | head h hrest ih => exact ih.tail ⟨h, hs.of_above hrest⟩

omit [BEq τ] in
theorem not_self_of_acc {R : τ → τ → Prop} {x : τ} (h : Acc R x) : ¬ R x x := by
  induction h with
  | intro x _ ih => exact fun hx => ih x hx hx

/-- A candidate has a survivor with its definition if nothing implies it and all candidates with
its definition are declared. -/
theorem exists_mem_survivingFrom {implied listed ts : List τ} {t : τ}
    (hrefl : (U.definition t == U.definition t) = true) (ht : t ∈ ts)
    (himplied : implied.contains (U.definition t) = false)
    (hlisted : listed.contains (U.definition t) = false)
    (hdeclared : ∀ u ∈ ts, (U.definition t == U.definition u) = true → U.emitted o u = true) :
    ∃ u ∈ U.survivingFrom o implied listed ts, (U.definition t == U.definition u) = true := by
  induction ts generalizing listed with
  | nil => exact (List.not_mem_nil ht).elim
  | cons a ts ih =>
    have hrest := fun u hu => hdeclared u (List.mem_cons_of_mem a hu)
    unfold survivingFrom
    cases hd : implied.contains (U.definition a) || listed.contains (U.definition a) with
    | true =>
      rw [if_pos rfl]
      rcases List.mem_cons.mp ht with rfl | ht
      · rw [himplied, hlisted] at hd
        cases hd
      · exact ih ht hlisted hrest
    | false =>
      rw [if_neg Bool.false_ne_true]
      cases hta : U.definition t == U.definition a with
      | true =>
        rw [if_pos (hdeclared a (List.mem_cons_self ..) hta)]
        exact ⟨a, List.mem_cons_self .., hta⟩
      | false =>
        have hlater : (U.definition a :: listed).contains (U.definition t) = false := by
          rw [List.contains_cons, hta, hlisted]
          rfl
        rcases List.mem_cons.mp ht with rfl | ht
        · rw [hrefl] at hta
          cases hta
        · obtain ⟨u, hu, htu⟩ := ih ht hlater hrest
          split
          · exact ⟨u, List.mem_cons_of_mem a hu, htu⟩
          · exact ⟨u, hu, htu⟩

section Climbing

variable {k d : τ}

/-- Among the interfaces below a type there is one that no other of them implies. -/
theorem exists_lowest (hU : U.Coherent K) (hK : ∀ x, TransGen U.Extends k x → K x) (hd : K d)
    (hacc : Acc (fun s t => U.Climbs d t s) k) {i : τ} (hi : i ∈ U.interfaces k)
    (hid : U.Tops d (U.definition i)) :
    ∃ m ∈ U.interfaces k, U.Tops d (U.definition m) ∧
      ∀ a ∈ U.interfaces k, U.Tops d (U.definition a) → ¬ U.Implies a m := by
  let candidates : Set τ := {s | s ∈ U.interfaces k ∧ U.Tops d (U.definition s)}
  have hfinite : Finite candidates :=
    ((U.interfaces k).finite_toSet.subset fun s hs => hs.1).to_subtype
  have hKabove : ∀ a : candidates, ∀ x, TransGen U.Extends (U.definition a.1) x → K x :=
    fun a x hx => hK x (.head (extends_of_interface a.2.1) hx)
  have htrans : IsTrans candidates fun a b => U.Implies a.1 b.1 := by
    constructor
    rintro a b c ⟨x, hx, hbx⟩ ⟨y, hy, hcy⟩
    exact ⟨y, hx.trans ((hU.alike _ x (hKabove a x hx) hbx).above hy), hcy⟩
  have hirrefl : Std.Irrefl fun a b : candidates => U.Implies a.1 b.1 := by
    constructor
    rintro a ⟨x, hx, hax⟩
    have hKa : K (U.definition a.1) := hK _ (.single (extends_of_interface a.2.1))
    have hKx := hKabove a x hx
    have hxx := (hU.alike _ x hKx hax).above hx
    have htop := a.2.2.congr hU hd hKa hKx hax
    -- The definition and all on the way to the equal type are accessible, and that way is a cycle.
    have hdef := hacc.inv (⟨extends_of_interface a.2.1, a.2.2⟩ : U.Climbs d k (U.definition a.1))
    have hend := hdef.transGen.inv (climbs_of_above hx htop)
    exact not_self_of_acc hend (climbs_of_above hxx htop)
  have hwf := Finite.wellFounded_of_trans_of_irrefl fun a b : candidates => U.Implies a.1 b.1
  obtain ⟨m, _, hm⟩ := hwf.has_min Set.univ ⟨⟨i, hi, hid⟩, trivial⟩
  exact ⟨m.1, m.2.1, m.2.2, fun a ha had hImplies => hm ⟨a, ha, had⟩ trivial hImplies⟩

/-- A header names something that is a type or below it, if a direct supertype is. -/
theorem exists_mem_heritage (hU : U.Coherent K) (hK : ∀ x, TransGen U.Extends k x → K x)
    (hd : K d) (hacc : Acc (fun s t => U.Climbs d t s) k)
    (hdeclared : ∀ s ∈ U.directSupertypes k, U.Tops d (U.definition s) → U.emitted o s = true)
    {ts : List τ} (hts : U.survivors o k = some ts) {s : τ} (hs : s ∈ U.directSupertypes k)
    (hsd : U.Tops d (U.definition s)) :
    ∃ w ∈ U.heritage o k ts, U.Tops d (U.definition w) := by
  have hbase : ∀ b, U.base k = some b → U.Tops d (U.definition b) →
      ∃ w ∈ U.heritage o k ts, U.Tops d (U.definition w) := by
    intro b hb hbd
    have he := hdeclared b (List.mem_append_left _ (Option.mem_toList.mpr hb)) hbd
    refine ⟨b, List.mem_append_left _ (Option.mem_toList.mpr ?_), hbd⟩
    rw [emittedBase, hb, Option.filter_some, if_pos he]
  rcases List.mem_append.mp hs with hb | hi
  · exact hbase s (Option.mem_toList.mp hb) hsd
  obtain ⟨m, hm, hmd, hlow⟩ := exists_lowest hU hK hd hacc hi hsd
  obtain ⟨implied, himplied, rfl⟩ := survivors_eq hts
  have hKi : ∀ {i : τ}, i ∈ U.interfaces k → K (U.definition i) := fun hi =>
    hK _ (.single (extends_of_interface hi))
  cases hc : implied.contains (U.definition m) with
  | false =>
    obtain ⟨u, hu, hmu⟩ := exists_mem_survivingFrom (o := o) (hU.refl _ (hKi hm)) hm hc
      (List.contains_nil ..) fun u hu hmu =>
        hdeclared u (List.mem_append_right _ hu) (hmd.congr hU hd (hKi hm) (hKi hu) hmu)
    refine ⟨u, List.mem_append_right _ hu, ?_⟩
    exact hmd.congr hU hd (hKi hm) (hKi (mem_survivingFrom hu).1) hmu
  | true =>
    obtain ⟨x, hx, hmx⟩ := List.contains_iff_exists_mem_beq.mp hc
    rcases ((mem_impliedDefinitions himplied).2 x).mp hx with
      ⟨b, hb, rfl⟩ | ⟨a, ha, above, habove, hxa⟩
    · have hb' := (Option.filter_eq_some_iff.mp hb).1
      have hKb : K (U.definition b) := hK _ (.single (extends_of_base hb'))
      exact hbase b hb' (hmd.congr hU hd (hKi hm) hKb hmx)
    · have hax := above_of_mem_supertypes habove hxa
      have hka : U.Extends k (U.definition a) := by
        rcases List.mem_append.mp ha with ha | ha
        · exact extends_of_base (Option.filter_eq_some_iff.mp (Option.mem_toList.mp ha)).1
        · exact extends_of_interface ha
      have had := (hmd.congr hU hd (hKi hm) (hK x (.head hka hax)) hmx).of_above hax
      rcases List.mem_append.mp ha with ha | ha
      · exact hbase a (Option.filter_eq_some_iff.mp (Option.mem_toList.mp ha)).1 had
      · exact (hlow a ha had ⟨x, hax, hmx⟩).elim

/-- What a header names is registered. -/
theorem Populated.registered (h : U.Populated o roots r) {e : TypeDeclaration τ} {ts : List τ}
    (he : e ∈ r.types) (hts : U.survivors o e.source = some ts) {w : τ}
    (hw : w ∈ U.heritage o e.source ts) :
    ∃ e' ∈ r.types, (e'.source == U.normal w) = true := by
  have hneed : U.HeaderNeeds o e.source (.type (U.normal w)) := by
    rcases List.mem_append.mp hw with hw | hw
    · have hb := Option.mem_toList.mp hw
      exact .base hb (.self (emitted_of_emittedBase hb))
    · obtain ⟨implied, _, rfl⟩ := survivors_eq hts
      exact .interface hts hw (.self (mem_survivingFrom hw).2.1)
  exact h.typesFound _ (.step (h.typesRequired e he) not_false (.inl hneed))

/-- The headers lead from a registered type to everything above it that nothing hides. -/
theorem links_of_unhidden (hU : U.Coherent K) (h : U.Populated o roots r) (hk : K k)
    (hK : ∀ x, TransGen U.Extends k x → K x) (hd : K d) (hclear : U.Unhidden o k d) {y : τ}
    (hky : ReflTransGen U.Extends k y) {e : TypeDeclaration τ} (he : e ∈ r.types)
    (hey : (e.source == y) = true) {s : τ} (hs : s ∈ U.directSupertypes y)
    (hsd : U.Tops d (U.definition s)) :
    ∃ x, TransGen (U.Links o r) y x ∧ (d == x) = true := by
  have hacc : Acc (fun s t => U.Climbs d t s) y := by
    rcases reflTransGen_iff_eq_or_transGen.mp hky with rfl | hky
    · exact hclear.ends
    · have hyd := hsd.of_above (.single (List.mem_map_of_mem hs))
      exact acc_transGen_iff.mp (hclear.ends.transGen.inv (climbs_of_above hky hyd))
  induction hacc generalizing e s with
  | intro y hacc ih =>
    have hKy : K y := by
      rcases reflTransGen_iff_eq_or_transGen.mp hky with rfl | hky
      · exact hk
      · exact hK y hky
    have hKabove : ∀ x, TransGen U.Extends y x → K x := fun x hx => hK x (hx.trans_right hky)
    have halike := hU.alike _ y hKy hey
    obtain ⟨ts, hlists⟩ := lists_of_record (h.records e he)
    have hts : U.survivors o y = some ts := halike.survivors ▸ hlists.survivors
    obtain ⟨w, hw, hwd⟩ := exists_mem_heritage hU hKabove hd ⟨y, hacc⟩
      (fun s hs hsd => (hclear.declared y hky s hs hsd).1) hts hs hsd
    have hyw := extends_of_mem_heritage hts hw
    have hw' : w ∈ U.heritage o e.source ts := by
      unfold heritage at hw ⊢
      rwa [halike.emittedBase]
    have hlink : U.Links o r y (U.normal w) := ⟨e, he, hey, ts, hlists, w, hw', rfl⟩
    have hnormal : U.normal w = U.definition w := by
      refine (hclear.declared y hky w ?_ hwd).2
      obtain ⟨implied, _, rfl⟩ := survivors_eq hts
      rcases List.mem_append.mp hw with hw | hw
      · have hb := (Option.filter_eq_some_iff.mp (Option.mem_toList.mp hw)).1
        exact List.mem_append_left _ (Option.mem_toList.mpr hb)
      · exact List.mem_append_right _ (mem_survivingFrom hw).1
    rw [hnormal] at hlink
    rcases hwd with hdw | ⟨x, hx, hdx⟩
    · exact ⟨U.definition w, .single hlink, hdw⟩
    · obtain ⟨c, hc, hcx⟩ := TransGen.head'_iff.mp hx
      obtain ⟨s', hs', rfl⟩ := List.mem_map.mp hc
      have hs'd : U.Tops d (U.definition s') := by
        rcases reflTransGen_iff_eq_or_transGen.mp hcx with rfl | hcx
        · exact .inl hdx
        · exact .inr ⟨x, hcx, hdx⟩
      obtain ⟨e', he', hew⟩ := h.registered he hlists.survivors hw'
      rw [hnormal] at hew
      obtain ⟨z, hz, hdz⟩ := ih (U.definition w) ⟨hyw, .inr ⟨x, hx, hdx⟩⟩ (hky.tail hyw) he' hew
        hs' hs'd
      exact ⟨z, .head hlink hz, hdz⟩

end Climbing

/-- After every run, the headers lead from a declaration to each of its interfaces that nothing
hides. -/
theorem interface_reached (hU : U.Coherent K) {d : TypeDeclaration τ}
    (h : U.collect o roots = some r) (hd : d ∈ r.types)
    (hK : ∀ x, TransGen U.Extends d.source x → K x) {t : τ} (ht : t ∈ U.interfaces d.source)
    (hclear : U.Unhidden o d.source (U.definition t)) :
    ∃ x, TransGen (U.Links o r) d.source x ∧ (U.normal t == x) = true := by
  have hp := populated_of_collect hU h
  have hKd : K d.source := (hp.typesRequired d hd).key hU fun _ hi => hi.key hU
  have hKt : K (U.definition t) := hK _ (.single (extends_of_interface ht))
  have hself : U.Tops (U.definition t) (U.definition t) := .inl (hU.refl _ hKt)
  have hmem : t ∈ U.directSupertypes d.source := List.mem_append_right _ ht
  rw [(hclear.declared _ .refl t hmem hself).2]
  exact links_of_unhidden hU hp hKd hK hKt hclear .refl hd (hU.refl _ hKd) hmem hself

/-- A class with a base and two interfaces, one of which extends the other. -/
def layeredInterfaces : TypeGraph where
  nodes := [
    ("Badge", { GraphNode.plain "Badge" with
      base := some "Card", interfaces := ["Labelled", "Named"] }),
    ("Card", GraphNode.plain "Card"),
    ("Labelled", { GraphNode.plain "Labelled" with isInterface := true, interfaces := ["Named"] }),
    ("Named", { GraphNode.plain "Named" with isInterface := true })]

/-- An interface that is not in the header is reached through the one that is. -/
theorem interface_reached_layered :
    ∃ r d, layeredInterfaces.types.collect Options.default ["Badge"] = some r ∧ d ∈ r.types ∧
      d.source = "Badge" ∧ d.header = "export class Badge extends Card implements Labelled" ∧
      ∃ x, TransGen (layeredInterfaces.types.Links Options.default r) "Badge" x ∧
        (layeredInterfaces.types.normal "Named" == x) = true := by
  have hrun : (layeredInterfaces.types.collect Options.default ["Badge"]).bind
      (fun r => (r.types.find? fun d => d.source == "Badge").map (·.header)) =
        some "export class Badge extends Card implements Labelled" := by decide +kernel
  obtain ⟨r, hr, hfound⟩ := Option.bind_eq_some_iff.mp hrun
  obtain ⟨d, hfind, hheader⟩ := Option.map_eq_some_iff.mp hfound
  have hd := List.mem_of_find?_eq_some hfind
  have hsource : d.source = "Badge" := by
    simpa only [beq_iff_eq] using List.find?_some hfind
  let above := ["Badge", "Card", "Labelled", "Named"]
  have hclosed : ∀ t ∈ above, ∀ s ∈ layeredInterfaces.types.directDefinitions t, s ∈ above := by
    decide
  have hdeclared : ∀ t ∈ above, ∀ s ∈ layeredInterfaces.types.directSupertypes t,
      layeredInterfaces.types.emitted Options.default s = true ∧
        layeredInterfaces.types.normal s = layeredInterfaces.types.definition s := by
    decide
  have hreach : ∀ t, ReflTransGen layeredInterfaces.types.Extends "Badge" t → t ∈ above := by
    intro t ht
    induction ht with
    | refl => exact List.mem_cons_self ..
    | tail _ hstep ih => exact hclosed _ ih _ hstep
  have hnamed : Acc (fun s t => layeredInterfaces.types.Climbs "Named" t s) "Named" :=
    .intro _ fun s hs => nomatch hs.1
  have hlabelled : Acc (fun s t => layeredInterfaces.types.Climbs "Named" t s) "Labelled" :=
    .intro _ fun s hs => List.mem_singleton.mp hs.1 ▸ hnamed
  have hcard : Acc (fun s t => layeredInterfaces.types.Climbs "Named" t s) "Card" :=
    .intro _ fun s hs => nomatch hs.1
  have hclear : layeredInterfaces.types.Unhidden Options.default "Badge" "Named" := by
    refine ⟨fun t ht s hs _ => hdeclared t (hreach t ht) s hs, .intro _ fun s hs => ?_⟩
    have hmem : s ∈ ["Card", "Labelled", "Named"] := hs.1
    rcases List.mem_cons.mp hmem with rfl | hmem
    · exact hcard
    rcases List.mem_cons.mp hmem with rfl | hmem
    · exact hlabelled
    · exact List.mem_singleton.mp hmem ▸ hnamed
  refine ⟨r, d, hr, hd, hsource, hheader, ?_⟩
  rw [← hsource] at hclear ⊢
  refine interface_reached (coherent_of_lawful _) hr hd (fun _ _ => trivial) ?_ hclear
  rw [hsource]
  decide

/-- A class with two interfaces, one of which extends the other. -/
def hidingInterface : TypeGraph where
  nodes := [
    ("Badge", { GraphNode.plain "Badge" with interfaces := ["Hidden", "Named"] }),
    ("Hidden", { GraphNode.plain "Hidden" with isInterface := true, interfaces := ["Named"] }),
    ("Named", { GraphNode.plain "Named" with isInterface := true })]

/-- Headers do not lead to every declared interface: one that is skipped is not listed, and takes
the interfaces above it out of the header all the same. -/
theorem interface_not_always_reached :
    ¬ ∀ (g : TypeGraph) (o : Options String) (roots : List String) (r : Registry String),
      g.types.collect o roots = some r → ∀ d ∈ r.types, ∀ t ∈ g.types.interfaces d.source,
        g.types.emitted o t = true →
          ∃ x, TransGen (g.types.Links o r) d.source x ∧ (g.types.normal t == x) = true := by
  intro hall
  let o : Options String := { Options.default with skip := [.char 'H' false] }
  have hrun : (hidingInterface.types.collect o ["Badge"]).map
      (fun r => r.types.map (·.source)) = some ["Badge"] := by decide
  obtain ⟨r, hr, hsources⟩ := Option.map_eq_some_iff.mp hrun
  obtain ⟨d, hd, hsource⟩ : ∃ d ∈ r.types, d.source = "Badge" :=
    List.mem_map.mp (hsources ▸ List.mem_cons_self ..)
  obtain ⟨x, hx, _⟩ := hall hidingInterface o ["Badge"] r hr d hd "Named"
    (by rw [hsource]; decide) (by decide)
  obtain ⟨y, ⟨e, _, hed, ts, hlists, t, ht, _⟩, _⟩ := TransGen.head'_iff.mp hx
  rw [eq_of_beq hed, hsource] at ht
  have hnone : hidingInterface.types.survivors o e.source = some [] := by
    rw [eq_of_beq hed, hsource]
    decide
  cases hnone ▸ hlists.survivors
  exact List.not_mem_nil ht

end TypeProjection.Universe
