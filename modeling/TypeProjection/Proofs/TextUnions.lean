import TypeProjection.Proofs.TextResolution

/-!
# Unions with texts

A union with texts among its alternatives is made anew once the texts are resolved. It becomes the
union of what its alternatives become, whichever way it was written, as long as equality of
alternatives is identity. One alternative may be repeated, and what a text stands for may be a union
itself; a text that hides such a repetition keeps it until then.
-/

namespace TypeProjection.Annotation.World

open Value (Similar Sharp IsProper)

variable {w : World} {R : Pending → Except Fault Value} {t t' v v' : Value}
variable {ts ts' vs xs : List Value} {piped : Bool}

/-- One of several types, written with bars or not. -/
def unionWith (piped : Bool) (ts : List Value) : Value :=
  match Value.distinctValues (ts.flatMap Value.unionMembers) with
  | [v] => v
  | members => .union piped members

theorem flatMap_unionMembers (h : ∀ m ∈ xs, ¬ m.IsUnion) :
    xs.flatMap Value.unionMembers = xs := by
  induction xs with
  | nil => rfl
  | cons x xs ih =>
    rw [List.flatMap_cons, Value.unionMembers_of_not_isUnion (h x List.mem_cons_self),
      ih fun m hm => h m (List.mem_cons_of_mem x hm)]
    rfl

theorem unionWith_eq_union {piped : Bool}
    (h : 2 ≤ (Value.distinctValues (ts.flatMap Value.unionMembers)).length) :
    unionWith piped ts =
      .union piped (Value.distinctValues (ts.flatMap Value.unionMembers)) := by
  unfold unionWith
  split
  · next hv =>
    rw [hv] at h
    simp at h
  · rfl

/-- The alternatives of a union, whether or not there is more than one. -/
theorem unionMembers_unionWith {piped : Bool} (hs : Sharp (ts.flatMap Value.unionMembers))
    (h : ∀ m ∈ ts.flatMap Value.unionMembers, ¬ m.IsUnion) :
    (unionWith piped ts).unionMembers =
      Value.distinctValues (ts.flatMap Value.unionMembers) := by
  unfold unionWith
  split
  · next v hv =>
    have hmem : v ∈ Value.distinctValues (ts.flatMap Value.unionMembers) := by
      rw [hv]
      exact List.mem_singleton_self v
    rw [hv, Value.unionMembers_of_not_isUnion (h v ((Value.mem_distinctValues hs).mp hmem))]
  · rfl

theorem mem_unionWith (piped : Bool) (hs : Sharp (ts.flatMap Value.unionMembers)) :
    unionWith piped ts ∈ ts.flatMap Value.unionMembers ∨
      ∃ ms, unionWith piped ts = .union piped ms ∧
        ∀ m ∈ ms, m ∈ ts.flatMap Value.unionMembers := by
  have hmem : ∀ {m}, m ∈ Value.distinctValues (ts.flatMap Value.unionMembers) →
      m ∈ ts.flatMap Value.unionMembers := (Value.mem_distinctValues hs).mp
  unfold unionWith
  split
  · next v hv => exact .inl (hmem (by rw [hv]; exact List.mem_singleton_self v))
  · exact .inr ⟨_, rfl, fun m hm => hmem hm⟩

/-- A union depends on its alternatives only, up to repetitions. -/
theorem unionWith_congr {piped : Bool} (hs : Sharp (ts.flatMap Value.unionMembers))
    (h : Similar (ts'.flatMap Value.unionMembers) (ts.flatMap Value.unionMembers)) :
    unionWith piped ts' = unionWith piped ts := by
  rw [unionWith, unionWith, Value.distinctValues_eq_of_similar hs h]

theorem checkedUnion_of_not_refused (hp : ∀ t ∈ ts, t.IsProper)
    (hr : ∀ t ∈ ts, refused true false t = false) : w.checkedUnion ts = .ok (unionOf ts) := by
  have hall : ts.mapM (w.checkType { message := "Union[arg, ...]: each arg must be a type." }) =
      .ok ts :=
    mapM_eq_ok.mpr (List.forall₂_same.mpr fun t ht =>
      checkType_eq_ok.mpr ⟨asType_of_isProper (hp t ht), hr t ht⟩)
  rw [checkedUnion, hall]
  rfl

/-- Values that can stand between bars, not both absent, make a union. -/
theorem pipe_of_isPipeable {l r : Value} (hl : l.isPipeable = true) (hr : r.isPipeable = true)
    (hn : l ≠ .none ∨ r ≠ .none) : w.pipe l r = .ok (pipedUnion [l, r]) := by
  unfold pipe
  split
  · cases hl
  · cases hl
  · cases hl
  · dsimp only
    rw [if_pos]
    rw [hl, hr, Bool.and_self, Bool.true_and]
    split
    · exact (hn.elim (fun h => h rfl) fun h => h rfl).elim
    · rfl

theorem pipedUnion_eq_unionWith
    (h : List.Forall₂ (fun v t => asType "" false v = .ok t ∧ v.isPipeable = true) vs ts)
    (hts : ∀ m ∈ ts.flatMap Value.unionMembers, m.IsProper) :
    pipedUnion vs = unionWith true ts := by
  have hmap : ∀ f : Value → Value, f .none = Value.noneType → (∀ v, v ≠ .none → f v = v) →
      (vs.flatMap Value.unionMembers).map f = ts.flatMap Value.unionMembers := by
    intro f hnone hf
    induction h with
    | nil => rfl
    | @cons v t vs ts hv _ ih =>
      have hrest := ih fun m hm => hts m (List.mem_append_right _ hm)
      rw [List.flatMap_cons, List.flatMap_cons, List.map_append, hrest]
      congr 1
      obtain ⟨hvt, hp⟩ := hv
      by_cases hn : v = .none
      · subst hn
        cases hvt
        exact congrArg (fun x => [x]) hnone
      · have hvt' : v = t := by
          cases v with
          | none => exact (hn rfl).elim
          | str s => cases hp
          | _ => exact Except.ok.inj hvt
        subst hvt'
        refine (List.map_congr_left fun m hm => ?_).trans (List.map_id _)
        exact hf m (hts m (List.mem_append_left _ hm)).ne_none
  unfold pipedUnion
  rw [hmap _ rfl fun v hv => ?_]
  · rfl
  · split
    · exact (hv rfl).elim
    · rfl

theorem pipedUnion_pair {l r : Value} (hl : l.IsProper) (hl' : l.isPipeable = true)
    (hr : r.IsProper) (hr' : r.isPipeable = true)
    (h : ∀ m ∈ [l, r].flatMap Value.unionMembers, m.IsProper) :
    pipedUnion [l, r] = unionWith true [l, r] :=
  pipedUnion_eq_unionWith
    (.cons ⟨asType_of_isProper hl, hl'⟩ (.cons ⟨asType_of_isProper hr, hr'⟩ .nil)) h

/-- Several types between bars make one union, however the bars are taken. -/
theorem pipeAll_eq_unionWith (hp : ∀ t ∈ ts, t.IsProper ∧ t.isPipeable = true)
    (hflat : ∀ m ∈ ts.flatMap Value.unionMembers,
      ¬ m.IsUnion ∧ m.IsProper ∧ m.isPipeable = true)
    (hs : Sharp (ts.flatMap Value.unionMembers)) (hseveral : 2 ≤ ts.length) :
    w.pipeAll ts = .ok (unionWith true ts) := by
  -- One more bar adds the alternatives of one more type.
  have hstep : ∀ {done : List Value} {u v : Value}, (∀ t ∈ done ++ [u], t ∈ ts) →
      v.IsProper → v.isPipeable = true →
      Similar v.unionMembers (done.flatMap Value.unionMembers) →
      w.pipe v u = .ok (unionWith true (done ++ [u])) := by
    intro done u v hin hv hv' hsim
    have hmem : ∀ m ∈ (done ++ [u]).flatMap Value.unionMembers,
        m ∈ ts.flatMap Value.unionMembers := by
      intro m hm
      obtain ⟨t, ht, hm⟩ := List.mem_flatMap.mp hm
      exact List.mem_flatMap.mpr ⟨t, hin t ht, hm⟩
    have hu := hp u (hin u (by simp))
    have hpair : Similar ([v, u].flatMap Value.unionMembers)
        ((done ++ [u]).flatMap Value.unionMembers) := by
      rw [List.flatMap_append, List.flatMap_cons]
      exact hsim.append .refl
    rw [pipe_of_isPipeable hv' hu.2 (.inl hv.ne_none),
      pipedUnion_pair hv hv' hu.1 hu.2 fun m hm => ?_, unionWith_congr (hs.mono hmem) hpair]
    exact (hflat m (hmem m (hpair.mem_iff.mp hm))).2.1
  have hfold : ∀ (us done : List Value) (u v : Value), (∀ t ∈ done ++ u :: us, t ∈ ts) →
      v.IsProper → v.isPipeable = true →
      Similar v.unionMembers (done.flatMap Value.unionMembers) →
      (u :: us).foldlM w.pipe v = .ok (unionWith true (done ++ u :: us)) := by
    intro us
    induction us with
    | nil =>
      intro done u v hin hv hv' hsim
      rw [List.foldlM_cons, hstep hin hv hv' hsim]
      rfl
    | cons x us ih =>
      intro done u v hin hv hv' hsim
      have hone : ∀ t ∈ done ++ [u], t ∈ ts := fun t ht => hin t (by simp at ht ⊢; tauto)
      have hmem : ∀ m ∈ (done ++ [u]).flatMap Value.unionMembers,
          m ∈ ts.flatMap Value.unionMembers := by
        intro m hm
        obtain ⟨t, ht, hm⟩ := List.mem_flatMap.mp hm
        exact List.mem_flatMap.mpr ⟨t, hone t ht, hm⟩
      have hmade : (unionWith true (done ++ [u])).IsProper ∧
          (unionWith true (done ++ [u])).isPipeable = true := by
        obtain hm | ⟨ms, hms, -⟩ := mem_unionWith true (hs.mono hmem)
        · exact (hflat _ (hmem _ hm)).2
        · rw [hms]
          exact ⟨⟨nofun, nofun, nofun⟩, rfl⟩
      rw [List.foldlM_cons, hstep hone hv hv' hsim]
      change (x :: us).foldlM w.pipe _ = _
      rw [ih (done ++ [u]) x _ (by simpa using hin) hmade.1 hmade.2, List.append_assoc]
      · rfl
      · rw [unionMembers_unionWith (hs.mono hmem) fun m hm => (hflat m (hmem m hm)).1]
        exact Value.similar_distinctValues (hs.mono hmem)
  match ts, hseveral with
  | t :: u :: us, _ =>
    have ht := hp t List.mem_cons_self
    refine hfold us [t] u t (fun x hx => hx) ht.1 ht.2 ?_
    rw [List.flatMap_singleton]
    exact .refl

theorem resolveAll_map (h : ∀ m ∈ ts, w.Becomes R m (w.resolved R m)) :
    resolveParts.resolveAll w R ts = .ok (ts.map (w.resolved R)) := by
  induction ts with
  | nil => rfl
  | cons t ts ih =>
    rw [resolveParts.resolveAll, (h t List.mem_cons_self).resolves,
      ih fun m hm => h m (List.mem_cons_of_mem t hm)]
    rfl

/-- The alternatives of types that are read as others. -/
theorem alternatives_of_forall₂ (h : List.Forall₂ (w.Reads R) ts' ts)
    (hr : ∀ t ∈ ts, refused true false t = false) :
    (∀ m ∈ ts'.flatMap Value.unionMembers, ¬ m.IsUnion ∧ w.Becomes R m (w.resolved R m) ∧
        refused true false (w.resolved R m) = false ∧
        ((∀ t' ∈ ts', t'.isPipeable = true) → m.isPipeable = true)) ∧
      (∀ m ∈ ts.flatMap Value.unionMembers, ¬ m.IsUnion ∧ m.IsProper ∧ m.isTextFree = true) ∧
      Similar (ts.flatMap Value.unionMembers)
        ((ts'.flatMap Value.unionMembers).flatMap fun m => (w.resolved R m).unionMembers) := by
  induction h with
  | nil => exact ⟨nofun, nofun, .refl⟩
  | @cons t' t ts' ts ht _ ih =>
    obtain ⟨hleft, hright, hsimilar⟩ := ih fun u hu => hr u (List.mem_cons_of_mem t hu)
    refine ⟨fun m hm => ?_, fun m hm => ?_, ?_⟩
    · rw [List.flatMap_cons, List.mem_append] at hm
      obtain hm | hm := hm
      · obtain ⟨hu, hm, hrm, hpm⟩ := ht.alternatives m hm
        exact ⟨hu, hm, hrm (hr t List.mem_cons_self), fun hp => hpm (hp t' List.mem_cons_self)⟩
      · obtain ⟨hu, hm, hrm, hpm⟩ := hleft m hm
        exact ⟨hu, hm, hrm, fun hp => hpm fun u hu => hp u (List.mem_cons_of_mem t' hu)⟩
    · rw [List.flatMap_cons, List.mem_append] at hm
      obtain hm | hm := hm
      · refine ⟨(ht.flat m hm).1, (ht.flat m hm).2, ?_⟩
        have hfree := ht.isTextFree
        by_cases hu : t.IsUnion
        · obtain ⟨p, ms, rfl⟩ := hu
          exact Value.all_eq_true.mp hfree m hm
        · rw [Value.unionMembers_of_not_isUnion hu] at hm
          cases List.mem_singleton.mp hm
          exact hfree
      · exact hright m hm
    · rw [List.flatMap_cons, List.flatMap_cons, List.flatMap_append]
      exact ht.similar.append hsimilar

/-- The types of a union with texts and those that they are read as. Equality of alternatives is
identity, and there are several of them as written. -/
structure Spread (w : World) (R : Pending → Except Fault Value) (piped : Bool)
    (ts' ts : List Value) : Prop where
  reads : List.Forall₂ (w.Reads R) ts' ts
  fits : ∀ t ∈ ts, refused true false t = false
  pipes : piped = true → ∀ t' ∈ ts', t'.isPipeable = true
  sharp : Sharp (ts.flatMap Value.unionMembers)
  sharp_written : Sharp (ts'.flatMap Value.unionMembers)
  several : 2 ≤ (Value.distinctValues (ts'.flatMap Value.unionMembers)).length

/-- The alternatives as written, each once. -/
def written (ts' : List Value) : List Value :=
  Value.distinctValues (ts'.flatMap Value.unionMembers)

namespace Spread

theorem alternative (h : w.Spread R piped ts' ts) {m : Value} (hm : m ∈ written ts') :
    ¬ m.IsUnion ∧ w.Becomes R m (w.resolved R m) ∧
      refused true false (w.resolved R m) = false := by
  obtain ⟨hu, hbecomes, hr, -⟩ := (alternatives_of_forall₂ h.reads h.fits).1 m
    ((Value.mem_distinctValues h.sharp_written).mp hm)
  exact ⟨hu, hbecomes, hr⟩

theorem original (h : w.Spread R piped ts' ts) {m : Value}
    (hm : m ∈ ts.flatMap Value.unionMembers) :
    ¬ m.IsUnion ∧ m.IsProper ∧ m.isTextFree = true :=
  (alternatives_of_forall₂ h.reads h.fits).2.1 m hm

theorem pipeable_written (h : w.Spread R true ts' ts) {m : Value} (hm : m ∈ written ts') :
    m.isPipeable = true :=
  ((alternatives_of_forall₂ h.reads h.fits).1 m
    ((Value.mem_distinctValues h.sharp_written).mp hm)).2.2.2 (h.pipes rfl)

theorem pipeable (h : w.Spread R true ts' ts) {m : Value} (hm : m ∈ written ts') :
    (w.resolved R m).isPipeable = true ∧
      ∀ x ∈ (w.resolved R m).unionMembers, x.isPipeable = true :=
  (h.alternative hm).2.1.pipes (h.pipeable_written hm)

/-- The alternatives of what the written ones become are the original ones. -/
theorem similar_resolved (h : w.Spread R piped ts' ts) :
    Similar (ts.flatMap Value.unionMembers)
      (((written ts').map (w.resolved R)).flatMap Value.unionMembers) := by
  rw [List.flatMap_map]
  exact (alternatives_of_forall₂ h.reads h.fits).2.2.trans
    (Value.similar_flatMap_distinctValues h.sharp_written _).symm

theorem unionWith_resolved (h : w.Spread R piped ts' ts) :
    unionWith piped ((written ts').map (w.resolved R)) = unionWith piped ts :=
  unionWith_congr h.sharp h.similar_resolved.symm

/-- A union without texts is the original one. -/
theorem unionWith_of_free (h : w.Spread R piped ts' ts)
    (hfree : ∀ m ∈ written ts', m.isTextFree = true) :
    unionWith piped ts = .union piped (written ts') := by
  have hsame : (written ts').map (w.resolved R) = written ts' := by
    rw [List.map_congr_left (g := id) fun m hm => ?_, List.map_id]
    refine ((h.alternative hm).2.1.changes.resolve_right fun hm' => ?_).symm
    rw [hfree m hm] at hm'
    cases hm'
  have hflat : (written ts').flatMap Value.unionMembers = written ts' :=
    flatMap_unionMembers fun m hm => (h.alternative hm).1
  have hkept : Value.distinctValues (written ts') = written ts' :=
    Value.distinctValues_eq_of_similar h.sharp_written
      (Value.similar_distinctValues h.sharp_written)
  rw [← h.unionWith_resolved, hsame, unionWith_eq_union, hflat, hkept]
  rw [hflat, hkept]
  exact h.several

/-- The union is made anew as it was written. -/
theorem makes (h : w.Spread R piped ts' ts) :
    (if piped then w.pipeAll ((written ts').map (w.resolved R))
      else w.checkedUnion ((written ts').map (w.resolved R))) = .ok (unionWith piped ts) := by
  have hproper : ∀ t ∈ (written ts').map (w.resolved R), t.IsProper := by
    intro t ht
    obtain ⟨m, hm, rfl⟩ := List.mem_map.mp ht
    exact (h.alternative hm).2.1.isProper_right
  cases piped with
  | true =>
    rw [← h.unionWith_resolved, if_pos rfl, pipeAll_eq_unionWith]
    · intro t ht
      refine ⟨hproper t ht, ?_⟩
      obtain ⟨m, hm, rfl⟩ := List.mem_map.mp ht
      exact (h.pipeable hm).1
    · intro x hx
      obtain ⟨t, ht, hx⟩ := List.mem_flatMap.mp hx
      obtain ⟨m, hm, rfl⟩ := List.mem_map.mp ht
      obtain ⟨hu, hx'⟩ := (h.alternative hm).2.1.flat x hx
      exact ⟨hu, hx', (h.pipeable hm).2 x hx⟩
    · exact h.sharp.of_similar h.similar_resolved.symm
    · rw [List.length_map]
      exact h.several
  | false =>
    rw [← h.unionWith_resolved, if_neg Bool.false_ne_true, checkedUnion_of_not_refused hproper]
    · rfl
    · intro t ht
      obtain ⟨m, hm, rfl⟩ := List.mem_map.mp ht
      exact (h.alternative hm).2.2

theorem resolves (h : w.Spread R piped ts' ts) :
    w.resolveParts R (.union piped (written ts')) = .ok (unionWith piped ts) := by
  rw [resolveParts, resolveAll_map fun m hm => (h.alternative hm).2.1]
  change (if _ then _ else if piped then _ else _) = _
  split
  · next hsame =>
    -- Nothing changed, so there was nothing to resolve.
    have hpairs := Value.itemwise_tests.mp hsame
    rw [List.forall₂_map_right_iff, List.forall₂_same] at hpairs
    rw [h.unionWith_of_free]
    · rfl
    · intro m hm
      rw [Value.isTextFree_eq_of_same (hpairs m hm)]
      exact (h.alternative hm).2.1.isTextFree
  · exact h.makes

theorem unionMembers_original (h : w.Spread R piped ts' ts) :
    (unionWith piped ts).unionMembers =
      Value.distinctValues (ts.flatMap Value.unionMembers) :=
  unionMembers_unionWith h.sharp fun _ hm => (h.original hm).1

theorem mem_original (h : w.Spread R piped ts' ts) {m : Value}
    (hm : m ∈ (unionWith piped ts).unionMembers) : m ∈ ts.flatMap Value.unionMembers := by
  rw [h.unionMembers_original] at hm
  exact (Value.mem_distinctValues h.sharp).mp hm

/-- The union of the original types is a type without texts. -/
theorem result (h : w.Spread R piped ts' ts) :
    (unionWith piped ts).IsProper ∧ (unionWith piped ts).isTextFree = true := by
  obtain hm | ⟨ms, hms, hin⟩ := mem_unionWith piped h.sharp
  · exact (h.original hm).2
  · rw [hms]
    exact ⟨⟨nofun, nofun, nofun⟩,
      Value.all_eq_true.mpr fun m hm => (h.original (hin m hm)).2.2⟩

theorem pipeable_result (h : w.Spread R true ts' ts) :
    (unionWith true ts).isPipeable = true ∧
      ∀ m ∈ (unionWith true ts).unionMembers, m.isPipeable = true := by
  have hall : ∀ x ∈ ts.flatMap Value.unionMembers, x.isPipeable = true := by
    intro x hx
    obtain ⟨t, ht, hx⟩ := List.mem_flatMap.mp (h.similar_resolved.mem_iff.mp hx)
    obtain ⟨m, hm, rfl⟩ := List.mem_map.mp ht
    exact (h.pipeable hm).2 x hx
  refine ⟨?_, fun m hm => hall m (h.mem_original hm)⟩
  obtain hm | ⟨ms, hms, -⟩ := mem_unionWith true h.sharp
  · exact hall _ hm
  · rw [hms]
    rfl

/-- A union with texts is read as the union of the original types. -/
theorem reads_union (h : w.Spread R piped ts' ts) :
    w.Reads R (.union piped (written ts')) (unionWith piped ts) where
  isProper_left := ⟨nofun, nofun, nofun⟩
  isProper_right := h.result.1
  resolves := h.resolves
  isTextFree := h.result.2
  changes := by
    cases hall : Value.isTextFree.all (written ts') with
    | false => exact .inr hall
    | true => exact .inl (h.unionWith_of_free (Value.all_eq_true.mp hall)).symm
  passes := fun _ => rfl
  flat := fun m hm =>
    ⟨(h.original (h.mem_original hm)).1, (h.original (h.mem_original hm)).2.1⟩
  pipes := by
    intro hpiped
    cases piped with
    | false => cases hpiped
    | true => exact h.pipeable_result
  alternatives := by
    intro m hm
    obtain ⟨hu, hbecomes, hr⟩ := h.alternative hm
    refine ⟨hu, hbecomes, fun _ => hr, fun hpiped => ?_⟩
    cases piped with
    | false => cases hpiped
    | true => exact h.pipeable_written hm
  similar := by
    rw [h.unionMembers_original]
    refine (Value.similar_distinctValues h.sharp).trans (h.similar_resolved.trans ?_)
    rw [List.flatMap_map]
    exact .refl

theorem unionWith_written (h : w.Spread R piped ts' ts) :
    unionWith piped ts' = .union piped (written ts') := unionWith_eq_union h.several

end Spread

end TypeProjection.Annotation.World
