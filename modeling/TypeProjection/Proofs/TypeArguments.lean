import TypeProjection.Proofs.TextUnions

/-!
# Arguments with texts

A generic class, a generic name, a special word, a union and a type with notes take texts in place
of types. What they make of arguments that are read as others is read as what they make of those.
-/

namespace TypeProjection.Annotation.World

open Value (Sharp)

variable {w : World} {use : TypeUse} {R : Pending → Except Fault Value}
variable {index index' target v v' : Value} {ts xs xs' : List Value} {c : ClassRef} {m name : String}

theorem mapM_forall₂ {α β : Type} {P : α → α → Prop} {Q : β → β → Prop} {f : α → Except Fault β}
    {xs xs' : List α} {ys : List β} (h : List.Forall₂ P xs' xs)
    (hf : ∀ {x' x y}, P x' x → f x = .ok y → ∃ y', f x' = .ok y' ∧ Q y' y)
    (hys : xs.mapM f = .ok ys) : ∃ ys', xs'.mapM f = .ok ys' ∧ List.Forall₂ Q ys' ys := by
  simp only [mapM_eq_ok] at hys ⊢
  induction h generalizing ys with
  | nil =>
    cases hys
    exact ⟨[], .nil, .nil⟩
  | cons hx _ ih =>
    cases hys with
    | cons hy hys =>
      obtain ⟨y', hy', hq⟩ := hf hx hy
      obtain ⟨ys', hys', hqs⟩ := ih hys
      exact ⟨y' :: ys', .cons hy' hys', .cons hq hqs⟩

theorem asType_forall₂ (h : List.Forall₂ (w.Argument R) xs' xs)
    (hts : xs.mapM (asType "" false) = .ok ts) :
    ∃ ts', xs'.mapM (asType "" false) = .ok ts' ∧ List.Forall₂ (w.Reads R) ts' ts :=
  mapM_forall₂ h Argument.asType hts

theorem checkType_forall₂ (hm : use.module = "") (h : List.Forall₂ (w.Argument R) xs' xs)
    (hts : xs.mapM (w.checkType use) = .ok ts) :
    ∃ ts', xs'.mapM (w.checkType use) = .ok ts' ∧ List.Forall₂ (w.Reads R) ts' ts :=
  mapM_forall₂ h (fun h => h.checkType hm) hts

/-! An index is one argument or several. -/

theorem Argument.ne_tuple (h : w.Argument R v' v) :
    (∀ items, v' ≠ .tuple items) ∧ ∀ items, v ≠ .tuple items := by
  cases h with
  | absent => exact ⟨nofun, nofun⟩
  | typed h => exact ⟨h.isProper_left.ne_tuple, h.isProper_right.ne_tuple⟩
  | text _ ha _ =>
    refine ⟨nofun, ?_⟩
    obtain rfl | ha := ha
    · exact nofun
    · exact ha.ne_tuple

/-- An index with texts, and the index that it stands for. -/
inductive Index (w : World) (R : Pending → Except Fault Value) : Value → Value → Prop
  | one {a' a : Value} (h : w.Argument R a' a) : w.Index R a' a
  | several {xs' xs : List Value} (h : List.Forall₂ (w.Argument R) xs' xs) :
    w.Index R (.tuple xs') (.tuple xs)

theorem itemsOf_eq_singleton (h : ∀ items, v ≠ .tuple items) : itemsOf v = [v] := by
  cases v with
  | tuple items => exact (h items rfl).elim
  | _ => rfl

theorem Index.arguments (h : w.Index R index' index) :
    List.Forall₂ (w.Argument R) (itemsOf index') (itemsOf index) := by
  cases h with
  | one h =>
    rw [itemsOf_eq_singleton h.ne_tuple.1, itemsOf_eq_singleton h.ne_tuple.2]
    exact .cons h .nil
  | several h => exact h

/-- A check of a whole index refuses several arguments. -/
theorem Index.checkType (h : w.Index R index' index) (hm : use.module = "")
    (ht : w.checkType use index = .ok v) :
    ∃ v', w.checkType use index' = .ok v' ∧ w.Reads R v' v := by
  cases h with
  | one h => exact h.checkType hm ht
  | several h =>
    obtain ⟨hv, hr⟩ := checkType_eq_ok.mp ht
    cases hv
    cases hr

/-- Targets that take a type for each of their arguments: classes without a parameter for lists of
parameters, generic names other than that of callables, and special words for a single type. -/
inductive TakesTypes (w : World) : Value → Prop
  | native {c : ClassRef} (he : w.metaclassOf c ≠ .enumeration)
      (hs : w.subscriptionOf c = some .native) (hc : c ≠ callableRoot) : w.TakesTypes (.cls c)
  | generic {c : ClassRef} (he : w.metaclassOf c ≠ .enumeration)
      (hs : w.subscriptionOf c = some .generic) (hr : isGenericRoot c = false)
      (hp : ∀ p ∈ w.parametersOf c, ∀ i, p ≠ .paramSpec i) : w.TakesTypes (.cls c)
  | genericName {name : String} (hn : name ≠ "Callable") : w.TakesTypes (.alias name)
  | word {name : String}
      (hn : name ∈ ["ClassVar", "Final", "TypeGuard", "Unpack", "Required", "NotRequired"]) :
      w.TakesTypes (.form name)

/-- Arguments are taken as they are where no parameter stands for a list of parameters. -/
theorem prepare_eq {params arguments : List Value} {target : String}
    (h : ∀ p ∈ params, ∀ i, p ≠ .paramSpec i) :
    prepare target params arguments = .ok arguments := by
  have hstep : ∀ qs : List Value, (∀ p ∈ qs, ∀ i, p ≠ .paramSpec i) →
      qs.foldlM (fun args v => prepareFor target params args v) arguments = .ok arguments := by
    intro qs hqs
    induction qs with
    | nil => rfl
    | cons q qs ih =>
      have hq : prepareFor target params arguments q = .ok arguments := by
        cases q with
        | paramSpec i => exact (hqs _ List.mem_cons_self i rfl).elim
        | _ => rfl
      rw [List.foldlM_cons, hq]
      exact ih fun p hp => hqs p (List.mem_cons_of_mem q hp)
  exact hstep params h

theorem applyGeneric_eq_ok (hr : isGenericRoot c = false)
    (hp : ∀ p ∈ w.parametersOf c, ∀ i, p ≠ .paramSpec i) :
    w.applyGeneric c index = .ok v ↔ ∃ ts, (itemsOf index).mapM (asType "" false) = .ok ts ∧
      checkCount (w.displayClass c) ts.length (w.parametersOf c).length = .ok () ∧
      v = .applied "" c ts := by
  rw [applyGeneric, bind_eq_ok]
  refine exists_congr fun ts => and_congr_right fun _ => ?_
  rw [if_neg (by rw [hr]; exact Bool.false_ne_true)]
  dsimp only
  rw [prepare_eq hp]
  constructor
  · intro h
    obtain ⟨ys, hys, h⟩ := bind_eq_ok.mp h
    cases hys
    obtain ⟨_, hcount, hv⟩ := bind_eq_ok.mp h
    cases hv
    exact ⟨hcount, rfl⟩
  · rintro ⟨hcount, rfl⟩
    change (checkCount _ _ _ >>= fun _ => _) = _
    rw [hcount]
    rfl

/-- What the message of a check says does not matter where the check succeeds. -/
theorem checkType_message {a : Value} {m' : String} :
    w.checkType { message := m } a = .ok v ↔ w.checkType { message := m' } a = .ok v := by
  rw [checkType_eq_ok, checkType_eq_ok]

theorem mapM_checkType_message {m' : String} :
    xs.mapM (w.checkType { message := m }) = .ok ts ↔
      xs.mapM (w.checkType { message := m' }) = .ok ts := by
  rw [mapM_eq_ok, mapM_eq_ok]
  have hiff : ∀ x t, w.checkType { message := m } x = .ok t ↔
      w.checkType { message := m' } x = .ok t := fun _ _ => checkType_message
  simp only [hiff]

/-- The open form of a tuple adds nothing: the ellipsis passes as a type. -/
theorem applyAlias_tuple :
    w.applyAlias "Tuple" index = .ok v ↔
      ∃ ts, (itemsOf index).mapM
          (w.checkType { message := "Tuple[t0, t1, ...]: each t must be a type." }) = .ok ts ∧
        v = .applied "Tuple" (aliasOrigin "Tuple") ts := by
  simp only [applyAlias]
  split
  · next hlast =>
    by_cases hlength : 2 ≤ (itemsOf index).length
    · rw [if_pos (by simpa using hlength), bind_pure_eq_ok]
      have hitems := List.dropLast_append_getLast? _ hlast
      have hellipsis : [Value.ellipsis].mapM
          (w.checkType { message := "Tuple[t0, t1, ...]: each t must be a type." }) =
            .ok [.ellipsis] := rfl
      rw [← hitems, List.dropLast_concat, List.mapM_append, hellipsis]
      constructor
      · rintro ⟨ts, hts, rfl⟩
        rw [mapM_checkType_message.mp hts]
        exact ⟨_, rfl, rfl⟩
      · rintro ⟨us, hus, rfl⟩
        obtain ⟨ts, hts, hus⟩ := bind_eq_ok.mp hus
        cases hus
        exact ⟨ts, mapM_checkType_message.mp hts, rfl⟩
    · rw [if_neg (by simpa using hlength), bind_pure_eq_ok]
  · rw [if_neg (by simp), bind_pure_eq_ok]

theorem applyAlias_eq_ok (hn : name ≠ "Callable") (hn' : name ≠ "Tuple") :
    w.applyAlias name index = .ok v ↔
      ∃ ts, (itemsOf index).mapM
          (w.checkType { message := "Parameters to generic types must be types." }) = .ok ts ∧
        checkCount ("typing." ++ name) ts.length
          (((genericName? name).bind GenericName.arity).getD ts.length) = .ok () ∧
        v = .applied name (aliasOrigin name) ts := by
  simp only [applyAlias]
  rw [bind_eq_ok]
  refine exists_congr fun ts => and_congr_right fun _ => ?_
  rw [bind_eq_ok]
  constructor
  · rintro ⟨_, hcount, hv⟩
    cases hv
    exact ⟨hcount, rfl⟩
  · rintro ⟨hcount, rfl⟩
    exact ⟨(), hcount, rfl⟩

/-- The forms that a special word for a single type allows in it. -/
def wordAllowsForms (name : String) : Bool := name == "Required" || name == "NotRequired"

theorem applyForm_word
    (hn : name ∈ ["ClassVar", "Final", "TypeGuard", "Unpack", "Required", "NotRequired"]) :
    w.applyForm name index = .ok v ↔
      ∃ t, w.checkType { message := "", allowsForms := wordAllowsForms name } index = .ok t ∧
        v = .formed name [t] := by
  have hmessage : ∀ {m : String} {f : Bool} {t : Value},
      w.checkType { message := m, allowsForms := f } index = .ok t ↔
        w.checkType { message := "", allowsForms := f } index = .ok t := by
    intro m f t
    rw [checkType_eq_ok, checkType_eq_ok]
  simp only [List.mem_cons, List.not_mem_nil, or_false] at hn
  obtain rfl | rfl | rfl | rfl | rfl | rfl := hn
  all_goals
    simp only [applyForm]
    rw [bind_pure_eq_ok]
    exact exists_congr fun t => and_congr_left fun _ => hmessage

/-- A class that is no enumeration takes arguments in its own way, unless it is a model. -/
theorem applyClass_eq_ok (he : w.metaclassOf c ≠ .enumeration) {way : Subscription}
    (hs : w.subscriptionOf c = some way) :
    w.applyClass c index = .ok v ↔ w.metaclassOf c ≠ .model ∧
      (match way with
        | .native => .ok (.native c (itemsOf index))
        | .generic => w.applyGeneric c index
        | .annotated => w.applyAnnotated (itemsOf index)
        | .initVar => .ok (.initVar index)
        | .callable => w.applyNativeCallable index) = Except.ok v := by
  unfold applyClass
  rw [if_neg (by simpa using he)]
  by_cases hm : w.metaclassOf c = .model
  · rw [if_pos (by simpa using hm)]
    exact ⟨fun h => (nomatch h), fun h => (h.1 hm).elim⟩
  · rw [if_neg (by simpa using hm), hs, and_iff_right hm]
    cases way with
    | _ => rfl

/-- Is a target a class that keeps its arguments as they were written? -/
def KeepsWritten (w : World) (target : Value) : Prop :=
  ∃ c, target = .cls c ∧ w.subscriptionOf c = some .native

/-- What a target makes of arguments with texts in place of types. -/
theorem subscript_takesTypes (ht : w.TakesTypes target) (h : w.Index R index' index)
    (hkept : w.KeepsWritten target → KeepsAbsence (itemsOf index') (itemsOf index))
    (hv : w.subscript target index = .ok v) :
    ∃ v', w.subscript target index' = .ok v' ∧ w.Reads R v' v ∧ ∀ s m f, v' ≠ .forward s m f := by
  have hlength : ∀ {ts' ts : List Value}, List.Forall₂ (w.Reads R) ts' ts →
      ts'.length = ts.length := List.Forall₂.length_eq
  cases ht with
  | @native c he hs hc =>
    obtain ⟨hm, hv⟩ := (applyClass_eq_ok he hs).mp hv
    cases hv
    refine ⟨_, (applyClass_eq_ok he hs).mpr ⟨hm, rfl⟩, ?_, nofun⟩
    exact reads_native hc h.arguments (hkept ⟨c, rfl, hs⟩)
  | @generic c he hs hr hp =>
    obtain ⟨hm, hv⟩ := (applyClass_eq_ok he hs).mp hv
    obtain ⟨ts, hts, hcount, rfl⟩ := (applyGeneric_eq_ok hr hp).mp hv
    obtain ⟨ts', hts', hreads⟩ := asType_forall₂ h.arguments hts
    refine ⟨.applied "" c ts', (applyClass_eq_ok he hs).mpr ⟨hm, ?_⟩, reads_applied "" c hreads,
      nofun⟩
    rw [← hlength hreads] at hcount
    exact (applyGeneric_eq_ok hr hp).mpr ⟨ts', hts', hcount, rfl⟩
  | @genericName name hn =>
    by_cases hn' : name = "Tuple"
    · subst hn'
      obtain ⟨ts, hts, rfl⟩ := applyAlias_tuple.mp hv
      obtain ⟨ts', hts', hreads⟩ := checkType_forall₂ rfl h.arguments hts
      exact ⟨_, applyAlias_tuple.mpr ⟨ts', hts', rfl⟩,
        reads_applied _ _ hreads, nofun⟩
    · obtain ⟨ts, hts, hcount, rfl⟩ := (applyAlias_eq_ok hn hn').mp hv
      obtain ⟨ts', hts', hreads⟩ := checkType_forall₂ rfl h.arguments hts
      rw [← hlength hreads] at hcount
      exact ⟨_, (applyAlias_eq_ok hn hn').mpr ⟨ts', hts', hcount, rfl⟩,
        reads_applied _ _ hreads, nofun⟩
  | @word name hn =>
    obtain ⟨t, ht, rfl⟩ := (applyForm_word hn).mp hv
    obtain ⟨t', ht', hread⟩ := h.checkType rfl ht
    refine ⟨_, (applyForm_word hn).mpr ⟨t', ht', rfl⟩, ?_, nofun⟩
    refine reads_formed ?_ (.cons hread .nil)
    rintro rfl
    simp at hn

/-! Unions. -/

/-- Equality of the types among two lists of alternatives is identity, and there are several of them
as written in the first. -/
structure Discerned (xs' xs : List Value) : Prop where
  sharp : ∀ {ts}, xs.mapM (asType "" false) = .ok ts → Sharp (ts.flatMap Value.unionMembers)
  sharp_written : ∀ {ts'}, xs'.mapM (asType "" false) = .ok ts' →
    Sharp (ts'.flatMap Value.unionMembers)
  several : ∀ {ts'}, xs'.mapM (asType "" false) = .ok ts' →
    2 ≤ (Value.distinctValues (ts'.flatMap Value.unionMembers)).length

/-- What is said of an alternative that is no type. -/
def alternativeMessage : String := "Union[arg, ...]: each arg must be a type."

theorem checkedUnion_eq_ok : w.checkedUnion xs = .ok v ↔
    ∃ ts, xs.mapM (w.checkType { message := alternativeMessage }) = .ok ts ∧ v = unionOf ts :=
  bind_pure_eq_ok

theorem asType_of_checkType (h : xs.mapM (w.checkType { message := m }) = .ok ts) :
    xs.mapM (asType "" false) = .ok ts ∧ ∀ t ∈ ts, refused true false t = false := by
  refine ⟨mapM_eq_ok.mpr ((mapM_eq_ok.mp h).imp fun _ _ ht => (checkType_eq_ok.mp ht).1),
    fun t ht => ?_⟩
  obtain ⟨x, -, hx⟩ := exists_of_mapM h ht
  exact (checkType_eq_ok.mp hx).2

/-- The types of a union, where they are checked. -/
theorem spread_of_arguments (h : List.Forall₂ (w.Argument R) xs' xs) (hd : Discerned xs' xs)
    (hts : xs.mapM (w.checkType { message := alternativeMessage }) = .ok ts) (piped : Bool)
    (hp : piped = true → ∀ x' ∈ xs', x'.isPipeable = true) :
    ∃ ts', xs'.mapM (w.checkType { message := alternativeMessage }) = .ok ts' ∧
      w.Spread R piped ts' ts := by
  obtain ⟨ts', hts', hreads⟩ := checkType_forall₂ rfl h hts
  obtain ⟨hasType, hfits⟩ := asType_of_checkType hts
  have hasType' := (asType_of_checkType hts').1
  refine ⟨ts', hts', hreads, hfits, fun hpiped t' ht' => ?_, hd.sharp hasType,
    hd.sharp_written hasType', hd.several hasType'⟩
  obtain ⟨x', hx', ht'⟩ := exists_of_mapM hasType' ht'
  exact isPipeable_of_asType ht' (hp hpiped x' hx')

/-- A union of arguments with texts. -/
theorem checkedUnion_reads (h : List.Forall₂ (w.Argument R) xs' xs) (hd : Discerned xs' xs)
    (hv : w.checkedUnion xs = .ok v) :
    ∃ v', w.checkedUnion xs' = .ok v' ∧ w.Reads R v' v ∧ ∀ s m f, v' ≠ .forward s m f := by
  obtain ⟨ts, hts, rfl⟩ := checkedUnion_eq_ok.mp hv
  obtain ⟨ts', hts', hspread⟩ := spread_of_arguments h hd hts false nofun
  refine ⟨.union false (written ts'), checkedUnion_eq_ok.mpr ⟨ts', hts', ?_⟩,
    hspread.reads_union, nofun⟩
  exact hspread.unionWith_written.symm

/-- One of several types. -/
theorem subscript_union (h : w.Index R index' index)
    (hd : Discerned (itemsOf index') (itemsOf index))
    (hv : w.subscript (.form "Union") index = .ok v) :
    ∃ v', w.subscript (.form "Union") index' = .ok v' ∧ w.Reads R v' v ∧
      ∀ s m f, v' ≠ .forward s m f := by
  have hunion : ∀ {i : Value}, i ≠ .tuple [] →
      w.subscript (.form "Union") i = w.checkedUnion (itemsOf i) := by
    intro i hi
    change w.applyForm "Union" i = _
    simp only [applyForm]
  have hne : index ≠ .tuple [] := by
    rintro rfl
    cases hv
  have hne' : index' ≠ .tuple [] := by
    rintro rfl
    cases h with
    | one h => exact h.ne_tuple.1 [] rfl
    | several h =>
      cases h
      exact hne rfl
  rw [hunion hne] at hv
  rw [hunion hne']
  exact checkedUnion_reads h.arguments hd hv

/-- A check leaves a type as it is. -/
theorem checkType_idem (ht : w.checkType { message := m } v = .ok v') {m' : String} :
    w.checkType { message := m' } v' = .ok v' := by
  obtain ⟨hasType, hfits⟩ := checkType_eq_ok.mp ht
  refine checkType_eq_ok.mpr ⟨?_, hfits⟩
  cases v with
  | none =>
    cases hasType
    rfl
  | str s =>
    simp only [asType] at hasType
    split at hasType
    · cases hasType
      rfl
    · cases hasType
  | _ =>
    cases hasType
    rfl

/-- A type or nothing is a union with the absence of a value. -/
theorem applyForm_optional :
    w.applyForm "Optional" index = .ok v ↔ w.checkedUnion [index, .none] = .ok v := by
  simp only [applyForm]
  rw [bind_eq_ok, checkedUnion_eq_ok]
  constructor
  · rintro ⟨t, ht, hv⟩
    obtain ⟨ts, hts, rfl⟩ := checkedUnion_eq_ok.mp hv
    refine ⟨ts, mapM_eq_ok.mpr ?_, rfl⟩
    cases mapM_eq_ok.mp hts with
    | cons ht' hrest =>
      rw [checkType_idem ht] at ht'
      cases ht'
      cases hrest with
      | cons hnone hnil =>
        cases hnone
        cases hnil
        exact .cons (checkType_message.mp ht) (.cons rfl .nil)
  · rintro ⟨ts, hts, rfl⟩
    cases mapM_eq_ok.mp hts with
    | @cons _ t _ _ ht hrest =>
      refine ⟨t, checkType_message.mp ht, checkedUnion_eq_ok.mpr ⟨_, mapM_eq_ok.mpr ?_, rfl⟩⟩
      cases hrest with
      | cons hnone hnil =>
        cases hnone
        cases hnil
        exact .cons (checkType_idem ht) (.cons rfl .nil)

theorem subscript_optional (h : w.Argument R index' index)
    (hd : Discerned [index', .none] [index, .none])
    (hv : w.subscript (.form "Optional") index = .ok v) :
    ∃ v', w.subscript (.form "Optional") index' = .ok v' ∧ w.Reads R v' v ∧
      ∀ s m f, v' ≠ .forward s m f := by
  obtain ⟨v', hv', hreads⟩ :=
    checkedUnion_reads (.cons h (.cons .absent .nil)) hd (applyForm_optional.mp hv)
  exact ⟨v', applyForm_optional.mpr hv', hreads⟩

/-! Bars. -/

/-- How a bar between two values makes a union, if it does: of classes with bars, or as the special
word does. -/
def barKind : Value → Value → Option Bool
  | .none, .none => none
  | l, r =>
    if l.isPipeable && r.isPipeable then some true
    else if l.makesUnion || r.makesUnion then some false
    else none

variable {l l' r r' : Value} {piped : Bool}

theorem isPipeable_of_barKind (h : barKind l r = some true) :
    l.isPipeable = true ∧ r.isPipeable = true ∧ (l ≠ .none ∨ r ≠ .none) := by
  unfold barKind at h
  split at h
  · cases h
  next hn =>
  split at h
  · next hp =>
    rw [Bool.and_eq_true] at hp
    exact ⟨hp.1, hp.2, not_and_or.mp fun hboth => hn hboth.1 hboth.2⟩
  · split at h <;> cases h

theorem pipe_eq_of_barKind (h : barKind l r = some piped) :
    w.pipe l r = if piped then .ok (pipedUnion [l, r]) else w.checkedUnion [l, r] := by
  cases piped with
  | true =>
    obtain ⟨hl, hr, hn⟩ := isPipeable_of_barKind h
    exact pipe_of_isPipeable hl hr hn
  | false =>
    unfold barKind at h
    split at h
    · cases h
    split at h
    · cases h
    next hp =>
    split at h
    · next hm =>
      unfold pipe
      split
      · cases hm
      · cases hm
      · cases hm
      · dsimp only
        rw [if_neg fun hc => hp (Bool.and_eq_true_iff.mp hc).1, if_pos hm]
        rfl
    · cases h

theorem pipedUnion_of_checkType (hts : xs.mapM (w.checkType { message := m }) = .ok ts)
    (hp : ∀ x ∈ xs, x.isPipeable = true)
    (h : ∀ y ∈ ts.flatMap Value.unionMembers, y.IsProper) : pipedUnion xs = unionWith true ts := by
  refine pipedUnion_eq_unionWith ?_ h
  rw [mapM_eq_ok] at hts
  have hboth := (List.forall₂_and_left xs ts).mpr ⟨hp, hts⟩
  exact hboth.imp fun _ _ hx => ⟨(checkType_eq_ok.mp hx.2).1, hx.1⟩

/-- What a bar makes of values with texts, if both are types and it makes the same kind of union
of them. -/
theorem pipe_reads (hl : w.Argument R l' l) (hr : w.Argument R r' r)
    (hkind : barKind l r = some piped) (hkind' : barKind l' r' = some piped)
    (hd : Discerned [l', r'] [l, r])
    (hts : ∃ ts, [l, r].mapM (w.checkType { message := alternativeMessage }) = .ok ts)
    (hv : w.pipe l r = .ok v) :
    ∃ v', w.pipe l' r' = .ok v' ∧ w.Reads R v' v ∧ ∀ s m f, v' ≠ .forward s m f := by
  have hargs : List.Forall₂ (w.Argument R) [l', r'] [l, r] := .cons hl (.cons hr .nil)
  rw [pipe_eq_of_barKind hkind] at hv
  rw [pipe_eq_of_barKind hkind']
  cases piped with
  | false => exact checkedUnion_reads hargs hd hv
  | true =>
    cases hv
    obtain ⟨ts, hts⟩ := hts
    obtain ⟨hpl, hpr, -⟩ := isPipeable_of_barKind hkind
    obtain ⟨hpl', hpr', -⟩ := isPipeable_of_barKind hkind'
    have hp : ∀ x ∈ [l, r], x.isPipeable = true := by simp [hpl, hpr]
    have hp' : ∀ x ∈ [l', r'], x.isPipeable = true := by simp [hpl', hpr']
    obtain ⟨ts', hts', hspread⟩ := spread_of_arguments hargs hd hts true fun _ => hp'
    rw [pipedUnion_of_checkType hts hp fun x hx => (hspread.original hx).2.1]
    refine ⟨.union true (written ts'), ?_, hspread.reads_union, nofun⟩
    rw [← hspread.unionWith_written, if_pos rfl,
      pipedUnion_of_checkType hts' hp' fun x hx => ?_]
    have hwritten := (Value.mem_distinctValues hspread.sharp_written).mpr hx
    exact (hspread.alternative hwritten).2.1.isProper_left

/-! Notes and callables. -/

/-- A type with notes; the notes are no types and stay as they are. -/
theorem subscript_annotated (he : w.metaclassOf c ≠ .enumeration)
    (hs : w.subscriptionOf c = some .annotated) {notes : List Value} (h : w.Argument R v' v)
    {t : Value} (ht : w.subscript (.cls c) (.tuple (v :: notes)) = .ok t) :
    ∃ t', w.subscript (.cls c) (.tuple (v' :: notes)) = .ok t' ∧ w.Reads R t' t ∧
      ∀ s m f, t' ≠ .forward s m f := by
  obtain ⟨hm, ht⟩ := (applyClass_eq_ok he hs).mp ht
  have hdone : ∃ t', w.applyAnnotated (v' :: notes) = .ok t' ∧ w.Reads R t' t ∧
      ∀ s m f, t' ≠ .forward s m f := by
    cases notes with
    | nil => cases ht
    | cons note notes =>
      obtain ⟨a, ha, hat⟩ := bind_eq_ok.mp ht
      obtain ⟨a', ha', hread⟩ := h.checkType rfl ha
      obtain ⟨t', ht', hreads⟩ := reads_annotate hread hat
      refine ⟨t', bind_eq_ok.mpr ⟨a', ha', ht'⟩, hreads, ?_⟩
      obtain ⟨x, more, rfl, -, -⟩ := annotate_eq_ok ht'
      exact nofun
  obtain ⟨t', ht', hreads⟩ := hdone
  exact ⟨t', (applyClass_eq_ok he hs).mpr ⟨hm, ht'⟩, hreads⟩

/-- What is said of a result of a callable that is no type. -/
def resultMessage : String := "Callable[args, result]: result must be a type."

theorem applyAlias_callable {x : Value} :
    w.applyAlias "Callable" (.tuple [.list xs, x]) = .ok v ↔
      ∃ t, w.checkType { message := resultMessage } x = .ok t ∧
        ∃ ts, xs.mapM (asType "" false) = .ok ts ∧
          v = .applied "Callable" (aliasOrigin "Callable") (ts ++ [t]) := by
  simp only [applyAlias]
  rw [bind_eq_ok]
  exact exists_congr fun t => and_congr_right fun _ => bind_pure_eq_ok

/-- A callable whose parameters are listed. -/
theorem subscript_callable {x x' : Value} (h : List.Forall₂ (w.Argument R) xs' xs)
    (hx : w.Argument R x' x)
    (hv : w.subscript (.alias "Callable") (.tuple [.list xs, x]) = .ok v) :
    ∃ v', w.subscript (.alias "Callable") (.tuple [.list xs', x']) = .ok v' ∧ w.Reads R v' v ∧
      ∀ s m f, v' ≠ .forward s m f := by
  obtain ⟨t, ht, ts, hts, rfl⟩ := applyAlias_callable.mp hv
  obtain ⟨t', ht', hread⟩ := hx.checkType rfl ht
  obtain ⟨ts', hts', hreads⟩ := asType_forall₂ h hts
  refine ⟨_, applyAlias_callable.mpr ⟨t', ht', ts', hts', rfl⟩, reads_applied _ _ ?_, nofun⟩
  exact List.rel_append hreads (.cons hread .nil)

end TypeProjection.Annotation.World
