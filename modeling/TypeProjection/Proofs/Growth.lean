import TypeProjection.Proofs.Record

/-!
# How a registry grows

`Adds` says what a walk may do to a registry: new declarations stand behind the old ones, nothing
else is touched, and every new one is finished. It has its record, all that it needs is known, it
was asked for, and it stands behind its base unless that base was still in progress. Growth
composes, so it is stated once for a step and holds of every run.
-/

namespace TypeProjection

namespace Registry

variable {τ : Type}

/-- Every declaration bears the name of its type. -/
structure Named (U : Universe τ) (r : Registry τ) : Prop where
  types : ∀ d ∈ r.types ++ r.inProgress, d.name = r.options.rename (U.name d.source)
  enums : ∀ e ∈ r.enums, e.name = r.options.rename (U.name e.source)

variable [BEq τ]

/-- A declaration, registered or in progress, is found under the key. -/
def Knows (r : Registry τ) (k : τ) : Prop := ∃ d ∈ r.types ++ r.inProgress, (d.source == k) = true

/-- The declaration of an item is found. -/
def Has (r : Registry τ) : Item τ → Prop
  | .type k => r.Knows k
  | .enumeration t => ∃ e ∈ r.enums, e.source = t ∨ (e.source == t) = true

theorem lookupType_eq_none_iff {k : τ} {ds : List (TypeDeclaration τ)} :
    lookupType k ds = none ↔ ∀ d ∈ ds, (d.source == k) = false := by
  simp [lookupType]

theorem mem_of_lookupType {k : τ} {d : TypeDeclaration τ} {ds : List (TypeDeclaration τ)}
    (h : lookupType k ds = some d) : d ∈ ds ∧ (d.source == k) = true := by
  unfold lookupType at h
  have hd := List.find?_some h
  exact ⟨List.mem_of_find?_eq_some h, hd⟩

theorem mem_of_findType {r : Registry τ} {k : τ} {d : TypeDeclaration τ}
    (h : r.findType k = some d) : d ∈ r.types ++ r.inProgress ∧ (d.source == k) = true := by
  unfold findType at h
  split at h
  · cases h
    obtain ⟨hm, hd⟩ := mem_of_lookupType ‹_›
    exact ⟨List.mem_append_left _ hm, hd⟩
  · obtain ⟨hm, hd⟩ := mem_of_lookupType h
    exact ⟨List.mem_append_right _ hm, hd⟩

theorem findType_eq_none_iff {r : Registry τ} {k : τ} : r.findType k = none ↔ ¬ r.Knows k := by
  constructor
  · rintro h ⟨d, hd, hk⟩
    unfold findType at h
    split at h
    · cases h
    rcases List.mem_append.mp hd with hd | hd
    · rw [lookupType_eq_none_iff.mp ‹_› d hd] at hk
      cases hk
    · rw [lookupType_eq_none_iff.mp h d hd] at hk
      cases hk
  · intro h
    cases hf : r.findType k with
    | none => rfl
    | some d => exact absurd ⟨d, mem_of_findType hf⟩ h

theorem findEnum_eq_none_iff {r : Registry τ} {t : τ} :
    r.findEnum t = none ↔ ∀ e ∈ r.enums, (e.source == t) = false := by
  simp [findEnum]

theorem mem_of_findEnum {r : Registry τ} {t : τ} {e : EnumDeclaration τ}
    (h : r.findEnum t = some e) : e ∈ r.enums ∧ (e.source == t) = true := by
  unfold findEnum at h
  have he := List.find?_some h
  exact ⟨List.mem_of_find?_eq_some h, he⟩

theorem putType_eq_append {d : TypeDeclaration τ} {ds : List (TypeDeclaration τ)}
    (h : ∀ e ∈ ds, (e.source == d.source) = false) : putType d ds = ds ++ [d] := by
  induction ds with
  | nil => rfl
  | cons e ds ih =>
    rw [putType, h e (List.mem_cons_self ..), ih fun e he => h e (List.mem_cons_of_mem _ he)]
    rfl

/-- The last declaration in a list is replaced by another one of its key. -/
theorem putType_concat {d e : TypeDeclaration τ} {ds : List (TypeDeclaration τ)}
    (h : ∀ a ∈ ds, (a.source == d.source) = false) (he : (e.source == d.source) = true) :
    putType d (ds ++ [e]) = ds ++ [d] := by
  induction ds with
  | nil => exact if_pos he
  | cons a ds ih =>
    rw [List.cons_append, putType, h a (List.mem_cons_self ..),
      ih fun a ha => h a (List.mem_cons_of_mem _ ha)]
    rfl

theorem putEnum_eq_append {d : EnumDeclaration τ} {ds : List (EnumDeclaration τ)}
    (h : ∀ e ∈ ds, (e.source == d.source) = false) : putEnum d ds = ds ++ [d] := by
  induction ds with
  | nil => rfl
  | cons e ds ih =>
    rw [putEnum, h e (List.mem_cons_self ..), ih fun e he => h e (List.mem_cons_of_mem _ he)]
    rfl

theorem mem_putType {d e : TypeDeclaration τ} {ds : List (TypeDeclaration τ)}
    (h : e ∈ putType d ds) : e = d ∨ e ∈ ds := by
  induction ds with
  | nil => exact .inl (List.mem_singleton.mp h)
  | cons a ds ih =>
    unfold putType at h
    split at h
    · rcases List.mem_cons.mp h with rfl | h
      · exact .inl rfl
      · exact .inr (List.mem_cons_of_mem _ h)
    · rcases List.mem_cons.mp h with rfl | h
      · exact .inr (List.mem_cons_self ..)
      · exact (ih h).imp_right (List.mem_cons_of_mem _)

theorem mem_putType_self {d : TypeDeclaration τ} {ds : List (TypeDeclaration τ)} :
    d ∈ putType d ds := by
  induction ds with
  | nil => exact List.mem_singleton_self d
  | cons a ds ih =>
    unfold putType
    split
    · exact List.mem_cons_self ..
    · exact List.mem_cons_of_mem _ ih

/-- Only the declaration of the same key is replaced. -/
theorem mem_putType_of_mem {d e : TypeDeclaration τ} {ds : List (TypeDeclaration τ)} (he : e ∈ ds)
    (hne : (e.source == d.source) = false) : e ∈ putType d ds := by
  induction ds with
  | nil => exact (List.not_mem_nil he).elim
  | cons a ds ih =>
    unfold putType
    rcases List.mem_cons.mp he with rfl | he
    · rw [hne]
      exact List.mem_cons_self ..
    · split
      · exact List.mem_cons_of_mem _ he
      · exact List.mem_cons_of_mem _ (ih he)

theorem mem_putEnum {d e : EnumDeclaration τ} {ds : List (EnumDeclaration τ)}
    (h : e ∈ putEnum d ds) : e = d ∨ e ∈ ds := by
  induction ds with
  | nil => exact .inl (List.mem_singleton.mp h)
  | cons a ds ih =>
    unfold putEnum at h
    split at h
    · rcases List.mem_cons.mp h with rfl | h
      · exact .inl rfl
      · exact .inr (List.mem_cons_of_mem _ h)
    · rcases List.mem_cons.mp h with rfl | h
      · exact .inr (List.mem_cons_self ..)
      · exact (ih h).imp_right (List.mem_cons_of_mem _)

/-! Every elementary change keeps declarations named after their types. -/

section Named

variable {U : Universe τ} {r : Registry τ} {d : TypeDeclaration τ}

omit [BEq τ] in
theorem Named.withEvents (h : r.Named U) (es : List Event) : Named U { r with events := es } :=
  ⟨h.types, h.enums⟩

theorem Named.claimType (h : r.Named U) (hd : d.name = r.options.rename (U.name d.source)) :
    (r.claimType d).Named U := by
  refine ⟨fun e he => ?_, h.enums⟩
  rcases List.mem_append.mp he with he | he
  · exact h.types e (List.mem_append_left _ he)
  rcases mem_putType he with rfl | he
  · exact hd
  · exact h.types e (List.mem_append_right _ he)

theorem Named.registerType (h : r.Named U) (hd : d.name = r.options.rename (U.name d.source)) :
    (r.registerType d).Named U := by
  refine ⟨fun e he => ?_, h.enums⟩
  rcases List.mem_append.mp he with he | he
  · rcases mem_putType he with rfl | he
    · exact hd
    · exact h.types e (List.mem_append_left _ he)
  · exact h.types e (List.mem_append_right _ (List.mem_of_mem_filter he))

theorem Named.setMembers (h : r.Named U) (k : τ) (ms : List MemberDeclaration) :
    (r.setMembers k ms).Named U := by
  refine ⟨fun e he => ?_, h.enums⟩
  rcases List.mem_append.mp he with he | he
  · obtain ⟨a, ha, rfl⟩ := List.mem_map.mp he
    have hn := h.types a (List.mem_append_left _ ha)
    split
    · exact hn
    · exact hn
  · exact h.types e (List.mem_append_right _ he)

theorem Named.registerEnum (h : r.Named U) {e : EnumDeclaration τ}
    (he : e.name = r.options.rename (U.name e.source)) : (r.registerEnum e).Named U := by
  refine ⟨h.types, fun a ha => ?_⟩
  rcases mem_putEnum ha with rfl | ha
  · exact he
  · exact h.enums a ha

end Named

end Registry

namespace Universe

variable {τ : Type} [BEq τ]

/-- Each key stands behind the base that its header names, unless that base is in progress, or its
header leads to the key. -/
def Ordered (U : Universe τ) (o : Options τ) (progress : List τ) : List τ → List τ → Prop
  | _, [] => True
  | before, k :: rest =>
    (∀ b, U.emittedBase o k = some b →
      (∃ j ∈ before ++ progress, (j == U.normal b) = true) ∨ U.LeadsTo o (U.normal b) k) ∧
    Ordered U o progress (before ++ [k]) rest

/-- What holds of a declaration that a walk from `r` to `r'` adds: its type was not known, it was
asked for, it has its record, and what it needs is known in the end. -/
structure Finished (U : Universe τ) (K : τ → Prop) (o : Options τ) (n : Nat)
    (asked : Item τ → Prop) (r r' : Registry τ) (d : TypeDeclaration τ) : Prop where
  key : K d.source
  fresh : ¬ r.Knows d.source
  reached : U.Reach o r.Knows asked (.type d.source)
  complete : ∀ i, U.Needs o d.source i → r'.Has i
  record : U.declaration o n d.source = some d

/-- What holds of an enumeration that a walk from `r` adds. -/
structure Listed (U : Universe τ) (o : Options τ) (asked : Item τ → Prop) (r : Registry τ)
    (e : EnumDeclaration τ) : Prop where
  fresh : ∀ d ∈ r.enums, (d.source == e.source) = false
  reached : U.Reach o r.Knows asked (.enumeration e.source)
  record : e = U.enumeration o e.source

/-- What a walk that asks for some items adds to a registry. -/
structure Adds (U : Universe τ) (K : τ → Prop) (o : Options τ) (n : Nat) (asked : Item τ → Prop)
    (r r' : Registry τ) (types : List (TypeDeclaration τ)) (enums : List (EnumDeclaration τ)) :
    Prop where
  options_eq : r'.options = r.options
  inProgress_eq : r'.inProgress = r.inProgress
  types_eq : r'.types = r.types ++ types
  enums_eq : r'.enums = r.enums ++ enums
  finished : ∀ d ∈ types, U.Finished K o n asked r r' d
  distinct : types.Pairwise fun d e => (d.source == e.source) = false
  ordered : U.Ordered o (r.inProgress.map (·.source)) (r.types.map (·.source))
    (types.map (·.source))
  listed : ∀ e ∈ enums, U.Listed o asked r e
  distinctEnum : enums.Pairwise fun d e => (d.source == e.source) = false

/-- A walk that asks for some items grows the registry. -/
def Grows (U : Universe τ) (K : τ → Prop) (o : Options τ) (n : Nat) (asked : Item τ → Prop)
    (r r' : Registry τ) : Prop :=
  ∃ types enums, U.Adds K o n asked r r' types enums

/-- A walk grows the registry until it has all that was asked for. -/
structure Serves (U : Universe τ) (K : τ → Prop) (o : Options τ) (n : Nat) (asked : Item τ → Prop)
    (r r' : Registry τ) : Prop where
  grows : U.Grows K o n asked r r'
  has : ∀ i, asked i → r'.Has i

variable {U : Universe τ} {K : τ → Prop} {o : Options τ} {m n : Nat}
  {asked asked' : Item τ → Prop} {r r' r'' : Registry τ}

theorem Ordered.append {progress before ks ls : List τ} (hk : U.Ordered o progress before ks)
    (hl : U.Ordered o progress (before ++ ks) ls) : U.Ordered o progress before (ks ++ ls) := by
  induction ks generalizing before with
  | nil => simpa using hl
  | cons k ks ih =>
    refine ⟨hk.1, ih hk.2 ?_⟩
    rwa [List.append_assoc]

/-- An item in progress may be forgotten if its header leads to all keys that extend it. -/
theorem Ordered.forget {progress before ks : List τ} {j : τ}
    (h : U.Ordered o (progress ++ [j]) before ks)
    (hj : ∀ k ∈ ks, ∀ b, U.emittedBase o k = some b → (j == U.normal b) = true →
      U.LeadsTo o (U.normal b) k) : U.Ordered o progress before ks := by
  induction ks generalizing before with
  | nil => trivial
  | cons k ks ih =>
    refine ⟨fun b hb => ?_, ih h.2 fun k' hk' => hj k' (List.mem_cons_of_mem _ hk')⟩
    rcases h.1 b hb with ⟨i, hi, he⟩ | hl
    · rw [← List.append_assoc] at hi
      rcases List.mem_append.mp hi with hi | hi
      · exact .inl ⟨i, hi, he⟩
      · cases List.mem_singleton.mp hi
        exact .inr (hj k (List.mem_cons_self ..) b hb he)
    · exact .inr hl

theorem Adds.knows {types : List (TypeDeclaration τ)} {enums : List (EnumDeclaration τ)}
    (h : U.Adds K o n asked r r' types enums) {k : τ} (hk : r.Knows k) : r'.Knows k := by
  obtain ⟨d, hd, he⟩ := hk
  refine ⟨d, ?_, he⟩
  rw [h.types_eq, h.inProgress_eq]
  rcases List.mem_append.mp hd with hd | hd
  · exact List.mem_append_left _ (List.mem_append_left _ hd)
  · exact List.mem_append_right _ hd

theorem Adds.has {types : List (TypeDeclaration τ)} {enums : List (EnumDeclaration τ)}
    (h : U.Adds K o n asked r r' types enums) {i : Item τ} (hi : r.Has i) : r'.Has i := by
  cases i with
  | type k => exact h.knows hi
  | enumeration t =>
    obtain ⟨e, he, ht⟩ := hi
    refine ⟨e, ?_, ht⟩
    rw [h.enums_eq]
    exact List.mem_append_left _ he

theorem Grows.has (h : U.Grows K o n asked r r') {i : Item τ} (hi : r.Has i) : r'.Has i := by
  obtain ⟨types, enums, ha⟩ := h
  exact ha.has hi

theorem Grows.options_eq (h : U.Grows K o n asked r r') : r'.options = r.options := by
  obtain ⟨types, enums, ha⟩ := h
  exact ha.options_eq

theorem Grows.inProgress_eq (h : U.Grows K o n asked r r') : r'.inProgress = r.inProgress := by
  obtain ⟨types, enums, ha⟩ := h
  exact ha.inProgress_eq

/-- A walk may do nothing but report. -/
theorem Grows.events (r : Registry τ) (es : List Event) :
    U.Grows K o n asked r { r with events := es } := by
  refine ⟨[], [], ?_⟩
  constructor <;> simp [Ordered]

theorem Grows.refl (r : Registry τ) : U.Grows K o n asked r r := Grows.events r r.events

/-- What a walk guarantees of a declaration holds of every walk around it that asks for as much. -/
theorem Finished.within {s s' : Registry τ} {d : TypeDeclaration τ}
    (h : U.Finished K o m asked r r' d) (hn : m ≤ n) (hknows : ∀ k, s.Knows k → r.Knows k)
    (hreach : ∀ i, U.Reach o r.Knows asked i → U.Reach o s.Knows asked' i)
    (hhas : ∀ i, r'.Has i → s'.Has i) : U.Finished K o n asked' s s' d where
  key := h.key
  fresh hk := h.fresh (hknows _ hk)
  reached := hreach _ h.reached
  complete i hi := hhas i (h.complete i hi)
  record := declaration_agrees hn _ _ h.record

theorem Listed.within {s : Registry τ} {e : EnumDeclaration τ} (h : U.Listed o asked r e)
    (henums : ∀ d ∈ s.enums, d ∈ r.enums)
    (hreach : ∀ i, U.Reach o r.Knows asked i → U.Reach o s.Knows asked' i) :
    U.Listed o asked' s e where
  fresh d hd := h.fresh d (henums d hd)
  reached := hreach _ h.reached
  record := h.record

theorem Grows.mono (h : U.Grows K o m asked r r') (hn : m ≤ n) (hs : ∀ i, asked i → asked' i) :
    U.Grows K o n asked' r r' := by
  obtain ⟨types, enums, ha⟩ := h
  have hreach : ∀ i, U.Reach o r.Knows asked i → U.Reach o r.Knows asked' i :=
    fun _ hi => hi.mono (fun _ hk => hk) hs
  exact ⟨types, enums, { ha with
    finished := fun d hd => (ha.finished d hd).within hn (fun _ hk => hk) hreach fun _ hi => hi
    listed := fun e he => (ha.listed e he).within (fun _ hd => hd) hreach }⟩

theorem Grows.trans (h : U.Grows K o n asked r r') (h' : U.Grows K o n asked r' r'') :
    U.Grows K o n asked r r'' := by
  obtain ⟨types, enums, ha⟩ := h
  obtain ⟨types', enums', ha'⟩ := h'
  refine ⟨types ++ types', enums ++ enums', ?_⟩
  have hreach : ∀ i, U.Reach o r'.Knows asked i → U.Reach o r.Knows asked i :=
    fun _ hi => hi.mono (fun _ hk => ha.knows hk) fun _ hi => hi
  have holdEnums : ∀ d ∈ r.enums, d ∈ r'.enums := fun d hd => by
    rw [ha.enums_eq]
    exact List.mem_append_left _ hd
  constructor
  · rw [ha'.options_eq, ha.options_eq]
  · rw [ha'.inProgress_eq, ha.inProgress_eq]
  · rw [ha'.types_eq, ha.types_eq, List.append_assoc]
  · rw [ha'.enums_eq, ha.enums_eq, List.append_assoc]
  · intro d hd
    rcases List.mem_append.mp hd with hd | hd
    · exact (ha.finished d hd).within (Nat.le_refl n) (fun _ hk => hk) (fun _ hi => hi)
        fun _ hi => ha'.has hi
    · exact (ha'.finished d hd).within (Nat.le_refl n) (fun _ hk => ha.knows hk) hreach
        fun _ hi => hi
  · rw [List.pairwise_append]
    refine ⟨ha.distinct, ha'.distinct, fun d hd e he => ?_⟩
    rw [← Bool.not_eq_true]
    intro hde
    refine (ha'.finished e he).fresh ⟨d, ?_, hde⟩
    rw [ha.types_eq]
    exact List.mem_append_left _ (List.mem_append_right _ hd)
  · have ho := ha'.ordered
    rw [ha.inProgress_eq, ha.types_eq, List.map_append] at ho
    rw [List.map_append]
    exact ha.ordered.append ho
  · intro e he
    rcases List.mem_append.mp he with he | he
    · exact ha.listed e he
    · exact (ha'.listed e he).within holdEnums hreach
  · rw [List.pairwise_append]
    refine ⟨ha.distinctEnum, ha'.distinctEnum, fun d hd e he => (ha'.listed e he).fresh d ?_⟩
    rw [ha.enums_eq]
    exact List.mem_append_right _ hd

theorem knows_relabel {p : List (TypeDeclaration τ)}
    (hp : p.map (·.source) = r.inProgress.map (·.source)) {k : τ} :
    Registry.Knows { r with inProgress := p } k ↔ r.Knows k := by
  have hsources {ds : List (TypeDeclaration τ)} :
      (∃ d ∈ ds, (d.source == k) = true) ↔ ∃ j ∈ ds.map (·.source), (j == k) = true := by
    simp
  unfold Registry.Knows
  rw [hsources, hsources, List.map_append, List.map_append, hp]

theorem has_relabel {p : List (TypeDeclaration τ)}
    (hp : p.map (·.source) = r.inProgress.map (·.source)) {i : Item τ} :
    Registry.Has { r with inProgress := p } i ↔ r.Has i := by
  cases i with
  | type k => exact knows_relabel hp
  | enumeration t => exact Iff.rfl

/-- Of what is in progress, growth sees the keys alone. -/
theorem Serves.relabel (h : U.Serves K o n asked r r') {p : List (TypeDeclaration τ)}
    (hp : p.map (·.source) = r.inProgress.map (·.source)) :
    U.Serves K o n asked { r with inProgress := p } { r' with inProgress := p } := by
  obtain ⟨⟨types, enums, ha⟩, hhas⟩ := h
  have hp' : p.map (·.source) = r'.inProgress.map (·.source) := by rw [hp, ha.inProgress_eq]
  have hknows : ∀ k, Registry.Knows { r with inProgress := p } k → r.Knows k :=
    fun _ hk => (knows_relabel hp).mp hk
  have hreach : ∀ i, U.Reach o r.Knows asked i →
      U.Reach o (Registry.Knows { r with inProgress := p }) asked i :=
    fun _ hi => hi.mono hknows fun _ hs => hs
  refine ⟨⟨types, enums, ?_⟩, fun i hi => (has_relabel hp').mpr (hhas i hi)⟩
  exact { ha with
    inProgress_eq := rfl
    finished := fun d hd => (ha.finished d hd).within (Nat.le_refl n) hknows hreach
      fun _ hi => (has_relabel hp').mpr hi
    ordered := by
      rw [hp]
      exact ha.ordered
    listed := fun e he => (ha.listed e he).within (fun _ hd => hd) hreach }

/-- Growth keeps declarations named after their types. -/
theorem Grows.named (h : U.Grows K o n asked r r') (ho : r.options = o) (hr : r.Named U) :
    r'.Named U := by
  obtain ⟨types, enums, ha⟩ := h
  constructor
  · intro d hd
    rw [ha.options_eq]
    rw [ha.types_eq, ha.inProgress_eq] at hd
    rcases List.mem_append.mp hd with hd | hd
    · rcases List.mem_append.mp hd with hd | hd
      · exact hr.types d (List.mem_append_left _ hd)
      · rw [ho]
        exact (declaration_source_name (ha.finished d hd).record).2
    · exact hr.types d (List.mem_append_right _ hd)
  · intro e he
    rw [ha.options_eq]
    rw [ha.enums_eq] at he
    rcases List.mem_append.mp he with he | he
    · exact hr.enums e he
    · rw [ho, (ha.listed e he).record]
      rfl

theorem Serves.refl (r : Registry τ) : U.Serves K o n (fun _ => False) r r :=
  ⟨Grows.refl r, fun _ hi => hi.elim⟩

theorem Serves.congr (h : U.Serves K o n asked r r') (hs : ∀ i, asked' i ↔ asked i) :
    U.Serves K o n asked' r r' :=
  ⟨h.grows.mono (Nat.le_refl n) fun i hi => (hs i).mpr hi, fun i hi => h.has i ((hs i).mp hi)⟩

/-- One walk after another serves what either is asked for. -/
theorem Serves.trans (h : U.Serves K o n asked r r') (h' : U.Serves K o n asked' r' r'') :
    U.Serves K o n (fun i => asked i ∨ asked' i) r r'' := by
  constructor
  · exact (h.grows.mono (Nat.le_refl n) fun i hi => .inl hi).trans
      (h'.grows.mono (Nat.le_refl n) fun i hi => .inr hi)
  · rintro i (hi | hi)
    · exact h'.grows.has (h.has i hi)
    · exact h'.has i hi

end Universe

end TypeProjection
