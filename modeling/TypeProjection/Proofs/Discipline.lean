import TypeProjection.Proofs.Reference

/-!
# The discipline of the registry

A walk changes a registry in six ways: it reports, it lists an enumeration, it claims a type, it
places a claimed one among its supertypes, it registers it, and it fills in the members of a
registered one. A claim opens a frame and the members close it; what nested calls change stands in
between. `Run` follows the changes with
the frames that are open. Whatever runs between the stages of a declaration leaves the declaration
alone, and closes all that it opens, so a call adds finished declarations at the end and changes
nothing else.
-/

namespace TypeProjection

/-- A declaration that a walk is at: its header is being served, or its members are. -/
inductive Frame (τ : Type) where
  | header (k : τ)
  | members (k : τ)

/-- One change of a registry. -/
inductive Change (τ : Type) where
  | report (e : Event)
  | list (t : τ)
  | claim (k : τ)
  | place (k : τ) (base : Option String) (interfaces : List String)
  | register (k : τ) (base : Option String) (interfaces parameters : List String)
  | fill (k : τ) (ms : List MemberDeclaration)

/-- The keys whose headers are being served, the innermost first. -/
def Frame.headers {τ : Type} (fs : List (Frame τ)) : List τ :=
  fs.filterMap fun | .header k => some k | .members _ => none

/-- The keys whose members are being served, the innermost first. -/
def Frame.bodies {τ : Type} (fs : List (Frame τ)) : List τ :=
  fs.filterMap fun | .header _ => none | .members k => some k

namespace Change

variable {τ : Type}

/-- The enumerations that some changes list. -/
def listed (cs : List (Change τ)) : List τ := cs.filterMap fun | .list t => some t | _ => none

/-- The keys that some changes claim. -/
def claimed (cs : List (Change τ)) : List τ := cs.filterMap fun | .claim k => some k | _ => none

/-- The keys that some changes register. -/
def registered (cs : List (Change τ)) : List τ :=
  cs.filterMap fun | .register k _ _ _ => some k | _ => none

/-- The keys to which some changes give members. -/
def filled (cs : List (Change τ)) : List τ := cs.filterMap fun | .fill k _ => some k | _ => none

end Change

open TypeProjection.Frame TypeProjection.Change

namespace Universe

variable {τ : Type} [BEq τ]

/-- One change, with the open frames before and after it. Only what is not known yet is claimed,
and a later stage belongs to the innermost frame. -/
inductive Step (U : Universe τ) (K : τ → Prop) (o : Options τ) :
    List (Frame τ) → Registry τ → Change τ → List (Frame τ) → Registry τ → Prop
  | report {fs : List (Frame τ)} {r : Registry τ} (e : Event) :
      Step U K o fs r (.report e) fs (r.report e)
  | list {fs : List (Frame τ)} {r : Registry τ} {t : τ} : r.findEnum t = none →
      Step U K o fs r (.list t) fs (r.registerEnum (U.enumeration o t))
  | claim {fs : List (Frame τ)} {r : Registry τ} {k : τ} : K k → r.findType k = none →
      Step U K o fs r (.claim k) (.header k :: fs) (r.claimType (U.begun o k))
  | place {fs : List (Frame τ)} {r : Registry τ} {k : τ} {base : Option String}
      {interfaces : List String} :
      Step U K o (.header k :: fs) r (.place k base interfaces) (.header k :: fs)
        (r.claimType (U.headed o k base interfaces []))
  | register {fs : List (Frame τ)} {r : Registry τ} {k : τ} {base : Option String}
      {interfaces parameters : List String} :
      Step U K o (.header k :: fs) r (.register k base interfaces parameters) (.members k :: fs)
        (r.registerType (U.headed o k base interfaces parameters))
  | fill {fs : List (Frame τ)} {r : Registry τ} {k : τ} {ms : List MemberDeclaration} :
      Step U K o (.members k :: fs) r (.fill k ms) fs (r.setMembers k ms)

/-- Changes that lead from a registry without open frames to another with some, the latest change
first. -/
inductive Run (U : Universe τ) (K : τ → Prop) (o : Options τ) (r₀ : Registry τ) :
    List (Frame τ) → List (Change τ) → Registry τ → Prop
  | start : Run U K o r₀ [] [] r₀
  | step {fs fs' : List (Frame τ)} {cs : List (Change τ)} {c : Change τ} {r r' : Registry τ} :
      Run U K o r₀ fs cs r → U.Step K o fs r c fs' r' → Run U K o r₀ fs' (c :: cs) r'

/-- What holds after some changes to a registry `r₀`: what was there is there as it was, and what
was claimed is new and either registered or in an open frame. -/
structure Standing (U : Universe τ) (K : τ → Prop) (o : Options τ) (r₀ : Registry τ)
    (fs : List (Frame τ)) (cs : List (Change τ)) (r : Registry τ) : Prop where
  inProgress_eq : ∃ ps, r.inProgress = r₀.inProgress ++ ps ∧
    ps.map (·.source) = (headers fs).reverse
  types_eq : ∃ ts, r.types = r₀.types ++ ts ∧ ts.map (·.source) = (registered cs).reverse
  enums_eq : r.enums = r₀.enums ++ (listed cs).reverse.map (U.enumeration o)
  claims : (claimed cs).Perm (registered cs ++ headers fs)
  fills : (registered cs).Perm (filled cs ++ bodies fs)
  key : ∀ k ∈ claimed cs, K k
  fresh : ∀ k ∈ claimed cs, ¬ r₀.Knows k
  distinct : (claimed cs).Pairwise fun j k => (j == k) = false ∧ (k == j) = false
  freshEnum : ∀ t ∈ listed cs, r₀.findEnum t = none
  distinctEnum : (listed cs).Pairwise fun s t => (t == s) = false

variable {U : Universe τ} {K : τ → Prop} {o : Options τ} {n : Nat} {r₀ r r' : Registry τ}
  {fs fs' : List (Frame τ)} {cs cs' : List (Change τ)} {k : τ}

/-- Frames that stay open below a run do not matter to it. -/
theorem Run.append (h : U.Run K o r₀ fs cs r) (h' : U.Run K o r fs' cs' r') :
    U.Run K o r₀ (fs' ++ fs) (cs' ++ cs) r' := by
  induction h' with
  | start => exact h
  | step _ hs ih =>
    refine .step ih ?_
    cases hs with
    | report e => exact .report e
    | list ht => exact .list ht
    | claim hk hnew => exact .claim hk hnew
    | place => exact .place
    | register => exact .register
    | fill => exact .fill

namespace Standing

theorem start : U.Standing K o r₀ [] [] r₀ := by
  constructor <;> simp [headers, bodies, listed, claimed, registered, filled]

/-- What was claimed is known. -/
theorem known (h : U.Standing K o r₀ fs cs r) (hk : k ∈ claimed cs) :
    ∃ d ∈ r.types ++ r.inProgress, d.source = k := by
  obtain ⟨ts, htypes, hsources⟩ := h.types_eq
  obtain ⟨ps, hprogress, hopen⟩ := h.inProgress_eq
  rcases List.mem_append.mp (h.claims.mem_iff.mp hk) with hk | hk
  · rw [← List.mem_reverse, ← hsources] at hk
    obtain ⟨d, hd, rfl⟩ := List.mem_map.mp hk
    refine ⟨d, List.mem_append_left _ ?_, rfl⟩
    rw [htypes]
    exact List.mem_append_right _ hd
  · rw [← List.mem_reverse, ← hopen] at hk
    obtain ⟨d, hd, rfl⟩ := List.mem_map.mp hk
    refine ⟨d, List.mem_append_right _ ?_, rfl⟩
    rw [hprogress]
    exact List.mem_append_right _ hd

/-- What was known is known. -/
theorem knows (h : U.Standing K o r₀ fs cs r) (hk : r₀.Knows k) : r.Knows k := by
  obtain ⟨d, hd, hdk⟩ := hk
  obtain ⟨ts, htypes, _⟩ := h.types_eq
  obtain ⟨ps, hprogress, _⟩ := h.inProgress_eq
  refine ⟨d, ?_, hdk⟩
  rw [htypes, hprogress]
  rcases List.mem_append.mp hd with hd | hd
  · exact List.mem_append_left _ (List.mem_append_left _ hd)
  · exact List.mem_append_right _ (List.mem_append_left _ hd)

/-- What was claimed is not known twice. -/
theorem apart (h : U.Standing K o r₀ fs cs r) :
    (registered cs ++ headers fs).Pairwise fun j k => (j == k) = false ∧ (k == j) = false :=
  (h.claims.pairwise_iff fun hjk => hjk.symm).mp h.distinct

theorem claimed_of_headers (h : U.Standing K o r₀ fs cs r) (hk : k ∈ headers fs) :
    k ∈ claimed cs :=
  h.claims.mem_iff.mpr (List.mem_append_right _ hk)

theorem claimed_of_bodies (h : U.Standing K o r₀ fs cs r) (hk : k ∈ bodies fs) :
    k ∈ claimed cs :=
  h.claims.mem_iff.mpr (List.mem_append_left _ (h.fills.mem_iff.mpr (List.mem_append_right _ hk)))

/-- Nothing registered has the key of a header that is being served. -/
theorem types_ne (h : U.Standing K o r₀ fs cs r) (hk : k ∈ headers fs) :
    ∀ d ∈ r.types, (d.source == k) = false := by
  intro d hd
  obtain ⟨ts, htypes, hsources⟩ := h.types_eq
  rw [htypes] at hd
  rcases List.mem_append.mp hd with hd | hd
  · have hfresh := h.fresh k (h.claimed_of_headers hk)
    exact source_ne_of_not_knows hfresh d (List.mem_append_left _ hd)
  · have hreg : d.source ∈ registered cs :=
      List.mem_reverse.mp (hsources ▸ List.mem_map_of_mem hd)
    exact ((List.pairwise_append.mp h.apart).2.2 _ hreg k hk).1

/-- The innermost header is of the last declaration in progress, and of no other. -/
theorem innermost (h : U.Standing K o r₀ (.header k :: fs) cs r) :
    ∃ ps d, r.inProgress = (r₀.inProgress ++ ps) ++ [d] ∧ d.source = k ∧
      ps.map (·.source) = (headers fs).reverse ∧
      ∀ e ∈ r₀.inProgress ++ ps, (e.source == k) = false := by
  have hclaimed := h.claimed_of_headers (k := k) (List.mem_cons_self ..)
  obtain ⟨ps, hprogress, hopen⟩ := h.inProgress_eq
  have hopen : ps.map (·.source) = (headers fs).reverse ++ [k] := by
    rw [hopen]
    exact List.reverse_cons
  obtain ⟨qs, ds, rfl, hqs, hds⟩ := List.map_eq_append_iff.mp hopen
  obtain ⟨d, rfl, hd⟩ := List.map_eq_singleton_iff.mp hds
  refine ⟨qs, d, by rw [hprogress, List.append_assoc], hd, hqs, fun e he => ?_⟩
  rcases List.mem_append.mp he with he | he
  · exact source_ne_of_not_knows (h.fresh k hclaimed) e (List.mem_append_right _ he)
  · have hrest := (List.pairwise_append.mp h.apart).2.1
    have he : e.source ∈ (headers fs).reverse := hqs ▸ List.mem_map_of_mem he
    exact ((List.pairwise_cons.mp hrest).1 _ (List.mem_reverse.mp he)).2

theorem report (h : U.Standing K o r₀ fs cs r) (e : Event) :
    U.Standing K o r₀ fs (.report e :: cs) (r.report e) := { h with }

theorem list (h : U.Standing K o r₀ fs cs r) {t : τ} (ht : r.findEnum t = none) :
    U.Standing K o r₀ fs (.list t :: cs) (r.registerEnum (U.enumeration o t)) := by
  have hne := Registry.findEnum_eq_none_iff.mp ht
  refine { h with enums_eq := ?_, freshEnum := ?_, distinctEnum := ?_ }
  · change Registry.putEnum (U.enumeration o t) r.enums = _ ++ (t :: listed cs).reverse.map _
    rw [Registry.putEnum_eq_append hne, h.enums_eq, List.reverse_cons, List.map_append,
      List.append_assoc]
    rfl
  · intro s hs
    rcases List.mem_cons.mp hs with rfl | hs
    · refine Registry.findEnum_eq_none_iff.mpr fun e he => hne e ?_
      rw [h.enums_eq]
      exact List.mem_append_left _ he
    · exact h.freshEnum s hs
  · refine List.pairwise_cons.mpr ⟨fun s hs => hne (U.enumeration o s) ?_, h.distinctEnum⟩
    rw [h.enums_eq]
    exact List.mem_append_right _ (List.mem_map_of_mem (List.mem_reverse.mpr hs))

theorem claim (hU : U.Coherent K) (h : U.Standing K o r₀ fs cs r) (hk : K k)
    (hnew : ¬ r.Knows k) :
    U.Standing K o r₀ (.header k :: fs) (.claim k :: cs) (r.claimType (U.begun o k)) := by
  refine { h with inProgress_eq := ?_, claims := ?_, key := ?_, fresh := ?_, distinct := ?_ }
  · obtain ⟨ps, hprogress, hopen⟩ := h.inProgress_eq
    refine ⟨ps ++ [U.begun o k], ?_, ?_⟩
    · rw [claimType_inProgress (d := U.begun o k) hnew, hprogress, List.append_assoc]
    · change _ = (k :: headers fs).reverse
      rw [List.map_append, hopen, List.reverse_cons]
      rfl
  · exact (h.claims.cons k).trans List.perm_middle.symm
  · intro j hj
    rcases List.mem_cons.mp hj with rfl | hj
    · exact hk
    · exact h.key j hj
  · intro j hj
    rcases List.mem_cons.mp hj with rfl | hj
    · exact fun hold => hnew (h.knows hold)
    · exact h.fresh j hj
  · refine List.pairwise_cons.mpr ⟨fun j hj => ?_, h.distinct⟩
    obtain ⟨d, hd, rfl⟩ := h.known hj
    have hdk := source_ne_of_not_knows hnew d hd
    refine ⟨?_, hdk⟩
    rw [← Bool.not_eq_true] at hdk ⊢
    exact fun hkd => hdk (hU.symm _ _ hk (h.key _ hj) hkd)

/-- Among its supertypes a declaration stands where it was begun. -/
theorem place (hU : U.Coherent K) (h : U.Standing K o r₀ (.header k :: fs) cs r)
    {base : Option String} {interfaces : List String} :
    U.Standing K o r₀ (.header k :: fs) (.place k base interfaces :: cs)
      (r.claimType (U.headed o k base interfaces [])) := by
  have hk := h.key k (h.claimed_of_headers (List.mem_cons_self ..))
  obtain ⟨ps, d, hprogress, rfl, hopen, hothers⟩ := h.innermost
  have hself : (d.source == d.source) = true := hU.refl _ hk
  refine { h with inProgress_eq := ⟨ps ++ [U.headed o d.source base interfaces []], ?_, ?_⟩ }
  · change Registry.putType _ r.inProgress = _
    rw [hprogress, ← List.append_assoc]
    exact Registry.putType_concat hothers hself
  · change _ = (d.source :: headers fs).reverse
    rw [List.map_append, hopen, List.reverse_cons]
    rfl

theorem register (hU : U.Coherent K) (h : U.Standing K o r₀ (.header k :: fs) cs r)
    {base : Option String} {interfaces parameters : List String} :
    U.Standing K o r₀ (.members k :: fs) (.register k base interfaces parameters :: cs)
      (r.registerType (U.headed o k base interfaces parameters)) := by
  have hk : k ∈ headers (.header k :: fs) := List.mem_cons_self ..
  have hclaimed := h.claimed_of_headers hk
  have hself : (k == k) = true := hU.refl k (h.key k hclaimed)
  obtain ⟨ts, htypes, hsources⟩ := h.types_eq
  refine { h with
    inProgress_eq := ?_
    types_eq := ⟨ts ++ [U.headed o k base interfaces parameters], ?_, ?_⟩
    claims := ?_
    fills := ?_ }
  · obtain ⟨ps, d, hprogress, rfl, hopen, hothers⟩ := h.innermost
    refine ⟨ps, ?_, hopen⟩
    change r.inProgress.filter (fun e => !(e.source == d.source)) = _
    rw [hprogress, List.filter_append, List.filter_eq_self.mpr fun e he => by
      rw [hothers e he]; rfl]
    simp [hself]
  · change Registry.putType _ r.types = _
    rw [Registry.putType_eq_append (h.types_ne hk), htypes, List.append_assoc]
  · change _ = (k :: registered cs).reverse
    rw [List.map_append, hsources, List.reverse_cons]
    rfl
  · exact h.claims.trans List.perm_middle
  · exact (h.fills.cons k).trans List.perm_middle.symm

theorem fill (h : U.Standing K o r₀ (.members k :: fs) cs r) {ms : List MemberDeclaration} :
    U.Standing K o r₀ fs (.fill k ms :: cs) (r.setMembers k ms) := by
  have hclaimed := h.claimed_of_bodies (List.mem_cons_self ..)
  obtain ⟨ts, htypes, hsources⟩ := h.types_eq
  let put := fun d : TypeDeclaration τ => if d.source == k then { d with members := ms } else d
  refine { h with types_eq := ⟨ts.map put, ?_, ?_⟩, fills := ?_ }
  · change r.types.map put = _
    have hold : r₀.types.map put = r₀.types := by
      conv_rhs => rw [← List.map_id r₀.types]
      refine List.map_congr_left fun d hd => if_neg ?_
      rw [source_ne_of_not_knows (h.fresh k hclaimed) d (List.mem_append_left _ hd)]
      exact Bool.false_ne_true
    rw [htypes, List.map_append, hold]
  · change _ = (registered cs).reverse
    rw [← hsources, List.map_map]
    refine List.map_congr_left fun d _ => ?_
    change (put d).source = d.source
    dsimp only [put]
    split <;> rfl
  · exact h.fills.trans List.perm_middle

/-- One change keeps what holds. -/
theorem step (hU : U.Coherent K) (h : U.Standing K o r₀ fs cs r) {c : Change τ}
    (hs : U.Step K o fs r c fs' r') : U.Standing K o r₀ fs' (c :: cs) r' := by
  cases hs with
  | report e => exact h.report e
  | list ht => exact h.list ht
  | claim hk hnew => exact h.claim hU hk (Registry.findType_eq_none_iff.mp hnew)
  | place => exact h.place hU
  | register => exact h.register hU
  | fill => exact h.fill

end Standing

/-- Over every run, what was there stays, and what was claimed is registered or in an open
frame. -/
theorem Run.standing (hU : U.Coherent K) (h : U.Run K o r₀ fs cs r) :
    U.Standing K o r₀ fs cs r := by
  induction h with
  | start => exact .start
  | step _ hs ih => exact ih.step hU hs

theorem Run.options_eq (h : U.Run K o r₀ fs cs r) : r.options = r₀.options := by
  induction h with
  | start => rfl
  | step _ hs ih => cases hs <;> exact ih

theorem Run.reached (h : U.Run K o (Registry.fresh o) fs cs r) : U.Reached o r := by
  induction h with
  | start => exact .fresh
  | step _ hs ih =>
    cases hs with
    | report e => exact ih.report e
    | list _ => exact ih.registerEnum _
    | claim _ _ => exact ih.claimType _
    | place => exact ih.placeType _ _ _
    | register => exact ih.registerType _ _ _ _
    | fill => exact ih.setMembers _ _

theorem quiet_run (h₀ : r₀.options = o) (fs : List (Frame τ)) :
    U.Quiet o fun r => ∃ cs, U.Run K o r₀ fs cs r where
  options := fun _ ⟨_, h⟩ => h.options_eq.trans h₀
  report := fun _ e ⟨_, h⟩ => ⟨_, h.step (.report e)⟩
  registerEnum := fun _ _ ht ⟨_, h⟩ => ⟨_, h.step (.list ht)⟩

end Universe

open Universe Walk

variable {τ : Type} [BEq τ] {U : Universe τ} {K : τ → Prop} {o : Options τ} {n : Nat}
  {r₀ r r' : Registry τ} {fs : List (Frame τ)} {cs : List (Change τ)}

/-- Every call closes the frames that it opens, and what it makes of a registry is a run. -/
theorem keeps_run (hU : U.Coherent K) (h₀ : r₀.options = o) (n : Nat) (fs : List (Frame τ)) :
    Keeps false (fun r => ∃ cs, U.Run K o r₀ fs cs r) (fun _ => True) (fun t => K (U.normal t))
      (calls U n) := by
  induction n generalizing fs with
  | zero => exact ⟨fun _ _ _ _ => rfl, fun _ _ _ _ => rfl⟩
  | succ n ih =>
    have hP := quiet_run (U := U) (K := K) h₀ fs
    constructor
    · exact fun t r _ hr => (ih fs).resolveStep hP (hU.structural t) (fun _ _ => trivial) hr
    · refine fun t r hK hr => keeps_buildStep hP (fun _ hnew => ?_) hr
      have hfind := Registry.findType_eq_none_iff.mpr hnew
      obtain ⟨cs, hrun⟩ := hr
      refine (ih (.header (U.normal t) :: fs)).declareStages (ih (.members (U.normal t) :: fs)) hP
        (quiet_run h₀ _) (quiet_run h₀ _) (closes_all U) (fun t _ => hU.structural t)
        (fun h => nomatch h) trivial (hP.options r ⟨cs, hrun⟩) ⟨_, hrun.step (.claim hK hfind)⟩ ?_ ?_ ?_
      · rintro r base interfaces ⟨cs, hrun⟩
        exact ⟨_, hrun.step .place⟩
      · rintro r base interfaces parameters ⟨cs, hrun⟩
        exact ⟨_, hrun.step .register⟩
      · rintro r ms ⟨cs, hrun⟩
        exact ⟨_, hrun.step .fill⟩

namespace Universe

/-- A call that returns leads from one registry to another. -/
inductive Returns (U : Universe τ) (K : τ → Prop) (n : Nat) (r r' : Registry τ) : Prop
  | resolve {t : τ} {s : String} : (TypeProjection.calls U n).resolve t r = some (s, r') →
      Returns U K n r r'
  | build {t : τ} {x : Option (TypeDeclaration τ)} : K (U.normal t) →
      (TypeProjection.calls U n).build t r = some (x, r') → Returns U K n r r'
  | buildEnum {t : τ} {x : Option (EnumDeclaration τ)} : Walk.buildEnum U t r = some (x, r') →
      Returns U K n r r'
  | declareRoots {roots : List τ} {u : Unit} : U.depth ≤ n →
      U.declareRoots roots r = some (u, r') → Returns U K n r r'

theorem Returns.run (hU : U.Coherent K) (hr : r.options = o) (h : U.Returns K n r r') :
    ∃ cs, U.Run K o r [] cs r' := by
  have hstart : ∃ cs, U.Run K o r [] cs r := ⟨[], .start⟩
  cases h with
  | resolve h => exact ends_loose.mp ((keeps_run hU hr n []).resolve _ r trivial hstart) _ _ h
  | build hK h => exact ends_loose.mp ((keeps_run hU hr n []).build _ r hK hstart) _ _ h
  | buildEnum h => exact ends_loose.mp (keeps_buildEnum (quiet_run hr []) _ hstart) _ _ h
  | @declareRoots roots _ _ h =>
    have hall : ∀ t ∈ roots, U.isStructural t = true → K (U.normal t) :=
      fun t _ => hU.structural t
    have hends := (keeps_run hU hr U.depth []).declareRoots (quiet_run hr []) hall hstart
    exact ends_loose.mp hends _ _ h

/-- The types of a registry are those of an earlier one and then some that have their records. -/
def Records (U : Universe τ) (o : Options τ) (n : Nat) (r r' : Registry τ) : Prop :=
  ∃ ts, r'.types = r.types ++ ts ∧ ∀ d ∈ ts, U.declaration o n d.source = some d

theorem Records.refl : U.Records o n r r := ⟨[], (List.append_nil _).symm, by simp⟩

theorem Grows.records {m : Nat} {asked : Item τ → Prop} (h : U.Grows K o m asked r r')
    (hmn : m ≤ n) : U.Records o n r r' := by
  obtain ⟨ts, _, hadds⟩ := h
  refine ⟨ts, hadds.types_eq, fun d hd => ?_⟩
  exact declaration_agrees hmn _ _ (hadds.finished d hd).record

theorem quiet_records (U : Universe τ) (o : Options τ) (n : Nat) (r : Registry τ) :
    U.Quiet o fun r' => r'.options = o ∧ U.Records o n r r' where
  options _ h := h.1
  report _ _ h := h
  registerEnum _ _ _ h := h

/-- The declarations that a call adds are finished. -/
theorem Returns.records (hU : U.Coherent K) (hr : U.Ready o r) (h : U.Returns K n r r') :
    U.Records o n r r' := by
  have hstart : r.options = o ∧ U.Records o n r r := ⟨hr.options, .refl⟩
  cases h with
  | @resolve t _ h =>
    have hends := (follow_calls hU o n).resolve t r hr
    exact (ends_loose.mp hends _ _ h).2.grows.records (Nat.le_refl n)
  | @build t _ hK h =>
    cases n with
    | zero => cases h
    | succ n =>
      have hends : Ends false (Walk.buildStep U (TypeProjection.calls U n) t) r
          fun _ r' => r'.options = o ∧ U.Records o (n + 1) r r' :=
        keeps_buildStep (quiet_records U o (n + 1) r) (fun _ hnew => ?_) hstart
      · exact (ends_loose.mp hends _ _ h).2
      · refine ((follow_calls hU o n).declareType hU hK hnew hr).mono fun _ r' hmade => ?_
        have hgrows := (hmade.serves hU).grows
        exact ⟨hgrows.options_eq.trans hr.options, hgrows.records (Nat.le_succ n)⟩
  | @buildEnum t _ h =>
    have hends : Ends false (Walk.buildEnum U t) r
        fun _ r' => r'.options = o ∧ U.Records o n r r' :=
      keeps_buildEnum (quiet_records U o n r) t hstart
    exact (ends_loose.mp hends _ _ h).2
  | @declareRoots roots _ hn h =>
    have hends := ends_declareRoots hU roots hr
    exact (ends_loose.mp hends _ _ h).grows.records hn

/-- What a call has done to a registry by some changes: what was there is there as it was, and
what came is new, claimed once, registered once, filled in once and finished. -/
structure Settles (U : Universe τ) (K : τ → Prop) (o : Options τ) (n : Nat) (r : Registry τ)
    (cs : List (Change τ)) (r' : Registry τ) : Prop where
  run : U.Run K o r [] cs r'
  inProgress_eq : r'.inProgress = r.inProgress
  types_eq : ∃ ts, r'.types = r.types ++ ts ∧ ts.map (·.source) = (registered cs).reverse ∧
    ∀ d ∈ ts, U.declaration o n d.source = some d
  enums_eq : r'.enums = r.enums ++ (listed cs).reverse.map (U.enumeration o)
  claimed_perm : (claimed cs).Perm (registered cs)
  filled_perm : (filled cs).Perm (registered cs)
  fresh : ∀ k ∈ registered cs, ¬ r.Knows k
  once : (registered cs).Pairwise fun j k => (j == k) = false ∧ (k == j) = false
  freshEnum : ∀ t ∈ listed cs, r.findEnum t = none
  onceEnum : (listed cs).Pairwise fun s t => (t == s) = false

/-- A call is a run without open frames, so whatever it claimed is registered and filled in. -/
theorem Returns.settles (hU : U.Coherent K) (hr : U.Ready o r) (h : U.Returns K n r r') :
    ∃ cs, U.Settles K o n r cs r' := by
  obtain ⟨cs, hrun⟩ := h.run hU hr.options
  have hs := hrun.standing hU
  obtain ⟨ts, htypes, hsources⟩ := hs.types_eq
  have hrecords : ∀ d ∈ ts, U.declaration o n d.source = some d := by
    obtain ⟨ts', htypes', hrecords⟩ := h.records hU hr
    rw [htypes] at htypes'
    rwa [List.append_cancel_left htypes']
  have hclaims : (claimed cs).Perm (registered cs) := by simpa [headers] using hs.claims
  refine ⟨cs, hrun, ?_, ⟨ts, htypes, hsources, hrecords⟩, hs.enums_eq, hclaims, ?_, ?_, ?_,
    hs.freshEnum, hs.distinctEnum⟩
  · obtain ⟨ps, hprogress, hopen⟩ := hs.inProgress_eq
    rw [hprogress, List.map_eq_nil_iff.mp hopen, List.append_nil]
  · simpa [bodies] using hs.fills.symm
  · exact fun k hk => hs.fresh k (hclaims.mem_iff.mpr hk)
  · simpa [headers] using hs.apart

/-- No type is registered and in progress at once. -/
theorem Run.disjoint (hU : U.Coherent K) (h : U.Run K o (Registry.fresh o) fs cs r) :
    ∀ d ∈ r.types, ∀ e ∈ r.inProgress, (d.source == e.source) = false := by
  intro d hd e he
  have hs := h.standing hU
  obtain ⟨ps, hprogress, hopen⟩ := hs.inProgress_eq
  rw [hprogress] at he
  have he := (List.mem_append.mp he).resolve_left List.not_mem_nil
  have hk : e.source ∈ (headers fs).reverse := hopen ▸ List.mem_map_of_mem he
  exact hs.types_ne (List.mem_reverse.mp hk) d hd

/-- Between top-level calls nothing is in progress. -/
theorem Run.idle (hU : U.Coherent K) (h : U.Run K o (Registry.fresh o) [] cs r) :
    r.inProgress = [] := by
  obtain ⟨ps, hprogress, hopen⟩ := (h.standing hU).inProgress_eq
  rw [hprogress, List.map_eq_nil_iff.mp hopen]
  rfl

/-- At every registry that changes can lead to, in the midst of a run or between runs, every call
that returns settles what it added, leaves all else as it was, and leads to such a registry with
the same frames open. -/
theorem call_settles (hU : U.Coherent K) (hr : U.Run K o (Registry.fresh o) fs cs r)
    (h : U.Returns K n r r') :
    ∃ cs', U.Settles K o n r cs' r' ∧ U.Run K o (Registry.fresh o) fs (cs' ++ cs) r' ∧
      (∀ d ∈ r'.types, ∀ e ∈ r'.inProgress, (d.source == e.source) = false) ∧
      (fs = [] → r'.inProgress = []) := by
  obtain ⟨cs', hs⟩ := h.settles hU hr.reached.ready
  have hrun : U.Run K o (Registry.fresh o) fs (cs' ++ cs) r' := hr.append hs.run
  refine ⟨cs', hs, hrun, hrun.disjoint hU, ?_⟩
  rintro rfl
  exact hrun.idle hU

/-- While a generic type is in progress, its bound is declared, and only that. -/
theorem call_settles_claimed :
    let r := (Registry.fresh Options.default).claimType
      (selfBounded.types.begun Options.default "A")
    ∃ r' cs', selfBounded.types.resolve "B" r = some ("B", r') ∧
      r'.types.map (·.source) = ["B"] ∧ r'.inProgress.map (·.source) = ["A"] ∧
      selfBounded.types.Settles (fun _ => True) Options.default selfBounded.types.depth r cs' r' := by
  intro r
  have hr : selfBounded.types.Run (fun _ => True) Options.default
      (Registry.fresh Options.default) [.header "A"] [.claim "A"] r :=
    .step .start (.claim trivial rfl)
  have hrun : (selfBounded.types.resolve "B" r).map (fun p =>
      (p.1, p.2.types.map (·.source), p.2.inProgress.map (·.source))) =
        some ("B", ["B"], ["A"]) := by rfl
  obtain ⟨⟨s, r'⟩, hr', hres⟩ := Option.map_eq_some_iff.mp hrun
  obtain ⟨rfl, hsources, hprogress⟩ : s = "B" ∧ r'.types.map (·.source) = ["B"] ∧
      r'.inProgress.map (·.source) = ["A"] := by
    simpa using hres
  obtain ⟨cs', hs, _⟩ := call_settles (coherent_of_lawful _) hr (.resolve hr')
  exact ⟨r', cs', hr', hsources, hprogress, hs⟩

end Universe

end TypeProjection
