import TypeProjection.Proofs.RenamedWorlds

/-!
# Types of renamed values

Whatever is made of values, the same is made of renamed ones, and it is homely again; whatever
fails, fails with the same words. `Sends` states this for two computations.
-/

namespace TypeProjection.Annotation

/-- The second computation gives the image of what the first one gives, or fails as it does; and
what the first one gives has a property. -/
def Sends {α β : Type} (f : α → β) (P : α → Prop) (x : Except Fault α) (x' : Except Fault β) :
    Prop :=
  x' = x.map f ∧ Gives x P

section Sends

variable {α β γ δ : Type} {f : α → β} {g : γ → δ} {P : α → Prop} {Q : γ → Prop}
  {x : Except Fault α} {x' : Except Fault β}

theorem sends_ok {a : α} (h : P a) : Sends f P (.ok a) (.ok (f a)) := ⟨rfl, gives_ok.mpr h⟩

theorem sends_pure {a : α} (h : P a) : Sends f P (pure a) (pure (f a)) := sends_ok h

theorem sends_error {e : Fault} : Sends f P (.error e) (.error e) := ⟨rfl, gives_error⟩

theorem Sends.bind {k : α → Except Fault γ} {k' : β → Except Fault δ} (h : Sends f P x x')
    (hk : ∀ a, P a → Sends g Q (k a) (k' (f a))) : Sends g Q (x >>= k) (x' >>= k') := by
  obtain ⟨rfl, hx⟩ := h
  cases x with
  | error e => exact sends_error
  | ok a => exact hk a (gives_ok.mp hx)

/-- A computation that has no values in it. -/
theorem sends_same (x : Except Fault α) : Sends id (fun _ => True) x x :=
  ⟨by cases x <;> rfl, fun _ _ => trivial⟩

theorem sends_ite {c : Prop} [Decidable c] {y : Except Fault α} {y' : Except Fault β}
    (hx : c → Sends f P x x') (hy : ¬ c → Sends f P y y') :
    Sends f P (if c then x else y) (if c then x' else y') := by
  split
  · exact hx ‹_›
  · exact hy ‹_›

theorem sends_mapM {r : α → β} {k : α → Except Fault γ} {k' : β → Except Fault δ} {xs : List α}
    (h : ∀ x ∈ xs, Sends g Q (k x) (k' (r x))) :
    Sends (List.map g) (fun ys => ∀ y ∈ ys, Q y) (xs.mapM k) ((xs.map r).mapM k') := by
  induction xs with
  | nil => exact sends_ok fun _ hy => (List.not_mem_nil hy).elim
  | cons x xs ih =>
    obtain ⟨hx, hxs⟩ := List.forall_mem_cons.mp h
    rw [List.map_cons, List.mapM_cons, List.mapM_cons]
    refine hx.bind fun y hy => (ih hxs).bind fun ys hys => ?_
    exact sends_ok (List.forall_mem_cons.mpr ⟨hy, hys⟩)

theorem sends_foldlM {r : α → β} {k : γ → α → Except Fault γ} {k' : δ → β → Except Fault δ}
    {xs : List α} (h : ∀ x ∈ xs, ∀ b, Q b → Sends g Q (k b x) (k' (g b) (r x))) {b : γ} (hb : Q b) :
    Sends g Q (xs.foldlM k b) ((xs.map r).foldlM k' (g b)) := by
  induction xs generalizing b with
  | nil => exact sends_ok hb
  | cons x xs ih =>
    obtain ⟨hx, hxs⟩ := List.forall_mem_cons.mp h
    rw [List.map_cons, List.foldlM_cons, List.foldlM_cons]
    exact (hx b hb).bind fun c hc => ih hxs hc

end Sends

/-! Values. -/

namespace Value

variable {ρ : Renaming} {K : String → Prop} {v : Value} {xs : List Value}

/-- All values are homely. -/
def AllHomely (K : String → Prop) (xs : List Value) : Prop := ∀ x ∈ xs, x.Homely K

theorem allHomely_nil : AllHomely K [] := fun _ h => (List.not_mem_nil h).elim

theorem allHomely_cons {x : Value} : AllHomely K (x :: xs) ↔ x.Homely K ∧ AllHomely K xs :=
  List.forall_mem_cons

theorem allHomely_append {ys : List Value} :
    AllHomely K (xs ++ ys) ↔ AllHomely K xs ∧ AllHomely K ys :=
  List.forall_mem_append

theorem allHomely_singleton {x : Value} : AllHomely K [x] ↔ x.Homely K :=
  List.forall_mem_singleton

theorem AllHomely.distinctValues (h : AllHomely K xs) : AllHomely K (distinctValues xs) :=
  fun x hx => h x (mem_of_mem_distinctValues hx)

theorem AllHomely.distinctLiterals (h : AllHomely K xs) : AllHomely K (distinctLiterals xs) :=
  fun x hx => h x (mem_of_mem_distinctLiterals hx)

theorem rename_eq_str {s : String} : v.rename ρ = .str s ↔ v = .str s := by
  cases v <;> simp

/-- The variables inside a renamed value are the renamed ones. -/
@[simp] theorem typeVariables_rename (v : Value) :
    (v.rename ρ).typeVariables = v.typeVariables.map (rename ρ) := by
  induction v using children_induction with
  | _ v ih =>
    have hall : ∀ {xs : List Value}, (∀ x ∈ xs, x ∈ v.children) →
        typeVariables.variablesOf (xs.map (rename ρ)) =
          (typeVariables.variablesOf xs).map (rename ρ) := by
      intro xs hxs
      induction xs with
      | nil => rfl
      | cons x xs ih' =>
        obtain ⟨hx, hxs⟩ := List.forall_mem_cons.mp hxs
        rw [List.map_cons, typeVariables.variablesOf, typeVariables.variablesOf, ih x hx, ih' hxs,
          List.map_append]
    cases v with
    | tuple xs | applied n c xs | native c xs | looseCallable xs | union p xs =>
      have hxs := @hall xs fun _ h => h
      simp [typeVariables, hxs]
    | formed n xs =>
      have hxs := @hall xs fun _ h => h
      by_cases hn : n = "Literal"
      · simp [hn, typeVariables]
      · simp [typeVariables, hxs]
    | annotated inner notes =>
      have hinner := ih inner (List.mem_cons_self ..)
      simp [typeVariables, hinner]
    | _ => simp [typeVariables]

@[simp] theorem variablesOfAll_rename (xs : List Value) :
    variablesOfAll (xs.map (rename ρ)) = (variablesOfAll xs).map (rename ρ) := by
  have h : (xs.map (rename ρ)).flatMap typeVariables =
      (xs.flatMap typeVariables).map (rename ρ) := by
    rw [List.flatMap_map, List.map_flatMap]
    exact List.flatMap_congr fun x _ => typeVariables_rename x
  unfold variablesOfAll
  rw [h, distinctValues_rename]

theorem homely_typeVariables (v : Value) : AllHomely K v.typeVariables := by
  induction v using children_induction with
  | _ v ih =>
    have hall : ∀ {xs : List Value}, (∀ x ∈ xs, x ∈ v.children) →
        AllHomely K (distinctValues (typeVariables.variablesOf xs)) := by
      intro xs hxs
      refine AllHomely.distinctValues ?_
      induction xs with
      | nil => exact allHomely_nil
      | cons x xs ih' =>
        obtain ⟨hx, hxs⟩ := List.forall_mem_cons.mp hxs
        rw [typeVariables.variablesOf]
        exact allHomely_append.mpr ⟨ih x hx, ih' hxs⟩
    cases v with
    | tuple xs | applied n c xs | native c xs | looseCallable xs | union p xs =>
      exact @hall xs fun _ h => h
    | formed n xs =>
      by_cases hn : n = "Literal"
      · rw [hn]
        exact allHomely_nil
      · rw [typeVariables]
        · exact @hall xs fun _ h => h
        · exact hn
    | annotated inner notes => exact ih inner (List.mem_cons_self ..)
    | typeVar i => exact allHomely_singleton.mpr homely_typeVar
    | paramSpec i => exact allHomely_singleton.mpr homely_paramSpec
    | _ => exact allHomely_nil

theorem homely_variablesOfAll (xs : List Value) : AllHomely K (variablesOfAll xs) := by
  refine AllHomely.distinctValues fun x hx => ?_
  obtain ⟨v, -, hv⟩ := List.mem_flatMap.mp hx
  exact homely_typeVariables v x hv

@[simp] theorem isPipeable_rename (v : Value) : (v.rename ρ).isPipeable = v.isPipeable := by
  cases v with
  | union p xs => cases p <;> simp [isPipeable]
  | _ => simp [isPipeable]

@[simp] theorem makesUnion_rename (v : Value) : (v.rename ρ).makesUnion = v.makesUnion := by
  cases v with
  | union p xs => cases p <;> simp [makesUnion]
  | _ => simp [makesUnion]

@[simp] theorem unionMembers_rename (v : Value) :
    (v.rename ρ).unionMembers = v.unionMembers.map (rename ρ) := by
  cases v <;> simp [unionMembers]

theorem homely_unionMembers (h : v.Homely K) : AllHomely K v.unionMembers := by
  cases v with
  | union p xs => exact homely_union.mp h
  | _ => exact allHomely_singleton.mpr h

theorem all_rename {p : Value → Bool} (hp : ∀ v, p (v.rename ρ) = p v) (xs : List Value) :
    (xs.map (rename ρ)).all p = xs.all p := by
  rw [List.all_map]
  exact all_congr_mem fun v _ => hp v

theorem flatMap_rename {g : Value → List Value}
    (hg : ∀ v, g (v.rename ρ) = (g v).map (rename ρ)) (xs : List Value) :
    (xs.map (rename ρ)).flatMap g = (xs.flatMap g).map (rename ρ) := by
  rw [List.flatMap_map, List.map_flatMap]
  exact List.flatMap_congr fun x _ => hg x

theorem AllHomely.flatMap {g : Value → List Value} (h : AllHomely K xs)
    (hg : ∀ v, v.Homely K → AllHomely K (g v)) : AllHomely K (xs.flatMap g) := by
  intro x hx
  obtain ⟨v, hv, hx⟩ := List.mem_flatMap.mp hx
  exact hg v (h v hv) x hx

end Value

namespace World

open Value (AllHomely allHomely_cons allHomely_append allHomely_singleton allHomely_nil)

variable {ρ : Renaming} {K : String → Prop} {w w' : World} {v l r index : Value}
  {xs notes : List Value}

/-- The second computation gives the renamed value, which is homely. -/
abbrev SendsValue (ρ : Renaming) (K : String → Prop) (x x' : Except Fault Value) : Prop :=
  Sends (Value.rename ρ) (Value.Homely K) x x'

/-- The second computation gives the renamed values, which are homely. -/
abbrev SendsValues (ρ : Renaming) (K : String → Prop) (x x' : Except Fault (List Value)) : Prop :=
  Sends (List.map (Value.rename ρ)) (AllHomely K) x x'

@[simp] theorem isGenericRoot_rename (c : ClassRef) :
    isGenericRoot (c.rename ρ) = isGenericRoot c := by
  unfold isGenericRoot
  rw [genericRoot, protocolRoot, laterProtocolRoot, ClassRef.rename_beq_library,
    ClassRef.rename_beq_library, ClassRef.rename_beq_library]

theorem sends_asType {m : String} {b : Bool} (hm : K m) (hv : v.Homely K) :
    SendsValue ρ K (asType m b v) (asType m b (v.rename ρ)) := by
  cases v with
  | none => exact sends_ok Value.homely_noneType
  | str s =>
    rw [Value.rename_str, asType]
    exact sends_ite (fun _ => sends_ok (Value.homely_forward.mpr hm)) fun _ => sends_error
  | _ => exact ⟨by simp [asType, Except.map], gives_ok.mpr hv⟩

theorem Renames.sends_checkType (h : w.Renames ρ K w') {use : TypeUse} (hm : K use.module)
    (hv : v.Homely K) : SendsValue ρ K (w.checkType use v) (w'.checkType use (v.rename ρ)) := by
  unfold checkType
  refine (sends_asType hm hv).bind fun t ht => ?_
  have hinvalid : SendsValue ρ K
      (.error (.wrongType (w.shown t ++ " is not valid as type argument")))
      (.error (.wrongType (w'.shown (t.rename ρ) ++ " is not valid as type argument"))) := by
    rw [h.shown ht]
    exact sends_error
  have hplain : SendsValue ρ K
      (.error (.wrongType ("Plain " ++ w.shown t ++ " is not valid as type argument")))
      (.error (.wrongType ("Plain " ++ w'.shown (t.rename ρ) ++
        " is not valid as type argument"))) := by
    rw [h.shown ht]
    exact sends_error
  have hok : SendsValue ρ K (.ok t) (.ok (t.rename ρ)) := sends_ok ht
  cases t with
  | applied n c xs =>
    by_cases hn : n = ""
    · subst hn
      simp only [Value.rename_applied, isGenericRoot_rename] at hinvalid hok ⊢
      exact sends_ite (fun _ => hinvalid) fun _ => hok
    · simp only [Value.rename_applied] at hok ⊢
      simpa [hn] using hok
  | formed n xs =>
    simp only [Value.rename_formed] at hinvalid hok ⊢
    by_cases hn : n = "ClassVar"
    · subst hn
      exact sends_ite (fun _ => hok) fun _ => hinvalid
    · by_cases hn' : n = "Final"
      · subst hn'
        exact sends_ite (fun _ => hok) fun _ => hinvalid
      · simpa [hn, hn'] using hok
  | form n =>
    exact sends_ite (fun _ => hok) fun _ => sends_ite (fun _ => hok) fun _ => hplain
  | cls c =>
    simp only [Value.rename_cls, isGenericRoot_rename] at hplain hok ⊢
    exact sends_ite (fun _ => hplain) fun _ => hok
  | tuple xs =>
    have hshown := h.shown ht
    simp only [Value.rename_tuple] at hshown ⊢
    rw [hshown]
    exact sends_error
  | _ => exact ⟨by simp [Except.map], gives_ok.mpr ht⟩

@[simp] theorem unionOf_rename (xs : List Value) :
    unionOf (xs.map (Value.rename ρ)) = (unionOf xs).rename ρ := by
  unfold unionOf
  rw [Value.flatMap_rename Value.unionMembers_rename, Value.distinctValues_rename]
  rcases Value.distinctValues (xs.flatMap Value.unionMembers) with _ | ⟨a, _ | ⟨b, rest⟩⟩ <;> simp

theorem homely_unionOf (hxs : AllHomely K xs) : (unionOf xs).Homely K := by
  have hmembers : AllHomely K (Value.distinctValues (xs.flatMap Value.unionMembers)) :=
    (hxs.flatMap fun _ => Value.homely_unionMembers).distinctValues
  unfold unionOf
  split
  · next v hv => exact hmembers v (by rw [hv]; exact List.mem_singleton_self v)
  · exact Value.homely_union.mpr hmembers

theorem Renames.sends_checkedUnion (h : w.Renames ρ K w') (hxs : AllHomely K xs) :
    SendsValue ρ K (w.checkedUnion xs) (w'.checkedUnion (xs.map (Value.rename ρ))) := by
  unfold checkedUnion
  refine (sends_mapM fun x hx => h.sends_checkType h.blank (hxs x hx)).bind fun ts hts => ?_
  rw [unionOf_rename]
  exact sends_ok (homely_unionOf hts)

/-- The members of a piped union. -/
def pipedMember : Value → Value
  | .none => Value.noneType
  | v => v

theorem pipedMember_rename (v : Value) : pipedMember (v.rename ρ) = (pipedMember v).rename ρ := by
  cases v <;> simp [pipedMember]

theorem homely_pipedMember (h : v.Homely K) : (pipedMember v).Homely K := by
  cases v with
  | none => exact Value.homely_noneType
  | _ => exact h

theorem pipedUnion_eq (xs : List Value) : pipedUnion xs =
    match Value.distinctValues ((xs.flatMap Value.unionMembers).map pipedMember) with
    | [v] => v
    | members => .union true members := rfl

@[simp] theorem pipedUnion_rename (xs : List Value) :
    pipedUnion (xs.map (Value.rename ρ)) = (pipedUnion xs).rename ρ := by
  have hmembers : ((xs.flatMap Value.unionMembers).map (Value.rename ρ)).map pipedMember =
      ((xs.flatMap Value.unionMembers).map pipedMember).map (Value.rename ρ) := by
    rw [List.map_map, List.map_map]
    exact List.map_congr_left fun v _ => pipedMember_rename v
  rw [pipedUnion_eq, pipedUnion_eq, Value.flatMap_rename Value.unionMembers_rename, hmembers,
    Value.distinctValues_rename]
  rcases Value.distinctValues ((xs.flatMap Value.unionMembers).map pipedMember) with
    _ | ⟨a, _ | ⟨b, rest⟩⟩ <;> simp

theorem homely_pipedUnion (hxs : AllHomely K xs) : (pipedUnion xs).Homely K := by
  have hmembers : AllHomely K
      (Value.distinctValues ((xs.flatMap Value.unionMembers).map pipedMember)) := by
    refine Value.AllHomely.distinctValues fun x hx => ?_
    obtain ⟨v, hv, rfl⟩ := List.mem_map.mp hx
    exact homely_pipedMember (hxs.flatMap (fun _ => Value.homely_unionMembers) v hv)
  rw [pipedUnion_eq]
  split
  · next v hv => exact hmembers v (by rw [hv]; exact List.mem_singleton_self v)
  · exact Value.homely_union.mpr hmembers

theorem Renames.sends_pipe (h : w.Renames ρ K w') (hl : l.Homely K) (hr : r.Homely K) :
    SendsValue ρ K (w.pipe l r) (w'.pipe (l.rename ρ) (r.rename ρ)) := by
  have hboth : AllHomely K [l, r] := allHomely_cons.mpr ⟨hl, allHomely_singleton.mpr hr⟩
  have hunion := h.sends_checkedUnion hboth
  have hpiped :
      SendsValue ρ K (.ok (pipedUnion [l, r])) (.ok (pipedUnion [l.rename ρ, r.rename ρ])) := by
    have hrename := pipedUnion_rename (ρ := ρ) [l, r]
    rw [List.map_cons, List.map_singleton] at hrename
    rw [hrename]
    exact sends_ok (homely_pipedUnion hboth)
  have hfault : SendsValue ρ K
      (.error (.wrongType ("unsupported operand type(s) for |: " ++
        Text.display (l.className w) ++ " and " ++ Text.display (r.className w))))
      (.error (.wrongType ("unsupported operand type(s) for |: " ++
        Text.display ((l.rename ρ).className w') ++ " and " ++
        Text.display ((r.rename ρ).className w')))) := by
    rw [h.className, h.className]
    exact sends_error
  -- Only two numbers, two truth values, two sets and two absences are told apart.
  have hchain : ∀ b, SendsValue ρ K
      (if l.isPipeable && r.isPipeable && !b then .ok (pipedUnion [l, r])
        else if l.makesUnion || r.makesUnion then w.checkedUnion [l, r]
        else .error (.wrongType ("unsupported operand type(s) for |: " ++
          Text.display (l.className w) ++ " and " ++ Text.display (r.className w))))
      (if (l.rename ρ).isPipeable && (r.rename ρ).isPipeable && !b then
          .ok (pipedUnion [l.rename ρ, r.rename ρ])
        else if (l.rename ρ).makesUnion || (r.rename ρ).makesUnion then
          w'.checkedUnion [l.rename ρ, r.rename ρ]
        else .error (.wrongType ("unsupported operand type(s) for |: " ++
          Text.display ((l.rename ρ).className w') ++ " and " ++
          Text.display ((r.rename ρ).className w')))) := by
    intro b
    rw [Value.isPipeable_rename, Value.isPipeable_rename, Value.makesUnion_rename,
      Value.makesUnion_rename]
    exact sends_ite (fun _ => hpiped) fun _ => sends_ite (fun _ => hunion) fun _ => hfault
  cases l with
  | int n =>
    cases r with
    | int m => exact sends_ite (fun _ => sends_ok Value.homely_int) fun _ => sends_error
    | _ => exact hchain false
  | bool a =>
    cases r with
    | bool b => exact sends_ok Value.homely_bool
    | _ => exact hchain false
  | set xs =>
    cases r with
    | set ys =>
      have hxs : AllHomely K (xs ++ ys) :=
        allHomely_append.mpr ⟨Value.homely_set.mp hl, Value.homely_set.mp hr⟩
      refine ⟨?_, gives_ok.mpr (Value.homely_set.mpr hxs.distinctValues)⟩
      simp only [pipe, Value.rename_set, ← List.map_append, Value.distinctValues_rename, Except.map]
    | _ => exact hchain false
  | none =>
    cases r with
    | none => exact hchain true
    | _ => exact hchain false
  | _ => exact hchain false

theorem Renames.sends_pipeAll (h : w.Renames ρ K w') (hxs : AllHomely K xs) :
    SendsValue ρ K (w.pipeAll xs) (w'.pipeAll (xs.map (Value.rename ρ))) := by
  cases xs with
  | nil => exact sends_ok Value.homely_none
  | cons x xs =>
    obtain ⟨hx, hxs⟩ := allHomely_cons.mp hxs
    exact sends_foldlM (r := Value.rename ρ) (fun y hy z hz => h.sends_pipe hz (hxs y hy)) hx

theorem sends_prepareFor {target : String} {params : List Value} (hxs : AllHomely K xs) :
    SendsValues ρ K (prepareFor target params xs v)
      (prepareFor target (params.map (Value.rename ρ)) (xs.map (Value.rename ρ))
        (v.rename ρ)) := by
  cases v with
  | paramSpec i =>
    have hfind : (params.map (Value.rename ρ)).findIdx?
        (fun x => x.same (.paramSpec (ρ.paramSpec i))) =
        params.findIdx? fun x => x.same (.paramSpec i) := by
      rw [List.findIdx?_map]
      congr 1
      funext x
      exact Value.same_rename x (.paramSpec i)
    rw [Value.rename_paramSpec]
    unfold prepareFor
    simp only [hfind]
    cases params.findIdx? fun x => x.same (.paramSpec i) with
    | none => exact sends_ok hxs
    | some j =>
      simp only [List.getElem?_map, List.length_map]
      cases ha : xs[j]? with
      | none => exact sends_error
      | some a =>
        have hhomely := hxs a (List.mem_of_getElem? ha)
        simp only [Option.map_some, isParameterList_rename]
        refine sends_ite (fun _ => ?_) fun _ => ?_
        · exact ⟨by simp [Except.map], gives_ok.mpr (allHomely_singleton.mpr
            (Value.homely_tuple.mpr hxs))⟩
        · cases a with
          | list items =>
            refine ⟨by simp [Except.map, List.map_set], gives_ok.mpr fun y hy => ?_⟩
            rcases List.mem_or_eq_of_mem_set hy with hy | rfl
            · exact hxs y hy
            · exact Value.homely_tuple.mpr (Value.homely_list.mp hhomely)
          | _ => exact ⟨by simp [Except.map], gives_ok.mpr hxs⟩
  | _ => exact ⟨by simp [prepareFor, Except.map], gives_ok.mpr hxs⟩

theorem sends_prepare {target : String} {params : List Value} (hxs : AllHomely K xs) :
    SendsValues ρ K (prepare target params xs)
      (prepare target (params.map (Value.rename ρ)) (xs.map (Value.rename ρ))) :=
  sends_foldlM (r := Value.rename ρ) (fun _ _ _ hargs => sends_prepareFor hargs) hxs

theorem flattened_rename (c : ClassRef) (xs : List Value) :
    flattened (c.rename ρ) (xs.map (Value.rename ρ)) =
      (flattened c xs).map (Value.rename ρ) := by
  unfold flattened
  rw [callableRoot, ClassRef.rename_beq_library]
  split
  · exact Value.flatMap_rename (fun v => by cases v <;> simp) xs
  · rfl

theorem homely_flattened {c : ClassRef} (hxs : AllHomely K xs) : AllHomely K (flattened c xs) := by
  unfold flattened
  split
  · refine hxs.flatMap fun v hv => ?_
    cases v with
    | tuple items => exact Value.homely_tuple.mp hv
    | _ => exact allHomely_singleton.mpr hv
  · exact hxs

theorem Renames.sends_checkTypes (h : w.Renames ρ K w') {use : TypeUse} (hm : K use.module)
    (hxs : AllHomely K xs) :
    SendsValues ρ K (xs.mapM (w.checkType use))
      ((xs.map (Value.rename ρ)).mapM (w'.checkType use)) :=
  sends_mapM fun x hx => h.sends_checkType hm (hxs x hx)

theorem Renames.sends_argumentFor (h : w.Renames ρ K w') {a : Value} (ha : a.Homely K) :
    SendsValue ρ K (w.argumentFor v a) (w'.argumentFor (v.rename ρ) (a.rename ρ)) := by
  have hitems : ∀ items, AllHomely K items → SendsValue ρ K
      (do return .tuple (← items.mapM (w.checkType { message := "Expected a type." })))
      (do return .tuple (← (items.map (Value.rename ρ)).mapM
        (w'.checkType { message := "Expected a type." }))) := by
    intro items hitems
    refine (h.sends_checkTypes h.blank hitems).bind fun ts hts => ?_
    rw [← Value.rename_tuple]
    exact sends_ok (Value.homely_tuple.mpr hts)
  have hcheck : SendsValue ρ K
      (w.checkType { message := "Parameters to generic types must be types." } a)
      (w'.checkType { message := "Parameters to generic types must be types." } (a.rename ρ)) :=
    h.sends_checkType h.blank ha
  cases v with
  | paramSpec i =>
    have hother : SendsValue ρ K
        (if a.isParameterList then .ok a
        else .error (.wrongType
          ("Expected a list of types, an ellipsis, ParamSpec, or Concatenate. " ++ "Got " ++
            w.shown a)))
        (if (a.rename ρ).isParameterList then .ok (a.rename ρ)
        else .error (.wrongType
          ("Expected a list of types, an ellipsis, ParamSpec, or Concatenate. " ++ "Got " ++
            w'.shown (a.rename ρ)))) := by
      rw [isParameterList_rename, h.shown ha]
      exact sends_ite (fun _ => sends_ok ha) fun _ => sends_error
    cases a with
    | list items =>
      have := hitems items (Value.homely_list.mp ha)
      simpa only [argumentFor, Value.rename_paramSpec, Value.rename_list] using this
    | tuple items =>
      have := hitems items (Value.homely_tuple.mp ha)
      simpa only [argumentFor, Value.rename_paramSpec, Value.rename_tuple] using this
    | _ => exact hother
  | _ => exact hcheck

@[simp] theorem knowsModule_rename (v : Value) : knowsModule (v.rename ρ) = knowsModule v := by
  cases v <;> simp [knowsModule]

theorem Renames.sends_annotate (h : w.Renames ρ K w') (hv : v.Homely K)
    (hnotes : AllHomely K notes) :
    SendsValue ρ K (w.annotate v notes)
      (w'.annotate (v.rename ρ) (notes.map (Value.rename ρ))) := by
  have hother : SendsValue ρ K
      (if knowsModule v then .ok (.annotated v notes)
      else .error (.unknownAttribute (Text.display (v.className w) ++
        " object has no attribute '__module__'")))
      (if knowsModule (v.rename ρ) then
        .ok (.annotated (v.rename ρ) (notes.map (Value.rename ρ)))
      else .error (.unknownAttribute (Text.display ((v.rename ρ).className w') ++
        " object has no attribute '__module__'"))) := by
    rw [knowsModule_rename, h.className, ← Value.rename_annotated]
    exact sends_ite (fun _ => sends_ok (Value.homely_annotated.mpr ⟨hv, hnotes⟩))
      fun _ => sends_error
  cases v with
  | annotated inner more =>
    obtain ⟨hinner, hmore⟩ := Value.homely_annotated.mp hv
    refine ⟨by simp [annotate, Except.map], gives_ok.mpr ?_⟩
    exact Value.homely_annotated.mpr ⟨hinner, allHomely_append.mpr ⟨hmore, hnotes⟩⟩
  | _ => exact hother

/-- Variables and what is chosen for them, renamed. -/
def renamedPairs (ρ : Renaming) (chosen : List (Value × Value)) : List (Value × Value) :=
  chosen.map fun e => (e.1.rename ρ, e.2.rename ρ)

theorem find_renamedPairs (chosen : List (Value × Value)) (v : Value) :
    (renamedPairs ρ chosen).find? (fun e => e.1.same (v.rename ρ)) =
      (chosen.find? fun e => e.1.same v).map fun e => (e.1.rename ρ, e.2.rename ρ) := by
  unfold renamedPairs
  rw [List.find?_map]
  congr 2
  funext e
  exact Value.same_rename e.1 v

theorem Renames.sends_substitute (h : w.Renames ρ K w') {chosen : List (Value × Value)}
    (hchosen : ∀ e ∈ chosen, e.2.Homely K) (hv : v.Homely K) :
    SendsValue ρ K (w.substitute chosen v)
      (w'.substitute (renamedPairs ρ chosen) (v.rename ρ)) := by
  induction v using Value.children_induction with
  | _ v ih =>
    have hall : ∀ {xs : List Value}, (∀ x ∈ xs, x ∈ v.children) → AllHomely K xs →
        SendsValues ρ K (substitute.substituteAll w chosen xs)
          (substitute.substituteAll w' (renamedPairs ρ chosen) (xs.map (Value.rename ρ))) := by
      intro xs hxs hhomely
      induction xs with
      | nil => exact sends_ok allHomely_nil
      | cons x xs ih' =>
        obtain ⟨hx, hxs⟩ := List.forall_mem_cons.mp hxs
        obtain ⟨hhx, hhxs⟩ := allHomely_cons.mp hhomely
        rw [List.map_cons, substitute.substituteAll, substitute.substituteAll]
        refine (ih x hx hhx).bind fun y hy => (ih' hxs hhxs).bind fun ys hys => ?_
        exact sends_ok (allHomely_cons.mpr ⟨hy, hys⟩)
    cases v with
    | typeVar i =>
      have hfind := find_renamedPairs (ρ := ρ) chosen (.typeVar i)
      rw [Value.rename_typeVar] at hfind ⊢
      rw [substitute, substitute, hfind]
      cases hfound : chosen.find? fun e => e.1.same (.typeVar i) with
      | none => exact sends_ok hv
      | some e =>
        exact h.sends_argumentFor (v := .typeVar i) (hchosen e (List.mem_of_find?_eq_some hfound))
    | paramSpec i =>
      have hfind := find_renamedPairs (ρ := ρ) chosen (.paramSpec i)
      rw [Value.rename_paramSpec] at hfind ⊢
      rw [substitute, substitute, hfind]
      cases hfound : chosen.find? fun e => e.1.same (.paramSpec i) with
      | none => exact sends_ok hv
      | some e =>
        exact h.sends_argumentFor (v := .paramSpec i) (hchosen e (List.mem_of_find?_eq_some hfound))
    | tuple xs =>
      rw [Value.rename_tuple, substitute, substitute]
      refine (hall (fun _ h => h) (Value.homely_tuple.mp hv)).bind fun ys hys => ?_
      rw [← Value.rename_tuple]
      exact sends_pure (Value.homely_tuple.mpr hys)
    | applied n c xs =>
      rw [Value.rename_applied, substitute, substitute]
      refine (hall (fun _ h => h) (Value.homely_applied.mp hv)).bind fun ys hys => ?_
      rw [flattened_rename, ← Value.rename_applied]
      exact sends_pure (Value.homely_applied.mpr (homely_flattened hys))
    | native c xs =>
      rw [Value.rename_native, substitute, substitute]
      refine (hall (fun _ h => h) (Value.homely_native.mp hv)).bind fun ys hys => ?_
      rw [flattened_rename, ← Value.rename_native]
      exact sends_pure (Value.homely_native.mpr (homely_flattened hys))
    | looseCallable xs =>
      have hflat : ∀ ys, flattened callableRoot (ys.map (Value.rename ρ)) =
          (flattened callableRoot ys).map (Value.rename ρ) := flattened_rename callableRoot
      rw [Value.rename_looseCallable, substitute, substitute]
      refine (hall (fun _ h => h) (Value.homely_looseCallable.mp hv)).bind fun ys hys => ?_
      rw [hflat, ← Value.rename_looseCallable]
      exact sends_pure (Value.homely_looseCallable.mpr (homely_flattened hys))
    | formed n xs =>
      by_cases hn : n = "Literal"
      · subst hn
        rw [Value.rename_formed, substitute, substitute, ← Value.rename_formed]
        exact sends_ok hv
      · rw [Value.rename_formed, substitute, substitute]
        · refine (hall (fun _ h => h) (Value.homely_formed.mp hv)).bind fun ys hys => ?_
          rw [← Value.rename_formed]
          exact sends_pure (Value.homely_formed.mpr hys)
        · exact hn
        · exact hn
    | union piped xs =>
      have hxs := hall (fun _ h => h) (Value.homely_union.mp hv)
      cases piped with
      | false =>
        rw [Value.rename_union, substitute, substitute]
        exact hxs.bind fun ys hys => h.sends_checkedUnion hys
      | true =>
        rw [Value.rename_union, substitute, substitute]
        exact hxs.bind fun ys hys => h.sends_pipeAll hys
    | annotated inner notes =>
      obtain ⟨hinner, hnotes⟩ := Value.homely_annotated.mp hv
      rw [Value.rename_annotated, substitute, substitute]
      exact (ih inner (List.mem_cons_self ..) hinner).bind fun y hy => h.sends_annotate hy hnotes
    | _ => exact ⟨by simp [substitute, Except.map], gives_ok.mpr hv⟩

/-- The second computation gives the renamed value, which is homely, or fails alike. -/
theorem Renames.sends_applyVariables (h : w.Renames ρ K w') (hv : v.Homely K)
    (hxs : AllHomely K xs) :
    SendsValue ρ K (w.applyVariables v xs)
      (w'.applyVariables (v.rename ρ) (xs.map (Value.rename ρ))) := by
  unfold applyVariables
  extract_lets target params target' params'
  have htarget : target' = target := h.shown hv
  have hparams : params' = params.map (Value.rename ρ) := Value.typeVariables_rename v
  rw [htarget, hparams, List.isEmpty_map, List.length_map]
  refine sends_ite (fun _ => sends_error) fun _ => ?_
  refine Sends.bind (f := List.map (Value.rename ρ)) (P := AllHomely K)
    (sends_mapM fun x hx => ?_) fun ts hts => ?_
  · have hkept : SendsValue ρ K (.ok x) (.ok (x.rename ρ)) := sends_ok (hxs x hx)
    have htype := sends_asType (ρ := ρ) (b := false) h.blank (hxs x hx)
    cases v with
    | union piped xs =>
      cases piped with
      | false => simpa using htype
      | true => simpa using hkept
    | native c xs => simpa using hkept
    | looseCallable xs => simpa using hkept
    | _ => simpa using htype
  refine (sends_prepare hts).bind fun args hargs => ?_
  rw [List.length_map]
  refine sends_ite (fun _ => sends_error) fun _ => ?_
  have hzip : (params.map (Value.rename ρ)).zip (args.map (Value.rename ρ)) =
      renamedPairs ρ (params.zip args) := by
    rw [renamedPairs, List.zip_map]
    rfl
  rw [hzip]
  exact h.sends_substitute (fun e he => hargs e.2 (List.of_mem_zip he).2) hv

@[simp] theorem itemsOf_rename (v : Value) :
    itemsOf (v.rename ρ) = (itemsOf v).map (Value.rename ρ) := by
  cases v <;> simp [itemsOf]

theorem homely_itemsOf (hv : v.Homely K) : AllHomely K (itemsOf v) := by
  cases v with
  | tuple items => exact Value.homely_tuple.mp hv
  | _ => exact allHomely_singleton.mpr hv

theorem Renames.sends_applyGeneric (h : w.Renames ρ K w') {c : ClassRef} (hi : index.Homely K) :
    SendsValue ρ K (w.applyGeneric c index) (w'.applyGeneric (c.rename ρ) (index.rename ρ)) := by
  unfold applyGeneric
  rw [itemsOf_rename]
  refine (sends_mapM fun x hx => sends_asType h.blank (homely_itemsOf hi x hx)).bind
    fun args hargs => ?_
  rw [isGenericRoot_rename, h.nameOf, h.displayClass, h.parametersOf, Value.distinctValues_rename,
    Value.all_rename fun v => by cases v <;> simp]
  simp only [List.isEmpty_map, List.length_map, ← Value.rename_applied]
  refine sends_ite (fun _ => ?_) fun _ => ?_
  · refine sends_ite (fun _ => sends_error) fun _ => sends_ite (fun _ => sends_error) fun _ => ?_
    exact sends_ite (fun _ => sends_error) fun _ => sends_ok (Value.homely_applied.mpr hargs)
  · refine (sends_prepare hargs).bind fun more hmore => ?_
    rw [List.length_map, ← Value.rename_applied]
    exact (sends_same _).bind fun _ _ => sends_pure (Value.homely_applied.mpr hmore)

theorem Renames.sends_applyNativeCallable (h : w.Renames ρ K w') (hi : index.Homely K) :
    SendsValue ρ K (w.applyNativeCallable index) (w'.applyNativeCallable (index.rename ρ)) := by
  have hother : SendsValue ρ K
      (.error (.wrongType "Callable must be used as Callable[[arg, ...], result]."))
      (.error (.wrongType "Callable must be used as Callable[[arg, ...], result].")) := sends_error
  have hnative : ∀ xs, AllHomely K xs → SendsValue ρ K (.ok (.native callableRoot xs))
      (.ok (.native callableRoot (xs.map (Value.rename ρ)))) := by
    intro xs hxs
    exact ⟨by simp [Except.map, callableRoot], gives_ok.mpr (Value.homely_native.mpr hxs)⟩
  cases index with
  | tuple items =>
    rcases items with _ | ⟨a, _ | ⟨r, _ | ⟨b, rest⟩⟩⟩
    · exact hother
    · cases a <;> exact hother
    · have hboth := Value.homely_tuple.mp hi
      obtain ⟨ha, hr⟩ := allHomely_cons.mp hboth
      have hflat : ∀ xs, AllHomely K xs → SendsValue ρ K (.ok (.native callableRoot (xs ++ [r])))
          (.ok (.native callableRoot (xs.map (Value.rename ρ) ++ [r.rename ρ]))) := by
        intro xs hxs
        have happend := hnative (xs ++ [r]) (allHomely_append.mpr ⟨hxs, hr⟩)
        rwa [List.map_append, List.map_singleton] at happend
      have hlist : SendsValue ρ K
          (if a.isParameterList then .ok (.native callableRoot [a, r])
          else .error (.wrongType
            ("Expected a list of types, an ellipsis, ParamSpec, or Concatenate. " ++ "Got " ++
              w.shown a)))
          (if (a.rename ρ).isParameterList then
            .ok (.native callableRoot [a.rename ρ, r.rename ρ])
          else .error (.wrongType
            ("Expected a list of types, an ellipsis, ParamSpec, or Concatenate. " ++ "Got " ++
              w'.shown (a.rename ρ)))) := by
        rw [isParameterList_rename, h.shown ha]
        exact sends_ite (fun _ => hnative [a, r] hboth) fun _ => sends_error
      rw [Value.rename_tuple, List.map_cons, List.map_singleton]
      cases a with
      | tuple xs =>
        rw [Value.rename_tuple]
        exact hflat xs (Value.homely_tuple.mp ha)
      | list xs =>
        rw [Value.rename_list]
        exact hflat xs (Value.homely_list.mp ha)
      | _ => exact hlist
    · rw [Value.rename_tuple]
      cases a <;> exact hother
  | _ => exact hother

theorem Renames.subscriptName (h : w.Renames ρ K w') (c : ClassRef) :
    w'.subscriptName (c.rename ρ) = w.subscriptName c := by
  cases c with
  | library m n => rfl
  | declared i => exact h.nameOf (c := .declared i)

theorem Renames.sends_applyAnnotated (h : w.Renames ρ K w') (hxs : AllHomely K xs) :
    SendsValue ρ K (w.applyAnnotated xs) (w'.applyAnnotated (xs.map (Value.rename ρ))) := by
  rcases xs with _ | ⟨inner, _ | ⟨note, rest⟩⟩
  · exact sends_error
  · exact sends_error
  · obtain ⟨hinner, hnotes⟩ := allHomely_cons.mp hxs
    exact (h.sends_checkType h.blank hinner).bind fun t ht => h.sends_annotate ht hnotes

theorem Renames.sends_applyClass (h : w.Renames ρ K w') {c : ClassRef} (hi : index.Homely K) :
    SendsValue ρ K (w.applyClass c index) (w'.applyClass (c.rename ρ) (index.rename ρ)) := by
  unfold applyClass
  rw [h.metaclassOf, h.membersOf, h.shown hi, h.displayClass, h.subscriptionOf, itemsOf_rename,
    h.subscriptName]
  refine sends_ite (fun _ => ?_) fun _ => sends_ite (fun _ => sends_error) fun _ => ?_
  · cases index with
    | str s =>
      rw [Value.rename_str]
      dsimp only
      cases (w.membersOf c).lookup s with
      | none => exact sends_error
      | some m => exact sends_ok Value.homely_member
    | _ => exact ⟨by simp [Except.map], gives_error⟩
  · cases w.subscriptionOf c with
    | none => exact sends_error
    | some s =>
      cases s with
      | native =>
        rw [← Value.rename_native]
        exact sends_ok (Value.homely_native.mpr (homely_itemsOf hi))
      | generic => exact h.sends_applyGeneric hi
      | annotated => exact h.sends_applyAnnotated (homely_itemsOf hi)
      | initVar => exact sends_ok (Value.homely_initVar.mpr hi)
      | callable => exact h.sends_applyNativeCallable hi

theorem flatLiterals_rename (xs : List Value) :
    flatLiterals (xs.map (Value.rename ρ)) = (flatLiterals xs).map (Value.rename ρ) := by
  refine Value.flatMap_rename (fun v => ?_) xs
  cases v with
  | formed n ys =>
    by_cases hn : n = "Literal"
    · simp [hn]
    · simp [hn]
  | _ => simp

theorem homely_flatLiterals (hxs : AllHomely K xs) : AllHomely K (flatLiterals xs) := by
  refine hxs.flatMap fun v hv => ?_
  split
  · exact Value.homely_formed.mp hv
  · exact allHomely_singleton.mpr hv

theorem getLast?_rename (xs : List Value) :
    (xs.map (Value.rename ρ)).getLast? = xs.getLast?.map (Value.rename ρ) :=
  List.getLast?_map

theorem Renames.sends_applyConcatenate (h : w.Renames ρ K w') (hxs : AllHomely K xs) :
    SendsValue ρ K (w.applyConcatenate xs) (w'.applyConcatenate (xs.map (Value.rename ρ))) := by
  unfold applyConcatenate
  rw [getLast?_rename]
  cases hlast : xs.getLast? with
  | none => exact sends_error
  | some last =>
    have hhomely : last.Homely K := hxs last (List.mem_of_getLast? hlast)
    have hmany : SendsValue ρ K
        (do
          let types ← xs.dropLast.mapM
            (w.checkType { message := "Concatenate[arg, ...]: each arg must be a type." })
          return .formed "Concatenate" (types ++ [last]))
        (do
          let types ← (xs.map (Value.rename ρ)).dropLast.mapM
            (w'.checkType { message := "Concatenate[arg, ...]: each arg must be a type." })
          return .formed "Concatenate" (types ++ [last.rename ρ])) := by
      rw [← List.map_dropLast]
      have hinit : AllHomely K xs.dropLast := fun x hx => hxs x (List.dropLast_subset xs hx)
      refine (h.sends_checkTypes h.blank hinit).bind fun ts hts => ?_
      refine ⟨by simp [Except.map, pure, Except.pure], gives_ok.mpr ?_⟩
      exact Value.homely_formed.mpr (allHomely_append.mpr ⟨hts, allHomely_singleton.mpr hhomely⟩)
    cases last with
    | ellipsis => exact hmany
    | paramSpec i => exact hmany
    | _ => exact ⟨by simp [Except.map], gives_error⟩

theorem Renames.sends_applyForm (h : w.Renames ρ K w') {name : String} (hi : index.Homely K) :
    SendsValue ρ K (w.applyForm name index) (w'.applyForm name (index.rename ρ)) := by
  have hone : ∀ {use : TypeUse}, K use.module → SendsValue ρ K
      (do return .formed name [← w.checkType use index])
      (do return .formed name [← w'.checkType use (index.rename ρ)]) := by
    intro use hm
    refine (h.sends_checkType hm hi).bind fun t ht => ?_
    exact ⟨by simp [Except.map, pure, Except.pure],
      gives_ok.mpr (Value.homely_formed.mpr (allHomely_singleton.mpr ht))⟩
  unfold applyForm
  extract_lets shown
  split
  · have hmany := h.sends_checkedUnion (homely_itemsOf hi)
    rw [← itemsOf_rename] at hmany
    cases index with
    | tuple items =>
      rw [Value.rename_tuple] at hmany ⊢
      cases items with
      | nil => exact sends_error
      | cons x items => exact hmany
    | _ => exact hmany
  · refine (h.sends_checkType h.blank hi).bind fun t ht => ?_
    have hboth : AllHomely K [t, Value.noneType] :=
      allHomely_cons.mpr ⟨ht, allHomely_singleton.mpr Value.homely_noneType⟩
    exact h.sends_checkedUnion hboth
  · exact hone h.blank
  · exact hone h.blank
  · exact hone h.blank
  · exact hone h.blank
  · exact hone h.blank
  · exact hone h.blank
  · rw [itemsOf_rename, flatLiterals_rename, Value.distinctLiterals_rename, ← Value.rename_formed]
    exact sends_ok (Value.homely_formed.mpr (homely_flatLiterals (homely_itemsOf hi)).distinctLiterals)
  · rw [itemsOf_rename]
    exact h.sends_applyConcatenate (homely_itemsOf hi)
  · exact sends_error

theorem Renames.sends_applyAlias (h : w.Renames ρ K w') {name : String} (hi : index.Homely K) :
    SendsValue ρ K (w.applyAlias name index) (w'.applyAlias name (index.rename ρ)) := by
  have happlied : ∀ xs, AllHomely K xs → SendsValue ρ K
      (pure (.applied name (aliasOrigin name) xs))
      (pure (.applied name (aliasOrigin name) (xs.map (Value.rename ρ)))) := by
    intro xs hxs
    refine ⟨?_, gives_ok.mpr (Value.homely_applied.mpr hxs)⟩
    simp [Except.map, pure, Except.pure, rename_aliasOrigin]
  unfold applyAlias
  extract_lets origin items isOpen items' isOpen'
  split
  · have hother : SendsValue ρ K
        (.error (.wrongType "Callable must be used as Callable[[arg, ...], result]."))
        (.error (.wrongType "Callable must be used as Callable[[arg, ...], result].")) := sends_error
    clear isOpen isOpen' items items'
    cases index with
    | tuple parts =>
      rw [Value.rename_tuple]
      rcases parts with _ | ⟨a, _ | ⟨r, _ | ⟨b, rest⟩⟩⟩
      · exact hother
      · exact hother
      · obtain ⟨ha, hr⟩ := allHomely_cons.mp (Value.homely_tuple.mp hi)
        refine (h.sends_checkType h.blank (allHomely_singleton.mp hr)).bind fun t ht => ?_
        have hlist : ∀ items, AllHomely K items → SendsValue ρ K
            (items.mapM (asType "" false) >>= fun ts =>
              pure (.applied "Callable" origin (ts ++ [t])))
            ((items.map (Value.rename ρ)).mapM (asType "" false) >>= fun ts =>
              pure (.applied "Callable" origin (ts ++ [t.rename ρ]))) := by
          intro items hitems
          refine (sends_mapM fun x hx => sends_asType h.blank (hitems x hx)).bind fun ts hts => ?_
          rw [← List.map_singleton, ← List.map_append]
          exact happlied _ (allHomely_append.mpr ⟨hts, allHomely_singleton.mpr ht⟩)
        have hone : SendsValue ρ K
            (asType "" false a >>= fun u => pure (.applied "Callable" origin [u, t]))
            (asType "" false (a.rename ρ) >>= fun u =>
              pure (.applied "Callable" origin [u, t.rename ρ])) :=
          (sends_asType h.blank ha).bind fun u hu =>
            happlied [u, t] (allHomely_cons.mpr ⟨hu, allHomely_singleton.mpr ht⟩)
        cases a with
        | ellipsis =>
          exact happlied [.ellipsis, t]
            (allHomely_cons.mpr ⟨Value.homely_ellipsis, allHomely_singleton.mpr ht⟩)
        | list items =>
          rw [Value.rename_list]
          exact hlist items (Value.homely_list.mp ha)
        | tuple items =>
          rw [Value.rename_tuple]
          exact hlist items (Value.homely_tuple.mp ha)
        | _ => exact hone
      · exact hother
    | _ => exact hother
  · have hitems : items' = items.map (Value.rename ρ) := itemsOf_rename index
    have hisOpen : isOpen' = isOpen := by
      unfold isOpen' isOpen
      rw [hitems, List.length_map, getLast?_rename]
      cases items.getLast? with
      | none => rfl
      | some last => cases last <;> simp
    rw [hisOpen, hitems, ← List.map_dropLast]
    have hhomely : AllHomely K items := homely_itemsOf hi
    refine sends_ite (fun _ => ?_) fun _ => ?_
    · have hinit : AllHomely K items.dropLast := fun x hx =>
        hhomely x (List.dropLast_subset items hx)
      refine (h.sends_checkTypes h.blank hinit).bind fun ts hts => ?_
      have hmany := happlied (ts ++ [.ellipsis])
        (allHomely_append.mpr ⟨hts, allHomely_singleton.mpr Value.homely_ellipsis⟩)
      rwa [List.map_append, List.map_singleton] at hmany
    · exact (h.sends_checkTypes h.blank hhomely).bind fun ts hts => happlied ts hts
  · rw [itemsOf_rename]
    refine (h.sends_checkTypes h.blank (homely_itemsOf hi)).bind fun ts hts => ?_
    rw [List.length_map]
    exact (sends_same _).bind fun _ _ => happlied ts hts

theorem sends_itemAt {kind : String} (hxs : AllHomely K xs) :
    SendsValue ρ K (itemAt kind xs index)
      (itemAt kind (xs.map (Value.rename ρ)) (index.rename ρ)) := by
  cases index with
  | int n =>
    unfold itemAt
    simp only [Value.rename_int, List.length_map, List.getElem?_map]
    refine sends_ite (fun _ => sends_error) fun _ => ?_
    cases hv : xs[(if n < 0 then n + xs.length else n).toNat]? with
    | none => exact sends_error
    | some v => exact sends_ok (hxs v (List.mem_of_getElem? hv))
  | _ => exact ⟨by simp [itemAt, Except.map], gives_error⟩

theorem Renames.sends_subscript (h : w.Renames ρ K w') (hv : v.Homely K) (hi : index.Homely K) :
    SendsValue ρ K (w.subscript v index) (w'.subscript (v.rename ρ) (index.rename ρ)) := by
  have hvariables := h.sends_applyVariables hv (homely_itemsOf hi)
  rw [← itemsOf_rename] at hvariables
  have hother : SendsValue ρ K
      (.error (.wrongType (Text.display (v.className w) ++ " object is not subscriptable")))
      (.error (.wrongType (Text.display ((v.rename ρ).className w') ++
        " object is not subscriptable"))) := by
    rw [h.className]
    exact sends_error
  cases v with
  | cls c => exact h.sends_applyClass hi
  | form n => exact h.sends_applyForm hi
  | «alias» n => exact h.sends_applyAlias hi
  | applied n c xs =>
    by_cases hn : n = ""
    · subst hn
      have hshown := h.shown hv
      simp only [Value.rename_applied] at hvariables hshown ⊢
      unfold subscript
      simp only [isGenericRoot_rename, hshown]
      exact sends_ite (fun _ => sends_error) fun _ => hvariables
    · simp only [Value.rename_applied] at hvariables ⊢
      simpa [subscript, hn] using hvariables
  | native c xs | looseCallable xs | formed n xs | union p xs | annotated inner notes =>
    exact hvariables
  | list items =>
    rw [Value.rename_list]
    exact sends_itemAt (Value.homely_list.mp hv)
  | tuple items =>
    rw [Value.rename_tuple]
    exact sends_itemAt (Value.homely_tuple.mp hv)
  | dict ks vs =>
    have hfind : ((ks.map (Value.rename ρ)).zip (vs.map (Value.rename ρ))).find?
        (fun e => e.1.same (index.rename ρ)) =
        ((ks.zip vs).find? fun e => e.1.same index).map fun e => (e.1.rename ρ, e.2.rename ρ) := by
      rw [← find_renamedPairs, renamedPairs, List.zip_map]
      rfl
    rw [Value.rename_dict]
    unfold subscript
    simp only [hfind, h.shown hi]
    cases hfound : (ks.zip vs).find? fun e => e.1.same index with
    | none => exact sends_error
    | some e =>
      have hmem := List.of_mem_zip (List.mem_of_find?_eq_some hfound)
      exact sends_ok ((Value.homely_dict.mp hv).2 e.2 hmem.2)
  | _ => exact hother

end World

end TypeProjection.Annotation
