import TypeProjection.Proofs.RenamedEvaluation

/-!
# Texts under other serials

A text that stands for a type is evaluated among the names of its module. If the modules to which
texts belong have names in both worlds that mean the same, in whatever order, a text stands for the
renamed type in the renamed world, or it fails with the same words there; so what is noted of it is
the same.
-/

namespace TypeProjection.Annotation

/-- Names mean the renamed values of what names of the first world mean. -/
def NamesSent (ρ : Renaming) (names names' : List (String × Value)) : Prop :=
  ∀ n, names'.lookup n = (names.lookup n).map (Value.rename ρ)

theorem namesSent_renamed (ρ : Renaming) (names : List (String × Value)) :
    NamesSent ρ names (renamedNames ρ names) := World.lookup_renamedNames names

/-- The modules to which texts belong are found in both worlds or in neither, and their names mean
renamed values in the second world. -/
def World.SharesNames (ρ : Renaming) (K : String → Prop) (w w' : World) : Prop :=
  ∀ m, K m → (w.loaded? m = none ∧ w'.loaded? m = none) ∨
    ∃ x x', w.loaded? m = some x ∧ w'.loaded? m = some x' ∧ NamesSent ρ x.names x'.names ∧
      HomelyNames K x.names

/-- The surroundings in the second world: all names mean renamed values. -/
structure Surroundings.Sent (ρ : Renaming) (s s' : Surroundings) : Prop where
  locals : NamesSent ρ s.locals s'.locals
  globals : NamesSent ρ s.globals s'.globals

/-- All names mean homely values. -/
structure Surroundings.Homely (K : String → Prop) (s : Surroundings) : Prop where
  locals : HomelyNames K s.locals
  globals : HomelyNames K s.globals

theorem Surroundings.Homely.spaces {K : String → Prop} {s : Surroundings} (hs : s.Homely K) :
    ∀ names ∈ s.scope.spaces, HomelyNames K names :=
  List.forall_mem_cons.mpr ⟨hs.locals, List.forall_mem_singleton.mpr hs.globals⟩

namespace World

open Value (AllHomely allHomely_cons allHomely_nil)

variable {ρ : Renaming} {K : String → Prop} {w w' : World} {v : Value} {xs : List Value}
  {s s' : Surroundings} {m : String}

/-! Scopes. -/

theorem find?_sent (hs : s.Sent ρ s') (n : String) :
    Scope.find? s'.scope.spaces n = (Scope.find? s.scope.spaces n).map (Value.rename ρ) := by
  have hbuiltin : (builtinName? n).map (Value.rename ρ) = builtinName? n := by
    cases hv : builtinName? n with
    | none => rfl
    | some v => rw [Option.map_some, (common_builtinName hv).rename]
  simp only [Scope.find?, Surroundings.scope, List.findSome?, hs.locals n, hs.globals n]
  cases s.locals.lookup n with
  | some v => rfl
  | none =>
    cases s.globals.lookup n with
    | some v => rfl
    | none => exact hbuiltin.symm

theorem homely_find? {spaces : List (List (String × Value))}
    (hs : ∀ names ∈ spaces, HomelyNames K names) {n : String}
    (hv : Scope.find? spaces n = some v) : v.Homely K := by
  unfold Scope.find? at hv
  split at hv
  · next x hx =>
    cases hv
    obtain ⟨names, hnames, hx⟩ := List.exists_of_findSome?_eq_some hx
    exact HomelyNames.lookup (hs names hnames) hx
  · exact (common_builtinName hv).homely K

theorem sendsName_scope (hs : s.Homely K) (hsent : s.Sent ρ s') (n : String) :
    SendsName ρ K s.scope s'.scope n := by
  have hknown : s'.scope.known n = s.scope.known n := rfl
  unfold SendsName Scope.lookup
  rw [hknown, find?_sent hsent]
  cases hv : Scope.find? s.scope.spaces (s.scope.known n) with
  | none => exact sends_error
  | some v => exact sends_ok (homely_find? hs.spaces hv)

namespace SharesNames

variable (h : w.SharesNames ρ K w') (hm : K m)

include h hm

theorem namesOf : NamesSent ρ (w.namesOf m) (w'.namesOf m) := by
  unfold World.namesOf
  rcases h m hm with ⟨hx, hx'⟩ | ⟨x, x', hx, hx', hnames, -⟩
  · rw [hx, hx']
    exact fun _ => rfl
  · rw [hx, hx']
    exact hnames

theorem homely_namesOf : HomelyNames K (w.namesOf m) := by
  unfold World.namesOf
  rcases h m hm with ⟨hx, -⟩ | ⟨x, x', hx, -, -, hhomely⟩
  · rw [hx]
    exact fun _ he => (List.not_mem_nil he).elim
  · rw [hx]
    exact hhomely

theorem inModule (hs : s.Sent ρ s') : (s.inModule w m).Sent ρ (s'.inModule w' m) := by
  unfold Surroundings.inModule
  rcases h m hm with ⟨hx, hx'⟩ | ⟨x, x', hx, hx', hnames, -⟩
  · rw [hx, hx']
    exact hs
  · rw [hx, hx']
    exact ⟨hs.locals, hnames⟩

theorem homely_inModule (hs : s.Homely K) : (s.inModule w m).Homely K := by
  unfold Surroundings.inModule
  rcases h m hm with ⟨hx, -⟩ | ⟨x, x', hx, -, -, hhomely⟩
  · rw [hx]
    exact hs
  · rw [hx]
    exact ⟨hs.locals, hhomely⟩

end SharesNames

/-! Texts inside of values. -/

theorem referred_rename (v : Value) : referred (v.rename ρ) = (referred v).rename ρ := by
  cases v with
  | str s => rfl
  | _ => simp only [referred, Value.rename_none, Value.rename_ellipsis, Value.rename_bool,
      Value.rename_int, Value.rename_float, Value.rename_bytes, Value.rename_list,
      Value.rename_tuple, Value.rename_set, Value.rename_dict, Value.rename_cls,
      Value.rename_typeVar, Value.rename_paramSpec, Value.rename_newType, Value.rename_form,
      Value.rename_alias, Value.rename_applied, Value.rename_native, Value.rename_formed,
      Value.rename_looseCallable, Value.rename_union, Value.rename_annotated,
      Value.rename_forward, Value.rename_initVar, Value.rename_member, Value.rename_function,
      Value.rename_module, Value.rename_other]

/-- Values have the same texts if their renamed forms do. -/
theorem tuple_same_rename (xs ys : List Value) :
    (Value.tuple (xs.map (Value.rename ρ))).same (.tuple (ys.map (Value.rename ρ))) =
      (Value.tuple xs).same (.tuple ys) := by
  rw [← Value.rename_tuple, ← Value.rename_tuple, Value.same_rename]

section Parts

variable {resolve resolve' : Pending → Except Fault Value}

theorem sends_resolveAll
    (h : ∀ x ∈ xs, SendsValue ρ K (w.resolveParts resolve x)
      (w'.resolveParts resolve' (x.rename ρ))) :
    SendsValues ρ K (resolveParts.resolveAll w resolve xs)
      (resolveParts.resolveAll w' resolve' (xs.map (Value.rename ρ))) := by
  induction xs with
  | nil => exact sends_ok allHomely_nil
  | cons x xs ih =>
    obtain ⟨hx, hxs⟩ := List.forall_mem_cons.mp h
    rw [List.map_cons, resolveParts.resolveAll, resolveParts.resolveAll]
    refine hx.bind fun y hy => (ih hxs).bind fun ys hys => ?_
    exact sends_pure (f := List.map (Value.rename ρ)) (allHomely_cons.mpr ⟨hy, hys⟩)

theorem sends_resolveNative (hblank : K "")
    (hresolve : ∀ p : Pending, K p.module → SendsValue ρ K (resolve p) (resolve' p))
    (h : ∀ x ∈ xs, SendsValue ρ K (w.resolveParts resolve x)
      (w'.resolveParts resolve' (x.rename ρ))) :
    SendsValues ρ K (resolveParts.resolveNative w resolve xs)
      (resolveParts.resolveNative w' resolve' (xs.map (Value.rename ρ))) := by
  induction xs with
  | nil => exact sends_ok allHomely_nil
  | cons x xs ih =>
    obtain ⟨hx, hxs⟩ := List.forall_mem_cons.mp h
    have hrest : ∀ {y y'}, SendsValue ρ K y y' →
        SendsValues ρ K (do return (← y) :: (← resolveParts.resolveNative w resolve xs))
          (do return (← y') :: (← resolveParts.resolveNative w' resolve'
            (xs.map (Value.rename ρ)))) := by
      intro y y' hy
      refine hy.bind fun y hy => (ih hxs).bind fun ys hys => ?_
      exact sends_pure (f := List.map (Value.rename ρ)) (allHomely_cons.mpr ⟨hy, hys⟩)
    rw [List.map_cons]
    by_cases hstr : ∃ s, x = .str s
    · obtain ⟨s, rfl⟩ := hstr
      rw [Value.rename_str, resolveParts.resolveNative, resolveParts.resolveNative]
      exact hrest (hresolve ⟨s, "", false⟩ hblank)
    · have hstr' : ∀ s, x.rename ρ = .str s → False :=
        fun s hs => hstr ⟨s, Value.rename_eq_str.mp hs⟩
      rw [resolveParts.resolveNative.eq_3 _ _ _ _ fun s hs => hstr ⟨s, hs⟩,
        resolveParts.resolveNative.eq_3 _ _ _ _ hstr']
      exact hrest hx

/-- The texts inside of a renamed value are replaced by the renamed types. -/
theorem Renames.sends_resolveParts (h : w.Renames ρ K w')
    (hresolve : ∀ p : Pending, K p.module → SendsValue ρ K (resolve p) (resolve' p))
    (hv : v.Homely K) :
    SendsValue ρ K (w.resolveParts resolve v) (w'.resolveParts resolve' (v.rename ρ)) := by
  induction v using Value.children_induction with
  | _ v ih =>
    have hhomely := (Value.homely_iff.mp hv).2
    have hparts : ∀ x ∈ v.children, SendsValue ρ K (w.resolveParts resolve x)
        (w'.resolveParts resolve' (x.rename ρ)) := fun x hx => ih x hx (hhomely x hx)
    have hsame : ∀ {x x' : Except Fault Value}, x = .ok v → x' = .ok (v.rename ρ) →
        SendsValue ρ K x x' := by
      rintro _ _ rfl rfl
      exact sends_ok hv
    cases v with
    | forward text module allowsForms =>
      rw [Value.rename_forward, resolveParts, resolveParts]
      exact hresolve ⟨text, module, allowsForms⟩ (Value.homely_forward.mp hv)
    | applied n c xs =>
      rw [Value.rename_applied, resolveParts, resolveParts]
      refine (sends_resolveAll hparts).bind fun ys hys => ?_
      rw [← Value.rename_applied]
      exact sends_pure (Value.homely_applied.mpr hys)
    | native c xs =>
      have hreferred : (xs.map (Value.rename ρ)).map referred =
          (xs.map referred).map (Value.rename ρ) := by
        rw [List.map_map, List.map_map]
        exact List.map_congr_left fun x _ => referred_rename x
      rw [Value.rename_native, resolveParts, resolveParts]
      refine (sends_resolveNative h.blank hresolve hparts).bind fun ys hys => ?_
      dsimp only
      rw [hreferred, tuple_same_rename, callableRoot, ClassRef.rename_beq_library]
      refine sends_ite (fun _ => ?_) fun _ => ?_
      · rw [← Value.rename_looseCallable]
        exact sends_pure (Value.homely_looseCallable.mpr hys)
      · rw [← Value.rename_native]
        exact sends_pure (Value.homely_native.mpr hys)
    | looseCallable xs =>
      rw [Value.rename_looseCallable, resolveParts, resolveParts]
      refine (sends_resolveNative h.blank hresolve hparts).bind fun ys hys => ?_
      rw [← Value.rename_looseCallable]
      exact sends_pure (Value.homely_looseCallable.mpr hys)
    | formed n xs =>
      by_cases hn : n = "Literal"
      · subst hn
        exact hsame rfl (by rw [Value.rename_formed, resolveParts])
      · rw [Value.rename_formed, resolveParts.eq_6 _ _ _ _ hn, resolveParts.eq_6 _ _ _ _ hn]
        refine (sends_resolveAll hparts).bind fun ys hys => ?_
        rw [← Value.rename_formed]
        exact sends_pure (Value.homely_formed.mpr hys)
    | union piped xs =>
      rw [Value.rename_union, resolveParts, resolveParts]
      refine (sends_resolveAll hparts).bind fun ys hys => ?_
      rw [tuple_same_rename, ← Value.rename_union]
      refine sends_ite (fun _ => sends_pure hv) fun _ => ?_
      exact sends_ite (fun _ => h.sends_pipeAll hys) fun _ => h.sends_checkedUnion hys
    | annotated inner notes =>
      obtain ⟨-, hnotes⟩ := Value.homely_annotated.mp hv
      rw [Value.rename_annotated, resolveParts, resolveParts]
      exact (hparts inner (List.mem_cons_self ..)).bind fun x hx => h.sends_annotate hx hnotes
    | _ => exact hsame (by simp [resolveParts]) (by simp [resolveParts])

end Parts

/-! Texts. -/

section Texts

variable (h : w.Renames ρ K w') (hshare : w.SharesNames ρ K w')

include h hshare

/-- A text inside of a type stands for the renamed type. -/
theorem Renames.sends_resolvePending (fuel : Nat) (hs : s.Homely K) (hsent : s.Sent ρ s')
    (seen : List String) (p : Pending) (hp : K p.module) :
    SendsValue ρ K (w.resolvePending fuel s seen p) (w'.resolvePending fuel s' seen p) := by
  induction fuel generalizing s s' seen p with
  | zero => exact sends_error
  | succ fuel ih =>
    have hnames : Surroundings.Sent ρ (if p.module == "" then s else s.inModule w p.module)
        (if p.module == "" then s' else s'.inModule w' p.module) := by
      split
      · exact hsent
      · exact hshare.inModule hp hsent
    have hhomely : (if p.module == "" then s else s.inModule w p.module).Homely K := by
      split
      · exact hs
      · exact hshare.homely_inModule hp hs
    rw [resolvePending, resolvePending]
    refine (sends_same (expressionOf p.text)).bind fun e _ => ?_
    dsimp only [id]
    refine sends_ite (fun _ => sends_pure (f := Value.rename ρ) (Value.homely_forward.mpr hp))
      fun _ => ?_
    refine (h.sends_evaluate (by rfl) e fun n _ => sendsName_scope hhomely hnames n).bind
      fun v hv => ?_
    refine (h.sends_checkType h.blank hv).bind fun v hv => ?_
    exact h.sends_resolveParts (fun p hp => ih hhomely hnames _ p hp) hv

omit hshare in
theorem Renames.sends_readText (hs : s.Homely K) (hsent : s.Sent ρ s') (text : String) :
    SendsValue ρ K (w.readText s text) (w'.readText s' text) := by
  unfold readText
  refine (sends_same (expressionOf text)).bind fun e _ => ?_
  refine sends_ite (fun _ => ?_) fun _ => ?_
  · rw [find?_sent hsent]
    cases hv : Scope.find? s.scope.spaces text with
    | none => exact sends_error
    | some v => exact sends_pure (homely_find? hs.spaces hv)
  · exact h.sends_evaluate (by rfl) e fun n _ => sendsName_scope hs hsent n

/-- A text stands for the renamed type. -/
theorem Renames.sends_resolveText (fuel : Nat) (hs : s.Homely K) (hsent : s.Sent ρ s')
    (seen : List String) (p : Pending) (hp : K p.module) :
    SendsValue ρ K (w.resolveText fuel s seen p) (w'.resolveText fuel s' seen p) := by
  induction fuel generalizing s s' seen p with
  | zero => exact sends_error
  | succ fuel ih =>
    rw [resolveText, resolveText]
    refine sends_ite (fun _ => sends_pure (f := Value.rename ρ) (Value.homely_forward.mpr hp))
      fun _ => ?_
    refine (h.sends_readText hs hsent p.text).bind fun v hv => ?_
    have hparts : SendsValue ρ K (w.resolveParts (w.resolvePending fuel s (p.text :: seen)) v)
        (w'.resolveParts (w'.resolvePending fuel s' (p.text :: seen)) (v.rename ρ)) :=
      h.sends_resolveParts
        (fun p hp => h.sends_resolvePending hshare fuel hs hsent _ p hp) hv
    cases v with
    | str text => exact ih hs hsent seen ⟨text, "", false⟩ h.blank
    | forward text m f =>
      have hm : K m := Value.homely_forward.mp hv
      rw [Value.rename_forward]
      refine ih ?_ ?_ seen ⟨text, m, f⟩ hm
      · split
        · exact hs
        · exact hshare.homely_inModule hm hs
      · split
        · exact hsent
        · exact hshare.inModule hm hsent
    | _ => exact hparts

variable {locals : List (String × Value)} (hl : HomelyNames K locals) (hm : K m) (hv : v.Homely K)

include hl hm hv

/-- An annotation stands for the renamed type. -/
theorem Renames.sends_resolveAnnotation :
    SendsValue ρ K (w.resolveAnnotation locals m v)
      (w'.resolveAnnotation (renamedNames ρ locals) m (v.rename ρ)) := by
  have hs : Surroundings.Homely K ⟨locals, w.namesOf m⟩ := ⟨hl, hshare.homely_namesOf hm⟩
  have hsent : Surroundings.Sent ρ ⟨locals, w.namesOf m⟩ ⟨renamedNames ρ locals, w'.namesOf m⟩ :=
    ⟨namesSent_renamed ρ locals, hshare.namesOf hm⟩
  have htext := fun p hp => h.sends_resolveText hshare textLimit hs hsent [] p hp
  unfold resolveAnnotation
  cases v with
  | str text => exact htext ⟨text, "", false⟩ h.blank
  | forward text m f => exact htext ⟨text, m, f⟩ (Value.homely_forward.mp hv)
  | _ => exact sends_ok hv

omit h hshare hl hm hv in
theorem annotationText?_rename (v : Value) : annotationText? (v.rename ρ) = annotationText? v := by
  cases v <;> simp [annotationText?]

omit h hshare hl hm hv in
theorem unresolvedNote_rename (v : Value) (m : String) (f : Fault) :
    unresolvedNote (v.rename ρ) m f = unresolvedNote v m f := by
  unfold unresolvedNote
  rw [annotationText?_rename]

/-- An annotation is resolved to the renamed type, with the same notes. -/
theorem Renames.annotationType :
    w'.annotationType (renamedNames ρ locals) m (v.rename ρ) =
      ((w.annotationType locals m v).1.rename ρ, (w.annotationType locals m v).2) := by
  obtain ⟨hresult, -⟩ := h.sends_resolveAnnotation hshare hl hm hv
  unfold World.annotationType
  rw [hresult]
  generalize w.resolveAnnotation locals m v = r
  cases r with
  | ok t => rfl
  | error f => exact Prod.ext rfl (congrArg (fun n => [n]) (unresolvedNote_rename v m f))

theorem Renames.homely_annotationType : (w.annotationType locals m v).1.Homely K := by
  obtain ⟨-, hgives⟩ := h.sends_resolveAnnotation hshare hl hm hv
  unfold World.annotationType
  cases ht : w.resolveAnnotation locals m v with
  | ok t => exact hgives t ht
  | error f => exact Value.homely_any

end Texts

end World

end TypeProjection.Annotation
