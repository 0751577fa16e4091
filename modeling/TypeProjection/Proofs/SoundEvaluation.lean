import TypeProjection.Annotation.Types
import TypeProjection.Proofs.SoundValues

/-!
# What an expression gives

In a world whose stored values are sound, an expression gives a sound value in every sound scope,
and a text stands for a sound type. A world is closed if all that it stores is sound: what its
classes hold, the bounds of its variables, the types behind its named types, and the names of its
modules.
-/

namespace TypeProjection.Annotation

/-! Lookups. -/

theorem lookup_putPair {α : Type} (name : String) (v : α) (entries : List (String × α))
    (n : String) :
    (putPair name v entries).lookup n = if n = name then some v else entries.lookup n := by
  have hbeq : ∀ k : String, (n == k) = decide (n = k) := fun k => rfl
  induction entries with
  | nil =>
    rw [putPair, List.lookup_cons, hbeq]
    by_cases h : n = name <;> simp [h]
  | cons e entries ih =>
    obtain ⟨k, x⟩ := e
    unfold putPair
    by_cases hk : k = name
    · subst hk
      simp only [beq_self_eq_true, if_true, List.lookup_cons, hbeq]
      by_cases h : n = k <;> simp [h]
    · rw [if_neg (by simpa using hk), List.lookup_cons, List.lookup_cons, hbeq, ih]
      by_cases h : n = k
      · subst h
        simp [hk]
      · simp [h]

theorem lookup_map_key {α β : Type} (f : String → α → β) (entries : List (String × α)) (n : String) :
    (entries.map fun e => (e.1, f e.1 e.2)).lookup n = (entries.lookup n).map (f n) := by
  induction entries with
  | nil => rfl
  | cons e entries ih =>
    rw [List.map_cons, List.lookup_cons, List.lookup_cons, ih]
    cases hn : n == e.1 with
    | true => rw [eq_of_beq hn]; rfl
    | false => rfl

namespace World

variable {w : World} {v : Value} {xs : List Value} {name : String}

/-- What stands under a name in a class is sound. -/
def SoundAttribute (w : World) : Attribute → Prop
  | .value v => w.Sound v
  | .property (some g) _ => ∀ v, g.returns = some v → w.Sound v
  | .property none _ => True
  | .method _ => True

/-- What is known of a class is sound. -/
structure SoundClass (w : World) (info : ClassInfo) : Prop where
  ancestors : ∀ c ∈ info.ancestors, w.Valid c
  writtenBases : ∀ v ∈ info.writtenBases, w.Sound v
  parameters : ∀ v ∈ info.parameters, w.Sound v
  annotations : ∀ a ∈ info.annotations, w.Sound a.2
  attributes : ∀ a ∈ info.attributes, w.SoundAttribute a.2

/-- Names stand for sound values. -/
def SoundNames (w : World) (names : List (String × Value)) : Prop := ∀ e ∈ names, w.Sound e.2

/-- All that a world stores is sound. -/
structure Closed (w : World) : Prop where
  library : libraryVariables.length ≤ w.typeVars.size
  classes : ∀ {i : Nat} {info}, w.classes[i]? = some info → w.SoundClass info
  bounds : ∀ {i : Nat} {v}, w.typeVars[i]? = some v → ∀ t ∈ v.bound.toList ++ v.alternatives, w.Sound t
  supertypes : ∀ {i : Nat} {n}, w.newTypes[i]? = some n → w.Sound n.supertype
  /-- A named type is older than any type named after it. -/
  older : ∀ {i j : Nat} {n}, w.newTypes[i]? = some n → n.supertype.peel = .newType j → j < i
  names : ∀ {i : Nat} {m}, w.modules[i]? = some m → w.SoundNames m.names

theorem mem_of_lookup_eq {α : Type} {entries : List (String × α)} {a : α}
    (h : entries.lookup name = some a) : ∃ e ∈ entries, e.2 = a := by
  induction entries with
  | nil => cases h
  | cons e entries ih =>
    rw [List.lookup_cons] at h
    split at h
    · cases h
      exact ⟨e, List.mem_cons_self .., rfl⟩
    · obtain ⟨e', he', ha⟩ := ih h
      exact ⟨e', List.mem_cons_of_mem _ he', ha⟩

theorem SoundNames.lookup {names : List (String × Value)} (h : w.SoundNames names)
    (hv : names.lookup name = some v) : w.Sound v := by
  obtain ⟨e, he, rfl⟩ := mem_of_lookup_eq hv
  exact h e he

/-! The library. -/

section Library

theorem sound_libraryFunction {module : String} (h : libraryFunction? module name = some v) :
    w.Sound v := by
  unfold libraryFunction? at h
  split at h
  · split at h
    · cases h
      exact sound_function
    · cases h
  · cases h

theorem sound_builtinName (h : builtinName? name = some v) : w.Sound v := by
  unfold builtinName? at h
  split at h
  · cases h
    exact sound_cls.mpr valid_library
  split at h
  · cases h
    exact sound_ellipsis
  split at h
  · cases h
    exact sound_function
  split at h
  · cases h
    exact sound_other
  split at h
  · cases h
    exact sound_bool
  split at h
  · cases h
  split at h
  · cases h
    exact sound_cls.mpr valid_library
  · exact sound_libraryFunction h

theorem sound_typingAttribute (hw : libraryVariables.length ≤ w.typeVars.size)
    (h : typingAttribute? name = some v) : w.Sound v := by
  unfold typingAttribute? at h
  split at h
  · cases h
    exact sound_form
  split at h
  · cases h
    exact sound_alias
  split at h
  · cases h
    exact sound_cls.mpr valid_library
  split at h
  · next i hi =>
    cases h
    exact sound_typeVar.mpr (Nat.lt_of_lt_of_le (List.findIdx?_eq_some_iff_getElem.mp hi).1 hw)
  split at h
  · cases h
    exact sound_cls.mpr valid_library
  · exact sound_libraryFunction h

theorem sound_moduleAttribute (hw : libraryVariables.length ≤ w.typeVars.size) {module : String}
    (h : moduleAttribute? module name = some v) : w.Sound v := by
  unfold moduleAttribute? at h
  split at h
  · exact sound_builtinName h
  split at h
  · exact sound_typingAttribute hw h
  split at h
  · split at h
    · cases h
      exact sound_cls.mpr valid_library
    · exact sound_typingAttribute hw h
  split at h
  · cases h
    exact sound_module
  split at h
  · cases h
    exact sound_cls.mpr valid_library
  split at h
  · cases h
    exact sound_cls.mpr valid_library
  split at h
  · cases h
    exact sound_cls.mpr valid_library
  · exact sound_libraryFunction h

/-- How the builtin collections take arguments. -/
theorem native_builtin (w : World) {n : String} (hn : n = "dict" ∨ n = "set") :
    w.Valid (builtin n) ∧ w.subscriptionOf (builtin n) ≠ some .generic := by
  refine ⟨valid_library, ?_⟩
  rw [builtin, subscriptionOf_library w initial]
  rcases hn with rfl | rfl
  · decide
  · decide

theorem sound_libraryAttributes (c : ClassRef) :
    ∀ a ∈ libraryAttributes c, w.SoundAttribute a.2 := by
  have hdict := native_builtin w (.inl rfl)
  have hset := native_builtin w (.inr rfl)
  have hclass : ∀ n, w.Valid (builtin n) := fun n => valid_library
  unfold libraryAttributes
  split
  · intro a ha
    obtain ⟨n, -, rfl⟩ := List.mem_map.mp ha
    exact nofun
  all_goals simp_all [SoundAttribute, shownProperty, bareProperty]

theorem sound_attributesOf (hw : w.Closed) {c : ClassRef} :
    ∀ a ∈ w.attributesOf c, w.SoundAttribute a.2 := by
  intro a ha
  cases c with
  | library m n => exact sound_libraryAttributes _ a ha
  | declared i =>
    change a ∈ (w.classes[i]?.map ClassInfo.attributes).getD [] at ha
    cases hi : w.classes[i]? with
    | none =>
      rw [hi] at ha
      exact (List.not_mem_nil ha).elim
    | some info =>
      rw [hi] at ha
      exact (hw.classes hi).attributes a ha

theorem sound_annotationsOf (hw : w.Closed) (c : ClassRef) : w.SoundNames (w.annotationsOf c) := by
  unfold annotationsOf
  cases hi : w.info? c with
  | none => exact fun _ h => (List.not_mem_nil h).elim
  | some info =>
    cases c with
    | library m n => cases hi
    | declared i => exact (hw.classes hi).annotations

end Library

/-! Attributes of values. -/

section Attributes

theorem sound_attributeValue {c : ClassRef} {a : Attribute} (ha : w.SoundAttribute a) :
    w.Sound (w.attributeValue c name a) := by
  cases a with
  | value v => exact ha
  | property g b => exact sound_other
  | method b => exact sound_function

theorem sound_classNames (hw : w.Closed) (c : ClassRef) : w.SoundNames (w.classNames c) := by
  intro e he
  obtain ⟨a, ha, rfl⟩ := List.mem_map.mp he
  exact sound_attributeValue (sound_attributesOf hw a ha)

theorem gives_ofClass (hw : w.Closed) {c : ClassRef} (hc : w.Valid c) :
    Gives (w.ofClass c name) w.Sound := by
  unfold ofClass
  split
  · exact gives_ok.mpr (sound_member.mpr hc)
  split
  · next d a hfound =>
    obtain ⟨x, -, hx⟩ := List.exists_of_findSome?_eq_some hfound
    obtain ⟨b, hb, hpair⟩ := Option.map_eq_some_iff.mp hx
    cases hpair
    obtain ⟨e, he, rfl⟩ := mem_of_lookup_eq hb
    exact gives_ok.mpr (sound_attributeValue (sound_attributesOf hw e he))
  refine gives_ite (fun _ => gives_ok.mpr sound_str) fun _ => ?_
  refine gives_ite (fun _ => gives_ok.mpr sound_str) fun _ => ?_
  exact gives_ite (fun _ => gives_ok.mpr sound_str) fun _ => gives_error

theorem orElse_cases {α : Type} {x : Option α} {f : Unit → Option α} {a : α}
    (h : x.orElse f = some a) : x = some a ∨ f () = some a := by
  cases x with
  | none => exact .inr h
  | some b => exact .inl h

theorem sound_ownName {module : String} {file : Option String}
    (h : ownName? module file name = some v) : w.Sound v := by
  unfold ownName? at h
  split at h
  · cases h
    exact sound_str
  split at h
  · cases h
    exact sound_none
  split at h
  · obtain ⟨s, -, rfl⟩ := Option.map_eq_some_iff.mp h
    exact sound_str
  · cases h

theorem names_of_loaded (hw : w.Closed) {module : String} {m : LoadedModule}
    (h : w.loaded? module = some m) : w.SoundNames m.names := by
  obtain ⟨i, -, hi⟩ := Option.bind_eq_some_iff.mp h
  exact hw.names hi

theorem sound_namesOf (hw : w.Closed) (module : String) : w.SoundNames (w.namesOf module) := by
  unfold namesOf
  cases hm : w.loaded? module with
  | none => exact fun _ he => (List.not_mem_nil he).elim
  | some m => exact names_of_loaded hw hm

theorem sound_moduleName (hw : w.Closed) {module : String}
    (h : w.moduleName? module name = some v) : w.Sound v := by
  unfold moduleName? at h
  split at h
  · next m hm =>
    rcases orElse_cases h with h | h
    · exact (names_of_loaded hw hm).lookup h
    · exact sound_ownName h
  split at h
  · rcases orElse_cases h with h | h
    · exact sound_moduleAttribute hw.library h
    · exact sound_ownName h
  · cases h

theorem sound_ofPoints {ps : List Text.Point} : w.Sound (Value.ofPoints ps) := by
  unfold Value.ofPoints
  split
  · exact sound_str
  · exact sound_other

mutual

theorem sound_ofLiteral : (x : Literal) → w.Sound (Value.ofLiteral x)
  | .none => by rw [Value.ofLiteral]; exact sound_none
  | .bool b => by rw [Value.ofLiteral]; exact sound_bool
  | .int n => by rw [Value.ofLiteral]; exact sound_int
  | .float x => by rw [Value.ofLiteral]; exact sound_float
  | .str _ => by rw [Value.ofLiteral]; exact sound_ofPoints
  | .bytes bs => by rw [Value.ofLiteral]; exact sound_bytes
  | .list items => by rw [Value.ofLiteral]; exact sound_list.mpr (sound_ofLiterals items)
  | .tuple items => by rw [Value.ofLiteral]; exact sound_tuple.mpr (sound_ofLiterals items)
  | .other d => by rw [Value.ofLiteral]; exact sound_other

theorem sound_ofLiterals : (items : List Literal) →
    ∀ x ∈ Value.ofLiteral.ofLiterals items, w.Sound x
  | [] => fun _ hx => (List.not_mem_nil hx).elim
  | x :: xs => List.forall_mem_cons.mpr ⟨sound_ofLiteral x, sound_ofLiterals xs⟩

end

theorem gives_attributeOf (hw : w.Closed) (hv : w.Sound v) :
    Gives (w.attributeOf v name) w.Sound := by
  unfold attributeOf
  dsimp only
  split
  · split
    · next x hx => exact gives_ok.mpr (sound_moduleName hw hx)
    · exact gives_error
  · exact gives_ofClass hw (sound_cls.mp hv)
  · exact gives_ofClass hw (sound_applied.mp hv).1.1
  · exact gives_ofClass hw (sound_native.mp hv).1.1
  · exact gives_ofClass hw valid_library
  · exact gives_ofClass hw (aliasOrigin_cases w _).1
  · refine gives_ite (fun _ => gives_ok.mpr sound_str) fun _ => ?_
    refine gives_ite (fun _ => ?_) fun _ => gives_error
    split
    · exact gives_ok.mpr (sound_ofLiteral _)
    · exact gives_error
  · exact gives_ite (fun _ => gives_ok.mpr sound_other) fun _ => gives_error
  · exact gives_error

end Attributes

/-! Calls and operations. -/

section Calls

theorem sound_classOf (hv : w.Sound v) : w.Sound (w.classOf v) := by
  unfold classOf
  split
  · exact sound_noneType
  · split
    · exact sound_cls.mpr valid_library
    · exact sound_cls.mpr valid_library
    · exact sound_cls.mpr valid_library
  · exact sound_cls.mpr (sound_member.mp hv)
  all_goals exact sound_cls.mpr valid_library

theorem gives_call {callee : Value} (hxs : ∀ x ∈ xs, w.Sound x) :
    Gives (w.call callee xs) w.Sound := by
  have hone : ∀ {x : Value}, (∀ y ∈ [x], w.Sound y) → w.Sound x :=
    fun h => h _ (List.mem_singleton_self _)
  unfold call
  split
  case h_1 => exact gives_ok.mpr (sound_classOf (hone hxs))
  case h_12 => exact gives_asType sound_str
  case h_14 => exact gives_ok.mpr (hone hxs)
  case h_15 =>
    split
    · exact gives_ok.mpr (hone hxs)
    · exact gives_error
  all_goals simp

theorem gives_operate {symbol : String} : Gives (operate symbol xs) w.Sound := by
  unfold operate
  split <;> simp

end Calls

/-! Expressions. -/

section Expressions

variable {s : Scope}

/-- The names in a scope stand for sound values. -/
def SoundScope (w : World) (s : Scope) : Prop := ∀ names ∈ s.spaces, w.SoundNames names

theorem sound_find (hs : w.SoundScope s) (h : Scope.find? s.spaces name = some v) :
    w.Sound v := by
  unfold Scope.find? at h
  split at h
  · next u hu =>
    cases h
    obtain ⟨names, hnames, hlookup⟩ := List.exists_of_findSome?_eq_some hu
    exact (hs names hnames).lookup hlookup
  · exact sound_builtinName h

theorem gives_lookup (hs : w.SoundScope s) : Gives (s.lookup name) w.Sound := by
  unfold Scope.lookup
  split
  · next v hv => exact gives_ok.mpr (sound_find hs hv)
  · exact gives_error

mutual

/-- An expression gives a value that the world can have made. -/
theorem gives_evaluate (hw : w.Closed) (hs : w.SoundScope s) :
    (e : Expr) → Gives (w.evaluate s e) w.Sound
  | .none => by simp [evaluate]
  | .ellipsis => by simp [evaluate]
  | .bool b => by simp [evaluate]
  | .int n => by simp [evaluate]
  | .float x => by simp [evaluate]
  | .str t => by simp [evaluate]
  | .bytes bs => by simp [evaluate]
  | .name n => by
    rw [evaluate]
    exact gives_lookup hs
  | .attribute of n => by
    rw [evaluate, gives_bind]
    exact (gives_evaluate hw hs of).mono fun v hv => gives_attributeOf hw hv
  | .subscript of index => by
    rw [evaluate, gives_bind]
    refine (gives_evaluate hw hs of).mono fun v hv => ?_
    rw [gives_bind]
    exact (gives_evaluate hw hs index).mono fun i hi => gives_subscript hv hi
  | .tuple items => by
    rw [evaluate, gives_bind]
    exact (gives_evaluateAll hw hs items).mono fun vs hvs => gives_ok.mpr (sound_tuple.mpr hvs)
  | .list items => by
    rw [evaluate, gives_bind]
    exact (gives_evaluateAll hw hs items).mono fun vs hvs => gives_ok.mpr (sound_list.mpr hvs)
  | .set items => by
    rw [evaluate, gives_bind]
    refine (gives_evaluateAll hw hs items).mono fun vs hvs => ?_
    split
    · exact gives_error
    · rw [gives_pure, sound_set]
      exact fun x hx => hvs x (Value.mem_of_mem_distinctValues hx)
  | .dict entries => by
    rw [evaluate, gives_bind]
    refine (gives_evaluateEntries hw hs entries).mono fun kvs hkvs => ?_
    dsimp only
    split
    · exact gives_error
    · exact gives_ok.mpr (sound_dict.mpr hkvs)
  | .either left right => by
    rw [evaluate, gives_bind]
    refine (gives_evaluate hw hs left).mono fun l hl => ?_
    rw [gives_bind]
    exact (gives_evaluate hw hs right).mono fun r hr => gives_pipe hl hr
  | .call callee arguments named => by
    rw [evaluate, gives_bind]
    refine (gives_evaluate hw hs callee).mono fun f _ => ?_
    rw [gives_bind]
    refine (gives_evaluateAll hw hs arguments).mono fun vs hvs => ?_
    rw [gives_bind]
    refine (gives_evaluateNamed hw hs named).mono fun more hmore => ?_
    exact gives_call (List.forall_mem_append.mpr ⟨hvs, hmore⟩)
  | .operation symbol operands => by
    rw [evaluate, gives_bind]
    exact (gives_evaluateAll hw hs operands).mono fun _ _ => gives_operate

theorem gives_evaluateAll (hw : w.Closed) (hs : w.SoundScope s) :
    (es : List Expr) → Gives (evaluate.evaluateAll w s es) fun vs => ∀ v ∈ vs, w.Sound v
  | [] => gives_ok.mpr fun _ hv => (List.not_mem_nil hv).elim
  | e :: es => by
    rw [evaluate.evaluateAll, gives_bind]
    refine (gives_evaluate hw hs e).mono fun v hv => ?_
    rw [gives_bind]
    exact (gives_evaluateAll hw hs es).mono fun vs hvs =>
      gives_ok.mpr (List.forall_mem_cons.mpr ⟨hv, hvs⟩)

theorem gives_evaluateEntries (hw : w.Closed) (hs : w.SoundScope s) :
    (es : List (Expr × Expr)) → Gives (evaluate.evaluateEntries w s es) fun kvs =>
      (∀ k ∈ kvs.1, w.Sound k) ∧ ∀ v ∈ kvs.2, w.Sound v
  | [] => gives_ok.mpr ⟨fun _ h => (List.not_mem_nil h).elim, fun _ h => (List.not_mem_nil h).elim⟩
  | (key, value) :: es => by
    rw [evaluate.evaluateEntries, gives_bind]
    refine (gives_evaluate hw hs key).mono fun k hk => ?_
    rw [gives_bind]
    refine (gives_evaluate hw hs value).mono fun v hv => ?_
    rw [gives_bind]
    exact (gives_evaluateEntries hw hs es).mono fun kvs hkvs => gives_ok.mpr
      ⟨List.forall_mem_cons.mpr ⟨hk, hkvs.1⟩, List.forall_mem_cons.mpr ⟨hv, hkvs.2⟩⟩

theorem gives_evaluateNamed (hw : w.Closed) (hs : w.SoundScope s) :
    (es : List (String × Expr)) →
      Gives (evaluate.evaluateNamed w s es) fun vs => ∀ v ∈ vs, w.Sound v
  | [] => gives_ok.mpr fun _ hv => (List.not_mem_nil hv).elim
  | (n, e) :: es => by
    rw [evaluate.evaluateNamed, gives_bind]
    refine (gives_evaluate hw hs e).mono fun v hv => ?_
    rw [gives_bind]
    exact (gives_evaluateNamed hw hs es).mono fun vs hvs =>
      gives_ok.mpr (List.forall_mem_cons.mpr ⟨hv, hvs⟩)

end

end Expressions

/-! Texts. -/

section Texts

variable {R : Pending → Except Fault Value} {names : Surroundings} {n : Nat}

theorem gives_resolveAll (h : ∀ x ∈ xs, Gives (w.resolveParts R x) w.Sound) :
    Gives (resolveParts.resolveAll w R xs) fun ys =>
      ys.length = xs.length ∧ ∀ y ∈ ys, w.Sound y := by
  induction xs with
  | nil => exact gives_ok.mpr ⟨rfl, fun _ hy => (List.not_mem_nil hy).elim⟩
  | cons x xs ih =>
    obtain ⟨hx, hxs⟩ := List.forall_mem_cons.mp h
    rw [resolveParts.resolveAll, gives_bind]
    refine hx.mono fun y hy => ?_
    rw [gives_bind]
    refine (ih hxs).mono fun ys hys => ?_
    exact gives_ok.mpr ⟨congrArg Nat.succ hys.1, List.forall_mem_cons.mpr ⟨hy, hys.2⟩⟩

theorem gives_resolveNative (hR : ∀ p, Gives (R p) w.Sound)
    (h : ∀ x ∈ xs, Gives (w.resolveParts R x) w.Sound) :
    Gives (resolveParts.resolveNative w R xs) fun ys => ∀ y ∈ ys, w.Sound y := by
  induction xs with
  | nil => exact gives_ok.mpr fun _ hy => (List.not_mem_nil hy).elim
  | cons x xs ih =>
    obtain ⟨hx, hxs⟩ := List.forall_mem_cons.mp h
    have hrest : ∀ {y : Value}, w.Sound y → Gives
        (do return y :: (← resolveParts.resolveNative w R xs)) fun ys => ∀ y ∈ ys, w.Sound y := by
      intro y hy
      rw [gives_bind]
      exact (ih hxs).mono fun ys hys => gives_ok.mpr (List.forall_mem_cons.mpr ⟨hy, hys⟩)
    cases x with
    | str t =>
      rw [resolveParts.resolveNative, gives_bind]
      exact (hR _).mono fun y hy => hrest hy
    | _ =>
      rw [resolveParts.resolveNative, gives_bind]
      · exact hx.mono fun y hy => hrest hy
      · intro _ h
        cases h

/-- Resolving the texts inside of a value makes a value that the world can have made. -/
theorem gives_resolveParts (hR : ∀ p, Gives (R p) w.Sound) (hv : w.Sound v) :
    Gives (w.resolveParts R v) w.Sound := by
  induction hv with
  | @intro v hv hchildren ih =>
    have hsound : w.Sound v := .intro hv hchildren
    have hparts := gives_resolveAll ih
    have hnative := gives_resolveNative hR ih
    cases v with
    | forward t m f =>
      rw [resolveParts]
      exact hR _
    | applied n c xs =>
      rw [resolveParts, gives_bind]
      refine hparts.mono fun ys hys => gives_ok.mpr (sound_applied.mpr ⟨⟨hv.1, ?_⟩, hys.2⟩)
      exact fun hs hr => hys.1.trans (hv.2 hs hr)
    | native c xs =>
      rw [resolveParts, gives_bind]
      refine hnative.mono fun ys hys => ?_
      refine gives_ite (fun _ => ?_) fun _ => ?_
      · exact gives_ok.mpr (sound_looseCallable.mpr hys)
      · exact gives_ok.mpr (sound_native.mpr ⟨hv, hys⟩)
    | looseCallable xs =>
      rw [resolveParts, gives_bind]
      exact hnative.mono fun ys hys => gives_ok.mpr (sound_looseCallable.mpr hys)
    | formed n xs =>
      by_cases hn : n = "Literal"
      · subst hn
        rw [resolveParts]
        exact gives_ok.mpr hsound
      · rw [resolveParts, gives_bind]
        · exact hparts.mono fun ys hys => gives_ok.mpr (sound_formed.mpr hys.2)
        · exact hn
    | union piped xs =>
      rw [resolveParts, gives_bind]
      refine hparts.mono fun ys hys => ?_
      refine gives_ite (fun _ => gives_ok.mpr hsound) fun _ => ?_
      exact gives_ite (fun _ => gives_pipeAll hys.2) fun _ => gives_checkedUnion hys.2
    | annotated inner notes =>
      obtain ⟨-, hn⟩ := sound_annotated.mp hsound
      rw [resolveParts, gives_bind]
      exact (ih inner (List.mem_cons_self ..)).mono fun i hi => gives_annotate hi hn
    | _ => exact gives_ok.mpr hsound

/-- The names that a text can use stand for sound values. -/
def SoundSurroundings (w : World) (names : Surroundings) : Prop :=
  w.SoundNames names.locals ∧ w.SoundNames names.globals

theorem SoundSurroundings.scope (h : w.SoundSurroundings names) : w.SoundScope names.scope := by
  intro ns hns
  rcases List.mem_cons.mp hns with rfl | hns
  · exact h.1
  · cases List.mem_singleton.mp hns
    exact h.2

theorem SoundSurroundings.inModule (hw : w.Closed) (h : w.SoundSurroundings names)
    (module : String) : w.SoundSurroundings (names.inModule w module) := by
  unfold Surroundings.inModule
  split
  · next m hm => exact ⟨h.1, names_of_loaded hw hm⟩
  · exact h

theorem gives_resolvePending (hw : w.Closed) {seen : List String} {p : Pending}
    (hn : w.SoundSurroundings names) : Gives (w.resolvePending n names seen p) w.Sound := by
  induction n generalizing names seen p with
  | zero => exact gives_error
  | succ n ih =>
    rw [resolvePending, gives_bind]
    intro e _
    refine gives_ite (fun _ => gives_ok.mpr sound_forward) fun _ => ?_
    extract_lets here
    have hhere : w.SoundSurroundings here := by
      unfold here
      split
      · exact hn
      · exact hn.inModule hw _
    rw [gives_bind]
    refine (gives_evaluate hw hhere.scope e).mono fun v hv => ?_
    rw [gives_bind]
    exact (gives_checkType hv).mono fun t ht => gives_resolveParts (fun _ => ih hhere) ht

theorem gives_readText (hw : w.Closed) {text : String} (hn : w.SoundSurroundings names) :
    Gives (w.readText names text) w.Sound := by
  rw [readText, gives_bind]
  intro e _
  refine gives_ite (fun _ => ?_) fun _ => gives_evaluate hw hn.scope e
  split
  · next v hv => exact gives_ok.mpr (sound_find hn.scope hv)
  · exact gives_error

theorem gives_resolveText (hw : w.Closed) {seen : List String} {p : Pending}
    (hn : w.SoundSurroundings names) : Gives (w.resolveText n names seen p) w.Sound := by
  induction n generalizing names seen p with
  | zero => exact gives_error
  | succ n ih =>
    rw [resolveText]
    refine gives_ite (fun _ => gives_ok.mpr sound_forward) fun _ => ?_
    rw [gives_bind]
    refine (gives_readText hw hn).mono fun v hv => ?_
    split
    · exact ih hn
    · refine ih ?_
      split
      · exact hn
      · exact hn.inModule hw _
    · exact gives_resolveParts (fun _ => gives_resolvePending hw hn) hv

/-- The type that an annotation stands for is one that the world can have made. -/
theorem sound_annotationType (hw : w.Closed) {locals : List (String × Value)} {module : String}
    (hl : w.SoundNames locals) (hv : w.Sound v) :
    w.Sound (w.annotationType locals module v).1 := by
  have hn : w.SoundSurroundings ⟨locals, w.namesOf module⟩ := ⟨hl, sound_namesOf hw module⟩
  have hgives : Gives (w.resolveAnnotation locals module v) w.Sound := by
    unfold resolveAnnotation
    dsimp only
    split
    · exact gives_resolveText hw hn
    · exact gives_resolveText hw hn
    · exact gives_ok.mpr hv
  unfold annotationType
  split
  · next t ht => exact hgives t ht
  · exact sound_any

end Texts

end World

end TypeProjection.Annotation
