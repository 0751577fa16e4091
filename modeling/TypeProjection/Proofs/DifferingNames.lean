import TypeProjection.Proofs.EvaluationGrowth
import TypeProjection.Proofs.PostponedWorlds

/-!
# Worlds that differ in names

Two worlds may differ in nothing but what some names mean in modules. A text that meets none of
these names is then resolved alike in both: to the same type, or in neither. The names are met in
the text itself and in the texts that its value holds.
-/

namespace TypeProjection.Annotation

/-! Computations that give the same, or both fail. -/

/-- Both computations give the same, or both fail. -/
def Levels {α : Type} (x x' : Except Fault α) : Prop := x.toOption = x'.toOption

section Levels

variable {α β : Type} {x x' : Except Fault α}

theorem Levels.refl (x : Except Fault α) : Levels x x := rfl

theorem levels_error {f f' : Fault} : Levels (.error f : Except Fault α) (.error f') := rfl

theorem Levels.of_echoes (h : Echoes x x') (h' : Echoes x' x) : Levels x x' := by
  cases x with
  | ok a => rw [h a rfl]; exact .refl _
  | error e =>
    cases x' with
    | ok a => cases h' a rfl
    | error e' => exact levels_error

theorem Levels.bind {f f' : α → Except Fault β} (h : Levels x x')
    (hf : ∀ a, x = .ok a → Levels (f a) (f' a)) : Levels (x >>= f) (x' >>= f') := by
  cases x with
  | ok a =>
    cases x' with
    | ok a' =>
      obtain rfl : a = a' := Option.some.inj h
      exact hf a rfl
    | error e => cases h
  | error e =>
    cases x' with
    | ok a => cases h
    | error e' => exact levels_error

/-- The same is made of what both give. -/
theorem Levels.map {f : α → Except Fault β} (h : Levels x x') : Levels (x >>= f) (x' >>= f) :=
  h.bind fun _ _ => .refl _

theorem Levels.eq_ok (h : Levels x x') {a : α} (hx : x = .ok a) : x' = .ok a := by
  subst hx
  cases x' with
  | ok a' => rw [Option.some.inj h]
  | error e => cases h

theorem levels_ite {c : Prop} [Decidable c] {y y' : Except Fault α} (hx : c → Levels x x')
    (hy : ¬ c → Levels y y') : Levels (if c then x else y) (if c then x' else y') := by
  split
  · exact hx ‹_›
  · exact hy ‹_›

end Levels

/-! Texts inside of values. -/

namespace Value

/-- The texts inside a value that stand for types. -/
def pendings : Value → List Pending
  | .str s => [⟨s, "", false⟩]
  | .forward text m allowsForms => [⟨text, m, allowsForms⟩]
  | .applied _ _ arguments | .native _ arguments | .looseCallable arguments => all arguments
  | .formed _ arguments => all arguments
  | .union _ members => all members
  | .annotated inner _ => inner.pendings
  | _ => []
where
  all : List Value → List Pending
    | [] => []
    | v :: vs => v.pendings ++ all vs

end Value

namespace World

variable {w w' : World} {words : List String} {module name : String}

section Parts

variable {R R' : Pending → Except Fault Value} {v : Value} {vs : List Value}

mutual

/-- A value has the same texts inside, and so it is the same when they are resolved alike. -/
theorem levels_resolveParts (w w' : World) : (v : Value) →
    (∀ p ∈ v.pendings, Levels (R p) (R' p)) → Levels (w.resolveParts R v) (w'.resolveParts R' v)
  | .forward text module allowsForms, h => by
    rw [resolveParts, resolveParts]
    exact h _ (List.mem_singleton_self _)
  | .applied name origin arguments, h => by
    rw [resolveParts, resolveParts]
    exact (levels_resolveAll w w' arguments h).map
  | .native origin arguments, h => by
    rw [resolveParts, resolveParts]
    exact (levels_resolveNative w w' arguments h).map
  | .looseCallable arguments, h => by
    rw [resolveParts, resolveParts]
    exact (levels_resolveNative w w' arguments h).map
  | .formed name arguments, h => by
    by_cases hname : name = "Literal"
    · subst hname
      rw [resolveParts, resolveParts]
      exact .refl _
    · rw [resolveParts, resolveParts]
      · exact (levels_resolveAll w w' arguments h).map
      · exact hname
      · exact hname
  | .union piped members, h => by
    rw [resolveParts, resolveParts]
    refine (levels_resolveAll w w' members h).bind fun resolved _ => ?_
    refine levels_ite (fun _ => .refl _) fun _ => levels_ite (fun _ => ?_) fun _ => ?_
    · exact .of_echoes (echoes_pipeAll w w' _) (echoes_pipeAll w' w _)
    · exact .of_echoes (echoes_checkedUnion w w' _) (echoes_checkedUnion w' w _)
  | .annotated inner notes, h => by
    rw [resolveParts, resolveParts]
    refine (levels_resolveParts w w' inner h).bind fun v _ => ?_
    exact .of_echoes (echoes_annotate w w' _ _) (echoes_annotate w' w _ _)
  | .none, _ | .ellipsis, _ | .bool _, _ | .int _, _ | .float _, _ | .str _, _ | .bytes _, _
  | .list _, _ | .tuple _, _ | .set _, _ | .dict _ _, _ | .cls _, _ | .typeVar _, _
  | .paramSpec _, _ | .newType _, _ | .form _, _ | .alias _, _ | .initVar _, _ | .member _ _, _
  | .function _ _, _ | .module _, _ | .other _, _ => by
    rw [resolveParts, resolveParts] <;> first | exact .refl _ | simp

theorem levels_resolveAll (w w' : World) : (vs : List Value) →
    (∀ p ∈ Value.pendings.all vs, Levels (R p) (R' p)) →
    Levels (resolveParts.resolveAll w R vs) (resolveParts.resolveAll w' R' vs)
  | [], _ => .refl _
  | v :: vs, h => by
    obtain ⟨hv, hvs⟩ := List.forall_mem_append.mp h
    rw [resolveParts.resolveAll, resolveParts.resolveAll]
    exact (levels_resolveParts w w' v hv).bind fun _ _ => (levels_resolveAll w w' vs hvs).map

theorem levels_resolveNative (w w' : World) : (vs : List Value) →
    (∀ p ∈ Value.pendings.all vs, Levels (R p) (R' p)) →
    Levels (resolveParts.resolveNative w R vs) (resolveParts.resolveNative w' R' vs)
  | [], _ => .refl _
  | v :: vs, h => by
    obtain ⟨hv, hvs⟩ := List.forall_mem_append.mp h
    have hrest := levels_resolveNative w w' vs hvs
    by_cases hs : ∃ s, v = .str s
    · obtain ⟨s, rfl⟩ := hs
      rw [resolveParts.resolveNative, resolveParts.resolveNative]
      exact (hv _ (List.mem_singleton_self _)).bind fun _ _ => hrest.map
    · rw [resolveParts.resolveNative, resolveParts.resolveNative]
      · exact (levels_resolveParts w w' v hv).bind fun _ _ => hrest.map
      · exact fun s hv => hs ⟨s, hv⟩
      · exact fun s hv => hs ⟨s, hv⟩

end

end Parts

/-! What may differ. -/

/-- A module without its names. -/
def nameless (m : LoadedModule) : LoadedModule := { m with names := [] }

/-- The worlds differ in nothing but what the words mean in modules. -/
structure DiffersAt (words : List String) (w w' : World) : Prop where
  world : w' = { w with modules := w'.modules }
  modules : w'.modules.map nameless = w.modules.map nameless
  names : ∀ (i : Nat) m m', w.modules[i]? = some m → w'.modules[i]? = some m' →
    ∀ n ∉ words, m'.names.lookup n = m.names.lookup n

section Differing

variable (h : w.DiffersAt words w')

include h

theorem DiffersAt.symm : w'.DiffersAt words w where
  world := by rw [h.world]
  modules := h.modules.symm
  names i m m' hm hm' n hn := (h.names i m' m hm' hm n hn).symm

theorem DiffersAt.classes : w'.classes = w.classes := by rw [h.world]

theorem DiffersAt.newTypes : w'.newTypes = w.newTypes := by rw [h.world]

theorem DiffersAt.current : w'.current = w.current := by rw [h.world]

/-- A module is there in both worlds or in neither, with the same names but for the words. -/
theorem DiffersAt.loaded (module : String) :
    (w.loaded? module = none ∧ w'.loaded? module = none) ∨
    ∃ m m', w.loaded? module = some m ∧ w'.loaded? module = some m' ∧ m'.name = m.name ∧
      m'.file = m.file ∧ ∀ n ∉ words, m'.names.lookup n = m.names.lookup n := by
  have hget : ∀ i : Nat, (w'.modules[i]?).map nameless = (w.modules[i]?).map nameless := by
    intro i
    rw [← Array.getElem?_map, ← Array.getElem?_map, h.modules]
  unfold loaded?
  rw [h.current]
  cases w.current.lookup module with
  | none => exact .inl ⟨rfl, rfl⟩
  | some i =>
    have hi := hget i
    rw [Option.bind_some, Option.bind_some]
    cases hm : w.modules[i]? with
    | none =>
      rw [hm, Option.map_none, Option.map_eq_none_iff] at hi
      exact .inl ⟨rfl, hi⟩
    | some m =>
      rw [hm, Option.map_some, Option.map_eq_some_iff] at hi
      obtain ⟨m', hm', hsame⟩ := hi
      exact .inr ⟨m, m', rfl, hm', congrArg (fun m => m.name) hsame,
        congrArg (fun m => m.file) hsame, h.names i m m' hm hm'⟩

theorem DiffersAt.lookup_namesOf {n : String} (hn : n ∉ words) (module : String) :
    (w'.namesOf module).lookup n = (w.namesOf module).lookup n := by
  unfold namesOf
  rcases h.loaded module with ⟨hm, hm'⟩ | ⟨m, m', hm, hm', -, -, hnames⟩
  · rw [hm, hm']
  · rw [hm, hm']
    exact hnames n hn

theorem DiffersAt.moduleName {n : String} (hn : n ∉ words) (module : String) :
    w'.moduleName? module n = w.moduleName? module n := by
  unfold moduleName?
  rcases h.loaded module with ⟨hm, hm'⟩ | ⟨m, m', hm, hm', hname, hfile, hnames⟩
  · rw [hm, hm']
  · rw [hm, hm']
    simp only [loadedName?, hname, hfile, hnames n hn]

/-- Each of the worlds continues the other one. -/
theorem DiffersAt.continues : w.Continues (· ∉ words) w' where
  classes hi := by rw [h.classes]; exact hi
  typeVars hi := ⟨_, by rw [h.world]; exact hi, rfl⟩
  paramSpecs hi := by rw [h.world]; exact hi
  newTypes hi := by rw [h.newTypes]; exact hi
  rooted hi := .inl (by rw [← h.classes]; exact hi)
  names hn hv := by rw [h.moduleName hn]; exact hv
  files module := by
    rcases h.loaded module with ⟨hm, hm'⟩ | ⟨m, m', hm, hm', -, hfile, -⟩
    · rw [hm, hm']
    · rw [hm, hm']
      exact hfile

theorem DiffersAt.describe : w'.describe = w.describe := by
  have hunwrap : ∀ n, w'.unwrapFrom n = w.unwrapFrom n := by
    intro n
    induction n with
    | zero => rfl
    | succ n ih =>
      funext v
      rw [unwrapFrom, unwrapFrom, h.newTypes, ih]
  funext v
  rw [World.describe, World.describe, hunwrap, h.newTypes]

theorem DiffersAt.classNames : w'.classNames = w.classNames := by
  rw [h.world]
  rfl

theorem DiffersAt.moduleOf : w'.moduleOf = w.moduleOf := by
  rw [h.world]
  rfl

theorem DiffersAt.annotationsOf : w'.annotationsOf = w.annotationsOf := by
  rw [h.world]
  rfl

theorem DiffersAt.attributesOf : w'.attributesOf = w.attributesOf := by
  rw [h.world]
  rfl

end Differing

/-! Texts that meet none of the words. -/

end World

/-- The names around a text inside of a value: those of its own module, if it has one. -/
def Surroundings.around (names : Surroundings) (w : World) (p : Pending) : Surroundings :=
  if p.module == "" then names else names.inModule w p.module

namespace World

/-- A word is met when a text is resolved: the text is the word, or its expression has the word, or
the word is met in a text that the value of the text holds. -/
inductive MeetsWord (w : World) : Surroundings → String → String → Prop
  | alone {names : Surroundings} {text : String} : Text.isIdentifier text.toList = true →
    MeetsWord w names text text
  | written {names : Surroundings} {text word : String} {e : Expr} : Expr.ofText? text = some e →
    word ∈ e.names ∨ word ∈ e.attributes → MeetsWord w names text word
  | within {names : Surroundings} {text word : String} {v : Value} {p : Pending} :
    w.readText names text = .ok v ∨
      (∃ e, Expr.ofText? text = some e ∧ w.evaluate names.scope e = .ok v) →
    p ∈ v.pendings → MeetsWord w (names.around w p) p.text word → MeetsWord w names text word

/-- The names mean the same but for the words, and to each world something that it can have made. -/
structure NamesAlike (words : List String) (w w' : World) (names names' : Surroundings) : Prop where
  locals : names'.locals = names.locals
  globals : ∀ n ∉ words, names'.globals.lookup n = names.globals.lookup n
  sound : w.SoundSurroundings names
  sound' : w'.SoundSurroundings names'

variable {w w' : World} {words : List String} {name : String}
  {names names' : Surroundings} {text : String} {e : Expr} {p : Pending} {n : Nat}
  {seen : List String} {v : Value}

theorem NamesAlike.find (hn : NamesAlike words w w' names names') (hname : name ∉ words) :
    Scope.find? names'.scope.spaces name = Scope.find? names.scope.spaces name := by
  simp only [Scope.find?, Surroundings.scope, List.findSome?_cons, List.findSome?_nil, hn.locals,
    hn.globals name hname]

theorem NamesAlike.around (hn : NamesAlike words w w' names names') (h : w.DiffersAt words w')
    (hw : w.Closed) (hw' : w'.Closed) (p : Pending) :
    NamesAlike words w w' (names.around w p) (names'.around w' p) := by
  unfold Surroundings.around
  split
  · exact hn
  · refine ⟨?_, ?_, hn.sound.inModule hw _, hn.sound'.inModule hw' _⟩
    · unfold Surroundings.inModule
      split <;> split <;> exact hn.locals
    · intro n hword
      unfold Surroundings.inModule
      rcases h.loaded p.module with ⟨hm, hm'⟩ | ⟨m, m', hm, hm', -, -, hnames⟩
      · rw [hm, hm']
        exact hn.globals n hword
      · rw [hm, hm']
        exact hnames n hword

/-- Checking a value makes no new texts of it. -/
theorem pendings_of_checkType {use : TypeUse} {t : Value} (hmodule : use.module = "")
    (ht : w.checkType use v = .ok t) : ∀ p ∈ t.pendings, ∃ q ∈ v.pendings,
      q.text = p.text ∧ q.module = p.module := by
  have htype := (checkType_eq_ok.mp ht).1
  unfold asType at htype
  split at htype
  · cases htype
    intro p hp
    cases hp
  · next s =>
    split at htype
    · cases htype
      intro p hp
      obtain rfl := List.mem_singleton.mp hp
      exact ⟨_, List.mem_singleton_self (⟨s, "", false⟩ : Pending), rfl, hmodule.symm⟩
    · cases htype
  · cases htype
    exact fun p hp => ⟨p, hp, rfl, rfl⟩

theorem ofText_of_expressionOf (he : expressionOf text = .ok e) : Expr.ofText? text = some e := by
  unfold expressionOf at he
  split at he
  · next hparsed =>
    cases he
    exact hparsed
  · cases he

section Texts

variable (h : w.DiffersAt words w') (hw : w.Closed) (hw' : w'.Closed)

include h hw hw'

theorem levels_evaluate (hn : NamesAlike words w w' names names')
    (hwords : ∀ word, word ∈ e.names ∨ word ∈ e.attributes → word ∉ words) :
    Levels (w.evaluate names.scope e) (w'.evaluate names'.scope e) := by
  have hlookup : ∀ n ∈ e.names, names'.scope.lookup n = names.scope.lookup n := by
    intro n hmem
    unfold Scope.lookup
    rw [show names'.scope.known n = n from rfl, show names.scope.known n = n from rfl,
      hn.find (hwords n (.inl hmem))]
  refine .of_echoes ?_ ?_
  · refine h.continues.echoes_evaluate hw hn.sound.scope e (fun n hmem => ?_) fun a ha => ?_
    · exact hlookup n hmem ▸ .refl _
    · exact ⟨hwords a (.inr ha), rfl⟩
  · refine h.symm.continues.echoes_evaluate hw' hn.sound'.scope e (fun n hmem => ?_) fun a ha => ?_
    · exact hlookup n hmem ▸ .refl _
    · exact ⟨hwords a (.inr ha), rfl⟩

theorem levels_resolvePending (hn : NamesAlike words w w' names names')
    (hmeets : ∀ word ∈ words, ¬ w.MeetsWord (names.around w p) p.text word) :
    Levels (w.resolvePending n names seen p) (w'.resolvePending n names' seen p) := by
  induction n generalizing names names' seen p with
  | zero => exact levels_error
  | succ n ih =>
    rw [resolvePending, resolvePending]
    refine (Levels.refl _).bind fun e he => levels_ite (fun _ => .refl _) fun _ => ?_
    have hparsed := ofText_of_expressionOf he
    have haround := hn.around h hw hw' p
    change Levels (w.evaluate (names.around w p).scope e >>= _)
      (w'.evaluate (names'.around w' p).scope e >>= _)
    refine (levels_evaluate h hw hw' haround fun word hword hmem =>
      hmeets word hmem (.written hparsed hword)).bind fun v hv => ?_
    refine (Levels.of_echoes (echoes_checkType w w' _ _) (echoes_checkType w' w _ _)).bind
      fun t ht => levels_resolveParts w w' t fun q hq => ?_
    obtain ⟨q₀, hq₀, htext, hmodule⟩ := pendings_of_checkType rfl ht q hq
    refine ih haround fun word hmem hmeet => hmeets word hmem ?_
    refine .within (.inr ⟨e, hparsed, hv⟩) hq₀ ?_
    rwa [Surroundings.around, htext, hmodule]

theorem levels_readText (hn : NamesAlike words w w' names names')
    (hmeets : ∀ word ∈ words, ¬ w.MeetsWord names text word) :
    Levels (w.readText names text) (w'.readText names' text) := by
  rw [readText, readText]
  refine (Levels.refl _).bind fun e he => levels_ite (fun halone => ?_) fun _ => ?_
  · rw [Bool.and_eq_true] at halone
    rw [hn.find fun hmem => hmeets text hmem (.alone halone.1)]
    exact .refl _
  · exact levels_evaluate h hw hw' hn fun word hword hmem =>
      hmeets word hmem (.written (ofText_of_expressionOf he) hword)

/-- A text that meets none of the words is resolved alike. -/
theorem levels_resolveText (hn : NamesAlike words w w' names names')
    (hmeets : ∀ word ∈ words, ¬ w.MeetsWord names p.text word) :
    Levels (w.resolveText n names seen p) (w'.resolveText n names' seen p) := by
  induction n generalizing names names' seen p with
  | zero => exact levels_error
  | succ n ih =>
    rw [resolveText, resolveText]
    refine levels_ite (fun _ => .refl _) fun _ => ?_
    refine (levels_readText h hw hw' hn hmeets).bind fun v hv => ?_
    split
    · next s =>
      refine ih hn fun word hmem hmeet => hmeets word hmem ?_
      exact .within (.inl hv) (List.mem_singleton_self (⟨s, "", false⟩ : Pending)) hmeet
    · next s m f =>
      refine ih (hn.around h hw hw' ⟨s, m, f⟩) fun word hmem hmeet => hmeets word hmem ?_
      exact .within (.inl hv) (List.mem_singleton_self _) hmeet
    · refine levels_resolveParts w w' v fun q hq => ?_
      exact levels_resolvePending h hw hw' hn fun word hmem hmeet => hmeets word hmem
        (.within (.inl hv) hq hmeet)

end Texts

end World

end TypeProjection.Annotation
