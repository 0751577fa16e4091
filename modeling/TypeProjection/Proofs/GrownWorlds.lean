import TypeProjection.Definition.ClassBuilding
import TypeProjection.Proofs.SoundEvaluation

/-!
# How a world grows

Running a module adds classes, variables and named types to the world and takes none away. What was
there stays as it was, except that a variable may be marked later: its arguments need a constructor.
So a sound value stays sound. A grown world is closed if what is new in it is sound. The bases of a
new class are there, and were written as bases can be.
-/

namespace TypeProjection.Annotation

/-- A variable without the mark that its arguments need a constructor. -/
def TypeVariable.outline (v : TypeVariable) : TypeVariable := { v with needsConstructor := false }

/-- The values that can stand among the bases of a class. -/
inductive Value.IsBase : Value → Prop
  | cls (c : ClassRef) : IsBase (.cls c)
  | applied (name : String) (c : ClassRef) (xs : List Value) : IsBase (.applied name c xs)
  | generic (name : String) : IsBase (.alias name)
  | native (c : ClassRef) (xs : List Value) : IsBase (.native c xs)
  | looseCallable (xs : List Value) : IsBase (.looseCallable xs)
  | annotated (c : ClassRef) (notes : List Value) : IsBase (.annotated (.cls c) notes)
  | function (m name : String) : IsBase (.function m name)

namespace World

variable {w w' w'' : World} {v : Value}

/-- The bases of a class are there, and were written as bases can be. -/
structure Rooted (w : World) (info : ClassInfo) : Prop where
  bases : ∀ c ∈ info.bases, w.Valid c
  shapes : ∀ v ∈ info.writtenBases, v.IsBase

/-- The second world has everything that the first one has, in the same places. -/
structure Grown (w w' : World) : Prop where
  classes : ∀ {i : Nat} {info}, w.classes[i]? = some info → w'.classes[i]? = some info
  typeVars : ∀ {i : Nat} {v}, w.typeVars[i]? = some v →
    ∃ v', w'.typeVars[i]? = some v' ∧ v'.outline = v.outline
  paramSpecs : ∀ {i : Nat} {p}, w.paramSpecs[i]? = some p → w'.paramSpecs[i]? = some p
  newTypes : ∀ {i : Nat} {n}, w.newTypes[i]? = some n → w'.newTypes[i]? = some n
  rooted : ∀ {i : Nat} {info}, w'.classes[i]? = some info →
    w.classes[i]? = some info ∨ w'.Rooted info

theorem Grown.refl (w : World) : w.Grown w :=
  ⟨id, fun h => ⟨_, h, rfl⟩, id, id, .inl⟩

/-- A place that is taken stays taken. -/
theorem lt_of_kept {α : Type} {xs ys : Array α}
    (h : ∀ {i : Nat} {x}, xs[i]? = some x → ∃ y, ys[i]? = some y) {i : Nat} (hi : i < xs.size) :
    i < ys.size := by
  obtain ⟨y, hy⟩ := h (Array.getElem?_eq_getElem hi)
  exact (Array.getElem?_eq_some_iff.mp hy).1

theorem Grown.valid (h : w.Grown w') {c : ClassRef} (hc : w.Valid c) : w'.Valid c := by
  cases c with
  | library m n => trivial
  | declared i => exact lt_of_kept (fun hi => ⟨_, h.classes hi⟩) hc

theorem Grown.trans (h : w.Grown w') (h' : w'.Grown w'') : w.Grown w'' where
  classes hi := h'.classes (h.classes hi)
  typeVars hi := by
    obtain ⟨v', hi', he'⟩ := h.typeVars hi
    obtain ⟨v'', hi'', he''⟩ := h'.typeVars hi'
    exact ⟨v'', hi'', he''.trans he'⟩
  paramSpecs hi := h'.paramSpecs (h.paramSpecs hi)
  newTypes hi := h'.newTypes (h.newTypes hi)
  rooted hi := by
    rcases h'.rooted hi with hi | hi
    · exact (h.rooted hi).imp_right fun hr => ⟨fun c hc => h'.valid (hr.bases c hc), hr.shapes⟩
    · exact .inr hi

section Kept

variable (h : w.Grown w')

include h

/-- What is known of a class stays. -/
theorem Grown.info {i : Nat} (hi : w.Valid (.declared i)) : w'.classes[i]? = w.classes[i]? :=
  (h.classes (Array.getElem?_eq_getElem hi)).trans (Array.getElem?_eq_getElem hi).symm

theorem Grown.parametersOf {c : ClassRef} (hc : w.Valid c) :
    w'.parametersOf c = w.parametersOf c := by
  cases c with
  | library m n => rfl
  | declared i =>
    rw [World.parametersOf, World.parametersOf, h.info hc]

theorem Grown.ancestorsOf {c : ClassRef} (hc : w.Valid c) :
    w'.ancestorsOf c = w.ancestorsOf c := by
  cases c with
  | library m n => rfl
  | declared i =>
    rw [World.ancestorsOf, World.ancestorsOf, h.info hc]

end Kept

/-- The ancestors of a class are there. -/
theorem valid_of_mem_ancestorsOf (hw : w.Closed) {c d : ClassRef} (hc : w.Valid c)
    (hd : d ∈ w.ancestorsOf c) : w.Valid d := by
  cases c with
  | library m n =>
    have hlibrary := isLibrary_of_mem_libraryAncestors (c := .library m n) rfl hd
    cases d with
    | library m' n' => trivial
    | declared i => exact Bool.noConfusion hlibrary
  | declared i =>
    change d ∈ (w.classes[i]?.map ClassInfo.ancestors).getD [] at hd
    rw [Array.getElem?_eq_getElem hc] at hd
    exact (hw.classes (Array.getElem?_eq_getElem hc)).ancestors d hd

/-- How a class takes arguments does not change. -/
theorem Grown.subscriptionOf (h : w.Grown w') (hw : w.Closed) {c : ClassRef} (hc : w.Valid c) :
    w'.subscriptionOf c = w.subscriptionOf c := by
  unfold World.subscriptionOf
  rw [h.ancestorsOf hc]
  refine findSome?_eq_of_forall fun d hd => ?_
  cases d with
  | library m n => rfl
  | declared i =>
    exact congrArg (Option.bind · _) (h.info (valid_of_mem_ancestorsOf hw hc hd))

theorem Grown.fills (h : w.Grown w') (hw : w.Closed) {c : ClassRef} {xs : List Value}
    (hc : w.Valid c) (hf : w.Fills c xs) : w'.Fills c xs := by
  intro hs hr
  rw [h.subscriptionOf hw hc] at hs
  rw [h.parametersOf hc]
  exact hf hs hr

/-- A sound value stays sound. -/
theorem Grown.sound (h : w.Grown w') (hw : w.Closed) (hv : w.Sound v) : w'.Sound v := by
  refine Value.Every.imp hv fun v hv => ?_
  cases v with
  | cls c => exact h.valid hv
  | member c n => exact h.valid hv
  | applied n c xs => exact ⟨h.valid hv.1, h.fills hw hv.1 hv.2⟩
  | native c xs =>
    refine ⟨h.valid hv.1, ?_⟩
    rw [h.subscriptionOf hw hv.1]
    exact hv.2
  | typeVar i =>
    refine lt_of_kept (fun hi => ?_) hv
    obtain ⟨v', hv', -⟩ := h.typeVars hi
    exact ⟨v', hv'⟩
  | paramSpec i => exact lt_of_kept (fun hi => ⟨_, h.paramSpecs hi⟩) hv
  | newType i => exact lt_of_kept (fun hi => ⟨_, h.newTypes hi⟩) hv
  | _ => trivial

theorem Grown.soundNames (h : w.Grown w') (hw : w.Closed) {names : List (String × Value)}
    (hn : w.SoundNames names) : w'.SoundNames names := fun e he => h.sound hw (hn e he)

theorem Grown.soundAttribute (h : w.Grown w') (hw : w.Closed) {a : Attribute}
    (ha : w.SoundAttribute a) : w'.SoundAttribute a := by
  cases a with
  | value v => exact h.sound hw ha
  | property g b =>
    cases g with
    | none => trivial
    | some g => exact fun v hv => h.sound hw (ha v hv)
  | method b => trivial

theorem Grown.soundClass (h : w.Grown w') (hw : w.Closed) {info : ClassInfo}
    (hi : w.SoundClass info) : w'.SoundClass info where
  ancestors c hc := h.valid (hi.ancestors c hc)
  writtenBases v hv := h.sound hw (hi.writtenBases v hv)
  parameters v hv := h.sound hw (hi.parameters v hv)
  annotations a ha := h.sound hw (hi.annotations a ha)
  attributes a ha := h.soundAttribute hw (hi.attributes a ha)

theorem sound_peel (hv : w.Sound v) : w.Sound v.peel := by
  induction hv with
  | @intro v hv hchildren ih =>
    have hsound : w.Sound v := .intro hv hchildren
    unfold Value.peel
    split
    · exact sound_noneType
    · exact sound_any
    · exact sound_any
    · exact ih _ (List.mem_cons_self ..)
    · exact ih _ (List.mem_cons_self ..)
    · exact hsound

/-- A grown world is closed if what it stores was stored before or is sound. -/
theorem Closed.grow (hw : w.Closed) (h : w.Grown w')
    (hclasses : ∀ {i : Nat} {info}, w'.classes[i]? = some info →
      w.classes[i]? = some info ∨ w'.SoundClass info)
    (hbounds : ∀ {i : Nat} {v}, w'.typeVars[i]? = some v →
      (∃ v', w.typeVars[i]? = some v' ∧ v'.outline = v.outline) ∨
        ∀ t ∈ v.bound.toList ++ v.alternatives, w'.Sound t)
    (hsupertypes : ∀ {i : Nat} {n}, w'.newTypes[i]? = some n →
      w.newTypes[i]? = some n ∨ w'.Sound n.supertype ∧ ∀ j, n.supertype.peel = .newType j → j < i)
    (hnames : ∀ {i : Nat} {m}, w'.modules[i]? = some m →
      (∃ m', w.modules[i]? = some m' ∧ m'.names = m.names) ∨ w'.SoundNames m.names) :
    w'.Closed where
  library := by
    by_contra hlt
    have hsize : w'.typeVars.size < w.typeVars.size :=
      Nat.lt_of_lt_of_le (Nat.lt_of_not_le hlt) hw.library
    obtain ⟨v', hv', -⟩ := h.typeVars (Array.getElem?_eq_getElem hsize)
    exact Nat.lt_irrefl _ (Array.getElem?_eq_some_iff.mp hv').1
  classes hi := by
    rcases hclasses hi with hi | hi
    · exact h.soundClass hw (hw.classes hi)
    · exact hi
  bounds {i v} hi := by
    rcases hbounds hi with ⟨v', hi', he⟩ | hi
    · have hbound : v'.outline.bound = v.outline.bound := congrArg TypeVariable.bound he
      have halternatives : v'.outline.alternatives = v.outline.alternatives :=
        congrArg TypeVariable.alternatives he
      have hold := hw.bounds hi'
      change ∀ t ∈ v'.outline.bound.toList ++ v'.outline.alternatives, w.Sound t at hold
      rw [hbound, halternatives] at hold
      exact fun t ht => h.sound hw (hold t ht)
    · exact hi
  supertypes hi := by
    rcases hsupertypes hi with hi | hi
    · exact h.sound hw (hw.supertypes hi)
    · exact hi.1
  older hi hj := by
    rcases hsupertypes hi with hi | hi
    · exact hw.older hi hj
    · exact hi.2 _ hj
  names hi := by
    rcases hnames hi with ⟨m', hi', he⟩ | hi
    · rw [← he]
      exact h.soundNames hw (hw.names hi')
    · exact hi

/-! The changes that a run makes. -/

section Changes

theorem getElem?_push_cases {α : Type} {xs : Array α} {x y : α} {i : Nat}
    (h : (xs.push x)[i]? = some y) : xs[i]? = some y ∨ y = x := by
  rw [Array.getElem?_push] at h
  split at h
  · exact .inr (Option.some_inj.mp h).symm
  · exact .inl h

theorem getElem?_push_of_some {α : Type} {xs : Array α} {x y : α} {i : Nat}
    (h : xs[i]? = some y) : (xs.push x)[i]? = some y := by
  have hi := (Array.getElem?_eq_some_iff.mp h).1
  rw [Array.getElem?_push, if_neg (Nat.ne_of_lt hi), h]

/-- Worlds that differ in their modules only. -/
theorem Closed.withModules (hw : w.Closed) {modules : Array LoadedModule}
    {current : List (String × Nat)}
    (hnames : ∀ {i : Nat} {m}, modules[i]? = some m →
      (∃ m', w.modules[i]? = some m' ∧ m'.names = m.names) ∨ w.SoundNames m.names) :
    Closed { w with modules := modules, current := current } ∧
      w.Grown { w with modules := modules, current := current } := by
  have hg : w.Grown { w with modules := modules, current := current } :=
    ⟨id, fun h => ⟨_, h, rfl⟩, id, id, .inl⟩
  refine ⟨hw.grow hg .inl (fun h => .inl ⟨_, h, rfl⟩) .inl fun hm => ?_, hg⟩
  exact (hnames hm).imp_right (hg.soundNames hw)

theorem closed_changeModule (hw : w.Closed) (module : String) {f : LoadedModule → LoadedModule}
    (hf : ∀ m, (w.SoundNames m.names → w.SoundNames (f m).names)) :
    (w.changeModule module f).Closed ∧ w.Grown (w.changeModule module f) := by
  unfold changeModule
  split
  · next i hi =>
    refine hw.withModules fun {j m} hm => ?_
    rw [Array.getElem?_modify] at hm
    split at hm
    · obtain ⟨m', hm', rfl⟩ := Option.map_eq_some_iff.mp hm
      exact .inr (hf m' (hw.names hm'))
    · exact .inl ⟨m, hm, rfl⟩
  · exact ⟨hw, Grown.refl w⟩

theorem soundNames_putPair {names : List (String × Value)} (hn : w.SoundNames names) (name : String)
    (hv : w.Sound v) : w.SoundNames (putPair name v names) := by
  induction names with
  | nil => exact List.forall_mem_singleton.mpr hv
  | cons e names ih =>
    obtain ⟨he, hnames⟩ := List.forall_mem_cons.mp hn
    unfold putPair
    split
    · exact List.forall_mem_cons.mpr ⟨hv, hnames⟩
    · exact List.forall_mem_cons.mpr ⟨he, ih hnames⟩

theorem closed_addModule (hw : w.Closed) {m : LoadedModule} (hm : w.SoundNames m.names) :
    (w.addModule m).Closed ∧ w.Grown (w.addModule m) := by
  refine hw.withModules fun {i m'} hi => ?_
  rcases getElem?_push_cases hi with hi | rfl
  · exact .inl ⟨m', hi, rfl⟩
  · exact .inr hm

theorem closed_forgetModule (hw : w.Closed) (module : String) :
    (w.forgetModule module).Closed ∧ w.Grown (w.forgetModule module) :=
  hw.withModules fun {_ m} hi => .inl ⟨m, hi, rfl⟩

theorem closed_pushTypeVar (hw : w.Closed) {x : TypeVariable}
    (hx : ∀ t ∈ x.bound.toList ++ x.alternatives, w.Sound t) :
    Closed { w with typeVars := w.typeVars.push x } ∧
      w.Grown { w with typeVars := w.typeVars.push x } := by
  have hg : w.Grown { w with typeVars := w.typeVars.push x } :=
    ⟨id, fun h => ⟨_, getElem?_push_of_some h, rfl⟩, id, id, .inl⟩
  refine ⟨hw.grow hg .inl (fun {i y} hi => ?_) .inl fun h => .inl ⟨_, h, rfl⟩, hg⟩
  rcases getElem?_push_cases hi with hi | rfl
  · exact .inl ⟨y, hi, rfl⟩
  · exact .inr fun t ht => hg.sound hw (hx t ht)

theorem closed_modifyTypeVar (hw : w.Closed) (i : Nat) {f : TypeVariable → TypeVariable}
    (hf : ∀ x, (f x).outline = x.outline) :
    Closed { w with typeVars := w.typeVars.modify i f } ∧
      w.Grown { w with typeVars := w.typeVars.modify i f } := by
  have hg : w.Grown { w with typeVars := w.typeVars.modify i f } := by
    refine ⟨id, fun {j x} hj => ?_, id, id, .inl⟩
    change ∃ x', (w.typeVars.modify i f)[j]? = some x' ∧ _
    rw [Array.getElem?_modify, hj]
    split
    · exact ⟨f x, rfl, hf x⟩
    · exact ⟨x, rfl, rfl⟩
  refine ⟨hw.grow hg .inl (fun {j y} hj => ?_) .inl fun h => .inl ⟨_, h, rfl⟩, hg⟩
  change (w.typeVars.modify i f)[j]? = some y at hj
  rw [Array.getElem?_modify] at hj
  split at hj
  · obtain ⟨x, hx, rfl⟩ := Option.map_eq_some_iff.mp hj
    exact .inl ⟨x, hx, (hf x).symm⟩
  · exact .inl ⟨y, hj, rfl⟩

theorem closed_pushParamSpec (hw : w.Closed) (x : String × String) :
    Closed { w with paramSpecs := w.paramSpecs.push x } ∧
      w.Grown { w with paramSpecs := w.paramSpecs.push x } := by
  have hg : w.Grown { w with paramSpecs := w.paramSpecs.push x } :=
    ⟨id, fun h => ⟨_, h, rfl⟩, getElem?_push_of_some, id, .inl⟩
  exact ⟨hw.grow hg .inl (fun h => .inl ⟨_, h, rfl⟩) .inl fun h => .inl ⟨_, h, rfl⟩, hg⟩

theorem closed_pushNewType (hw : w.Closed) {x : NamedType} (hx : w.Sound x.supertype) :
    Closed { w with newTypes := w.newTypes.push x } ∧
      w.Grown { w with newTypes := w.newTypes.push x } := by
  have hg : w.Grown { w with newTypes := w.newTypes.push x } :=
    ⟨id, fun h => ⟨_, h, rfl⟩, id, getElem?_push_of_some, .inl⟩
  refine ⟨hw.grow hg .inl (fun h => .inl ⟨_, h, rfl⟩) (fun {i y} hi => ?_)
    fun h => .inl ⟨_, h, rfl⟩, hg⟩
  change (w.newTypes.push x)[i]? = some y at hi
  rw [Array.getElem?_push] at hi
  split at hi
  · next hlast =>
    cases hi
    refine .inr ⟨hg.sound hw hx, fun j hj => ?_⟩
    have hpeel := sound_peel hx
    rw [hj, sound_newType] at hpeel
    exact hlast ▸ hpeel
  · exact .inl hi

theorem closed_pushClass (hw : w.Closed) {info : ClassInfo}
    (hinfo : ∀ w' : World, w.Grown w' → w.classes.size < w'.classes.size → w'.SoundClass info)
    (hrooted : w.Rooted info) :
    Closed { w with classes := w.classes.push info } ∧
      w.Grown { w with classes := w.classes.push info } := by
  have hg : w.Grown { w with classes := w.classes.push info } := by
    refine ⟨getElem?_push_of_some, fun h => ⟨_, h, rfl⟩, id, id, fun {i x} hi => ?_⟩
    rcases getElem?_push_cases hi with hi | rfl
    · exact .inl hi
    refine .inr ⟨fun c hc => ?_, hrooted.shapes⟩
    cases c with
    | library m n => trivial
    | declared j =>
      exact lt_of_kept (fun hj => ⟨_, getElem?_push_of_some hj⟩) (hrooted.bases _ hc)
  refine ⟨hw.grow hg (fun {i x} hi => ?_) (fun h => .inl ⟨_, h, rfl⟩) .inl
    fun h => .inl ⟨_, h, rfl⟩, hg⟩
  rcases getElem?_push_cases hi with hi | rfl
  · exact .inl hi
  · refine .inr (hinfo _ hg ?_)
    change w.classes.size < (w.classes.push x).size
    rw [Array.size_push]
    exact Nat.lt_succ_self _

end Changes

end World

end TypeProjection.Annotation
