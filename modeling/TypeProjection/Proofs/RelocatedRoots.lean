import TypeProjection.Command.Run
import TypeProjection.Proofs.RelocatedWorlds

/-!
# What is generated from relocated worlds

Modules that two worlds have in common give roots that belong together: the public classes come in
the same order, and what is asked for by name is found in both worlds or in neither. What the first
world generates from its roots the second one generates from its own: the same text, or the same
failure, and the same events on the way.
-/

namespace TypeProjection

open Annotation World

/-- For modules of two worlds the same is generated, or their roots are not found for the same
reason. -/
inductive Agree (w w' : World) (ms ms' : List InputModule) : Prop
  | failed (f : InputFault) : InputModule.allRoots w ms = .error f →
      InputModule.allRoots w' ms' = .error f → Agree w w' ms ms'
  | generated (vs vs' : List Value) : InputModule.allRoots w ms = .ok vs →
      InputModule.allRoots w' ms' = .ok vs' → vs'.isEmpty = vs.isEmpty →
      (∀ (o : Options Value) (l : Template.Loader) (handle fullName : String),
        o.defaultBase = none →
          w'.types.generate o l (w'.types.record handle fullName) (vs'.map w'.describe) =
            w.types.generate o l (w.types.record handle fullName) (vs.map w.describe)) →
      Agree w w' ms ms'

namespace Relocation

variable {es es' : List Stretch} {w w' : World} {m m' : InputModule} {n : String} {i j : Nat}
  {x x' : LoadedModule} {requested : List String}

variable (h : Relocation es es' w w')

/-- The public classes of a module come in the same order in both worlds. -/
def SameClasses (n : String) (x x' : LoadedModule) : Prop :=
  x'.names.filter (InputModule.isPublicClass w' n) =
    renamedNames h.serials (x.names.filter (InputModule.isPublicClass w n))

/-- Two handles stand for one module, each in its world, with the same names asked for. -/
def Meets (m m' : InputModule) : Prop :=
  ∃ n i j x x', w.current.lookup n = some i ∧ w'.current.lookup n = some j ∧ h.Shares n x x' ∧
    m.handle = .loaded i ∧ m'.handle = .loaded j ∧ m'.requested = m.requested ∧
    (m.requested = [] → h.SameClasses n x x') ∧ (m.requested ≠ [] → x'.file = x.file)

/-- Roots as they are found in both worlds. -/
structure Stand (r r' : Except InputFault (List Value)) : Prop where
  image : r' = r.map (List.map (Value.rename h.serials))
  sound : ∀ vs, r = .ok vs → ∀ v ∈ vs, w.Sound v
  homely : ∀ vs, r = .ok vs → ∀ v ∈ vs, v.Homely h.homes

theorem isPublicClass_renamed (module : String) (entry : String × Value) :
    InputModule.isPublicClass w' module (entry.1, entry.2.rename h.serials) =
      InputModule.isPublicClass w module entry := by
  obtain ⟨n, v⟩ := entry
  cases v with
  | cls c =>
    rw [Value.rename_cls]
    dsimp only [InputModule.isPublicClass]
    rw [h.renames.moduleOf]
  | _ => simp [InputModule.isPublicClass]

/-- Names that belong together have the same classes among them. -/
theorem sameClasses_of_renamed (hnames : x'.names = renamedNames h.serials x.names) :
    h.SameClasses n x x' := by
  have hpublic : InputModule.isPublicClass w' n ∘
      (fun entry : String × Value => (entry.1, entry.2.rename h.serials)) =
        InputModule.isPublicClass w n :=
    funext fun entry => h.isPublicClass_renamed n entry
  rw [SameClasses, hnames, renamedNames, List.filter_map, hpublic]
  rfl

/-- Names that belong together have the same classes among them if those have one order. -/
theorem sameClasses_of_order (hshares : h.Shares n x x') (hnodup : (keys x.names).Nodup)
    (hnodup' : (keys x'.names).Nodup)
    (horder : keys (x'.names.filter (InputModule.isPublicClass w' n)) =
      keys (x.names.filter (InputModule.isPublicClass w n))) : h.SameClasses n x x' := by
  have hkeys : keys (renamedNames h.serials (x.names.filter (InputModule.isPublicClass w n))) =
      keys (x.names.filter (InputModule.isPublicClass w n)) := Definition.renamedNames_keys _
  refine eq_of_keys_lookup (horder.trans hkeys.symm) ?_ fun k => ?_
  · rw [hkeys]
    exact hnodup.sublist (List.filter_sublist.map _)
  · have hlookup :=
        lookup_filter_entries hnodup (fun name v => InputModule.isPublicClass w n (name, v)) k
    have hlookup' :=
      lookup_filter_entries hnodup' (fun name v => InputModule.isPublicClass w' n (name, v)) k
    rw [World.lookup_renamedNames]
    refine hlookup'.trans ((congrArg _ hlookup).trans ?_).symm
    rw [hshares.names k]
    cases x.names.lookup k with
    | none => rfl
    | some v =>
      rw [Option.map_some, Option.filter_some, Option.filter_some, h.isPublicClass_renamed n (k, v)]
      split <;> rfl

/-- The public classes of a module are roots in both worlds. -/
theorem stand_classes (hx : w.modules[i]? = some x) (hx' : w'.modules[j]? = some x')
    (hshares : h.Shares n x x') (hclasses : h.SameClasses n x x') :
    h.Stand (InputModule.roots w ⟨.loaded i, []⟩) (InputModule.roots w' ⟨.loaded j, []⟩) := by
  have hroots : ∀ {w : World} {i : Nat} {x : LoadedModule}, w.modules[i]? = some x →
      InputModule.roots w ⟨.loaded i, []⟩ =
        .ok ((x.names.filter (InputModule.isPublicClass w x.name)).map (·.2)) := by
    intro w i x hx
    have hnames : ModuleHandle.names w (.loaded i) = x.names := by
      rw [ModuleHandle.names, hx]
      rfl
    have hname : ModuleHandle.name w (.loaded i) = x.name := by
      rw [ModuleHandle.name, hx]
      rfl
    rw [InputModule.roots, hnames, hname]
    rfl
  rw [hroots hx, hroots hx', hshares.name, hshares.name']
  refine ⟨?_, fun vs hvs v hv => ?_, fun vs hvs v hv => ?_⟩
  · rw [hclasses, renamedNames, List.map_map, Except.map, List.map_map]
    rfl
  · obtain rfl := Except.ok.inj hvs
    obtain ⟨entry, hentry, rfl⟩ := List.mem_map.mp hv
    exact h.stores.closed.names hx entry (List.mem_filter.mp hentry).1
  · obtain rfl := Except.ok.inj hvs
    obtain ⟨entry, hentry, rfl⟩ := List.mem_map.mp hv
    exact hshares.homely entry (List.mem_filter.mp hentry).1

/-- A name means the same in a module of both worlds. -/
theorem loadedName_shared (hx : w.modules[i]? = some x) (hshares : h.Shares n x x')
    (hfile : x'.file = x.file) (name : String) :
    loadedName? x' name = (loadedName? x name).map (Value.rename h.serials) ∧
      ∀ v, loadedName? x name = some v → w.Sound v ∧ v.Homely h.homes := by
  unfold loadedName?
  rw [hshares.names name, hshares.name, hshares.name', hfile]
  cases hv : x.names.lookup name with
  | some v =>
    refine ⟨rfl, fun v' hv' => ?_⟩
    obtain rfl : v = v' := Option.some.inj hv'
    exact ⟨h.stores.closed.names hx _ (mem_of_lookup hv), hshares.homely _ (mem_of_lookup hv)⟩
  | none =>
    change ownName? n x.file name = (ownName? n x.file name).map _ ∧
      ∀ v, ownName? n x.file name = some v → _
    cases hown : ownName? n x.file name with
    | none => exact ⟨rfl, nofun⟩
    | some v =>
      have hcommon := common_ownName hown
      refine ⟨by rw [Option.map_some, hcommon.rename], fun v' hv' => ?_⟩
      obtain rfl : v = v' := Option.some.inj hv'
      exact ⟨sound_ownName hown, hcommon.homely _⟩

/-- What a module gives for a name that is asked of it. -/
def givenValue (module name : String) : Option Value → Except InputFault Value
  | some v => .ok v
  | none => .error (.noAttribute module name)

/-- What is asked for by name is found in both worlds, or in neither. -/
theorem stand_requested (hx : w.modules[i]? = some x) (hx' : w'.modules[j]? = some x')
    (hshares : h.Shares n x x') (hfile : x'.file = x.file) (hasked : requested ≠ []) :
    h.Stand (InputModule.roots w ⟨.loaded i, requested⟩)
      (InputModule.roots w' ⟨.loaded j, requested⟩) := by
  have hroots : ∀ {w : World} {i : Nat} {x : LoadedModule}, w.modules[i]? = some x →
      InputModule.roots w ⟨.loaded i, requested⟩ =
        requested.mapM fun name => givenValue x.name name (loadedName? x name) := by
    intro w i x hx
    have hname : ModuleHandle.name w (.loaded i) = x.name := by
      rw [ModuleHandle.name, hx]
      rfl
    have hvalue : ∀ name, ModuleHandle.attribute? w (.loaded i) name = loadedName? x name := by
      intro name
      rw [ModuleHandle.attribute?, hx]
      rfl
    rw [InputModule.roots, if_neg fun hempty => hasked (List.isEmpty_iff.mp hempty)]
    change (requested.mapM fun name => givenValue (ModuleHandle.name w (.loaded i)) name
      (ModuleHandle.attribute? w (.loaded i) name)) = _
    simp only [hvalue, hname]
  rw [hroots hx, hroots hx', hshares.name, hshares.name']
  clear hroots hasked
  induction requested with
  | nil =>
    refine ⟨rfl, fun vs hvs v hv => ?_, fun vs hvs v hv => ?_⟩ <;>
      exact (List.not_mem_nil (Except.ok.inj hvs ▸ hv)).elim
  | cons name rest ih =>
    obtain ⟨himage, hfound⟩ := h.loadedName_shared hx hshares hfile name
    rw [List.mapM_cons, List.mapM_cons, himage]
    cases hv : loadedName? x name with
    | none => exact ⟨rfl, nofun, nofun⟩
    | some v =>
      obtain ⟨hsound, hhomely⟩ := hfound v hv
      obtain ⟨himages, hsounds, hhomelies⟩ := ih
      dsimp only [Option.map_some]
      rw [himages]
      generalize (List.mapM _ rest : Except InputFault (List Value)) = r at hsounds hhomelies
      cases r with
      | error f => exact ⟨rfl, nofun, nofun⟩
      | ok vs =>
        refine ⟨rfl, fun us hus => ?_, fun us hus => ?_⟩ <;> obtain rfl := Except.ok.inj hus
        · exact List.forall_mem_cons.mpr ⟨hsound, hsounds vs rfl⟩
        · exact List.forall_mem_cons.mpr ⟨hhomely, hhomelies vs rfl⟩

/-- A module gives roots that belong together in both worlds. -/
theorem stand_roots (hm : h.Meets m m') : h.Stand (m.roots w) (m'.roots w') := by
  obtain ⟨n, i, j, x, x', hi, hj, hshares, hhandle, hhandle', hsame, hclasses, hfile⟩ := hm
  have hx := hshares.left
  have hx' := hshares.right
  rw [loaded?_of_current hi] at hx
  rw [loaded?_of_current hj] at hx'
  obtain ⟨handle, requested⟩ := m
  obtain ⟨handle', requested'⟩ := m'
  obtain rfl : handle = .loaded i := hhandle
  obtain rfl : handle' = .loaded j := hhandle'
  obtain rfl : requested' = requested := hsame
  by_cases hasked : requested' = []
  · subst hasked
    exact h.stand_classes hx hx' hshares (hclasses rfl)
  · exact h.stand_requested hx hx' hshares (hfile hasked) hasked

/-- Modules give roots that belong together in both worlds. -/
theorem stand_allRoots {ms ms' : List InputModule} (hms : List.Forall₂ h.Meets ms ms') :
    h.Stand (InputModule.allRoots w ms) (InputModule.allRoots w' ms') := by
  have hall : ∀ {w : World} {m : InputModule} {ms : List InputModule},
      InputModule.allRoots w (m :: ms) = do
        let vs ← m.roots w
        let more ← InputModule.allRoots w ms
        return vs ++ more := by
    intro w m ms
    unfold InputModule.allRoots
    rw [List.mapM_cons]
    cases m.roots w with
    | error f => rfl
    | ok vs => cases ms.mapM (InputModule.roots w) <;> rfl
  induction hms with
  | nil =>
    refine ⟨rfl, fun vs hvs v hv => ?_, fun vs hvs v hv => ?_⟩ <;>
      exact (List.not_mem_nil (Except.ok.inj hvs ▸ hv)).elim
  | @cons m m' ms ms' hm _ ih =>
    obtain ⟨himage, hsound, hhomely⟩ := h.stand_roots hm
    obtain ⟨himages, hsounds, hhomelies⟩ := ih
    rw [hall, hall, himage, himages]
    cases hroots : m.roots w with
    | error f => exact ⟨rfl, nofun, nofun⟩
    | ok vs =>
      cases hmore : InputModule.allRoots w ms with
      | error f => exact ⟨rfl, nofun, nofun⟩
      | ok us =>
        refine ⟨?_, fun vs' hvs => ?_, fun vs' hvs => ?_⟩
        · exact congrArg Except.ok (List.map_append ..).symm
        · obtain rfl := Except.ok.inj hvs
          exact List.forall_mem_append.mpr ⟨hsound vs hroots, hsounds us hmore⟩
        · obtain rfl := Except.ok.inj hvs
          exact List.forall_mem_append.mpr ⟨hhomely vs hroots, hhomelies us hmore⟩

/-- The same is generated from roots that belong together. -/
theorem generate_relocated (hshare : w.SharesNames h.serials h.homes w') {vs : List Value}
    (hsound : ∀ v ∈ vs, w.Sound v) (hhomely : ∀ v ∈ vs, v.Homely h.homes) {o : Options Value}
    (ho : o.defaultBase = none) (l : Template.Loader) (handle fullName : String) :
    w'.types.generate o l (w'.types.record handle fullName)
        ((vs.map (Value.rename h.serials)).map w'.describe) =
      w.types.generate o l (w.types.record handle fullName) (vs.map w.describe) := by
  have hmirrors : ∀ t t', w.Kin h.serials h.homes t t' →
      w.types.Mirrors (w.Kin h.serials h.homes) w'.types t t' := fun _ _ =>
    mirrors_kin h.renames h.stores.closed hshare
  refine Universe.generate_eq sameKeys_kin hmirrors (extent_le_of_renames h.renames) rfl
    (fun t _ _ => supertypes_found h.writesBases t) (i := o.interfacesOnly) ?_ ?_ ?_
  · refine ⟨rfl, rfl, rfl, rfl, ?_, rfl, rfl, rfl⟩
    rw [ho]
    exact .none
  · intro t t' ht
    have hm := hmirrors t t' ht
    unfold Universe.record
    rw [hm.displayName, hm.name, hm.isEnum, hm.isInterface, hm.isAbstract, hm.isStructural,
      hm.isParameter, hm.isDefinition, hm.isConstructed, hm.needsConstructor]
  · exact kin_described h.renames h.stores.closed (kin_images hsound hhomely)

/-- For modules that both worlds share the same is generated. -/
theorem agree (hshare : w.SharesNames h.serials h.homes w') {ms ms' : List InputModule}
    (hms : List.Forall₂ h.Meets ms ms') : Agree w w' ms ms' := by
  obtain ⟨himage, hsound, hhomely⟩ := h.stand_allRoots hms
  cases hroots : InputModule.allRoots w ms with
  | error f => exact .failed f hroots (himage.trans (congrArg _ hroots))
  | ok vs =>
    refine .generated vs _ hroots (himage.trans (congrArg _ hroots)) (List.isEmpty_map ..) ?_
    exact fun o l handle fullName ho =>
      h.generate_relocated hshare (hsound vs hroots) (hhomely vs hroots) ho l handle fullName

end Relocation

end TypeProjection
