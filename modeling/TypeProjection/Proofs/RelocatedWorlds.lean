import TypeProjection.Proofs.MirroredUniverses
import TypeProjection.Proofs.Relocations
import TypeProjection.Proofs.RenamedTypes
import TypeProjection.Proofs.StockedWorlds
import TypeProjection.Proofs.WorldExtents

/-!
# One world inside of another

If a world stores nothing but what certain modules have made, and another world stores what they have
made among other things, then the first one stands inside of the second: every stretch goes to the
stretch of the same module there. So the same is generated from what the two worlds tell of it, if
the names of the modules mean the same in both.
-/

namespace TypeProjection

open Annotation

/-- Everything but the library was made by modules. -/
def Annotation.World.Covered (w : World) (es : List Stretch) : Prop :=
  ∀ k i, World.initial.count k ≤ i → i < w.count k →
    ∃ e ∈ es, e.start.count k ≤ i ∧ i < e.start.count k + e.length k

/-- A name that a module can have which is neither nameless nor of the library. -/
def IsOwnName (n : String) : Prop := n ≠ "" ∧ n ∉ libraryModules

/-- Nothing is found under a name that no module can have. -/
theorem loaded?_of_not_own {w : World} (hw : w.Within IsOwnName) {n : String} (hn : ¬ IsOwnName n) :
    w.loaded? n = none := by
  have hnone : w.current.lookup n = none := by
    cases hi : w.current.lookup n with
    | none => rfl
    | some i => exact (hn (hw n i hi)).elim
  rw [World.loaded?, hnone]
  rfl

/-- What modules have made is all that the first world has, and the second world has it elsewhere.
-/
structure Relocation (es es' : List Stretch) (w w' : World) where
  stores : w.Stores es
  stores' : w'.Stores es'
  covered : w.Covered es
  own : w.Within IsOwnName
  own' : w'.Within IsOwnName
  /-- The stretch of the same module. -/
  other : Stretch → Stretch
  mem_other : ∀ e ∈ es, other e ∈ es'
  module : ∀ e ∈ es, (other e).module = e.module
  content : ∀ e ∈ es, (other e).content = e.content

namespace Relocation

variable {es es' : List Stretch} {w w' : World} {e : Stretch} {k : Kind}

/-- Where what there is of a kind goes. -/
def blocks (h : Relocation es es' w w') (k : Kind) : List Block :=
  es.map fun e => ⟨e.start.count k, (h.other e).start.count k, e.length k⟩

variable (h : Relocation es es' w w')

include h

theorem length_other (he : e ∈ es) : (h.other e).length k = e.length k := by
  unfold Stretch.length Stretch.alone
  rw [h.module e he, h.content e he]

theorem alone_other (he : e ∈ es) : (h.other e).alone = e.alone := by
  unfold Stretch.alone
  rw [h.module e he, h.content e he]

/-- Other stretches are apart, too. -/
theorem pairwise_other : es.Pairwise fun e f => (h.other e).Apart (h.other f) := by
  have hsymm : Std.Symm Stretch.Apart := ⟨fun _ _ happart => happart.symm⟩
  refine h.stores.apart.imp_of_mem fun {e f} he hf happart => ?_
  refine h.stores'.apart.forall (h.mem_other e he) (h.mem_other f hf) fun heq => happart.1 ?_
  rw [← h.module e he, ← h.module f hf, heq]

theorem fit (k : Kind) :
    Block.Fit (h.blocks k) (World.initial.count k) (w.count k) (w'.count k) where
  base_le := by
    have hle : ∀ {w : World}, w.Closed → World.initial.count k ≤ w.count k := by
      intro w hw
      cases k with
      | typeVar => exact hw.library
      | _ => exact Nat.zero_le _
    exact ⟨hle h.stores.closed, hle h.stores'.closed⟩
  sources := by
    intro b hb
    obtain ⟨e, he, rfl⟩ := List.mem_map.mp hb
    exact ⟨e.start.initial_le k, (h.stores.made e he).within k⟩
  targets := by
    intro b hb
    obtain ⟨e, he, rfl⟩ := List.mem_map.mp hb
    refine ⟨(h.other e).start.initial_le k, ?_⟩
    rw [← h.length_other he]
    exact (h.stores'.made _ (h.mem_other e he)).within k
  sourcesApart := List.pairwise_map.mpr (h.stores.apart.imp fun happart => happart.2 k)
  targetsApart := by
    refine List.pairwise_map.mpr (h.pairwise_other.imp_of_mem fun {e f} he hf happart => ?_)
    have hdisjoint := happart.2 k
    rwa [h.length_other he, h.length_other hf] at hdisjoint
  cover := by
    intro i hi hlt
    obtain ⟨e, he, hin⟩ := h.covered k i hi hlt
    exact ⟨_, List.mem_map_of_mem he, hin⟩

/-- Where things of a kind go. -/
def goes (k : Kind) (i : Nat) : Nat :=
  Block.relocate (h.blocks k) (World.initial.count k) (w.count k) (w'.count k) i

/-- The serials in the second world. -/
def serials : Renaming where
  cls := h.goes .cls
  typeVar := h.goes .typeVar
  paramSpec := h.goes .paramSpec
  newType := h.goes .newType
  cls_injective := Block.relocate_injective (h.fit .cls)
  typeVar_injective := Block.relocate_injective (h.fit .typeVar)
  paramSpec_injective := Block.relocate_injective (h.fit .paramSpec)
  newType_injective := Block.relocate_injective (h.fit .newType)
  library _ hi := Block.relocate_base (h.fit .typeVar) hi

/-- The modules whose texts stand in the first world, and those of the library. -/
def homes (_ : Relocation es es' w w') (n : String) : Prop :=
  (∃ e ∈ es, n = e.module.name) ∨ n = "" ∨ n ∈ libraryModules

theorem on_eq_goes (k : Kind) : h.serials.on k = h.goes k := by
  cases k <;> rfl

/-- What a module has made goes where it is held in the second world. -/
theorem on_serials (he : e ∈ es) {i : Nat} (hi : i < e.alone.count k) :
    h.serials.on k (e.serials.on k i) = (h.other e).serials.on k i := by
  have hproper := (h.stores.made e he).proper
  by_cases hlibrary : i < World.initial.count k
  · rw [Renaming.on_library _ hlibrary, Renaming.on_library _ hlibrary,
      Renaming.on_library _ hlibrary]
  · obtain ⟨n, rfl⟩ := Nat.exists_eq_add_of_le (Nat.le_of_not_lt hlibrary)
    have hn : n < e.length k := by
      have hcount := hproper.count_eq k
      omega
    have hgoes := Block.relocate_block (h.fit k) (List.mem_map_of_mem he) hn
    rw [h.on_eq_goes, Stretch.serials, Stretch.serials, Start.on_add, Start.on_add]
    exact hgoes

theorem composes (he : e ∈ es) :
    e.alone.Composes e.serials h.serials (h.other e).serials where
  cls _ hi := h.on_serials (k := .cls) he hi
  typeVar _ hi := h.on_serials (k := .typeVar) he hi
  paramSpec _ hi := h.on_serials (k := .paramSpec) he hi
  newType _ hi := h.on_serials (k := .newType) he hi

/-- A serial is one of the library, or of what a module has made, or it has not been handed out. -/
theorem serial_cases (k : Kind) (i : Nat) :
    i < World.initial.count k ∨
      (∃ e ∈ es, ∃ j < e.alone.count k, World.initial.count k ≤ j ∧ i = e.serials.on k j) ∨
      ∃ n, i = w.count k + n ∧ h.serials.on k i = w'.count k + n := by
  rcases Block.relocate_cases (h.fit k) i with ⟨hi, -⟩ | ⟨b, hb, n, hn, rfl, -⟩ | ⟨n, rfl, hgoes⟩
  · exact .inl hi
  · obtain ⟨e, he, rfl⟩ := List.mem_map.mp hb
    have hcount := (h.stores.made e he).proper.count_eq k
    refine .inr (.inl ⟨e, he, World.initial.count k + n, ?_, Nat.le_add_right .., ?_⟩)
    · dsimp only at hn
      omega
    · exact (e.start.on_add k n).symm
  · refine .inr (.inr ⟨n, rfl, ?_⟩)
    rw [h.on_eq_goes]
    exact hgoes

/-! The worlds. -/

theorem homes_of_homesOf (he : e ∈ es) {n : String} (hn : homesOf e.module.name n) : h.homes n :=
  hn.imp_left fun hn => ⟨e, he, hn⟩

/-- What has a serial is the library's, or a module has made it. -/
theorem made_cases {i : Nat} (hi : i < w.count k) :
    i < World.initial.count k ∨
      ∃ e ∈ es, ∃ j < e.alone.count k, World.initial.count k ≤ j ∧ i = e.serials.on k j := by
  rcases h.serial_cases k i with hlibrary | hmade | ⟨n, rfl, -⟩
  · exact .inl hlibrary
  · exact .inr hmade
  · exact (Nat.not_lt.mpr (Nat.le_add_right ..) hi).elim

/-- A class of the first world was made by a module. -/
theorem class_made {i : Nat} {info : ClassInfo} (hi : w.classes[i]? = some info) :
    ∃ e ∈ es, ∃ (j : Nat) (made : ClassInfo), e.alone.classes[j]? = some made ∧
      info = made.rename e.serials := by
  rcases h.made_cases (k := .cls) (Array.getElem?_eq_some_iff.mp hi).1 with
    hlibrary | ⟨e, he, j, hj, -, rfl⟩
  · exact (Nat.not_lt_zero i hlibrary).elim
  · have hmade := Array.getElem?_eq_getElem (show j < e.alone.classes.size from hj)
    have hheld := (h.stores.made e he).classes hmade
    exact ⟨e, he, j, _, hmade, Option.some.inj (hi.symm.trans hheld)⟩

theorem typeVar_made {i : Nat} {v : TypeVariable} (hi : w.typeVars[i]? = some v) :
    v ∈ libraryVariables ∨ ∃ e ∈ es, ∃ (j : Nat) (made : TypeVariable),
      e.alone.typeVars[j]? = some made ∧ v = made.rename e.serials := by
  rcases h.made_cases (k := .typeVar) (Array.getElem?_eq_some_iff.mp hi).1 with
    hlibrary | ⟨e, he, j, hj, hle, rfl⟩
  · rw [h.stores.unmarked i hlibrary] at hi
    exact .inl (List.mem_of_getElem? hi)
  · have hmade := Array.getElem?_eq_getElem (show j < e.alone.typeVars.size from hj)
    have hheld := (h.stores.made e he).typeVars hle hmade
    exact .inr ⟨e, he, j, _, hmade, Option.some.inj (hi.symm.trans hheld)⟩

theorem newType_made {i : Nat} {n : NamedType} (hi : w.newTypes[i]? = some n) :
    ∃ e ∈ es, ∃ (j : Nat) (made : NamedType), e.alone.newTypes[j]? = some made ∧
      n = made.rename e.serials := by
  rcases h.made_cases (k := .newType) (Array.getElem?_eq_some_iff.mp hi).1 with
    hlibrary | ⟨e, he, j, hj, -, rfl⟩
  · exact (Nat.not_lt_zero i hlibrary).elim
  · have hmade := Array.getElem?_eq_getElem (show j < e.alone.newTypes.size from hj)
    have hheld := (h.stores.made e he).newTypes hmade
    exact ⟨e, he, j, _, hmade, Option.some.inj (hi.symm.trans hheld)⟩

/-- All bases in the first world were written as bases can be. -/
theorem writesBases : w.WritesBases := by
  intro i info hi v hv
  obtain ⟨e, he, j, made, hmade, rfl⟩ := h.class_made hi
  obtain ⟨b, hb, rfl⟩ := List.mem_map.mp hv
  exact ((h.stores.made e he).proper.rooted hmade |>.shapes b hb).rename

/-- What stands under serials of a kind stands under the new ones in the second world, if what the
library and the modules have made does. -/
theorem stands {α β : Type} {xs : Array α} {ys : Array β} {f : α → β} (hxs : xs.size = w.count k)
    (hys : ys.size = w'.count k)
    (hlibrary : ∀ i < World.initial.count k, ys[i]? = (xs[i]?).map f)
    (hmade : ∀ e ∈ es, ∀ j < e.alone.count k, World.initial.count k ≤ j →
      ys[(h.other e).serials.on k j]? = (xs[e.serials.on k j]?).map f) (i : Nat) :
    ys[h.serials.on k i]? = (xs[i]?).map f := by
  rcases h.serial_cases k i with hi | ⟨e, he, j, hj, hle, rfl⟩ | ⟨n, rfl, hgoes⟩
  · rw [Renaming.on_library _ hi]
    exact hlibrary i hi
  · rw [h.on_serials he hj]
    exact hmade e he j hj hle
  · rw [hgoes, Array.getElem?_eq_none (hys ▸ Nat.le_add_right ..),
      Array.getElem?_eq_none (hxs ▸ Nat.le_add_right ..)]
    rfl

/-- The first world stands inside of the second one. -/
theorem renames : w.Renames h.serials h.homes w' where
  classes := by
    refine h.stands (k := .cls) rfl rfl (fun i hi => (Nat.not_lt_zero i hi).elim) ?_
    intro e he j hj _
    obtain ⟨x, hmade⟩ : ∃ x, e.alone.classes[j]? = some x := ⟨_, Array.getElem?_eq_getElem hj⟩
    have hheld := h.stores.made e he
    have hheld' := h.stores'.made _ (h.mem_other e he)
    have hmade' := hmade
    rw [← h.alone_other he] at hmade'
    refine (hheld'.classes hmade').trans ?_
    rw [← (h.composes he).info (hheld.proper.closed.classes hmade) (hheld.proper.rooted hmade)]
    exact (congrArg (Option.map _) (hheld.classes hmade)).symm
  typeVars := by
    refine h.stands (k := .typeVar) rfl rfl (fun i hi => ?_) ?_
    · rw [h.stores'.unmarked i hi, h.stores.unmarked i hi,
        List.getElem?_eq_getElem (show i < libraryVariables.length from hi), Option.map_some,
        rename_libraryVariable (List.getElem_mem _)]
    intro e he j hj hle
    obtain ⟨x, hmade⟩ : ∃ x, e.alone.typeVars[j]? = some x := ⟨_, Array.getElem?_eq_getElem hj⟩
    have hheld := h.stores.made e he
    have hheld' := h.stores'.made _ (h.mem_other e he)
    have hmade' := hmade
    rw [← h.alone_other he] at hmade'
    refine (hheld'.typeVars hle hmade').trans ?_
    rw [← (h.composes he).typeVariable (hheld.proper.closed.bounds hmade)]
    exact (congrArg (Option.map _) (hheld.typeVars hle hmade)).symm
  paramSpecs i := by
    have hstands := h.stands (k := .paramSpec) (f := id) rfl rfl
      (fun i hi => (Nat.not_lt_zero i hi).elim) (fun e he j hj _ => by
        obtain ⟨x, hmade⟩ : ∃ x, e.alone.paramSpecs[j]? = some x := ⟨_, Array.getElem?_eq_getElem hj⟩
        have hheld' := h.stores'.made _ (h.mem_other e he)
        have hmade' := hmade
        rw [← h.alone_other he] at hmade'
        refine (hheld'.paramSpecs hmade').trans ?_
        exact (congrArg (Option.map id) ((h.stores.made e he).paramSpecs hmade)).symm) i
    rwa [Option.map_id] at hstands
  newTypes := by
    refine h.stands (k := .newType) rfl rfl (fun i hi => (Nat.not_lt_zero i hi).elim) ?_
    intro e he j hj _
    obtain ⟨x, hmade⟩ : ∃ x, e.alone.newTypes[j]? = some x := ⟨_, Array.getElem?_eq_getElem hj⟩
    have hheld := h.stores.made e he
    have hheld' := h.stores'.made _ (h.mem_other e he)
    have hmade' := hmade
    rw [← h.alone_other he] at hmade'
    refine (hheld'.newTypes hmade').trans ?_
    rw [← (h.composes he).namedType (hheld.proper.closed.supertypes hmade)]
    exact (congrArg (Option.map _) (hheld.newTypes hmade)).symm
  nextClass := Block.relocate_top (h.fit .cls)
  nextTypeVar := Block.relocate_top (h.fit .typeVar)
  nextParamSpec := Block.relocate_top (h.fit .paramSpec)
  nextNewType := Block.relocate_top (h.fit .newType)
  blank := .inr (.inl rfl)
  known n hn := .inr (.inr hn)
  absent n hn :=
    ⟨loaded?_of_not_own h.own fun hown => hown.2 hn, loaded?_of_not_own h.own' fun hown => hown.2 hn⟩
  homelyClasses hi := by
    obtain ⟨e, he, j, made, hmade, rfl⟩ := h.class_made hi
    exact ((h.stores.made e he).proper.homelyClasses hmade).rename fun _ => h.homes_of_homesOf he
  homelyVars hi := by
    rcases h.typeVar_made hi with hlibrary | ⟨e, he, j, made, hmade, rfl⟩
    · exact homely_libraryVariable (fun n hn => .inr (.inr hn)) hlibrary
    · exact ((h.stores.made e he).proper.homelyVars hmade).rename fun _ => h.homes_of_homesOf he
  homelyTypes hi := by
    obtain ⟨e, he, j, made, hmade, rfl⟩ := h.newType_made hi
    exact ((h.stores.made e he).proper.homelyTypes hmade).rename fun _ => h.homes_of_homesOf he

/-- A module is found in both worlds, and its names mean the same. -/
structure Shares (n : String) (m m' : LoadedModule) : Prop where
  left : w.loaded? n = some m
  right : w'.loaded? n = some m'
  name : m.name = n
  name' : m'.name = n
  names : NamesSent h.serials m.names m'.names
  homely : HomelyNames h.homes m.names

/-- If the modules are found in both worlds with the same names, so are the modules to which texts
belong. -/
theorem sharesNames (hfound : ∀ e ∈ es, ∃ m m', h.Shares e.module.name m m') :
    w.SharesNames h.serials h.homes w' := by
  intro n hn
  by_cases hmade : ∃ e ∈ es, n = e.module.name
  · obtain ⟨e, he, rfl⟩ := hmade
    obtain ⟨m, m', hshares⟩ := hfound e he
    exact .inr ⟨m, m', hshares.left, hshares.right, hshares.names, hshares.homely⟩
  · have hown : ¬ IsOwnName n := by
      rintro ⟨hblank, hlibrary⟩
      rcases hn with hn | hn | hn
      · exact hmade hn
      · exact hblank hn
      · exact hlibrary hn
    exact .inl ⟨loaded?_of_not_own h.own hown, loaded?_of_not_own h.own' hown⟩

/-- A module that the first world holds is shared with the second one if its names mean there what
they mean when it is run alone. -/
theorem shares_of_sent (he : e ∈ es) (hheld : w.Holds e) {m' : LoadedModule}
    (hm' : w'.loaded? e.module.name = some m') (hname' : m'.name = e.module.name)
    (hsent : NamesSent (h.other e).serials (e.alone.namesOf e.module.name) m'.names) :
    ∃ m, h.Shares e.module.name m m' ∧
      m.names = renamedNames e.serials (e.alone.namesOf e.module.name) := by
  obtain ⟨m, hm, hname, hnames⟩ := hheld.found
  refine ⟨m, ⟨hm, hm', hname, hname', fun n => ?_, ?_⟩, hnames⟩
  · have htwice := (h.composes he).names (World.sound_namesOf hheld.proper.closed e.module.name)
    rw [← World.lookup_renamedNames, hnames, htwice, World.lookup_renamedNames]
    exact hsent n
  · rw [hnames]
    exact hheld.proper.homelyNames.rename fun _ => h.homes_of_homesOf he

/-- A module that both worlds hold has names that belong together. -/
theorem shares_of_holds (he : e ∈ es) (hheld : w.Holds e) (hheld' : w'.Holds (h.other e)) :
    ∃ m m', h.Shares e.module.name m m' ∧ m'.names = renamedNames h.serials m.names := by
  obtain ⟨m', hm', hname', hnames'⟩ := hheld'.found
  rw [h.alone_other he] at hnames'
  rw [h.module e he] at hm' hname' hnames'
  obtain ⟨m, hshares, hnames⟩ := h.shares_of_sent he hheld hm' hname'
    (hnames' ▸ namesSent_renamed _ _)
  refine ⟨m, m', hshares, ?_⟩
  rw [hnames, hnames', (h.composes he).names (World.sound_namesOf hheld.proper.closed _)]

end Relocation

end TypeProjection
