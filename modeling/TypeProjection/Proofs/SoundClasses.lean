import TypeProjection.Definition.Run
import TypeProjection.Proofs.GrownWorlds

/-!
# Classes built of sound values

The values in the header of a class and the contents of its body are sound. Then what is known of
the class that is built of them is sound, and the classes that it derives from are there.
-/

namespace TypeProjection.Definition

open Annotation

variable {w : World} {v : Value} {xs all later : List Value} {h : Header} {body : Body}
  {info : ClassInfo}

theorem sound_typeVariables (hv : w.Sound v) : ∀ x ∈ v.typeVariables, w.Sound x := by
  induction hv with
  | @intro v hv hchildren ih =>
    have hparts : ∀ xs, (∀ x ∈ xs, ∀ y ∈ x.typeVariables, w.Sound y) →
        ∀ y ∈ Value.distinctValues (Value.typeVariables.variablesOf xs), w.Sound y := by
      intro xs hxs y hy
      replace hy := Value.mem_of_mem_distinctValues hy
      induction xs with
      | nil => exact (List.not_mem_nil hy).elim
      | cons x xs ihxs =>
        obtain ⟨hx, hxs⟩ := List.forall_mem_cons.mp hxs
        rcases List.mem_append.mp hy with hy | hy
        · exact hx y hy
        · exact ihxs hxs hy
    have hself : ∀ x ∈ [v], w.Sound x := List.forall_mem_singleton.mpr (.intro hv hchildren)
    unfold Value.typeVariables
    split
    · exact hself
    · exact hself
    · exact hparts _ ih
    · exact hparts _ ih
    · exact hparts _ ih
    · exact hparts _ ih
    · exact fun _ h => (List.not_mem_nil h).elim
    · exact hparts _ ih
    · exact hparts _ ih
    · exact ih _ (List.mem_cons_self ..)
    · exact fun _ h => (List.not_mem_nil h).elim

theorem sound_variablesOfAll (hxs : ∀ x ∈ xs, w.Sound x) :
    ∀ x ∈ Value.variablesOfAll xs, w.Sound x := by
  intro x hx
  obtain ⟨y, hy, hx⟩ := List.mem_flatMap.mp (Value.mem_of_mem_distinctValues hx)
  exact sound_typeVariables (hxs y hy) x hx

/-- The class of a base is there. -/
def ValidBase (w : World) (b : Base) : Prop := ∀ c, b.class? = some c → w.Valid c

theorem validBase_cls {c : ClassRef} (hc : w.Valid c) : ValidBase w (.cls c) :=
  fun _ h => Option.some_inj.mp h ▸ hc

theorem validBase_genericRoot : ValidBase w (.cls World.genericRoot) :=
  validBase_cls World.valid_library

theorem valid_aliasEntries {origin : ClassRef} (ho : w.Valid origin) :
    ∀ b ∈ aliasEntries w all later origin, ValidBase w b := by
  have hown : ∀ b ∈ (if all.any (fun v => v.same (.cls origin)) then [] else [Base.cls origin]),
      ValidBase w b := by
    split
    · exact fun _ h => (List.not_mem_nil h).elim
    · exact List.forall_mem_singleton.mpr (validBase_cls ho)
  unfold aliasEntries
  dsimp only
  split
  · exact hown
  · exact List.forall_mem_append.mpr ⟨hown, List.forall_mem_singleton.mpr validBase_genericRoot⟩

theorem valid_genericEntries : ∀ b ∈ genericEntries all later, ValidBase w b := by
  unfold genericEntries
  split
  · exact fun _ h => (List.not_mem_nil h).elim
  · exact List.forall_mem_singleton.mpr validBase_genericRoot

theorem gives_replacement (hv : w.Sound v) :
    Gives (replacement w all later v) fun o => ∀ bs, o = some bs → ∀ b ∈ bs, ValidBase w b := by
  have hone : ∀ {c : ClassRef}, w.Valid c → ∀ bs, some [Base.cls c] = some bs →
      ∀ b ∈ bs, ValidBase w b := by
    rintro c hc _ ⟨⟩
    exact List.forall_mem_singleton.mpr (validBase_cls hc)
  unfold replacement
  split
  · exact gives_ok.mpr nofun
  · refine gives_ok.mpr ?_
    rintro _ ⟨⟩
    split
    · exact valid_genericEntries
    · exact List.forall_mem_singleton.mpr (validBase_cls (World.sound_applied.mp hv).1.1)
  · refine gives_ok.mpr ?_
    rintro _ ⟨⟩
    exact valid_aliasEntries (World.sound_applied.mp hv).1.1
  · refine gives_ok.mpr ?_
    rintro _ ⟨⟩
    exact valid_aliasEntries (World.aliasOrigin_cases w _).1
  · exact gives_ok.mpr (hone (World.sound_native.mp hv).1.1)
  · exact gives_ok.mpr (hone World.valid_library)
  · exact gives_ok.mpr (hone (World.sound_cls.mp (World.sound_annotated.mp hv).1))
  · refine gives_ok.mpr ?_
    rintro _ ⟨⟩
    exact List.forall_mem_singleton.mpr nofun
  · refine gives_ok.mpr ?_
    rintro _ ⟨⟩
    exact List.forall_mem_singleton.mpr nofun
  all_goals exact gives_error

/-- What can be replaced among bases, or needs no replacement, is a base. -/
theorem isBase_of_replacement : Gives (replacement w all later v) fun _ => v.IsBase := by
  unfold replacement
  split
  · exact gives_ok.mpr (.cls _)
  · exact gives_ok.mpr (.applied ..)
  · exact gives_ok.mpr (.applied ..)
  · exact gives_ok.mpr (.generic _)
  · exact gives_ok.mpr (.native ..)
  · exact gives_ok.mpr (.looseCallable _)
  · exact gives_ok.mpr (.annotated ..)
  · exact gives_ok.mpr (.function ..)
  · exact gives_ok.mpr (.function ..)
  all_goals exact gives_error

theorem isBase_of_entries : Gives (entries w all xs) fun _ => ∀ x ∈ xs, x.IsBase := by
  induction xs with
  | nil => exact gives_ok.mpr fun _ h => (List.not_mem_nil h).elim
  | cons v later ih =>
    rw [entries, gives_bind]
    refine isBase_of_replacement.mono fun here hv => ?_
    rw [gives_bind]
    refine ih.mono fun r hlater => ?_
    dsimp only
    split <;> exact gives_ok.mpr (List.forall_mem_cons.mpr ⟨hv, hlater⟩)

theorem gives_entries (hxs : ∀ x ∈ xs, w.Sound x) :
    Gives (entries w all xs) fun r => ∀ b ∈ r.1, ValidBase w b := by
  induction xs with
  | nil => exact gives_ok.mpr fun _ h => (List.not_mem_nil h).elim
  | cons v later ih =>
    obtain ⟨hv, hlater⟩ := List.forall_mem_cons.mp hxs
    rw [entries, gives_bind]
    refine (gives_replacement hv).mono fun here hhere => ?_
    rw [gives_bind]
    refine (ih hlater).mono fun r hr => ?_
    dsimp only
    split
    · exact gives_ok.mpr (List.forall_mem_append.mpr ⟨hhere _ rfl, hr⟩)
    · exact gives_ok.mpr (List.forall_mem_cons.mpr ⟨validBase_cls (World.sound_cls.mp hv), hr⟩)
    · exact gives_ok.mpr hr

/-- The values in a header are sound, and bases. -/
structure SoundHeader (w : World) (h : Header) : Prop where
  written : ∀ v ∈ h.written, w.Sound v
  shapes : ∀ v ∈ h.written, v.IsBase
  entries : ∀ b ∈ h.entries, ValidBase w b

theorem SoundHeader.bases (hh : SoundHeader w h) : ∀ c ∈ h.bases, w.Valid c := by
  intro c hc
  obtain ⟨b, hb, hbc⟩ := List.mem_filterMap.mp hc
  exact hh.entries b hb c hbc

theorem SoundHeader.effectiveBases (hh : SoundHeader w h) : ∀ c ∈ h.effectiveBases, w.Valid c := by
  unfold Header.effectiveBases
  split
  · exact List.forall_mem_singleton.mpr World.valid_library
  · exact hh.bases

theorem gives_headerOf {s : Setting} {p : Spot} {name : String} {words : List (String × Value)}
    (hxs : ∀ x ∈ xs, w.Sound x) : Gives (headerOf w s p name xs words) (SoundHeader w) := by
  rw [headerOf, gives_bind]
  intro r hentries
  dsimp only
  rw [gives_bind]
  exact fun _ _ => gives_ok.mpr ⟨hxs, isBase_of_entries r hentries, gives_entries hxs r hentries⟩

theorem written_headerOf {s : Setting} {p : Spot} {name : String} {words : List (String × Value)} :
    Gives (headerOf w s p name xs words) fun h => h.written = xs := by
  rw [headerOf, gives_bind]
  intro _ _
  dsimp only
  rw [gives_bind]
  exact fun _ _ => gives_ok.mpr rfl

/-- The contents of a body are sound. -/
structure SoundBody (w : World) (body : Body) : Prop where
  annotations : w.SoundNames body.annotations
  attributes : ∀ a ∈ body.attributes, w.SoundAttribute a.2

/-- What is known of a class about to be made is sound, and its bases are there. -/
structure SoundInfo (w : World) (info : ClassInfo) : Prop where
  rooted : w.Rooted info
  sound : w.SoundClass info

theorem gives_listedVariables (hxs : ∀ x ∈ xs, w.Sound x) :
    Gives (listedVariables xs) fun o => ∀ vs, o = some vs → ∀ v ∈ vs, w.Sound v := by
  induction xs with
  | nil => exact gives_ok.mpr nofun
  | cons v rest ih =>
    obtain ⟨hv, hrest⟩ := List.forall_mem_cons.mp hxs
    unfold listedVariables
    split
    · cases ‹_ :: _ = []›
    · next he =>
      cases he
      rw [gives_bind]
      refine (ih hrest).mono fun others hothers => ?_
      split
      · split
        · exact gives_error
        · rw [gives_pure]
          rintro _ ⟨⟩
          exact sound_variablesOfAll (World.sound_applied.mp hv).2
      · exact gives_ok.mpr hothers
    · next he =>
      cases he
      exact ih hrest

theorem gives_typeParameters {written : Option (List Value)}
    (hwritten : ∀ vs, written = some vs → ∀ v ∈ vs, w.Sound v) :
    Gives (typeParameters w h written) fun vs => ∀ v ∈ vs, w.Sound v := by
  unfold typeParameters
  extract_lets plain
  split
  · exact gives_error
  split
  · exact gives_ok.mpr fun _ h => (List.not_mem_nil h).elim
  · next vs _ =>
    have hvs := hwritten vs rfl
    extract_lets used
    rw [gives_bind]
    refine (gives_listedVariables hvs).mono fun o ho => ?_
    split
    · exact gives_ok.mpr (sound_variablesOfAll hvs)
    · next listed =>
      extract_lets missing
      split
      · exact gives_ok.mpr (ho listed rfl)
      · exact gives_error

theorem sound_writtenBases {replaced : Bool} (hxs : ∀ x ∈ xs, w.Sound x) {bases : List ClassRef}
    (hbases : ∀ c ∈ bases, w.Valid c) :
    ∀ v ∈ (if replaced then some xs else none).getD (bases.map Value.cls), w.Sound v := by
  split
  · exact hxs
  · intro v hv
    obtain ⟨c, hc, rfl⟩ := List.mem_map.mp hv
    exact World.sound_cls.mpr (hbases c hc)

theorem isBase_writtenBases {replaced : Bool} (hxs : ∀ x ∈ xs, x.IsBase)
    (bases : List ClassRef) :
    ∀ v ∈ (if replaced then some xs else none).getD (bases.map Value.cls), v.IsBase := by
  split
  · exact hxs
  · intro v hv
    obtain ⟨c, -, rfl⟩ := List.mem_map.mp hv
    exact .cls c

/-- A check that may be left out changes nothing about what is given. -/
theorem gives_check {α : Type} {c : Bool} {x : Except Fault Unit} {f : Unit → Except Fault α}
    {P : α → Prop}
    (hf : Gives (f ()) P) :
    Gives (if c then do let r ← x; f r else f ()) P :=
  gives_ite (fun _ => gives_bind.mpr fun _ _ => hf) fun _ => hf

theorem sound_written {replaced : Bool} (hxs : ∀ x ∈ xs, w.Sound x) :
    ∀ vs, (if replaced then some xs else none) = some vs → ∀ v ∈ vs, w.Sound v := by
  intro vs hvs
  split at hvs
  · cases hvs
    exact hxs
  · cases hvs

theorem gives_buildOrdinary (hh : SoundHeader w h) (hb : SoundBody w body) :
    Gives (buildOrdinary w h body) (SoundInfo w) := by
  have hbases := hh.effectiveBases
  unfold buildOrdinary
  extract_lets bases protocolBase written build
  refine gives_check ?_
  unfold build
  rw [gives_bind]
  intro order _
  extract_lets isProtocol finish
  have hfinish : ∀ vs, (∀ v ∈ vs, w.Sound v) → Gives (finish vs) (SoundInfo w) := by
    intro vs hvs
    refine gives_check (gives_check ?_)
    refine gives_ok.mpr ⟨⟨hbases, isBase_writtenBases hh.shapes _⟩, ?_,
      sound_writtenBases hh.written hbases, hvs, hb.annotations, ?_⟩
    · exact fun _ h => (List.not_mem_nil h).elim
    · intro a ha
      split at ha
      · exact hb.attributes a (List.mem_filter.mp ha).1
      · exact hb.attributes a ha
  split
  · rw [gives_bind]
    exact (gives_typeParameters (sound_written hh.written)).mono hfinish
  · rw [gives_bind]
    exact gives_ok.mpr (hfinish [] fun _ h => (List.not_mem_nil h).elim)

/-- Annotations that are checked one by one stay sound. -/
theorem gives_checkedAnnotations {use : String × Value → World.TypeUse}
    {annotations : List (String × Value)}
    (h : w.SoundNames annotations) :
    Gives (annotations.mapM fun a => do
      let v ← w.checkType (use a) a.2
      return (a.1, v)) w.SoundNames := by
  refine (gives_mapM fun a ha => ?_).mono fun vs hvs => hvs.2
  rw [gives_bind]
  exact (World.gives_checkType (h a ha)).mono fun v hv => gives_ok.mpr hv

theorem gives_buildNamedTuple (hh : SoundHeader w h) (hb : SoundBody w body) :
    Gives (buildNamedTuple w h body) (SoundInfo w) := by
  unfold buildNamedTuple
  extract_lets fits names isGeneric bases fields build
  have hbases : ∀ c ∈ bases, w.Valid c := by
    intro c hc
    obtain ⟨b, hb, rfl⟩ := List.mem_map.mp hc
    cases hclass : b.class? with
    | none => exact World.valid_library
    | some c => exact hh.entries b hb c hclass
  have hattributes : ∀ a ∈ fields ++ body.attributes.filter (fun a => !names.contains a.1),
      w.SoundAttribute a.2 := by
    intro a ha
    rcases List.mem_append.mp ha with ha | ha
    · obtain ⟨n, -, rfl⟩ := List.mem_map.mp ha
      exact World.sound_other
    · exact hb.attributes a (List.mem_filter.mp ha).1
  refine gives_check ?_
  unfold build
  rw [gives_bind]
  intro _ _
  rw [gives_bind]
  refine (gives_checkedAnnotations hb.annotations).mono fun annotations hannotations => ?_
  extract_lets make finish checkAttributes
  have hmake : ∀ vs, (∀ v ∈ vs, w.Sound v) → Gives (make vs) (SoundInfo w) := fun vs hvs =>
    gives_ok.mpr ⟨⟨hbases, hh.shapes⟩, fun _ h => (List.not_mem_nil h).elim, hh.written, hvs,
      hannotations, hattributes⟩
  have hfinish : Gives (finish ()) (SoundInfo w) := by
    unfold finish
    rw [gives_bind]
    intro _ _
    split
    · rw [gives_bind]
      exact (gives_typeParameters fun _ h => Option.some_inj.mp h ▸ hh.written).mono hmake
    · rw [gives_bind]
      exact gives_ok.mpr (hmake [] fun _ h => (List.not_mem_nil h).elim)
  split
  · exact gives_bind.mpr gives_error
  unfold checkAttributes
  split
  · exact gives_bind.mpr gives_error
  · exact hfinish

theorem soundNames_putPairs {base entries : List (String × Value)} (hb : w.SoundNames base)
    (he : w.SoundNames entries) : w.SoundNames (putPairs base entries) := by
  induction entries generalizing base with
  | nil => exact hb
  | cons e entries ih =>
    obtain ⟨he, hentries⟩ := List.forall_mem_cons.mp he
    exact ih (World.soundNames_putPair hb e.1 he) hentries

theorem gives_buildTypedDict (hw : w.Closed) (hh : SoundHeader w h) (hb : SoundBody w body) :
    Gives (buildTypedDict w h body) (SoundInfo w) := by
  unfold buildTypedDict
  extract_lets fits isGeneric bases written inherited finish build
  have hbases : ∀ c ∈ bases, w.Valid c := by
    intro c hc
    rcases List.mem_append.mp hc with hc | hc
    · split at hc
      · exact List.mem_singleton.mp hc ▸ World.valid_library
      · exact (List.not_mem_nil hc).elim
    · exact List.mem_singleton.mp hc ▸ World.valid_library
  have hinherited : w.SoundNames inherited := by
    refine List.foldlRecOn h.bases _ (fun _ h => (List.not_mem_nil h).elim) fun all hall c _ => ?_
    exact soundNames_putPairs hall (World.sound_annotationsOf hw c)
  have hfinish : ∀ vs, (∀ v ∈ vs, w.Sound v) → Gives (finish vs) (SoundInfo w) := by
    intro vs hvs
    unfold finish
    rw [gives_bind]
    refine (gives_checkedAnnotations hb.annotations).mono fun own hown => ?_
    exact gives_ok.mpr ⟨⟨hbases, isBase_writtenBases hh.shapes _⟩,
      fun _ h => (List.not_mem_nil h).elim, sound_writtenBases hh.written hbases, hvs,
      soundNames_putPairs hinherited hown, hb.attributes⟩
  refine gives_check ?_
  unfold build
  rw [gives_bind]
  intro order _
  split
  · rw [gives_bind]
    exact (gives_typeParameters (sound_written hh.written)).mono hfinish
  · rw [gives_bind]
    exact gives_ok.mpr (hfinish [] fun _ h => (List.not_mem_nil h).elim)

theorem gives_buildClass (hw : w.Closed) (hh : SoundHeader w h) (hb : SoundBody w body) :
    Gives (buildClass w h body) (SoundInfo w) := by
  unfold buildClass
  split
  · exact gives_buildNamedTuple hh hb
  split
  · exact gives_buildTypedDict hw hh hb
  · exact gives_buildOrdinary hh hb

theorem gives_makeDataClass {options : DataOptions} (hi : SoundInfo w info) :
    Gives (makeDataClass w options info) (SoundInfo w) := by
  unfold makeDataClass
  extract_lets above inherited
  split
  · exact gives_error
  split
  · exact gives_error
  rw [gives_bind]
  intro fields _
  extract_lets finish
  refine gives_check ?_
  refine gives_ok.mpr ⟨⟨hi.rooted.bases, hi.rooted.shapes⟩, hi.sound.ancestors,
    hi.sound.writtenBases, hi.sound.parameters, hi.sound.annotations, fun a ha => ?_⟩
  split at ha
  · rcases List.mem_append.mp ha with ha | ha
    · exact hi.sound.attributes a (List.mem_filter.mp ha).1
    · obtain ⟨n, -, rfl⟩ := List.mem_map.mp ha
      exact World.sound_other
  · exact hi.sound.attributes a ha

theorem valid_order (hw : w.Closed) {bases : List ClassRef} (hb : ∀ c ∈ bases, w.Valid c) :
    ∀ c ∈ (World.orderOf? bases (bases.map w.ancestorsOf)).getD [], w.Valid c := by
  intro c hc
  cases ho : World.orderOf? bases (bases.map w.ancestorsOf) with
  | none =>
    rw [ho] at hc
    exact (List.not_mem_nil hc).elim
  | some order =>
    rw [ho] at hc
    rcases World.mem_of_mem_orderOf ho hc with hmem | ⟨l, hl, hmem⟩
    · exact hb c hmem
    · obtain ⟨b, hbase, rfl⟩ := List.mem_map.mp hl
      exact World.valid_of_mem_ancestorsOf hw (hb b hbase) hmem

end TypeProjection.Definition
