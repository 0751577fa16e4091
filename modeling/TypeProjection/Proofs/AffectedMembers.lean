import TypeProjection.Proofs.AnnotationKeys
import TypeProjection.Proofs.DifferingNames
import TypeProjection.Proofs.LoadedWorlds
import TypeProjection.Proofs.MadeClasses

/-!
# What one annotation decides

A class lists a field or a property for each entry that shows one. Which entries are listed is read
off their texts, as long as a text says that it marks something else where its value does. So where
names change their meaning, the entry whose annotation meets them is listed as before and all other
members stay as they are; an annotation that cannot be resolved is of any type.
-/

namespace TypeProjection.Annotation

/-- What a class says of a possible member: an annotation, or what stands under a name. -/
inductive ClassEntry where
  | field (annotated : String × Value)
  | attribute (held : String × Attribute)

/-- The name that an entry is listed by, as far as its text says. -/
def ClassEntry.listed? : ClassEntry → Option String
  | .field a => if !World.isHidden a.1 && World.marksField a.2 then some a.1 else none
  | .attribute (n, .property (some _) _) => if World.isHidden n then none else some n
  | .attribute _ => none

namespace World

variable {w w' : World} {words : List String} {c : ClassRef} {e : ClassEntry} {v : Value}

/-- The entries of a class. -/
def entriesOf (w : World) (c : ClassRef) : List ClassEntry :=
  (w.annotationsOf c).map .field ++ (w.attributesOf c).map .attribute

/-- The member that an entry makes. -/
def entryMember (w : World) (c : ClassRef) : ClassEntry → Option (String × Value)
  | .field a => w.fieldMember (w.classNames c) (w.moduleOf c) a
  | .attribute a => (w.propertyType? a).map fun m => (m.1.1, w.describe m.1.2)

/-- What a property that can be read makes. -/
theorem entryMember_property {n : String} {g : Getter} {b : Bool} :
    w.entryMember c (.attribute (n, .property (some g) b)) =
      if isHidden n then none
      else some (n, w.describe (w.annotationType [] g.module (g.returns.getD Value.any)).1) := by
  unfold entryMember propertyType?
  dsimp only
  split <;> rfl

theorem typeMembers_eq_entries (hc : v.class? = some c) :
    w.typeMembers v = (w.entriesOf c).filterMap (w.entryMember c) := by
  rw [typeMembers_of_class hc, entriesOf, List.filterMap_append, List.filterMap_map,
    List.filterMap_map, List.map_filterMap]
  rfl

/-- The annotation of an entry, with the class names and the module that it is resolved among. -/
def annotationIn (w : World) (c : ClassRef) :
    ClassEntry → Option (List (String × Value) × String × Value)
  | .field a => some (w.classNames c, w.moduleOf c, a.2)
  | .attribute (_, .property (some g) _) => some ([], g.module, g.returns.getD Value.any)
  | .attribute _ => none

/-- The word is met when the annotation of an entry is resolved. -/
def EntryMeets (w : World) (c : ClassRef) (e : ClassEntry) (word : String) : Prop :=
  ∃ locals module v text, w.annotationIn c e = some (locals, module, v) ∧
    (v = .str text ∨ ∃ m f, v = .forward text m f) ∧
    w.MeetsWord ⟨locals, w.namesOf module⟩ text word

/-- The annotation of an entry cannot be resolved. -/
def Unresolved (w : World) (c : ClassRef) (e : ClassEntry) : Prop :=
  ∃ locals module v f, w.annotationIn c e = some (locals, module, v) ∧
    w.resolveAnnotation locals module v = .error f

/-- The annotation of a field that marks something else says so itself, without being resolved. -/
def ShowsMarks (w : World) (c : ClassRef) : ClassEntry → Prop
  | .field a => ∀ t, w.resolveAnnotation (w.classNames c) (w.moduleOf c) a.2 = .ok t →
      marksField a.2 = true → marksField t = true
  | .attribute _ => True

instance (w : World) (c : ClassRef) (e : ClassEntry) : Decidable (w.Unresolved c e) :=
  decidable_of_iff ((w.annotationIn c e).any (fun a =>
      (w.resolveAnnotation a.1 a.2.1 a.2.2).toOption.isNone) = true) <| by
    rw [Option.any_eq_true]
    constructor
    · rintro ⟨⟨locals, module, v⟩, hheld, hnone⟩
      dsimp only at hnone
      cases hr : w.resolveAnnotation locals module v with
      | ok t =>
        rw [hr] at hnone
        cases hnone
      | error f => exact ⟨locals, module, v, f, hheld, hr⟩
    · rintro ⟨locals, module, v, f, hheld, hr⟩
      exact ⟨_, hheld, by rw [hr]; rfl⟩

instance (w : World) (c : ClassRef) : DecidablePred (w.ShowsMarks c)
  | .field a =>
    decidable_of_iff ((w.resolveAnnotation (w.classNames c) (w.moduleOf c) a.2).toOption.all
        (fun t => !marksField a.2 || marksField t) = true) <| by
      simp only [ShowsMarks]
      cases w.resolveAnnotation (w.classNames c) (w.moduleOf c) a.2 with
      | error f => simp [Except.toOption]
      | ok t => cases marksField a.2 <;> simp [Except.toOption]
  | .attribute _ => inferInstanceAs (Decidable True)

/-! One entry. -/

theorem describe_any (w : World) : w.describe Value.any = Value.any := by
  rw [describe, unwrapFrom]
  rfl

/-- An annotation is resolved, or it is of any type. -/
theorem annotationType_cases (w : World) (locals : List (String × Value)) (module : String)
    (v : Value) : w.resolveAnnotation locals module v =
        .ok (w.annotationType locals module v).1 ∨
      (∃ f, w.resolveAnnotation locals module v = .error f) ∧
        (w.annotationType locals module v).1 = Value.any := by
  unfold annotationType
  cases w.resolveAnnotation locals module v with
  | ok t => exact .inl rfl
  | error f => exact .inr ⟨⟨f, rfl⟩, rfl⟩

/-- Which entries are listed is read off their texts. -/
theorem entryMember_name (h : w.ShowsMarks c e) :
    (w.entryMember c e).map (·.1) = e.listed? := by
  match e, h with
  | .field a, h =>
    have hmarks : marksField a.2 = true →
        marksField (w.annotationType (w.classNames c) (w.moduleOf c) a.2).1 = true := by
      intro ha
      rcases w.annotationType_cases (w.classNames c) (w.moduleOf c) a.2 with ht | ⟨-, ht⟩
      · exact h _ ht ha
      · rw [ht]
        rfl
    simp only [entryMember, fieldMember, ClassEntry.listed?]
    cases hhidden : isHidden a.1 with
    | true => rfl
    | false =>
      cases ha : marksField a.2 with
      | false => rfl
      | true => rw [hmarks ha]; rfl
  | .attribute (n, .property (some g) b), _ =>
    simp only [entryMember, propertyType?, ClassEntry.listed?]
    split <;> rfl
  | .attribute (n, .property none b), _ | .attribute (n, .value _), _
  | .attribute (n, .method _), _ => rfl

/-- What cannot be resolved is of any type. -/
theorem entryMember_unresolved (h : w.Unresolved c e) {m : String × Value}
    (hm : w.entryMember c e = some m) : m.2 = Value.any := by
  obtain ⟨locals, module, v, f, hheld, hf⟩ := h
  have htype : (w.annotationType locals module v).1 = Value.any := by
    rcases w.annotationType_cases locals module v with ht | ⟨-, ht⟩
    · rw [hf] at ht
      cases ht
    · exact ht
  match e, hheld with
  | .field a, hheld =>
    cases hheld
    simp only [entryMember, fieldMember, htype] at hm
    split at hm
    · cases hm
      exact w.describe_any
    · cases hm
  | .attribute (n, .property (some g) b), hheld =>
    cases hheld
    simp only [entryMember, propertyType?] at hm
    split at hm
    · cases hm
    · cases hm
      simp only [htype, describe_any]

section Differing

variable (h : w.DiffersAt words w') (hw : w.Closed) (hw' : w'.Closed)

include h hw hw'

/-- An annotation that meets none of the words is resolved alike. -/
theorem levels_resolveAnnotation {locals : List (String × Value)} {module : String}
    (hlocals : w.SoundNames locals) (hlocals' : w'.SoundNames locals)
    (hmeets : ∀ text, (v = .str text ∨ ∃ m f, v = .forward text m f) →
      ∀ word ∈ words, ¬ w.MeetsWord ⟨locals, w.namesOf module⟩ text word) :
    Levels (w.resolveAnnotation locals module v) (w'.resolveAnnotation locals module v) := by
  have hnames : NamesAlike words w w' ⟨locals, w.namesOf module⟩ ⟨locals, w'.namesOf module⟩ :=
    ⟨rfl, fun n hn => h.lookup_namesOf hn module, ⟨hlocals, sound_namesOf hw module⟩,
      ⟨hlocals', sound_namesOf hw' module⟩⟩
  unfold resolveAnnotation
  dsimp only
  split
  · exact levels_resolveText h hw hw' hnames (hmeets _ (.inl rfl))
  · exact levels_resolveText h hw hw' hnames (hmeets _ (.inr ⟨_, _, rfl⟩))
  · exact .refl _

theorem annotationType_of_levels {locals : List (String × Value)} {module : String}
    (hlocals : w.SoundNames locals) (hlocals' : w'.SoundNames locals)
    (hmeets : ∀ text, (v = .str text ∨ ∃ m f, v = .forward text m f) →
      ∀ word ∈ words, ¬ w.MeetsWord ⟨locals, w.namesOf module⟩ text word) :
    (w'.annotationType locals module v).1 = (w.annotationType locals module v).1 := by
  have hlevels := levels_resolveAnnotation h hw hw' hlocals hlocals' hmeets
  unfold annotationType
  cases hr : w.resolveAnnotation locals module v with
  | ok t => rw [hlevels.eq_ok hr]
  | error f =>
    cases hr' : w'.resolveAnnotation locals module v with
    | ok t =>
      rw [hr, hr'] at hlevels
      cases hlevels
    | error f' => rfl

/-- An entry whose annotation meets none of the words makes the same member. -/
theorem entryMember_of_unmet (hmeets : ∀ word ∈ words, ¬ w.EntryMeets c e word) :
    w'.entryMember c e = w.entryMember c e := by
  have htype : ∀ locals module v, w.annotationIn c e = some (locals, module, v) →
      w.SoundNames locals → w'.SoundNames locals →
      (w'.annotationType locals module v).1 = (w.annotationType locals module v).1 :=
    fun locals module v hheld hl hl' => annotationType_of_levels h hw hw' hl hl'
      fun text htext word hword hmeet =>
        hmeets word hword ⟨locals, module, v, text, hheld, htext, hmeet⟩
  rcases e with a | ⟨n, _ | ⟨_ | g, b⟩ | _⟩
  · have hsound := sound_classNames hw' c
    rw [h.classNames] at hsound
    have ht := htype _ _ _ rfl (sound_classNames hw c) hsound
    simp only [entryMember, fieldMember, h.classNames, h.moduleOf, h.describe, ht]
  · rfl
  · rfl
  · have hnil : ∀ u : World, u.SoundNames [] := fun _ _ hmem => (List.not_mem_nil hmem).elim
    have ht := htype _ _ _ rfl (hnil w) (hnil w')
    rw [entryMember_property, entryMember_property, h.describe, ht]
  · rfl

end Differing

/-! Names that are taken away. -/

/-- The world in which some names of a module are not bound. -/
def unbind (w : World) (module : String) (words : List String) : World :=
  w.changeModule module fun m => { m with names := m.names.filter fun a => !words.contains a.1 }

theorem closed_unbind (hw : w.Closed) (module : String) : (w.unbind module words).Closed :=
  (closed_changeModule hw module fun _ hm a ha => hm a (List.mem_filter.mp ha).1).1

theorem differsAt_unbind (w : World) (module : String) (words : List String) :
    w.DiffersAt words (w.unbind module words) := by
  unfold unbind changeModule
  split
  · next i _ =>
    refine ⟨rfl, ?_, ?_⟩
    · refine Array.ext (by simp) fun j _ _ => ?_
      simp only [Array.getElem_map, Array.getElem_modify]
      split <;> rfl
    · intro j m m' hm hm' n hn
      rw [Array.getElem?_modify, hm] at hm'
      split at hm'
      · cases hm'
        exact (Definition.lookup_filter (fun n => !words.contains n) m.names n).trans
          (if_pos (by simpa using hn))
      · cases hm'
        rfl
  · exact ⟨rfl, rfl, fun i m m' hm hm' n _ => by rw [hm] at hm'; cases hm'; rfl⟩

/-! Words that are not met, by evaluation. -/

/-- Does a text have none of the words, and a value without texts? -/
def isUnmetText (w : World) (names : Surroundings) (words : List String) (text : String) : Bool :=
  !words.contains text &&
    match Expr.ofText? text with
    | some e =>
      !(e.names ++ e.attributes).any words.contains &&
        [w.readText names text, w.evaluate names.scope e].all fun r =>
          match r with
          | .ok v => v.pendings.isEmpty
          | .error _ => true
    | none => false

theorem not_meetsWord {names : Surroundings} {text : String}
    (h : w.isUnmetText names words text = true) : ∀ word ∈ words, ¬ w.MeetsWord names text word := by
  unfold isUnmetText at h
  rw [Bool.and_eq_true, Bool.not_eq_true'] at h
  obtain ⟨htext, h⟩ := h
  split at h
  · next e he =>
    rw [Bool.and_eq_true, Bool.not_eq_true', List.any_eq_false, List.all_eq_true] at h
    obtain ⟨hwritten, hvalues⟩ := h
    have hempty : ∀ {r : Except Fault Value} {v : Value} {p : Pending},
        r ∈ [w.readText names text, w.evaluate names.scope e] → r = .ok v → p ∉ v.pendings := by
      rintro r v p hr rfl hp
      rw [List.isEmpty_iff.mp (hvalues _ hr)] at hp
      cases hp
    intro word hword hmeet
    cases hmeet with
    | alone => simp [hword] at htext
    | written hparsed hin =>
      cases hparsed.symm.trans he
      exact hwritten word (List.mem_append.mpr hin) (by simpa using hword)
    | within hv hp =>
      rcases hv with hv | ⟨e', hparsed, hv⟩
      · exact hempty (List.mem_cons_self ..) hv hp
      · cases hparsed.symm.trans he
        exact hempty (List.mem_cons_of_mem _ (List.mem_singleton_self _)) hv hp
  · cases h

/-- Does the annotation of an entry meet none of the words? -/
def isUnmet (w : World) (c : ClassRef) (words : List String) (e : ClassEntry) : Bool :=
  match w.annotationIn c e with
  | some (locals, module, .str text) => w.isUnmetText ⟨locals, w.namesOf module⟩ words text
  | some (locals, module, .forward text _ _) => w.isUnmetText ⟨locals, w.namesOf module⟩ words text
  | _ => true

theorem not_entryMeets (h : w.isUnmet c words e = true) :
    ∀ word ∈ words, ¬ w.EntryMeets c e word := by
  rintro word hword ⟨locals, module, v, text, hheld, htext, hmeet⟩
  unfold isUnmet at h
  rcases htext with rfl | ⟨m, f, rfl⟩
  · rw [hheld] at h
    exact not_meetsWord h word hword hmeet
  · rw [hheld] at h
    exact not_meetsWord h word hword hmeet

/-! All entries. -/

/-- Worlds may differ in the names that one annotation of a class meets. Its entry is then listed in
both or in neither; every other member stays in its place and of its type; and where the annotation
cannot be resolved, the member is of any type. -/
theorem members_apart_from_entry (h : w.DiffersAt words w') (hw : w.Closed) (hw' : w'.Closed)
    (hc : v.class? = some c) {before after : List ClassEntry}
    (hentries : w.entriesOf c = before ++ e :: after)
    (hothers : ∀ o ∈ before ++ after, ∀ word ∈ words, ¬ w.EntryMeets c o word)
    (hshow : w.ShowsMarks c e) (hshow' : w'.ShowsMarks c e) :
    (w'.typeMembers v).map (·.1) = (w.typeMembers v).map (·.1) ∧
    ∃ first last m m', w.typeMembers v = first ++ Option.toList m ++ last ∧
      w'.typeMembers v = first ++ Option.toList m' ++ last ∧ m'.map (·.1) = m.map (·.1) ∧
      (w.Unresolved c e → ∀ x ∈ m, x.2 = Value.any) ∧
      (w'.Unresolved c e → ∀ x ∈ m', x.2 = Value.any) := by
  have hsplit : ∀ u : World, u.entriesOf c = before ++ e :: after →
      u.typeMembers v = before.filterMap (u.entryMember c) ++ (u.entryMember c e).toList ++
        after.filterMap (u.entryMember c) := by
    intro u hu
    rw [typeMembers_eq_entries hc, hu, List.filterMap_append, List.filterMap_cons,
      List.append_assoc]
    cases u.entryMember c e <;> rfl
  have hentries' : w'.entriesOf c = before ++ e :: after := by
    rw [← hentries, entriesOf, entriesOf, h.annotationsOf, h.attributesOf]
  have hsame : ∀ os : List ClassEntry, (∀ o ∈ os, o ∈ before ++ after) →
      os.filterMap (w'.entryMember c) = os.filterMap (w.entryMember c) := fun os hos =>
    List.filterMap_congr fun o ho => entryMember_of_unmet h hw hw' (hothers o (hos o ho))
  have hmembers := hsplit w hentries
  have hmembers' := hsplit w' hentries'
  rw [hsame before fun o ho => List.mem_append_left _ ho,
    hsame after fun o ho => List.mem_append_right _ ho] at hmembers'
  have hname : (w'.entryMember c e).map (·.1) = (w.entryMember c e).map (·.1) := by
    rw [entryMember_name hshow, entryMember_name hshow']
  refine ⟨?_, _, _, _, _, hmembers, hmembers', hname, ?_, ?_⟩
  · have hlists : (w'.entryMember c e).toList.map (·.1) = (w.entryMember c e).toList.map (·.1) := by
      rw [← Option.toList_map, ← Option.toList_map, hname]
    rw [hmembers, hmembers', List.map_append, List.map_append, List.map_append, List.map_append,
      hlists]
  · exact fun hu x hx => entryMember_unresolved hu hx
  · exact fun hu x hx => entryMember_unresolved hu hx

/-- The module of a class whose postponed annotations all say numbers, but for that of one field. -/
def oneField (text : String) : Definition.Source :=
  ⟨true, [.alias "Missing" "int", .cls (.mk "C" [] [] "" [.field "x" text none,
    .field "y" "int" none, .property .plain "z" (some "int")])]⟩

/-- The world after the module. -/
def oneFieldWorld (text : String) : World :=
  (runAlone initial "models" (oneField text)).1

theorem loaded_oneFieldWorld (text : String) : (oneFieldWorld text).Loaded :=
  .alone "models" (oneField text) .initial

/-- The entry of the field, and those behind it. -/
def fieldEntry (text : String) : ClassEntry :=
  ((oneFieldWorld text).entriesOf (.declared 0)).headD (.field ("", .none))

def otherEntries (text : String) : List ClassEntry :=
  ((oneFieldWorld text).entriesOf (.declared 0)).tail

theorem entriesOf_oneFieldWorld {text : String}
    (h : ((oneFieldWorld text).entriesOf (.declared 0)).isEmpty = false) :
    (oneFieldWorld text).entriesOf (.declared 0) =
      [] ++ fieldEntry text :: otherEntries text := by
  unfold fieldEntry otherEntries
  cases he : (oneFieldWorld text).entriesOf (.declared 0) with
  | nil =>
    rw [he] at h
    cases h
  | cons e rest => rfl

theorem unmet_otherEntries {text : String} (h : (otherEntries text).all
      ((oneFieldWorld text).isUnmet (.declared 0) ["Missing"]) = true) :
    ∀ o ∈ [] ++ otherEntries text,
      ∀ word ∈ ["Missing"], ¬ (oneFieldWorld text).EntryMeets (.declared 0) o word := by
  intro o ho
  rw [List.nil_append] at ho
  exact not_entryMeets (List.all_eq_true.mp h o ho)

/-- The world with the name of the field's annotation taken away. -/
def unboundWorld (text : String) : World :=
  (oneFieldWorld text).unbind "models" ["Missing"]

theorem members_apart_from_entry_list :
    (oneFieldWorld "list[Missing]").DiffersAt ["Missing"] (unboundWorld "list[Missing]") ∧
    (oneFieldWorld "list[Missing]").Loaded ∧ (unboundWorld "list[Missing]").Closed ∧
    ¬ (oneFieldWorld "list[Missing]").Unresolved (.declared 0) (fieldEntry "list[Missing]") ∧
    (unboundWorld "list[Missing]").Unresolved (.declared 0) (fieldEntry "list[Missing]") ∧
    ((unboundWorld "list[Missing]").typeMembers (.cls (.declared 0))).map (·.1) =
      ((oneFieldWorld "list[Missing]").typeMembers (.cls (.declared 0))).map (·.1) := by
  have hloaded := loaded_oneFieldWorld "list[Missing]"
  have hclosed := closed_of_loaded hloaded
  have hclosed' : (unboundWorld "list[Missing]").Closed := closed_unbind hclosed "models"
  have hdiffers : (oneFieldWorld "list[Missing]").DiffersAt ["Missing"]
      (unboundWorld "list[Missing]") := differsAt_unbind _ _ _
  obtain ⟨hsome, hunmet, hresolved, hunresolved⟩ :
      ((oneFieldWorld "list[Missing]").entriesOf (.declared 0)).isEmpty = false ∧
      (otherEntries "list[Missing]").all
        ((oneFieldWorld "list[Missing]").isUnmet (.declared 0) ["Missing"]) = true ∧
      ¬ (oneFieldWorld "list[Missing]").Unresolved (.declared 0) (fieldEntry "list[Missing]") ∧
      (unboundWorld "list[Missing]").Unresolved (.declared 0) (fieldEntry "list[Missing]") := by
    decide +kernel
  have hentries := @entriesOf_oneFieldWorld "list[Missing]" hsome
  have hothers := @unmet_otherEntries "list[Missing]" hunmet
  have hmembers := members_apart_from_entry hdiffers hclosed hclosed' (Value.class?_cls _) hentries
    hothers (by decide +kernel) (by decide +kernel)
  exact ⟨hdiffers, hloaded, hclosed', hresolved, hunresolved, hmembers.1⟩

/-- A mark that its text writes in another way is one only where it is resolved. -/
theorem members_not_always_listed :
    ¬ ∀ (words : List String) (w w' : World) (v : Value) (c : ClassRef)
      (before after : List ClassEntry) (e : ClassEntry),
      w.Loaded → w'.Closed → w.DiffersAt words w' → v.class? = some c →
      w.entriesOf c = before ++ e :: after →
      (∀ o ∈ before ++ after, ∀ word ∈ words, ¬ w.EntryMeets c o word) →
      (w'.typeMembers v).map (·.1) = (w.typeMembers v).map (·.1) := by
  intro hall
  have hloaded := loaded_oneFieldWorld "t.ClassVar[Missing]"
  have hclosed' : (unboundWorld "t.ClassVar[Missing]").Closed :=
    closed_unbind (closed_of_loaded hloaded) "models"
  have hdiffers : (oneFieldWorld "t.ClassVar[Missing]").DiffersAt ["Missing"]
      (unboundWorld "t.ClassVar[Missing]") := differsAt_unbind _ _ _
  obtain ⟨hsome, hunmet, hnames, hnames'⟩ :
      ((oneFieldWorld "t.ClassVar[Missing]").entriesOf (.declared 0)).isEmpty = false ∧
      (otherEntries "t.ClassVar[Missing]").all
        ((oneFieldWorld "t.ClassVar[Missing]").isUnmet (.declared 0) ["Missing"]) = true ∧
      ((oneFieldWorld "t.ClassVar[Missing]").typeMembers (.cls (.declared 0))).map (·.1) =
        ["y", "z"] ∧
      ((unboundWorld "t.ClassVar[Missing]").typeMembers (.cls (.declared 0))).map (·.1) =
        ["x", "y", "z"] := by decide +kernel
  have hsame := hall ["Missing"] _ _ (.cls (.declared 0)) (.declared 0) [] _ _ hloaded hclosed'
    hdiffers (Value.class?_cls _) (entriesOf_oneFieldWorld hsome) (unmet_otherEntries hunmet)
  rw [hnames, hnames'] at hsame
  exact absurd hsame (by decide)

end World

end TypeProjection.Annotation
