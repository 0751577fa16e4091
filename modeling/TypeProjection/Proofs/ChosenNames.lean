import TypeProjection.Proofs.MirroredUniverses
import TypeProjection.Proofs.PairedWalks
import TypeProjection.Proofs.ReferenceGrammar
import TypeProjection.Proofs.Termination
import TypeProjection.Proofs.WordMaps

/-!
# Runs under a renamer

A renamer chooses the names of classes, interfaces, enumerations and parameters. References are
put together from these names and from words that are fixed: the keywords, those for arrays and
records, and the words of replacements. As long as no name is one of the fixed words, before or
after it is changed, the run with a renamer declares what the run without one declares, with every
name changed once. References are compared on the way, and different ones stay different.
-/

namespace TypeProjection

open Text (Reworded isWordText isGap)

variable {τ : Type}

/-! Words of references. -/

/-- The words that stand in references whatever the names are. -/
def Options.fixedWords (o : Options τ) : List String :=
  scalarWords ++ ["Array", "Record"] ++ o.overrides.flatMap fun p => Text.words p.2

/-- A word of a reference after the names are changed. -/
def Options.renameWord (o : Options τ) (w : String) : String :=
  if o.fixedWords.contains w then w else o.rename w

/-- A reference after the names in it are changed. -/
def Options.renameText (o : Options τ) (s : String) : String := Text.mapWords o.renameWord s

/-- The same options without the renamer. -/
def Options.plain (o : Options τ) : Options τ := { o with rename := id }

/-- The names of these types are identifiers, a renamer makes different identifiers of different
ones, and no name is a fixed word before or after it is changed. -/
structure Universe.Renamable (U : Universe τ) (K : τ → Prop) (o : Options τ) : Prop where
  identifier : ∀ t, K t → Text.isIdentifier (U.name t).toList = true
  unfixed : ∀ t, K t → U.name t ∉ o.fixedWords
  renamed : ∀ t, K t → o.rename (U.name t) ∉ o.fixedWords
  image : ∀ n : String, Text.isIdentifier n.toList = true →
    Text.isIdentifier (o.rename n).toList = true
  injective : ∀ m n : String, Text.isIdentifier m.toList = true →
    Text.isIdentifier n.toList = true → o.rename m = o.rename n → m = n

/-- The words of references to these types. -/
def Universe.IsWord (U : Universe τ) (K : τ → Prop) (o : Options τ) (w : String) : Prop :=
  w ∈ o.fixedWords ∨ ∃ t, K t ∧ w = U.name t

namespace Universe.Renamable

variable {U : Universe τ} {K : τ → Prop} {o : Options τ} {t : τ} {w : String}

theorem renameWord_fixed (h : w ∈ o.fixedWords) : o.renameWord w = w :=
  if_pos (List.contains_iff_mem.mpr h)

variable (hN : U.Renamable K o)

include hN

theorem renameWord_name (ht : K t) : o.renameWord (U.name t) = o.rename (U.name t) :=
  if_neg fun h => hN.unfixed t ht (List.contains_iff_mem.mp h)

theorem isWordText_name (ht : K t) : isWordText (U.name t) = true :=
  Text.isWordText_of_isIdentifier (hN.identifier t ht)

theorem isWordText_renamed (ht : K t) : isWordText (o.rename (U.name t)) = true :=
  Text.isWordText_of_isIdentifier (hN.image _ (hN.identifier t ht))

omit hN in
theorem isWordText_fixed (h : w ∈ o.fixedWords) : isWordText w = true := by
  have hwords : (scalarWords ++ ["Array", "Record"]).all isWordText = true := by decide
  rcases List.mem_append.mp h with h | h
  · exact List.all_eq_true.mp hwords w h
  · obtain ⟨p, -, hw⟩ := List.mem_flatMap.mp h
    exact Text.isWordText_of_mem_words hw

/-- Words become words. -/
theorem isWordText_renameWord (h : U.IsWord K o w) : isWordText (o.renameWord w) = true := by
  rcases h with h | ⟨t, ht, rfl⟩
  · rw [renameWord_fixed h]
    exact isWordText_fixed h
  · rw [hN.renameWord_name ht]
    exact hN.isWordText_renamed ht

/-- Different words become different words. -/
theorem eq_of_renameWord {v : String} (hv : U.IsWord K o v) (hw : U.IsWord K o w)
    (h : o.renameWord v = o.renameWord w) : v = w := by
  rcases hv with hv | ⟨t, ht, rfl⟩ <;> rcases hw with hw | ⟨u, hu, rfl⟩
  · rwa [renameWord_fixed hv, renameWord_fixed hw] at h
  · rw [renameWord_fixed hv, hN.renameWord_name hu] at h
    exact (hN.renamed u hu (h ▸ hv)).elim
  · rw [renameWord_fixed hw, hN.renameWord_name ht] at h
    exact (hN.renamed t ht (h ▸ hw)).elim
  · rw [hN.renameWord_name ht, hN.renameWord_name hu] at h
    exact hN.injective _ _ (hN.identifier t ht) (hN.identifier u hu) h

end Universe.Renamable

/-! Declarations in the two runs. -/

/-- A parameter in the form in which it is written: its name, what it extends, and whether it asks
for a constructor without parameters. -/
structure ParameterParts where
  name : String
  constraints : List String
  needsConstructor : Bool

/-- The parameter as it is written. -/
def ParameterParts.text (p : ParameterParts) : String :=
  let parts := p.constraints ++ (if p.needsConstructor then [Walk.constructorPart p.name] else [])
  if parts.isEmpty then p.name else p.name ++ " extends " ++ String.intercalate " & " parts

/-- The parameter after the names in it are changed. -/
def ParameterParts.renamed (o : Options τ) (p : ParameterParts) : ParameterParts :=
  ⟨o.rename p.name, p.constraints.map o.renameText, p.needsConstructor⟩

/-- The parts of a parameter with these references, as they are written. -/
def partsOf (name : String) (references : List String) (needsConstructor : Bool) :
    ParameterParts :=
  ⟨name, if 1 < references.length + needsConstructor.toNat then references.map Walk.groupUnion
    else references, needsConstructor⟩

/-- The parts of a parameter are its name, the references to its bounds and alternatives, and, on a
class, the part that asks for a constructor if the parameter does. -/
def ParameterParts.Of (U : Universe τ) (K : τ → Prop) (o : Options τ) (asInterface : Bool) (a : τ)
    (p : ParameterParts) : Prop :=
  ∃ bounds alternatives : List String, bounds.length ≤ (U.bounds a).length ∧
    alternatives.length = (U.alternatives a).length ∧
    (∀ s ∈ bounds ++ alternatives, ∀ w ∈ Text.words s, U.IsWord K o w) ∧
    p = partsOf (U.name a) (constraintReferences bounds alternatives)
      (U.needsConstructor a && !asInterface)

/-- The base that the options choose, unless a base is declared. It is no reference. -/
def Universe.chosenBase (U : Universe τ) (o : Options τ) (k : τ) : List String :=
  if (U.emittedBase o k).isSome then [] else (U.defaultBaseText o k).toList

/-- A declaration, finished or not, and the one of the same type under the name that is chosen. -/
structure TypeDeclaration.Called (U : Universe τ) (K : τ → Prop) (o : Options τ)
    (d d' : TypeDeclaration τ) : Prop where
  known : K d.source
  source : d'.source = d.source
  plainName : d.name = U.name d.source
  name : d'.name = o.rename d.name

/-- A declaration, and the same one after the names in it are changed. -/
structure TypeDeclaration.Renamed (U : Universe τ) (K : τ → Prop) (o : Options τ)
    (d d' : TypeDeclaration τ) : Prop extends TypeDeclaration.Called U K o d d' where
  kind : d'.kind = d.kind
  isAbstract : d'.isAbstract = d.isAbstract
  typeParameters : ∃ ps : List ParameterParts,
    List.Forall₂ (ParameterParts.Of U K o (U.isInterface d.source || o.interfacesOnly))
      (U.parameters d.source) ps ∧
    d.typeParameters = ps.map (·.text) ∧ d'.typeParameters = ps.map fun p => (p.renamed o).text
  bases : ∃ references : List String, d.bases = U.chosenBase o d.source ++ references ∧
    d'.bases = U.chosenBase o d.source ++ references.map o.renameText
  implements : d'.implements = d.implements.map o.renameText
  members : d'.members = d.members.map fun m => ⟨m.name, o.renameText m.reference⟩

/-- A declaration of an enumeration, and the same one after its name is changed. -/
structure EnumDeclaration.Renamed (U : Universe τ) (K : τ → Prop) (o : Options τ)
    (d d' : EnumDeclaration τ) : Prop where
  known : K d.source
  source : d'.source = d.source
  plainName : d.name = U.name d.source
  name : d'.name = o.rename d.name
  fields : d'.fields = d.fields

/-- What is reported after the names are changed. -/
def Event.renamed (f : String → String) : Event → Event
  | .declaredType kind name => .declaredType kind (f name)
  | .declaredEnum name => .declaredEnum (f name)
  | e => e

/-- The registry of a run without a renamer, and that of the run with it: the same declarations in
the same order, with every name changed. -/
structure Registry.Renamed (U : Universe τ) (K : τ → Prop) (o : Options τ) (r r' : Registry τ) :
    Prop where
  plainOptions : r.options = o.plain
  options : r'.options = o
  types : List.Forall₂ (TypeDeclaration.Renamed U K o) r.types r'.types
  enums : List.Forall₂ (EnumDeclaration.Renamed U K o) r.enums r'.enums
  inProgress : List.Forall₂ (TypeDeclaration.Called U K o) r.inProgress r'.inProgress
  events : r'.events = r.events.map (Event.renamed o.rename)

/-- A reference, and the same one after the names in it are changed. -/
abbrev Universe.Rewords (U : Universe τ) (K : τ → Prop) (o : Options τ) : String → String → Prop :=
  Reworded o.renameWord (U.IsWord K o)

/-- The name of a type, and the name after it is changed. -/
def Universe.Names (U : Universe τ) (K : τ → Prop) (o : Options τ) (s s' : String) : Prop :=
  ∃ t, K t ∧ s = U.name t ∧ s' = o.rename (U.name t)

/-- What building a type gives: nothing if it is skipped, or two declarations of one name. -/
inductive Universe.Built (U : Universe τ) (K : τ → Prop) (o : Options τ) (t : τ) {δ : Type}
    (name : δ → String) : Option δ → Option δ → Prop
  | skipped : U.skipped o t = true → Built U K o t name none none
  | made {d d' : δ} : U.skipped o t = false → U.Names K o (name d) (name d') →
      Built U K o t name (some d) (some d')

section Runs

variable {U : Universe τ} {K : τ → Prop} {o : Options τ} {t : τ} {r r' : Registry τ}

/-! References. -/

section References

theorem rewords_fixed {w : String} (h : w ∈ o.fixedWords) : U.Rewords K o w w := by
  have hword := Text.reworded_word (f := o.renameWord) (N := U.IsWord K o)
    (Universe.Renamable.isWordText_fixed h) (.inl h)
  rwa [Universe.Renamable.renameWord_fixed h] at hword

theorem mem_fixedWords {w : String} (h : w ∈ scalarWords ++ ["Array", "Record"]) :
    w ∈ o.fixedWords := List.mem_append_left _ h

theorem rewords_scalar {w : String} (h : w ∈ scalarWords) : U.Rewords K o w w :=
  rewords_fixed (mem_fixedWords (List.mem_append_left _ h))

theorem rewords_fallback : U.Rewords K o fallbackReference fallbackReference :=
  rewords_scalar (reference_mem_scalarWords .any false)

theorem mapWords_eq_self {f : String → String} {s : String} (h : ∀ w ∈ Text.words s, f w = w) :
    Text.mapWords f s = s := by
  have hkeep : (Text.segments s).map (Text.Segment.map f) = Text.segments s := by
    refine (List.map_congr_left fun p hp => ?_).trans (List.map_id _)
    cases p with
    | word w => exact congrArg Text.Segment.word (h w (Text.mem_words.mpr hp))
    | gap c => rfl
  rw [Text.mapWords, hkeep, Text.joined_segments]

/-- A replacement stays as it is. -/
theorem rewords_override {name reference : String}
    (h : o.overrides.lookup name = some reference) : U.Rewords K o reference reference := by
  have hfixed : ∀ w ∈ Text.words reference, w ∈ o.fixedWords := fun w hw =>
    List.mem_append_right _ (List.mem_flatMap.mpr ⟨_, mem_of_lookup h, hw⟩)
  exact ⟨(mapWords_eq_self fun w hw => Universe.Renamable.renameWord_fixed (hfixed w hw)).symm,
    fun w hw => .inl (hfixed w hw)⟩

theorem rewords_array {s s' : String} (h : U.Rewords K o s s') :
    U.Rewords K o ("Array<" ++ s ++ ">") ("Array<" ++ s' ++ ">") := by
  have harray : U.Rewords K o "Array" "Array" := rewords_fixed (mem_fixedWords (by decide))
  have hopen : isGap "<" = true := by decide
  have hclose : isGap ">" = true := by decide +kernel
  have happlied := (harray.separated hopen h).closed hclose
  rwa [show "Array" ++ "<" = "Array<" from rfl] at happlied

theorem rewords_record {key key' s s' : String} (hkey : U.Rewords K o key key')
    (h : U.Rewords K o s s') :
    U.Rewords K o ("Record<" ++ key ++ ", " ++ s ++ ">") ("Record<" ++ key' ++ ", " ++ s' ++ ">") := by
  have hrecord : U.Rewords K o "Record" "Record" := rewords_fixed (mem_fixedWords (by decide))
  have hopen : isGap "<" = true := by decide
  have hcomma : isGap ", " = true := by decide
  have hclose : isGap ">" = true := by decide
  have happlied := ((hrecord.separated hopen hkey).separated hcomma h).closed hclose
  rwa [show "Record" ++ "<" = "Record<" from rfl] at happlied

theorem rewords_tuple {xs ys : List String} (h : List.Forall₂ (U.Rewords K o) xs ys) :
    U.Rewords K o ("[" ++ String.intercalate ", " xs ++ "]")
      ("[" ++ String.intercalate ", " ys ++ "]") :=
  ((Reworded.intercalate (by decide) h).opened (by decide)).closed
    (by decide)

theorem rewords_applied {name name' : String} {xs ys : List String}
    (hname : U.Rewords K o name name') (h : List.Forall₂ (U.Rewords K o) xs ys) :
    U.Rewords K o (name ++ "<" ++ String.intercalate ", " xs ++ ">")
      (name' ++ "<" ++ String.intercalate ", " ys ++ ">") :=
  (hname.separated (by decide) (Reworded.intercalate (by decide) h)).closed
    (by decide)

variable (hN : U.Renamable K o)

include hN

theorem Universe.Names.rewords {s s' : String} (h : U.Names K o s s') : U.Rewords K o s s' := by
  obtain ⟨t, ht, rfl, rfl⟩ := h
  rw [← hN.renameWord_name ht]
  exact Text.reworded_word (hN.isWordText_name ht) (.inr ⟨t, ht, rfl⟩)

theorem sameKeys_rewords : SameKeys (U.Rewords K o) := fun ha hb =>
  ha.beq (fun _ h => hN.isWordText_renameWord h) (fun _ _ hv hw => hN.eq_of_renameWord hv hw) hb

theorem rewords_unionText {xs ys : List String} (h : List.Forall₂ (U.Rewords K o) xs ys) :
    U.Rewords K o (Walk.unionText xs) (Walk.unionText ys) :=
  Reworded.intercalate (by decide) (distinct_of_forall₂ (sameKeys_rewords hN) h)

theorem rewords_recordKey {s s' : String} (h : U.Rewords K o s s') :
    U.Rewords K o (Walk.recordKey s) (Walk.recordKey s') := by
  have hstring : U.Rewords K o "string" "string" := rewords_scalar (by decide)
  have hnumber : U.Rewords K o "number" "number" := rewords_scalar (by decide)
  unfold Walk.recordKey
  rw [sameKeys_rewords hN h hstring, sameKeys_rewords hN h hnumber]
  split
  · exact h
  · exact hstring

theorem rewords_groupUnion {s s' : String} (h : U.Rewords K o s s') :
    U.Rewords K o (Walk.groupUnion s) (Walk.groupUnion s') := by
  have hbar : isGap " | " = true := by decide
  unfold Walk.groupUnion
  rw [h.contains (fun _ hw => hN.isWordText_renameWord hw) hbar]
  split
  · exact (h.opened (by decide)).closed (by decide)
  · exact h

end References

/-! Parameters. -/

/-- The part that asks for a constructor holds no union. -/
theorem groupUnion_constructorPart {name : String} (h : isWordText name = true) :
    Walk.groupUnion (Walk.constructorPart name) = Walk.constructorPart name := by
  refine if_neg fun hc => ?_
  obtain ⟨a, b, hab⟩ := Text.contains_iff.mp hc
  have hmem : '|' ∈ (Walk.constructorPart name).toList := by
    rw [hab, String.toList_append, String.toList_append]
    exact List.mem_append_left _ (List.mem_append_right _ (by decide))
  rw [Walk.constructorPart, String.toList_append, String.toList_append, List.mem_append,
    List.mem_append] at hmem
  rcases hmem with (hmem | hmem) | hmem
  · exact absurd hmem (by decide)
  · have hpart := List.all_eq_true.mp (Bool.and_eq_true_iff.mp h).2 _ hmem
    exact absurd hpart (by decide)
  · exact absurd hmem (by decide)

theorem text_partsOf {name : String} (h : isWordText name = true) (references : List String)
    (needsConstructor : Bool) :
    (partsOf name references needsConstructor).text =
      (let parts := references ++ (if needsConstructor then [Walk.constructorPart name] else [])
      if parts.isEmpty then name else name ++ " extends " ++ Walk.constraintText parts) := by
  have hlength : (references ++ (if needsConstructor then [Walk.constructorPart name] else [])).length
      = references.length + needsConstructor.toNat := by
    cases needsConstructor <;> simp
  unfold ParameterParts.text partsOf Walk.constraintText
  dsimp only
  rw [hlength]
  by_cases hmany : 1 < references.length + needsConstructor.toNat
  · rw [if_pos hmany, if_pos hmany, List.map_append]
    cases needsConstructor with
    | true => simp [groupUnion_constructorPart h]
    | false => simp
  · rw [if_neg hmany, if_neg hmany]

theorem map_renameText {xs ys : List String} (h : List.Forall₂ (U.Rewords K o) xs ys) :
    xs.map o.renameText = ys := by
  induction h with
  | nil => rfl
  | cons h _ ih =>
    rw [List.map_cons, ih, h.eq]
    rfl

theorem renamed_partsOf (hN : U.Renamable K o) {name : String} {xs ys : List String}
    (h : List.Forall₂ (U.Rewords K o) xs ys) (needsConstructor : Bool) :
    (partsOf name xs needsConstructor).renamed o =
      partsOf (o.rename name) ys needsConstructor := by
  unfold partsOf ParameterParts.renamed
  rw [h.length_eq]
  split
  · rw [map_renameText (List.rel_map (fun _ _ h => rewords_groupUnion hN h) h)]
  · rw [map_renameText h]

/-! Registries. -/

theorem TypeDeclaration.Called.names {d d' : TypeDeclaration τ} (h : d.Called U K o d') :
    U.Names K o d.name d'.name :=
  ⟨d.source, h.known, h.plainName, by rw [h.name, h.plainName]⟩

namespace Registry.Renamed

variable (hr : r.Renamed U K o r')

include hr

theorem report (e : Event) : (r.report e).Renamed U K o (r'.report (e.renamed o.rename)) :=
  { hr with
    events := by
      change r'.events ++ _ = (r.events ++ [e]).map _
      rw [hr.events, List.map_append, List.map_singleton] }

variable [BEq τ]

/-- A declaration is found in both registries or in neither, and under one name. -/
theorem findType (t : τ) : Option.Rel (fun d d' => U.Names K o d.name d'.name) (r.findType t)
    (r'.findType t) := by
  have htypes : Option.Rel (TypeDeclaration.Renamed U K o) (Registry.lookupType t r.types)
      (Registry.lookupType t r'.types) :=
    find?_of_forall₂ hr.types fun d d' hd => by rw [hd.source]
  have hprogress : Option.Rel (TypeDeclaration.Called U K o) (Registry.lookupType t r.inProgress)
      (Registry.lookupType t r'.inProgress) :=
    find?_of_forall₂ hr.inProgress fun d d' hd => by rw [hd.source]
  unfold Registry.findType
  generalize Registry.lookupType t r.types = x at htypes
  generalize Registry.lookupType t r'.types = y at htypes
  cases htypes with
  | some h => exact .some (h.names)
  | none =>
    generalize Registry.lookupType t r.inProgress = x at hprogress
    generalize Registry.lookupType t r'.inProgress = y at hprogress
    cases hprogress with
    | none => exact .none
    | some h => exact .some (h.names)

theorem findEnum (t : τ) :
    Option.Rel (EnumDeclaration.Renamed U K o) (r.findEnum t) (r'.findEnum t) :=
  find?_of_forall₂ hr.enums fun d d' hd => by rw [hd.source]

omit hr in
theorem putType_of_forall₂ {R : TypeDeclaration τ → TypeDeclaration τ → Prop}
    (hsource : ∀ d d', R d d' → d'.source = d.source) {d d' : TypeDeclaration τ} (hd : R d d')
    {ds ds' : List (TypeDeclaration τ)} (h : List.Forall₂ R ds ds') :
    List.Forall₂ R (Registry.putType d ds) (Registry.putType d' ds') := by
  induction h with
  | nil => exact .cons hd .nil
  | cons he hrest ih =>
    rw [Registry.putType, Registry.putType, hsource _ _ he, hsource _ _ hd]
    split
    · exact .cons hd hrest
    · exact .cons he ih

theorem claimType {d d' : TypeDeclaration τ} (hd : d.Called U K o d') :
    (r.claimType d).Renamed U K o (r'.claimType d') :=
  { hr with inProgress := putType_of_forall₂ (fun _ _ he => he.source) hd hr.inProgress }

theorem registerType {d d' : TypeDeclaration τ} (hd : d.Renamed U K o d') :
    (r.registerType d).Renamed U K o (r'.registerType d') :=
  { hr with
    inProgress := filter_of_forall₂ hr.inProgress fun e e' he => by rw [he.source, hd.source]
    types := putType_of_forall₂ (fun _ _ he => he.source) hd hr.types }

theorem registerEnum {d d' : EnumDeclaration τ} (hd : d.Renamed U K o d') :
    (r.registerEnum d).Renamed U K o (r'.registerEnum d') := by
  have hput : ∀ {ds ds'}, List.Forall₂ (EnumDeclaration.Renamed U K o) ds ds' →
      List.Forall₂ (EnumDeclaration.Renamed U K o) (Registry.putEnum d ds)
        (Registry.putEnum d' ds') := by
    intro ds ds' h
    induction h with
    | nil => exact .cons hd .nil
    | cons he hrest ih =>
      rw [Registry.putEnum, Registry.putEnum, he.source, hd.source]
      split
      · exact .cons hd hrest
      · exact .cons he ih
  exact { hr with enums := hput hr.enums }

theorem setMembers (t : τ) {ms ms' : List MemberDeclaration}
    (hms : ms' = ms.map fun m => ⟨m.name, o.renameText m.reference⟩) :
    (r.setMembers t ms).Renamed U K o (r'.setMembers t ms') := by
  refine { hr with types := map_of_forall₂ hr.types fun d d' hd => ?_ }
  rw [hd.source]
  split
  · exact { hd with source := rfl, members := hms }
  · exact hd

end Registry.Renamed

/-! Steps. -/

/-- What the calls give in the two runs. -/
structure Calls.Renamed (U : Universe τ) (K : τ → Prop) (o : Options τ) (c : Calls τ) : Prop where
  resolve : ∀ t, K t →
    Walk.Paired (Registry.Renamed U K o) (U.Rewords K o) (c.resolve t) (c.resolve t)
  build : ∀ t, K t → Walk.Paired (Registry.Renamed U K o) (U.Built K o t TypeDeclaration.name)
    (c.build t) (c.build t)

namespace Walk

theorem paired_report (e : Event) : Paired (Registry.Renamed U K o) (fun _ _ => True) (report e)
    (report (e.renamed o.rename)) :=
  paired_modify fun _ _ hr => hr.report e

theorem paired_reportNotes (notes : List String) :
    Paired (Registry.Renamed U K o) (fun _ _ => True) (reportNotes notes) (reportNotes notes) :=
  paired_forM fun n _ => paired_report (.unresolved n)

theorem paired_isSkipped (t : τ) : Paired (Registry.Renamed U K o)
    (fun a b => a = U.skipped o t ∧ b = U.skipped o t) (isSkipped U t) (isSkipped U t) :=
  paired_get.bind fun _ _ hr => paired_pure ⟨by rw [hr.plainOptions]; rfl, by rw [hr.options]; rfl⟩

theorem paired_renamed (t : τ) : Paired (Registry.Renamed U K o)
    (fun a b => a = U.name t ∧ b = o.rename (U.name t)) (renamed (U.name t)) (renamed (U.name t)) :=
  paired_get.bind fun _ _ hr => paired_pure ⟨by rw [hr.plainOptions]; rfl, by rw [hr.options]⟩

variable [BEq τ]

theorem paired_buildEnum (ht : K t) : Paired (Registry.Renamed U K o)
    (U.Built K o t EnumDeclaration.name) (buildEnum U t) (buildEnum U t) := by
  unfold buildEnum
  refine (paired_isSkipped t).bind fun _ _ h => ?_
  obtain ⟨rfl, rfl⟩ := h
  refine paired_ite (fun hskip => ?_) fun hskip => ?_
  · exact (paired_report (.skippedEnum _)).bind fun _ _ _ => paired_pure (.skipped hskip)
  rw [Bool.not_eq_true] at hskip
  refine paired_get.bind fun r r' hr => ?_
  have hfind := hr.findEnum t
  generalize r.findEnum t = x at hfind
  generalize r'.findEnum t = y at hfind
  cases hfind with
  | some hd =>
    exact paired_pure (.made hskip ⟨_, hd.known, hd.plainName, by rw [hd.name, hd.plainName]⟩)
  | none =>
    refine (paired_renamed t).bind fun _ _ h => ?_
    obtain ⟨rfl, rfl⟩ := h
    have hd : EnumDeclaration.Renamed U K o ⟨t, U.name t, enumFields (U.enumMembers t)⟩
      ⟨t, o.rename (U.name t), enumFields (U.enumMembers t)⟩ := ⟨ht, rfl, rfl, rfl, rfl⟩
    refine (paired_modify fun _ _ hr => hr.registerEnum hd).bind fun _ _ _ => ?_
    exact (paired_report (.declaredEnum _)).bind fun _ _ _ =>
      paired_pure (.made hskip ⟨t, ht, rfl, rfl⟩)

section Calls

variable (hK : U.Closes K) (hN : U.Renamable K o) {c : Calls τ} (hc : c.Renamed U K o)

include hK hN hc

omit [BEq τ] in
theorem paired_structureReference (ht : K t) : Paired (Registry.Renamed U K o) (U.Rewords K o)
    (structureReference U c t) (structureReference U c t) := by
  unfold structureReference
  refine (hc.build t ht).bind fun _ _ h => ?_
  cases h with
  | skipped => exact paired_pure rewords_fallback
  | made _ hname =>
    have hname := hname.rewords hN
    refine paired_ite (fun _ => ?_) fun _ => paired_ite (fun _ => ?_) fun _ => paired_pure hname
    · exact (paired_mapM fun a ha => hc.resolve a (hK.arguments t ht a ha)).bind
        fun _ _ h => paired_pure (rewords_applied hname h.1)
    · refine paired_pure (rewords_applied hname ?_)
      exact List.rel_map (fun _ _ _ => rewords_fallback) (List.forall₂_eq_eq_eq ▸ rfl)

/-- The reference to a type, in the order of the questions. -/
theorem paired_resolveStep (ht : K t) : Paired (Registry.Renamed U K o) (U.Rewords K o)
    (resolveStep U c t) (resolveStep U c t) := by
  intro r r' hr
  rw [resolveStep_eq, resolveStep_eq, hr.plainOptions, hr.options]
  change Option.Rel _ (resolveShape U c t (U.shape o t) r) _
  revert r r' hr
  change Paired _ _ (resolveShape U c t (U.shape o t)) (resolveShape U c t (U.shape o t))
  have hfits := U.shape_fits o t
  have hanswers := U.shape_answers o t
  cases hs : U.shape o t with
  | parameter =>
    refine (paired_renamed t).mono fun _ _ h => ?_
    exact Universe.Names.rewords hN ⟨t, ht, h.1, h.2⟩
  | enumeration =>
    refine (paired_buildEnum ht).bind fun _ _ h => ?_
    cases h with
    | skipped => exact paired_pure rewords_fallback
    | made _ hname => exact paired_pure (hname.rewords hN)
  | overridden s =>
    rw [hs] at hanswers
    exact paired_pure (rewords_override hanswers)
  | scalar kind =>
    refine paired_get.bind fun _ _ hr => paired_pure ?_
    rw [hr.plainOptions, hr.options]
    exact rewords_scalar (reference_mem_scalarWords kind o.dates)
  | union ts =>
    rw [hs] at hfits
    have hts : ∀ u ∈ ts, K u := fun u hu => hK.part t ht u (.member (hfits ▸ hu))
    exact (paired_mapM fun u hu => hc.resolve u (hts u hu)).bind fun _ _ h =>
      paired_pure (rewords_unionText hN h.1)
  | sequence e =>
    rw [hs] at hfits
    exact (hc.resolve e (hK.part t ht e (.element hfits))).bind fun _ _ h =>
      paired_pure (rewords_array h)
  | mapping k v =>
    rw [hs] at hfits
    refine (hc.resolve k (hK.part t ht k (.key hfits))).bind fun _ _ hkey => ?_
    refine (hc.resolve v (hK.part t ht v (.value hfits))).bind fun _ _ hvalue => ?_
    exact paired_pure (rewords_record (rewords_recordKey hN hkey) hvalue)
  | tuple ts =>
    rw [hs] at hfits
    have hts : ∀ u ∈ ts, K u := fun u hu => hK.part t ht u (.item hfits hu)
    exact (paired_mapM fun u hu => hc.resolve u (hts u hu)).bind fun _ _ h =>
      paired_pure (rewords_tuple h.1)
  | declared => exact paired_structureReference hK hN hc ht
  | unknown => exact paired_pure rewords_fallback

/-- The reference to the base, or the base that the options choose. -/
inductive BaseRenamed (U : Universe τ) (K : τ → Prop) (o : Options τ) (k : τ) :
    Option String × Option τ → Option String × Option τ → Prop
  | declared {b : τ} {s s' : String} : U.emittedBase o k = some b → U.Rewords K o s s' →
      BaseRenamed U K o k (some s, some b) (some s', some b)
  | chosen : U.emittedBase o k = none →
      BaseRenamed U K o k (U.defaultBaseText o k, none) (U.defaultBaseText o k, none)

omit [BEq τ] hN in
theorem paired_baseReference {k : τ} (hk : K k) : Paired (Registry.Renamed U K o)
    (BaseRenamed U K o k) (baseReference U c k) (baseReference U c k) := by
  unfold baseReference
  extract_lets fromDefault
  have hdefault : U.emittedBase o k = none →
      Paired (Registry.Renamed U K o) (BaseRenamed U K o k) fromDefault fromDefault := by
    intro hnone
    have hchosen := BaseRenamed.chosen (K := K) hnone
    unfold Universe.defaultBaseText at hchosen
    refine paired_get.bind fun r r' hr => ?_
    have hplain : o.plain.defaultBase = o.defaultBase := rfl
    rw [hr.plainOptions, hr.options, hplain]
    cases hd : o.defaultBase with
    | none =>
      rw [hd] at hchosen
      exact paired_pure hchosen
    | some choose =>
      rw [hd] at hchosen
      dsimp only at hchosen ⊢
      split
      · rw [if_pos ‹_›] at hchosen
        exact paired_pure hchosen
      · rw [if_neg ‹_›] at hchosen
        exact paired_pure hchosen
  cases hb : U.base k with
  | none => exact hdefault (by rw [Universe.emittedBase, hb, Option.filter_none])
  | some b =>
    have hbase : U.emittedBase o k = if U.emitted o b then some b else none := by
      rw [Universe.emittedBase, hb, Option.filter_some]
    refine paired_ite (fun hs => ?_) fun hs => hdefault ?_
    · refine (hc.build b (hK.base k hk b hb)).bind fun _ _ h => ?_
      cases h with
      | skipped hskip =>
        refine hdefault (hbase.trans (if_neg ?_))
        rw [Universe.emitted, hskip, Bool.not_true, Bool.and_false]
        exact Bool.false_ne_true
      | made hskip _ =>
        have hemitted : U.emittedBase o k = some b := by
          rw [hbase, Universe.emitted, hs, hskip]
          rfl
        exact (hc.resolve b (hK.base k hk b hb)).bind fun _ _ h =>
          paired_pure (.declared hemitted h)
    · refine hbase.trans (if_neg ?_)
      rw [Universe.emitted, Bool.eq_false_iff.mpr hs, Bool.false_and]
      exact Bool.false_ne_true

omit hK hN in
theorem paired_interfaceReferencesFrom {implied listed ts : List τ} (hts : ∀ t ∈ ts, K t) :
    Paired (Registry.Renamed U K o) (List.Forall₂ (U.Rewords K o))
      (interfaceReferencesFrom U c implied listed ts)
      (interfaceReferencesFrom U c implied listed ts) := by
  induction ts generalizing listed with
  | nil => exact paired_pure .nil
  | cons t ts ih =>
    have hrest : ∀ listed, Paired (Registry.Renamed U K o) (List.Forall₂ (U.Rewords K o))
        (interfaceReferencesFrom U c implied listed ts)
        (interfaceReferencesFrom U c implied listed ts) :=
      fun listed => ih fun u hu => hts u (List.mem_cons_of_mem _ hu)
    have ht := hts t (List.mem_cons_self ..)
    unfold interfaceReferencesFrom
    refine paired_ite (fun _ => hrest _) fun _ => paired_ite (fun _ => hrest _) fun _ => ?_
    refine (hc.build t ht).bind fun _ _ h => ?_
    cases h with
    | skipped => exact hrest _
    | made =>
      exact (hc.resolve t ht).bind fun _ _ h => (hrest _).bind fun _ _ hs => paired_pure (.cons h hs)

omit hN in
theorem paired_interfaceReferences {k : τ} (hk : K k) (base : Option τ) :
    Paired (Registry.Renamed U K o) (List.Forall₂ (U.Rewords K o))
      (interfaceReferences U c k base) (interfaceReferences U c k base) :=
  (paired_implied U (U.interfaces k) base).bind fun _ _ h =>
    h ▸ paired_interfaceReferencesFrom hc (hK.interfaces k hk)

omit [BEq τ] hK in
/-- A bound that refers to anything is left out in both runs. -/
theorem paired_boundReferences {bs : List τ} (hbs : ∀ b ∈ bs, K b) :
    Paired (Registry.Renamed U K o)
      (fun xs ys => List.Forall₂ (U.Rewords K o) xs ys ∧ xs.length ≤ bs.length)
      (boundReferences U c bs) (boundReferences U c bs) := by
  induction bs with
  | nil => exact paired_pure ⟨.nil, Nat.le_refl 0⟩
  | cons b bs ih =>
    have hb := hbs b (List.mem_cons_self ..)
    have hrest := ih fun u hu => hbs u (List.mem_cons_of_mem _ hu)
    unfold boundReferences
    extract_lets keep
    have hkeep : ∀ kept, Paired (Registry.Renamed U K o)
        (fun xs ys => List.Forall₂ (U.Rewords K o) xs ys ∧ xs.length ≤ (b :: bs).length)
        (keep kept) (keep kept) := by
      intro kept
      refine paired_ite (fun _ => ?_) fun _ =>
        hrest.mono fun _ _ h => ⟨h.1, Nat.le_succ_of_le h.2⟩
      refine (hc.resolve b hb).bind fun s s' h => hrest.bind fun _ _ hs => ?_
      obtain ⟨hs, hlength⟩ := hs
      rw [sameKeys_rewords hN h rewords_fallback]
      split
      · exact paired_pure ⟨hs, Nat.le_succ_of_le hlength⟩
      · exact paired_pure ⟨.cons h hs, Nat.succ_le_succ hlength⟩
    refine paired_ite (fun _ => ?_) fun _ => hkeep true
    refine Paired.bind (Q := Eq) ((hc.build b hb).bind fun _ _ h => ?_) fun kept _ h => h ▸ hkeep kept
    cases h <;> exact paired_pure rfl

omit [BEq τ] in
theorem paired_typeParameter (asInterface : Bool) (ht : K t) : Paired (Registry.Renamed U K o)
    (fun x y => ∃ p : ParameterParts, p.Of U K o asInterface t ∧ x = p.text ∧
      y = (p.renamed o).text)
    (typeParameter U c asInterface t) (typeParameter U c asInterface t) := by
  unfold typeParameter
  refine (paired_renamed t).bind fun _ _ h => ?_
  obtain ⟨rfl, rfl⟩ := h
  refine (paired_reportNotes _).bind fun _ _ _ => ?_
  refine (paired_boundReferences hN hc (hK.bounds t ht)).bind fun bounds bounds' hbounds => ?_
  refine (paired_reportNotes _).bind fun _ _ _ => ?_
  refine (paired_mapM fun a ha => hc.resolve a (hK.alternatives t ht a ha)).bind
    fun alternatives alternatives' halternatives => ?_
  obtain ⟨hbounds, hfewer⟩ := hbounds
  obtain ⟨halternatives, hlength⟩ := halternatives
  have hreferences : List.Forall₂ (U.Rewords K o) (constraintReferences bounds alternatives)
      (constraintReferences bounds' alternatives') := by
    unfold constraintReferences
    rw [isEmpty_of_forall₂ halternatives]
    refine append_of_forall₂ hbounds ?_
    split
    · exact .nil
    · exact .cons (rewords_unionText hN halternatives) .nil
  have hwords : ∀ s ∈ bounds ++ alternatives, ∀ w ∈ Text.words s, U.IsWord K o w := by
    intro s hs
    obtain ⟨s', -, hreworded⟩ :=
      exists_of_forall₂ (append_of_forall₂ hbounds halternatives).flip hs
    exact hreworded.words
  refine paired_pure ⟨_, ⟨bounds, alternatives, hfewer, hlength, hwords, rfl⟩, ?_, ?_⟩
  · exact (text_partsOf (hN.isWordText_name ht) _ _).symm
  · rw [renamed_partsOf hN hreferences]
    exact (text_partsOf (hN.isWordText_renamed ht) _ _).symm

omit [BEq τ] in
theorem paired_parameters (asInterface : Bool) {ts : List τ} (hts : ∀ t ∈ ts, K t) :
    Paired (Registry.Renamed U K o)
      (fun xs ys => ∃ ps : List ParameterParts,
        List.Forall₂ (ParameterParts.Of U K o asInterface) ts ps ∧ xs = ps.map (·.text) ∧
        ys = ps.map fun p => (p.renamed o).text)
      (ts.mapM (typeParameter U c asInterface)) (ts.mapM (typeParameter U c asInterface)) := by
  induction ts with
  | nil => exact paired_pure ⟨[], .nil, rfl, rfl⟩
  | cons t ts ih =>
    have hrest := ih fun u hu => hts u (List.mem_cons_of_mem _ hu)
    rw [List.mapM_cons]
    refine (paired_typeParameter hK hN hc asInterface (hts t (List.mem_cons_self ..))).bind
      fun _ _ hp => hrest.bind fun _ _ hps => ?_
    obtain ⟨p, hp, rfl, rfl⟩ := hp
    obtain ⟨ps, hps, rfl, rfl⟩ := hps
    exact paired_pure ⟨p :: ps, .cons hp hps, rfl, rfl⟩

omit [BEq τ] in
theorem paired_typeParameters (asInterface : Bool) {k : τ} (hk : K k) :
    Paired (Registry.Renamed U K o)
      (fun xs ys => ∃ ps : List ParameterParts,
        List.Forall₂ (ParameterParts.Of U K o asInterface) (U.parameters k) ps ∧
        xs = ps.map (·.text) ∧ ys = ps.map fun p => (p.renamed o).text)
      (typeParameters U c asInterface k) (typeParameters U c asInterface k) := by
  unfold typeParameters Universe.parameters
  cases U.isDefinition k with
  | true => exact paired_parameters hK hN hc asInterface (hK.arguments k hk)
  | false => exact paired_pure ⟨[], .nil, rfl, rfl⟩

omit [BEq τ] hN in
theorem paired_memberDeclarations {k : τ} (hk : K k) : Paired (Registry.Renamed U K o)
    (fun ms ms' => ms' = ms.map fun m => ⟨m.name, o.renameText m.reference⟩)
    (memberDeclarations U c k) (memberDeclarations U c k) := by
  unfold memberDeclarations
  refine (paired_reportNotes _).bind fun _ _ _ => ?_
  have hone : ∀ m ∈ U.members k, Paired (Registry.Renamed U K o)
      (fun x y : MemberDeclaration => ⟨x.name, o.renameText x.reference⟩ = y)
      (do return ⟨m.1, ← c.resolve m.2⟩) (do return ⟨m.1, ← c.resolve m.2⟩) := fun m hm =>
    (hc.resolve m.2 (hK.members k hk m hm)).bind fun _ _ h => paired_pure (by rw [h.eq]; rfl)
  exact (paired_mapM hone).mono fun _ _ h =>
    (List.forall₂_eq_eq_eq ▸ List.forall₂_map_left_iff.mpr h.1).symm

end Calls

end Walk

/-! Headers. -/

omit U K in
theorem filter_defaultBaseText (U : Universe τ) (o : Options τ) (k : τ) :
    (U.defaultBaseText o k).filter (· != "") = U.defaultBaseText o k := by
  unfold Universe.defaultBaseText
  split
  · rfl
  · split
    · rfl
    · rw [Option.filter_filter]
      simp

/-- What a header extends: the base that the options choose, and references. -/
theorem Walk.BaseRenamed.named (hN : U.Renamable K o) {k : τ} {x y : Option String × Option τ}
    (h : Walk.BaseRenamed U K o k x y) :
    ∃ references : List String,
      (x.1.filter (· != "")).toList = U.chosenBase o k ++ references ∧
      (y.1.filter (· != "")).toList = U.chosenBase o k ++ references.map o.renameText := by
  cases h with
  | @declared b s s' hb hs =>
    have hnamed : List.Forall₂ (U.Rewords K o) ((some s).filter (· != "")).toList
        ((some s').filter (· != "")).toList := by
      rw [Option.filter_some, Option.filter_some, bne, bne,
        sameKeys_rewords hN hs Text.reworded_empty]
      split
      · exact .cons hs .nil
      · exact .nil
    refine ⟨((some s).filter (· != "")).toList, ?_, ?_⟩
    · rw [Universe.chosenBase, hb]
      rfl
    · rw [Universe.chosenBase, hb, map_renameText hnamed]
      rfl
  | chosen hnone =>
    refine ⟨[], ?_, ?_⟩ <;>
      rw [filter_defaultBaseText, Universe.chosenBase, hnone] <;> simp

/-- Headers in the two runs. -/
theorem Walk.BaseRenamed.headed (hN : U.Renamable K o) {k : τ} (hk : K k)
    {text text' : Option String} {base base' : Option τ}
    (h : Walk.BaseRenamed U K o k (text, base) (text', base'))
    {interfaces interfaces' parameters parameters' : List String}
    (hinterfaces : List.Forall₂ (U.Rewords K o) interfaces interfaces')
    (hparameters : ∃ ps : List ParameterParts,
      List.Forall₂ (ParameterParts.Of U K o (U.isInterface k || o.interfacesOnly))
        (U.parameters k) ps ∧
      parameters = ps.map (·.text) ∧ parameters' = ps.map fun p => (p.renamed o).text) :
    (U.headed o.plain k text interfaces parameters).Renamed U K o
      (U.headed o k text' interfaces' parameters') := by
  obtain ⟨named, hnamed, hnamed'⟩ := h.named hN
  obtain rfl := map_renameText hinterfaces
  have hinterface : o.plain.interfacesOnly = o.interfacesOnly := rfl
  refine ⟨⟨hk, rfl, rfl, rfl⟩, rfl, rfl, hparameters, ?_, ?_, rfl⟩
  · dsimp only [Universe.headed, Universe.begun, TypeDeclaration.bare]
    rw [hnamed, hnamed', hinterface]
    split
    · exact ⟨named ++ interfaces, List.append_assoc .., by
        rw [List.map_append, List.append_assoc]⟩
    · exact ⟨named, rfl, rfl⟩
  · dsimp only [Universe.headed, Universe.begun, TypeDeclaration.bare]
    rw [hinterface]
    split
    · rfl
    · rfl

namespace Walk

variable [BEq τ] (hK : U.Closes K) (hN : U.Renamable K o) {c : Calls τ} (hc : c.Renamed U K o)

include hK hN hc

theorem paired_declareType {k : τ} (hk : K k) : Paired (Registry.Renamed U K o)
    (fun d d' => U.Names K o d.name d'.name) (declareType U c k) (declareType U c k) := by
  unfold declareType
  refine paired_get.bind fun r r' hr => ?_
  rw [hr.plainOptions, hr.options]
  refine (paired_renamed k).bind fun _ _ h => ?_
  obtain ⟨rfl, rfl⟩ := h
  have hbegun : (U.begun o.plain k).Called U K o (U.begun o k) := ⟨hk, rfl, rfl, rfl⟩
  refine (paired_modify fun _ _ hr => hr.claimType hbegun).bind fun _ _ _ => ?_
  refine (paired_baseReference hK hc hk).bind fun x y hbase => ?_
  obtain ⟨text, base⟩ := x
  obtain ⟨text', base'⟩ := y
  have hsame : base' = base := by cases hbase <;> rfl
  subst hsame
  refine (paired_interfaceReferences hK hc hk base').bind fun _ _ hinterfaces => ?_
  refine (paired_modify fun _ _ hr => hr.claimType ⟨hk, rfl, rfl, rfl⟩).bind fun _ _ _ => ?_
  refine (paired_typeParameters hK hN hc _ hk).bind fun _ _ hparameters => ?_
  have hheaded := hbase.headed hN hk hinterfaces hparameters
  refine (paired_modify fun _ _ hr => hr.registerType hheaded).bind fun _ _ _ => ?_
  refine (paired_memberDeclarations hK hc hk).bind fun _ _ hmembers => ?_
  refine (paired_modify fun _ _ hr => hr.setMembers k hmembers).bind fun _ _ _ => ?_
  exact (paired_report (.declaredType _ _)).bind fun _ _ _ => paired_pure ⟨k, hk, rfl, rfl⟩

theorem paired_buildStep (ht : K t) : Paired (Registry.Renamed U K o)
    (U.Built K o t TypeDeclaration.name) (buildStep U c t) (buildStep U c t) := by
  have hd : K (if U.isConstructed t then U.definition t else t) := by
    split
    · exact hK.definition t ht
    · exact ht
  unfold buildStep
  refine (paired_isSkipped t).bind fun _ _ h => ?_
  obtain ⟨rfl, rfl⟩ := h
  refine paired_ite (fun hskip => ?_) fun hskip => ?_
  · exact (paired_report (.skippedType _)).bind fun _ _ _ => paired_pure (.skipped hskip)
  rw [Bool.not_eq_true] at hskip
  refine paired_get.bind fun r r' hr => ?_
  have hfind := hr.findType (if U.isConstructed t then U.definition t else t)
  generalize r.findType _ = x at hfind
  generalize r'.findType _ = y at hfind
  cases hfind with
  | some hname => exact paired_pure (.made hskip hname)
  | none =>
    exact (paired_declareType hK hN hc hd).bind fun _ _ hname => paired_pure (.made hskip hname)

end Walk

/-! Runs. -/

variable [BEq τ] (hK : U.Closes K) (hN : U.Renamable K o)

include hK hN

theorem renamed_calls (n : Nat) : (calls U n).Renamed U K o := by
  induction n with
  | zero => exact ⟨fun _ _ _ _ _ => .none, fun _ _ _ _ _ => .none⟩
  | succ n ih =>
    exact ⟨fun _ ht => Walk.paired_resolveStep hK hN ih ht,
      fun _ ht => Walk.paired_buildStep hK hN ih ht⟩

theorem paired_declareRoot (ht : K t) : Walk.Paired (Registry.Renamed U K o) (fun _ _ => True)
    (U.declareRoot t) (U.declareRoot t) := by
  unfold Universe.declareRoot
  refine Walk.paired_ite (fun _ => ?_) fun _ => Walk.paired_ite (fun _ => ?_) fun _ =>
    Walk.paired_report (.ignoredRoot _)
  · exact (Walk.paired_buildEnum ht).bind fun _ _ _ => Walk.paired_pure trivial
  · exact ((renamed_calls hK hN U.depth).build t ht).bind fun _ _ _ => Walk.paired_pure trivial

/-- Under a renamer a run ends where it ends without one, with the same declarations in the same
order: every name is changed once, and all else is the same. -/
theorem Universe.collect_renamed {roots : List τ} (hroots : ∀ t ∈ roots, K t) :
    Option.Rel (Registry.Renamed U K o) (U.collect o.plain roots) (U.collect o roots) := by
  have hfresh : (Registry.fresh o.plain).Renamed U K o (Registry.fresh o) :=
    ⟨rfl, rfl, .nil, .nil, .nil, rfl⟩
  have hrun := Walk.paired_forM (fun t ht => paired_declareRoot hK hN (hroots t ht)) _ _ hfresh
  change Option.Rel _ (((roots.forM U.declareRoot) (Registry.fresh o.plain)).map (·.2))
    (((roots.forM U.declareRoot) (Registry.fresh o)).map (·.2))
  generalize (roots.forM U.declareRoot) (Registry.fresh o.plain) = x at hrun
  generalize (roots.forM U.declareRoot) (Registry.fresh o) = y at hrun
  cases hrun with
  | none => exact .none
  | some h => exact .some h.2

end Runs

/-! Graphs. -/

namespace TypeGraph

variable {g : TypeGraph} {t : String}

theorem node_mem (ht : g.has t = true) : (t, g.node t) ∈ g.nodes := by
  obtain ⟨n, hn⟩ := Option.isSome_iff_exists.mp ht
  rw [node, hn]
  exact mem_of_lookup hn

/-- Has every key that a node names a node? -/
def hasAll (g : TypeGraph) (key : String) (n : GraphNode) : Bool :=
  g.has (n.definition.getD key) && n.arguments.all g.has && n.bounds.all g.has &&
    n.alternatives.all g.has && n.base.all g.has && n.interfaces.all g.has &&
    n.members.all (g.has ·.2) && n.union.all g.has && n.element.all g.has &&
    n.keyValue.all (fun p => g.has p.1 && g.has p.2) && n.tuple.all (·.all g.has)

theorem closed_of_hasAll (h : g.nodes.all (fun e => g.hasAll e.1 e.2) = true) : g.Closed := by
  have hnode : ∀ t, g.has t = true → g.hasAll t (g.node t) = true :=
    fun t ht => List.all_eq_true.mp h (t, g.node t) (node_mem ht)
  simp only [hasAll, Bool.and_eq_true, List.all_eq_true, Option.all_eq_true] at hnode
  constructor
  · exact fun t ht => (hnode t ht).1.1.1.1.1.1.1.1.1.1
  · intro t ht p hp
    obtain ⟨⟨⟨⟨⟨-, hmembers⟩, hunion⟩, helement⟩, hkeyValue⟩, htuple⟩ := hnode t ht
    cases hp with
    | member h => exact hunion p h
    | element h => exact helement p h
    | key h => exact (hkeyValue _ h).1
    | value h => exact (hkeyValue _ h).2
    | item h hp => exact htuple _ h p hp
    | argument _ h => exact (hnode t ht).1.1.1.1.1.1.1.1.1.2 p h
  · exact fun t ht b hb => (hnode t ht).1.1.1.1.1.1.2 b hb
  · exact fun t ht => (hnode t ht).1.1.1.1.1.2
  · exact fun t ht => (hnode t ht).1.1.1.1.1.1.1.1.1.2
  · exact fun t ht => (hnode t ht).1.1.1.1.1.1.1.1.2
  · exact fun t ht => (hnode t ht).1.1.1.1.1.1.1.2
  · exact fun t ht => (hnode t ht).1.1.1.1.2

/-- The renamer that puts a letter behind every name. -/
def suffixed (o : Options String) : Options String := { o with rename := (· ++ "X") }

theorem isIdentifier_suffix {n : String} (h : Text.isIdentifier n.toList = true) :
    Text.isIdentifier (n ++ "X").toList = true := by
  rw [String.toList_append]
  cases hn : n.toList with
  | nil =>
    rw [hn] at h
    cases h
  | cons c rest =>
    rw [hn] at h
    obtain ⟨hstart, hrest⟩ := Bool.and_eq_true_iff.mp h
    change (Text.isIdentifierStart c && (rest ++ "X".toList).all Text.isIdentifierRest) = true
    rw [hstart, List.all_append, hrest]
    decide

theorem suffix_injective {m n : String} (h : m ++ "X" = n ++ "X") : m = n := by
  have hlists := congrArg String.toList h
  rw [String.toList_append, String.toList_append] at hlists
  exact String.toList_inj.mp (List.append_cancel_right hlists)

theorem names_of_all {fixed : List String} (h : g.nodes.all (fun e =>
      Text.isIdentifier e.2.name.toList && !fixed.contains e.2.name &&
        !fixed.contains (e.2.name ++ "X")) = true) (ht : g.has t = true) :
    Text.isIdentifier (g.types.name t).toList = true ∧ g.types.name t ∉ fixed ∧
      g.types.name t ++ "X" ∉ fixed := by
  have hall := List.all_eq_true.mp h (t, g.node t) (node_mem ht)
  simpa only [types, Bool.and_eq_true, Bool.not_eq_true', List.contains_eq_mem,
    decide_eq_false_iff_not, and_assoc] using hall

theorem renamable_suffixed {o : Options String} (h : g.nodes.all (fun e =>
      Text.isIdentifier e.2.name.toList && !o.fixedWords.contains e.2.name &&
        !o.fixedWords.contains (e.2.name ++ "X")) = true) :
    g.types.Renamable (fun t => g.has t = true) (suffixed o) where
  identifier _ ht := (names_of_all h ht).1
  unfixed _ ht := (names_of_all h ht).2.1
  renamed _ ht := (names_of_all h ht).2.2
  image _ := isIdentifier_suffix
  injective _ _ _ _ := suffix_injective

/-- Boxes of items on a shelf. -/
def shelf : TypeGraph where
  nodes := [
    ("Box", { GraphNode.plain "Box" with
      isDefinition := true, arguments := ["T"], members := [("content", "T")] }),
    ("T", { GraphNode.plain "T" with
      isStructural := false, isParameter := true, needsConstructor := true, bounds := ["Item"] }),
    ("Item", { GraphNode.plain "Item" with members := [("kind", "Kind")] }),
    ("Kind", { GraphNode.plain "Kind" with
      isStructural := false, isEnum := true, enumMembers := [("SMALL", .int 1)] }),
    ("ItemBox", { GraphNode.plain "Box" with
      isConstructed := true, definition := some "Box", arguments := ["Item"] }),
    ("Boxes", { GraphNode.plain "Boxes" with isStructural := false, element := some "ItemBox" }),
    ("Shelf", { GraphNode.plain "Shelf" with members := [("boxes", "Boxes")] })]

theorem collect_renamed_shelf :
    shelf.types.Closes (fun t => shelf.has t = true) ∧
    shelf.types.Renamable (fun t => shelf.has t = true) (suffixed Options.default) ∧
    ∃ r r', shelf.types.collect (suffixed Options.default).plain ["Shelf"] = some r ∧
      shelf.types.collect (suffixed Options.default) ["Shelf"] = some r' ∧
      r.Renamed shelf.types (fun t => shelf.has t = true) (suffixed Options.default) r' ∧
      r'.types.map (·.header) = ["export class ShelfX", "export class ItemX",
        "export class BoxX<TX extends ItemX & \x7b new(): TX \x7d>"] := by
  have hclosed : shelf.Closed := closed_of_hasAll (by decide)
  have hrenamable : shelf.types.Renamable (fun t => shelf.has t = true)
    (suffixed Options.default) := renamable_suffixed (by decide)
  have hroots : ∀ t ∈ ["Shelf"], shelf.has t = true := by decide
  have hrun : ((shelf.types.collect (suffixed Options.default) ["Shelf"]).map
      fun r => r.types.map (·.header)) = some ["export class ShelfX", "export class ItemX",
        "export class BoxX<TX extends ItemX & \x7b new(): TX \x7d>"] := by decide +kernel
  obtain ⟨r', hr', hheaders⟩ := Option.map_eq_some_iff.mp hrun
  have hrel := Universe.collect_renamed hclosed hrenamable hroots
  rw [hr'] at hrel
  generalize hr : shelf.types.collect (suffixed Options.default).plain ["Shelf"] = x at hrel
  cases hrel with
  | some h => exact ⟨hclosed, hrenamable, _, _, rfl, hr', h, hheaders⟩

/-- The names in a graph are identifiers and stay different under a renamer, and none of them is a
keyword or a replacement as a whole. -/
structure NamesApart (g : TypeGraph) (o : Options String) : Prop where
  closed : g.Closed
  identifier : ∀ t, g.has t = true → Text.isIdentifier (g.types.name t).toList = true
  apart : ∀ t, g.has t = true → g.types.name t ∉ scalarWords ++ o.overrides.map (·.2)
  renamed : ∀ t, g.has t = true → o.rename (g.types.name t) ∉ scalarWords ++ o.overrides.map (·.2)
  image : ∀ n : String, Text.isIdentifier n.toList = true →
    Text.isIdentifier (o.rename n).toList = true
  injective : ∀ m n : String, Text.isIdentifier m.toList = true →
    Text.isIdentifier n.toList = true → o.rename m = o.rename n → m = n

/-- A word after the names in a graph are changed. -/
def renameName (g : TypeGraph) (o : Options String) (w : String) : String :=
  if (g.nodes.map (·.2.name)).contains w then o.rename w else w

/-- In references to members a renamer changes every name once, and nothing else. -/
def MembersRenamed (g : TypeGraph) (o : Options String) (roots : List String) : Prop :=
  ∀ r r', g.types.collect o.plain roots = some r → g.types.collect o roots = some r' →
    r'.types.map (fun d => d.members.map (·.reference)) =
      r.types.map fun d => d.members.map fun m => Text.mapWords (g.renameName o) m.reference

/-- A list and a structure of the same name. -/
def twoArrays : TypeGraph where
  nodes := [
    ("Array", { GraphNode.plain "Array" with isDefinition := true, arguments := ["T"] }),
    ("T", { GraphNode.plain "T" with isStructural := false, isParameter := true }),
    ("A", GraphNode.plain "A"),
    ("Own", { GraphNode.plain "Array" with
      isConstructed := true, definition := some "Array", arguments := ["A"] }),
    ("List", { GraphNode.plain "List" with isStructural := false, element := some "A" }),
    ("Either", { GraphNode.plain "Either" with isStructural := false, union := ["Own", "List"] }),
    ("B", { GraphNode.plain "B" with members := [("x", "Either")] })]

/-- A list, and a type that is replaced by the reference to the list. -/
def replacedList : TypeGraph where
  nodes := [
    ("A", GraphNode.plain "A"),
    ("Other", GraphNode.plain "Other"),
    ("List", { GraphNode.plain "List" with isStructural := false, element := some "A" }),
    ("Either", { GraphNode.plain "Either" with isStructural := false, union := ["Other", "List"] }),
    ("B", { GraphNode.plain "B" with members := [("x", "Either")] })]

theorem namesApart_suffixed {o : Options String}
    (hclosed : g.nodes.all (fun e => g.hasAll e.1 e.2) = true)
    (h : g.nodes.all (fun e => Text.isIdentifier e.2.name.toList &&
      !(scalarWords ++ o.overrides.map (·.2)).contains e.2.name &&
        !(scalarWords ++ o.overrides.map (·.2)).contains (e.2.name ++ "X")) = true) :
    g.NamesApart (suffixed o) where
  closed := closed_of_hasAll hclosed
  identifier _ ht := (names_of_all h ht).1
  apart _ ht := (names_of_all h ht).2.1
  renamed _ ht := (names_of_all h ht).2.2
  image _ := isIdentifier_suffix
  injective _ _ _ _ := suffix_injective

theorem MembersRenamed.eq {o : Options String} {roots : List String}
    (h : g.MembersRenamed o roots) {xs ys : List (List String)}
    (hx : ((g.types.collect o.plain roots).map fun r => r.types.map fun d =>
      d.members.map fun m => Text.mapWords (g.renameName o) m.reference) = some xs)
    (hy : ((g.types.collect o roots).map fun r => r.types.map fun d =>
      d.members.map (·.reference)) = some ys) : ys = xs := by
  obtain ⟨r, hr, rfl⟩ := Option.map_eq_some_iff.mp hx
  obtain ⟨r', hr', rfl⟩ := Option.map_eq_some_iff.mp hy
  exact h r r' hr hr'

/-- Where a name is a word for lists, or stands in a replacement, two members of a union may be one
text without a renamer and two texts with it. -/
theorem collect_not_always_renamed :
    (¬ ∀ (g : TypeGraph) (o : Options String) (roots : List String), g.NamesApart o →
      (∀ t ∈ roots, g.has t = true) → o.overrides = [] → g.MembersRenamed o roots) ∧
    (¬ ∀ (g : TypeGraph) (o : Options String) (roots : List String), g.NamesApart o →
      (∀ t ∈ roots, g.has t = true) →
      (∀ t, g.has t = true → g.types.name t ∉ ["Array", "Record"] ∧
        o.rename (g.types.name t) ∉ ["Array", "Record"]) → g.MembersRenamed o roots) := by
  constructor
  · intro hall
    have hnames : twoArrays.NamesApart (suffixed { Options.default with overrides := [] }) :=
      namesApart_suffixed (by decide) (by decide)
    have hsame : [["ArrayX<AX> | Array<AX>"], [], []] = [["ArrayX<AX>"], [], []] :=
      (hall twoArrays _ ["B"] hnames (by decide) rfl).eq (by decide +kernel)
        (by decide +kernel)
    exact absurd hsame (by decide)
  · intro hall
    have hnames : replacedList.NamesApart (suffixed { Options.default with
        overrides := [("g.Other", "Array<A>")] }) :=
      namesApart_suffixed (by decide) (by decide)
    have hwords : ∀ t, replacedList.has t = true →
        replacedList.types.name t ∉ ["Array", "Record"] ∧
          replacedList.types.name t ++ "X" ∉ ["Array", "Record"] :=
      fun t ht => (names_of_all (by decide) ht).2
    have hsame : [["Array<A> | Array<AX>"], []] = [["Array<AX>"], []] :=
      (hall replacedList _ ["B"] hnames (by decide) hwords).eq (by decide +kernel)
        (by decide +kernel)
    exact absurd hsame (by decide)

end TypeGraph

end TypeProjection
