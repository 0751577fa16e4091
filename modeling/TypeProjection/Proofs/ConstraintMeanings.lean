import TypeProjection.Proofs.Header
import TypeProjection.Proofs.UnionParts
import TypeProjection.Proofs.WordMaps

/-!
# What the constraints of type parameters mean

A constraint is read with the precedence of its operators: what stands between bars is read first as
a union, then what stands between ampersands as an intersection, and parentheses around the whole
group what is in them. The written constraint of a parameter reads as the intersection of its parts,
each read by itself (`parse_constraintText`): parentheses are put around every part that could be
torn apart, and around others it makes no difference.
-/

namespace TypeProjection

open Nesting

/-- A constraint with its operators read. -/
inductive Constraint where
  | reference (text : String)
  | union (members : List Constraint)
  | intersection (members : List Constraint)

namespace Constraint

/-- What a constraint lets a type be. -/
def alternatives : Constraint → List Constraint
  | .union members => members
  | c => [c]

/-- What a constraint asks of a type. -/
def demands : Constraint → List Constraint
  | .intersection members => members
  | c => [c]

/-- The union of some constraints; that of a single one is itself. -/
def anyOf (cs : List Constraint) : Constraint :=
  match cs.flatMap alternatives with
  | [c] => c
  | members => .union members

/-- The intersection of some constraints; that of a single one is itself. -/
def allOf (cs : List Constraint) : Constraint :=
  match cs.flatMap demands with
  | [c] => c
  | members => .intersection members

/-- What a pair of parentheses around a whole text holds. -/
def inside? : List Char → Option (List Char)
  | '(' :: cs => if cs.getLast? = some ')' ∧ Balanced cs.dropLast then some cs.dropLast else none
  | _ => none

theorem length_of_inside {cs inner : List Char} (h : inside? cs = some inner) :
    inner.length < cs.length := by
  unfold inside? at h
  split at h
  · split at h
    · cases h
      rw [List.length_dropLast, List.length_cons]
      omega
    · cases h
  · cases h

/-- Reads a constraint: unions of intersections of references, parentheses grouping. -/
def parseText (cs : List Char) : Constraint :=
  anyOf ((cut '|' cs).attach.map fun part =>
    allOf ((cut '&' part.1).attach.map fun item =>
      match _hinner : inside? item.1 with
      | some inner => parseText inner
      | none => .reference (String.ofList item.1)))
termination_by cs.length
decreasing_by
  have hpart := length_le_of_mem_cut part.2
  have hitem := length_le_of_mem_cut item.2
  have hinner := length_of_inside _hinner
  omega

/-- Reads one part of an intersection. -/
def parseItem (cs : List Char) : Constraint :=
  match inside? cs with
  | some inner => parseText inner
  | none => .reference (String.ofList cs)

theorem parseText_eq (cs : List Char) :
    parseText cs = anyOf ((cut '|' cs).map fun part => allOf ((cut '&' part).map parseItem)) := by
  have hitems : ∀ part : List Char, ((cut '&' part).attach.map fun item =>
      match _hinner : inside? item.1 with
      | some inner => parseText inner
      | none => .reference (String.ofList item.1)) = (cut '&' part).map parseItem := by
    intro part
    rw [← List.attach_map_val (f := parseItem)]
    refine List.map_congr_left fun item _ => ?_
    unfold parseItem
    split <;> simp_all
  rw [parseText]
  simp only [hitems]
  rw [List.attach_map_val (f := fun part => allOf ((cut '&' part).map parseItem))]

/-- Reads a constraint. -/
def parse (s : String) : Constraint := parseText s.toList

variable {cs ds : List Constraint} {c : Constraint}

theorem anyOf_congr (h : cs.flatMap alternatives = ds.flatMap alternatives) :
    anyOf cs = anyOf ds := by
  unfold anyOf
  rw [h]

/-- A single alternative that is no union is the whole. -/
theorem anyOf_singleton (h : alternatives c = [c]) : anyOf [c] = c := by
  unfold anyOf
  rw [List.flatMap_singleton, h]

theorem allOf_singleton (h : demands c = [c]) : allOf [c] = c := by
  unfold allOf
  rw [List.flatMap_singleton, h]

theorem flatMap_demands (h : ∀ c ∈ cs, demands c = [c]) : cs.flatMap demands = cs := by
  induction cs with
  | nil => rfl
  | cons c cs ih =>
    obtain ⟨hc, hcs⟩ := List.forall_mem_cons.mp h
    rw [List.flatMap_cons, hc, ih hcs]
    rfl

/-- An intersection is no union, unless it is the only thing in it. -/
theorem alternatives_allOf (hmany : 1 < cs.length) (h : ∀ c ∈ cs, demands c = [c]) :
    alternatives (allOf cs) = [allOf cs] := by
  unfold allOf
  rw [flatMap_demands h]
  split
  · next c => simp at hmany
  · rfl

theorem alternatives_references (items : List String) :
    (items.map reference).flatMap alternatives = items.map reference := by
  rw [List.flatMap_map]
  exact List.map_eq_flatMap.symm

/-- The union of a single reference is that reference. -/
theorem anyOf_references_eq {items : List String} (hne : items ≠ []) :
    (∃ item, items = [item] ∧ anyOf (items.map reference) = reference item) ∨
      anyOf (items.map reference) = union (items.map reference) := by
  unfold anyOf
  rw [alternatives_references]
  match items with
  | [item] => exact .inl ⟨item, rfl, rfl⟩
  | _ :: _ :: _ => exact .inr rfl

theorem alternatives_anyOf_references {items : List String} (hne : items ≠ []) :
    alternatives (anyOf (items.map reference)) = items.map reference := by
  rcases anyOf_references_eq hne with ⟨item, rfl, heq⟩ | heq
  · rw [heq]
    rfl
  · rw [heq]
    rfl

theorem demands_anyOf_references {items : List String} (hne : items ≠ []) :
    demands (anyOf (items.map reference)) = [anyOf (items.map reference)] := by
  rcases anyOf_references_eq hne with ⟨item, -, heq⟩ | heq
  · rw [heq]
    rfl
  · rw [heq]
    rfl

end Constraint

/-! ### Texts of references -/

/-- A text that is read as one reference. -/
structure Atomic (s : String) : Prop where
  compact : Compact s.toList
  start : ∃ c, s.toList.head? = some c ∧ c ≠ '|' ∧ c ≠ '('

/-- A text that is read as a union of references. -/
def Compound (s : String) : Prop :=
  ∃ items, items ≠ [] ∧ (∀ i ∈ items, Atomic i) ∧ s = String.intercalate " | " items

open Constraint

section Texts

variable {s : String} {items parts : List String}

theorem Atomic.ne_nil (h : Atomic s) : s.toList ≠ [] := by
  obtain ⟨c, hc, -⟩ := h.start
  rintro hnil
  rw [hnil] at hc
  cases hc

theorem Atomic.head?_ne_bar (h : Atomic s) : s.toList.head? ≠ some '|' := by
  obtain ⟨c, hc, hbar, -⟩ := h.start
  rw [hc]
  exact fun heq => hbar (Option.some.inj heq)

theorem Atomic.parseItem (h : Atomic s) : Constraint.parseItem s.toList = .reference s := by
  obtain ⟨c, hc, -, hparen⟩ := h.start
  have hnone : inside? s.toList = none := by
    unfold inside?
    split
    · next heq =>
      rw [heq] at hc
      exact absurd (Option.some.inj hc).symm hparen
    · rfl
  unfold Constraint.parseItem
  rw [hnone, String.ofList_toList]

theorem toList_joined (mark : Char) (sep : String) (hsep : sep.toList = separator mark) :
    (String.intercalate sep items).toList =
      (separator mark).intercalate (items.map String.toList) := by
  rw [String.toList_intercalate, hsep]

theorem parse_joined (hne : items ≠ []) (h : ∀ i ∈ items, Atomic i) :
    parse (String.intercalate " | " items) = anyOf (items.map .reference) := by
  have hcut : cut '|' (String.intercalate " | " items).toList = items.map String.toList := by
    rw [toList_joined '|' " | " rfl]
    refine cut_joined (by simpa using hne) fun x hx => ?_
    obtain ⟨i, hi, rfl⟩ := List.mem_map.mp hx
    exact (h i hi).compact
  unfold parse
  rw [parseText_eq, hcut, List.map_map]
  congr 1
  refine List.map_congr_left fun i hi => ?_
  rw [Function.comp_apply, (h i hi).compact.cut, List.map_singleton, (h i hi).parseItem]
  rfl

theorem Atomic.parse (h : Atomic s) : Constraint.parse s = .reference s := by
  have hparse := parse_joined (List.cons_ne_nil s []) fun i hi => List.mem_singleton.mp hi ▸ h
  rw [String.intercalate_singleton] at hparse
  exact hparse

theorem Atomic.compound (h : Atomic s) : Compound s :=
  ⟨[s], List.cons_ne_nil _ _, fun _ hi => List.mem_singleton.mp hi ▸ h,
    String.intercalate_singleton.symm⟩

theorem balanced_joined {mark : Char} {xs : List (List Char)} (hmark : isBracket mark = false)
    (h : ∀ x ∈ xs, Balanced x) : Balanced ((separator mark).intercalate xs) := by
  induction xs with
  | nil => exact balanced_nil
  | cons x xs ih =>
    obtain ⟨hx, hxs⟩ := List.forall_mem_cons.mp h
    cases xs with
    | nil => rwa [List.intercalate_singleton]
    | cons y xs =>
      rw [List.intercalate_cons_cons]
      exact (hx.append (balanced_separator hmark)).append (ih hxs)

theorem Compound.balanced (h : Compound s) : Balanced s.toList := by
  obtain ⟨items, -, hitems, rfl⟩ := h
  rw [toList_joined '|' " | " rfl]
  refine balanced_joined (by decide) fun x hx => ?_
  obtain ⟨i, hi, rfl⟩ := List.mem_map.mp hx
  exact (hitems i hi).compact.balanced

theorem Compound.demands (h : Compound s) :
    Constraint.demands (Constraint.parse s) = [Constraint.parse s] := by
  obtain ⟨items, hne, hitems, rfl⟩ := h
  rw [parse_joined hne hitems]
  exact demands_anyOf_references hne

/-- Joined unions are the union of what they are read as. -/
theorem exists_joined (h : ∀ s ∈ parts, Compound s) (hne : parts ≠ []) :
    ∃ items, items ≠ [] ∧ (∀ i ∈ items, Atomic i) ∧
      String.intercalate " | " parts = String.intercalate " | " items ∧
      (parts.map Constraint.parse).flatMap alternatives = items.map .reference := by
  induction parts with
  | nil => exact absurd rfl hne
  | cons s parts ih =>
    obtain ⟨⟨items, hitems, hatomic, rfl⟩, hparts⟩ := List.forall_mem_cons.mp h
    have hfirst : alternatives (Constraint.parse (String.intercalate " | " items)) =
        items.map .reference := by
      rw [parse_joined hitems hatomic]
      exact alternatives_anyOf_references hitems
    cases parts with
    | nil =>
      refine ⟨items, hitems, hatomic, String.intercalate_singleton, ?_⟩
      rw [List.map_singleton, List.flatMap_singleton, hfirst]
    | cons t parts =>
      obtain ⟨more, hmore, hatomic', htext, hread⟩ := ih hparts (List.cons_ne_nil _ _)
      refine ⟨items ++ more, List.append_ne_nil_of_left_ne_nil hitems _, ?_, ?_, ?_⟩
      · exact fun i hi => (List.mem_append.mp hi).elim (hatomic i) (hatomic' i)
      · rw [String.intercalate_cons_cons, htext, String.intercalate_append_of_ne_nil hitems hmore]
      · rw [List.map_cons, List.flatMap_cons, hfirst, hread, List.map_append]

theorem compound_joined (h : ∀ s ∈ parts, Compound s) (hne : parts ≠ []) :
    Compound (String.intercalate " | " parts) := by
  obtain ⟨items, hitems, hatomic, htext, -⟩ := exists_joined h hne
  exact ⟨items, hitems, hatomic, htext⟩

theorem distinct_ne_nil (hne : parts ≠ []) : distinct parts ≠ [] := by
  cases parts with
  | nil => exact absurd rfl hne
  | cons s parts => exact List.cons_ne_nil _ _

theorem compound_unionText (h : ∀ s ∈ parts, Compound s) (hne : parts ≠ []) :
    Compound (Walk.unionText parts) :=
  compound_joined (fun s hs => h s (mem_of_mem_distinct hs)) (distinct_ne_nil hne)

theorem parse_unionText (h : ∀ s ∈ parts, Compound s) (hne : parts ≠ []) :
    Constraint.parse (Walk.unionText parts) = anyOf ((distinct parts).map Constraint.parse) := by
  obtain ⟨items, hitems, hatomic, htext, hread⟩ :=
    exists_joined (fun s hs => h s (mem_of_mem_distinct hs)) (distinct_ne_nil hne)
  unfold Walk.unionText
  rw [htext, parse_joined hitems hatomic]
  exact anyOf_congr (hread ▸ alternatives_references items)

/-- A part of a constraint is read as it would be by itself, in parentheses or not. -/
theorem Compound.grouped (h : Compound s) :
    Compact (Walk.groupUnion s).toList ∧ (Walk.groupUnion s).toList ≠ [] ∧
      (Walk.groupUnion s).toList.head? ≠ some '|' ∧
      Constraint.parseItem (Walk.groupUnion s).toList = Constraint.parse s := by
  have hbalanced := h.balanced
  obtain ⟨items, hne, hitems, rfl⟩ := h
  unfold Walk.groupUnion
  split
  · -- whatever has the operator in it, has it all between the parentheses
    have htext : ("(" ++ String.intercalate " | " items ++ ")").toList =
        '(' :: (String.intercalate " | " items).toList ++ [')'] := by
      simp
    rw [htext]
    refine ⟨?_, List.cons_ne_nil _ _, by simp, ?_⟩
    · exact Compact.enclosed (⟨balanced_nil, trivial⟩ : Compact []) rfl rfl rfl hbalanced
    · have hinside : inside? ('(' :: (String.intercalate " | " items).toList ++ [')']) =
          some (String.intercalate " | " items).toList := by
        rw [List.cons_append, inside?, List.getLast?_concat, List.dropLast_concat]
        exact if_pos ⟨rfl, hbalanced⟩
      unfold Constraint.parseItem
      rw [hinside]
      rfl
  · next hplain =>
    cases items with
    | nil => exact absurd rfl hne
    | cons first rest =>
      cases rest with
      | nil =>
        have hitem := hitems first (List.mem_cons_self ..)
        rw [String.intercalate_singleton]
        exact ⟨hitem.compact, hitem.ne_nil, hitem.head?_ne_bar,
          hitem.parseItem.trans hitem.parse.symm⟩
      | cons second rest =>
        refine absurd (Text.contains_iff.mpr ⟨first, String.intercalate " | " (second :: rest), ?_⟩)
          hplain
        exact String.intercalate_cons_cons

/-- A constraint is read as the intersection of its parts, each read by itself. -/
theorem parse_constraintText (h : ∀ s ∈ parts, Compound s) (hne : parts ≠ []) :
    Constraint.parse (Walk.constraintText parts) = allOf (parts.map Constraint.parse) := by
  unfold Walk.constraintText
  split
  · next hmany =>
    have hgroups : ∀ x ∈ (parts.map Walk.groupUnion).map String.toList,
        Compact x ∧ x ≠ [] ∧ x.head? ≠ some '|' := by
      intro x hx
      obtain ⟨_, hp, rfl⟩ := List.mem_map.mp hx
      obtain ⟨s, hs, rfl⟩ := List.mem_map.mp hp
      obtain ⟨hcompact, hnil, hstart, -⟩ := (h s hs).grouped
      exact ⟨hcompact, hnil, hstart⟩
    have hnonempty : (parts.map Walk.groupUnion).map String.toList ≠ [] := by simpa using hne
    change parseText _ = _
    rw [parseText_eq, toList_joined '&' " & " rfl,
      cut_joined_other (by decide) (by decide) (by decide) hnonempty hgroups, List.map_singleton,
      cut_joined hnonempty fun x hx => (hgroups x hx).1, List.map_map, List.map_map]
    have hread : parts.map ((Constraint.parseItem ∘ String.toList) ∘ Walk.groupUnion) =
        parts.map Constraint.parse :=
      List.map_congr_left fun s hs => (h s hs).grouped.2.2.2
    rw [hread]
    refine anyOf_singleton (alternatives_allOf (by simpa using hmany) fun c hc => ?_)
    obtain ⟨s, hs, rfl⟩ := List.mem_map.mp hc
    exact (h s hs).demands
  · next hfew =>
    match parts, hne, h, hfew with
    | [s], _, h, _ =>
      rw [String.intercalate_singleton, List.map_singleton,
        allOf_singleton (h s (List.mem_cons_self ..)).demands]
    | _ :: _ :: _, _, _, hfew => simp at hfew

end Texts

/-! ### References -/

/-- A name of the target language: characters of identifiers, and dollar signs. -/
def isNameText (s : String) : Bool :=
  !s.toList.isEmpty && s.toList.all fun c => Text.isWordPart c || c == '$'

/-- What may stand in a name is neither a space nor part of an operator or a bracket. -/
theorem ne_of_name {c : Char} (h : (Text.isWordPart c || c == '$') = true) :
    c ∉ [' ', '|', '&', '(', ')', '<', '>', '[', ']', '\x7b', '\x7d'] := by
  have hnone : [' ', '|', '&', '(', ')', '<', '>', '[', ']', '\x7b', '\x7d'].all
      (fun c => !(Text.isWordPart c || c == '$')) = true := by decide
  intro hc
  have hc := List.all_eq_true.mp hnone c hc
  rw [h] at hc
  cases hc

theorem isBracket_eq_false {c : Char} (h : c ∉ ['(', ')', '<', '>', '[', ']', '\x7b', '\x7d']) :
    isBracket c = false := by
  unfold isBracket isCloser closer?
  split <;> simp_all

theorem atomic_of_isNameText {s : String} (h : isNameText s = true) : Atomic s := by
  obtain ⟨hne, hall⟩ := Bool.and_eq_true_iff.mp h
  have hname : ∀ c ∈ s.toList, c ∉ [' ', '|', '&', '(', ')', '<', '>', '[', ']', '\x7b', '\x7d'] :=
    fun c hc => ne_of_name (List.all_eq_true.mp hall c hc)
  constructor
  · refine compact_of_all fun c hc => ⟨?_, isBracket_eq_false ?_⟩
    · rintro rfl
      exact hname _ hc (by decide)
    · exact fun hmem => hname c hc (List.mem_of_mem_drop (i := 3) hmem)
  · cases hs : s.toList with
    | nil =>
      rw [hs] at hne
      cases hne
    | cons c cs =>
      have hc := hname c (hs ▸ List.mem_cons_self ..)
      refine ⟨c, rfl, ?_, ?_⟩
      · rintro rfl
        exact hc (by decide)
      · rintro rfl
        exact hc (by decide)

/-- A text that ends in a bracket with something balanced in it. -/
theorem atomic_closed {s : String} {inner : List Char} {closer : Char} (front : List Char)
    (opener : Char)
    (htext : s.toList = front ++ (opener :: inner ++ [closer]))
    (hopen : closer? opener = some closer) (hclose : closer? closer = none)
    (hcloser : isCloser closer = true) (hfront : Compact front)
    (hstart : ∃ c, (front ++ [opener]).head? = some c ∧ c ≠ '|' ∧ c ≠ '(')
    (hinner : Balanced inner) : Atomic s := by
  refine ⟨htext ▸ hfront.enclosed hopen hclose hcloser hinner, ?_⟩
  rw [htext]
  cases front with
  | nil => exact hstart
  | cons c front => exact hstart

theorem atomic_constructorPart {name : String} (h : Balanced name.toList) :
    Atomic (Walk.constructorPart name) := by
  have hinner : Balanced (" new(): ".toList ++ name.toList ++ [' ']) :=
    Balanced.append (Balanced.append (by decide) h) (by decide)
  exact atomic_closed [] '\x7b' (by simp [Walk.constructorPart]) rfl rfl rfl ⟨balanced_nil, trivial⟩
    ⟨_, rfl, by decide, by decide⟩ hinner

namespace Universe

variable {τ : Type} {U : Universe τ} {o : Options τ} {n : Nat} {t : τ}

/-- References are unions of references if the words in them are names. -/
theorem inherits_compound (h : ∀ u, U.Occurs o t u → ∀ w ∈ U.words o u, isNameText w = true) :
    U.Inherits o t Compound where
  scalar s hs := by
    have hall : scalarWords.all isNameText = true := by decide
    exact (atomic_of_isNameText (List.all_eq_true.mp hall s hs)).compound
  parameter u hu hs := (atomic_of_isNameText (h u hu _ (by simp [words, hs]))).compound
  overridden u s hu hs := (atomic_of_isNameText (h u hu _ (by simp [words, hs]))).compound
  enumeration u hu hs hk := (atomic_of_isNameText (h u hu _ (by simp [words, hs, hk]))).compound
  named u hu hs hk _ := (atomic_of_isNameText (h u hu _ (by simp [words, hs, hk]))).compound
  applied u items hu hs hk _ _ hitems := by
    have hname : Atomic (o.rename (U.name (U.normal u))) :=
      atomic_of_isNameText (h u hu _ (by simp [words, hs, hk]))
    obtain ⟨c, hc, hstart⟩ := hname.start
    exact (atomic_closed _ '<' (by simp [argumentText]) rfl rfl rfl hname.compact
      ⟨c, by rw [List.head?_append, hc, Option.some_or], hstart⟩
      (balanced_listed fun s hs => (hitems s hs).balanced)).compound
  array s hs :=
    (atomic_closed "Array".toList '<' (by simp) rfl rfl rfl
      (atomic_of_isNameText (by decide)).compact ⟨_, rfl, by decide, by decide⟩
      hs.balanced).compound
  record key s hkey hs := by
    have hinner : Balanced (key ++ ", " ++ s).toList := by
      have hword : Balanced key.toList := by rcases hkey with rfl | rfl <;> decide
      rw [String.toList_append, String.toList_append]
      exact (hword.append (by decide)).append hs.balanced
    exact (atomic_closed "Record".toList '<' (by simp) rfl rfl rfl
      (atomic_of_isNameText (by decide)).compact ⟨_, rfl, by decide, by decide⟩
      hinner).compound
  tuple u ts items _ _ _ hitems :=
    (atomic_closed [] '[' (by simp) rfl rfl rfl ⟨balanced_nil, trivial⟩
      ⟨_, rfl, by decide, by decide⟩
      (balanced_listed fun s hs => (hitems s hs).balanced)).compound
  union items hne hitems := compound_unionText hitems hne

/-! ### Parameters -/

/-- The words in a parameter are names: its own, and those in the references of its constraint. -/
structure NamedParameter (U : Universe τ) (o : Options τ) (p : τ) : Prop where
  name : isNameText (o.rename (U.name p)) = true
  words : ∀ t ∈ (U.bounds p).filter (U.keptBound o) ++ U.alternatives p, ∀ u, U.Occurs o t u →
    ∀ w ∈ U.words o u, isNameText w = true

/-- What is asked of a parameter: the bounds, unless they refer to anything; one of the different
alternatives, if there are any; and, in a class, a constructor. -/
def asked (U : Universe τ) (o : Options τ) (asInterface : Bool) (p : τ)
    (bounds alternatives : List String) : List Constraint :=
  (bounds.filter (· != fallbackReference)).map parse ++
    (if alternatives.isEmpty then [] else [anyOf ((distinct alternatives).map parse)]) ++
    (if U.needsConstructor p && !asInterface then
      [.reference (Walk.constructorPart (o.rename (U.name p)))] else [])

/-- A text declares a parameter: by its name alone if nothing is asked of it, and else with a
constraint that is read as all that is asked. -/
structure Declares (U : Universe τ) (o : Options τ) (depth : Nat) (asInterface : Bool) (p : τ)
    (bounds alternatives : List String) (s : String) : Prop where
  boundsRead : U.Refer o depth ((U.bounds p).filter (U.keptBound o)) bounds
  alternativesRead : U.Refer o depth (U.alternatives p) alternatives
  free : U.asked o asInterface p bounds alternatives = [] → s = o.rename (U.name p)
  bounded : U.asked o asInterface p bounds alternatives ≠ [] →
    ∃ text, s = o.rename (U.name p) ++ " extends " ++ text ∧
      parse text = allOf (U.asked o asInterface p bounds alternatives)

theorem Refer.compound {ts : List τ} {texts : List String} (h : U.Refer o n ts texts)
    (hwords : ∀ t ∈ ts, ∀ u, U.Occurs o t u → ∀ w ∈ U.words o u, isNameText w = true) :
    ∀ s ∈ texts, Compound s := by
  intro s hs
  obtain ⟨t, ht, hread⟩ := exists_of_forall₂ h hs
  exact (inherits_compound (hwords t ht)).reading hread

/-- The parts of the constraint, as they are written. -/
def askedTexts (U : Universe τ) (o : Options τ) (asInterface : Bool) (p : τ)
    (bounds alternatives : List String) : List String :=
  bounds.filter (· != fallbackReference) ++
    (if alternatives.isEmpty then [] else [Walk.unionText alternatives]) ++
    (if U.needsConstructor p && !asInterface then
      [Walk.constructorPart (o.rename (U.name p))] else [])

section Parts

variable {asInterface : Bool} {p : τ} {bounds alternatives : List String} {s : String}

theorem compound_askedTexts (asInterface : Bool)
    (hname : isNameText (o.rename (U.name p)) = true)
    (hbounds : ∀ s ∈ bounds, Compound s) (halternatives : ∀ s ∈ alternatives, Compound s) :
    ∀ s ∈ U.askedTexts o asInterface p bounds alternatives, Compound s := by
  intro s hs
  unfold askedTexts at hs
  rcases List.mem_append.mp hs with hs | hs
  · rcases List.mem_append.mp hs with hs | hs
    · exact hbounds s (List.mem_filter.mp hs).1
    · split at hs
      · exact (List.not_mem_nil hs).elim
      · next hne =>
        rw [List.mem_singleton.mp hs]
        exact compound_unionText halternatives (by simpa using hne)
  · split at hs
    · rw [List.mem_singleton.mp hs]
      exact (atomic_constructorPart (atomic_of_isNameText hname).compact.balanced).compound
    · exact (List.not_mem_nil hs).elim

/-- Each part is read as what it asks. -/
theorem map_parse_askedTexts (asInterface : Bool) (bounds : List String)
    (hname : isNameText (o.rename (U.name p)) = true)
    (halternatives : ∀ s ∈ alternatives, Compound s) :
    (U.askedTexts o asInterface p bounds alternatives).map parse =
      U.asked o asInterface p bounds alternatives := by
  unfold askedTexts asked
  rw [List.map_append, List.map_append]
  congr 1
  · congr 1
    split
    · rfl
    · next hne =>
      rw [List.map_singleton, parse_unionText halternatives (by simpa using hne)]
  · split
    · rw [List.map_singleton,
        (atomic_constructorPart (atomic_of_isNameText hname).compact.balanced).parse]
    · rfl

theorem parameterText_askedTexts :
    U.parameterText o asInterface p (bounds.filter (· != fallbackReference)) alternatives =
      if (U.askedTexts o asInterface p bounds alternatives).isEmpty then o.rename (U.name p)
      else o.rename (U.name p) ++ " extends " ++
        Walk.constraintText (U.askedTexts o asInterface p bounds alternatives) := rfl

theorem declares_of_readParameter (hp : U.NamedParameter o p)
    (h : U.readParameter o (U.reading o n) asInterface p = some s) :
    ∃ bounds alternatives, U.Declares o n asInterface p bounds alternatives s := by
  obtain ⟨kept, hkept, h⟩ := Option.bind_eq_some_iff.mp h
  obtain ⟨alternatives, halternatives, h⟩ := Option.bind_eq_some_iff.mp h
  obtain ⟨bounds, hbounds, rfl⟩ := Option.map_eq_some_iff.mp hkept
  have hrefer : U.Refer o n ((U.bounds p).filter (U.keptBound o)) bounds := mapM_eq_some hbounds
  have hrefer' : U.Refer o n (U.alternatives p) alternatives := mapM_eq_some halternatives
  have hcompound := hrefer.compound fun t ht => hp.words t (List.mem_append_left _ ht)
  have hcompound' := hrefer'.compound fun t ht => hp.words t (List.mem_append_right _ ht)
  have hparts := compound_askedTexts asInterface hp.name hcompound hcompound'
  have hread := map_parse_askedTexts asInterface bounds hp.name hcompound'
  have hs : U.parameterText o asInterface p (bounds.filter (· != fallbackReference)) alternatives =
      s := Option.some.inj h
  rw [parameterText_askedTexts] at hs
  refine ⟨bounds, alternatives, hrefer, hrefer', fun hnone => ?_, fun hsome => ?_⟩
  · rw [← hread, List.map_eq_nil_iff] at hnone
    rw [hnone] at hs
    exact hs.symm
  · rw [← hread, ne_eq, List.map_eq_nil_iff] at hsome
    rw [if_neg (by simpa using hsome)] at hs
    exact ⟨_, hs.symm, hread ▸ parse_constraintText hparts hsome⟩

theorem declares_of_parameterTexts {k : τ} {ss : List String} (hk : U.isDefinition k = true)
    (hnames : ∀ p ∈ U.arguments k, U.NamedParameter o p)
    (h : U.parameterTexts o (U.reading o n) asInterface k = some ss) :
    List.Forall₂ (fun p s => ∃ bounds alternatives,
      U.Declares o n asInterface p bounds alternatives s) (U.arguments k) ss := by
  unfold parameterTexts at h
  rw [if_pos hk] at h
  have hread := (List.forall₂_and_left _ _).mpr ⟨hnames, mapM_eq_some h⟩
  exact hread.imp fun p s hs => declares_of_readParameter hs.1 hs.2

end Parts

/-- **What constraints mean.** Where aliases and names are names of the target language, every
parameter of a definition is declared by its name, and if anything is asked of it, with a constraint
that is read as the intersection of what is asked: each bound that is not skipped and does not refer
to anything, the union of the different alternatives, and the constructor, in a class only. So it is
wherever a walk declares the parameters of a definition, and in every declaration after a run. -/
theorem constraints_read [BEq τ] {K : τ → Prop} (hU : U.Coherent K) :
    (∀ n r k asInterface ss r', U.Reached o r → U.isDefinition k = true →
      (∀ p ∈ U.arguments k, U.NamedParameter o p) →
      Walk.typeParameters U (TypeProjection.calls U n) asInterface k r = some (ss, r') →
        List.Forall₂ (fun p s => ∃ bounds alternatives,
          U.Declares o n asInterface p bounds alternatives s) (U.arguments k) ss) ∧
    ∀ roots r, U.collect o roots = some r → ∀ d ∈ r.types, U.isDefinition d.source = true →
      (∀ p ∈ U.arguments d.source, U.NamedParameter o p) →
        List.Forall₂ (fun p s => ∃ bounds alternatives,
          U.Declares o U.depth (U.isInterface d.source || o.interfacesOnly) p bounds alternatives s)
          (U.arguments d.source) d.typeParameters := by
  constructor
  · intro n r k asInterface ss r' hr hk hnames h
    have hread := Walk.ends_loose.mp
      ((follow_calls hU o n).typeParameters asInterface k hr.ready) ss r' h
    exact declares_of_parameterTexts hk hnames hread.1
  · intro roots r h d hd hk hnames
    have hrecord := (populated_of_collect hU h).records d hd
    obtain ⟨_, _, hrecord⟩ := Option.bind_eq_some_iff.mp hrecord
    obtain ⟨_, _, hrecord⟩ := Option.bind_eq_some_iff.mp hrecord
    obtain ⟨parameters, hparameters, hrecord⟩ := Option.bind_eq_some_iff.mp hrecord
    obtain ⟨_, _, hrecord⟩ := Option.bind_eq_some_iff.mp hrecord
    have htypeParameters : d.typeParameters = parameters := by
      rw [← Option.some_inj.mp hrecord]
      rfl
    rw [htypeParameters]
    exact declares_of_parameterTexts hk hnames hparameters

/-- A parameter with a bound that is a union, with alternatives and with a constructor. -/
def factory : TypeGraph where
  nodes := [
    ("Factory", { GraphNode.plain "Factory" with isDefinition := true, arguments := ["T"] }),
    ("T", { GraphNode.plain "T" with
      isStructural := false
      isParameter := true
      bounds := ["Either", "Hidden"]
      alternatives := ["A", "Many"]
      needsConstructor := true }),
    ("Either", { GraphNode.plain "Either" with isStructural := false, union := ["A", "B"] }),
    ("Many", { GraphNode.plain "Many" with isStructural := false, element := some "Either" }),
    ("Hidden", { GraphNode.plain "Hidden" with isStructural := false })]

/-- The types in the constraint. -/
def factoryTypes : List String := ["Either", "Hidden", "A", "B", "Many"]

theorem named_factory : factory.types.NamedParameter Options.default "T" where
  name := by decide
  words := by
    have hroots : ∀ t ∈ (factory.types.bounds "T").filter
        (factory.types.keptBound Options.default) ++ factory.types.alternatives "T",
          t ∈ factoryTypes := by decide
    have hparts : ∀ t ∈ factoryTypes, ∀ p ∈ factory.types.parts Options.default t,
        p ∈ factoryTypes := by decide
    have hwords : ∀ u ∈ factoryTypes, ∀ w ∈ factory.types.words Options.default u,
        isNameText w = true := by decide
    exact fun t ht u hu => hwords u (hu.closed hparts (hroots t ht))

/-- The parameter asks for the union that bounds it, for one of its alternatives and for a
constructor. -/
theorem constraints_read_factory : ∃ r, factory.types.collect Options.default ["Factory"] = some r ∧
    r.types.map (·.typeParameters) = [[], [],
      ["T extends (A | B) & (A | Array<A | B>) & \x7b new(): T \x7d"]] ∧
    ∀ d ∈ r.types, d.source = "Factory" →
      List.Forall₂ (fun p s => ∃ bounds alternatives,
        factory.types.Declares Options.default factory.types.depth false p bounds alternatives s)
        ["T"] d.typeParameters := by
  have hrun : (factory.types.collect Options.default ["Factory"]).map
      (fun r => r.types.map (·.typeParameters)) = some [[], [],
        ["T extends (A | B) & (A | Array<A | B>) & \x7b new(): T \x7d"]] := by decide +kernel
  obtain ⟨r, hr, htexts⟩ := Option.map_eq_some_iff.mp hrun
  refine ⟨r, hr, htexts, fun d hd hsource => ?_⟩
  have hread := (constraints_read (o := Options.default) (coherent_of_lawful factory.types)).2
    _ r hr d hd
  rw [hsource] at hread
  refine hread rfl fun p hp => ?_
  rw [List.mem_singleton.mp hp]
  exact named_factory

end Universe

end TypeProjection
