import TypeProjection.Proofs.ReferenceGrammar
import TypeProjection.Session.Import

/-!
# What an entry of a header names

A supertype is let into a header because it is a structure, and then it is referred to like any
other type. A structure of a world answers none of the questions that are asked before, with one
exception: the options may replace it. So an entry is the name of a declared type, with its
arguments, unless the supertype behind it is replaced. Then the supertype is declared all the same,
and the entry is the replacement.
-/

namespace TypeProjection

namespace Universe

variable {τ : Type} {U : Universe τ} {K : τ → Prop} {o : Options τ} {n : Nat} {t : τ}

/-- A structure answers no question that is asked before that for structures. -/
structure Separated (U : Universe τ) : Prop where
  parameter : ∀ t, U.isStructural t = true → U.isParameter t = false
  enumeration : ∀ t, U.isStructural t = true → U.isEnum t = false
  primitive : ∀ t, U.isStructural t = true → U.primitive t = none
  union : ∀ t, U.isStructural t = true → U.union t = []
  element : ∀ t, U.isStructural t = true → U.element t = none
  keyValue : ∀ t, U.isStructural t = true → U.keyValue t = none
  tuple : ∀ t, U.isStructural t = true → U.tuple t = none

/-- The shape of a structure depends on the replacements alone. -/
theorem shape_of_isStructural (hU : U.Separated) (ht : U.isStructural t = true) :
    U.shape o t = match o.overrides.lookup (U.displayName t) with
      | some reference => .overridden reference
      | none => .declared := by
  unfold shape
  rw [hU.parameter t ht, hU.enumeration t ht, hU.primitive t ht, hU.union t ht, hU.element t ht,
    hU.keyValue t ht, hU.tuple t ht, ht]
  rfl

/-- The reference to a declared structure is its name, with arguments or without. -/
theorem reading_of_declared (hU : U.Filled) (hs : U.shape o t = .declared)
    (hk : U.skipped o t = false) {s : String} (h : U.reading o n t = some s) :
    s = o.rename (U.name (U.normal t)) ∨ ∃ arguments, arguments ≠ [] ∧
      s = o.rename (U.name (U.normal t)) ++ argumentText arguments := by
  cases n with
  | zero => cases h
  | succ n =>
    simp only [reading, readingFrom, hs, hk, Bool.false_eq_true, ↓reduceIte] at h
    split_ifs at h with hc hd
    · obtain ⟨items, hitems, rfl⟩ := Option.map_eq_some_iff.mp h
      refine .inr ⟨items, ?_, rfl⟩
      rintro rfl
      have hread := mapM_eq_some hitems
      exact hU.constructed t hc (List.forall₂_nil_right_iff.mp hread)
    · cases h
      refine .inr ⟨_, ?_, rfl⟩
      simpa using hU.definition t (Bool.eq_false_iff.mpr hc) hd
    · cases h
      exact .inl rfl

variable [BEq τ]

/-- A text names a type that is declared for a key, with arguments or without. -/
def NamesDeclared (r : Registry τ) (k : τ) (s : String) : Prop :=
  ∃ e ∈ r.types, (e.source == k) = true ∧
    (s = e.name ∨ ∃ arguments, arguments ≠ [] ∧ s = e.name ++ argumentText arguments)

/-- A direct supertype in a header is referred to by its replacement or by the name of its
declaration. -/
theorem names_of_mentioned (hU : U.Coherent K) (hfilled : U.Filled) (hsep : U.Separated)
    {r : Registry τ} {roots : List τ} (h : U.collect o roots = some r) {k m : τ} {s : String}
    (hm : U.emitted o m = true) (hneeds : ∀ i, U.Mentions o m i → U.Needs o k i)
    (hk : U.Required o roots (.type k)) (hread : U.reading o n m = some s) :
    (o.overrides.lookup (U.displayName m) = none ∧ NamesDeclared r (U.normal m) s) ∨
      o.overrides.lookup (U.displayName m) = some s := by
  have hpopulated := populated_of_collect hU h
  have hstructural := isStructural_of_emitted hm
  have hskip : U.skipped o m = false := by
    unfold emitted at hm
    simpa [hstructural] using hm
  have hshape := shape_of_isStructural (o := o) hsep hstructural
  cases hlookup : o.overrides.lookup (U.displayName m) with
  | some reference =>
    rw [hlookup] at hshape
    cases n with
    | zero => cases hread
    | succ n =>
      simp only [reading, readingFrom, hshape] at hread
      exact .inr hread
  | none =>
    rw [hlookup] at hshape
    have hrequired := Reach.step hk not_false (hneeds _ (.self hm))
    obtain ⟨e, he, hem⟩ := hpopulated.typesFound _ hrequired
    have hname : e.name = o.rename (U.name (U.normal m)) := by
      rw [(declaration_source_name (hpopulated.records e he)).2,
        (hU.alike _ _ (hU.structural m hstructural) hem).name]
    refine .inl ⟨rfl, e, he, hem, ?_⟩
    rw [hname]
    exact reading_of_declared hfilled hshape hskip hread

/-- Every entry of a header is the default base, or it stands for a direct supertype. -/
theorem entry_cases {d : TypeDeclaration τ} (h : U.declaration o n d.source = some d) {s : String}
    (hs : s ∈ d.bases ++ d.implements) :
    (U.emittedBase o d.source = none ∧ U.defaultBaseText o d.source = some s) ∨
    ∃ m ∈ U.directSupertypes d.source, U.emitted o m = true ∧ U.reading o n m = some s ∧
      ∀ i, U.Mentions o m i → U.Needs o d.source i := by
  obtain ⟨ts, hsurvivors, base, refs, hbase, hrefs, hheritage⟩ := lists_of_record h
  rw [hheritage, List.mem_append] at hs
  rcases hs with hs | hs
  · rw [Option.mem_toList, Option.filter_eq_some_iff] at hs
    unfold baseText at hbase
    cases hb : U.emittedBase o d.source with
    | none =>
      rw [hb, Option.some_inj] at hbase
      exact .inl ⟨rfl, hbase.trans hs.1⟩
    | some b =>
      rw [hb] at hbase
      obtain ⟨s', hread, hs'⟩ := Option.map_eq_some_iff.mp hbase
      rw [← hs', Option.some_inj] at hs
      have hbase? : U.base d.source = some b := (Option.filter_eq_some_iff.mp hb).1
      refine .inr ⟨b, ?_, emitted_of_emittedBase hb, hs.1 ▸ hread, fun i hi => .inl (.base hb hi)⟩
      exact List.mem_append_left _ (Option.mem_toList.mpr hbase?)
  · obtain ⟨t, ht, hread⟩ := exists_of_forall₂ (mapM_eq_some hrefs) hs
    obtain ⟨implied, _, hts⟩ := Option.map_eq_some_iff.mp hsurvivors
    have hmem := mem_survivingFrom (hts ▸ ht)
    refine .inr ⟨t, ?_, hmem.2.1, hread, fun i hi => .inl (.interface hsurvivors ht hi)⟩
    exact List.mem_append_right _ hmem.1

end Universe

namespace Annotation.World

open Universe

variable {w : World}

/-- The classes behind the values that answer a question before that for structures. -/
def answeringClasses : List ClassRef :=
  scalarKinds.map Prod.fst ++ sequenceClasses ++ mappingClasses ++
    [builtin "tuple", Value.unionClass]

/-- Whether a class is of one of the modules whose classes are no structures. -/
def isMachinery : ClassRef → Bool
  | .library module _ => machineryModules.contains module
  | .declared _ => false

/-- None of them is of a module whose classes can be structures. -/
theorem Declarable.not_mem {c : ClassRef} (hc : w.Declarable c) : c ∉ answeringClasses := by
  intro h
  have hall : answeringClasses.all isMachinery = true := by decide
  have hmachinery := List.all_eq_true.mp hall c h
  cases c with
  | library module name => exact Bool.false_ne_true (hc.symm.trans hmachinery)
  | declared serial => exact Bool.false_ne_true hmachinery

theorem exists_declarable {t : Value} (ht : w.isStructuralType t = true) :
    ∃ c, t.class? = some c ∧ w.Declarable c := by
  cases hc : t.class? with
  | none =>
    unfold isStructuralType at ht
    rw [hc] at ht
    cases ht
  | some c => exact ⟨c, rfl, declarable_of_isStructuralType hc ht⟩

theorem types_separated (w : World) : w.types.Separated where
  parameter t ht := by
    obtain ⟨c, hc, -⟩ := exists_declarable ht
    cases t with
    | typeVar i => cases hc
    | _ => rfl
  enumeration t ht := by
    obtain ⟨c, hc, -⟩ := exists_declarable ht
    change w.isStructuralType t = true at ht
    unfold isStructuralType at ht
    rw [hc] at ht
    have hc' : w.isEnumeration c = false := by simpa using (Bool.and_eq_true_iff.mp ht).1
    change (t.class?.map w.isEnumeration).getD false = false
    rw [hc]
    exact hc'
  primitive t ht := by
    obtain ⟨c, hc, hd⟩ := exists_declarable ht
    cases t with
    | cls d =>
      rw [Value.class?_cls] at hc
      cases hc
      change scalarKinds.lookup c = none
      cases hlookup : scalarKinds.lookup c with
      | none => rfl
      | some kind =>
        refine (hd.not_mem ?_).elim
        have hmem := List.mem_map_of_mem (f := Prod.fst) (mem_of_lookup hlookup)
        simp only [answeringClasses, List.mem_append]
        exact .inl (.inl (.inl hmem))
    | _ => rfl
  union t ht := by
    obtain ⟨c, hc, hd⟩ := exists_declarable ht
    cases t with
    | union piped members =>
      cases piped with
      | false => cases hc
      | true =>
        cases hc
        exact (hd.not_mem (by decide)).elim
    | _ => rfl
  element t ht := by
    obtain ⟨c, hc, hd⟩ := exists_declarable ht
    have hsequence : sequenceClasses.contains c = false := by
      rw [← Bool.not_eq_true, List.contains_iff_mem]
      intro hmem
      refine hd.not_mem ?_
      simp only [answeringClasses, List.mem_append]
      exact .inl (.inl (.inr hmem))
    have htuple : (c == builtin "tuple") = false := by
      rw [beq_eq_false_iff_ne]
      rintro rfl
      exact hd.not_mem (by decide)
    change w.elementOf t = none
    unfold elementOf containerOf
    rw [hc]
    simp only [hsequence, htuple, Bool.false_and, Bool.false_eq_true, ↓reduceIte]
  keyValue t ht := by
    obtain ⟨c, hc, hd⟩ := exists_declarable ht
    have hmapping : mappingClasses.contains c = false := by
      rw [← Bool.not_eq_true, List.contains_iff_mem]
      intro hmem
      refine hd.not_mem ?_
      simp only [answeringClasses, List.mem_append]
      exact .inl (.inr hmem)
    change w.keyValueOf t = none
    unfold keyValueOf containerOf
    rw [hc]
    simp only [hmapping, Bool.false_eq_true, ↓reduceIte]
  tuple t ht := by
    obtain ⟨c, hc, hd⟩ := exists_declarable ht
    have htuple : (some c == some (builtin "tuple")) = false := by
      rw [beq_eq_false_iff_ne]
      intro h
      cases h
      exact hd.not_mem (by decide)
    change w.tupleOf t = none
    unfold tupleOf containerOf
    rw [hc, htuple]
    rfl

/-- An entry of a header is the default base, the name of a declared supertype with its arguments,
or the replacement of a supertype that the options replace. -/
theorem heritage_names {o : Options Value} {roots : List Value} {r : Registry Value}
    {d : TypeDeclaration Value} {s : String} (h : w.types.collect o roots = some r)
    (hd : d ∈ r.types) (hs : s ∈ d.bases ++ d.implements) :
    (w.types.emittedBase o d.source = none ∧ w.types.defaultBaseText o d.source = some s) ∨
    ∃ m ∈ w.types.directSupertypes d.source, w.types.emitted o m = true ∧
      ((o.overrides.lookup (w.displayName m) = none ∧ NamesDeclared r (w.types.normal m) s) ∨
        o.overrides.lookup (w.displayName m) = some s) := by
  have hpopulated := populated_of_collect (types_coherent w) h
  rcases entry_cases (hpopulated.records d hd) hs with hdefault | ⟨m, hmem, hm, hread, hneeds⟩
  · exact .inl hdefault
  · exact .inr ⟨m, hmem, hm, names_of_mentioned (types_coherent w) (types_filled w)
      (types_separated w) h hm hneeds (hpopulated.typesRequired d hd) hread⟩

/-- A class that extends a library class, and one that extends the class. -/
def ticketModule : Definition.Source where
  postponed := false
  definitions := [
    .cls (.mk "Ticket" ["uuid.UUID"] [] "" [.field "seat" "int" none]),
    .cls (.mk "Paid" ["Ticket"] [] "" [])]

def tickets : World := (runAlone initial "models" ticketModule).1

/-- What the headers name, next to the names of the declarations. -/
def heritageTexts (r : Registry Value) : List (String × List String) :=
  r.types.map fun d => (d.name, d.bases ++ d.implements)

theorem heritageTexts_tickets :
    (tickets.types.collect Options.default [.cls (.declared 1)]).map heritageTexts =
      some [("UUID", []), ("Ticket", ["string"]), ("Paid", ["Ticket"])] := by
  decide +kernel

theorem heritage_names_tickets : ∃ r, tickets.types.collect Options.default [.cls (.declared 1)] =
    some r ∧ ∃ d ∈ r.types, d.name = "Paid" ∧ "Ticket" ∈ d.bases ++ d.implements ∧
      ((tickets.types.emittedBase Options.default d.source = none ∧
          tickets.types.defaultBaseText Options.default d.source = some "Ticket") ∨
        ∃ m ∈ tickets.types.directSupertypes d.source,
          tickets.types.emitted Options.default m = true ∧
          ((defaultOverrides.lookup (tickets.displayName m) = none ∧
              NamesDeclared r (tickets.types.normal m) "Ticket") ∨
            defaultOverrides.lookup (tickets.displayName m) = some "Ticket")) := by
  obtain ⟨r, hr, htexts⟩ := Option.map_eq_some_iff.mp heritageTexts_tickets
  have hpaid : ("Paid", ["Ticket"]) ∈ heritageTexts r := by
    rw [htexts]
    decide
  obtain ⟨d, hd, hpair⟩ := List.mem_map.mp hpaid
  have hname : d.name = "Paid" := congrArg Prod.fst hpair
  have hs : "Ticket" ∈ d.bases ++ d.implements := by
    rw [show d.bases ++ d.implements = ["Ticket"] from congrArg Prod.snd hpair]
    decide
  exact ⟨r, hr, d, hd, hname, hs, heritage_names hr hd hs⟩

/-- With the replacements that are used when none are given, a header can name no declared type,
although the type behind the entry is declared. -/
theorem heritage_not_always_declared :
    ¬ ∀ (w : World) (o : Options Value) (roots : List Value) (r : Registry Value),
      w.types.collect o roots = some r → ∀ d ∈ r.types, ∀ s ∈ d.bases ++ d.implements,
        (w.types.emittedBase o d.source = none ∧ w.types.defaultBaseText o d.source = some s) ∨
        ∃ e ∈ r.types, s = e.name ∨ ∃ arguments, s = e.name ++ argumentText arguments := by
  intro hall
  obtain ⟨r, hr, htexts⟩ := Option.map_eq_some_iff.mp heritageTexts_tickets
  have hticket : ("Ticket", ["string"]) ∈ heritageTexts r := by
    rw [htexts]
    decide
  obtain ⟨d, hd, hpair⟩ := List.mem_map.mp hticket
  have hs : "string" ∈ d.bases ++ d.implements := by
    rw [show d.bases ++ d.implements = ["string"] from congrArg Prod.snd hpair]
    decide
  rcases hall tickets Options.default _ r hr d hd "string" hs with hdefault | ⟨e, he, hnames⟩
  · exact nomatch hdefault.2
  · have hename : e.name ∈ (heritageTexts r).map Prod.fst :=
      List.mem_map.mpr ⟨_, List.mem_map_of_mem he, rfl⟩
    rw [htexts] at hename
    obtain ⟨rest, hrest⟩ : ∃ rest, "string" = e.name ++ rest := by
      rcases hnames with hnames | ⟨arguments, hnames⟩
      · exact ⟨"", by rw [String.append_empty, hnames]⟩
      · exact ⟨_, hnames⟩
    have hfirst := congrArg (fun s => s.toList.head?) hrest
    simp only [List.map_cons, List.map_nil, List.mem_cons, List.not_mem_nil, or_false] at hename
    rcases hename with hename | hename | hename
    · simp [hename] at hfirst
    · simp [hename] at hfirst
    · simp [hename] at hfirst

end Annotation.World

end TypeProjection
