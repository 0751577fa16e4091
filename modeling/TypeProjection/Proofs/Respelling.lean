import TypeProjection.Proofs.BareWorld
import TypeProjection.Proofs.Quotation
import TypeProjection.Walk

/-!
# Respelled annotations

Two worlds that differ only in how annotations of fields are spelled are the same universe: members
have the same types, references are the same texts, and a run over any roots ends in the same
declarations. A spelling is the value of an expression, or a text that writes the expression, with
any of its parts quoted.

Where an annotation is evaluated at once and only a part of it is quoted, the part stays a text, which
may be anything. Such an annotation is no spelling, and its reference is another one.
-/

namespace TypeProjection.Annotation.World

variable {w w' : World} {names : Surroundings} {x x' : Value}

/-- Two annotations that are the same, or spellings of the same expression, both of a field or
neither. -/
inductive SameField (w : World) (names : Surroundings) : Value → Value → Prop
  | refl (x : Value) : w.SameField names x x
  | respelled {e : Expr} {v x x' : Value} (hv : w.evaluate names.scope e = .ok v)
      (hx : w.Spells names e x) (hx' : w.Spells names e x') (hm : marksField x = marksField x') :
      w.SameField names x x'

/-- Two worlds that differ in the spelling of annotations only. -/
structure Respelled (w w' : World) : Prop where
  bare : w.bare = w'.bare
  annotations : ∀ c, List.Forall₂
    (fun a a' => a.1 = a'.1 ∧
      w.SameField ⟨w.classNames c, w.namesOf (w.moduleOf c)⟩ a.2 a'.2)
    (w.annotationsOf c) (w'.annotationsOf c)

theorem SameField.marksField (h : w.SameField names x x') :
    World.marksField x = World.marksField x' := by
  cases h with
  | refl => rfl
  | respelled _ _ _ hm => exact hm

theorem SameField.annotationType {locals : List (String × Value)} {module : String}
    (h : w.SameField ⟨locals, w.namesOf module⟩ x x') :
    w.annotationType locals module x = w.annotationType locals module x' := by
  cases h with
  | refl => rfl
  | respelled hv hx hx' _ =>
    rw [annotationType_of_spells hv hx, annotationType_of_spells hv hx']

theorem map_filter_of_forall₂ {α β : Type} {S : α → α → Prop} {p : α → Bool} {f : α → β}
    {xs ys : List α} (h : List.Forall₂ S xs ys) (hS : ∀ {x y}, S x y → p x = p y ∧ f x = f y) :
    (xs.filter p).map f = (ys.filter p).map f := by
  induction h with
  | nil => rfl
  | @cons x y xs ys hxy _ ih =>
    obtain ⟨hp, hf⟩ := hS hxy
    cases hy : p y with
    | true =>
      rw [List.filter_cons_of_pos (hp.trans hy), List.filter_cons_of_pos hy, List.map_cons,
        List.map_cons, hf, ih]
    | false =>
      rw [List.filter_cons_of_neg (by rw [hp, hy]; exact Bool.false_ne_true),
        List.filter_cons_of_neg (by rw [hy]; exact Bool.false_ne_true), ih]

/-- The fields of a class do not depend on how annotations are spelled. -/
theorem Respelled.fieldsOf (h : w.Respelled w') : w.fieldsOf = w'.fieldsOf := by
  have hannotation : w.annotationType = w'.annotationType := by
    rw [← bare_annotationType w, h.bare, bare_annotationType w']
  have hnames : w.classNames = w'.classNames := by
    rw [← bare_classNames w, h.bare, bare_classNames w']
  have hmodule : w.moduleOf = w'.moduleOf := by
    rw [← bare_moduleOf w, h.bare, bare_moduleOf w']
  funext c
  unfold World.fieldsOf
  rw [← hannotation, ← hnames, ← hmodule]
  refine map_filter_of_forall₂ (h.annotations c) fun {a a'} ha => ?_
  obtain ⟨hname, hfield⟩ := ha
  refine ⟨by rw [hname, hfield.marksField], ?_⟩
  dsimp only
  rw [hname, hfield.annotationType]

/-- Worlds that differ in spelling only are the same universe. -/
theorem Respelled.types_eq (h : w.Respelled w') : w.types = w'.types :=
  types_eq_of_bare_eq h.bare h.fieldsOf

/-- Quotation marks do not matter: members, references and declarations stay the same. -/
theorem quotation_invisible (h : w.Respelled w') :
    w.typeMembers = w'.typeMembers ∧ w.types.resolve = w'.types.resolve ∧
      ∀ (o : Options Value) (roots : List Value),
        w.types.collect o roots = w'.types.collect o roots := by
  have htypes := h.types_eq
  refine ⟨congrArg Universe.members htypes, ?_, fun o roots => ?_⟩
  · rw [htypes]
  · rw [htypes]

/-! A class with a list of another one, whose annotation is spelled in several ways. -/

/-- Are two expressions the same, made of names, texts and indices? -/
def agrees : Expr → Expr → Bool
  | .name a, .name b => a == b
  | .str a, .str b => a == b
  | .subscript a i, .subscript b j => agrees a b && agrees i j
  | _, _ => false

theorem eq_of_agrees {e e' : Expr} (h : agrees e e' = true) : e = e' := by
  induction e, e' using agrees.induct with
  | case1 a b => exact congrArg Expr.name (eq_of_beq h)
  | case2 a b => exact congrArg Expr.str (eq_of_beq h)
  | case3 a i b j iha ihi =>
    obtain ⟨hab, hij⟩ := Bool.and_eq_true_iff.mp h
    rw [iha hab, ihi hij]
  | case4 e e' hname hstr hsubscript =>
    rw [agrees] at h
    · cases h
    all_goals assumption

theorem writes_of_agrees {s : String} {e : Expr}
    (h : (Expr.ofText? s).any (agrees e) = true)
    (hn : Text.isIdentifier s.toList = false ∨ e = .name s) : Writes s e := by
  obtain ⟨e', he', h⟩ := (Option.any_eq_true _ _).mp h
  cases eq_of_agrees h
  exact ⟨he', fun hs _ => hn.resolve_left fun hs' => Bool.false_ne_true (hs'.symm.trans hs)⟩

/-- A class of the module `models` with annotations. -/
def plainClass (name : String) (serial : Nat) (annotations : List (String × Value)) : ClassInfo where
  module := "models"
  name := name
  path := name
  bases := [.root]
  writtenBases := [.cls .root]
  ancestors := [.declared serial, .root]
  metaclass := .plain
  isProtocol := false
  subscription := none
  abstracts := []
  parameters := []
  annotations := annotations
  attributes := []
  members := []
  dataFields := none

/-- A class, and another one with a list of those. -/
def listing (items : Value) : World where
  classes := #[plainClass "A" 0 [("x", .cls (builtin "int"))], plainClass "B" 1 [("items", items)]]
  typeVars := #[]
  paramSpecs := #[]
  newTypes := #[]
  modules := #[
    { name := "models"
      names := [("A", .cls (.declared 0)), ("B", .cls (.declared 1))]
      file := none
      folders := none
      version := none
      isReady := true }]
  current := [("models", 0)]

theorem bare_listing (items items' : Value) : (listing items).bare = (listing items').bare := by
  simp [World.bare, listing, ClassInfo.bare, plainClass]

/-- The names that the annotation can use. -/
def listingNames : Surroundings := ⟨[], [("A", .cls (.declared 0)), ("B", .cls (.declared 1))]⟩

/-- The list as an expression, and the same with the class quoted. -/
def listOf (argument : Expr) : Expr := .subscript (.name "list") argument

theorem quoted_listOf (items : Value) {seen : List String} (hseen : "A" ∉ seen) :
    (listing items).Quoted listingNames 1 seen [listOf (.name "A")] [listOf (.str "A")] := by
  have htarget : (listing items).evaluate listingNames.scope (.name "list") =
      .ok (.cls (builtin "list")) := rfl
  have hclass : (listing items).evaluate listingNames.scope (.name "A") =
      .ok (.cls (.declared 0)) := rfl
  have hmeta : (listing items).metaclassOf (builtin "list") = .plain := rfl
  refine .generic htarget (.native (by rw [hmeta]; decide) rfl (by decide)) rfl ?_ ?_
  · intro _ vs' vs hvs' hvs
    obtain ⟨v, _, hv, hnil, rfl⟩ := evaluateAll_cons.mp hvs
    cases hclass.symm.trans hv
    cases hnil
    cases hvs'
    exact .cons nofun .nil
  refine .text hclass (.inr ⟨nofun, nofun, nofun⟩) rfl hseen
    (writes_of_agrees (by decide) (.inr rfl)) ?_
  exact .kept hclass (.inr (settled_cls _ _))

/-- The annotation as a text in which the class is a text, too, next to its value. -/
theorem quotation_invisible_listing :
    (listing (.str "list['A']")).Respelled
        (listing (.native (builtin "list") [.cls (.declared 0)])) ∧
      (listing (.str "list['A']")).typeMembers (.cls (.declared 1)) =
        [("items", .native (builtin "list") [.cls (.declared 0)])] := by
  have hspell : (listing (.str "list['A']")).Respelled
      (listing (.native (builtin "list") [.cls (.declared 0)])) := by
    refine ⟨bare_listing _ _, fun c => ?_⟩
    match c with
    | .library m n => exact .nil
    | .declared 0 => exact .cons ⟨rfl, .refl _⟩ .nil
    | .declared 1 =>
      refine .cons ⟨rfl, .respelled (e := listOf (.name "A")) rfl ?_ ?_ ?_⟩ .nil
      · exact .text (writes_of_agrees (by decide +kernel) (.inl rfl)) (by decide)
          (quoted_listOf _ (by decide))
      · exact .evaluated rfl nofun nofun
      · rfl
    | .declared (i + 2) => exact .nil
  refine ⟨hspell, ?_⟩
  rw [(quotation_invisible hspell).1]
  rfl

/-- Declarations with their members, as texts. -/
def memberTexts (r : Registry Value) : List (String × List (String × String)) :=
  r.types.map fun d => (d.name, d.members.map fun m => (m.name, m.reference))

/-- Quotation marks do matter inside of an annotation that is evaluated at once: the text stays, and
the class that it names is neither referred to nor declared. -/
theorem quotation_not_always_invisible :
    ¬ ∀ w w' : World, w.bare = w'.bare →
      (∀ c, List.Forall₂
        (fun a a' => a = a' ∨ a.1 = a'.1 ∧
          ∃ names e e' n, names = ⟨w.classNames c, w.namesOf (w.moduleOf c)⟩ ∧
            w.evaluate names.scope e = .ok a.2 ∧ w.evaluate names.scope e' = .ok a'.2 ∧
            w.Quoted names n [] [e] [e'])
        (w.annotationsOf c) (w'.annotationsOf c)) →
      ∀ (o : Options Value) (roots : List Value),
        w.types.collect o roots = w'.types.collect o roots := by
  intro hall
  have hsame := hall (listing (.native (builtin "list") [.cls (.declared 0)]))
    (listing (.native (builtin "list") [.str "A"])) (bare_listing _ _) (fun c => ?_)
    Options.default [.cls (.declared 1)]
  · have hresolved : ((listing (.native (builtin "list") [.cls (.declared 0)])).types.collect
        Options.default [.cls (.declared 1)]).map memberTexts =
          some [("B", [("items", "Array<A>")]), ("A", [("x", "number")])] := by decide +kernel
    have hkept : ((listing (.native (builtin "list") [.str "A"])).types.collect
        Options.default [.cls (.declared 1)]).map memberTexts =
          some [("B", [("items", "Array<any>")])] := by decide +kernel
    rw [hsame, hkept] at hresolved
    exact absurd hresolved (by decide)
  · match c with
    | .library m n => exact .nil
    | .declared 0 => exact .cons (.inl rfl) .nil
    | .declared 1 =>
      refine .cons (.inr ⟨rfl, listingNames, _, _, 1, rfl, ?_, ?_, quoted_listOf _ (by decide)⟩) .nil
      · rfl
      · rfl
    | .declared (i + 2) => exact .nil

end TypeProjection.Annotation.World
