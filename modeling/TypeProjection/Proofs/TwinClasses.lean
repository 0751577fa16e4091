import TypeProjection.Proofs.EvaluationGrowth
import TypeProjection.Proofs.OutlinedClasses

/-!
# Classes built of related bodies

Two bodies have the same names, and what stands under a name in one of them is related to what
stands under it in the other. In worlds with one outline, a class that can be built of the first
body can be built of the second one, and what is known of the two classes is related, too. Only
models and data classes look at annotations: at whether they are of variables of the class.
-/

namespace TypeProjection.Definition

open Annotation

/-- Whatever the first computation gives, the second one gives something related. -/
def Mirrors {α β : Type} (R : α → β → Prop) (x : Except Fault α) (x' : Except Fault β) : Prop :=
  ∀ a, x = .ok a → ∃ b, x' = .ok b ∧ R a b

section Mirrors

variable {α β γ δ : Type} {R : α → β → Prop} {S : γ → δ → Prop} {x : Except Fault α}
  {x' : Except Fault β}

theorem mirrors_ok {a : α} {b : β} (h : R a b) : Mirrors R (.ok a) (.ok b) :=
  fun _ ha => by cases ha; exact ⟨b, rfl, h⟩

theorem mirrors_error {f : Fault} : Mirrors R (.error f) x' := fun _ h => nomatch h

theorem Mirrors.bind {f : α → Except Fault γ} {f' : β → Except Fault δ} (h : Mirrors R x x')
    (hf : ∀ a b, x = .ok a → R a b → Mirrors S (f a) (f' b)) : Mirrors S (x >>= f) (x' >>= f') := by
  cases x with
  | error e => exact mirrors_error
  | ok a =>
    obtain ⟨b, rfl, hab⟩ := h a rfl
    exact hf a b rfl hab

/-- Two computations that go on alike after the same step. -/
theorem mirrors_bind {f : α → Except Fault γ} {f' : α → Except Fault δ}
    (hf : ∀ a, x = .ok a → Mirrors S (f a) (f' a)) : Mirrors S (x >>= f) (x >>= f') := by
  cases x with
  | error e => exact mirrors_error
  | ok a => exact hf a rfl

theorem mirrors_ite {c : Prop} [Decidable c] {y : Except Fault α} {y' : Except Fault β}
    (hx : c → Mirrors R x x') (hy : ¬ c → Mirrors R y y') :
    Mirrors R (if c then x else y) (if c then x' else y') := by
  split
  · exact hx ‹_›
  · exact hy ‹_›

/-- A check that may be left out changes nothing about what is given. -/
theorem mirrors_check {c : Bool} {y : Except Fault Unit} {f : Unit → Except Fault γ}
    {f' : Unit → Except Fault δ} (hf : Mirrors S (f ()) (f' ())) :
    Mirrors S (if c then do let r ← y; f r else f ()) (if c then do let r ← y; f' r else f' ()) :=
  mirrors_ite (fun _ => mirrors_bind fun _ _ => hf) fun _ => hf

/-- A check that refuses is passed by both. -/
theorem mirrors_refusal {c : Bool} {e : Fault} {f : Unit → Except Fault γ}
    {f' : Unit → Except Fault δ} (hf : c = false → Mirrors S (f ()) (f' ())) :
    Mirrors S (if c then do let r ← .error e; f r else f ())
      (if c then do let r ← .error e; f' r else f' ()) := by
  cases c with
  | true => exact mirrors_error
  | false => exact hf rfl

theorem mirrors_mapM {f : α → Except Fault γ} {f' : β → Except Fault δ} {xs : List α}
    {ys : List β} (h : List.Forall₂ (fun x y => Mirrors S (f x) (f' y)) xs ys) :
    Mirrors (List.Forall₂ S) (xs.mapM f) (ys.mapM f') := by
  induction h with
  | nil => exact mirrors_ok .nil
  | cons hxy _ ih =>
    rw [List.mapM_cons, List.mapM_cons]
    exact hxy.bind fun _ _ _ hs => ih.bind fun _ _ _ hss => mirrors_ok (.cons hs hss)

end Mirrors

/-! Lists of names with related meanings. -/

section Lists

variable {α β : Type} {R : String × α → String × β → Prop} {xs : List (String × α)}
  {ys : List (String × β)}

theorem names_eq (h : List.Forall₂ R xs ys) (hR : ∀ x y, R x y → x.1 = y.1) :
    xs.map (·.1) = ys.map (·.1) := by
  induction h with
  | nil => rfl
  | cons hxy _ ih => rw [List.map_cons, List.map_cons, hR _ _ hxy, ih]

/-- A choice by names keeps related lists related. -/
theorem forall₂_filter_names (p : String → Bool) (h : List.Forall₂ R xs ys)
    (hR : ∀ x y, R x y → x.1 = y.1) :
    List.Forall₂ R (xs.filter fun x => p x.1) (ys.filter fun y => p y.1) := by
  induction h with
  | nil => exact .nil
  | @cons x y xs ys hxy _ ih =>
    rw [List.filter_cons, List.filter_cons, hR _ _ hxy]
    split
    · exact .cons hxy ih
    · exact ih

theorem forall₂_putPair {name : String} {a : α} {b : β} (h : List.Forall₂ R xs ys)
    (hR : ∀ x y, R x y → x.1 = y.1) (hab : ∀ n, n = name → R (n, a) (n, b)) :
    List.Forall₂ R (putPair name a xs) (putPair name b ys) := by
  induction h with
  | nil => exact .cons (hab name rfl) .nil
  | @cons x y xs ys hxy _ ih =>
    obtain ⟨n, x⟩ := x
    obtain ⟨m, y⟩ := y
    cases (hR _ _ hxy : n = m)
    unfold putPair
    cases hn : n == name with
    | true => exact .cons (hab n (eq_of_beq hn)) ‹_›
    | false => exact .cons hxy ih

theorem forall₂_putPairs {xs' : List (String × α)} {ys' : List (String × β)}
    (h : List.Forall₂ R xs ys) (h' : List.Forall₂ R xs' ys') (hR : ∀ x y, R x y → x.1 = y.1) :
    List.Forall₂ R (putPairs xs xs') (putPairs ys ys') := by
  induction h' generalizing xs ys with
  | nil => exact h
  | @cons x y xs' ys' hxy _ ih =>
    refine ih (?_ : List.Forall₂ R (putPair x.1 x.2 xs) (putPair y.1 y.2 ys))
    rw [← hR _ _ hxy]
    refine forall₂_putPair h hR fun n hn => ?_
    obtain ⟨m, y⟩ := y
    cases hn
    cases hR _ _ hxy
    exact hxy

/-- Names have related meanings, or none. -/
theorem lookup_of_forall₂ (h : List.Forall₂ R xs ys) (hR : ∀ x y, R x y → x.1 = y.1)
    (name : String) :
    (xs.lookup name = none ∧ ys.lookup name = none) ∨
      ∃ x y, xs.lookup name = some x ∧ ys.lookup name = some y ∧ R (name, x) (name, y) := by
  induction h with
  | nil => exact .inl ⟨rfl, rfl⟩
  | @cons x y xs ys hxy _ ih =>
    obtain ⟨n, x⟩ := x
    obtain ⟨m, y⟩ := y
    cases (hR _ _ hxy : n = m)
    rw [List.lookup_cons, List.lookup_cons]
    cases hn : name == n with
    | true =>
      cases eq_of_beq hn
      exact .inr ⟨x, y, rfl, rfl, hxy⟩
    | false => exact ih

end Lists

/-! What is known of two classes. -/

/-- The header makes a class that keeps its annotations as they are. -/
def IsOrdinary (h : Header) : Prop :=
  h.entries.contains .namedTuple = false ∧ h.metaclass ≠ .typedDict

/-- The header makes a dictionary with fixed keys. -/
def IsDict (h : Header) : Prop :=
  h.entries.contains .namedTuple = false ∧ h.metaclass = .typedDict

/-- How annotations are related, and how attributes are. -/
structure Likeness where
  field : String × Value → String × Value → Prop
  entry : String × Attribute → String × Attribute → Prop
  field_name : ∀ a t, field a t → a.1 = t.1
  entry_name : ∀ a t, entry a t → a.1 = t.1
  entry_outline : ∀ a t, entry a t → a.2.outline = t.2.outline
  entry_value : ∀ n v, entry (n, .value v) (n, .value v)

namespace Likeness

variable {l : Likeness} {w w' : World} {h : Header} {body body' : Body} {info info' : ClassInfo}

/-- Two bodies are alike. -/
structure Bodies (l : Likeness) (body body' : Body) : Prop where
  annotations : List.Forall₂ l.field body.annotations body'.annotations
  attributes : List.Forall₂ l.entry body.attributes body'.attributes

/-- Two classes are alike. -/
structure Infos (l : Likeness) (info info' : ClassInfo) : Prop where
  outline : info.outline = info'.outline
  annotations : List.Forall₂ l.field info.annotations info'.annotations
  attributes : List.Forall₂ l.entry info.attributes info'.attributes

/-- Both annotations of a name are of variables of the class, or neither is. -/
def Agreeing (annotations annotations' : List (String × Value)) : Prop :=
  List.Forall₂ (fun a t => a.1 = t.1 ∧ isClassVar a.2 = isClassVar t.2) annotations annotations'

theorem outlined_eq {xs ys : List (String × Attribute)} (h : List.Forall₂ l.entry xs ys) :
    outlined xs = outlined ys := by
  induction h with
  | nil => rfl
  | cons hxy _ ih =>
    unfold outlined at ih ⊢
    rw [List.map_cons, List.map_cons, ih, l.entry_name _ _ hxy, l.entry_outline _ _ hxy]

theorem missingMethods_eq (hw : w.outline = w'.outline) {xs ys : List (String × Attribute)}
    (h : List.Forall₂ l.entry xs ys) (header : Header) (order : List ClassRef) :
    missingMethods w header xs order = missingMethods w' header ys order := by
  rw [← outline_missingMethods w, ← outline_missingMethods w', hw, outlined_eq h]

/-- Does a model keep the value of a name in its class? -/
def keepsValue (annotations : List (String × Value)) (name : String) : Bool :=
  (annotations.lookup name).all isClassVar

theorem modelAttributes_eq (body : Body) :
    modelAttributes body = body.attributes.filter fun a => keepsValue body.annotations a.1 := by
  unfold modelAttributes keepsValue
  congr 1
  funext a
  cases body.annotations.lookup a.1 <;> rfl

theorem modelAttributes_alike (hb : l.Bodies body body')
    (hagree : Agreeing body.annotations body'.annotations) :
    List.Forall₂ l.entry (modelAttributes body) (modelAttributes body') := by
  have hkeeps : keepsValue body'.annotations = keepsValue body.annotations := by
    funext n
    unfold keepsValue
    rcases lookup_of_forall₂ hagree (fun _ _ h => h.1) n with ⟨h, h'⟩ | ⟨x, y, h, h', hxy⟩
    · rw [h, h']
    · rw [h, h', Option.all_some, Option.all_some, hxy.2]
  rw [modelAttributes_eq, modelAttributes_eq, hkeeps]
  exact forall₂_filter_names _ hb.attributes l.entry_name

theorem mirrors_buildOrdinary (hw : w.outline = w'.outline) (hb : l.Bodies body body')
    (hagree : h.metaclass = .model → Agreeing body.annotations body'.annotations) :
    Mirrors l.Infos (buildOrdinary w h body) (buildOrdinary w' h body') := by
  have hprotocol : checkProtocol w' = checkProtocol w :=
    (World.eq_of_outline outline_checkProtocol hw).symm
  have horder : lookupOrder w' = lookupOrder w := (World.eq_of_outline outline_lookupOrder hw).symm
  have hparameters : typeParameters w' = typeParameters w :=
    (World.eq_of_outline outline_typeParameters hw).symm
  have hattributes : List.Forall₂ l.entry
      (if h.metaclass == .model then modelAttributes body else body.attributes)
      (if h.metaclass == .model then modelAttributes body' else body'.attributes) := by
    split
    · next hm => exact modelAttributes_alike hb (hagree (eq_of_beq hm))
    · exact hb.attributes
  unfold buildOrdinary
  rw [hprotocol, horder, hparameters]
  extract_lets bases protocolBase written build build'
  refine mirrors_check (mirrors_bind fun order _ => ?_)
  extract_lets isProtocol finish finish'
  have hfinish : ∀ vs, Mirrors l.Infos (finish vs) (finish' vs) := by
    intro vs
    refine mirrors_check (mirrors_check (mirrors_ok ⟨?_, hb.annotations, hattributes⟩))
    unfold ClassInfo.outline
    dsimp only
    rw [missingMethods_eq hw hb.attributes]
    congr 1
    exact outlined_eq hattributes
  exact mirrors_ite (fun _ => mirrors_bind fun vs _ => hfinish vs)
    fun _ => mirrors_bind fun vs _ => hfinish vs

/-- Annotations that are checked one by one stay alike. -/
def Checks (l : Likeness) (annotations annotations' : List (String × Value)) : Prop :=
  List.Forall₂ (fun a t => a.1 = t.1 ∧ ∀ (w : World) (use : World.TypeUse),
    Mirrors (fun v u => l.field (a.1, v) (t.1, u)) (w.checkType use a.2) (w.checkType use t.2))
    annotations annotations'

theorem mirrors_checkedAnnotations {annotations annotations' : List (String × Value)}
    {use : String × Value → World.TypeUse} (h : l.Checks annotations annotations')
    (huse : ∀ a t, a.1 = t.1 → use a = use t) :
    Mirrors (List.Forall₂ l.field)
      (annotations.mapM fun a => do
        let v ← w.checkType (use a) a.2
        return (a.1, v))
      (annotations'.mapM fun a => do
        let v ← w.checkType (use a) a.2
        return (a.1, v)) := by
  refine mirrors_mapM (h.imp fun a t hat => ?_)
  rw [huse a t hat.1]
  exact (hat.2 w (use t)).bind fun v u _ hvu => mirrors_ok hvu

theorem checkDefaults_eq {xs ys : List (String × Attribute)} (h : List.Forall₂ l.entry xs ys)
    (done names : List String) : checkDefaults xs done names = checkDefaults ys done names := by
  have hsome : ∀ n, (xs.lookup n).isSome = (ys.lookup n).isSome := by
    intro n
    rcases lookup_of_forall₂ h l.entry_name n with ⟨h, h'⟩ | ⟨x, y, h, h', -⟩
    · rw [h, h']
    · rw [h, h']
      rfl
  induction names generalizing done with
  | nil => rfl
  | cons n names ih => rw [checkDefaults, checkDefaults, hsome, ih, ih]

theorem forall₂_values (l : Likeness) (names : List String) {v : Value} :
    List.Forall₂ l.entry (names.map fun n => (n, .value v)) (names.map fun n => (n, .value v)) := by
  induction names with
  | nil => exact .nil
  | cons n names ih => exact .cons (l.entry_value n v) ih

theorem mirrors_buildNamedTuple (hw : w.outline = w'.outline) (hb : l.Bodies body body')
    (hchecks : l.Checks body.annotations body'.annotations) :
    Mirrors l.Infos (buildNamedTuple w h body) (buildNamedTuple w' h body') := by
  have hcheck : w'.checkType = w.checkType := (World.eq_of_outline World.outline_checkType hw).symm
  have horder : lookupOrder w' = lookupOrder w := (World.eq_of_outline outline_lookupOrder hw).symm
  have hparameters : typeParameters w' = typeParameters w :=
    (World.eq_of_outline outline_typeParameters hw).symm
  have hnames := names_eq hb.annotations l.field_name
  have hattributeNames := names_eq hb.attributes l.entry_name
  unfold buildNamedTuple
  rw [hcheck, horder, hparameters, ← hnames, ← hattributeNames]
  extract_lets fits names isGeneric bases fields build names' fields' build'
  have hdefaults : checkDefaults body'.attributes [] names' = checkDefaults body.attributes [] names :=
    (checkDefaults_eq hb.attributes [] names).symm
  have hattributes : List.Forall₂ l.entry
      (fields ++ body.attributes.filter fun a => !names.contains a.1)
      (fields' ++ body'.attributes.filter fun a => !names'.contains a.1) := by
    refine List.rel_append (forall₂_values l names) ?_
    exact forall₂_filter_names (fun n => !names.contains n) hb.attributes l.entry_name
  refine mirrors_check ?_
  unfold build build'
  rw [hdefaults]
  refine mirrors_bind fun _ _ => (mirrors_checkedAnnotations hchecks ?_).bind
    fun annotations annotations' _ hannotations => ?_
  · intro a t hat
    rw [hat]
  extract_lets make finish checkNames make' finish' checkNames'
  have hmake : ∀ vs, Mirrors l.Infos (make vs) (make' vs) := by
    intro vs
    refine mirrors_ok ⟨?_, hannotations, hattributes⟩
    unfold ClassInfo.outline
    dsimp only
    congr 1
    exact outlined_eq hattributes
  have hfinish : ∀ r, Mirrors l.Infos (finish r) (finish' r) := fun _ =>
    mirrors_bind fun _ _ => mirrors_ite (fun _ => mirrors_bind fun vs _ => hmake vs)
      fun _ => mirrors_bind fun vs _ => hmake vs
  have hcheckNames : ∀ r, Mirrors l.Infos (checkNames r) (checkNames' r) := by
    intro r
    unfold checkNames checkNames'
    split
    · exact mirrors_bind fun r _ => hfinish r
    · exact hfinish ()
  have hnames' : names' = names := rfl
  rw [hnames']
  split
  · exact mirrors_bind fun r _ => hcheckNames r
  · exact hcheckNames ()

theorem inherited_alike {bases : List ClassRef}
    (h : ∀ c ∈ bases, List.Forall₂ l.field (w.annotationsOf c) (w'.annotationsOf c))
    {xs ys : List (String × Value)} (hxy : List.Forall₂ l.field xs ys) :
    List.Forall₂ l.field (bases.foldl (fun all c => putPairs all (w.annotationsOf c)) xs)
      (bases.foldl (fun all c => putPairs all (w'.annotationsOf c)) ys) := by
  induction bases generalizing xs ys with
  | nil => exact hxy
  | cons c bases ih =>
    obtain ⟨hc, hbases⟩ := List.forall_mem_cons.mp h
    exact ih hbases (forall₂_putPairs hxy hc l.field_name)

theorem mirrors_buildTypedDict (hw : w.outline = w'.outline) (hb : l.Bodies body body')
    (hchecks : l.Checks body.annotations body'.annotations)
    (hinherited : ∀ c ∈ h.bases, w.metaclassOf c = .typedDict →
      List.Forall₂ l.field (w.annotationsOf c) (w'.annotationsOf c)) :
    Mirrors l.Infos (buildTypedDict w h body) (buildTypedDict w' h body') := by
  have hcheck : w'.checkType = w.checkType := (World.eq_of_outline World.outline_checkType hw).symm
  have horder : lookupOrder w' = lookupOrder w := (World.eq_of_outline outline_lookupOrder hw).symm
  have hparameters : typeParameters w' = typeParameters w :=
    (World.eq_of_outline outline_typeParameters hw).symm
  have hmeta : metaclassOfBase w' = metaclassOfBase w :=
    (World.eq_of_outline outline_metaclassOfBase hw).symm
  have hderives : w'.derives = w.derives := (World.eq_of_outline World.outline_derives hw).symm
  unfold buildTypedDict
  rw [hcheck, horder, hparameters, hmeta, hderives]
  extract_lets fits isGeneric bases written inherited make build inherited' make' build'
  refine mirrors_refusal fun hfits => ?_
  -- a base that passes is such a dictionary, or has no annotations at all
  have hbases : ∀ c ∈ h.bases,
      List.Forall₂ l.field (w.annotationsOf c) (w'.annotationsOf c) := by
    intro c hc
    obtain ⟨b, hb, hbc⟩ := List.mem_filterMap.mp hc
    have hfit : fits b = true := List.all_eq_true.mp (by simpa using hfits) b hb
    cases b with
    | cls d =>
      cases hbc
      rcases Bool.or_eq_true_iff.mp hfit with hd | hd
      · exact hinherited c hc (eq_of_beq hd)
      · cases eq_of_beq hd
        exact .nil
    | _ => cases hbc
  have hmake : ∀ vs, Mirrors l.Infos (make vs) (make' vs) := by
    intro vs
    refine (mirrors_checkedAnnotations hchecks fun _ _ _ => rfl).bind
      fun own own' _ hown => mirrors_ok ⟨?_, ?_, hb.attributes⟩
    · unfold ClassInfo.outline
      dsimp only
      congr 1
      exact outlined_eq hb.attributes
    · exact forall₂_putPairs (inherited_alike hbases .nil) hown l.field_name
  refine mirrors_bind fun order _ => ?_
  exact mirrors_ite (fun _ => mirrors_bind fun vs _ => hmake vs)
    fun _ => mirrors_bind fun vs _ => hmake vs

theorem mirrors_buildClass (hw : w.outline = w'.outline) (hb : l.Bodies body body')
    (hchecks : l.Checks body.annotations body'.annotations)
    (hagree : IsOrdinary h → h.metaclass = .model →
      Agreeing body.annotations body'.annotations)
    (hinherited : IsDict h → ∀ c ∈ h.bases, w.metaclassOf c = .typedDict →
      List.Forall₂ l.field (w.annotationsOf c) (w'.annotationsOf c)) :
    Mirrors l.Infos (buildClass w h body) (buildClass w' h body') := by
  unfold buildClass
  refine mirrors_ite (fun _ => mirrors_buildNamedTuple hw hb hchecks) fun hn => ?_
  have hn : h.entries.contains .namedTuple = false := by simpa using hn
  refine mirrors_ite (fun hd => ?_) fun hd => mirrors_buildOrdinary hw hb ?_
  · exact mirrors_buildTypedDict hw hb hchecks (hinherited ⟨hn, eq_of_beq hd⟩)
  · exact hagree ⟨hn, by simpa using hd⟩

/-! Data classes. -/

theorem isSlot_outline (a : Attribute) : isSlot a.outline = isSlot a := by
  cases a with
  | property g b => cases g <;> rfl
  | _ => rfl

theorem sharedDefault_outline (w : World) (a : Attribute) :
    sharedDefault? w a.outline = sharedDefault? w a := by
  cases a with
  | property g b => cases g <;> rfl
  | _ => rfl

section DataClasses

variable (hw : w.outline = w'.outline) (hi : info.outline = info'.outline)

include hw hi

theorem inheritedAttribute_outline (name : String) :
    (inheritedAttribute? w info name).map Attribute.outline =
      (inheritedAttribute? w' info' name).map Attribute.outline := by
  have hown : outlined info.attributes = outlined info'.attributes :=
    congrArg ClassInfo.attributes hi
  have hancestors : info.outline.ancestors = info'.outline.ancestors :=
    congrArg ClassInfo.ancestors hi
  change info.ancestors = info'.ancestors at hancestors
  have hattributes : ∀ c, outlined (w.attributesOf c) = outlined (w'.attributesOf c) := by
    intro c
    have h := w.outline_attributesOf c
    rw [hw, World.outline_attributesOf] at h
    exact h.symm
  have hinherited : ∀ (v : World) (i : ClassInfo),
      (inheritedAttribute? v i name).map Attribute.outline =
        ((outlined i.attributes).lookup name).or
          (i.ancestors.findSome? fun c => (outlined (v.attributesOf c)).lookup name) := by
    intro v i
    unfold inheritedAttribute?
    rw [lookup_outlined]
    cases i.attributes.lookup name with
    | some a => rfl
    | none =>
      rw [Option.map_none, Option.none_or, List.map_findSome?]
      congr 1
      funext c
      exact (lookup_outlined _ _).symm
  rw [hinherited, hinherited, hown, hancestors]
  simp only [hattributes]

theorem fieldDefault_outline (name : String) :
    (fieldDefault? w info name).map Attribute.outline =
      (fieldDefault? w' info' name).map Attribute.outline := by
  have hfilter : ∀ o : Option Attribute, (o.filter fun a => !isSlot a).map Attribute.outline =
      (o.map Attribute.outline).filter fun a => !isSlot a := by
    intro o
    rw [Option.filter_map]
    simp only [Function.comp_def, isSlot_outline]
  unfold fieldDefault?
  rw [hfilter, hfilter, inheritedAttribute_outline hw hi]

theorem collectFields_eq {annotations annotations' : List (String × Value)}
    (h : Agreeing annotations annotations') (fields : List DataField) :
    collectFields w info fields annotations = collectFields w' info' fields annotations' := by
  have hdisplay : w.displayClass = w'.displayClass :=
    World.eq_of_outline World.outline_displayClass hw
  have hshared : sharedDefault? w = sharedDefault? w' := by
    funext a
    unfold sharedDefault?
    rw [hdisplay]
  have hdefault : ∀ n, (fieldDefault? w info n).isSome = (fieldDefault? w' info' n).isSome ∧
      (fieldDefault? w info n).bind (sharedDefault? w) =
        (fieldDefault? w' info' n).bind (sharedDefault? w') := by
    intro n
    have hn := fieldDefault_outline hw hi n
    rw [← hshared]
    cases hd : fieldDefault? w info n with
    | none =>
      rw [hd, Option.map_none] at hn
      rw [Option.map_eq_none_iff.mp hn.symm]
      exact ⟨rfl, rfl⟩
    | some a =>
      rw [hd, Option.map_some] at hn
      obtain ⟨a', ha', he⟩ := Option.map_eq_some_iff.mp hn.symm
      rw [ha']
      refine ⟨rfl, ?_⟩
      rw [Option.bind_some, Option.bind_some, ← sharedDefault_outline, ← he, sharedDefault_outline]
  induction h generalizing fields with
  | nil => rfl
  | @cons a t annotations annotations' hat _ ih =>
    obtain ⟨n, v⟩ := a
    obtain ⟨m, u⟩ := t
    cases (hat.1 : n = m)
    have hputs : ∀ b, collectFields w info (putField ⟨n, b⟩ fields) annotations =
        collectFields w' info' (putField ⟨n, b⟩ fields) annotations' := fun b => ih _
    rw [collectFields, collectFields, hat.2, ih]
    dsimp only
    rw [(hdefault n).2, (hdefault n).1, hputs]

end DataClasses

theorem dataFields_outline (hw : w.outline = w'.outline) (c : ClassRef) :
    (w.info? c).bind ClassInfo.dataFields = (w'.info? c).bind ClassInfo.dataFields := by
  have hkeeps : ∀ v : World,
      (v.outline.info? c).bind ClassInfo.dataFields = (v.info? c).bind ClassInfo.dataFields := by
    intro v
    cases c with
    | library m n => rfl
    | declared i =>
      change (v.classes.map ClassInfo.outline)[i]?.bind _ = v.classes[i]?.bind _
      rw [Array.getElem?_map]
      cases v.classes[i]? <;> rfl
  rw [← hkeeps, hw, hkeeps]

theorem slotAttributes_alike (hi : l.Infos info info') (fields : List DataField) :
    List.Forall₂ l.entry (slotAttributes info fields) (slotAttributes info' fields) := by
  unfold slotAttributes
  rw [← names_eq hi.annotations l.field_name]
  extract_lets names names'
  exact List.rel_append
    (forall₂_filter_names (fun n => !names.contains n) hi.attributes l.entry_name)
    (forall₂_values l names)

theorem mirrors_makeDataClass (hw : w.outline = w'.outline) (hi : l.Infos info info')
    (hagree : Agreeing info.annotations info'.annotations) (o : DataOptions) :
    Mirrors l.Infos (makeDataClass w o info) (makeDataClass w' o info') := by
  have houtline := hi.outline
  have hancestors : info.outline.ancestors = info'.outline.ancestors :=
    congrArg ClassInfo.ancestors houtline
  change info.ancestors = info'.ancestors at hancestors
  have hfields : ∀ c, (w.info? c).bind ClassInfo.dataFields =
      (w'.info? c).bind ClassInfo.dataFields := dataFields_outline hw
  have habove : info.ancestors.filterMap (fun c => (w.info? c).bind ClassInfo.dataFields) =
      info'.ancestors.filterMap (fun c => (w'.info? c).bind ClassInfo.dataFields) := by
    rw [hancestors]
    simp only [hfields]
  unfold makeDataClass
  rw [habove]
  extract_lets above inherited
  refine mirrors_ite (fun _ => mirrors_error) fun _ => mirrors_ite (fun _ => mirrors_error) fun _ => ?_
  rw [collectFields_eq hw houtline hagree]
  refine mirrors_bind fun fields _ => mirrors_check (mirrors_ok ?_)
  have hattributes : List.Forall₂ l.entry
      (if o.hasSlots then slotAttributes info fields else info.attributes)
      (if o.hasSlots then slotAttributes info' fields else info'.attributes) := by
    split
    · exact slotAttributes_alike hi fields
    · exact hi.attributes
  refine ⟨?_, hi.annotations, hattributes⟩
  have hrest := congrArg (fun i : ClassInfo => { i with
    dataFields := some (fields, o.isFrozen)
    attributes := outlined (if o.hasSlots then slotAttributes info fields else info.attributes) })
    houtline
  refine hrest.trans ?_
  rw [outlined_eq hattributes]
  rfl

end Likeness

end TypeProjection.Definition
