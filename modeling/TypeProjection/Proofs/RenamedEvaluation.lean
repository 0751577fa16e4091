import TypeProjection.Proofs.EvaluationGrowth
import TypeProjection.Proofs.RenamedArguments

/-!
# Evaluating under other serials

An expression gives the renamed value in the renamed world, if its names mean the renamed values
there; and if it fails, then with the same words. So does a text that stands for a type, if the
worlds share the modules to which texts belong.
-/

namespace TypeProjection.Annotation

namespace World

open Value (AllHomely allHomely_cons allHomely_append allHomely_singleton allHomely_nil)

variable {ρ : Renaming} {K : String → Prop} {w w' : World} {v l r : Value} {xs : List Value}
  {name : String} {c : ClassRef}

/-! Lookups. -/

theorem lookup_renamedNames (names : List (String × Value)) (n : String) :
    (renamedNames ρ names).lookup n = (names.lookup n).map (Value.rename ρ) :=
  lookup_map_key (fun _ => Value.rename ρ) names n

theorem lookup_renamedAttributes (attributes : List (String × Attribute)) (n : String) :
    (renamedAttributes ρ attributes).lookup n = (attributes.lookup n).map (Attribute.rename ρ) :=
  lookup_map_key (fun _ => Attribute.rename ρ) attributes n

theorem HomelyNames.lookup {names : List (String × Value)} (h : HomelyNames K names)
    (hv : names.lookup name = some v) : v.Homely K := by
  obtain ⟨e, he, rfl⟩ := mem_of_lookup_eq hv
  exact h e he

/-! Attributes. -/

theorem Renames.classAttribute (h : w.Renames ρ K w') :
    w'.classAttribute? (c.rename ρ) name =
      (w.classAttribute? c name).map fun e => (e.1.rename ρ, e.2.rename ρ) := by
  unfold classAttribute?
  rw [h.ancestorsOf, List.findSome?_map, List.map_findSome?]
  congr 1
  funext d
  simp only [Function.comp_apply, h.attributesOf, lookup_renamedAttributes, Option.map_map]
  congr 1

theorem homely_attributeValue {a : Attribute} (ha : a.Homely K) :
    (w.attributeValue c name a).Homely K := by
  cases a with
  | value v => exact ha
  | property g b => exact Value.homely_other
  | method b => exact Value.homely_function

theorem Renames.sends_ofClass (h : w.Renames ρ K w') :
    SendsValue ρ K (w.ofClass c name) (w'.ofClass (c.rename ρ) name) := by
  unfold ofClass
  rw [h.membersOf, h.classAttribute, h.nameOf, h.pathOf, h.moduleOf]
  cases (w.membersOf c).lookup name with
  | some m => exact sends_ok Value.homely_member
  | none =>
    cases hfound : w.classAttribute? c name with
    | some e =>
      obtain ⟨d, a⟩ := e
      have ha : a.Homely K := by
        obtain ⟨d', -, hd⟩ := List.exists_of_findSome?_eq_some hfound
        obtain ⟨a', ha', he⟩ := Option.map_eq_some_iff.mp hd
        cases he
        obtain ⟨e, he, rfl⟩ := mem_of_lookup_eq ha'
        exact h.homely_attributesOf e he
      simp only [Option.map_some, h.attributeValue]
      exact sends_ok (homely_attributeValue ha)
    | none =>
      refine sends_ite (fun _ => sends_ok Value.homely_str) fun _ => ?_
      refine sends_ite (fun _ => sends_ok Value.homely_str) fun _ => ?_
      exact sends_ite (fun _ => sends_ok Value.homely_str) fun _ => sends_error

theorem common_moduleName {module : String} (habsent : w.loaded? module = none)
    (hv : w.moduleName? module name = some v) : v.Common := by
  unfold moduleName? at hv
  rw [habsent] at hv
  dsimp only at hv
  split at hv
  · rcases orElse_cases hv with hv | hv
    · exact common_moduleAttribute hv
    · exact common_ownName hv
  · cases hv

theorem sends_common (hv : v.Common) : SendsValue ρ K (.ok v) (.ok v) :=
  ⟨by rw [Except.map, hv.rename], gives_ok.mpr (hv.homely K)⟩

theorem Renames.sends_attributeOf (h : w.Renames ρ K w') (hv : v.Homely K) :
    SendsValue ρ K (w.attributeOf v name) (w'.attributeOf (v.rename ρ) name) := by
  have hmissing : SendsValue ρ K
      (.error (.unknownAttribute (Text.display (v.className w) ++ " object has no attribute " ++
        Text.display name)))
      (.error (.unknownAttribute (Text.display ((v.rename ρ).className w') ++
        " object has no attribute " ++ Text.display name))) := by
    rw [h.className]
    exact sends_error
  cases v with
  | module m =>
    obtain ⟨habsent, habsent'⟩ := h.absent m (Value.homely_module.mp hv)
    have hsame : w'.moduleName? m name = w.moduleName? m name := by
      unfold moduleName?
      rw [habsent, habsent']
    rw [Value.rename_module]
    unfold attributeOf
    dsimp only
    rw [hsame]
    cases hx : w.moduleName? m name with
    | none => exact sends_error
    | some x => exact sends_common (common_moduleName habsent hx)
  | cls c => exact h.sends_ofClass
  | applied n c xs => exact h.sends_ofClass
  | native c xs => exact h.sends_ofClass
  | looseCallable xs => exact h.sends_ofClass (c := callableRoot)
  | «alias» n =>
    have hclass : SendsValue ρ K (w.ofClass (aliasOrigin n) name)
        (w'.ofClass ((aliasOrigin n).rename ρ) name) := h.sends_ofClass
    rw [rename_aliasOrigin] at hclass
    exact hclass
  | member c m =>
    rw [Value.rename_member] at hmissing ⊢
    unfold attributeOf
    dsimp only
    rw [h.membersOf]
    refine sends_ite (fun _ => sends_ok Value.homely_str) fun _ => ?_
    refine sends_ite (fun _ => ?_) fun _ => hmissing
    cases (w.membersOf c).find? fun e => e.2.1 == m with
    | none => exact hmissing
    | some e => exact sends_common (common_ofLiteral e.2.2)
  | paramSpec i =>
    rw [Value.rename_paramSpec] at hmissing ⊢
    unfold attributeOf
    dsimp only
    rw [h.paramSpecs]
    exact sends_ite (fun _ => sends_ok Value.homely_other) fun _ => hmissing
  | _ => exact hmissing

/-! Calls. -/

theorem Renames.classOf (h : w.Renames ρ K w') (v : Value) :
    w'.classOf (v.rename ρ) = (w.classOf v).rename ρ := by
  have hother := h.className v
  cases v with
  | cls c =>
    simp only [Value.rename_cls, World.classOf, h.metaclassOf]
    cases w.metaclassOf c <;> rfl
  | union p xs => cases p <;> simp_all [World.classOf, builtin]
  | _ => simp_all [World.classOf, builtin]

theorem homely_classOf (v : Value) : (w.classOf v).Homely K := by
  unfold World.classOf
  split
  · exact Value.homely_noneType
  · split <;> exact Value.homely_cls
  all_goals exact Value.homely_cls

theorem Renames.sends_callLibrary (h : w.Renames ρ K w') {m n : String} (hxs : AllHomely K xs) :
    SendsValue ρ K (w.call (.cls (.library m n)) xs)
      (w'.call (.cls (.library m n)) (xs.map (Value.rename ρ))) := by
  have hplain : SendsValue ρ K
      (.ok (.other ("<" ++ w.qualified (.library m n) ++ " object>")))
      (.ok (.other ("<" ++ w'.qualified (.library m n) ++ " object>"))) := by
    rw [← ClassRef.rename_library (ρ := ρ), h.qualified]
    exact sends_ok Value.homely_other
  rcases xs with _ | ⟨x, _ | ⟨y, rest⟩⟩
  · rw [List.map_nil]
    unfold call
    split
    case h_13 c _ hc _ _ _ _ _ _ _ _ _ _ _ =>
      cases hc
      exact hplain
    all_goals first
      | contradiction
      | exact sends_error
      | exact sends_common ⟨fun _ => by simp, by simp⟩
  · have hx := allHomely_singleton.mp hxs
    have hclass : SendsValue ρ K (.ok (w.classOf x)) (.ok (w'.classOf (x.rename ρ))) := by
      rw [h.classOf]
      exact sends_ok (homely_classOf x)
    have hshown : ∀ start, SendsValue ρ K (.ok (.other (start ++ w.shown x ++ ")>")))
        (.ok (.other (start ++ w'.shown (x.rename ρ) ++ ")>"))) := by
      intro start
      rw [h.shown hx]
      exact sends_ok Value.homely_other
    rw [List.map_singleton]
    unfold call
    split
    case h_1 v hc hv =>
      cases hc
      cases hv
      exact hclass
    case h_2 v hc hv | h_3 v hc hv =>
      cases hc
      cases hv
      exact hshown _
    case h_4 hc =>
      cases hc
      exact sends_common common_other
    case h_12 s hc hv =>
      cases hc
      cases hv
      exact sends_asType h.blank Value.homely_str
    case h_13 c hproperty hc htype hstatic hmethod _ _ _ _ _ _ _ hforward =>
      cases hc
      split
      case h_1 v hm hv => exact (htype x rfl (Value.cls.inj hm)).elim
      case h_2 v hm hv => exact (hstatic x rfl (Value.cls.inj hm)).elim
      case h_3 v hm hv => exact (hmethod x rfl (Value.cls.inj hm)).elim
      case h_4 hm => exact (hproperty (Value.cls.inj hm)).elim
      case h_12 s hm hv =>
        have hxs : [x] = [Value.str s] := by
          rw [Value.rename_eq_str.mp (List.cons.inj hv).1]
        exact (hforward s hxs (Value.cls.inj hm)).elim
      case h_13 c' _ hm _ _ _ _ _ _ _ _ _ _ _ =>
        cases hm
        exact hplain
      all_goals first
        | contradiction
        | exact (‹∀ d : ClassRef, Value.cls (.library m n) = .cls d → False› _ rfl).elim
    all_goals first
      | contradiction
      | exact (‹∀ d : ClassRef, Value.cls (.library m n) = .cls d → False› _ rfl).elim
  · rw [List.map_cons, List.map_cons]
    unfold call
    split
    case h_4 hc =>
      cases hc
      exact sends_common common_other
    case h_13 c hproperty hc _ _ _ _ _ _ _ _ _ _ _ =>
      cases hc
      split
      case h_4 hm => exact (hproperty (Value.cls.inj hm)).elim
      case h_13 c' _ hm _ _ _ _ _ _ _ _ _ _ _ =>
        cases hm
        exact hplain
      case h_1 hv | h_2 hv | h_3 hv => cases hv
      case h_12 hv => exact nomatch (List.cons.inj hv).2
      all_goals first
        | contradiction
        | exact (‹∀ d : ClassRef, Value.cls (.library m n) = .cls d → False› _ rfl).elim
    case h_1 hv | h_2 hv | h_3 hv | h_12 hv => cases hv
    all_goals first
      | contradiction
      | exact (‹∀ d : ClassRef, Value.cls (.library m n) = .cls d → False› _ rfl).elim

theorem Renames.sends_callFunction (h : w.Renames ρ K w') {m n : String} (hxs : AllHomely K xs) :
    SendsValue ρ K (w.call (.function m n) xs)
      (w'.call (.function m n) (xs.map (Value.rename ρ))) := by
  have hresult : SendsValue ρ K (.ok (.other ("<" ++ n ++ " result>")))
      (.ok (.other ("<" ++ n ++ " result>"))) := sends_common common_other
  by_cases hf : m = "tsgen.reflection" ∧ n = "constructible"
  · obtain ⟨rfl, rfl⟩ := hf
    rcases xs with _ | ⟨x, _ | ⟨y, rest⟩⟩
    · exact hresult
    · have hx := allHomely_singleton.mp hxs
      have hfault : SendsValue ρ K
          (.error (.wrongType ("constructible() expects a TypeVar, got " ++ w.shown x)))
          (.error (.wrongType ("constructible() expects a TypeVar, got " ++
            w'.shown (x.rename ρ)))) := by
        rw [h.shown hx]
        exact sends_error
      cases x with
      | typeVar i => exact sends_ok hx
      | _ => exact hfault
    · exact hresult
  · have hplain : ∀ (w : World) (xs : List Value),
        w.call (.function m n) xs = .ok (.other ("<" ++ n ++ " result>")) := by
      intro w xs
      unfold call
      split
      case h_15 heq => exact (hf (Value.function.inj heq)).elim
      case h_16 heq _ =>
        cases heq
        rfl
      all_goals first
        | contradiction
        | exact (‹∀ m' n' : String, Value.function m n = .function m' n' → False› _ _ rfl).elim
    rw [hplain, hplain]
    exact hresult

/-- A renamed callee gives the renamed result for renamed arguments. -/
theorem Renames.sends_call (h : w.Renames ρ K w') {callee : Value} (hxs : AllHomely K xs) :
    SendsValue ρ K (w.call callee xs) (w'.call (callee.rename ρ) (xs.map (Value.rename ρ))) := by
  have hfault : SendsValue ρ K
      (.error (.wrongType (Text.display (callee.className w) ++ " object is not callable")))
      (.error (.wrongType (Text.display ((callee.rename ρ).className w') ++
        " object is not callable"))) := by
    rw [h.className]
    exact sends_error
  have hobject : ∀ c : ClassRef, SendsValue ρ K
      (.ok (.other ("<" ++ w.qualified c ++ " object>")))
      (.ok (.other ("<" ++ w'.qualified (c.rename ρ) ++ " object>"))) := by
    intro c
    rw [h.qualified]
    exact sends_ok Value.homely_other
  cases callee with
  | cls c =>
    cases c with
    | library m n => exact h.sends_callLibrary hxs
    | declared i => exact hobject (.declared i)
  | newType i =>
    rcases xs with _ | ⟨x, _ | ⟨y, rest⟩⟩
    · exact hfault
    · exact sends_ok (allHomely_singleton.mp hxs)
    · exact hfault
  | function m n => exact h.sends_callFunction hxs
  | applied n c xs => exact hobject c
  | native c xs => exact hobject c
  | _ => exact hfault

/-- Is the value one that operations take? -/
def isOperand : Value → Bool
  | .int _ | .float _ | .str _ => true
  | _ => false

theorem isOperand_rename (v : Value) : isOperand (v.rename ρ) = isOperand v := by
  cases v <;> simp [isOperand]

theorem rename_of_isOperand (hv : isOperand v = true) : v.rename ρ = v := by
  cases v with
  | int n | float f | str s => rfl
  | _ => exact Bool.noConfusion hv

theorem operate_of_not_isOperand {symbol : String} (h : xs.all isOperand = false) :
    operate symbol xs = .error (.wrongType ("unsupported operand type(s) for " ++ symbol)) := by
  unfold operate
  split <;> first | rfl | exact Bool.noConfusion h

theorem common_operate {symbol : String} (h : operate symbol xs = .ok v) : v.Common := by
  unfold operate at h
  split at h <;> cases h <;> exact ⟨fun _ => rfl, fun _ => by simp⟩

theorem sends_operate {symbol : String} :
    SendsValue ρ K (operate symbol xs) (operate symbol (xs.map (Value.rename ρ))) := by
  cases hall : xs.all isOperand with
  | false =>
    have hall' : (xs.map (Value.rename ρ)).all isOperand = false := by
      rw [Value.all_rename isOperand_rename, hall]
    rw [operate_of_not_isOperand hall, operate_of_not_isOperand hall']
    exact sends_error
  | true =>
    have hxs : xs.map (Value.rename ρ) = xs := by
      have hfixed := List.all_eq_true.mp hall
      rw [List.map_congr_left fun x hx => rename_of_isOperand (hfixed x hx), List.map_id']
    rw [hxs]
    cases hv : operate symbol xs with
    | error e => exact sends_error
    | ok v => exact sends_common (common_operate hv)

/-! Expressions. -/

section Expressions

variable {s s' : Scope}

/-- In the second scope, a name means the renamed value of what it means in the first one. -/
def SendsName (ρ : Renaming) (K : String → Prop) (s s' : Scope) (n : String) : Prop :=
  SendsValue ρ K (s.lookup n) (s'.lookup n)

theorem find?_isHashable_rename (xs : List Value) :
    (xs.map (Value.rename ρ)).find? (fun v => !v.isHashable) =
      (xs.find? fun v => !v.isHashable).map (Value.rename ρ) := by
  rw [List.find?_map]
  congr 2
  funext v
  rw [Function.comp_apply, Value.isHashable_rename]

/-- The fault about a value that cannot be a key. -/
theorem Renames.unhashable (h : w.Renames ρ K w') (v : Value) :
    Fault.wrongType ("unhashable type: " ++ Text.display ((v.rename ρ).className w')) =
      Fault.wrongType ("unhashable type: " ++ Text.display (v.className w)) := by
  rw [h.className]

/-- The computation does not fail with one of certain faults. -/
def Spared {α : Type} (M : Fault → Prop) (x : Except Fault α) : Prop := ∀ f, x = .error f → ¬ M f

/-- A spared computation goes on from a spared one. -/
theorem sends_bind_spared {α β γ δ : Type} {M : Fault → Prop} {f : α → β} {g : γ → δ}
    {P : α → Prop} {Q : γ → Prop} {x : Except Fault α} {x' : Except Fault β}
    {k : α → Except Fault γ} {k' : β → Except Fault δ} (hx : Spared M (x >>= k))
    (h : Spared M x → Sends f P x x')
    (hk : ∀ a, P a → Spared M (k a) → Sends g Q (k a) (k' (f a))) :
    Sends g Q (x >>= k) (x' >>= k') := by
  cases x with
  | error e =>
    obtain ⟨rfl, -⟩ := h fun f hf => hx f (congrArg Except.error (Except.error.inj hf))
    exact sends_error
  | ok a =>
    obtain ⟨rfl, hgives⟩ := h nofun
    exact hk a (gives_ok.mp hgives) hx

section Spared

variable {M : Fault → Prop}

mutual

/-- An expression that does not fail for certain names gives the renamed value, if all other names
do. -/
theorem Renames.sends_spared (h : w.Renames ρ K w') (hs : s'.owner = s.owner) :
    (e : Expr) →
    (∀ n ∈ e.names, Spared M (s.lookup n) → SendsName ρ K s s' n) → Spared M (w.evaluate s e) →
      SendsValue ρ K (w.evaluate s e) (w'.evaluate s' e)
  | .none, _, _ => by rw [evaluate, evaluate]; exact sends_ok Value.homely_none
  | .ellipsis, _, _ => by rw [evaluate, evaluate]; exact sends_ok Value.homely_ellipsis
  | .bool _, _, _ => by rw [evaluate, evaluate]; exact sends_ok Value.homely_bool
  | .int _, _, _ => by rw [evaluate, evaluate]; exact sends_ok Value.homely_int
  | .float _, _, _ => by rw [evaluate, evaluate]; exact sends_ok Value.homely_float
  | .str _, _, _ => by rw [evaluate, evaluate]; exact sends_ok Value.homely_str
  | .bytes _, _, _ => by rw [evaluate, evaluate]; exact sends_ok Value.homely_bytes
  | .name n, hn, hx => by
    rw [evaluate] at hx
    rw [evaluate, evaluate]
    exact hn n (List.mem_singleton_self n) hx
  | .attribute of n, hn, hx => by
    have hknown : s'.known n = s.known n := by rw [Scope.known, Scope.known, hs]
    rw [evaluate] at hx
    rw [evaluate, evaluate, hknown]
    exact sends_bind_spared hx (h.sends_spared hs of hn) fun v hv _ => h.sends_attributeOf hv
  | .subscript of index, hn, hx => by
    obtain ⟨hof, hindex⟩ := List.forall_mem_append.mp hn
    rw [evaluate] at hx
    rw [evaluate, evaluate]
    refine sends_bind_spared hx (h.sends_spared hs of hof) fun v hv hx => ?_
    exact sends_bind_spared hx (h.sends_spared hs index hindex) fun i hi _ =>
      h.sends_subscript hv hi
  | .tuple items, hn, hx => by
    rw [evaluate] at hx
    rw [evaluate, evaluate]
    refine sends_bind_spared hx (h.sends_sparedAll hs items hn) fun vs hvs _ => ?_
    rw [← Value.rename_tuple]
    exact sends_pure (Value.homely_tuple.mpr hvs)
  | .list items, hn, hx => by
    rw [evaluate] at hx
    rw [evaluate, evaluate]
    refine sends_bind_spared hx (h.sends_sparedAll hs items hn) fun vs hvs _ => ?_
    rw [← Value.rename_list]
    exact sends_pure (Value.homely_list.mpr hvs)
  | .set items, hn, hx => by
    rw [evaluate] at hx
    rw [evaluate, evaluate]
    refine sends_bind_spared hx (h.sends_sparedAll hs items hn) fun vs hvs _ => ?_
    rw [find?_isHashable_rename, Value.distinctValues_rename, ← Value.rename_set]
    cases vs.find? fun v => !v.isHashable with
    | some v =>
      dsimp only [Option.map_some]
      rw [h.unhashable]
      exact sends_error
    | none => exact sends_pure (Value.homely_set.mpr (AllHomely.distinctValues hvs))
  | .dict entries, hn, hx => by
    rw [evaluate] at hx
    rw [evaluate, evaluate]
    refine sends_bind_spared hx (h.sends_sparedEntries hs entries hn) fun kvs hkvs _ => ?_
    dsimp only
    rw [find?_isHashable_rename, ← Value.rename_dict]
    cases kvs.1.find? fun v => !v.isHashable with
    | some v =>
      dsimp only [Option.map_some]
      rw [h.unhashable]
      exact sends_error
    | none => exact sends_pure (Value.homely_dict.mpr hkvs)
  | .either left right, hn, hx => by
    obtain ⟨hleft, hright⟩ := List.forall_mem_append.mp hn
    rw [evaluate] at hx
    rw [evaluate, evaluate]
    refine sends_bind_spared hx (h.sends_spared hs left hleft) fun l hl hx => ?_
    exact sends_bind_spared hx (h.sends_spared hs right hright) fun r hr _ => h.sends_pipe hl hr
  | .call callee arguments named, hn, hx => by
    obtain ⟨hc, hn⟩ := List.forall_mem_append.mp hn
    obtain ⟨ha, hn⟩ := List.forall_mem_append.mp hn
    rw [evaluate] at hx
    rw [evaluate, evaluate]
    refine sends_bind_spared hx (h.sends_spared hs callee hc) fun f _ hx => ?_
    refine sends_bind_spared hx (h.sends_sparedAll hs arguments ha) fun vs hvs hx => ?_
    refine sends_bind_spared hx (h.sends_sparedNamed hs named hn) fun more hmore _ => ?_
    rw [← List.map_append]
    exact h.sends_call (allHomely_append.mpr ⟨hvs, hmore⟩)
  | .operation symbol operands, hn, hx => by
    rw [evaluate] at hx
    rw [evaluate, evaluate]
    exact sends_bind_spared hx (h.sends_sparedAll hs operands hn) fun _ _ _ => sends_operate

theorem Renames.sends_sparedAll (h : w.Renames ρ K w') (hs : s'.owner = s.owner) :
    (es : List Expr) →
    (∀ n ∈ Expr.wordsOf.all Expr.ofName es, Spared M (s.lookup n) → SendsName ρ K s s' n) →
      Spared M (evaluate.evaluateAll w s es) →
        SendsValues ρ K (evaluate.evaluateAll w s es) (evaluate.evaluateAll w' s' es)
  | [], _, _ => sends_ok allHomely_nil
  | e :: es, hn, hx => by
    obtain ⟨he, hes⟩ := List.forall_mem_append.mp hn
    rw [evaluate.evaluateAll] at hx
    rw [evaluate.evaluateAll, evaluate.evaluateAll]
    refine sends_bind_spared hx (h.sends_spared hs e he) fun v hv hx => ?_
    exact sends_bind_spared hx (h.sends_sparedAll hs es hes) fun vs hvs _ =>
      sends_pure (f := List.map (Value.rename ρ)) (allHomely_cons.mpr ⟨hv, hvs⟩)

theorem Renames.sends_sparedEntries (h : w.Renames ρ K w') (hs : s'.owner = s.owner) :
    (es : List (Expr × Expr)) →
    (∀ n ∈ Expr.wordsOf.entries Expr.ofName es, Spared M (s.lookup n) → SendsName ρ K s s' n) →
      Spared M (evaluate.evaluateEntries w s es) →
        Sends (fun kvs : List Value × List Value =>
            (kvs.1.map (Value.rename ρ), kvs.2.map (Value.rename ρ)))
          (fun kvs => AllHomely K kvs.1 ∧ AllHomely K kvs.2)
          (evaluate.evaluateEntries w s es) (evaluate.evaluateEntries w' s' es)
  | [], _, _ => sends_ok ⟨allHomely_nil, allHomely_nil⟩
  | (key, value) :: es, hn, hx => by
    obtain ⟨hk, hn⟩ := List.forall_mem_append.mp hn
    obtain ⟨hv, hes⟩ := List.forall_mem_append.mp hn
    rw [evaluate.evaluateEntries] at hx
    rw [evaluate.evaluateEntries, evaluate.evaluateEntries]
    refine sends_bind_spared hx (h.sends_spared hs key hk) fun k hk hx => ?_
    refine sends_bind_spared hx (h.sends_spared hs value hv) fun v hv hx => ?_
    exact sends_bind_spared hx (h.sends_sparedEntries hs es hes) fun kvs hkvs _ =>
      sends_ok ⟨allHomely_cons.mpr ⟨hk, hkvs.1⟩, allHomely_cons.mpr ⟨hv, hkvs.2⟩⟩

theorem Renames.sends_sparedNamed (h : w.Renames ρ K w') (hs : s'.owner = s.owner) :
    (es : List (String × Expr)) →
    (∀ n ∈ Expr.wordsOf.named Expr.ofName es, Spared M (s.lookup n) → SendsName ρ K s s' n) →
      Spared M (evaluate.evaluateNamed w s es) →
        SendsValues ρ K (evaluate.evaluateNamed w s es) (evaluate.evaluateNamed w' s' es)
  | [], _, _ => sends_ok allHomely_nil
  | (n, e) :: es, hn, hx => by
    obtain ⟨he, hes⟩ := List.forall_mem_append.mp hn
    rw [evaluate.evaluateNamed] at hx
    rw [evaluate.evaluateNamed, evaluate.evaluateNamed]
    refine sends_bind_spared hx (h.sends_spared hs e he) fun v hv hx => ?_
    exact sends_bind_spared hx (h.sends_sparedNamed hs es hes) fun vs hvs _ =>
      sends_pure (f := List.map (Value.rename ρ)) (allHomely_cons.mpr ⟨hv, hvs⟩)

end

/-- An expression gives the renamed value, if its names do. -/
theorem Renames.sends_evaluate (h : w.Renames ρ K w') (hs : s'.owner = s.owner) (e : Expr)
    (hn : ∀ n ∈ e.names, SendsName ρ K s s' n) :
    SendsValue ρ K (w.evaluate s e) (w'.evaluate s' e) :=
  h.sends_spared (M := fun _ => False) hs e (fun n hmem _ => hn n hmem) fun _ _ => id

end Spared

end Expressions

end World

end TypeProjection.Annotation
