import TypeProjection.Proofs.TypeArguments

/-!
# Quotation

An expression may be written as a text wherever a type is asked for, at any depth. In an annotation
that is a text itself, this changes nothing: it stands for the value of the expression without any
quotation marks.

A text must not stand inside of itself, and what it stands for has to be a type or the absence of a
value. The arguments of a class that keeps them as they were written tell an absent value from its
class, which is what a text stands for, so such a value is not quoted there. Equal alternatives of a
union have to be identical, and a class whose parameters stand for lists of parameters is left out,
as are the arguments of literals and of named types.
-/

namespace TypeProjection.Annotation

namespace Expr

/-- Are several values written? -/
def isTuple : Expr → Bool
  | .tuple _ => true
  | _ => false

/-- The expressions in an index. -/
def indexItems : Expr → List Expr
  | .tuple items => items
  | e => [e]

theorem eq_tuple {e : Expr} (h : e.isTuple = true) : e = .tuple e.indexItems := by
  cases e with
  | tuple items => rfl
  | _ => cases h

theorem indexItems_eq_singleton {e : Expr} (h : e.isTuple = false) : e.indexItems = [e] := by
  cases e with
  | tuple items => cases h
  | _ => rfl

end Expr

namespace World

variable {w : World} {names : Surroundings} {R : Pending → Except Fault Value}
variable {n m : Nat} {seen seen' : List String} {s : String}
variable {e e' i i' : Expr} {es es' : List Expr} {v : Value} {vs : List Value}

/-- A text writes an expression. A text that is a name writes that name. -/
structure Writes (s : String) (e : Expr) : Prop where
  parses : Expr.ofText? s = some e
  isName : Text.isIdentifier s.toList = true → Reader.keywords.contains s = false → e = .name s

/-- Are the alternatives told apart, whose expressions these are? -/
def DiscernedBy (w : World) (names : Surroundings) (es' es : List Expr) : Prop :=
  ∀ vs' vs, evaluate.evaluateAll w names.scope es' = .ok vs' →
    evaluate.evaluateAll w names.scope es = .ok vs → Discerned vs' vs

/-- Are absent values among the arguments of a target written as such, if it keeps its arguments as
they were written? -/
def AbsenceWritten (w : World) (names : Surroundings) (target : Value) (es' es : List Expr) : Prop :=
  w.KeepsWritten target → ∀ vs' vs, evaluate.evaluateAll w names.scope es' = .ok vs' →
    evaluate.evaluateAll w names.scope es = .ok vs → KeepsAbsence vs' vs

/-- Does a bar make a union of two types, of the same kind with quotation marks as without? -/
def BarBetween (w : World) (names : Surroundings) (es' es : List Expr) : Prop :=
  ∃ piped, ∀ l' r' l r, evaluate.evaluateAll w names.scope es' = .ok [l', r'] →
    evaluate.evaluateAll w names.scope es = .ok [l, r] →
    barKind l r = some piped ∧ barKind l' r' = some piped ∧
      ∃ ts, [l, r].mapM (w.checkType { message := alternativeMessage }) = .ok ts

/-- Expressions, and the same with texts in places of types. Texts nest at most as deep as a number
says, and none stands inside of itself or of the ones seen before. -/
inductive Quoted (w : World) (names : Surroundings) :
    Nat → List String → List Expr → List Expr → Prop
  | nil {n : Nat} {seen : List String} : w.Quoted names n seen [] []
  | cons {n : Nat} {seen : List String} {e e' : Expr} {es es' : List Expr}
      (he : w.Quoted names n seen [e] [e']) (h : w.Quoted names n seen es es') :
      w.Quoted names n seen (e :: es) (e' :: es')
  | kept {n : Nat} {seen : List String} {e : Expr} {v : Value}
      (hv : w.evaluate names.scope e = .ok v) (hs : v = .none ∨ w.Settled v) :
      w.Quoted names n seen [e] [e]
  | text {n : Nat} {seen : List String} {e e' : Expr} {v : Value} {s : String}
      (hv : w.evaluate names.scope e = .ok v) (hp : v = .none ∨ v.IsProper)
      (hr : refused true false v = false) (hs : s ∉ seen) (hw : Writes s e')
      (h : w.Quoted names n (s :: seen) [e] [e']) :
      w.Quoted names (n + 1) seen [e] [.str s]
  | generic {n : Nat} {seen : List String} {of i i' : Expr} {target : Value}
      (ht : w.evaluate names.scope of = .ok target) (hg : w.TakesTypes target)
      (hi : i'.isTuple = i.isTuple)
      (hn : w.AbsenceWritten names target i'.indexItems i.indexItems)
      (h : w.Quoted names n seen i.indexItems i'.indexItems) :
      w.Quoted names n seen [.subscript of i] [.subscript of i']
  | union {n : Nat} {seen : List String} {of i i' : Expr}
      (ht : w.evaluate names.scope of = .ok (.form "Union")) (hi : i'.isTuple = i.isTuple)
      (hd : w.DiscernedBy names i'.indexItems i.indexItems)
      (h : w.Quoted names n seen i.indexItems i'.indexItems) :
      w.Quoted names n seen [.subscript of i] [.subscript of i']
  | optional {n : Nat} {seen : List String} {of i i' : Expr}
      (ht : w.evaluate names.scope of = .ok (.form "Optional"))
      (hd : w.DiscernedBy names [i', .none] [i, .none]) (h : w.Quoted names n seen [i] [i']) :
      w.Quoted names n seen [.subscript of i] [.subscript of i']
  | bar {n : Nat} {seen : List String} {l l' r r' : Expr}
      (hb : w.BarBetween names [l', r'] [l, r]) (hd : w.DiscernedBy names [l', r'] [l, r])
      (h : w.Quoted names n seen [l, r] [l', r']) :
      w.Quoted names n seen [.either l r] [.either l' r']
  | annotated {n : Nat} {seen : List String} {of e e' : Expr} {notes : List Expr}
      {c : ClassRef} (ht : w.evaluate names.scope of = .ok (.cls c))
      (he : w.metaclassOf c ≠ .enumeration) (hs : w.subscriptionOf c = some .annotated)
      (h : w.Quoted names n seen [e] [e']) :
      w.Quoted names n seen [.subscript of (.tuple (e :: notes))]
        [.subscript of (.tuple (e' :: notes))]
  | callable {n : Nat} {seen : List String} {of e e' : Expr} {ps ps' : List Expr}
      (ht : w.evaluate names.scope of = .ok (.alias "Callable"))
      (h : w.Quoted names n seen (e :: ps) (e' :: ps')) :
      w.Quoted names n seen [.subscript of (.tuple [.list ps, e])]
        [.subscript of (.tuple [.list ps', e'])]

/-- What holds for deeper texts and after fewer of them holds. -/
theorem Quoted.mono (h : w.Quoted names n seen es es') {m : Nat} {seen' : List String}
    (hn : n ≤ m) (hseen : ∀ s ∈ seen', s ∈ seen) : w.Quoted names m seen' es es' := by
  induction h generalizing m seen' with
  | nil => exact .nil
  | cons _ _ ihe ih => exact .cons (ihe hn hseen) (ih hn hseen)
  | kept hv hs => exact .kept hv hs
  | text hv hp hr hs hw _ ih =>
    obtain ⟨k, rfl⟩ := Nat.exists_eq_add_of_le hn
    rw [Nat.add_right_comm]
    refine .text hv hp hr (fun hin => hs (hseen _ hin)) hw (ih (Nat.le_add_right _ k) ?_)
    intro t ht
    obtain rfl | ht := List.mem_cons.mp ht
    · exact List.mem_cons_self
    · exact List.mem_cons_of_mem _ (hseen t ht)
  | generic ht hg hi hkept _ ih => exact .generic ht hg hi hkept (ih hn hseen)
  | union ht hi hd _ ih => exact .union ht hi hd (ih hn hseen)
  | optional ht hd _ ih => exact .optional ht hd (ih hn hseen)
  | bar hb hd _ ih => exact .bar hb hd (ih hn hseen)
  | annotated ht he hs _ ih => exact .annotated ht he hs (ih hn hseen)
  | callable ht _ ih => exact .callable ht (ih hn hseen)

/-! Evaluation. -/

/-- Expressions evaluate to arguments with texts where others evaluate to arguments. Only a text
evaluates to a text. -/
def EvaluatesTo (w : World) (names : Surroundings) (R : Pending → Except Fault Value)
    (es es' : List Expr) : Prop :=
  ∀ vs, evaluate.evaluateAll w names.scope es = .ok vs →
    ∃ vs', evaluate.evaluateAll w names.scope es' = .ok vs' ∧
      List.Forall₂ (w.Argument R) vs' vs ∧
      List.Forall₂ (fun e' v' => ∀ s, v' = .str s → e' = .str s) es' vs'

theorem evaluateAll_cons {scope : Scope} : evaluate.evaluateAll w scope (e :: es) = .ok vs ↔
    ∃ v us, w.evaluate scope e = .ok v ∧ evaluate.evaluateAll w scope es = .ok us ∧
      vs = v :: us := by
  rw [evaluate.evaluateAll, bind_eq_ok]
  refine exists_congr fun v => ?_
  rw [bind_pure_eq_ok, ← exists_and_left]

theorem evaluateAll_one {scope : Scope} :
    evaluate.evaluateAll w scope [e] = .ok [v] ↔ w.evaluate scope e = .ok v := by
  rw [evaluateAll_cons]
  constructor
  · rintro ⟨u, us, hu, -, hus⟩
    cases hus
    exact hu
  · exact fun h => ⟨v, [], h, rfl, rfl⟩

theorem evaluatesTo_one
    (h : ∀ v, w.evaluate names.scope e = .ok v → ∃ v', w.evaluate names.scope e' = .ok v' ∧
      w.Argument R v' v ∧ ∀ s, v' = .str s → e' = .str s) : w.EvaluatesTo names R [e] [e'] := by
  intro vs hvs
  obtain ⟨v, us, hv, hus, rfl⟩ := evaluateAll_cons.mp hvs
  cases hus
  obtain ⟨v', hv', harg, hs⟩ := h v hv
  exact ⟨[v'], evaluateAll_one.mpr hv', .cons harg .nil, .cons hs .nil⟩

/-- What is made of arguments is no text. -/
theorem evaluatesTo_of_reads
    (h : ∀ v, w.evaluate names.scope e = .ok v → ∃ v', w.evaluate names.scope e' = .ok v' ∧
      w.Reads R v' v ∧ ∀ s m f, v' ≠ .forward s m f) : w.EvaluatesTo names R [e] [e'] :=
  evaluatesTo_one fun v hv => by
    obtain ⟨v', hv', hread, hf⟩ := h v hv
    exact ⟨v', hv', .typed hread hf, fun s hs => (hread.isProper_left.ne_str s hs).elim⟩

theorem EvaluatesTo.one (h : w.EvaluatesTo names R [e] [e'])
    (hv : w.evaluate names.scope e = .ok v) :
    ∃ v', w.evaluate names.scope e' = .ok v' ∧ w.Argument R v' v ∧
      ∀ s, v' = .str s → e' = .str s := by
  obtain ⟨vs', hvs', hargs, hs⟩ := h [v] (evaluateAll_one.mpr hv)
  cases hs with
  | @cons _ v' _ us hs hnil =>
    cases hnil
    cases hargs with
    | cons harg _ => exact ⟨v', evaluateAll_one.mp hvs', harg, hs⟩

theorem EvaluatesTo.cons (he : w.EvaluatesTo names R [e] [e']) (h : w.EvaluatesTo names R es es') :
    w.EvaluatesTo names R (e :: es) (e' :: es') := by
  intro vs hvs
  obtain ⟨v, us, hv, hus, rfl⟩ := evaluateAll_cons.mp hvs
  obtain ⟨v', hv', harg, hs⟩ := he.one hv
  obtain ⟨us', hus', hargs, hss⟩ := h us hus
  exact ⟨v' :: us', evaluateAll_cons.mpr ⟨v', us', hv', hus', rfl⟩, .cons harg hargs,
    .cons hs hss⟩

theorem evaluate_tuple {scope : Scope} :
    w.evaluate scope (.tuple es) = .ok v ↔
      ∃ vs, evaluate.evaluateAll w scope es = .ok vs ∧ v = .tuple vs := bind_pure_eq_ok

/-- An index of several expressions, or of one. -/
theorem EvaluatesTo.index (h : w.EvaluatesTo names R i.indexItems i'.indexItems)
    (hi : i'.isTuple = i.isTuple) (hv : w.evaluate names.scope i = .ok v) :
    ∃ v', w.evaluate names.scope i' = .ok v' ∧ w.Index R v' v ∧
      evaluate.evaluateAll w names.scope i.indexItems = .ok (itemsOf v) ∧
      evaluate.evaluateAll w names.scope i'.indexItems = .ok (itemsOf v') := by
  cases ht : i.isTuple with
  | true =>
    rw [Expr.eq_tuple ht] at hv
    obtain ⟨vs, hvs, rfl⟩ := evaluate_tuple.mp hv
    obtain ⟨vs', hvs', hargs, -⟩ := h vs hvs
    refine ⟨.tuple vs', ?_, .several hargs, hvs, hvs'⟩
    rw [Expr.eq_tuple (hi.trans ht)]
    exact evaluate_tuple.mpr ⟨vs', hvs', rfl⟩
  | false =>
    rw [Expr.indexItems_eq_singleton ht, Expr.indexItems_eq_singleton (hi.trans ht)] at h ⊢
    obtain ⟨v', hv', harg, -⟩ := h.one hv
    refine ⟨v', hv', .one harg, ?_, ?_⟩
    · rw [itemsOf_eq_singleton harg.ne_tuple.2]
      exact evaluateAll_one.mpr hv
    · rw [itemsOf_eq_singleton harg.ne_tuple.1]
      exact evaluateAll_one.mpr hv'

theorem evaluate_subscript {scope : Scope} {of : Expr} {target : Value}
    (ht : w.evaluate scope of = .ok target) :
    w.evaluate scope (.subscript of i) = .ok v ↔
      ∃ index, w.evaluate scope i = .ok index ∧ w.subscript target index = .ok v := by
  rw [evaluate, ht, bind_eq_ok]
  constructor
  · rintro ⟨_, ⟨⟩, h⟩
    exact bind_eq_ok.mp h
  · exact fun h => ⟨target, rfl, bind_eq_ok.mpr h⟩

/-- What passes as an argument makes a type that does. -/
theorem refused_of_asType {t : Value} {allowsForms : Bool} (hp : v = .none ∨ v.IsProper)
    (hr : refused true false v = false) (ht : asType "" allowsForms v = .ok t) :
    refused true false t = false := by
  obtain rfl | hp := hp
  · cases ht
    rfl
  · rw [asType_of_isProper hp] at ht
    cases ht
    exact hr

/-- A text stands for the type that its expression evaluates to. -/
theorem resolvePending_text {t : Value} {allowsForms : Bool}
    (ht : asType "" allowsForms v = .ok t) (hr : refused true false t = false) (hs : s ∉ seen)
    (hw : Expr.ofText? s = some e') {v' : Value} (hv' : w.evaluate names.scope e' = .ok v')
    (harg : w.Argument (w.resolvePending n names (s :: seen)) v' v) :
    w.resolvePending (n + 1) names seen ⟨s, "", allowsForms⟩ = .ok t := by
  have hcheck : w.checkType
      { message := "Forward references must evaluate to types.", allowsForms := allowsForms } v =
        .ok t :=
    checkType_eq_ok.mpr ⟨ht, refused_mono hr true allowsForms⟩
  obtain ⟨t', ht', hread⟩ := harg.checkType rfl hcheck
  rw [resolvePending, expressionOf, hw]
  change (if _ then _ else _) = _
  rw [if_neg (by simpa using hs)]
  change (w.evaluate names.scope e' >>= fun v => _) = _
  rw [hv']
  change (w.checkType _ v' >>= fun v => _) = _
  rw [ht']
  exact hread.resolves

/-- Quoted expressions evaluate to arguments with texts. -/
theorem Quoted.evaluatesTo (h : w.Quoted names n seen es es') :
    w.EvaluatesTo names (w.resolvePending n names seen) es es' := by
  induction h with
  | nil =>
    intro vs hvs
    cases hvs
    exact ⟨[], rfl, .nil, .nil⟩
  | cons _ _ ihe ih => exact ihe.cons ih
  | @kept n seen e v hv hs =>
    refine evaluatesTo_one fun u hu => ?_
    rw [hv] at hu
    cases hu
    obtain rfl | hs := hs
    · exact ⟨.none, hv, .absent, nofun⟩
    · have hread := hs (w.resolvePending n names seen)
      refine ⟨v, hv, .typed hread ?_, fun s hs => (hread.isProper_left.ne_str s hs).elim⟩
      rintro s m f rfl
      cases hread.isTextFree
  | @text n seen e e' v s hv hp hr hs hw _ ih =>
    refine evaluatesTo_one fun u hu => ?_
    rw [hv] at hu
    cases hu
    obtain ⟨v', hv', harg, -⟩ := ih.one hv
    refine ⟨.str s, rfl, .text (by rw [hw.parses]; rfl) hp fun {f t} ht => ?_,
      fun _ h => by cases h; rfl⟩
    obtain ⟨t', -, hread⟩ := harg.asType ht
    have hstands := resolvePending_text ht (refused_of_asType hp hr ht) hs hw.parses hv' harg
    exact reads_forward hstands hread.toBecomes
  | @generic n seen of i i' target ht hg hi hn _ ih =>
    refine evaluatesTo_of_reads fun v hv => ?_
    obtain ⟨index, hindex, hv⟩ := (evaluate_subscript ht).mp hv
    obtain ⟨index', hindex', hargs, hitems, hitems'⟩ := ih.index hi hindex
    obtain ⟨v', hv', hread⟩ :=
      subscript_takesTypes hg hargs (fun hkept => hn hkept _ _ hitems' hitems) hv
    exact ⟨v', (evaluate_subscript ht).mpr ⟨index', hindex', hv'⟩, hread⟩
  | @union n seen of i i' ht hi hd _ ih =>
    refine evaluatesTo_of_reads fun v hv => ?_
    obtain ⟨index, hindex, hv⟩ := (evaluate_subscript ht).mp hv
    obtain ⟨index', hindex', hargs, hitems, hitems'⟩ := ih.index hi hindex
    obtain ⟨v', hv', hread⟩ := subscript_union hargs (hd _ _ hitems' hitems) hv
    exact ⟨v', (evaluate_subscript ht).mpr ⟨index', hindex', hv'⟩, hread⟩
  | @optional n seen of i i' ht hd _ ih =>
    refine evaluatesTo_of_reads fun v hv => ?_
    obtain ⟨index, hindex, hv⟩ := (evaluate_subscript ht).mp hv
    obtain ⟨index', hindex', harg, -⟩ := ih.one hindex
    have hdiscerned := hd [index', .none] [index, .none]
      (evaluateAll_cons.mpr ⟨index', [.none], hindex', rfl, rfl⟩)
      (evaluateAll_cons.mpr ⟨index, [.none], hindex, rfl, rfl⟩)
    obtain ⟨v', hv', hread⟩ := subscript_optional harg hdiscerned hv
    exact ⟨v', (evaluate_subscript ht).mpr ⟨index', hindex', hv'⟩, hread⟩
  | @bar n seen l l' r r' hb hd _ ih =>
    refine evaluatesTo_of_reads fun v hv => ?_
    obtain ⟨vl, hl, hv⟩ := bind_eq_ok.mp hv
    obtain ⟨vr, hr, hv⟩ := bind_eq_ok.mp hv
    have hall := evaluateAll_cons.mpr ⟨vl, [vr], hl, evaluateAll_one.mpr hr, rfl⟩
    obtain ⟨vs', hvs', hargs, -⟩ := ih _ hall
    cases hargs with
    | @cons vl' _ us' _ hargl hargs =>
      cases hargs with
      | @cons vr' _ _ _ hargr hnil =>
        cases hnil
        obtain ⟨piped, hkinds⟩ := hb
        obtain ⟨hkind, hkind', hts⟩ := hkinds vl' vr' vl vr hvs' hall
        obtain ⟨v', hv', hread⟩ :=
          pipe_reads hargl hargr hkind hkind' (hd _ _ hvs' hall) hts hv
        obtain ⟨_, _, hl', hr', hus'⟩ := evaluateAll_cons.mp hvs'
        cases hus'
        exact ⟨v', bind_eq_ok.mpr ⟨vl', hl', bind_eq_ok.mpr ⟨vr', evaluateAll_one.mp hr', hv'⟩⟩,
          hread⟩
  | @annotated n seen of e e' notes c ht he hs _ ih =>
    refine evaluatesTo_of_reads fun v hv => ?_
    obtain ⟨index, hindex, hv⟩ := (evaluate_subscript ht).mp hv
    obtain ⟨vs, hvs, rfl⟩ := evaluate_tuple.mp hindex
    obtain ⟨a, us, ha, hus, rfl⟩ := evaluateAll_cons.mp hvs
    obtain ⟨a', ha', harg, -⟩ := ih.one ha
    obtain ⟨v', hv', hread⟩ := subscript_annotated he hs harg hv
    have hindex' := evaluate_tuple.mpr ⟨_, evaluateAll_cons.mpr ⟨a', us, ha', hus, rfl⟩, rfl⟩
    exact ⟨v', (evaluate_subscript ht).mpr ⟨_, hindex', hv'⟩, hread⟩
  | @callable n seen of e e' ps ps' ht _ ih =>
    refine evaluatesTo_of_reads fun v hv => ?_
    obtain ⟨index, hindex, hv⟩ := (evaluate_subscript ht).mp hv
    obtain ⟨vs, hvs, rfl⟩ := evaluate_tuple.mp hindex
    obtain ⟨ls, us, hls, hus, rfl⟩ := evaluateAll_cons.mp hvs
    obtain ⟨xs, hxs, rfl⟩ := bind_pure_eq_ok.mp hls
    obtain ⟨x, rest, hx, hnil, rfl⟩ := evaluateAll_cons.mp hus
    cases hnil
    obtain ⟨vs', hvs', hargs, -⟩ := ih (x :: xs) (evaluateAll_cons.mpr ⟨x, xs, hx, hxs, rfl⟩)
    obtain ⟨x', xs', hx', hxs', rfl⟩ := evaluateAll_cons.mp hvs'
    cases hargs with
    | cons harg hargs =>
      obtain ⟨v', hv', hread⟩ := subscript_callable hargs harg hv
      refine ⟨v', (evaluate_subscript ht).mpr ⟨_, evaluate_tuple.mpr ⟨_, ?_, rfl⟩, hv'⟩, hread⟩
      refine evaluateAll_cons.mpr ⟨.list xs', [x'], ?_, evaluateAll_one.mpr hx', rfl⟩
      exact bind_pure_eq_ok.mpr ⟨xs', hxs', rfl⟩

/-! Whole annotations. -/

/-- A quoted text is the text of a quoted expression. -/
theorem Quoted.of_text (h : w.Quoted names n seen [e] [.str s]) :
    ∃ m e', n = m + 1 ∧ s ∉ seen ∧ Writes s e' ∧ w.Quoted names m (s :: seen) [e] [e'] := by
  generalize hes : [e] = es at h
  generalize hes' : [Expr.str s] = es' at h
  induction h with
  | nil => cases hes
  | cons _ _ ihe _ =>
    cases hes
    cases hes'
    exact ihe rfl rfl
  | @kept n seen e v hv' hs =>
    cases hes
    cases hes'
    cases hv'
    obtain hs | hs := hs
    · cases hs
    · exact ((hs fun _ => .error .endless).isProper_left.ne_str s rfl).elim
  | text hv hp hr hs hw h _ =>
    cases hes
    cases hes'
    exact ⟨_, _, rfl, hs, hw, h⟩
  | _ => cases hes'

theorem readText_of_writes (hw : Writes s e) (hv : w.evaluate names.scope e = .ok v) :
    w.readText names s = .ok v := by
  rw [readText, expressionOf, hw.parses]
  change (if _ then _ else _) = _
  split
  · next hname =>
    rw [Bool.and_eq_true, Bool.not_eq_true'] at hname
    obtain rfl := hw.isName hname.1 hname.2
    rw [evaluate, Scope.lookup] at hv
    split at hv
    · next u hu =>
      cases hv
      have hfind : Scope.find? names.scope.spaces s = some v := hu
      rw [hfind]
      rfl
    · cases hv
  · exact hv

/-- A text that says no other text. -/
theorem resolveText_eq_resolveParts {p : Pending} (hread : w.readText names p.text = .ok v)
    (hs : ∀ t, v ≠ .str t) (hf : ∀ t m f, v ≠ .forward t m f) :
    w.resolveText (n + 1) names [] p = w.resolveParts (w.resolvePending n names [p.text]) v := by
  rw [resolveText, if_neg (by simp), hread]
  cases v with
  | str t => exact (hs t rfl).elim
  | forward t m f => exact (hf t m f rfl).elim
  | _ => rfl

/-- A text stands for what its expression evaluates to without quotation marks, also if it says
another text. -/
theorem resolveText_of_quoted {p : Pending} (hw : Writes p.text e')
    (h : w.Quoted names n [p.text] [e] [e']) (hv : w.evaluate names.scope e = .ok v) :
    w.resolveText (n + 1) names [] p = .ok v := by
  induction n using Nat.strongRecOn generalizing p e' with
  | ind n ih =>
    obtain ⟨v', hv', harg, hstr⟩ := h.evaluatesTo.one hv
    have hread := readText_of_writes hw hv'
    cases harg with
    | absent =>
      rw [resolveText_eq_resolveParts hread nofun nofun]
      rfl
    | typed harg hf =>
      rw [resolveText_eq_resolveParts hread harg.isProper_left.ne_str hf]
      exact harg.resolves
    | @text t _ _ _ _ =>
      obtain rfl := hstr t rfl
      obtain ⟨m, e'', rfl, -, hw', h'⟩ := h.of_text
      rw [resolveText, if_neg (by simp), hread]
      exact ih m (Nat.lt_succ_self m) hw' (h'.mono (Nat.le_refl m) (by simp))

/-- The spellings of an annotation: the value of its expression, if that is no text, or a text of the
expression, with any parts of it quoted. -/
inductive Spells (w : World) (names : Surroundings) (e : Expr) : Value → Prop
  | evaluated {v : Value} (hv : w.evaluate names.scope e = .ok v) (hs : ∀ s, v ≠ .str s)
      (hf : ∀ s m f, v ≠ .forward s m f) : w.Spells names e v
  | text {s : String} {e' : Expr} {n : Nat} (hw : Writes s e') (hn : n < textLimit)
      (h : w.Quoted names n [s] [e] [e']) : w.Spells names e (.str s)
  | reference {s module : String} {allowsForms : Bool} {e' : Expr} {n : Nat} (hw : Writes s e')
      (hn : n < textLimit) (h : w.Quoted names n [s] [e] [e']) :
      w.Spells names e (.forward s module allowsForms)

/-- An annotation stands for the value of its expression, however it is spelled. -/
theorem annotationType_of_spells {locals : List (String × Value)} {module : String} {x : Value}
    (hv : w.evaluate (Surroundings.scope ⟨locals, w.namesOf module⟩) e = .ok v)
    (h : w.Spells ⟨locals, w.namesOf module⟩ e x) :
    w.annotationType locals module x = (v, []) := by
  have hresolve : w.resolveAnnotation locals module x = .ok v := by
    cases h with
    | @evaluated u hu hs hf =>
      cases hv.symm.trans hu
      cases v with
      | str s => exact (hs s rfl).elim
      | forward s m f => exact (hf s m f rfl).elim
      | _ => rfl
    | text hw hn h =>
      exact resolveText_of_quoted hw (h.mono (Nat.le_pred_of_lt hn) fun _ => id) hv
    | reference hw hn h =>
      exact resolveText_of_quoted hw (h.mono (Nat.le_pred_of_lt hn) fun _ => id) hv
  rw [annotationType, hresolve]

end World

end TypeProjection.Annotation
