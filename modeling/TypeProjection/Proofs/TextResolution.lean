import TypeProjection.Proofs.TextFree

/-!
# Values that are read as others

A value with texts inside is read as the value that it becomes when the texts are resolved. Types
made of values that are read as others are read as the types made of those: checks look at how a
value was made, which its texts do not change, and a union is made anew from its resolved
alternatives.
-/

namespace TypeProjection.Annotation

namespace Value

/-- Is the value one of several types? -/
def IsUnion (v : Value) : Prop := ∃ piped members, v = .union piped members

theorem unionMembers_of_not_isUnion {v : Value} (h : ¬ v.IsUnion) : v.unionMembers = [v] := by
  cases v with
  | union p ms => exact (h ⟨p, ms, rfl⟩).elim
  | _ => rfl

/-- Can the value be a type: is it neither absent, nor a text, nor several values? -/
structure IsProper (v : Value) : Prop where
  ne_none : v ≠ .none
  ne_str : ∀ s, v ≠ .str s
  ne_tuple : ∀ items, v ≠ .tuple items

end Value

namespace World

open Value (Similar Sharp IsProper)

variable {w : World} {use : TypeUse} {R : Pending → Except Fault Value}
variable {a a' b t t' v v' : Value} {ts ts' xs xs' : List Value} {allowsForms : Bool}

theorem bind_eq_ok {α β : Type} {x : Except Fault α} {f : α → Except Fault β} {b : β} :
    x >>= f = .ok b ↔ ∃ a, x = .ok a ∧ f a = .ok b := by
  cases x with
  | error e =>
    change Except.error e = _ ↔ _
    simp
  | ok a =>
    change f a = _ ↔ _
    simp

theorem bind_pure_eq_ok {α β : Type} {x : Except Fault α} {f : α → β} {b : β} :
    (do return f (← x)) = .ok b ↔ ∃ a, x = .ok a ∧ b = f a := by
  rw [bind_eq_ok]
  refine exists_congr fun a => and_congr_right fun _ => ?_
  constructor
  · intro h
    cases h
    rfl
  · rintro rfl
    rfl

theorem mapM_eq_ok {α β : Type} {f : α → Except Fault β} {xs : List α} {ys : List β} :
    xs.mapM f = .ok ys ↔ List.Forall₂ (fun x y => f x = .ok y) xs ys := by
  induction xs generalizing ys with
  | nil =>
    rw [List.forall₂_nil_left_iff]
    exact ⟨fun h => by cases h; rfl, fun h => by rw [h]; rfl⟩
  | cons x xs ih =>
    rw [List.mapM_cons, bind_eq_ok, List.forall₂_cons_left_iff]
    refine exists_congr fun y => ?_
    rw [bind_pure_eq_ok, ← exists_and_left]
    exact exists_congr fun zs => by rw [ih]

theorem exists_of_mapM {α β : Type} {f : α → Except Fault β} {xs : List α} {ys : List β} {y : β}
    (h : xs.mapM f = .ok ys) (hy : y ∈ ys) : ∃ x ∈ xs, f x = .ok y := by
  have hpairs := mapM_eq_ok.mp h
  clear h
  induction hpairs with
  | nil => cases hy
  | cons hx _ ih =>
    obtain rfl | hy := List.mem_cons.mp hy
    · exact ⟨_, List.mem_cons_self, hx⟩
    · obtain ⟨x, hmem, hx⟩ := ih hy
      exact ⟨x, List.mem_cons_of_mem _ hmem, hx⟩

/-! Checks. How a value was made decides whether it is a type, not what it was made of. -/

theorem asType_of_isProper (h : v.IsProper) {module : String} :
    asType module allowsForms v = .ok v := by
  cases v with
  | none => exact (h.ne_none rfl).elim
  | str s => exact (h.ne_str s rfl).elim
  | _ => rfl

/-- Is a value no type at its place? -/
def refused (isArgument allowsForms : Bool) : Value → Bool
  | .applied n c _ => n == "" && isGenericRoot c
  | .formed n _ =>
    (n == "ClassVar" && !allowsForms) || (n == "Final" && !(allowsForms || !isArgument))
  | .form n =>
    !(freeForms.contains n || (allowsForms && (n == "ClassVar" || n == "Final")))
  | .cls c => isGenericRoot c
  | .tuple _ => true
  | _ => false

theorem checkType_of_asType (ht : asType use.module use.allowsForms v = .ok t) :
    (refused use.isArgument use.allowsForms t = false → w.checkType use v = .ok t) ∧
      (refused use.isArgument use.allowsForms t = true → ∃ e, w.checkType use v = .error e) := by
  unfold checkType
  rw [ht]
  cases t with
  | applied n c xs =>
    by_cases hn : n = ""
    · subst hn
      cases hc : isGenericRoot c <;> simp [refused, hc, bind, Except.bind]
    · simp [refused, hn, bind, Except.bind]
  | formed n xs =>
    by_cases hn : n = "ClassVar"
    · subst hn
      cases hf : use.allowsForms <;> simp [refused, bind, Except.bind]
    by_cases hn' : n = "Final"
    · subst hn'
      cases hf : use.allowsForms <;> cases use.isArgument <;> simp [refused, bind, Except.bind]
    · simp [refused, hn, hn', bind, Except.bind]
  | form n =>
    by_cases hfree : n ∈ freeForms
    · simp [refused, hfree, bind, Except.bind]
    by_cases hword : use.allowsForms = true ∧ (n = "ClassVar" ∨ n = "Final")
    · simp [refused, hfree, hword, bind, Except.bind]
      tauto
    · simp [refused, hfree, hword, bind, Except.bind]
      tauto
  | cls c => cases hc : isGenericRoot c <;> simp [refused, hc, bind, Except.bind]
  | tuple xs => exact ⟨fun h => (nomatch h), fun _ => ⟨_, rfl⟩⟩
  | _ => exact ⟨fun _ => rfl, fun h => (nomatch h)⟩

/-- A check turns a value into a type and then refuses some types. -/
theorem checkType_eq_ok : w.checkType use v = .ok t ↔
    asType use.module use.allowsForms v = .ok t ∧
      refused use.isArgument use.allowsForms t = false := by
  constructor
  · intro h
    cases ha : asType use.module use.allowsForms v with
    | error e =>
      rw [checkType, ha] at h
      cases h
    | ok b =>
      have hb := checkType_of_asType (w := w) ha
      cases hr : refused use.isArgument use.allowsForms b with
      | true =>
        obtain ⟨e, he⟩ := hb.2 hr
        rw [he] at h
        cases h
      | false =>
        rw [hb.1 hr] at h
        cases h
        exact ⟨rfl, hr⟩
  · exact fun h => (checkType_of_asType h.1).1 h.2

/-- What passes as an argument passes everywhere. -/
theorem refused_mono (h : refused true false v = false) (isArgument allowsForms : Bool) :
    refused isArgument allowsForms v = false := by
  cases v with
  | formed n xs => simp_all [refused]
  | form n => simp_all [refused]
  | _ => exact h

theorem isPipeable_of_asType {module : String} (ht : asType module allowsForms v = .ok t)
    (h : v.isPipeable = true) : t.isPipeable = true := by
  cases v with
  | none =>
    cases ht
    rfl
  | str s => cases h
  | _ =>
    cases ht
    exact h

/-! Readings. -/

/-- What a value becomes when its texts are resolved. -/
def resolved (w : World) (R : Pending → Except Fault Value) (v : Value) : Value :=
  match w.resolveParts R v with
  | .ok t => t
  | .error _ => v

theorem resolved_eq (h : w.resolveParts R v = .ok t) : w.resolved R v = t := by
  rw [resolved, h]

/-- A value becomes another when its texts are resolved. Nothing is left to resolve then, and a
value that is free of texts is that other value. -/
structure Becomes (w : World) (R : Pending → Except Fault Value) (t' t : Value) : Prop where
  isProper_left : t'.IsProper
  isProper_right : t.IsProper
  resolves : w.resolveParts R t' = .ok t
  isTextFree : t.isTextFree = true
  changes : t' = t ∨ t'.isTextFree = false
  passes : ∀ {isArgument allowsForms}, refused isArgument allowsForms t = false →
    refused isArgument allowsForms t' = false
  flat : ∀ m ∈ t.unionMembers, ¬ m.IsUnion ∧ m.IsProper
  /-- What can stand between bars becomes something that can, as can its alternatives. -/
  pipes : t'.isPipeable = true →
    t.isPipeable = true ∧ ∀ m ∈ t.unionMembers, m.isPipeable = true

/-- A value is read as another: it becomes that one, and so do its alternatives, if it is a
union. -/
structure Reads (w : World) (R : Pending → Except Fault Value) (t' t : Value) : Prop
    extends Becomes w R t' t where
  alternatives : ∀ m ∈ t'.unionMembers, ¬ m.IsUnion ∧ w.Becomes R m (w.resolved R m) ∧
    (refused true false t = false → refused true false (w.resolved R m) = false) ∧
    (t'.isPipeable = true → m.isPipeable = true)
  similar : Similar t.unionMembers
    (t'.unionMembers.flatMap fun m => (w.resolved R m).unionMembers)

theorem Becomes.reads (h : w.Becomes R t' t) (hu : ¬ t'.IsUnion) : w.Reads R t' t where
  toBecomes := h
  alternatives := by
    rw [Value.unionMembers_of_not_isUnion hu]
    intro m hm
    cases List.mem_singleton.mp hm
    rw [resolved_eq h.resolves]
    exact ⟨hu, h, id, id⟩
  similar := by
    rw [Value.unionMembers_of_not_isUnion hu, List.flatMap_singleton, resolved_eq h.resolves]
    exact .refl

/-- Two values made alike, neither of them a union. -/
theorem Reads.of_parts (hu' : ¬ t'.IsUnion) (hu : ¬ t.IsUnion) (hproper' : t'.IsProper)
    (hproper : t.IsProper) (hresolves : w.resolveParts R t' = .ok t)
    (hfree : t.isTextFree = true) (hchanges : t' = t ∨ t'.isTextFree = false)
    (hpasses : ∀ {isArgument allowsForms}, refused isArgument allowsForms t = false →
      refused isArgument allowsForms t' = false)
    (hpipes : t'.isPipeable = true → t.isPipeable = true) : w.Reads R t' t :=
  Becomes.reads
    { isProper_left := hproper'
      isProper_right := hproper
      resolves := hresolves
      isTextFree := hfree
      changes := hchanges
      passes := hpasses
      flat := by
        rw [Value.unionMembers_of_not_isUnion hu]
        intro m hm
        cases List.mem_singleton.mp hm
        exact ⟨hu, hproper⟩
      pipes := by
        rw [Value.unionMembers_of_not_isUnion hu]
        intro hp
        refine ⟨hpipes hp, fun m hm => ?_⟩
        cases List.mem_singleton.mp hm
        exact hpipes hp } hu'

/-- A text is read as the value that it stands for. -/
theorem reads_forward {R' : Pending → Except Fault Value} {s : String}
    (hs : R ⟨s, "", allowsForms⟩ = .ok t) (h : w.Becomes R' v t) : w.Reads R (.forward s "" allowsForms) t :=
  Becomes.reads
    { isProper_left := ⟨nofun, nofun, nofun⟩
      isProper_right := h.isProper_right
      resolves := hs
      isTextFree := h.isTextFree
      changes := .inr rfl
      passes := fun _ => rfl
      flat := h.flat
      pipes := nofun } nofun

/-- A value is settled if it is read as itself, whatever texts stand for. -/
def Settled (w : World) (v : Value) : Prop := ∀ R, w.Reads R v v

/-- A class is settled. -/
theorem settled_cls (w : World) (c : ClassRef) : w.Settled (.cls c) := fun _ =>
  .of_parts nofun nofun ⟨nofun, nofun, nofun⟩ ⟨nofun, nofun, nofun⟩ rfl rfl (.inl rfl) id id

/-- The places of arguments: an absent value, a type, or a text that stands, wherever it may be asked
for, for the type that an argument makes. -/
inductive Argument (w : World) (R : Pending → Except Fault Value) : Value → Value → Prop
  | absent : w.Argument R .none .none
  | typed {a' a : Value} (h : w.Reads R a' a) (hf : ∀ s m f, a' ≠ .forward s m f) :
    w.Argument R a' a
  | text {s : String} {a : Value} (hs : (Expr.ofText? s).isSome) (ha : a = .none ∨ a.IsProper)
      (h : ∀ {allowsForms t}, asType "" allowsForms a = .ok t →
        w.Reads R (.forward s "" allowsForms) t) : w.Argument R (.str s) a

theorem Argument.asType (h : w.Argument R a' a) (ha : asType "" allowsForms a = .ok t) :
    ∃ t', World.asType "" allowsForms a' = .ok t' ∧ w.Reads R t' t := by
  cases h with
  | absent =>
    cases ha
    exact ⟨_, rfl, w.settled_cls _ R⟩
  | typed h =>
    rw [asType_of_isProper h.isProper_right] at ha
    cases ha
    exact ⟨a', asType_of_isProper h.isProper_left, h⟩
  | @text s _ hs _ h => exact ⟨.forward s "" allowsForms, if_pos hs, h ha⟩

/-- Where a value passes a check, so does one that is read as it. -/
theorem Argument.checkType (h : w.Argument R a' a) (hm : use.module = "")
    (ha : w.checkType use a = .ok t) :
    ∃ t', w.checkType use a' = .ok t' ∧ w.Reads R t' t := by
  obtain ⟨hat, hr⟩ := checkType_eq_ok.mp ha
  rw [hm] at hat
  obtain ⟨t', ht', hread⟩ := h.asType hat
  refine ⟨t', checkType_eq_ok.mpr ⟨?_, hread.passes hr⟩, hread⟩
  rw [hm]
  exact ht'

/-! Types made of others. -/

theorem free_of_forall₂ {P : Value → Value → Prop} (h : List.Forall₂ P xs' xs)
    (hP : ∀ {x' x}, P x' x → x.isTextFree = true ∧ (x' = x ∨ x'.isTextFree = false)) :
    Value.isTextFree.all xs = true ∧ (xs' = xs ∨ Value.isTextFree.all xs' = false) := by
  induction h with
  | nil => exact ⟨rfl, .inl rfl⟩
  | @cons x' x xs' xs hx _ ih =>
    obtain ⟨hfree, hchange⟩ := hP hx
    refine ⟨by rw [Value.isTextFree.all, hfree, ih.1, Bool.and_self], ?_⟩
    rw [Value.isTextFree.all]
    obtain rfl | hx' := hchange
    · exact ih.2.imp (fun h => by rw [h]) fun h => by rw [h, Bool.and_false]
    · exact .inr (by rw [hx', Bool.false_and])

theorem Argument.isTextFree (h : w.Argument R a' a) :
    a.isTextFree = true ∧ (a' = a ∨ a'.isTextFree = false) := by
  cases h with
  | absent => exact ⟨rfl, .inl rfl⟩
  | typed h => exact ⟨h.isTextFree, h.changes⟩
  | text _ ha h =>
    refine ⟨?_, .inr rfl⟩
    obtain rfl | ha := ha
    · rfl
    · have hself : World.asType "" false a = .ok a := asType_of_isProper ha
      exact (h hself).isTextFree

theorem resolveAll_eq (h : List.Forall₂ (w.Reads R) ts' ts) :
    resolveParts.resolveAll w R ts' = .ok ts := by
  induction h with
  | nil => rfl
  | cons ht _ ih =>
    rw [resolveParts.resolveAll, ht.resolves, ih]
    rfl

/-- Arguments that are kept as they were written, where no text stands for an absent value. -/
def KeepsAbsence (xs' xs : List Value) : Prop :=
  List.Forall₂ (fun x' x => x = .none → x' = .none) xs' xs

theorem resolveNative_eq (h : List.Forall₂ (w.Argument R) xs' xs) (hn : KeepsAbsence xs' xs) :
    resolveParts.resolveNative w R xs' = .ok xs := by
  induction h with
  | nil => rfl
  | cons hx _ ih =>
    obtain ⟨hnone, htail⟩ := List.forall₂_cons.mp hn
    cases hx with
    | absent =>
      rw [resolveParts.resolveNative, ih htail]
      · rfl
      · exact nofun
    | typed h =>
      rw [resolveParts.resolveNative, h.resolves, ih htail]
      · rfl
      · exact h.isProper_left.ne_str
    | text _ ha h =>
      have hproper := ha.resolve_left fun ha => nomatch hnone ha
      have hself : World.asType "" false _ = .ok _ := asType_of_isProper hproper
      have hs := (h hself).resolves
      rw [resolveParts] at hs
      rw [resolveParts.resolveNative, hs, ih htail]
      rfl

/-- A class with arguments. -/
theorem reads_applied (n : String) (c : ClassRef) (h : List.Forall₂ (w.Reads R) ts' ts) :
    w.Reads R (.applied n c ts') (.applied n c ts) := by
  obtain ⟨hfree, hchanges⟩ := free_of_forall₂ h fun h => ⟨h.isTextFree, h.changes⟩
  refine .of_parts nofun nofun ⟨nofun, nofun, nofun⟩ ⟨nofun, nofun, nofun⟩ ?_ hfree ?_ id id
  · rw [resolveParts, resolveAll_eq h]
    rfl
  · exact hchanges.imp_left fun h => by rw [h]

/-- A class with arguments that are kept as they were written, unless it is that of callables. -/
theorem reads_native {c : ClassRef} (hc : c ≠ callableRoot)
    (h : List.Forall₂ (w.Argument R) xs' xs) (hn : KeepsAbsence xs' xs) :
    w.Reads R (.native c xs') (.native c xs) := by
  obtain ⟨hfree, hchanges⟩ := free_of_forall₂ h Argument.isTextFree
  refine .of_parts nofun nofun ⟨nofun, nofun, nofun⟩ ⟨nofun, nofun, nofun⟩ ?_ hfree ?_ id id
  · rw [resolveParts, resolveNative_eq h hn]
    change (if (c == callableRoot && _) = true then _ else _) = _
    rw [beq_false_of_ne hc, Bool.false_and]
    rfl
  · exact hchanges.imp_left fun h => by rw [h]

/-- A special word with arguments that are types. -/
theorem reads_formed {n : String} (hn : n ≠ "Literal") (h : List.Forall₂ (w.Reads R) ts' ts) :
    w.Reads R (.formed n ts') (.formed n ts) := by
  obtain ⟨hfree, hchanges⟩ := free_of_forall₂ h fun h => ⟨h.isTextFree, h.changes⟩
  have hname : (n == "Literal") = false := beq_false_of_ne hn
  refine .of_parts nofun nofun ⟨nofun, nofun, nofun⟩ ⟨nofun, nofun, nofun⟩ ?_ ?_ ?_ id id
  · rw [resolveParts, resolveAll_eq h]
    · rfl
    · exact hn
  · rw [Value.isTextFree, hname, hfree, Bool.or_true]
  · rw [Value.isTextFree, hname, Bool.false_or]
    exact hchanges.imp_left fun h => by rw [h]

/-! Notes. -/

/-- A value with notes has notes only at its head, whatever it was. -/
theorem annotate_eq_ok {notes : List Value} (h : w.annotate v notes = .ok t) :
    ∃ x more, t = .annotated x more ∧ x.isTextFree = v.isTextFree ∧
      ∀ later, w.annotate v (notes ++ later) = .ok (.annotated x (more ++ later)) := by
  cases v with
  | annotated x xs =>
    cases h
    refine ⟨x, xs ++ notes, rfl, rfl, fun later => ?_⟩
    rw [List.append_assoc]
    rfl
  | _ =>
    simp only [annotate] at h
    split at h
    · cases h
      refine ⟨_, notes, rfl, rfl, fun later => ?_⟩
      simp_all only [annotate, if_true]
    · cases h

/-- What still holds texts knows the module it belongs to. -/
theorem knowsModule_of_texts (hp : v.IsProper) (h : v.isTextFree = false) :
    knowsModule v = true := by
  cases v with
  | str s => exact (hp.ne_str s rfl).elim
  | applied | native | formed | looseCallable | union | annotated | forward => rfl
  | _ => cases h

/-- A type with notes. -/
theorem reads_annotate {notes : List Value} (h : w.Reads R t' t)
    (ht : w.annotate t notes = .ok v) : ∃ v', w.annotate t' notes = .ok v' ∧ w.Reads R v' v := by
  obtain ⟨x, more, rfl, hx, -⟩ := annotate_eq_ok ht
  have hdone : ∃ v', w.annotate t' notes = .ok v' ∧
      w.resolveParts R v' = .ok (.annotated x more) := by
    have hhead : (∃ y ys, t' = .annotated y ys) ∨ knowsModule t' = true ∧
        ∀ y ys, t' ≠ .annotated y ys := by
      by_cases hy : ∃ y ys, t' = .annotated y ys
      · exact .inl hy
      · refine .inr ⟨?_, fun y ys h => hy ⟨y, ys, h⟩⟩
        obtain rfl | hfree := h.changes
        · by_contra hk
          cases t' with
          | annotated y ys => exact hy ⟨y, ys, rfl⟩
          | _ => simp_all [annotate]
        · exact knowsModule_of_texts h.isProper_left hfree
    obtain ⟨y, ys, rfl⟩ | ⟨hk, hy⟩ := hhead
    · have hr := h.resolves
      rw [resolveParts] at hr
      obtain ⟨z, hz, hzt⟩ := bind_eq_ok.mp hr
      obtain ⟨z', more', rfl, -, hlater⟩ := annotate_eq_ok hzt
      refine ⟨_, rfl, ?_⟩
      rw [resolveParts, hz]
      exact (hlater notes).trans ht
    · refine ⟨.annotated t' notes, ?_, ?_⟩
      · rw [annotate, if_pos hk]
        exact hy
      · rw [resolveParts, h.resolves]
        exact ht
  obtain ⟨v', hv', hres⟩ := hdone
  refine ⟨v', hv', ?_⟩
  obtain ⟨x', more', rfl, hx', -⟩ := annotate_eq_ok hv'
  refine .of_parts nofun nofun ⟨nofun, nofun, nofun⟩ ⟨nofun, nofun, nofun⟩ hres
    (hx.trans h.isTextFree) ?_
    (fun _ => rfl) nofun
  obtain rfl | hfree := h.changes
  · exact .inl (Except.ok.inj (hv'.symm.trans ht))
  · exact .inr (hx'.trans hfree)

end World

end TypeProjection.Annotation
