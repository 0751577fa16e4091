import TypeProjection.Proofs.OutlinedClasses
import TypeProjection.Proofs.SoundRuns

/-!
# Steps that make no classes

Most steps of a run look at the world and may add variables and named types, but leave its classes
and modules as they are. What such a step gives depends on the outline of the world alone: in worlds
with one outline it gives the same, and leads to worlds with one outline again.
-/

namespace TypeProjection.Definition

open Annotation

/-- The second world has the classes and the modules of the first one. -/
structure Still (w w₁ : World) : Prop where
  classes : w₁.classes = w.classes
  modules : w₁.modules = w.modules
  current : w₁.current = w.current

theorem Still.refl (w : World) : Still w w := ⟨rfl, rfl, rfl⟩

theorem Still.trans {w w₁ w₂ : World} (h : Still w w₁) (h' : Still w₁ w₂) : Still w w₂ :=
  ⟨h'.classes.trans h.classes, h'.modules.trans h.modules, h'.current.trans h.current⟩

/-- The two steps give the same, each in its world, lead to worlds with one outline, and leave
classes and modules alone. -/
structure Parallel {α : Type} (w w' : World) (m m' : Run α) : Prop where
  result : (m'.run.run w').1 = (m.run.run w).1
  outline : (m.run.run w).2.outline = (m'.run.run w').2.outline
  left : Still w (m.run.run w).2
  right : Still w' (m'.run.run w').2

/-- The step is parallel to itself in worlds with one outline. -/
def Steady {α : Type} (m : Run α) : Prop :=
  ∀ w w' : World, w.outline = w'.outline → Parallel w w' m m

section Rules

variable {α β : Type} {w w' : World} {m m' : Run α} {f f' : α → Run β}

theorem parallel_pure (h : w.outline = w'.outline) {a a' : α} (ha : a = a') :
    Parallel w w' (pure a) (pure a') :=
  ⟨congrArg Except.ok ha.symm, h, Still.refl w, Still.refl w'⟩

theorem parallel_failing (h : w.outline = w'.outline) {e : Fault} :
    Parallel w w' (failing (α := α) e) (failing e) :=
  ⟨rfl, h, Still.refl w, Still.refl w'⟩

/-- Steps that begin with a pure result. -/
theorem parallel_lifted_bind (h : w.outline = w'.outline) {x : Except Fault α}
    (hf : ∀ a, Parallel w w' (f a) (f' a)) : Parallel w w' (lifted x >>= f) (lifted x >>= f') := by
  cases x with
  | ok a => exact hf a
  | error e => exact parallel_failing h

theorem Parallel.bind (hm : Parallel w w' m m')
    (hf : ∀ a w₁ w₁', w₁.outline = w₁'.outline → Parallel w₁ w₁' (f a) (f' a)) :
    Parallel w w' (m >>= f) (m' >>= f') := by
  obtain ⟨hresult, houtline, hleft, hright⟩ := hm
  have hrun := run_bind m f w
  have hrun' := run_bind m' f' w'
  rcases hm : m.run.run w with ⟨r, w₁⟩
  rcases hm' : m'.run.run w' with ⟨r', w₁'⟩
  rw [hm] at hresult houtline hleft hrun
  rw [hm'] at hresult houtline hright hrun'
  cases (hresult : r' = r)
  cases r with
  | error e =>
    constructor
    · rw [hrun, hrun']
    · rw [hrun, hrun']
      exact houtline
    · rw [hrun]
      exact hleft
    · rw [hrun']
      exact hright
  | ok a =>
    obtain ⟨hresult, houtline, hleft₁, hright₁⟩ := hf a w₁ w₁' houtline
    constructor
    · rw [hrun, hrun']
      exact hresult
    · rw [hrun, hrun']
      exact houtline
    · rw [hrun]
      exact hleft.trans hleft₁
    · rw [hrun']
      exact hright.trans hright₁

/-- Steps that begin with a look at the world. -/
theorem parallel_look {f f' : World → Run β} (h : Parallel w w' (f w) (f' w')) :
    Parallel w w' (get >>= f) (get >>= f') :=
  ⟨h.result, h.outline, h.left, h.right⟩

/-- Steps that replace the world and give a value. -/
theorem parallel_set {w₁ w₁' : World} {a a' : α} (ha : a = a') (h : w₁.outline = w₁'.outline)
    (hleft : Still w w₁) (hright : Still w' w₁') :
    Parallel w w' (do set w₁; return a) (do set w₁'; return a') :=
  ⟨congrArg Except.ok ha.symm, h, hleft, hright⟩

theorem steady_pure {a : α} : Steady (pure a) := fun _ _ h => parallel_pure h rfl

theorem steady_failing {e : Fault} : Steady (failing (α := α) e) := fun _ _ h => parallel_failing h

theorem steady_lifted {x : Except Fault α} : Steady (lifted x) := by
  cases x with
  | ok a => exact steady_pure
  | error e => exact steady_failing

theorem Steady.bind (hm : Steady m) (hf : ∀ a, Steady (f a)) : Steady (m >>= f) :=
  fun w w' h => (hm w w' h).bind fun a _ _ h => hf a _ _ h

theorem steady_mapM {f : α → Run β} (hf : ∀ a, Steady (f a)) (xs : List α) :
    Steady (xs.mapM f) := by
  induction xs with
  | nil => exact steady_pure
  | cons x xs ih =>
    rw [List.mapM_cons]
    exact (hf x).bind fun _ => ih.bind fun _ => steady_pure

/-- A pure result that only the outline of the world decides. -/
theorem steady_of_outline {x : World → Except Fault α} (hx : ∀ w, x w.outline = x w) :
    Steady (get >>= fun w => lifted (x w)) := by
  intro w w' h
  refine parallel_look ?_
  rw [World.eq_of_outline hx h]
  exact steady_lifted _ _ h

end Rules

/-! Values of texts. -/

section Values

variable {s : Setting} {p : Spot} {text name : String}

theorem steady_sourceExpression : Steady (sourceExpression text) := by
  unfold sourceExpression
  split
  · exact steady_pure
  · exact steady_failing

theorem steady_valueOf {e : Expr} : Steady (valueOf s p e) :=
  steady_of_outline (x := fun w => w.evaluate ⟨[p.locals, w.namesOf s.module], p.owner⟩ e)
    fun w => by rw [World.outline_evaluate, World.outline_namesOf]

theorem steady_valueOfText : Steady (valueOfText s p text) :=
  steady_sourceExpression.bind fun _ => steady_valueOf

theorem steady_values {es : List Expr} : Steady (es.mapM (valueOf s p)) :=
  steady_mapM (fun _ => steady_valueOf) es

theorem steady_words {named : List (String × Expr)} :
    Steady (named.mapM fun n => do return (n.1, ← valueOf s p n.2)) :=
  steady_mapM (fun _ => steady_valueOf.bind fun _ => steady_pure) named

/-- The same change of variables. -/
theorem outline_withTypeVars {w w' : World} (h : w.outline = w'.outline)
    (f : Array TypeVariable → Array TypeVariable) :
    World.outline { w with typeVars := f w.typeVars } =
      World.outline { w' with typeVars := f w'.typeVars } :=
  congrArg (fun w : World => { w with typeVars := f w.typeVars }) h

theorem steady_newTypeVar {variance : Variance} {alternatives : List Value}
    {bound : Option Value} {b : Bool} :
    Steady (newTypeVar s name variance alternatives bound b) := by
  intro w w' h
  have hcheck : w'.checkType = w.checkType := (World.eq_of_outline World.outline_checkType h).symm
  have hvars : w.typeVars = w'.typeVars := World.eq_of_outline World.outline_typeVars h
  refine parallel_look ?_
  rw [hcheck]
  extract_lets rest rest'
  have hrest : ∀ o, Parallel w w' (rest o) (rest' o) := by
    intro o
    unfold rest rest'
    split
    · exact parallel_failing h
    split
    · exact parallel_failing h
    refine parallel_lifted_bind h fun ts => ?_
    exact parallel_set (congrArg (fun vs => Value.typeVar vs.size) hvars)
      (outline_withTypeVars h fun vs => vs.push _) ⟨rfl, rfl, rfl⟩ ⟨rfl, rfl, rfl⟩
  split
  · rw [pure_bind, pure_bind]
    exact hrest none
  · rw [pure_bind, pure_bind]
    exact hrest none
  · exact parallel_lifted_bind h fun t => hrest (some t)

theorem steady_newParamSpec : Steady (newParamSpec s name) := by
  intro w w' h
  have hspecs : w.paramSpecs = w'.paramSpecs := World.eq_of_outline World.outline_paramSpecs h
  refine parallel_look (parallel_set (congrArg (fun xs => Value.paramSpec xs.size) hspecs) ?_
    ⟨rfl, rfl, rfl⟩ ⟨rfl, rfl, rfl⟩)
  exact congrArg (fun w : World => { w with paramSpecs := w.paramSpecs.push (name, s.module) }) h

theorem steady_newNamedType {v : Value} : Steady (newNamedType s name v) := by
  intro w w' h
  have htypes : w.newTypes = w'.newTypes := World.eq_of_outline World.outline_newTypes h
  refine parallel_look (parallel_set (congrArg (fun xs => Value.newType xs.size) htypes) ?_
    ⟨rfl, rfl, rfl⟩ ⟨rfl, rfl, rfl⟩)
  exact congrArg (fun w : World => { w with newTypes := w.newTypes.push ⟨name, s.module, v⟩ }) h

theorem steady_markConstructible {i : Nat} : Steady (markConstructible i) :=
  fun _ _ h => ⟨rfl, outline_withTypeVars h fun vs => vs.modify i _, ⟨rfl, rfl, rfl⟩,
    ⟨rfl, rfl, rfl⟩⟩

theorem steady_called {callee : Value} {arguments : List Value} {words : List (String × Value)} :
    Steady (called s callee arguments words) := by
  unfold called
  split
  · exact steady_newParamSpec
  · exact steady_newTypeVar
  · exact steady_newNamedType
  · exact steady_markConstructible.bind fun _ => steady_pure
  · exact steady_of_outline fun w => by rw [World.outline_call]

theorem steady_assignedValue : Steady (assignedValue s p text) := by
  refine steady_sourceExpression.bind fun e => ?_
  split
  · exact steady_valueOf.bind fun _ => steady_values.bind fun _ =>
      steady_words.bind fun _ => steady_called
  · exact steady_valueOf

theorem steady_assignedAttribute : Steady (assignedAttribute s p text) := by
  have hvalue : Steady (do return Attribute.value (← assignedValue s p text)) :=
    steady_assignedValue.bind fun _ => steady_pure
  refine steady_sourceExpression.bind fun e => ?_
  split
  · refine steady_valueOf.bind fun f => ?_
    split
    case h_3 => exact hvalue
    all_goals
      refine steady_values.bind fun vs => steady_words.bind fun words => ?_
      dsimp only
      split
      · exact steady_pure
      · exact steady_pure
      · exact steady_pure
  · exact hvalue

theorem steady_dataOptions : Steady (dataOptions? s p text) := by
  refine steady_sourceExpression.bind fun e => ?_
  split
  · refine steady_valueOf.bind fun f => ?_
    split
    · exact steady_words.bind fun _ => steady_pure
    · exact steady_pure
  · refine steady_valueOf.bind fun f => ?_
    split
    · exact steady_pure
    · exact steady_pure

theorem steady_headerWords : Steady (headerWords s p text) := by
  unfold headerWords
  split
  · exact steady_pure
  · refine steady_sourceExpression.bind fun e => ?_
    split
    · exact steady_words
    · exact steady_pure

end Values

end TypeProjection.Definition
