import TypeProjection.Proofs.TextResolution

/-!
# Values that a world can have made

Every class, variable and named type that a value mentions is one of the world's, and a class that
takes an argument for each of its type parameters never stands with another number of arguments. A
value that is made of such values, by any expression in any scope, is such a value again; so is
what a text stands for. Only the way in which a class takes its arguments decides how many they
are, so nothing is said of classes that keep whatever they are given.
-/

namespace TypeProjection.Annotation

/-- Whatever a computation gives has a property. -/
def Gives {α : Type} (x : Except Fault α) (P : α → Prop) : Prop := ∀ a, x = .ok a → P a

section Gives

variable {α β : Type} {P : α → Prop} {Q : β → Prop}

@[simp] theorem gives_ok {a : α} : Gives (.ok a) P ↔ P a :=
  ⟨fun h => h a rfl, fun h b hb => by cases hb; exact h⟩

@[simp] theorem gives_error {f : Fault} : Gives (.error f) P := fun _ h => nomatch h

@[simp] theorem gives_pure {a : α} : Gives (pure a) P ↔ P a := gives_ok

@[simp] theorem gives_bind {x : Except Fault α} {f : α → Except Fault β} :
    Gives (x >>= f) Q ↔ Gives x fun a => Gives (f a) Q := by
  cases x with
  | error e => exact ⟨fun _ => gives_error, fun _ => gives_error⟩
  | ok a =>
    rw [gives_ok]
    exact Iff.rfl

theorem Gives.mono {x : Except Fault α} {P' : α → Prop} (h : Gives x P) (hP : ∀ a, P a → P' a) :
    Gives x P' := fun a ha => hP a (h a ha)

theorem gives_mapM {f : α → Except Fault β} {xs : List α} (h : ∀ x ∈ xs, Gives (f x) Q) :
    Gives (xs.mapM f) fun ys => ys.length = xs.length ∧ ∀ y ∈ ys, Q y := by
  intro ys hys
  refine ⟨(World.mapM_eq_ok.mp hys).length_eq.symm, fun y hy => ?_⟩
  obtain ⟨x, hx, hy⟩ := World.exists_of_mapM hys hy
  exact h x hx y hy

theorem gives_ite {c : Prop} [Decidable c] {x y : Except Fault α} (hx : c → Gives x P)
    (hy : ¬ c → Gives y P) : Gives (if c then x else y) P := by
  split
  · exact hx ‹_›
  · exact hy ‹_›

/-- What every step keeps, a fold keeps. -/
theorem gives_foldlM {f : β → α → Except Fault β} {xs : List α}
    (h : ∀ x ∈ xs, ∀ b, Q b → Gives (f b x) Q) {b : β} (hb : Q b) : Gives (xs.foldlM f b) Q := by
  induction xs generalizing b with
  | nil => exact gives_ok.mpr hb
  | cons x xs ih =>
    rw [List.foldlM_cons, gives_bind]
    refine (h x (List.mem_cons_self ..) b hb).mono fun c hc => ?_
    exact ih (fun y hy => h y (List.mem_cons_of_mem _ hy)) hc

end Gives

namespace Value

/-- The values directly inside of a value. -/
def children : Value → List Value
  | .list xs | .tuple xs | .set xs | .looseCallable xs => xs
  | .dict ks vs => ks ++ vs
  | .applied _ _ xs | .native _ xs | .formed _ xs | .union _ xs => xs
  | .annotated v notes => v :: notes
  | .initVar v => [v]
  | _ => []

/-- A property holds of a value and of everything inside of it. -/
inductive Every (P : Value → Prop) : Value → Prop
  | intro {v : Value} : P v → (∀ x ∈ v.children, Every P x) → Every P v

theorem every_iff {P : Value → Prop} {v : Value} :
    v.Every P ↔ P v ∧ ∀ x ∈ v.children, x.Every P :=
  ⟨fun h => by cases h with | intro hv hx => exact ⟨hv, hx⟩, fun h => .intro h.1 h.2⟩

theorem Every.imp {P Q : Value → Prop} {v : Value} (h : v.Every P) (hPQ : ∀ v, P v → Q v) :
    v.Every Q := by
  induction h with
  | intro hv _ ih => exact .intro (hPQ _ hv) ih

/-- Items that are kept one by one are items of the list. -/
theorem mem_of_mem_foldl {test : List Value → Value → Bool} {x : Value} {xs kept : List Value}
    (h : x ∈ xs.foldl (fun kept x => if test kept x then kept else x :: kept) kept) :
    x ∈ kept ∨ x ∈ xs := by
  induction xs generalizing kept with
  | nil => exact .inl h
  | cons y ys ih =>
    rw [List.foldl_cons] at h
    rcases ih h with hx | hx
    · split at hx
      · exact .inl hx
      · rcases List.mem_cons.mp hx with rfl | hx
        · exact .inr (List.mem_cons_self ..)
        · exact .inl hx
    · exact .inr (List.mem_cons_of_mem y hx)

theorem mem_of_mem_distinctValues {x : Value} {xs : List Value} (h : x ∈ distinctValues xs) :
    x ∈ xs :=
  (mem_of_mem_foldl (List.mem_reverse.mp h)).resolve_left List.not_mem_nil

theorem mem_of_mem_distinctLiterals {x : Value} {xs : List Value} (h : x ∈ distinctLiterals xs) :
    x ∈ xs :=
  (mem_of_mem_foldl (List.mem_reverse.mp h)).resolve_left List.not_mem_nil

end Value

namespace World

variable {w : World} {v l r inner index : Value} {xs notes : List Value}

/-- The class is one of the library or of the world. -/
def Valid (w : World) : ClassRef → Prop
  | .library _ _ => True
  | .declared i => i < w.classes.size

/-- The number of arguments is the number of type parameters, if that is how the class takes
arguments. The base classes of generic classes take any variables. -/
def Fills (w : World) (c : ClassRef) (arguments : List Value) : Prop :=
  w.subscriptionOf c = some .generic → isGenericRoot c = false →
    arguments.length = (w.parametersOf c).length

/-- The world can have made the value, whatever is inside of it. -/
def Allows (w : World) : Value → Prop
  | .cls c | .member c _ => w.Valid c
  | .applied _ c arguments => w.Valid c ∧ w.Fills c arguments
  | .native c _ => w.Valid c ∧ w.subscriptionOf c ≠ some .generic
  | .typeVar i => i < w.typeVars.size
  | .paramSpec i => i < w.paramSpecs.size
  | .newType i => i < w.newTypes.size
  | _ => True

/-- The world can have made the value and everything inside of it. -/
def Sound (w : World) (v : Value) : Prop := v.Every w.Allows

section Shapes

theorem sound_iff : w.Sound v ↔ w.Allows v ∧ ∀ x ∈ v.children, w.Sound x := Value.every_iff

/-- A value with nothing inside. -/
theorem sound_leaf (hc : v.children = []) : w.Sound v ↔ w.Allows v := by
  rw [sound_iff, hc]
  exact and_iff_left fun _ h => (List.not_mem_nil h).elim

/-- A value that is only a way to hold others. -/
theorem sound_holder (ha : w.Allows v) : w.Sound v ↔ ∀ x ∈ v.children, w.Sound x := by
  rw [sound_iff]
  exact and_iff_right ha

@[simp] theorem sound_none : w.Sound .none := (sound_leaf rfl).mpr trivial
@[simp] theorem sound_ellipsis : w.Sound .ellipsis := (sound_leaf rfl).mpr trivial
@[simp] theorem sound_bool {b : Bool} : w.Sound (.bool b) := (sound_leaf rfl).mpr trivial
@[simp] theorem sound_int {n : Int} : w.Sound (.int n) := (sound_leaf rfl).mpr trivial
@[simp] theorem sound_float {x : Binary64} : w.Sound (.float x) := (sound_leaf rfl).mpr trivial
@[simp] theorem sound_str {s : String} : w.Sound (.str s) := (sound_leaf rfl).mpr trivial
@[simp] theorem sound_bytes {bs : List Nat} : w.Sound (.bytes bs) := (sound_leaf rfl).mpr trivial
@[simp] theorem sound_form {n : String} : w.Sound (.form n) := (sound_leaf rfl).mpr trivial
@[simp] theorem sound_alias {n : String} : w.Sound (.alias n) := (sound_leaf rfl).mpr trivial
@[simp] theorem sound_forward {s m : String} {f : Bool} : w.Sound (.forward s m f) :=
  (sound_leaf rfl).mpr trivial
@[simp] theorem sound_function {m n : String} : w.Sound (.function m n) :=
  (sound_leaf rfl).mpr trivial
@[simp] theorem sound_module {m : String} : w.Sound (.module m) := (sound_leaf rfl).mpr trivial
@[simp] theorem sound_other {s : String} : w.Sound (.other s) := (sound_leaf rfl).mpr trivial

@[simp] theorem sound_cls {c : ClassRef} : w.Sound (.cls c) ↔ w.Valid c :=
  sound_leaf rfl

@[simp] theorem sound_member {c : ClassRef} {n : String} : w.Sound (.member c n) ↔ w.Valid c :=
  sound_leaf rfl

@[simp] theorem sound_typeVar {i : Nat} : w.Sound (.typeVar i) ↔ i < w.typeVars.size :=
  sound_leaf rfl

@[simp] theorem sound_paramSpec {i : Nat} : w.Sound (.paramSpec i) ↔ i < w.paramSpecs.size :=
  sound_leaf rfl

@[simp] theorem sound_newType {i : Nat} : w.Sound (.newType i) ↔ i < w.newTypes.size :=
  sound_leaf rfl

@[simp] theorem sound_list : w.Sound (.list xs) ↔ ∀ x ∈ xs, w.Sound x :=
  sound_holder trivial

@[simp] theorem sound_tuple : w.Sound (.tuple xs) ↔ ∀ x ∈ xs, w.Sound x :=
  sound_holder trivial

@[simp] theorem sound_set : w.Sound (.set xs) ↔ ∀ x ∈ xs, w.Sound x :=
  sound_holder trivial

@[simp] theorem sound_looseCallable : w.Sound (.looseCallable xs) ↔ ∀ x ∈ xs, w.Sound x :=
  sound_holder trivial

@[simp] theorem sound_formed {n : String} : w.Sound (.formed n xs) ↔ ∀ x ∈ xs, w.Sound x :=
  sound_holder trivial

@[simp] theorem sound_union {piped : Bool} : w.Sound (.union piped xs) ↔ ∀ x ∈ xs, w.Sound x :=
  sound_holder (v := .union piped xs) trivial

@[simp] theorem sound_dict {ks vs : List Value} :
    w.Sound (.dict ks vs) ↔ (∀ k ∈ ks, w.Sound k) ∧ ∀ v ∈ vs, w.Sound v :=
  (sound_holder (v := .dict ks vs) trivial).trans List.forall_mem_append

@[simp] theorem sound_applied {n : String} {c : ClassRef} :
    w.Sound (.applied n c xs) ↔ (w.Valid c ∧ w.Fills c xs) ∧ ∀ x ∈ xs, w.Sound x :=
  sound_iff

@[simp] theorem sound_native {c : ClassRef} : w.Sound (.native c xs) ↔
    (w.Valid c ∧ w.subscriptionOf c ≠ some .generic) ∧ ∀ x ∈ xs, w.Sound x :=
  sound_iff

@[simp] theorem sound_annotated :
    w.Sound (.annotated inner notes) ↔ w.Sound inner ∧ ∀ x ∈ notes, w.Sound x :=
  (sound_holder (v := .annotated inner notes) trivial).trans List.forall_mem_cons

@[simp] theorem sound_initVar : w.Sound (.initVar v) ↔ w.Sound v :=
  (sound_holder (v := .initVar v) trivial).trans List.forall_mem_singleton

@[simp] theorem valid_library {m n : String} : w.Valid (.library m n) := trivial

@[simp] theorem sound_noneType : w.Sound Value.noneType := by
  rw [Value.noneType, sound_cls]
  exact valid_library

@[simp] theorem sound_any : w.Sound Value.any := by
  rw [Value.any, sound_cls]
  exact valid_library

end Shapes

/-! The library does not depend on the world. -/

section Library

/-- Is the class one of the library? -/
def isLibrary : ClassRef → Bool
  | .library _ _ => true
  | .declared _ => false

theorem nextInOrder_mem {lists : List (List ClassRef)} {c : ClassRef}
    (h : nextInOrder lists = some c) : ∃ order ∈ lists, c ∈ order := by
  obtain ⟨order, horder, hc⟩ := List.mem_filterMap.mp (List.mem_of_find?_eq_some h)
  exact ⟨order, horder, List.mem_of_head? hc⟩

/-- A merged order has the classes of the orders that were merged. -/
theorem mem_of_mem_mergeOrders {fuel : Nat} {lists : List (List ClassRef)}
    {order : List ClassRef} {c : ClassRef} (h : mergeOrders fuel lists = some order)
    (hc : c ∈ order) : ∃ l ∈ lists, c ∈ l := by
  induction fuel generalizing lists order with
  | zero => cases h
  | succ fuel ih =>
    rw [mergeOrders] at h
    split at h
    · cases h
      exact (List.not_mem_nil hc).elim
    · split at h
      · cases h
      · next d hd =>
        obtain ⟨rest, hrest, rfl⟩ := Option.map_eq_some_iff.mp h
        rcases List.mem_cons.mp hc with rfl | hc
        · obtain ⟨l, hl, hmem⟩ := nextInOrder_mem hd
          exact ⟨l, (List.mem_filter.mp hl).1, hmem⟩
        · obtain ⟨l', hl', hmem⟩ := ih hrest hc
          obtain ⟨l, hl, rfl⟩ := List.mem_map.mp hl'
          refine ⟨l, (List.mem_filter.mp hl).1, ?_⟩
          split at hmem
          · exact List.mem_of_mem_tail hmem
          · exact hmem

theorem mem_of_mem_orderOf {bases order : List ClassRef} {orders : List (List ClassRef)}
    {c : ClassRef} (h : orderOf? bases orders = some order) (hc : c ∈ order) :
    c ∈ bases ∨ ∃ l ∈ orders, c ∈ l := by
  obtain ⟨l, hl, hmem⟩ := mem_of_mem_mergeOrders h hc
  rcases List.mem_append.mp hl with hl | hl
  · exact .inr ⟨l, hl, hmem⟩
  · exact .inl (List.mem_singleton.mp hl ▸ hmem)

theorem isLibrary_of_base {c b : ClassRef}
    (h : b ∈ ((libraryInfo? c).map LibraryClass.bases).getD []) : isLibrary b = true := by
  have hall : (libraryClasses.all fun l => l.bases.all isLibrary) = true := by decide
  cases c with
  | declared i => exact (List.not_mem_nil h).elim
  | library m n =>
    change b ∈ ((libraryClass? m n).map LibraryClass.bases).getD [] at h
    cases hl : libraryClass? m n with
    | none =>
      rw [hl] at h
      exact (List.not_mem_nil h).elim
    | some l =>
      rw [hl] at h
      have hbases := List.all_eq_true.mp hall l (List.mem_of_find?_eq_some hl)
      exact List.all_eq_true.mp hbases b h

theorem isLibrary_of_mem_libraryAncestors {c d : ClassRef} {depth : Nat}
    (hc : isLibrary c = true) (h : d ∈ libraryAncestors depth c) : isLibrary d = true := by
  induction depth generalizing c d with
  | zero =>
    cases List.mem_singleton.mp h
    exact hc
  | succ depth ih =>
    rcases List.mem_cons.mp h with rfl | h
    · exact hc
    · cases horder : orderOf? (((libraryInfo? c).map LibraryClass.bases).getD [])
          ((((libraryInfo? c).map LibraryClass.bases).getD []).map (libraryAncestors depth)) with
      | none =>
        rw [horder] at h
        exact (List.not_mem_nil h).elim
      | some order =>
        rw [horder] at h
        rcases mem_of_mem_orderOf horder h with hmem | ⟨l, hl, hmem⟩
        · exact isLibrary_of_base hmem
        · obtain ⟨b, hb, rfl⟩ := List.mem_map.mp hl
          exact ih (isLibrary_of_base hb) hmem

theorem findSome?_eq_of_forall {α β : Type} {f g : α → Option β} {xs : List α}
    (h : ∀ x ∈ xs, f x = g x) : xs.findSome? f = xs.findSome? g := by
  induction xs with
  | nil => rfl
  | cons x xs ih =>
    obtain ⟨hx, hxs⟩ := List.forall_mem_cons.mp h
    rw [List.findSome?_cons, List.findSome?_cons, hx, ih hxs]

/-- How a library class takes arguments is the same in every world. -/
theorem subscriptionOf_library (w w' : World) (m n : String) :
    w.subscriptionOf (.library m n) = w'.subscriptionOf (.library m n) := by
  refine findSome?_eq_of_forall fun d hd => ?_
  have hlibrary := isLibrary_of_mem_libraryAncestors (c := .library m n) rfl hd
  cases d with
  | library m' n' => rfl
  | declared i => exact Bool.noConfusion hlibrary

/-- The class behind a generic name keeps whatever it is given. -/
theorem aliasOrigin_cases (w : World) (name : String) :
    w.Valid (aliasOrigin name) ∧ w.subscriptionOf (aliasOrigin name) ≠ some .generic := by
  have hall : ∀ c ∈ ClassRef.root :: genericNames.map GenericName.origin,
      (isLibrary c && initial.subscriptionOf c != some .generic) = true := by
    decide +kernel
  have hmem : aliasOrigin name ∈ ClassRef.root :: genericNames.map GenericName.origin := by
    unfold aliasOrigin
    cases hg : genericName? name with
    | none => exact List.mem_cons_self ..
    | some g =>
      exact List.mem_cons_of_mem _ (List.mem_map_of_mem (List.mem_of_find?_eq_some hg))
  have horigin := hall _ hmem
  cases ho : aliasOrigin name with
  | declared i =>
    rw [ho] at horigin
    exact Bool.noConfusion horigin
  | library m n =>
    rw [ho] at horigin
    refine ⟨trivial, ?_⟩
    rw [subscriptionOf_library w initial]
    simpa [isLibrary] using horigin

end Library

/-! Types made of types. -/

section Types

theorem gives_asType {m : String} {f : Bool} (hv : w.Sound v) : Gives (asType m f v) w.Sound := by
  unfold asType
  split
  · exact gives_ok.mpr sound_noneType
  · split
    · exact gives_ok.mpr sound_forward
    · exact gives_error
  · exact gives_ok.mpr hv

theorem gives_checkType {use : TypeUse} (hv : w.Sound v) : Gives (w.checkType use v) w.Sound :=
  fun t ht => gives_asType hv t (checkType_eq_ok.mp ht).1

theorem sound_unionMembers (hxs : ∀ x ∈ xs, w.Sound x) :
    ∀ m ∈ xs.flatMap Value.unionMembers, w.Sound m := by
  intro m hm
  obtain ⟨x, hx, hm⟩ := List.mem_flatMap.mp hm
  have hsound := hxs x hx
  cases x with
  | union piped members => exact sound_union.mp hsound m hm
  | _ =>
    cases List.mem_singleton.mp hm
    exact hsound

theorem sound_unionOf (hxs : ∀ x ∈ xs, w.Sound x) : w.Sound (unionOf xs) := by
  have hmembers : ∀ m ∈ Value.distinctValues (xs.flatMap Value.unionMembers), w.Sound m :=
    fun m hm => sound_unionMembers hxs m (Value.mem_of_mem_distinctValues hm)
  unfold unionOf
  split
  · next v hv => exact hmembers v (by rw [hv]; exact List.mem_singleton_self v)
  · exact sound_union.mpr hmembers

theorem gives_checkedUnion (hxs : ∀ x ∈ xs, w.Sound x) : Gives (w.checkedUnion xs) w.Sound := by
  rw [checkedUnion, gives_bind]
  refine (gives_mapM fun x hx => gives_checkType (hxs x hx)).mono fun ts hts => ?_
  exact gives_ok.mpr (sound_unionOf hts.2)

theorem sound_pipedUnion (hxs : ∀ x ∈ xs, w.Sound x) : w.Sound (pipedUnion xs) := by
  unfold pipedUnion
  extract_lets members
  have hmembers : ∀ m ∈ Value.distinctValues members, w.Sound m := by
    intro m hm
    obtain ⟨x, hx, rfl⟩ := List.mem_map.mp (Value.mem_of_mem_distinctValues hm)
    split
    · exact sound_noneType
    · exact sound_unionMembers hxs x hx
  split
  · next v hv =>
    have hmem := List.mem_singleton_self v
    rw [← hv] at hmem
    exact hmembers v hmem
  · exact sound_union.mpr hmembers

theorem gives_pipe (hl : w.Sound l) (hr : w.Sound r) : Gives (w.pipe l r) w.Sound := by
  have hboth : ∀ x ∈ [l, r], w.Sound x := by
    simp [hl, hr]
  unfold pipe
  split
  · split
    · exact gives_ok.mpr sound_int
    · exact gives_error
  · exact gives_ok.mpr sound_bool
  · rw [gives_ok, sound_set]
    intro x hx
    rcases List.mem_append.mp (Value.mem_of_mem_distinctValues hx) with hx | hx
    · exact sound_set.mp hl x hx
    · exact sound_set.mp hr x hx
  · refine gives_ite (fun _ => gives_ok.mpr (sound_pipedUnion hboth)) fun _ => ?_
    exact gives_ite (fun _ => gives_checkedUnion hboth) fun _ => gives_error

theorem gives_pipeAll (hxs : ∀ x ∈ xs, w.Sound x) : Gives (w.pipeAll xs) w.Sound := by
  cases xs with
  | nil => exact gives_ok.mpr sound_none
  | cons x xs =>
    obtain ⟨hx, hxs⟩ := List.forall_mem_cons.mp hxs
    exact gives_foldlM (fun y hy z hz => gives_pipe hz (hxs y hy)) hx

theorem gives_prepare {target : String} {params : List Value} (hxs : ∀ x ∈ xs, w.Sound x) :
    Gives (prepare target params xs) fun ys => ∀ y ∈ ys, w.Sound y := by
  refine gives_foldlM (fun p _ ys hys => ?_) hxs
  unfold prepareFor
  split
  · split
    · exact gives_ok.mpr hys
    · next i _ =>
      split
      · exact gives_error
      · next a ha =>
        split
        · rw [gives_ok]
          simpa using hys
        · cases a with
          | list items =>
            rw [gives_ok]
            intro y hy
            rcases List.mem_or_eq_of_mem_set hy with hy | rfl
            · exact hys y hy
            · exact sound_tuple.mpr (sound_list.mp (hys _ (List.mem_of_getElem? ha)))
          | _ => exact gives_ok.mpr hys
  · exact gives_ok.mpr hys

theorem gives_argumentFor {a : Value} (ha : w.Sound a) : Gives (w.argumentFor v a) w.Sound := by
  have hitems : ∀ items : List Value, (∀ x ∈ items, w.Sound x) →
      Gives (do return .tuple (← items.mapM (w.checkType { message := "Expected a type." })))
        w.Sound := by
    intro items hitems
    rw [gives_bind]
    refine (gives_mapM fun x hx => gives_checkType (hitems x hx)).mono fun ts hts => ?_
    exact gives_ok.mpr (sound_tuple.mpr hts.2)
  unfold argumentFor
  split
  · split
    · exact hitems _ (sound_list.mp ha)
    · exact hitems _ (sound_tuple.mp ha)
    · split
      · exact gives_ok.mpr ha
      · exact gives_error
  · exact gives_checkType ha

theorem gives_annotate (hi : w.Sound inner) (hn : ∀ x ∈ notes, w.Sound x) :
    Gives (w.annotate inner notes) w.Sound := by
  unfold annotate
  split
  · obtain ⟨hv, hmore⟩ := sound_annotated.mp hi
    rw [gives_ok, sound_annotated]
    exact ⟨hv, List.forall_mem_append.mpr ⟨hmore, hn⟩⟩
  · split
    · exact gives_ok.mpr (sound_annotated.mpr ⟨hi, hn⟩)
    · exact gives_error

theorem subscriptionOf_callableRoot (w : World) :
    w.subscriptionOf callableRoot = some .callable := by
  rw [callableRoot, subscriptionOf_library w initial]
  decide +kernel

/-- Only callables have their arguments flattened, and those take them in their own way. -/
theorem fills_flattened {c : ClassRef} {ys : List Value} (h : w.Fills c xs)
    (hlength : ys.length = xs.length) : w.Fills c (flattened c ys) := by
  intro hs hr
  unfold flattened
  split
  · next hc =>
    rw [eq_of_beq hc, subscriptionOf_callableRoot] at hs
    cases hs
  · rw [hlength, h hs hr]

theorem sound_flattened {c : ClassRef} (hxs : ∀ x ∈ xs, w.Sound x) :
    ∀ x ∈ flattened c xs, w.Sound x := by
  unfold flattened
  split
  · intro x hx
    obtain ⟨y, hy, hx⟩ := List.mem_flatMap.mp hx
    have hsound := hxs y hy
    cases y with
    | tuple items => exact sound_tuple.mp hsound x hx
    | _ =>
      cases List.mem_singleton.mp hx
      exact hsound
  · exact hxs

theorem gives_substituteAll {chosen : List (Value × Value)}
    (h : ∀ x ∈ xs, Gives (w.substitute chosen x) w.Sound) :
    Gives (substitute.substituteAll w chosen xs) fun ys =>
      ys.length = xs.length ∧ ∀ y ∈ ys, w.Sound y := by
  induction xs with
  | nil => exact gives_ok.mpr ⟨rfl, fun _ hy => (List.not_mem_nil hy).elim⟩
  | cons x xs ih =>
    obtain ⟨hx, hxs⟩ := List.forall_mem_cons.mp h
    rw [substitute.substituteAll, gives_bind]
    refine hx.mono fun y hy => ?_
    rw [gives_bind]
    refine (ih hxs).mono fun ys hys => ?_
    exact gives_ok.mpr ⟨congrArg Nat.succ hys.1, List.forall_mem_cons.mpr ⟨hy, hys.2⟩⟩

theorem gives_substitute {chosen : List (Value × Value)} (hchosen : ∀ e ∈ chosen, w.Sound e.2)
    (hv : w.Sound v) : Gives (w.substitute chosen v) w.Sound := by
  induction hv with
  | @intro v hv hchildren ih =>
    have hsound : w.Sound v := .intro hv hchildren
    have hparts := gives_substituteAll ih
    cases v with
    | typeVar i =>
      rw [substitute]
      split
      · next e he => exact gives_argumentFor (hchosen e (List.mem_of_find?_eq_some he))
      · exact gives_ok.mpr hsound
    | paramSpec i =>
      rw [substitute]
      split
      · next e he => exact gives_argumentFor (hchosen e (List.mem_of_find?_eq_some he))
      · exact gives_ok.mpr hsound
    | tuple xs =>
      rw [substitute, gives_bind]
      exact hparts.mono fun ys hys => gives_ok.mpr (sound_tuple.mpr hys.2)
    | applied n c xs =>
      rw [substitute, gives_bind]
      refine hparts.mono fun ys hys => gives_ok.mpr (sound_applied.mpr ?_)
      exact ⟨⟨hv.1, fills_flattened hv.2 hys.1⟩, sound_flattened hys.2⟩
    | native c xs =>
      rw [substitute, gives_bind]
      exact hparts.mono fun ys hys =>
        gives_ok.mpr (sound_native.mpr ⟨hv, sound_flattened hys.2⟩)
    | looseCallable xs =>
      rw [substitute, gives_bind]
      exact hparts.mono fun ys hys => gives_ok.mpr (sound_looseCallable.mpr (sound_flattened hys.2))
    | formed n xs =>
      by_cases hn : n = "Literal"
      · subst hn
        rw [substitute]
        exact gives_ok.mpr hsound
      · rw [substitute, gives_bind]
        · exact hparts.mono fun ys hys => gives_ok.mpr (sound_formed.mpr hys.2)
        · exact hn
    | union piped xs =>
      cases piped with
      | false =>
        rw [substitute, gives_bind]
        exact hparts.mono fun ys hys => gives_checkedUnion hys.2
      | true =>
        rw [substitute, gives_bind]
        exact hparts.mono fun ys hys => gives_pipeAll hys.2
    | annotated inner notes =>
      obtain ⟨hi, hn⟩ := sound_annotated.mp hsound
      rw [substitute, gives_bind]
      exact (ih inner (List.mem_cons_self ..)).mono fun i hi => gives_annotate hi hn
    | _ => exact gives_ok.mpr hsound

theorem sound_itemsOf (hi : w.Sound index) : ∀ x ∈ itemsOf index, w.Sound x := by
  unfold itemsOf
  split
  · exact sound_tuple.mp hi
  · exact List.forall_mem_singleton.mpr hi

theorem gives_applyVariables (hv : w.Sound v) (hxs : ∀ x ∈ xs, w.Sound x) :
    Gives (w.applyVariables v xs) w.Sound := by
  unfold applyVariables
  dsimp only
  split
  · exact gives_error
  rw [gives_bind]
  refine Gives.mono (gives_mapM (Q := w.Sound) fun x hx => ?_) fun ys hys => ?_
  · split
    · exact gives_ok.mpr (hxs x hx)
    · exact gives_ok.mpr (hxs x hx)
    · exact gives_ok.mpr (hxs x hx)
    · exact gives_asType (hxs x hx)
  rw [gives_bind]
  refine (gives_prepare hys.2).mono fun zs hzs => ?_
  split
  · exact gives_error
  · exact gives_substitute (fun e he => hzs e.2 (List.of_mem_zip he).2) hv

theorem gives_checkCount {target : String} {actual expected : Nat} :
    Gives (checkCount target actual expected) fun _ => actual = expected := by
  unfold checkCount
  split
  · exact gives_error
  split
  · exact gives_error
  · next h =>
    rw [gives_ok]
    simpa using h

/-- A class gets an argument for each of its type parameters. -/
theorem gives_applyGeneric {c : ClassRef} (hc : w.Valid c) (hi : w.Sound index) :
    Gives (w.applyGeneric c index) w.Sound := by
  unfold applyGeneric
  rw [gives_bind]
  refine (gives_mapM fun x hx => gives_asType (sound_itemsOf hi x hx)).mono fun ts hts => ?_
  cases hr : isGenericRoot c with
  | true =>
    rw [if_pos rfl]
    dsimp only
    split
    · exact gives_error
    split
    · exact gives_error
    split
    · exact gives_error
    · rw [gives_ok, sound_applied]
      exact ⟨⟨hc, fun _ h => Bool.noConfusion (hr.symm.trans h)⟩, hts.2⟩
  | false =>
    rw [if_neg Bool.false_ne_true]
    dsimp only
    rw [gives_bind]
    refine (gives_prepare hts.2).mono fun ys hys => ?_
    rw [gives_bind]
    refine gives_checkCount.mono fun _ hcount => ?_
    rw [gives_pure, sound_applied]
    exact ⟨⟨hc, fun _ _ => hcount⟩, hys⟩

theorem gives_applyNativeCallable (hi : w.Sound index) :
    Gives (w.applyNativeCallable index) w.Sound := by
  have hroot : w.Valid callableRoot ∧ w.subscriptionOf callableRoot ≠ some .generic := by
    refine ⟨valid_library, ?_⟩
    rw [subscriptionOf_callableRoot]
    decide
  unfold applyNativeCallable
  split
  · rw [gives_ok, sound_native]
    simp only [sound_tuple, List.forall_mem_cons] at hi
    exact ⟨hroot, List.forall_mem_append.mpr ⟨hi.1, List.forall_mem_singleton.mpr hi.2.1⟩⟩
  · rw [gives_ok, sound_native]
    simp only [sound_tuple, sound_list, List.forall_mem_cons] at hi
    exact ⟨hroot, List.forall_mem_append.mpr ⟨hi.1, List.forall_mem_singleton.mpr hi.2.1⟩⟩
  · split
    · exact gives_ok.mpr (sound_native.mpr ⟨hroot, sound_tuple.mp hi⟩)
    · exact gives_error
  · exact gives_error

theorem gives_applyAnnotated (hxs : ∀ x ∈ xs, w.Sound x) :
    Gives (w.applyAnnotated xs) w.Sound := by
  unfold applyAnnotated
  split
  · obtain ⟨hi, hn⟩ := List.forall_mem_cons.mp hxs
    rw [gives_bind]
    exact (gives_checkType hi).mono fun t ht => gives_annotate ht hn
  · exact gives_error

theorem gives_applyClass {c : ClassRef} (hc : w.Valid c) (hi : w.Sound index) :
    Gives (w.applyClass c index) w.Sound := by
  unfold applyClass
  split
  · dsimp only
    split
    · exact gives_ok.mpr (sound_member.mpr hc)
    · exact gives_error
  split
  · exact gives_error
  split
  · next hs =>
    rw [gives_ok, sound_native, hs]
    exact ⟨⟨hc, by decide⟩, sound_itemsOf hi⟩
  · exact gives_applyGeneric hc hi
  · exact gives_applyAnnotated (sound_itemsOf hi)
  · exact gives_ok.mpr (sound_initVar.mpr hi)
  · exact gives_applyNativeCallable hi
  · exact gives_error

theorem sound_flatLiterals (hxs : ∀ x ∈ xs, w.Sound x) : ∀ x ∈ flatLiterals xs, w.Sound x := by
  intro x hx
  obtain ⟨y, hy, hx⟩ := List.mem_flatMap.mp hx
  have hsound := hxs y hy
  split at hx
  · exact sound_formed.mp hsound x hx
  · cases List.mem_singleton.mp hx
    exact hsound

theorem gives_applyConcatenate (hxs : ∀ x ∈ xs, w.Sound x) :
    Gives (w.applyConcatenate xs) w.Sound := by
  unfold applyConcatenate
  split
  · exact gives_error
  · next last hlast =>
    refine gives_ite (fun _ => ?_) fun _ => gives_error
    rw [gives_bind]
    refine (gives_mapM fun x hx =>
      gives_checkType (hxs x (List.dropLast_subset _ hx))).mono fun ts hts => ?_
    rw [gives_pure, sound_formed]
    exact List.forall_mem_append.mpr
      ⟨hts.2, List.forall_mem_singleton.mpr (hxs last (List.mem_of_getLast? hlast))⟩

theorem gives_applyForm {name : String} (hi : w.Sound index) :
    Gives (w.applyForm name index) w.Sound := by
  have hsingle : ∀ (n : String) (use : TypeUse),
      Gives (do return .formed n [← w.checkType use index]) w.Sound := by
    intro n use
    rw [gives_bind]
    exact (gives_checkType hi).mono fun t ht =>
      gives_ok.mpr (sound_formed.mpr (List.forall_mem_singleton.mpr ht))
  unfold applyForm
  dsimp only
  split
  · split
    · exact gives_error
    · exact gives_checkedUnion (sound_itemsOf hi)
  · rw [gives_bind]
    refine (gives_checkType hi).mono fun t ht => gives_checkedUnion ?_
    exact List.forall_mem_cons.mpr ⟨ht, List.forall_mem_singleton.mpr sound_noneType⟩
  · exact hsingle _ _
  · exact hsingle _ _
  · exact hsingle _ _
  · exact hsingle _ _
  · exact hsingle _ _
  · exact hsingle _ _
  · rw [gives_ok, sound_formed]
    exact fun x hx => sound_flatLiterals (sound_itemsOf hi) x (Value.mem_of_mem_distinctLiterals hx)
  · exact gives_applyConcatenate (sound_itemsOf hi)
  · exact gives_error

theorem gives_applyAlias {name : String} (hi : w.Sound index) :
    Gives (w.applyAlias name index) w.Sound := by
  have hmade : ∀ {n : String} {ts : List Value}, (∀ t ∈ ts, w.Sound t) →
      w.Sound (.applied n (aliasOrigin name) ts) := by
    intro n ts hts
    obtain ⟨hvalid, hs⟩ := aliasOrigin_cases w name
    exact sound_applied.mpr ⟨⟨hvalid, fun h => (hs h).elim⟩, hts⟩
  have hone : ∀ {x : Value}, w.Sound x → ∀ y ∈ [x], w.Sound y :=
    fun hx => List.forall_mem_singleton.mpr hx
  unfold applyAlias
  dsimp only
  split
  · split
    · next parameters result =>
      simp only [sound_tuple, List.forall_mem_cons] at hi
      obtain ⟨hp, hr, -⟩ := hi
      rw [gives_bind]
      refine (gives_checkType hr).mono fun t ht => ?_
      split
      · exact gives_ok.mpr (hmade (List.forall_mem_cons.mpr ⟨sound_ellipsis, hone ht⟩))
      · rw [gives_bind]
        refine (gives_mapM fun x hx => gives_asType (sound_list.mp hp x hx)).mono fun ts hts => ?_
        exact gives_ok.mpr (hmade (List.forall_mem_append.mpr ⟨hts.2, hone ht⟩))
      · rw [gives_bind]
        refine (gives_mapM fun x hx => gives_asType (sound_tuple.mp hp x hx)).mono fun ts hts => ?_
        exact gives_ok.mpr (hmade (List.forall_mem_append.mpr ⟨hts.2, hone ht⟩))
      · rw [gives_bind]
        refine (gives_asType hp).mono fun p hp => ?_
        exact gives_ok.mpr (hmade (List.forall_mem_cons.mpr ⟨hp, hone ht⟩))
    · exact gives_error
  · refine gives_ite (fun _ => ?_) fun _ => ?_
    · rw [gives_bind]
      refine (gives_mapM fun x hx => gives_checkType
        (sound_itemsOf hi x (List.dropLast_subset _ hx))).mono fun ts hts => ?_
      exact gives_ok.mpr (hmade (List.forall_mem_append.mpr ⟨hts.2, hone sound_ellipsis⟩))
    · rw [gives_bind]
      refine (gives_mapM fun x hx => gives_checkType (sound_itemsOf hi x hx)).mono fun ts hts => ?_
      exact gives_ok.mpr (hmade hts.2)
  · rw [gives_bind]
    refine (gives_mapM fun x hx => gives_checkType (sound_itemsOf hi x hx)).mono fun ts hts => ?_
    rw [gives_bind]
    exact gives_checkCount.mono fun _ _ => gives_ok.mpr (hmade hts.2)

theorem gives_itemAt {kind : String} (hxs : ∀ x ∈ xs, w.Sound x) :
    Gives (itemAt kind xs index) w.Sound := by
  unfold itemAt
  split
  · refine gives_ite (fun _ => gives_error) fun _ => ?_
    split
    · next x hx => exact gives_ok.mpr (hxs x (List.mem_of_getElem? hx))
    · exact gives_error
  · exact gives_error

/-- Giving arguments to a value makes a value that the world can have made. -/
theorem gives_subscript {target : Value} (ht : w.Sound target) (hi : w.Sound index) :
    Gives (w.subscript target index) w.Sound := by
  have hvariables := gives_applyVariables ht (sound_itemsOf hi)
  unfold subscript
  split
  · exact gives_applyClass (sound_cls.mp ht) hi
  · exact gives_applyForm hi
  · exact gives_applyAlias hi
  · split
    · exact gives_error
    · exact hvariables
  · exact hvariables
  · exact hvariables
  · exact hvariables
  · exact hvariables
  · exact hvariables
  · exact hvariables
  · exact gives_itemAt (sound_list.mp ht)
  · exact gives_itemAt (sound_tuple.mp ht)
  · split
    · next e he =>
      exact gives_ok.mpr ((sound_dict.mp ht).2 e.2 (List.of_mem_zip (List.mem_of_find?_eq_some he)).2)
    · exact gives_error
  · exact gives_error

end Types

end World

end TypeProjection.Annotation
