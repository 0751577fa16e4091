import Mathlib
import TypeProjection.Proofs.EqualValues

/-!
# Descriptors as keys

The equality of descriptors is an equivalence: it is the equality of values, widened by identity.
Their hash respects it wherever a value has a hash of its own. The heads of equal values have one
hash, the parts by induction; where parts are taken as a set, equal sets have as many different
items, and equal ones pair off. A value without a hash gives every descriptor of it a hash by
identity, so descriptors of equal objects that are alive together are then told apart: as keys they
are different, although they are equal.
-/

namespace TypeProjection.Annotation

namespace Value

/-! ### The first of each -/

section Firsts

variable {α β : Type} {E : α → α → Bool}

theorem mem_of_mem_firstsBy {x : α} {xs : List α} (h : x ∈ firstsBy E xs) : x ∈ xs := by
  induction xs with
  | nil => exact h
  | cons y ys ih =>
    rcases List.mem_cons.mp h with rfl | h
    · exact List.mem_cons_self ..
    · exact List.mem_cons_of_mem _ (ih (List.mem_filter.mp h).1)

/-- No two items of the result are equal. -/
theorem pairwise_firstsBy (xs : List α) : (firstsBy E xs).Pairwise fun a b => ¬ E a b = true := by
  induction xs with
  | nil => exact .nil
  | cons x xs ih =>
    refine .cons (fun y hy => ?_) (ih.sublist List.filter_sublist)
    simpa using (List.mem_filter.mp hy).2

theorem exists_mem_firstsBy {x : α} {xs : List α}
    (htrans : ∀ a b c, E a b = true → E b c = true → E a c = true) (hx : x ∈ xs)
    (hself : E x x = true) : ∃ y ∈ firstsBy E xs, E y x = true := by
  induction xs with
  | nil => cases hx
  | cons z zs ih =>
    rcases List.mem_cons.mp hx with rfl | hx
    · exact ⟨x, List.mem_cons_self .., hself⟩
    · obtain ⟨y, hy, hyx⟩ := ih hx
      by_cases hzy : E z y = true
      · exact ⟨z, List.mem_cons_self .., htrans z y x hzy hyx⟩
      · have hkept : y ∈ (firstsBy E zs).filter fun y => !E z y :=
          List.mem_filter.mpr ⟨hy, by simpa using hzy⟩
        exact ⟨y, List.mem_cons_of_mem _ hkept, hyx⟩

variable (hsymm : ∀ a b, E a b = true → E b a = true)
  (htrans : ∀ a b c, E a b = true → E b c = true → E a c = true)
include hsymm htrans

/-- Equal sets pair off: if no two items of either list are equal, and each has an equal item on
the other side, then the lists have the same images under a map that respects the equality. -/
theorem perm_map_of_mutual {f : α → β} {xs ys : List α}
    (hxs : xs.Pairwise fun a b => ¬ E a b = true) (hys : ys.Pairwise fun a b => ¬ E a b = true)
    (h : Mutual (fun a b => E a b = true) xs ys)
    (hf : ∀ a ∈ xs, ∀ b ∈ ys, E a b = true → f a = f b) : (xs.map f).Perm (ys.map f) := by
  induction xs generalizing ys with
  | nil =>
    cases ys with
    | nil => exact .refl _
    | cons y ys =>
      obtain ⟨x, hx, _⟩ := h.right y (List.mem_cons_self ..)
      cases hx
  | cons x xs ih =>
    obtain ⟨y, hy, hxy⟩ := h.left x (List.mem_cons_self ..)
    obtain ⟨before, after, rfl⟩ := List.append_of_mem hy
    have hperm : (before ++ y :: after).Perm (y :: (before ++ after)) := List.perm_middle
    have hrest : (y :: (before ++ after)).Pairwise fun a b => ¬ E a b = true :=
      (hperm.pairwise_iff fun {a b} hab hba => hab (hsymm b a hba)).mp hys
    obtain ⟨hxfirst, hxs⟩ := List.pairwise_cons.mp hxs
    obtain ⟨hyfirst, hrest⟩ := List.pairwise_cons.mp hrest
    have hmem : ∀ {b}, b ∈ before ++ after → b ∈ before ++ y :: after := fun hb =>
      hperm.mem_iff.mpr (List.mem_cons_of_mem _ hb)
    have hothers : Mutual (fun a b => E a b = true) xs (before ++ after) := by
      constructor
      · intro a ha
        obtain ⟨b, hb, hab⟩ := h.left a (List.mem_cons_of_mem _ ha)
        rcases List.mem_cons.mp (hperm.mem_iff.mp hb) with rfl | hb
        · exact absurd (htrans x b a hxy (hsymm a b hab)) (hxfirst a ha)
        · exact ⟨b, hb, hab⟩
      · intro b hb
        obtain ⟨a, ha, hab⟩ := h.right b (hmem hb)
        rcases List.mem_cons.mp ha with rfl | ha
        · exact absurd (htrans y a b (hsymm a y hxy) hab) (hyfirst b hb)
        · exact ⟨a, ha, hab⟩
    have hperm' : (xs.map f).Perm ((before ++ after).map f) :=
      ih hxs hrest hothers fun a ha b hb => hf a (List.mem_cons_of_mem _ ha) b (hmem hb)
    rw [List.map_cons, hf x (List.mem_cons_self ..) y hy hxy]
    exact (hperm'.cons (f y)).trans (hperm.map f).symm

theorem mutual_firstsBy {xs ys : List α} (h : Mutual (fun a b => E a b = true) xs ys) :
    Mutual (fun a b => E a b = true) (firstsBy E xs) (firstsBy E ys) where
  left x hx := by
    obtain ⟨y, hy, hxy⟩ := h.left x (mem_of_mem_firstsBy hx)
    obtain ⟨z, hz, hzy⟩ := exists_mem_firstsBy htrans hy (htrans y x y (hsymm x y hxy) hxy)
    exact ⟨z, hz, htrans x y z hxy (hsymm z y hzy)⟩
  right y hy := by
    obtain ⟨x, hx, hxy⟩ := h.right y (mem_of_mem_firstsBy hy)
    obtain ⟨z, hz, hzx⟩ := exists_mem_firstsBy htrans hx (htrans x y x hxy (hsymm x y hxy))
    exact ⟨z, hz, htrans z x y hzx hxy⟩

/-- Equal sets have the same images, each counted once. -/
theorem perm_firstsBy {f : α → β} {xs ys : List α}
    (h : Mutual (fun a b => E a b = true) xs ys)
    (hf : ∀ a ∈ xs, ∀ b ∈ ys, E a b = true → f a = f b) :
    ((firstsBy E xs).map f).Perm ((firstsBy E ys).map f) :=
  perm_map_of_mutual hsymm htrans (pairwise_firstsBy xs) (pairwise_firstsBy ys)
    (mutual_firstsBy hsymm htrans h) fun a ha b hb =>
      hf a (mem_of_mem_firstsBy ha) b (mem_of_mem_firstsBy hb)

end Firsts

/-! ### The hashes of some values -/

section Hashes

variable {h : Hashing} {xs ys : List Value} {hs ks : List Int}

theorem hashes?_eq_some :
    hash?.hashes? h xs = some hs ↔ List.Forall₂ (fun x k => x.hash? h = some k) xs hs := by
  induction xs generalizing hs with
  | nil => simp [hash?.hashes?, eq_comm]
  | cons x xs ih =>
    rw [hash?.hashes?]
    simp only [List.forall₂_cons_left_iff]
    cases hx : x.hash? h with
    | none => simp
    | some k =>
      simp only [Option.map_eq_some_iff, ih, Option.some.injEq]
      constructor
      · rintro ⟨ks, hks, rfl⟩
        exact ⟨k, ks, rfl, hks, rfl⟩
      · rintro ⟨_, ks, rfl, hks, rfl⟩
        exact ⟨ks, hks, rfl⟩

theorem hashes?_isSome :
    (hash?.hashes? h xs).isSome = true ↔ ∀ x ∈ xs, (x.hash? h).isSome = true := by
  induction xs with
  | nil => simp [hash?.hashes?]
  | cons x xs ih =>
    rw [hash?.hashes?, List.forall_mem_cons, ← ih]
    cases hx : x.hash? h with
    | none => simp
    | some k => simp

/-- Lists of values with the same hashes one by one have the same hashes. -/
theorem hashes?_congr {R : Value → Value → Prop} (hxs : List.Forall₂ R xs ys)
    (hR : ∀ x ∈ xs, ∀ y ∈ ys, R x y → x.hash? h = y.hash? h) :
    hash?.hashes? h xs = hash?.hashes? h ys := by
  induction hxs with
  | nil => rfl
  | @cons x y xs ys hxy _ ih =>
    have htail : hash?.hashes? h xs = hash?.hashes? h ys :=
      ih fun a ha b hb => hR a (List.mem_cons_of_mem _ ha) b (List.mem_cons_of_mem _ hb)
    rw [hash?.hashes?, hash?.hashes?, hR x (List.mem_cons_self ..) y (List.mem_cons_self ..) hxy,
      htail]

/-- A value beside its hash. -/
theorem mem_zip_hashes? (hhs : hash?.hashes? h xs = some hs) {p : Value × Int}
    (hp : p ∈ xs.zip hs) : p.1 ∈ xs ∧ p.1.hash? h = some p.2 :=
  ⟨(List.of_mem_zip hp).1, (List.forall₂_iff_zip.mp (hashes?_eq_some.mp hhs)).2 hp⟩

theorem exists_mem_zip_hashes? (hhs : hash?.hashes? h xs = some hs) {x : Value} (hx : x ∈ xs) :
    ∃ k, (x, k) ∈ xs.zip hs := by
  have hlength := (hashes?_eq_some.mp hhs).length_eq
  obtain ⟨i, hi, rfl⟩ := List.mem_iff_getElem.mp hx
  have hzip : i < (xs.zip hs).length := by rw [List.length_zip]; omega
  exact ⟨hs[i], List.mem_iff_getElem.mpr ⟨i, hzip, List.getElem_zip⟩⟩

/-- Sets of values that pair off by an equality pair off beside their hashes. -/
theorem mutual_zip_hashes? {E : Value → Value → Prop} (h' : Mutual E xs ys)
    (hhs : hash?.hashes? h xs = some hs) (hks : hash?.hashes? h ys = some ks) :
    Mutual (fun p q => E p.1 q.1) (xs.zip hs) (ys.zip ks) where
  left p hp := by
    obtain ⟨y, hy, hpy⟩ := h'.left p.1 (mem_zip_hashes? hhs hp).1
    obtain ⟨k, hk⟩ := exists_mem_zip_hashes? hks hy
    exact ⟨(y, k), hk, hpy⟩
  right q hq := by
    obtain ⟨x, hx, hxq⟩ := h'.right q.1 (mem_zip_hashes? hks hq).1
    obtain ⟨k, hk⟩ := exists_mem_zip_hashes? hhs hx
    exact ⟨(x, k), hk, hxq⟩

/-- A hash of a set of values: if the sets pair off by an equality that the hashes of the items
respect, then both have a hash or neither has, and a hash that ignores the order is the same. -/
theorem hashes?_map_eq_of_mutual {E : Value → Value → Bool} {f : Value × Int → Int}
    (hsymm : ∀ a b, E a b = true → E b a = true)
    (htrans : ∀ a b c, E a b = true → E b c = true → E a c = true)
    (h' : Mutual (fun a b => E a b = true) xs ys)
    (hR : ∀ x ∈ xs, ∀ y ∈ ys, E x y = true → x.hash? h = y.hash? h)
    (hf : ∀ a b k, E a b = true → f (a, k) = f (b, k)) :
    ((hash?.hashes? h xs).map fun hs =>
        h.unordered ((firstsBy (fun a b => E a.1 b.1) (xs.zip hs)).map f)) =
      (hash?.hashes? h ys).map fun hs =>
        h.unordered ((firstsBy (fun a b => E a.1 b.1) (ys.zip hs)).map f) := by
  have hsome : (hash?.hashes? h xs).isSome = true ↔ (hash?.hashes? h ys).isSome = true := by
    rw [hashes?_isSome, hashes?_isSome]
    constructor
    · intro hxs y hy
      obtain ⟨x, hx, hxy⟩ := h'.right y hy
      rw [← hR x hx y hy hxy]
      exact hxs x hx
    · intro hys x hx
      obtain ⟨y, hy, hxy⟩ := h'.left x hx
      rw [hR x hx y hy hxy]
      exact hys y hy
  cases hxs : hash?.hashes? h xs with
  | none =>
    cases hys : hash?.hashes? h ys with
    | none => rfl
    | some ks => simp [hxs, hys] at hsome
  | some hs =>
    cases hys : hash?.hashes? h ys with
    | none => simp [hxs, hys] at hsome
    | some ks =>
      refine congrArg some (h.unordered_congr _ _ ?_)
      refine perm_firstsBy (fun a b => hsymm a.1 b.1) (fun a b c => htrans a.1 b.1 c.1)
        (mutual_zip_hashes? h' hxs hys) ?_
      rintro ⟨x, k⟩ hp ⟨y, l⟩ hq hxy
      obtain ⟨hx, hk⟩ := mem_zip_hashes? hxs hp
      obtain ⟨hy, hl⟩ := mem_zip_hashes? hys hq
      have hkl : k = l := Option.some.inj (hk.symm.trans ((hR x hx y hy hxy).trans hl))
      rw [hkl]
      exact hf x y l hxy

end Hashes

/-! ### Hashes of equal values -/

/-- The class at the head of a value. -/
def headClass? : Value → Option ClassRef
  | .cls c => some c
  | .applied _ c _ => some c
  | .native c _ => some c
  | .looseCallable _ => some callableRoot
  | _ => Option.none

/-- A value that a class is the head of, or that holds one. -/
inductive HoldsClass (c : ClassRef) : Value → Prop
  | head {x : Value} (hx : x.headClass? = some c) : HoldsClass c x
  | part {x y : Value} (hy : y ∈ x.children) (h : HoldsClass c y) : HoldsClass c x

end Value

open Value

/-- The equal classes of two values have one hash. Classes are equal if they are one, apart from the
two base classes of protocols, which have hashes of their own. -/
def Hashing.Respects (h : Hashing) (x y : Value) : Prop :=
  ∀ c d, HoldsClass c x → HoldsClass d y → c.equals d = true → h.cls c = h.cls d

namespace Value

variable {h : Hashing} {x y : Value}

theorem hash?_of_number? {m : Int ⊕ Binary64} (hx : x.number? = some m) :
    x.hash? h = some (h.number m) := by
  cases x <;> first
    | (cases hx
       rfl)
    | cases hx

theorem hash?_of_native? {c : ClassRef} {xs : List Value} (hx : x.native? = some (c, xs)) :
    x.hash? h = (hash?.hashes? h xs).map fun hs => h.native (h.cls c) (h.ordered hs) := by
  rcases native?_eq_some.mp hx with rfl | ⟨rfl, rfl⟩
  · rfl
  · rfl

theorem headClass?_of_native? {c : ClassRef} {xs : List Value} (hx : x.native? = some (c, xs)) :
    x.headClass? = some c := by
  rcases native?_eq_some.mp hx with rfl | ⟨rfl, rfl⟩
  · rfl
  · rfl

/-- One layer: alike values have one hash if their parts do. -/
theorem Alike.hash?_eq (hxy : Alike (fun a b => a.same b = true) x y) (hclasses : h.Respects x y)
    (hparts : ∀ a ∈ x.children, ∀ b ∈ y.children, a.same b = true → a.hash? h = b.hash? h) :
    x.hash? h = y.hash? h := by
  cases hxy with
  | atom hx => rfl
  | number hx hy hmn =>
    rw [hash?_of_number? hx, hash?_of_number? hy, h.number_congr _ _ hmn]
  | list | set | dict => rfl
  | tuple hxs =>
    rw [hash?, hash?, hashes?_congr hxs hparts]
  | cls hc =>
    rw [hash?, hash?, hclasses _ _ (.head rfl) (.head rfl) hc]
  | applied hc hxs =>
    rw [hash?, hash?, hashes?_congr hxs hparts, hclasses _ _ (.head rfl) (.head rfl) hc]
  | native hx hy hc hxs =>
    rw [children_of_native hx, children_of_native hy] at hparts
    rw [hash?_of_native? hx, hash?_of_native? hy, hashes?_congr hxs hparts,
      hclasses _ _ (.head (headClass?_of_native? hx)) (.head (headClass?_of_native? hy)) hc]
  | @formed s xs ys hs hxs =>
    have hne : (s == "Literal") = false := by simpa using hs
    rw [hash?, hash?, hashes?_congr hxs hparts]
    simp only [hne, Bool.false_eq_true, if_false]
  | literal hxs =>
    have hliteral : ∀ {a b : Value},
        a.sameLiteral b = true ↔ a.same b = true ∧ a.kindWord = b.kindWord := fun {a b} => by
      rw [sameLiteral, Bool.and_eq_true, beq_iff_eq]
    simp only [hash?, beq_self_eq_true, if_true]
    refine hashes?_map_eq_of_mutual (E := sameLiteral) ?_ ?_ ?_ ?_ ?_
    · intro a b hab
      exact hliteral.mpr ⟨same_symm (hliteral.mp hab).1, (hliteral.mp hab).2.symm⟩
    · intro a b c hab hbc
      exact hliteral.mpr ⟨same_trans (hliteral.mp hab).1 (hliteral.mp hbc).1,
        (hliteral.mp hab).2.trans (hliteral.mp hbc).2⟩
    · simpa only [hliteral] using hxs
    · exact fun a ha b hb hab => hparts a ha b hb (hliteral.mp hab).1
    · intro a b k hab
      simp only [(hliteral.mp hab).2]
  | union hxs =>
    exact hashes?_map_eq_of_mutual (fun a b => same_symm) (fun a b c => same_trans) hxs hparts
      fun a b k _ => rfl
  | annotated hx hnotes =>
    obtain ⟨hinner, hparts⟩ := List.forall_mem_cons.mp hparts
    rw [hash?, hash?, hinner _ (List.mem_cons_self ..) hx,
      hashes?_congr hnotes fun a ha b hb => hparts a ha b (List.mem_cons_of_mem _ hb)]
  | forward => rfl

/-- Equal values have one hash, or neither has one. -/
theorem hash?_congr (hxy : x.same y = true) (hclasses : h.Respects x y) :
    x.hash? h = y.hash? h := by
  induction x using children_induction generalizing y with
  | _ x ih =>
    refine (same_iff.mp hxy).hash?_eq hclasses fun a ha b hb hab => ih a ha hab ?_
    exact fun c d hc hd => hclasses c d (.part ha hc) (.part hb hd)

theorem allHashable_iff {xs : List Value} :
    isHashable.allHashable xs = true ↔ ∀ x ∈ xs, x.isHashable = true := by
  induction xs with
  | nil => simp [isHashable.allHashable]
  | cons x xs ih => rw [isHashable.allHashable, Bool.and_eq_true, ih, List.forall_mem_cons]

theorem hashes?_isSome_eq {xs : List Value}
    (hxs : ∀ x ∈ xs, (x.hash? h).isSome = x.isHashable) :
    (hash?.hashes? h xs).isSome = isHashable.allHashable xs := by
  rw [Bool.eq_iff_iff, hashes?_isSome, allHashable_iff]
  exact forall₂_congr fun x hx => by rw [hxs x hx]

/-- The values that can be keys are those that have a hash. -/
theorem hash?_isSome (x : Value) : (x.hash? h).isSome = x.isHashable := by
  induction x using children_induction with
  | _ x ih =>
    cases x with
    | tuple xs | applied _ _ xs | native _ xs | looseCallable xs | formed _ xs | union _ xs =>
      rw [hash?, Option.isSome_map, isHashable]
      exact hashes?_isSome_eq ih
    | annotated inner notes =>
      obtain ⟨hinner, hnotes⟩ := List.forall_mem_cons.mp ih
      rw [hash?, isHashable, ← hinner, ← hashes?_isSome_eq hnotes]
      cases inner.hash? h with
      | none => rfl
      | some k => rw [Option.isSome_map, Option.isSome_some, Bool.true_and]
    | _ => rfl

end Value

/-- Hashes that tell classes and other named objects apart by their names. A set has the sum of the
hashes of its items. -/
def Hashing.byName : Hashing where
  absent := 1
  ellipsis := 2
  number _ := 3
  text s := s.length
  bytes bs := bs.length
  cls
    | .library _ name => name.length
    | .declared serial => serial
  typeVar serial := serial
  paramSpec serial := serial
  newType serial := serial
  form name := name.length
  aliased name := name.length
  member _ name := name.length
  function _ name := name.length
  module name := name.length
  kind word := word.length
  single _ := 4
  ordered hs := hs.foldl (fun n k => 31 * n + k) 5
  unordered hs := hs.sum
  native n k := 31 * n + k
  number_congr _ _ _ := rfl
  unordered_congr _ _ h := h.sum_eq

theorem Hashing.byName_respects (x y : Value) : Hashing.byName.Respects x y := by
  intro c d _ _ hcd
  rcases ClassRef.equals_iff.mp hcd with rfl | ⟨rfl, rfl⟩ | ⟨rfl, rfl⟩
  · rfl
  · rfl
  · rfl

/-- Equal values can both be keys, or neither can. -/
theorem Value.isHashable_congr {x y : Value} (hxy : x.same y = true) :
    x.isHashable = y.isHashable := by
  rw [← hash?_isSome x (h := Hashing.byName), ← hash?_isSome y (h := Hashing.byName),
    hash?_congr hxy (Hashing.byName_respects x y)]

/-! ### Descriptors -/

namespace Objects

variable {o : Objects} {h : Hashing} {i j k : Nat}

theorem equal_iff : o.equal i j = true ↔ i = j ∨ (o.value i).same (o.value j) = true := by
  rw [equal, Bool.or_eq_true, beq_iff_eq]

theorem equal_symm (hij : o.equal i j = true) : o.equal j i = true := by
  rw [equal_iff] at hij ⊢
  exact hij.imp Eq.symm same_symm

theorem equal_trans (hij : o.equal i j = true) (hjk : o.equal j k = true) :
    o.equal i k = true := by
  rw [equal_iff] at hij hjk
  rcases hij with rfl | hij
  · exact equal_iff.mpr hjk
  · rcases hjk with rfl | hjk
    · exact equal_iff.mpr (.inr hij)
    · exact equal_iff.mpr (.inr (same_trans hij hjk))

theorem hash_of_hashable (hi : (o.value i).isHashable = true) :
    (o.value i).hash? h = some (o.hash h i) := by
  rw [← hash?_isSome (h := h)] at hi
  obtain ⟨n, hn⟩ := Option.isSome_iff_exists.mp hi
  rw [hash, hn, Option.getD_some]

theorem hash_of_not_hashable (hi : (o.value i).isHashable = false) : o.hash h i = o.identity i := by
  rw [← hash?_isSome (h := h), Option.isSome_eq_false_iff, Option.isNone_iff_eq_none] at hi
  rw [hash, hi, Option.getD_none]

theorem hash_congr (hij : o.equal i j = true) (hi : (o.value i).isHashable = true)
    (hclasses : h.Respects (o.value i) (o.value j)) : o.hash h i = o.hash h j := by
  rcases equal_iff.mp hij with rfl | hij
  · rfl
  · have hvalue := hash?_congr hij hclasses
    rw [hash_of_hashable hi, hash_of_hashable ((isHashable_congr hij).symm.trans hi)] at hvalue
    exact Option.some.inj hvalue

/-- Without a hash of the value the identities decide. -/
theorem hash_eq_iff (hij : o.equal i j = true) (hi : (o.value i).isHashable = false) :
    o.hash h i = o.hash h j ↔ o.identity i = o.identity j := by
  rcases equal_iff.mp hij with rfl | hij
  · exact ⟨fun _ => rfl, fun _ => rfl⟩
  · have hj : (o.value j).isHashable = false := (isHashable_congr hij).symm.trans hi
    rw [hash_of_not_hashable hi, hash_of_not_hashable hj]

theorem identity_eq_iff {moment : Nat} (hi : o.alive i moment) (hj : o.alive j moment) :
    o.identity i = o.identity j ↔ i = j :=
  ⟨o.apart moment i j hi hj, congrArg o.identity⟩

/-- Two optional types in two orders, and types with a list among the notes inside of them: two that
are alive together, and a later one in the place of the first of these. -/
def unionsAndNotes : Objects where
  value
    | 0 => .union false [.cls (.library "builtins" "int"), noneType]
    | 1 => .union true [noneType, .cls (.library "builtins" "int")]
    | _ => .native (.library "builtins" "list")
        [.annotated (.cls (.library "builtins" "int")) [.list [.int 1]]]
  identity i := if i = 4 then 2 else i
  alive i moment := if moment = 0 then i < 4 else i = 4
  apart moment i j hi hj hij := by
    split at hi
    · next hnow =>
      rw [if_pos hnow] at hj
      rw [if_neg (by omega), if_neg (by omega)] at hij
      exact Int.ofNat.inj hij
    · next hlater =>
      rw [if_neg hlater] at hj
      rw [hi, hj]

/-- An object may have the hash of one that is gone. -/
example : unionsAndNotes.equal 2 4 = true ∧
    unionsAndNotes.hash .byName 2 = unionsAndNotes.hash .byName 4 := by decide

end Objects

end TypeProjection.Annotation
