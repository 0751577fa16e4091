import Mathlib.Data.List.Basic
import TypeProjection.Text.Word

/-!
# Texts with nested brackets

A scan of a text keeps the brackets that are still to be closed. A balanced text closes what it
opens and nothing else, so to a scan that passes over it from inside of other brackets it is as if
it were not there. `cut` separates a text at a mark between spaces wherever no bracket is open, and
after a text that stands by itself it goes on as if that text had not been there.
-/

namespace TypeProjection.Nesting

/-! ### Brackets -/

/-- The bracket that closes what a character opens. -/
def closer? : Char → Option Char
  | '(' => some ')'
  | '<' => some '>'
  | '[' => some ']'
  | '\x7b' => some '\x7d'
  | _ => none

/-- Does a character close something? -/
def isCloser (c : Char) : Bool := [')', '>', ']', '\x7d'].contains c

/-- Is a character one of a bracket? -/
def isBracket (c : Char) : Bool := (closer? c).isSome || isCloser c

/-- The brackets that are to be closed, innermost first, after one more character. Nothing comes
after a bracket that closes what is not open. -/
def step (c : Char) (pending : List Char) : Option (List Char) :=
  match closer? c with
  | some e => some (e :: pending)
  | none =>
    if isCloser c then
      match pending with
      | [] => none
      | e :: rest => if e = c then some rest else none
    else some pending

/-- The brackets that are to be closed after a text. -/
def scan : List Char → List Char → Option (List Char)
  | [], pending => some pending
  | c :: cs, pending => (step c pending).bind (scan cs)

/-- A text closes the brackets that it opens, and no others. -/
def Balanced (cs : List Char) : Prop := scan cs [] = some []

instance (cs : List Char) : Decidable (Balanced cs) :=
  inferInstanceAs (Decidable (scan cs [] = some []))

/-- Outside of all brackets, there is no space. -/
def Spaceless : List Char → List Char → Prop
  | [], _ => True
  | c :: cs, pending => (c = ' ' → pending ≠ []) ∧ ∀ p, step c pending = some p → Spaceless cs p

variable {c mark : Char} {cs xs ys : List Char} {pending p q outer : List Char}

theorem step_of_not_isBracket (h : isBracket c = false) : step c pending = some pending := by
  obtain ⟨hopen, hclose⟩ := Bool.or_eq_false_iff.mp h
  unfold step
  rw [Option.isSome_eq_false_iff, Option.isNone_iff_eq_none] at hopen
  rw [hopen, hclose]
  rfl

theorem step_space : step ' ' pending = some pending :=
  step_of_not_isBracket (by decide)

/-- Brackets further out make no difference. -/
theorem step_append (h : step c p = some q) : step c (p ++ outer) = some (q ++ outer) := by
  unfold step at h ⊢
  cases hopen : closer? c with
  | some e =>
    rw [hopen] at h
    cases h
    rfl
  | none =>
    rw [hopen] at h
    dsimp only at h ⊢
    split at h
    · next hclose =>
      rw [if_pos hclose]
      cases p with
      | nil => cases h
      | cons e rest =>
        dsimp only at h
        split at h
        · next he =>
          cases h
          exact if_pos he
        · cases h
    · next hclose =>
      rw [if_neg hclose]
      cases h
      rfl

theorem scan_cons : scan (c :: cs) pending = (step c pending).bind (scan cs) := rfl

theorem scan_append : scan (xs ++ ys) pending = (scan xs pending).bind (scan ys) := by
  induction xs generalizing pending with
  | nil => rfl
  | cons x xs ih =>
    rw [List.cons_append, scan_cons, scan_cons]
    cases step x pending with
    | none => rfl
    | some p => exact ih

theorem scan_outer (h : scan cs p = some q) : scan cs (p ++ outer) = some (q ++ outer) := by
  induction cs generalizing p with
  | nil =>
    cases h
    rfl
  | cons c cs ih =>
    rw [scan_cons] at h ⊢
    obtain ⟨r, hr, h⟩ := Option.bind_eq_some_iff.mp h
    rw [step_append hr]
    exact ih h

/-- A balanced text leaves open what was open before it. -/
theorem Balanced.scan (h : Balanced cs) : Nesting.scan cs pending = some pending :=
  scan_outer (p := []) (q := []) h

theorem balanced_nil : Balanced [] := rfl

theorem Balanced.append (hx : Balanced xs) (hy : Balanced ys) : Balanced (xs ++ ys) := by
  unfold Balanced
  rw [scan_append, hx.scan]
  exact hy

theorem balanced_of_all (h : ∀ c ∈ cs, isBracket c = false) : Balanced cs := by
  induction cs with
  | nil => rfl
  | cons c cs ih =>
    obtain ⟨hc, hcs⟩ := List.forall_mem_cons.mp h
    unfold Balanced
    rw [scan_cons, step_of_not_isBracket hc]
    exact ih hcs

/-- A balanced text between two brackets that belong together is balanced. -/
theorem Balanced.enclosed {e : Char} (hopen : closer? c = some e) (hclose : closer? e = none)
    (he : isCloser e = true) (h : Balanced cs) : Balanced (c :: cs ++ [e]) := by
  have hstep : step c [] = some [e] := by
    unfold step
    rw [hopen]
  have hlast : step e [e] = some [] := by
    unfold step
    rw [hclose]
    exact (if_pos he).trans (if_pos rfl)
  unfold Balanced
  rw [List.cons_append, scan_cons, hstep, Option.bind_some, scan_append, h.scan, Option.bind_some,
    scan_cons, hlast]
  rfl

/-! ### Texts without spaces outside of brackets -/

theorem spaceless_cons (hc : c = ' ' → pending ≠ []) (hstep : step c pending = some p)
    (h : Spaceless cs p) : Spaceless (c :: cs) pending :=
  ⟨hc, fun q hq => by
    rw [hstep] at hq
    cases hq
    exact h⟩

theorem Spaceless.append (hscan : scan xs pending = some p) (hx : Spaceless xs pending)
    (hy : Spaceless ys p) : Spaceless (xs ++ ys) pending := by
  induction xs generalizing pending with
  | nil =>
    cases hscan
    exact hy
  | cons x xs ih =>
    obtain ⟨q, hq, hscan⟩ := Option.bind_eq_some_iff.mp hscan
    exact spaceless_cons hx.1 hq (ih hscan (hx.2 q hq))

/-- Inside of a bracket, spaces do not count. -/
theorem spaceless_inside (h : scan cs p = some q) (houter : outer ≠ []) :
    Spaceless cs (p ++ outer) := by
  induction cs generalizing p with
  | nil => trivial
  | cons c cs ih =>
    rw [scan_cons] at h
    obtain ⟨r, hr, h⟩ := Option.bind_eq_some_iff.mp h
    exact spaceless_cons (fun _ => List.append_ne_nil_of_right_ne_nil _ houter) (step_append hr)
      (ih h)

theorem Balanced.spaceless (h : Balanced cs) (hp : pending ≠ []) : Spaceless cs pending :=
  spaceless_inside (p := []) h hp

theorem spaceless_of_all (h : ∀ c ∈ cs, c ≠ ' ' ∧ isBracket c = false) : Spaceless cs pending := by
  induction cs with
  | nil => trivial
  | cons c cs ih =>
    obtain ⟨hc, hcs⟩ := List.forall_mem_cons.mp h
    exact spaceless_cons (fun he => (hc.1 he).elim) (step_of_not_isBracket hc.2) (ih hcs)

/-! ### Cutting -/

/-- What stands between two parts. -/
def separator (mark : Char) : List Char := [' ', mark, ' ']

/-- A character put before the first part. -/
def extend (c : Char) : List (List Char) → List (List Char)
  | [] => [[c]]
  | part :: parts => (c :: part) :: parts

/-- The parts of a text between the marks that stand outside of all brackets, each between two
spaces. The first argument counts the characters of a separator that are still to be passed. -/
def cutFrom (mark : Char) : Nat → List Char → List Char → List (List Char)
  | _, _, [] => [[]]
  | passing + 1, pending, _ :: cs => cutFrom mark passing pending cs
  | 0, pending, c :: cs =>
    if pending = [] ∧ separator mark <+: c :: cs then [] :: cutFrom mark 2 [] cs
    else extend c (cutFrom mark 0 ((step c pending).getD pending) cs)

/-- The parts of a text. -/
def cut (mark : Char) (cs : List Char) : List (List Char) := cutFrom mark 0 [] cs

/-- A text that can be followed by a separator: balanced, and not ending in the midst of one. -/
structure Standalone (mark : Char) (cs : List Char) : Prop where
  balanced : Balanced cs
  complete : ¬ [' ', mark] <:+ ' ' :: cs

instance (mark : Char) (cs : List Char) : Decidable (Standalone mark cs) :=
  decidable_of_iff (Balanced cs ∧ ¬ [' ', mark] <:+ ' ' :: cs)
    ⟨fun h => ⟨h.1, h.2⟩, fun h => ⟨h.balanced, h.complete⟩⟩

theorem extend_append {parts more : List (List Char)} (h : parts ≠ []) :
    extend c (parts ++ more) = extend c parts ++ more := by
  cases parts with
  | nil => exact absurd rfl h
  | cons part parts => rfl

theorem cutFrom_ne_nil {n : Nat} : cutFrom mark n pending cs ≠ [] := by
  fun_induction cutFrom mark n pending cs with
  | case1 => exact List.cons_ne_nil _ _
  | case2 _ _ _ _ ih => exact ih
  | case3 => exact List.cons_ne_nil _ _
  | case4 _ _ _ _ ih =>
    unfold extend
    split
    · exact List.cons_ne_nil _ _
    · exact List.cons_ne_nil _ _

theorem length_le_of_mem_cutFrom {n : Nat} :
    ∀ part ∈ cutFrom mark n pending cs, part.length ≤ cs.length := by
  fun_induction cutFrom mark n pending cs with
  | case1 =>
    intro part h
    exact Nat.le_of_eq (congrArg List.length (List.mem_singleton.mp h))
  | case2 _ _ _ _ ih => exact fun part h => Nat.le_succ_of_le (ih part h)
  | case3 _ _ _ _ ih =>
    intro part h
    rcases List.mem_cons.mp h with rfl | h
    · exact Nat.zero_le _
    · exact Nat.le_succ_of_le (ih part h)
  | case4 _ _ _ _ ih =>
    unfold extend
    split
    · intro part h
      rw [List.mem_singleton.mp h]
      exact Nat.succ_le_succ (Nat.zero_le _)
    · next first parts hparts =>
      rw [hparts] at ih
      intro part h
      rcases List.mem_cons.mp h with rfl | h
      · exact Nat.succ_le_succ (ih first (List.mem_cons_self ..))
      · exact Nat.le_succ_of_le (ih part (List.mem_cons_of_mem _ h))

theorem length_le_of_mem_cut (h : xs ∈ cut mark cs) : xs.length ≤ cs.length :=
  length_le_of_mem_cutFrom xs h

theorem separator_append {rest : List Char} :
    separator mark ++ rest = ' ' :: mark :: ' ' :: rest := rfl

/-- A separator at the end of a text that does not end in the midst of one begins nowhere before. -/
theorem separator_prefix {rest : List Char} (hmark : mark ≠ ' ') (hend : ¬ [' ', mark] <:+ c :: cs)
    (h : separator mark <+: c :: cs ++ (separator mark ++ rest)) : separator mark <+: c :: cs := by
  obtain ⟨tail, h⟩ := h
  match cs with
  | [] =>
    cases h
    exact (hmark rfl).elim
  | [d] =>
    cases h
    exact (hend (List.suffix_refl _)).elim
  | d :: e :: cs =>
    cases h
    exact ⟨cs, rfl⟩

/-- After a text that can be followed by a separator, cutting starts anew. -/
theorem cutFrom_separated {rest : List Char} {n : Nat} (hbracket : isBracket mark = false)
    (hmark : mark ≠ ' ') (hn : n ≤ cs.length) (hscan : scan (cs.drop n) pending = some [])
    (hend : ¬ [' ', mark] <:+ cs) :
    cutFrom mark n pending (cs ++ (separator mark ++ rest)) =
      cutFrom mark n pending cs ++ cut mark rest := by
  fun_induction cutFrom mark n pending cs with
  | case1 n pending =>
    obtain rfl : n = 0 := Nat.le_zero.mp hn
    cases hscan
    rw [List.nil_append, separator_append, cutFrom, if_pos ⟨rfl, List.prefix_append _ rest⟩]
    rfl
  | case2 n pending c cs ih =>
    exact ih (Nat.le_of_succ_le_succ hn) hscan fun h => hend (h.trans (List.suffix_cons ..))
  | case3 pending c cs h ih =>
    obtain ⟨rfl, tail, htail⟩ := h
    cases htail
    have hcut : separator mark <+: ' ' :: (mark :: ' ' :: tail ++ (separator mark ++ rest)) :=
      ⟨tail ++ (separator mark ++ rest), rfl⟩
    have htail : scan tail [] = some [] := by
      have hall : scan (' ' :: mark :: ' ' :: tail) [] = some [] := hscan
      rw [scan_cons, step_space, Option.bind_some, scan_cons, step_of_not_isBracket hbracket,
        Option.bind_some, scan_cons, step_space] at hall
      exact hall
    rw [List.cons_append, cutFrom, if_pos ⟨rfl, hcut⟩, List.cons_append]
    exact congrArg _ (ih (Nat.le_add_left ..) htail
      fun h => hend (h.trans (List.suffix_cons ..)))
  | case4 pending c cs h ih =>
    have hcut : ¬ (pending = [] ∧ separator mark <+: c :: (cs ++ (separator mark ++ rest))) :=
      fun hboth => h ⟨hboth.1, separator_prefix hmark hend hboth.2⟩
    obtain ⟨p, hp, hscan⟩ := Option.bind_eq_some_iff.mp hscan
    rw [hp] at ih ⊢
    rw [List.cons_append, cutFrom, if_neg hcut, hp]
    have hrest := ih (Nat.zero_le _) hscan fun h => hend (h.trans (List.suffix_cons ..))
    rw [hrest, extend_append cutFrom_ne_nil]

theorem balanced_separator (h : isBracket mark = false) : Balanced (separator mark) :=
  balanced_of_all fun c hc => by
    rcases List.mem_cons.mp hc with rfl | hc
    · decide
    rcases List.mem_cons.mp hc with rfl | hc
    · exact h
    · rw [List.mem_singleton.mp hc]
      decide

/-- A balanced text that ends in something else than the mark can be followed by a separator. -/
theorem Balanced.standalone (h : Balanced (cs ++ [c])) (hc : c ≠ mark) :
    Standalone mark (cs ++ [c]) := by
  refine ⟨h, fun ⟨front, hend⟩ => hc ?_⟩
  have hlast := congrArg List.getLast? hend
  rw [← List.cons_append, List.getLast?_concat, List.getLast?_append_of_ne_nil _ (by simp)] at hlast
  exact (Option.some.inj hlast).symm

/-- After a separator, only what follows decides. -/
theorem Balanced.separated (h : Balanced xs) (hbracket : isBracket mark = false)
    (hmark : mark ≠ ' ') (hy : Standalone mark ys) :
    Standalone mark (xs ++ (separator mark ++ ys)) := by
  refine ⟨h.append ((balanced_separator hbracket).append hy.balanced), fun hend => ?_⟩
  have hlast : ' ' :: ys <:+ ' ' :: (xs ++ (separator mark ++ ys)) := by
    refine List.IsSuffix.trans ?_ (List.suffix_cons ..)
    exact ⟨xs ++ [' ', mark], by simp [separator]⟩
  rcases List.suffix_or_suffix_of_suffix hend hlast with hshort | hlong
  · exact hy.complete hshort
  · cases ys with
    | nil =>
      rcases List.suffix_cons_iff.mp hlong with heq | hlong
      · cases heq
      · rcases List.suffix_cons_iff.mp hlong with heq | hnil
        · exact hmark (List.cons.inj heq).1.symm
        · exact absurd (List.suffix_nil.mp hnil) (List.cons_ne_nil _ _)
    | cons y ys =>
      rcases List.suffix_cons_iff.mp hlong with heq | hlong
      · exact hy.complete (heq ▸ List.suffix_refl _)
      · have hlength := hlong.length_le
        simp only [List.length_cons, List.length_nil] at hlength
        omega

theorem Standalone.cut_separated {rest : List Char} (hbracket : isBracket mark = false)
    (hmark : mark ≠ ' ') (h : Standalone mark cs) :
    cut mark (cs ++ (separator mark ++ rest)) = cut mark cs ++ cut mark rest :=
  cutFrom_separated hbracket hmark (Nat.zero_le _) h.balanced
    fun hend => h.complete (hend.trans (List.suffix_cons ..))

/-- A part before the first part. -/
def prepend (xs : List Char) (parts : List (List Char)) : List (List Char) := xs.foldr extend parts

theorem prepend_cons {part : List Char} {parts : List (List Char)} :
    prepend xs (part :: parts) = (xs ++ part) :: parts := by
  induction xs with
  | nil => rfl
  | cons x xs ih =>
    change extend x (prepend xs (part :: parts)) = _
    rw [ih]
    rfl

/-- Where no space is outside of brackets, nothing is cut. -/
theorem cutFrom_spaceless (mark : Char) (ys : List Char) (hscan : scan xs pending = some p)
    (h : Spaceless xs pending) :
    cutFrom mark 0 pending (xs ++ ys) = prepend xs (cutFrom mark 0 p ys) := by
  induction xs generalizing pending with
  | nil =>
    cases hscan
    rfl
  | cons x xs ih =>
    obtain ⟨q, hq, hscan⟩ := Option.bind_eq_some_iff.mp hscan
    have hcut : ¬ (pending = [] ∧ separator mark <+: x :: (xs ++ ys)) := by
      rintro ⟨hp, tail, htail⟩
      exact h.1 (List.cons.inj htail).1.symm hp
    rw [List.cons_append, cutFrom, if_neg hcut, hq]
    exact congrArg (extend x) (ih hscan (h.2 q hq))

/-! ### Operands -/

/-- A text that stands between operators: balanced and without spaces outside of brackets. -/
structure Compact (cs : List Char) : Prop where
  balanced : Balanced cs
  spaceless : Spaceless cs []

theorem compact_of_all (h : ∀ c ∈ cs, c ≠ ' ' ∧ isBracket c = false) : Compact cs :=
  ⟨balanced_of_all fun c hc => (h c hc).2, spaceless_of_all h⟩

/-- A balanced text between two brackets, behind a text without spaces. -/
theorem Compact.enclosed {e : Char} (hx : Compact xs) (hopen : closer? c = some e)
    (hclose : closer? e = none) (he : isCloser e = true) (h : Balanced cs) :
    Compact (xs ++ (c :: cs ++ [e])) := by
  have hstep : step c [] = some [e] := by
    unfold step
    rw [hopen]
  have hspace : ¬ closer? ' ' = some e ∧ isCloser ' ' = false := by
    constructor
    · intro h
      cases h
    · rfl
  have hinner : Spaceless (c :: cs ++ [e]) [] := by
    refine spaceless_cons (fun hc => ?_) hstep ?_
    · exact absurd (hc ▸ hopen) hspace.1
    · refine Spaceless.append h.scan (h.spaceless (List.cons_ne_nil _ _)) ⟨fun hc => ?_, ?_⟩
      · rw [hc, hspace.2] at he
        cases he
      · exact fun _ _ => trivial
  exact ⟨hx.balanced.append (h.enclosed hopen hclose he),
    Spaceless.append hx.balanced hx.spaceless hinner⟩

/-- An operand is the first part of what it begins. -/
theorem Compact.cut_separated (h : Compact xs) :
    cut mark (xs ++ (separator mark ++ ys)) = xs :: cut mark ys := by
  have hcut := cutFrom_spaceless mark (separator mark ++ ys) h.balanced h.spaceless
  have hfirst : cutFrom mark 0 [] (separator mark ++ ys) = [] :: cut mark ys := by
    rw [separator_append, cutFrom, if_pos ⟨rfl, List.prefix_append _ ys⟩]
    rfl
  rw [hfirst] at hcut
  exact hcut.trans (prepend_cons.trans (by rw [List.append_nil]))

theorem Compact.cut (h : Compact xs) : Nesting.cut mark xs = [xs] := by
  have hcut := cutFrom_spaceless mark [] h.balanced h.spaceless
  rw [List.append_nil] at hcut
  exact hcut.trans (prepend_cons.trans (by rw [List.append_nil]))

/-- Between operands, another operator does not cut. -/
theorem Compact.cut_other {other : Char} (h : Compact xs) (hbracket : isBracket other = false)
    (hspace : other ≠ ' ') (hother : other ≠ mark) (hstart : ys.head? ≠ some mark)
    (hys : Nesting.cut mark ys = [ys]) :
    Nesting.cut mark (xs ++ (separator other ++ ys)) = [xs ++ (separator other ++ ys)] := by
  have hcut := cutFrom_spaceless mark (separator other ++ ys) h.balanced h.spaceless
  have hfirst : ¬ (([] : List Char) = [] ∧ separator mark <+: ' ' :: other :: ' ' :: ys) := by
    rintro ⟨-, tail, htail⟩
    cases htail
    exact hother rfl
  have hsecond : ¬ (([] : List Char) = [] ∧ separator mark <+: other :: ' ' :: ys) := by
    rintro ⟨-, tail, htail⟩
    cases htail
    exact hspace rfl
  have hthird : ¬ (([] : List Char) = [] ∧ separator mark <+: ' ' :: ys) := by
    rintro ⟨-, tail, htail⟩
    cases htail
    exact hstart rfl
  have hpassed : cutFrom mark 0 [] (separator other ++ ys) = [separator other ++ ys] := by
    rw [separator_append, cutFrom, if_neg hfirst, step_space, Option.getD_some, cutFrom,
      if_neg hsecond, step_of_not_isBracket hbracket, Option.getD_some, cutFrom, if_neg hthird,
      step_space, Option.getD_some]
    exact congrArg (fun parts => extend ' ' (extend other (extend ' ' parts))) hys
  rw [hpassed] at hcut
  exact hcut.trans prepend_cons

section Joined

variable {items : List (List Char)}

/-- Operands that are joined are cut apart again. -/
theorem cut_joined (hne : items ≠ []) (h : ∀ x ∈ items, Compact x) :
    cut mark ((separator mark).intercalate items) = items := by
  induction items with
  | nil => exact absurd rfl hne
  | cons x items ih =>
    obtain ⟨hx, hitems⟩ := List.forall_mem_cons.mp h
    cases items with
    | nil =>
      rw [List.intercalate_singleton]
      exact hx.cut
    | cons y items =>
      rw [List.intercalate_cons_cons, List.append_assoc, hx.cut_separated,
        ih (List.cons_ne_nil _ _) hitems]

theorem head?_joined {mark : Char} {x : List Char} (hx : x ≠ []) :
    ((separator mark).intercalate (x :: items)).head? = x.head? := by
  obtain ⟨c, cs, rfl⟩ := List.exists_cons_of_ne_nil hx
  cases items with
  | nil => rw [List.intercalate_singleton]
  | cons y items =>
    rw [List.intercalate_cons_cons]
    rfl

/-- Operands that are joined by one operator are one operand of another. -/
theorem cut_joined_other {other : Char} (hbracket : isBracket other = false)
    (hspace : other ≠ ' ') (hother : other ≠ mark) (hne : items ≠ [])
    (h : ∀ x ∈ items, Compact x ∧ x ≠ [] ∧ x.head? ≠ some mark) :
    cut mark ((separator other).intercalate items) = [(separator other).intercalate items] := by
  induction items with
  | nil => exact absurd rfl hne
  | cons x items ih =>
    obtain ⟨hx, hitems⟩ := List.forall_mem_cons.mp h
    cases items with
    | nil =>
      rw [List.intercalate_singleton]
      exact hx.1.cut
    | cons y items =>
      obtain ⟨-, hy, hstart⟩ := hitems y (List.mem_cons_self ..)
      rw [List.intercalate_cons_cons, List.append_assoc]
      exact hx.1.cut_other hbracket hspace hother (head?_joined hy ▸ hstart)
        (ih (List.cons_ne_nil _ _) hitems)

end Joined

end TypeProjection.Nesting
