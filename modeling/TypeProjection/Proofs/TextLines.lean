import Mathlib.Data.List.Basic
import TypeProjection.Text.Blank

/-!
# Blanks and lines

What stripping leaves of a text that has blanks around it, where a mark cuts a text, and how the
lines of a text follow one another: a line ends at its first line end, and a file that is read with
every line end written in one way has the lines that it had.
-/

namespace TypeProjection.Text

variable {cs front back left right : List Char} {c mark : Char}

/-! ### Blanks -/

/-- Something, with no blanks around it. -/
structure Bare (cs : List Char) : Prop where
  nonempty : cs ≠ []
  first : ∀ c ∈ cs.head?, isBlank c = false
  last : ∀ c ∈ cs.getLast?, isBlank c = false

instance : Decidable (Bare cs) :=
  decidable_of_iff (cs ≠ [] ∧ (cs.head?.all fun c => !isBlank c) = true ∧
      (cs.getLast?.all fun c => !isBlank c) = true) <| by
    simp only [Option.all_eq_true, Bool.not_eq_true']
    exact ⟨fun ⟨hne, hfirst, hlast⟩ => ⟨hne, hfirst, hlast⟩, fun h => ⟨h.nonempty, h.first, h.last⟩⟩

theorem dropWhile_of_head {p : Char → Bool} (h : ∀ c ∈ cs.head?, p c = false) :
    cs.dropWhile p = cs := by
  cases cs with
  | nil => rfl
  | cons c cs => exact List.dropWhile_cons_of_neg (by simp [h c rfl])

/-- What does not satisfy the condition stays, and so does all behind it. -/
theorem dropWhile_append_cons {p : Char → Bool} (hc : p c = false) :
    (front ++ c :: back).dropWhile p = front.dropWhile p ++ c :: back := by
  rw [List.dropWhile_append]
  split
  · next h =>
    rw [List.isEmpty_iff.mp h, List.dropWhile_cons_of_neg (by simp [hc]), List.nil_append]
  · rfl

theorem stripRight_append (h : ∀ c ∈ right, isBlank c = true) :
    stripRight (cs ++ right) = stripRight cs := by
  unfold stripRight
  rw [List.reverse_append, List.dropWhile_append_of_pos fun c hc => h c (List.mem_reverse.mp hc)]

theorem stripRight_of_last (h : ∀ c ∈ cs.getLast?, isBlank c = false) : stripRight cs = cs := by
  unfold stripRight
  rw [dropWhile_of_head (by rwa [List.head?_reverse]), List.reverse_reverse]

theorem stripRight_subset : stripRight cs ⊆ cs := fun _ hc =>
  List.mem_reverse.mp (List.dropWhile_subset _ (List.mem_reverse.mp hc))

theorem stripRight_cons (hc : isBlank c = false) :
    stripRight (c :: cs) = c :: stripRight cs := by
  unfold stripRight
  rw [List.reverse_cons, List.dropWhile_append]
  split
  · next h => simp [List.isEmpty_iff.mp h, hc]
  · rw [List.reverse_append, List.reverse_singleton, List.singleton_append]

theorem strip_subset : strip cs ⊆ cs := fun _ hc =>
  List.dropWhile_subset _ (stripRight_subset hc)

theorem strip_of_blank (h : ∀ c ∈ cs, isBlank c = true) : strip cs = [] := by
  have hdrop : cs.dropWhile isBlank = [] := by
    have h : (cs ++ []).dropWhile isBlank = [].dropWhile isBlank := List.dropWhile_append_of_pos h
    rwa [List.append_nil] at h
  rw [strip, hdrop]
  rfl

theorem strip_append_left (h : ∀ c ∈ left, isBlank c = true) : strip (left ++ cs) = strip cs := by
  rw [strip, List.dropWhile_append_of_pos h, strip]

/-- Stripping takes the blanks around a bare text, and no more. -/
theorem strip_padded (hl : ∀ c ∈ left, isBlank c = true) (hb : Bare cs)
    (hr : ∀ c ∈ right, isBlank c = true) : strip (left ++ (cs ++ right)) = cs := by
  have hhead : (cs ++ right).head? = cs.head? := List.head?_append_of_ne_nil _ hb.nonempty
  rw [strip_append_left hl, strip, dropWhile_of_head (by rw [hhead]; exact hb.first),
    stripRight_append hr, stripRight_of_last hb.last]

theorem strip_padded_right (hb : Bare cs) (hr : ∀ c ∈ right, isBlank c = true) :
    strip (cs ++ right) = cs :=
  strip_padded (List.forall_mem_nil _) hb hr

theorem strip_padded_left (hl : ∀ c ∈ left, isBlank c = true) (hb : Bare cs) :
    strip (left ++ cs) = cs := by
  have h := strip_padded hl hb (List.forall_mem_nil _)
  rwa [List.append_nil] at h

/-- Two bare texts with anything between them are a bare text. -/
theorem Bare.append (hf : Bare front) (hb : Bare back) (middle : List Char) :
    Bare (front ++ (middle ++ back)) where
  nonempty := List.append_ne_nil_of_left_ne_nil hf.nonempty _
  first := by
    rw [List.head?_append_of_ne_nil _ hf.nonempty]
    exact hf.first
  last := by
    rw [← List.append_assoc, List.getLast?_append_of_ne_nil _ hb.nonempty]
    exact hb.last

/-! ### Marks -/

theorem cutAt_of_not_mem (h : mark ∉ cs) : cutAt mark cs = none := by
  induction cs with
  | nil => rfl
  | cons c cs ih =>
    obtain ⟨hc, hcs⟩ := List.ne_and_not_mem_of_not_mem_cons h
    rw [cutAt, if_neg (Ne.symm hc), ih hcs]
    rfl

/-- A text is cut at the first mark, whatever stands behind it. -/
theorem cutAt_append (h : mark ∉ front) :
    cutAt mark (front ++ mark :: back) = some (front, back) := by
  induction front with
  | nil => rw [List.nil_append, cutAt, if_pos rfl]
  | cons c cs ih =>
    obtain ⟨hc, hcs⟩ := List.ne_and_not_mem_of_not_mem_cons h
    rw [List.cons_append, cutAt, if_neg (Ne.symm hc), ih hcs]
    rfl

/-! ### Lines -/

/-- Nothing in the text ends a line. -/
def OneLine (cs : List Char) : Prop := ∀ c ∈ cs, isLineEnd c = false

instance : Decidable (OneLine cs) := List.decidableBAll _ cs

theorem OneLine.append (h : OneLine front) (hback : OneLine back) : OneLine (front ++ back) :=
  List.forall_mem_append.mpr ⟨h, hback⟩

theorem OneLine.cons (hc : isLineEnd c = false) (h : OneLine cs) : OneLine (c :: cs) :=
  List.forall_mem_cons.mpr ⟨hc, h⟩

theorem linesFrom_ordinary {current : List Char} (hc : isLineEnd c = false) :
    linesFrom current (c :: cs) = linesFrom (c :: current) cs := by
  have hreturn : ∀ rest, c = '\r' → cs = '\n' :: rest → False := by
    rintro _ rfl
    cases hc
  rw [linesFrom.eq_4 _ _ _ hreturn, hc]
  rfl

/-- A line end ends the line that is being read. -/
theorem linesFrom_end {current : List Char} (hc : isLineEnd c = true)
    (hreturn : ∀ rest, c = '\r' → cs ≠ '\n' :: rest) :
    linesFrom current (c :: cs) = current.reverse :: lines cs := by
  rw [linesFrom.eq_4 _ _ _ hreturn, if_pos hc, lines]

theorem linesFrom_oneLine (h : OneLine front) (current : List Char) :
    linesFrom current (front ++ cs) = linesFrom (front.reverse ++ current) cs := by
  induction front generalizing current with
  | nil => rfl
  | cons c front ih =>
    obtain ⟨hc, hfront⟩ := List.forall_mem_cons.mp h
    rw [List.cons_append, linesFrom_ordinary hc, ih hfront, List.reverse_cons, List.append_assoc,
      List.singleton_append]

theorem linesFrom_unifyLineEnds (cs current : List Char) :
    linesFrom current (unifyLineEnds cs) = linesFrom current cs := by
  induction cs using unifyLineEnds.induct generalizing current with
  | case1 rest ih =>
    rw [unifyLineEnds, linesFrom_end rfl (by simp), lines, ih, linesFrom.eq_3]
  | case2 rest hrest ih =>
    rw [unifyLineEnds.eq_2 rest hrest, linesFrom_end rfl (by simp),
      linesFrom_end rfl fun after _ => hrest after, lines, ih, lines]
  | case3 c rest hreturn hc ih =>
    rw [unifyLineEnds.eq_3 c rest hreturn hc]
    cases hend : isLineEnd c with
    | true =>
      rw [linesFrom_end hend fun _ h => absurd h hc, linesFrom_end hend hreturn, lines, ih, lines]
    | false => rw [linesFrom_ordinary hend, linesFrom_ordinary hend, ih]
  | case4 => rfl

end TypeProjection.Text
