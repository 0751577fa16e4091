import TypeProjection.Proofs.Quotation
import TypeProjection.Proofs.QuotedTexts

/-!
# Displayed texts

A text as an expression writes it, between quotation marks and with escapes, is read back as the
text.
-/

namespace TypeProjection.Annotation.Reader

variable {c mark : Char} {cs piece rest : List Char} {count fuel n : Nat}

/-! ### Digits -/

theorem valueIn_append_singleton (base : Nat) (ds : List Char) (d : Char) :
    valueIn base (ds ++ [d]) = valueIn base ds * base + Text.hexValue d := by
  rw [valueIn, List.foldl_append]
  rfl

theorem length_hexDigits (count n : Nat) : (Text.hexDigits count n).length = count := by
  induction count generalizing n with
  | zero => rfl
  | succ count ih => rw [Text.hexDigits, List.length_append, ih, List.length_singleton]

theorem valueIn_hexDigits (h : n < Nat.pow 16 count) : valueIn 16 (Text.hexDigits count n) = n := by
  induction count generalizing n with
  | zero =>
    obtain rfl : n = 0 := Nat.lt_one_iff.mp h
    rfl
  | succ count ih =>
    have h : n < Nat.pow 16 count * 16 := h
    rw [Text.hexDigits, valueIn_append_singleton, ih (by omega),
      (Text.hexDigit_facts (Nat.mod_lt n (by decide))).1]
    omega

theorem isHex_of_mem_hexDigits (h : c ∈ Text.hexDigits count n) : isHex c = true := by
  induction count generalizing n with
  | zero => cases h
  | succ count ih =>
    rcases List.mem_append.mp h with h | h
    · exact ih h
    · rw [List.mem_singleton.mp h]
      exact (Text.hexDigit_facts (Nat.mod_lt n (by decide))).2

theorem hexCode?_hexDigits (h : n < Nat.pow 16 count) :
    hexCode? count (Text.hexDigits count n ++ rest) = some (n, rest) := by
  have hlength := length_hexDigits count n
  have hall : (Text.hexDigits count n).all isHex = true :=
    List.all_eq_true.mpr fun _ hc => isHex_of_mem_hexDigits hc
  unfold hexCode?
  rw [List.take_left' hlength, List.drop_left' hlength]
  dsimp only
  rw [hall, hlength, beq_self_eq_true, valueIn_hexDigits h]
  rfl

/-! ### One character -/

/-- What stands for a character between two quotation marks. -/
inductive Shows (mark c : Char) : List Char → Prop
  | plain (hmark : c ≠ mark) (hslash : c ≠ '\\') (hline : c ≠ '\n') (hreturn : c ≠ '\r') :
      Shows mark c [c]
  | letter {d : Char} (hd : (d, c.toNat) ∈ [('n', 10), ('r', 13), ('t', 9)]) :
      Shows mark c ['\\', d]
  | self (hc : c = mark ∨ c = '\\') : Shows mark c ['\\', c]
  | code {kind : Char} {count : Nat} (hkind : (kind, count) ∈ [('x', 2), ('u', 4), ('U', 8)])
      (hc : c.toNat < Nat.pow 16 count) : Shows mark c (Text.hexEscape kind count c.toNat)

theorem shows_displayChar (mark c : Char) : Shows mark c (Text.displayChar mark c) := by
  unfold Text.displayChar
  dsimp only
  have hvalid : c.toNat < Nat.pow 16 8 := by
    have hc : c.toNat < 55296 ∨ 57343 < c.toNat ∧ c.toNat < 1114112 := c.valid
    change c.toNat < 4294967296
    omega
  split
  · next h =>
    refine .self ?_
    rw [Bool.or_eq_true, beq_iff_eq, beq_iff_eq] at h
    exact h.imp_right fun h => by rw [← Char.ofNat_toNat c, h]
  next hself =>
  simp only [Bool.or_eq_true, beq_iff_eq, not_or] at hself
  split
  · next h => exact .letter (by simp [eq_of_beq h])
  next hline =>
  split
  · next h => exact .letter (by simp [eq_of_beq h])
  next hreturn =>
  split
  · next h => exact .letter (by simp [eq_of_beq h])
  split
  · next h =>
    refine .code (List.mem_cons_self ..) ?_
    simp only [Bool.or_eq_true, decide_eq_true_eq, beq_iff_eq] at h
    change c.toNat < 256
    omega
  split
  · refine .plain hself.1 ?_ ?_ ?_
    · rintro rfl
      exact hself.2 rfl
    · rintro rfl
      exact hline rfl
    · rintro rfl
      exact hreturn rfl
  split
  · next h => exact .code (List.mem_cons_self ..) h
  split
  · next h => exact .code (by simp) h
  · exact .code (by simp) hvalid

/-- Is it a quotation mark? -/
def isQuote (c : Char) : Bool := c.toNat == 39 || c == '"'

theorem eq_or_eq_of_isQuote (h : isQuote c = true) : c = Char.ofNat 39 ∨ c = '"' := by
  rw [isQuote, Bool.or_eq_true, beq_iff_eq, beq_iff_eq] at h
  exact h.imp_left fun h => by rw [← h, Char.ofNat_toNat]

theorem quotedInside_ordinary (hmark : c ≠ mark) (hslash : c ≠ '\\') (hline : c ≠ '\n') :
    quotedInside [mark] (c :: rest) = (quotedInside [mark] rest).map (c :: ·) := by
  rw [quotedInside]
  · rw [Text.startsWith, beq_eq_false_iff_ne.mpr hmark, Bool.false_and, if_neg Bool.false_ne_true,
      beq_eq_false_iff_ne.mpr hline]
    rfl
  · exact fun _ _ heq _ => hslash heq

theorem quotedInside_all (h : ∀ c ∈ cs, c ≠ mark ∧ c ≠ '\\' ∧ c ≠ '\n') :
    quotedInside [mark] (cs ++ rest) = (quotedInside [mark] rest).map (cs ++ ·) := by
  induction cs with
  | nil => exact (Option.map_id' ..).symm
  | cons c cs ih =>
    obtain ⟨⟨hmark, hslash, hline⟩, hcs⟩ := List.forall_mem_cons.mp h
    rw [List.cons_append, quotedInside_ordinary hmark hslash hline, ih hcs, Option.map_map]
    rfl

theorem quotedInside_escape (d : Char) :
    quotedInside [mark] ('\\' :: d :: rest) = (quotedInside [mark] rest).map ('\\' :: d :: ·) :=
  rfl

theorem ordinary_of_isHex (hmark : isQuote mark = true) (h : isHex c = true) :
    c ≠ mark ∧ c ≠ '\\' ∧ c ≠ '\n' := by
  refine ⟨?_, ?_, ?_⟩
  · rintro rfl
    rcases eq_or_eq_of_isQuote hmark with rfl | rfl <;> exact absurd h (by decide)
  · rintro rfl
    exact absurd h (by decide)
  · rintro rfl
    exact absurd h (by decide)

theorem Shows.quotedInside (h : Shows mark c piece) (hmark : isQuote mark = true) :
    Reader.quotedInside [mark] (piece ++ rest) =
      (Reader.quotedInside [mark] rest).map (piece ++ ·) := by
  cases h with
  | plain hc hslash hline => exact quotedInside_ordinary hc hslash hline
  | letter => exact quotedInside_escape _
  | self => exact quotedInside_escape _
  | code =>
    change Reader.quotedInside [mark] ('\\' :: _ :: (Text.hexDigits _ c.toNat ++ rest)) = _
    rw [quotedInside_escape, quotedInside_all fun d hd => ordinary_of_isHex hmark
      (isHex_of_mem_hexDigits hd), Option.map_map]
    rfl

theorem Shows.unescape (h : Shows mark c piece) (hmark : isQuote mark = true) :
    Reader.unescape false (fuel + 1) (piece ++ rest) =
      (Reader.unescape false fuel rest).map (c.toNat :: ·) := by
  cases h with
  | plain _ hslash =>
    rw [List.singleton_append, Reader.unescape]
    exact fun _ _ heq _ => hslash heq
  | letter hd =>
    simp only [List.mem_cons, Prod.mk.injEq, List.not_mem_nil, or_false] at hd
    rcases hd with ⟨rfl, hn⟩ | ⟨rfl, hn⟩ | ⟨rfl, hn⟩ <;> rw [hn] <;> rfl
  | self hc =>
    rcases hc with rfl | rfl
    · rcases eq_or_eq_of_isQuote hmark with rfl | rfl <;> rfl
    · rfl
  | code hkind hc =>
    simp only [List.mem_cons, Prod.mk.injEq, List.not_mem_nil, or_false] at hkind
    rcases hkind with ⟨rfl, rfl⟩ | ⟨rfl, rfl⟩ | ⟨rfl, rfl⟩
    all_goals
      conv_lhs => unfold Text.hexEscape Reader.unescape
      simp [hexCode?_hexDigits hc]

/-! ### A whole text -/

theorem Shows.length_pos (h : Shows mark c piece) : 0 < piece.length := by
  cases h <;> exact Nat.succ_pos _

/-- A piece does not begin with the quotation mark. -/
theorem Shows.head?_ne (h : Shows mark c piece) (hmark : isQuote mark = true) :
    piece.head? ≠ some mark := by
  have hslash : some '\\' ≠ some mark := by
    rintro ⟨⟩
    exact absurd hmark (by decide)
  cases h with
  | plain hc => exact fun heq => hc (Option.some_inj.mp heq)
  | letter => exact hslash
  | self => exact hslash
  | code => exact hslash

/-- What stands between the quotation marks. -/
def inside (mark : Char) (cs : List Char) : List Char := cs.flatMap (Text.displayChar mark)

/-- A displayed text has no carriage return in it. -/
theorem not_mem_inside (hmark : isQuote mark = true) (cs : List Char) :
    '\r' ∉ inside mark cs := by
  intro h
  obtain ⟨c, -, hc⟩ := List.mem_flatMap.mp h
  have hshows := shows_displayChar mark c
  generalize Text.displayChar mark c = piece at hc hshows
  cases hshows with
  | plain _ _ _ hreturn => exact hreturn (List.mem_singleton.mp hc).symm
  | letter hd =>
    simp only [List.mem_cons, Prod.mk.injEq, List.not_mem_nil, or_false] at hd
    rcases hd with ⟨rfl, -⟩ | ⟨rfl, -⟩ | ⟨rfl, -⟩ <;> exact absurd hc (by decide)
  | self hself =>
    rcases hself with rfl | rfl
    · rcases List.mem_pair.mp hc with hc | rfl
      · exact absurd hc (by decide)
      · exact absurd hmark (by decide)
    · exact absurd hc (by decide)
  | code hkind =>
    simp only [List.mem_cons, Prod.mk.injEq, List.not_mem_nil, or_false] at hkind
    rcases List.mem_cons.mp hc with hc | hc
    · exact absurd hc (by decide)
    rcases List.mem_cons.mp hc with rfl | hc
    · rcases hkind with ⟨hkind, -⟩ | ⟨hkind, -⟩ | ⟨hkind, -⟩ <;> exact absurd hkind (by decide)
    · exact absurd (isHex_of_mem_hexDigits hc) (by decide)

theorem quotedInside_inside (hmark : isQuote mark = true) :
    quotedInside [mark] (inside mark cs ++ mark :: rest) = some (inside mark cs) := by
  induction cs with
  | nil =>
    change quotedInside [mark] (mark :: rest) = some []
    rw [quotedInside]
    · simp [Text.startsWith]
    · rintro _ _ rfl _
      exact absurd hmark (by decide)
  | cons c cs ih =>
    rw [inside, List.flatMap_cons, List.append_assoc,
      (shows_displayChar mark c).quotedInside hmark]
    change (quotedInside [mark] (inside mark cs ++ mark :: rest)).map _ = _
    rw [ih]
    rfl

theorem unescape_inside (hmark : isQuote mark = true) (h : cs.length < fuel) :
    unescape false fuel (inside mark cs) = some (cs.map Char.toNat) := by
  induction cs generalizing fuel with
  | nil =>
    cases fuel with
    | zero => cases h
    | succ fuel => rfl
  | cons c cs ih =>
    cases fuel with
    | zero => cases h
    | succ fuel =>
      rw [inside, List.flatMap_cons, (shows_displayChar mark c).unescape hmark]
      change (unescape false fuel (inside mark cs)).map _ = _
      rw [ih (Nat.lt_of_succ_lt_succ h)]
      rfl

theorem length_le_inside (mark : Char) (cs : List Char) : cs.length ≤ (inside mark cs).length := by
  induction cs with
  | nil => exact Nat.le_refl 0
  | cons c cs ih =>
    have hpos := (shows_displayChar mark c).length_pos
    rw [inside, List.flatMap_cons, List.length_append, List.length_cons]
    change cs.length + 1 ≤ _ + (inside mark cs).length
    omega

theorem isQuote_quoteMark (codes : List Nat) : isQuote (Text.quoteMark codes) = true := by
  unfold Text.quoteMark
  split <;> rfl

/-- The mark before a text is a single one. -/
theorem markOf?_inside (hmark : isQuote mark = true)
    (hrest : ∀ c ∈ rest.head?, isQuote c = false) :
    markOf? (mark :: (inside mark cs ++ mark :: rest)) = some [mark] := by
  have hsingle : Text.startsWith (inside mark cs ++ mark :: rest) [mark, mark] = false := by
    cases cs with
    | nil =>
      change Text.startsWith (mark :: rest) [mark, mark] = false
      cases rest with
      | nil => simp [Text.startsWith]
      | cons d rest =>
        have hd : d ≠ mark := by
          rintro rfl
          exact Bool.false_ne_true ((hrest d rfl).symm.trans hmark)
        simp [Text.startsWith, hd]
    | cons c cs =>
      have hshows := shows_displayChar mark c
      have hhead := hshows.head?_ne hmark
      have hpos := hshows.length_pos
      rw [inside, List.flatMap_cons]
      generalize Text.displayChar mark c = piece at hhead hpos
      cases piece with
      | nil => cases hpos
      | cons d piece =>
        have hd : d ≠ mark := fun heq => hhead (congrArg some heq)
        rw [List.cons_append, List.cons_append, Text.startsWith, beq_eq_false_iff_ne.mpr hd]
        rfl
  refine (if_pos hmark).trans ?_
  rw [hsingle]
  rfl

theorem toList_display (s : String) : ∃ mark, isQuote mark = true ∧
    (Text.display s).toList = mark :: inside mark s.toList ++ [mark] := by
  refine ⟨_, isQuote_quoteMark ((Text.points s).map Text.Point.code), ?_⟩
  rw [Text.display, Text.displayPoints, String.toList_ofList, Text.points, List.flatMap_map]
  rfl

/-- A displayed text is read back, if no quotation mark follows it. -/
theorem quoted?_display (s : String) (hrest : ∀ c ∈ rest.head?, isQuote c = false) :
    quoted? ((Text.display s).toList ++ rest) = some ((Text.display s).toList.length, .str s) := by
  obtain ⟨mark, hmark, hdisplay⟩ := toList_display s
  have hletters : ((mark :: (inside mark s.toList ++ mark :: rest)).take 2).takeWhile
      (fun c => "rRbBuU".toList.contains c) = [] := by
    refine List.takeWhile_cons_of_neg ?_
    rcases eq_or_eq_of_isQuote hmark with rfl | rfl <;> decide
  have hcodes : (s.toList.map Char.toNat).all (fun n => n < 1114112) = true := by
    refine List.all_eq_true.mpr fun n hn => ?_
    obtain ⟨c, -, rfl⟩ := List.mem_map.mp hn
    have hc : c.toNat < 55296 ∨ 57343 < c.toNat ∧ c.toNat < 1114112 := c.valid
    exact decide_eq_true (by omega)
  have htext : String.ofList ((s.toList.map Char.toNat).map Char.ofNat) = s := by
    have hid : Char.ofNat ∘ Char.toNat = id := funext Char.ofNat_toNat
    rw [List.map_map, hid, List.map_id, String.ofList_toList]
  have hunescape := unescape_inside hmark (Nat.lt_succ_of_le (length_le_inside mark s.toList))
  have hshape : String.ofList (([] : List Char).map Char.toLower) = "" := rfl
  have hraw : ("" == "r" || "" == "rb" || "" == "br") = false := by decide
  have hbytes : ("" == "b" || "" == "rb" || "" == "br") = false := by decide
  rw [hdisplay, List.append_assoc, List.cons_append, List.singleton_append]
  unfold quoted?
  simp only [hletters, List.length_nil, List.drop_zero, markOf?_inside hmark hrest,
    List.length_singleton, List.drop_succ_cons, quotedInside_inside hmark, hshape, hraw, hbytes,
    Bool.false_eq_true, if_false, hunescape, hcodes, if_true, htext]
  have hlength : 0 + 2 * 1 + (inside mark s.toList).length =
      (mark :: inside mark s.toList ++ [mark]).length := by
    rw [List.length_append, List.length_cons, List.length_singleton]
    omega
  rw [if_neg (by decide), hlength]

end TypeProjection.Annotation.Reader
