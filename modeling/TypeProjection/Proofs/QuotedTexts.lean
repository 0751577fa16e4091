import Mathlib.Data.List.Forall2
import TypeProjection.Json.Reader
import TypeProjection.Proofs.CodePoints
import TypeProjection.Text.Quoted

/-!
# Quoted texts

A quoted text is a literal in printable ASCII. A code point of it stands for itself, or it is written
behind a backslash: with a letter, with the four digits of its code, or, beyond the basic plane, with
those of the two halves of its surrogate pair. So the halves of a pair next to each other are written
as the character that they make, and the literal reads back as the text with its pairs joined.
-/

namespace TypeProjection.Text

/-- The ways to write a code point between quotation marks. -/
inductive Escaped : Point → List Char → Prop where
  | plain {c : Char} (hlow : 32 ≤ c.toNat) (hhigh : c.toNat ≤ 126) (hquote : c ≠ '"')
      (hslash : c ≠ '\\') : Escaped (.char c) [c]
  | letter {c x : Char} (hx : Json.escapeLetter? x = some c) : Escaped (.char c) ['\\', x]
  | unit {p : Point} {digits : List Char} (hdigits : Json.codeUnit digits = some (p.code, [])) :
      Escaped p ('\\' :: 'u' :: digits)
  | pair {c : Char} {high low : Nat} {first second : List Char} (hbeyond : 65536 ≤ c.toNat)
      (hhigh : 55296 ≤ high ∧ high < 56320) (hlow : 56320 ≤ low ∧ low < 57344)
      (hcode : Json.pairCode high low = c.toNat) (hfirst : Json.codeUnit first = some (high, []))
      (hsecond : Json.codeUnit second = some (low, [])) :
      Escaped (.char c) ('\\' :: 'u' :: first ++ '\\' :: 'u' :: second)

/-- A text between quotation marks, each of its code points written in one of these ways. -/
def Quotes (ps : List Point) (literal : List Char) : Prop :=
  ∃ pieces, List.Forall₂ Escaped ps pieces ∧ literal = '"' :: pieces.flatten ++ ['"']

variable {c x : Char} {p q : Point} {ps done : List Point} {cs piece rest : List Char}
  {n fuel : Nat}

/-! ### Digits -/

theorem hexDigit_facts (h : n < 16) : hexValue (hexDigit n) = n ∧
    ((hexDigit n).isDigit || ('a' ≤ hexDigit n && hexDigit n ≤ 'f') ||
      ('A' ≤ hexDigit n && hexDigit n ≤ 'F')) = true := by
  have hall : ∀ n < 16, hexValue (hexDigit n) = n ∧
      ((hexDigit n).isDigit || ('a' ≤ hexDigit n && hexDigit n ≤ 'f') ||
        ('A' ≤ hexDigit n && hexDigit n ≤ 'F')) = true := by decide
  exact hall n h

/-- Four digits read back as the number that they write. -/
theorem codeUnit_hexDigits (h : n < 65536) :
    Json.codeUnit (hexDigits 4 n ++ rest) = some (n, rest) := by
  have hdigits : hexDigits 4 n = [hexDigit (n / 16 / 16 / 16 % 16), hexDigit (n / 16 / 16 % 16),
    hexDigit (n / 16 % 16), hexDigit (n % 16)] := rfl
  obtain ⟨ha, ha'⟩ := hexDigit_facts (n := n / 16 / 16 / 16 % 16) (by omega)
  obtain ⟨hb, hb'⟩ := hexDigit_facts (n := n / 16 / 16 % 16) (by omega)
  obtain ⟨hc, hc'⟩ := hexDigit_facts (n := n / 16 % 16) (by omega)
  obtain ⟨hd, hd'⟩ := hexDigit_facts (n := n % 16) (by omega)
  rw [hdigits, List.cons_append, List.cons_append, List.cons_append, List.cons_append,
    List.nil_append, Json.codeUnit]
  simp only [List.all_cons, List.all_nil, ha', hb', hc', hd', Bool.and_true, if_true,
    List.foldl_cons, List.foldl_nil, ha, hb, hc, hd]
  congr 2
  omega

/-- What is read as a number is four digits and what follows them. -/
theorem codeUnit_append (h : Json.codeUnit cs = some (n, [])) (rest : List Char) :
    Json.codeUnit (cs ++ rest) = some (n, rest) := by
  unfold Json.codeUnit at h
  split at h
  · next a b c d after =>
    split at h
    · next hall =>
      cases h
      rw [List.cons_append, List.cons_append, List.cons_append, List.cons_append, List.nil_append,
        Json.codeUnit, if_pos hall]
    · cases h
  · cases h

/-! ### Every code point is written in one of the ways -/

theorem codeUnit_digits (h : n < 65536) : Json.codeUnit (hexDigits 4 n) = some (n, []) := by
  have h : Json.codeUnit (hexDigits 4 n ++ []) = some (n, []) := codeUnit_hexDigits h
  rwa [List.append_nil] at h

theorem escaped_quotedChar (c : Char) : Escaped (.char c) (quotedChar c) := by
  have hchar {m : Nat} (h : c.toNat = m) : c = Char.ofNat m := by rw [← h, Char.ofNat_toNat]
  have hvalid : c.toNat < 55296 ∨ 57343 < c.toNat ∧ c.toNat < 1114112 := c.valid
  unfold quotedChar
  simp only [beq_iff_eq, Bool.and_eq_true, decide_eq_true_eq]
  split
  · next h => exact .letter (by rw [hchar h]; rfl)
  split
  · next h => exact .letter (by rw [hchar h]; rfl)
  split
  · next hquote hslash h =>
    refine .plain h.1 h.2 ?_ ?_
    · rintro rfl
      exact hquote rfl
    · rintro rfl
      exact hslash rfl
  split
  · next h => exact .letter (by rw [hchar h]; rfl)
  split
  · next h => exact .letter (by rw [hchar h]; rfl)
  split
  · next h => exact .letter (by rw [hchar h]; rfl)
  split
  · next h => exact .letter (by rw [hchar h]; rfl)
  split
  · next h => exact .letter (by rw [hchar h]; rfl)
  split
  · next h => exact .unit (codeUnit_digits h)
  · next h =>
    refine .pair (by omega) ?_ ?_ ?_ (codeUnit_digits (by omega)) (codeUnit_digits (by omega))
    · omega
    · omega
    · unfold Json.pairCode
      omega

theorem escaped_quotedPoint (p : Point) : Escaped p (quotedPoint p) := by
  cases p with
  | char c => exact escaped_quotedChar c
  | surrogate s =>
    have hbounds := s.bounds
    exact .unit (p := .surrogate s) (codeUnit_digits (by omega))

theorem quotes_quote (ps : List Point) : Quotes ps (quote ps).toList := by
  refine ⟨ps.map quotedPoint, ?_, ?_⟩
  · exact List.forall₂_map_right_iff.mpr (List.forall₂_same.mpr fun p _ => escaped_quotedPoint p)
  · rw [quote, String.toList_ofList, List.flatMap_def]

/-- The halves of a pair are written as the character that they make. -/
theorem quotedPoint_pairOf (hp : p.isHigh = true) (hq : q.isLow = true) :
    quotedPoint (.char (pairOf p q)) = quotedPoint p ++ quotedPoint q := by
  rw [Point.isHigh_iff] at hp
  rw [Point.isLow_iff] at hq
  have hcode : (pairOf p q).toNat = 65536 + (p.code - 55296) * 1024 + (q.code - 56320) := by
    have hvalid : Nat.isValidChar (65536 + (p.code - 55296) * 1024 + (q.code - 56320)) := by
      right
      omega
    rw [pairOf, Char.ofNat, dif_pos hvalid]
    rfl
  have hunit {r : Point} (h : 55296 ≤ r.code ∧ r.code < 57344) :
      quotedPoint r = unitEscape r.code := by
    cases r with
    | char c =>
      have hvalid : c.toNat < 55296 ∨ 57343 < c.toNat ∧ c.toNat < 1114112 := c.valid
      rw [Point.code] at h
      omega
    | surrogate s => rfl
  have hhigh : 55296 + ((pairOf p q).toNat - 65536) / 1024 = p.code := by omega
  have hlow : 56320 + ((pairOf p q).toNat - 65536) % 1024 = q.code := by omega
  have hbeyond {m : Nat} (hm : m < 65536) : (pairOf p q).toNat ≠ m := by omega
  have hlarge : ¬ (pairOf p q).toNat ≤ 126 := by omega
  have hbasic : ¬ (pairOf p q).toNat < 65536 := by omega
  rw [hunit (r := p) (by omega), hunit (r := q) (by omega)]
  show quotedChar (pairOf p q) = _
  unfold quotedChar
  simp only [beq_iff_eq, Bool.and_eq_true, decide_eq_true_eq, hlarge, and_false, hbasic, if_false,
    hbeyond (by decide : 34 < 65536), hbeyond (by decide : 92 < 65536),
    hbeyond (by decide : 10 < 65536), hbeyond (by decide : 13 < 65536),
    hbeyond (by decide : 9 < 65536), hbeyond (by decide : 12 < 65536),
    hbeyond (by decide : 8 < 65536), hhigh, hlow]

/-- A text is written like the text with its pairs joined. -/
theorem quote_joinPairs (ps : List Point) : quote (joinPairs ps) = quote ps := by
  have hpieces : (joinPairs ps).flatMap quotedPoint = ps.flatMap quotedPoint := by
    induction ps using joinPairs.induct with
    | case1 p q rest hpair ih =>
      rw [joinPairs, if_pos hpair, List.flatMap_cons, ih, List.flatMap_cons, List.flatMap_cons,
        ← List.append_assoc]
      rw [Bool.and_eq_true] at hpair
      rw [quotedPoint_pairOf hpair.1 hpair.2]
    | case2 p q rest hpair ih =>
      rw [joinPairs, if_neg hpair, List.flatMap_cons, ih]
      rfl
    | case3 ps hshort =>
      rw [joinPairs]
      exact hshort
  rw [quote, quote, hpieces]

/-! ### Printable characters -/

theorem printable_of_codeUnit (h : Json.codeUnit cs = some (n, [])) :
    ∀ x ∈ cs, 32 ≤ x.toNat ∧ x.toNat ≤ 126 := by
  have hdigit : ∀ x : Char, (x.isDigit || ('a' ≤ x && x ≤ 'f') || ('A' ≤ x && x ≤ 'F')) = true →
      32 ≤ x.toNat ∧ x.toNat ≤ 126 := by
    intro x hx
    simp only [Char.isDigit, Char.le_def, UInt32.le_iff_toNat_le, Bool.or_eq_true, Bool.and_eq_true,
      decide_eq_true_eq] at hx
    have hlow : '0'.val.toNat = 48 ∧ 'a'.val.toNat = 97 ∧ 'A'.val.toNat = 65 := by decide
    have hhigh : '9'.val.toNat = 57 ∧ 'f'.val.toNat = 102 ∧ 'F'.val.toNat = 70 := by decide
    show 32 ≤ x.val.toNat ∧ x.val.toNat ≤ 126
    omega
  unfold Json.codeUnit at h
  split at h
  · split at h
    · next hall =>
      cases h
      exact fun x hx => hdigit x (List.all_eq_true.mp hall x hx)
    · cases h
  · cases h

theorem printable_of_escapeLetter (h : Json.escapeLetter? x = some c) :
    32 ≤ x.toNat ∧ x.toNat ≤ 126 := by
  unfold Json.escapeLetter? at h
  split at h
  all_goals first | exact ⟨by decide, by decide⟩ | cases h

theorem Escaped.printable (h : Escaped p piece) : ∀ x ∈ piece, 32 ≤ x.toNat ∧ x.toNat ≤ 126 := by
  have hslash : 32 ≤ '\\'.toNat ∧ '\\'.toNat ≤ 126 := by decide
  have hunit {n : Nat} {digits : List Char} (h : Json.codeUnit digits = some (n, [])) :
      ∀ x ∈ '\\' :: 'u' :: digits, 32 ≤ x.toNat ∧ x.toNat ≤ 126 :=
    List.forall_mem_cons.mpr
      ⟨hslash, List.forall_mem_cons.mpr ⟨by decide, printable_of_codeUnit h⟩⟩
  cases h with
  | plain hlow hhigh => exact List.forall_mem_singleton.mpr ⟨hlow, hhigh⟩
  | letter hx =>
    exact List.forall_mem_cons.mpr
      ⟨hslash, List.forall_mem_singleton.mpr (printable_of_escapeLetter hx)⟩
  | unit hdigits => exact hunit hdigits
  | pair _ _ _ _ hfirst hsecond =>
    exact List.forall_mem_append.mpr ⟨hunit hfirst, hunit hsecond⟩

/-! ### Reading back -/

/-- A text that starts with the escape of a low half. -/
def StartsLow (cs : List Char) : Prop :=
  ∃ digits after low, cs = '\\' :: 'u' :: digits ∧ Json.codeUnit digits = some (low, after) ∧
    56320 ≤ low ∧ low < 57344

/-- What writes a code point starts with the escape of a low half only if it is one. -/
theorem Escaped.not_startsLow (h : Escaped p piece) (hp : p.isLow = false) (rest : List Char) :
    ¬ StartsLow (piece ++ rest) := by
  rintro ⟨digits, after, low, hpiece, hdigits, hlow⟩
  rw [Bool.eq_false_iff, ne_eq, Point.isLow_iff] at hp
  cases h with
  | plain _ _ _ hslash => exact hslash (List.cons.inj hpiece).1
  | letter hx =>
    obtain ⟨-, hpiece⟩ := List.cons.inj hpiece
    obtain ⟨rfl, -⟩ := List.cons.inj hpiece
    cases hx
  | unit hunit =>
    rw [List.cons_append, List.cons_append, List.cons.injEq, List.cons.injEq] at hpiece
    rw [← hpiece.2.2, codeUnit_append hunit] at hdigits
    cases hdigits
    exact hp hlow
  | pair _ hhigh _ _ hfirst _ =>
    rw [List.append_assoc, List.cons_append, List.cons_append, List.cons.injEq,
      List.cons.injEq] at hpiece
    rw [← hpiece.2.2, codeUnit_append hfirst] at hdigits
    cases hdigits
    omega

theorem escapedUnit_unit (hdigits : Json.codeUnit cs = some (p.code, [])) (rest : List Char)
    (hpaired : ¬ (p.isHigh = true ∧ StartsLow rest)) :
    Json.escapedUnit (cs ++ rest) = some (p, rest) := by
  rw [Point.isHigh_iff] at hpaired
  unfold Json.escapedUnit
  rw [codeUnit_append hdigits]
  simp only [bind, Option.bind, Bool.and_eq_true, decide_eq_true_eq, Point.ofCode_code]
  split
  · next hhigh =>
    split
    · next digits =>
      split
      · next low after hlow =>
        rw [if_neg fun h => hpaired ⟨hhigh, digits, after, low, rfl, hlow, h⟩]
      · rfl
    · rfl
  · rfl

theorem escapedUnit_pair {high low : Nat} {first second : List Char}
    (hhigh : 55296 ≤ high ∧ high < 56320) (hlow : 56320 ≤ low ∧ low < 57344)
    (hcode : Json.pairCode high low = c.toNat) (hfirst : Json.codeUnit first = some (high, []))
    (hsecond : Json.codeUnit second = some (low, [])) (rest : List Char) :
    Json.escapedUnit (first ++ '\\' :: 'u' :: (second ++ rest)) = some (.char c, rest) := by
  unfold Json.escapedUnit
  rw [codeUnit_append hfirst]
  simp only [bind, Option.bind, Bool.and_eq_true, decide_eq_true_eq, hhigh, hlow, and_self, if_true,
    codeUnit_append hsecond, hcode, Char.ofNat_toNat]

/-- One step of the reader takes what writes one code point, unless the other half of a pair
follows. -/
theorem readText_escaped (h : Escaped p piece) (fuel : Nat) (done : List Point) (rest : List Char)
    (hpaired : ¬ (p.isHigh = true ∧ StartsLow rest)) :
    Json.readText (fuel + 1) done (piece ++ rest) = Json.readText fuel (p :: done) rest := by
  cases h with
  | @plain c hlow _ hquote hslash =>
    have hspace : ¬ c.toNat < 32 := by omega
    rw [List.singleton_append, Json.readText.eq_def]
    simp [hslash, hspace]
  | @letter _ x hx =>
    have hu : x ≠ 'u' := by
      rintro rfl
      cases hx
    rw [List.cons_append, List.singleton_append, Json.readText.eq_def]
    simp [hx]
  | unit hdigits =>
    rw [List.cons_append, List.cons_append, Json.readText, escapedUnit_unit hdigits rest hpaired]
  | pair _ hhigh hlow hcode hfirst hsecond =>
    rw [List.append_assoc, List.cons_append, List.cons_append, List.cons_append, List.cons_append,
      Json.readText, escapedUnit_pair hhigh hlow hcode hfirst hsecond]

/-- What follows a high half in a text without pairs does not start with a low one. -/
theorem not_startsLow_flatten {pieces : List (List Char)} (h : List.Forall₂ Escaped ps pieces)
    (hfirst : ∀ q ∈ ps.head?, q.isLow = false) (rest : List Char) :
    ¬ StartsLow (pieces.flatten ++ '"' :: rest) := by
  cases h with
  | nil =>
    rintro ⟨_, _, _, hmark, -⟩
    exact absurd (List.cons.inj hmark).1 (by decide)
  | cons hq _ =>
    rw [List.flatten_cons, List.append_assoc]
    exact hq.not_startsLow (hfirst _ rfl) _

/-- The reader takes the code points one by one, up to the closing quotation mark. -/
theorem readText_pieces {pieces : List (List Char)} (h : List.Forall₂ Escaped ps pieces)
    (hpairs : Unpaired ps) (hfuel : ps.length < fuel) (done : List Point) (rest : List Char) :
    Json.readText fuel done (pieces.flatten ++ '"' :: rest) = some (done.reverse ++ ps, rest) := by
  induction h generalizing fuel done with
  | nil =>
    obtain ⟨fuel, rfl⟩ := Nat.exists_eq_succ_of_ne_zero (Nat.ne_of_gt hfuel)
    rw [List.flatten_nil, List.nil_append, Json.readText, List.append_nil]
  | cons hp hps ih =>
    obtain ⟨fuel, rfl⟩ := Nat.exists_eq_succ_of_ne_zero (Nat.ne_of_gt (Nat.zero_lt_of_lt hfuel))
    obtain ⟨hfirst, hpairs⟩ := List.isChain_cons.mp hpairs
    rw [List.flatten_cons, List.append_assoc, readText_escaped hp,
      ih hpairs (Nat.lt_of_succ_lt_succ hfuel), List.reverse_cons, List.append_assoc,
      List.singleton_append]
    rintro ⟨hhigh, hlow⟩
    exact not_startsLow_flatten hps (fun q hq =>
      Bool.eq_false_iff.mpr fun hlow => hfirst q hq ⟨hhigh, hlow⟩) rest hlow

theorem Escaped.length_pos (h : Escaped p piece) : 0 < piece.length := by
  cases h <;> exact Nat.succ_pos _

theorem length_le_flatten {pieces : List (List Char)} (h : List.Forall₂ Escaped ps pieces) :
    ps.length ≤ pieces.flatten.length := by
  induction h with
  | nil => exact Nat.le_refl _
  | cons hc _ ih =>
    rw [List.length_cons, List.flatten_cons, List.length_append]
    have hpos := hc.length_pos
    omega

theorem printable_flatten {pieces : List (List Char)} (h : List.Forall₂ Escaped ps pieces) :
    ∀ x ∈ pieces.flatten, 32 ≤ x.toNat ∧ x.toNat ≤ 126 := by
  induction h with
  | nil => exact List.forall_mem_nil _
  | cons hc _ ih =>
    rw [List.flatten_cons]
    exact List.forall_mem_append.mpr ⟨hc.printable, ih⟩

/-- Whatever quotes a text is printable. -/
theorem Quotes.printable {literal : List Char} (h : Quotes ps literal) :
    ∀ x ∈ literal, 32 ≤ x.toNat ∧ x.toNat ≤ 126 := by
  obtain ⟨pieces, hpieces, rfl⟩ := h
  have hmark : 32 ≤ '"'.toNat ∧ '"'.toNat ≤ 126 := by decide
  exact List.forall_mem_append.mpr ⟨List.forall_mem_cons.mpr ⟨hmark, printable_flatten hpieces⟩,
    List.forall_mem_singleton.mpr hmark⟩

/-- Whatever quotes a text without pairs is read back as the text. -/
theorem Quotes.parse {literal : String} (h : Quotes ps literal.toList) (hpairs : Unpaired ps) :
    Json.parse literal = some (.ofPoints ps) := by
  obtain ⟨pieces, hpieces, hliteral⟩ := h
  have hskip : Json.skipSpace literal.toList = literal.toList := by
    rw [hliteral]
    rfl
  have hlength := length_le_flatten hpieces
  have hvalue (fuel : Nat) :
      Json.readValue (fuel + 1) literal.toList = some (.ofPoints ps, []) := by
    rw [hliteral, List.cons_append, Json.readValue,
      readText_pieces hpieces hpairs (by rw [List.length_append]; omega), List.reverse_nil,
      List.nil_append]
    rfl
  simp only [Json.parse, hskip, hvalue]
  rfl

/-- What is written for a text reads back as the text with its pairs joined. -/
theorem parse_quote (ps : List Point) : Json.parse (quote ps) = some (.ofPoints (joinPairs ps)) := by
  rw [← quote_joinPairs]
  exact (quotes_quote _).parse (unpaired_joinPairs ps)

theorem ofPoints_points (s : String) : Json.ofPoints (points s) = .str s := by
  rw [Json.ofPoints, ofPoints?_points]

theorem ofPoints_injective : Function.Injective Json.ofPoints := by
  intro ps qs h
  unfold Json.ofPoints at h
  split at h
  · next s hs =>
    split at h
    · next t ht =>
      cases h
      rw [ofPoints?_eq_some.mp hs, ofPoints?_eq_some.mp ht]
    · cases h
  · split at h
    · cases h
    · cases h
      rfl

end TypeProjection.Text
