import TypeProjection.Proofs.DisplayedTexts

/-!
# Texts as tokens

What the reader makes of the smallest pieces of a text, if they stand as the writer puts them.
-/

namespace TypeProjection.Annotation.Reader

variable {c : Char} {w cs cs' rest : List Char} {ts ts' : List Token} {fuel depth : Nat}

/-! ### What a piece of text is not -/

/-- The letters that can stand before a quotation mark. -/
def isPrefixLetter (c : Char) : Bool := "rRbBuU".toList.contains c

theorem quoted?_eq_none {n : Nat} (hn : ((cs.take 2).takeWhile isPrefixLetter).length = n)
    (h : ∀ c ∈ (cs.drop n).head?, isQuote c = false) : quoted? cs = none := by
  have hmark : markOf? (cs.drop n) = none := by
    unfold markOf?
    split
    · next c rest hdrop =>
      rw [hdrop] at h
      exact if_neg (Bool.eq_false_iff.mp (h c rfl))
    · rfl
  have hletters : (fun c => "rRbBuU".toList.contains c) = isPrefixLetter := rfl
  unfold quoted?
  simp only [hletters, hn, hmark]

theorem digitsAt_eq_zero {isDigit : Char → Bool} (h : ∀ c ∈ cs.head?, isDigit c = false ∧ c ≠ '_') :
    digitsAt isDigit cs = (0, []) := by
  cases cs with
  | nil => rfl
  | cons c rest =>
    obtain ⟨hdigit, hc⟩ := h c rfl
    unfold digitsAt
    rw [hdigit, if_neg Bool.false_ne_true, if_neg (by simpa using hc)]

theorem number?_eq_none (h : c.isDigit = false) (hc : c ≠ '_')
    (hpoint : c = '.' → ∀ d ∈ rest.head?, d.isDigit = false) : number? (c :: rest) = none := by
  have hmarked : markedInteger? (c :: rest) = none := by
    unfold markedInteger?
    split
    · next heq =>
      cases heq
      exact absurd h (by decide)
    · rfl
  have hdecimal : decimal? (c :: rest) = none := by
    unfold decimal?
    split
    next whole ds hwhole =>
    obtain rfl : whole = 0 := by
      split at hwhole
      · cases hwhole
        rfl
      · rw [digitsAt_eq_zero fun _ hd => Option.some_inj.mp hd ▸ ⟨h, hc⟩] at hwhole
        cases hwhole
        rfl
    dsimp only
    split
    · next more hmore =>
      obtain ⟨rfl, rfl⟩ := List.cons.inj hmore
      split
      · rfl
      · next hunderscore =>
        rw [digitsAt_eq_zero]
        · rfl
        · intro d hd
          refine ⟨hpoint rfl d hd, ?_⟩
          rintro rfl
          obtain ⟨more, hmore⟩ := List.head?_eq_some_iff.mp hd
          exact hunderscore _ hmore
    · rfl
  unfold number?
  rw [hmarked, hdecimal]
  rfl

/-- The blanks and other characters that the reader looks for before a token. -/
def isSkipped (c : Char) : Bool :=
  c == ' ' || c == '\t' || c == '\x0c' || c == '\\' || c == '#' || c == '\n'

/-! ### One token -/

section Steps

variable (h : isSkipped c = false)

include h

theorem tokens_literal {n : Nat} {e : Expr} (hquoted : quoted? (c :: rest) = some (n, e)) :
    tokens? (fuel + 1) depth (c :: rest) =
      (tokens? fuel depth (rest.drop (n - 1))).map (.literal e :: ·) := by
  simp only [isSkipped, Bool.or_eq_false_iff] at h
  conv_lhs => unfold tokens?
  simp only [h, Bool.or_false, Bool.false_eq_true, if_false, hquoted]

theorem tokens_number {n : Nat} {e : Expr} (hquoted : quoted? (c :: rest) = none)
    (hstart : Text.isIdentifierStart c = false) (hnumber : number? (c :: rest) = some (n, e)) :
    tokens? (fuel + 1) depth (c :: rest) =
      (tokens? fuel depth (rest.drop (n - 1))).map (.literal e :: ·) := by
  simp only [isSkipped, Bool.or_eq_false_iff] at h
  conv_lhs => unfold tokens?
  simp only [h, Bool.or_false, Bool.false_eq_true, if_false, hquoted, hstart, hnumber]

theorem tokens_op {o : String} (hquoted : quoted? (c :: rest) = none)
    (hstart : Text.isIdentifierStart c = false) (hnumber : number? (c :: rest) = none)
    (hop : operators.find? (fun o => Text.startsWith (c :: rest) o.toList) = some o) :
    tokens? (fuel + 1) depth (c :: rest) =
      (tokens? fuel (depthAfter depth o) (rest.drop (o.length - 1))).map (.op o :: ·) := by
  simp only [isSkipped, Bool.or_eq_false_iff] at h
  conv_lhs => unfold tokens?
  simp only [h, Bool.or_false, Bool.false_eq_true, if_false, hquoted, hstart, hnumber, hop]

/-- The token of a word. -/
def wordToken (word : String) : Token :=
  if keywords.contains word then .keyword word else .name (Text.normalForm word)

theorem tokens_identifier (hquoted : quoted? (c :: rest) = none)
    (hstart : Text.isIdentifierStart c = true)
    (hword : (c :: rest).takeWhile Text.isIdentifierRest = w) :
    tokens? (fuel + 1) depth (c :: rest) =
      (tokens? fuel depth (rest.drop (w.length - 1))).map (wordToken (String.ofList w) :: ·) := by
  simp only [isSkipped, Bool.or_eq_false_iff] at h
  conv_lhs => unfold tokens?
  simp only [h, Bool.or_false, Bool.false_eq_true, if_false, hquoted, hstart, if_true, hword]
  rfl

end Steps

/-! ### Pieces of a text -/

/-- With what may follow them, the characters read as the tokens. -/
def Lexes (A : List Char → Prop) (depth : Nat) (cs : List Char) (ts : List Token) (depth' : Nat) :
    Prop :=
  ∃ k ≤ cs.length, ∀ fuel rest, A rest →
    tokens? (fuel + k) depth (cs ++ rest) = (tokens? fuel depth' rest).map (ts ++ ·)

section Pieces

variable {A B : List Char → Prop} {depth' depth'' : Nat}

theorem Lexes.append (h : Lexes A depth cs ts depth') (h' : Lexes B depth' cs' ts' depth'')
    (hA : ∀ rest, B rest → A (cs' ++ rest)) : Lexes B depth (cs ++ cs') (ts ++ ts') depth'' := by
  obtain ⟨k, hk, h⟩ := h
  obtain ⟨k', hk', h'⟩ := h'
  refine ⟨k' + k, by rw [List.length_append]; omega, fun fuel rest hrest => ?_⟩
  rw [← Nat.add_assoc, List.append_assoc, h _ _ (hA rest hrest), h' _ _ hrest, Option.map_map]
  congr 1
  funext more
  exact (List.append_assoc ..).symm

theorem Lexes.mono (h : Lexes A depth cs ts depth') (hA : ∀ rest, B rest → A rest) :
    Lexes B depth cs ts depth' := by
  obtain ⟨k, hk, h⟩ := h
  exact ⟨k, hk, fun fuel rest hrest => h fuel rest (hA rest hrest)⟩

/-- A piece that is read in one step. -/
theorem lexes_one {ts : List Token} (hne : cs ≠ [])
    (h : ∀ fuel rest, A rest →
      tokens? (fuel + 1) depth (cs ++ rest) = (tokens? fuel depth' rest).map (ts ++ ·)) :
    Lexes A depth cs ts depth' :=
  ⟨1, List.length_pos_iff.mpr hne, h⟩

theorem lexes_space : Lexes A depth [' '] [] depth :=
  lexes_one (List.cons_ne_nil _ _) fun fuel rest _ => by
    change tokens? fuel depth rest = _
    exact (Option.map_id' ..).symm

/-- The marks that are operators by themselves, whatever follows. -/
def marks : List (Char × String) :=
  [('(', "("), (')', ")"), ('[', "["), (']', "]"), (',', ","), ('|', "|"), ('-', "-"), ('+', "+"),
    ('~', "~")]

theorem lexes_mark {o : String} (h : (c, o) ∈ marks) :
    Lexes A depth [c] [.op o] (depthAfter depth o) := by
  refine lexes_one (List.cons_ne_nil _ _) fun fuel rest _ => ?_
  simp only [marks, List.mem_cons, Prod.mk.injEq, List.not_mem_nil, or_false] at h
  have hstep : ∀ {c : Char} {o : String}, isSkipped c = false → isPrefixLetter c = false →
      isQuote c = false → Text.isIdentifierStart c = false → c.isDigit = false → c ≠ '_' →
      c ≠ '.' → o.length = 1 →
      operators.find? (fun o => Text.startsWith (c :: rest) o.toList) = some o →
      tokens? (fuel + 1) depth (c :: rest) =
        (tokens? fuel (depthAfter depth o) rest).map (.op o :: ·) := by
    intro c o hskipped hprefix hquote hstart hdigit hunderscore hpoint hlength hop
    have hquoted : quoted? (c :: rest) = none := by
      refine quoted?_eq_none (n := 0) ?_ ?_
      · rw [List.take_succ_cons, List.takeWhile_cons_of_neg (Bool.eq_false_iff.mp hprefix)]
        rfl
      · exact fun d hd => Option.some_inj.mp hd ▸ hquote
    rw [tokens_op hskipped hquoted hstart
      (number?_eq_none hdigit hunderscore fun h => (hpoint h).elim) hop, hlength]
    rfl
  rcases h with ⟨rfl, rfl⟩ | ⟨rfl, rfl⟩ | ⟨rfl, rfl⟩ | ⟨rfl, rfl⟩ | ⟨rfl, rfl⟩ | ⟨rfl, rfl⟩ |
      ⟨rfl, rfl⟩ | ⟨rfl, rfl⟩ | ⟨rfl, rfl⟩ <;>
    exact hstep rfl rfl rfl rfl rfl (by decide) (by decide) rfl
      (by simp [operators, Text.startsWith])

theorem of_isDigit {p : Char → Bool} (h : c.isDigit = true)
    (hp : ['0', '1', '2', '3', '4', '5', '6', '7', '8', '9'].all p = true) : p c = true := by
  have hbounds : 48 ≤ c.toNat ∧ c.toNat ≤ 57 := by
    simpa [Char.isDigit, UInt32.le_iff_toNat_le] using h
  have hall : ∀ n < 58, 48 ≤ n →
      Char.ofNat n ∈ ['0', '1', '2', '3', '4', '5', '6', '7', '8', '9'] := by decide
  have hmem := hall c.toNat (by omega) hbounds.1
  rw [Char.ofNat_toNat] at hmem
  exact List.all_eq_true.mp hp c hmem

theorem not_isDigit_of_isIdentifierStart (h : Text.isIdentifierStart c = true) :
    c.isDigit = false := by
  rw [Bool.eq_false_iff]
  intro hdigit
  have hstart := of_isDigit (p := fun c => !Text.isIdentifierStart c) hdigit (by decide)
  rw [h] at hstart
  cases hstart

/-- A point before a member. -/
theorem lexes_point :
    Lexes (fun rest => ∀ c ∈ rest.head?, Text.isIdentifierStart c = true) depth ['.'] [.op "."]
      depth := by
  refine lexes_one (List.cons_ne_nil _ _) fun fuel rest hrest => ?_
  have hquoted : quoted? ('.' :: rest) = none :=
    quoted?_eq_none (n := 0) rfl fun d hd => Option.some_inj.mp hd ▸ rfl
  have hop : operators.find? (fun o => Text.startsWith ('.' :: rest) o.toList) = some "." := by
    have hpoint : rest.head? ≠ some '.' := fun h => absurd (hrest _ h) (by decide)
    cases rest <;> simp_all [operators, Text.startsWith]
  have hnumber : number? ('.' :: rest) = none := number?_eq_none rfl (by decide)
    fun _ d hd => not_isDigit_of_isIdentifierStart (hrest d hd)
  exact tokens_op rfl hquoted rfl hnumber hop

/-- What stands before the value of a named argument. -/
theorem lexes_equals :
    Lexes (fun rest => ∀ c ∈ rest.head?, c ≠ '=') depth ['='] [.op "="] depth := by
  refine lexes_one (List.cons_ne_nil _ _) fun fuel rest hrest => ?_
  have hquoted : quoted? ('=' :: rest) = none :=
    quoted?_eq_none (n := 0) rfl fun d hd => Option.some_inj.mp hd ▸ rfl
  have hop : operators.find? (fun o => Text.startsWith ('=' :: rest) o.toList) = some "=" := by
    cases rest <;> simp_all [operators, Text.startsWith]
  have hnumber : number? ('=' :: rest) = none :=
    number?_eq_none rfl (by decide) fun h => absurd h (by decide)
  exact tokens_op rfl hquoted rfl hnumber hop

theorem lexes_dots : Lexes A depth ['.', '.', '.'] [.op "..."] depth := by
  refine lexes_one (List.cons_ne_nil _ _) fun fuel rest _ => ?_
  have hquoted : quoted? ('.' :: '.' :: '.' :: rest) = none :=
    quoted?_eq_none (n := 0) rfl fun d hd => Option.some_inj.mp hd ▸ rfl
  have hop : operators.find? (fun o => Text.startsWith ('.' :: '.' :: '.' :: rest) o.toList) =
      some "..." := by
    simp [operators, Text.startsWith]
  exact tokens_op rfl hquoted rfl
    (number?_eq_none rfl (by decide) fun _ d hd => Option.some_inj.mp hd ▸ rfl) hop

/-- What may follow an expression in a text: nothing, or one of a few characters. A point is among
them unless a number comes before it. -/
def Ends (point : Bool) (rest : List Char) : Prop :=
  ∀ c ∈ rest.head?, c ∈ [' ', ',', ']', ')', '[', '(', '='] ∨ point = true ∧ c = '.'

theorem Ends.head {point : Bool} {p : Char → Bool} (h : Ends point rest)
    (hp : [' ', ',', ']', ')', '[', '(', '=', '.'].all p = true) :
    ∀ c ∈ rest.head?, p c = true := by
  intro c hc
  refine List.all_eq_true.mp hp c ?_
  rcases h c hc with h | ⟨-, rfl⟩
  · exact List.mem_append_left ['.'] h
  · decide

theorem not_isSkipped_of_isIdentifierStart (h : Text.isIdentifierStart c = true) :
    isSkipped c = false := by
  rw [Bool.eq_false_iff]
  intro hskipped
  simp only [isSkipped, Bool.or_eq_true, beq_iff_eq] at hskipped
  rcases hskipped with ((((rfl | rfl) | rfl) | rfl) | rfl) | rfl <;> exact absurd h (by decide)

theorem not_isQuote_of_isIdentifierRest (h : Text.isIdentifierRest c = true) :
    isQuote c = false := by
  rw [Bool.eq_false_iff]
  intro hquote
  rcases eq_or_eq_of_isQuote hquote with rfl | rfl <;> exact absurd h (by decide)

/-- The letters before a quotation mark do not reach behind a word. -/
theorem length_letters_le (hw : w ≠ []) (hrest : Ends true rest) :
    (((w ++ rest).take 2).takeWhile isPrefixLetter).length ≤ w.length := by
  have htake : (((w ++ rest).take 2).takeWhile isPrefixLetter).length ≤ 2 :=
    Nat.le_trans (List.takeWhile_sublist _).length_le (List.length_take_le ..)
  rcases w with _ | ⟨c, _ | ⟨d, cs⟩⟩
  · exact (hw rfl).elim
  · have hstop : (rest.take 1).takeWhile isPrefixLetter = [] := by
      have hhead := hrest.head (p := fun c => !isPrefixLetter c) (by decide)
      cases rest with
      | nil => rfl
      | cons d rest =>
        exact List.takeWhile_cons_of_neg (by simpa using hhead d rfl)
    change ((c :: rest.take 1).takeWhile isPrefixLetter).length ≤ 1
    rw [List.takeWhile_cons, hstop]
    split <;> simp
  · simp only [List.length_cons]
    omega

/-- A word is read as its token. -/
theorem lexes_word (hw : Text.isIdentifier w = true) (hall : w.all Text.isIdentifierRest = true) :
    Lexes (Ends true) depth w [wordToken (String.ofList w)] depth := by
  cases w with
  | nil => cases hw
  | cons c cs =>
    have hstart : Text.isIdentifierStart c = true := (Bool.and_eq_true_iff.mp hw).1
    refine lexes_one (List.cons_ne_nil _ _) fun fuel rest hrest => ?_
    have hword : (c :: cs ++ rest).takeWhile Text.isIdentifierRest = c :: cs := by
      have hstop : rest.takeWhile Text.isIdentifierRest = [] := by
        have hhead := hrest.head (p := fun c => !Text.isIdentifierRest c) (by decide)
        cases rest with
        | nil => rfl
        | cons d rest =>
          exact List.takeWhile_cons_of_neg (by simpa using hhead d rfl)
      rw [List.takeWhile_append_of_pos (List.all_eq_true.mp hall), hstop, List.append_nil]
    have hquoted : quoted? (c :: cs ++ rest) = none := by
      refine quoted?_eq_none rfl fun d hd => ?_
      have hlength := length_letters_le (w := c :: cs) (List.cons_ne_nil _ _) hrest
      rw [List.drop_append_of_le_length hlength, List.head?_append] at hd
      cases hlater : ((c :: cs).drop
          (((c :: cs ++ rest).take 2).takeWhile isPrefixLetter).length).head? with
      | none =>
        rw [hlater] at hd
        exact Bool.not_eq_true' _ ▸ hrest.head (p := fun c => !isQuote c) (by decide) d hd
      | some d' =>
        rw [hlater] at hd
        obtain rfl : d' = d := Option.some_inj.mp hd
        exact not_isQuote_of_isIdentifierRest
          (List.all_eq_true.mp hall d' (List.mem_of_mem_drop (List.mem_of_head? hlater)))
    have hstep : tokens? (fuel + 1) depth (c :: (cs ++ rest)) = _ :=
      tokens_identifier (not_isSkipped_of_isIdentifierStart hstart) hquoted hstart hword
    rw [List.length_cons, Nat.add_sub_cancel, List.drop_left] at hstep
    exact hstep

/-- A displayed text is read as it was. -/
theorem lexes_text (s : String) :
    Lexes (Ends true) depth (Text.display s).toList [.literal (.str s)] depth := by
  obtain ⟨mark, hmark, hdisplay⟩ := toList_display s
  rw [hdisplay]
  refine lexes_one (List.cons_ne_nil _ _) fun fuel rest hrest => ?_
  have hquoted : quoted? ((Text.display s).toList ++ rest) = _ := quoted?_display s
    fun c hc => Bool.not_eq_true' _ ▸ hrest.head (p := fun c => !isQuote c) (by decide) c hc
  rw [hdisplay] at hquoted
  have hskipped : isSkipped mark = false := by
    rcases eq_or_eq_of_isQuote hmark with rfl | rfl <;> decide
  have hstep : tokens? (fuel + 1) depth (mark :: (inside mark s.toList ++ [mark] ++ rest)) = _ :=
    tokens_literal hskipped hquoted
  have hlength : (mark :: inside mark s.toList ++ [mark]).length - 1 =
      (inside mark s.toList ++ [mark]).length := rfl
  rw [hlength, List.drop_left] at hstep
  exact hstep

/-! ### Numbers -/

theorem hexValue_digitChar (h : n < 10) : Text.hexValue (Nat.digitChar n) = n := by
  have hall : ∀ n < 10, Text.hexValue (Nat.digitChar n) = n := by decide
  exact hall n h

theorem valueIn_toDigits (n : Nat) : valueIn 10 (Nat.toDigits 10 n) = n := by
  induction n using Nat.strongRecOn with
  | ind n ih =>
    rcases Nat.lt_or_ge n 10 with hn | hn
    · rw [Nat.toDigits_of_lt_base hn]
      exact (Nat.zero_add _).trans (hexValue_digitChar hn)
    · rw [Nat.toDigits_of_base_le (by decide) hn, valueIn_append_singleton, ih _ (by omega),
        hexValue_digitChar (Nat.mod_lt n (by decide))]
      omega

/-- Only zero is written with a zero first. -/
theorem head?_toDigits (h : (Nat.toDigits 10 n).head? = some '0') : n = 0 := by
  induction n using Nat.strongRecOn with
  | ind n ih =>
    rcases Nat.lt_or_ge n 10 with hn | hn
    · rw [Nat.toDigits_of_lt_base hn, List.head?_cons, Option.some_inj] at h
      rw [← hexValue_digitChar hn, h]
      rfl
    · rw [Nat.toDigits_of_base_le (by decide) hn,
        List.head?_append_of_ne_nil _ Nat.toDigits_ne_nil] at h
      have hzero := ih _ (by omega) h
      omega

theorem digitsAt_digits (hcs : ∀ c ∈ cs, c.isDigit = true)
    (hrest : digitsAt Char.isDigit rest = (0, [])) :
    digitsAt Char.isDigit (cs ++ rest) = (cs.length, cs) := by
  induction cs with
  | nil => exact hrest
  | cons c cs ih =>
    obtain ⟨hc, hcs⟩ := List.forall_mem_cons.mp hcs
    rw [List.cons_append]
    conv_lhs => unfold digitsAt
    simp only [hc, if_true, ih hcs]
    rfl

theorem isDigit_toDigits (n : Nat) : ∀ c ∈ Nat.toDigits 10 n, c.isDigit = true :=
  fun _ hc => Nat.isDigit_of_mem_toDigits (by decide) (by decide) hc

theorem head?_toDigits_append (n : Nat) (rest : List Char) :
    (Nat.toDigits 10 n ++ rest).head? = (Nat.toDigits 10 n).head? :=
  List.head?_append_of_ne_nil _ Nat.toDigits_ne_nil

section Numbers

variable (n) (hrest : Ends false rest)

include hrest

/-- No mark of a base is read: only zero begins with a zero, and no such mark may follow it. -/
theorem markedInteger?_toDigits : markedInteger? (Nat.toDigits 10 n ++ rest) = none := by
  unfold markedInteger?
  split
  · next mark more heq =>
    have hhead := congrArg List.head? heq
    rw [head?_toDigits_append] at hhead
    obtain rfl := head?_toDigits hhead
    rw [Nat.toDigits_zero] at heq
    obtain rfl : rest = mark :: more := (List.cons.inj heq).2
    rcases hrest mark rfl with hmark | ⟨hfalse, -⟩
    · simp only [List.mem_cons, List.not_mem_nil, or_false] at hmark
      rcases hmark with rfl | rfl | rfl | rfl | rfl | rfl | rfl <;> rfl
    · cases hfalse
  · rfl

theorem exponentAt_eq_zero : exponentAt rest = (0, 0) := by
  have hhead := hrest.head (p := fun c => !(c == 'e' || c == 'E')) (by decide)
  cases rest with
  | nil => rfl
  | cons c rest =>
    unfold exponentAt
    exact if_neg (by simpa using hhead c rfl)

theorem decimal?_toDigits : decimal? (Nat.toDigits 10 n ++ rest) =
    some ((Nat.toDigits 10 n).length, .int n) := by
  have hzero : ((Nat.toDigits 10 n).head? == some '0' &&
      (Nat.toDigits 10 n).any (· != '0')) = false := by
    rw [Bool.and_eq_false_iff]
    rcases Nat.eq_zero_or_pos n with rfl | hn
    · exact .inr rfl
    · refine .inl (beq_eq_false_iff_ne.mpr fun h => ?_)
      rw [head?_toDigits h] at hn
      cases hn
  have hstop : digitsAt Char.isDigit rest = (0, []) :=
    digitsAt_eq_zero fun c hc => by
      simpa using hrest.head (p := fun c => !c.isDigit && c != '_') (by decide) c hc
  unfold decimal?
  split
  next whole ds hwhole =>
  obtain ⟨rfl, rfl⟩ : whole = (Nat.toDigits 10 n).length ∧ ds = Nat.toDigits 10 n := by
    split at hwhole
    · next more heq =>
      have hhead := congrArg List.head? heq
      rw [head?_toDigits_append] at hhead
      exact absurd (isDigit_toDigits n _ (List.mem_of_head? hhead)) (by decide)
    · rw [digitsAt_digits (isDigit_toDigits n) hstop] at hwhole
      cases hwhole
      exact ⟨rfl, rfl⟩
  dsimp only
  rw [List.drop_left]
  split
  · rcases hrest '.' rfl with hpoint | ⟨hfalse, -⟩
    · exact absurd hpoint (by decide)
    · cases hfalse
  · have hlength : ((Nat.toDigits 10 n).length == 0) = false := by simp
    rw [List.drop_zero, exponentAt_eq_zero hrest, hzero, valueIn_toDigits, hlength]
    rfl

/-- A number is read back, if neither a point nor more of a word follows it. -/
theorem number?_toDigits : number? (Nat.toDigits 10 n ++ rest) =
    some ((Nat.toDigits 10 n).length, .int n) := by
  unfold number?
  rw [markedInteger?_toDigits n hrest, decimal?_toDigits n hrest]
  dsimp only [Option.orElse]
  rw [List.drop_left]
  split
  · next c hc =>
    have hhead := hrest.head (p := fun c => !Text.isIdentifierRest c) (by decide) c hc
    exact if_neg (by simpa using hhead)
  · rfl

end Numbers

theorem lexes_number (n : Nat) :
    Lexes (Ends false) depth (toString n).toList [.literal (.int n)] depth := by
  rw [Nat.toString_eq_ofList_toDigits, String.toList_ofList]
  refine lexes_one Nat.toDigits_ne_nil fun fuel rest hrest => ?_
  have hnumber := number?_toDigits n hrest
  have hdigits := isDigit_toDigits n
  have hne : Nat.toDigits 10 n ≠ [] := Nat.toDigits_ne_nil
  generalize Nat.toDigits 10 n = ds at hnumber hdigits hne
  cases ds with
  | nil => exact (hne rfl).elim
  | cons d ds =>
    have hdigit := hdigits d (List.mem_cons_self ..)
    have hprefix := of_isDigit (p := fun c => !isPrefixLetter c && !isQuote c) hdigit (by decide)
    have hstart := of_isDigit (p := fun c => !isSkipped c && !Text.isIdentifierStart c) hdigit
      (by decide)
    simp only [Bool.and_eq_true, Bool.not_eq_true'] at hprefix hstart
    have hquoted : quoted? (d :: (ds ++ rest)) = none := by
      refine quoted?_eq_none (n := 0) ?_ fun c hc => Option.some_inj.mp hc ▸ hprefix.2
      rw [List.take_succ_cons, List.takeWhile_cons_of_neg (Bool.eq_false_iff.mp hprefix.1)]
      rfl
    have hstep : tokens? (fuel + 1) depth (d :: (ds ++ rest)) = _ :=
      tokens_number hstart.1 hquoted hstart.2 hnumber
    rw [List.length_cons, Nat.add_sub_cancel, List.drop_left] at hstep
    exact hstep

end Pieces

end TypeProjection.Annotation.Reader
