import TypeProjection.Proofs.WrittenOperands

/-!
# Written expressions

What an expression is written as reads back as the expression. Each piece of the text is read as its
tokens whatever brackets are open, if the right character follows it; the pieces are put together as
the writer puts them, by induction on the expression. Fractions, byte strings, sets, dictionaries
and operations other than signs are left out.
-/

namespace TypeProjection.Annotation.Reader

variable {e l r : Expr} {es : List Expr} {n : String} {single point : Bool}
  {named : List (String × Expr)} {ts ts' : List Token} {A B : List Char → Prop}
  {cs cs' : List Char}

/-! ### Characters -/

/-- Characters that are read as tokens, if certain ones follow, and no carriage return is among
them. -/
structure Spells (A : List Char → Prop) (cs : List Char) (ts : List Token) : Prop where
  lexes : ∀ depth, Lexes A depth cs ts depth
  unified : '\r' ∉ cs

/-- There is no blank before the characters, and they do not begin a comparison. -/
def Opens (cs : List Char) : Prop := ∃ c more, cs = c :: more ∧ isSkipped c = false ∧ c ≠ '='

theorem Opens.append (h : Opens cs) : Opens (cs ++ cs') := by
  obtain ⟨c, more, rfl, hc⟩ := h
  exact ⟨c, more ++ cs', rfl, hc⟩

theorem Spells.append (h : Spells A cs ts) (h' : Spells B cs' ts')
    (hA : ∀ rest, B rest → A (cs' ++ rest)) : Spells B (cs ++ cs') (ts ++ ts') where
  lexes depth := (h.lexes depth).append (h'.lexes depth) hA
  unified hmem := (List.mem_append.mp hmem).elim h.unified h'.unified

theorem Spells.mono (h : Spells A cs ts) (hA : ∀ rest, B rest → A rest) : Spells B cs ts :=
  ⟨fun depth => (h.lexes depth).mono hA, h.unified⟩

theorem ends_cons {c : Char} {rest : List Char} (h : c ∈ [' ', ',', ']', ')', '[', '(', '=']) :
    Ends point (c :: rest) := fun _ hc => .inl (Option.some_inj.mp hc ▸ h)

theorem Ends.mono {rest : List Char} (h : Ends false rest) : Ends point rest :=
  fun c hc => .inl ((h c hc).resolve_right fun h => Bool.false_ne_true h.1)

/-- Brackets of a kind. -/
theorem Spells.enclosed {b b' : Char} {o o' : String} (h : Spells (Ends false) cs ts)
    (hb : (b, o, b', o') ∈ [('(', "(", ')', ")"), ('[', "[", ']', "]")]) :
    Spells A (b :: cs ++ [b']) (.op o :: ts ++ [.op o']) := by
  simp only [List.mem_cons, Prod.mk.injEq, List.not_mem_nil, or_false] at hb
  rcases hb with ⟨rfl, rfl, rfl, rfl⟩ | ⟨rfl, rfl, rfl, rfl⟩
  all_goals
    refine ⟨fun depth => ?_, ?_⟩
    · exact ((lexes_mark (A := fun _ => True) (by decide)).append (h.lexes (depth + 1))
        fun _ _ => trivial).append (lexes_mark (by decide)) fun _ _ => ends_cons (by decide)
    · simpa using h.unified

/-! ### Operands -/

/-- The characters are an operand. A point may follow them, or not. -/
def Operand (point : Bool) (cs : List Char) (e : Expr) : Prop :=
  Opens cs ∧ ∃ ts, Spells (Ends point) cs ts ∧ Begins ts ∧ Trailed ts e

/-- The characters are an expression. -/
def Written (cs : List Char) (e : Expr) : Prop :=
  Opens cs ∧ ∃ ts, Spells (Ends false) cs ts ∧ Begins ts ∧ Joined ts e

/-- The characters are items with commas between them. -/
def Listing (cs : List Char) (es : List Expr) (single : Bool) : Prop :=
  ∃ ts, Spells (Ends false) cs ts ∧ Items ts es single

/-- Is the text a word that is neither a keyword nor respelled when it is read? -/
def isWord (n : String) : Bool :=
  Text.isIdentifier n.toList && n.toList.all Text.isIdentifierRest && !keywords.contains n &&
    Text.normalForm n == n

theorem Operand.written (h : Operand point cs e) : Written cs e := by
  obtain ⟨hopens, ts, hspells, hbegins, htrailed⟩ := h
  exact ⟨hopens, ts, hspells.mono fun _ => Ends.mono, hbegins, htrailed.signed.joined⟩

theorem not_mem_of_isIdentifierRest (h : cs.all Text.isIdentifierRest = true) : '\r' ∉ cs :=
  fun hmem => absurd (List.all_eq_true.mp h _ hmem) (by decide)

theorem opens_of_isIdentifier (h : Text.isIdentifier cs = true) : Opens cs := by
  cases cs with
  | nil => cases h
  | cons c more =>
    have hstart : Text.isIdentifierStart c = true := (Bool.and_eq_true_iff.mp h).1
    refine ⟨c, more, rfl, not_isSkipped_of_isIdentifierStart hstart, ?_⟩
    rintro rfl
    exact absurd hstart (by decide)

theorem spells_word (h : Text.isIdentifier n.toList = true)
    (hall : n.toList.all Text.isIdentifierRest = true) :
    Spells (Ends true) n.toList [wordToken n] :=
  ⟨fun depth => by
    have hlexes : Lexes _ depth _ _ _ := lexes_word h hall
    rwa [String.ofList_toList] at hlexes, not_mem_of_isIdentifierRest hall⟩

theorem spells_name (h : isWord n = true) : Spells (Ends true) n.toList [.name n] := by
  simp only [isWord, Bool.and_eq_true, Bool.not_eq_true', beq_iff_eq] at h
  obtain ⟨⟨⟨hname, hall⟩, hkeyword⟩, hnormal⟩ := h
  have htoken : wordToken n = .name n := by
    rw [wordToken, hkeyword, if_neg Bool.false_ne_true, hnormal]
  exact htoken ▸ spells_word hname hall

theorem opens_name (h : isWord n = true) : Opens n.toList := by
  simp only [isWord, Bool.and_eq_true] at h
  exact opens_of_isIdentifier h.1.1.1

theorem operand_name (h : isWord n = true) : Operand true n.toList (.name n) :=
  ⟨opens_name h, _, spells_name h, ⟨_, _, rfl, rfl, rfl⟩, trailed_name n⟩

/-- A word with a meaning of its own. -/
theorem operand_keyword
    (h : (n, e) ∈ [("None", .none), ("True", .bool true), ("False", .bool false)]) :
    Operand true n.toList e := by
  simp only [List.mem_cons, Prod.mk.injEq, List.not_mem_nil, or_false] at h
  rcases h with ⟨rfl, rfl⟩ | ⟨rfl, rfl⟩ | ⟨rfl, rfl⟩
  all_goals
    exact ⟨opens_of_isIdentifier (by decide), _, spells_word (by decide) (by decide),
      ⟨_, _, rfl, rfl, rfl⟩, trailed_one fun _ _ _ => rfl⟩

theorem operand_dots : Operand true "...".toList .ellipsis :=
  ⟨⟨_, _, rfl, rfl, by decide⟩, _, ⟨fun _ => lexes_dots, by decide⟩, ⟨_, _, rfl, rfl, rfl⟩,
    trailed_one fun _ _ _ => rfl⟩

theorem operand_text (s : String) : Operand true (Text.display s).toList (.str s) := by
  obtain ⟨mark, hmark, hdisplay⟩ := toList_display s
  refine ⟨?_, _, ⟨fun _ => lexes_text s, ?_⟩, ⟨_, _, rfl, rfl, rfl⟩, trailed_text s⟩
  · rw [hdisplay]
    rcases eq_or_eq_of_isQuote hmark with rfl | rfl <;> exact ⟨_, _, rfl, rfl, by decide⟩
  · have hinside := not_mem_inside hmark s.toList
    rw [hdisplay]
    rcases eq_or_eq_of_isQuote hmark with rfl | rfl <;> simpa using hinside

theorem operand_number (k : Nat) : Operand false (toString k).toList (.int k) := by
  have hdigits := isDigit_toDigits k
  have hne : Nat.toDigits 10 k ≠ [] := Nat.toDigits_ne_nil
  refine ⟨?_, _, ⟨fun _ => lexes_number k, ?_⟩, ⟨_, _, rfl, rfl, rfl⟩, trailed_number k⟩
  · rw [Nat.toString_eq_ofList_toDigits, String.toList_ofList]
    generalize Nat.toDigits 10 k = ds at hdigits hne
    cases ds with
    | nil => exact (hne rfl).elim
    | cons d ds =>
      have hd := of_isDigit (p := fun c => !isSkipped c && c != '=')
        (hdigits d (List.mem_cons_self ..)) (by decide)
      exact ⟨d, ds, rfl, by simpa using hd⟩
  · rw [Nat.toString_eq_ofList_toDigits, String.toList_ofList]
    exact fun hmem => absurd (hdigits _ hmem) (by decide)

/-! ### What is put together -/

theorem spells_nil : Spells A [] [] :=
  ⟨fun _ => ⟨0, Nat.le_refl 0, fun _ _ _ => (Option.map_id' ..).symm⟩, List.not_mem_nil⟩

/-- An operator that is no bracket. -/
theorem spells_mark {c : Char} {o : String}
    (h : (c, o) ∈ [(',', ","), ('|', "|"), ('-', "-"), ('+', "+"), ('~', "~")]) :
    Spells A [c] [.op o] := by
  simp only [List.mem_cons, Prod.mk.injEq, List.not_mem_nil, or_false] at h
  rcases h with ⟨rfl, rfl⟩ | ⟨rfl, rfl⟩ | ⟨rfl, rfl⟩ | ⟨rfl, rfl⟩ | ⟨rfl, rfl⟩ <;>
    exact ⟨fun _ => lexes_mark (by decide), by decide⟩

theorem spells_space : Spells A [' '] [] := ⟨fun _ => lexes_space, by decide⟩

/-- A comma, and a blank behind it. -/
theorem Spells.comma (h : Spells (Ends false) cs ts) (h' : Spells A cs' ts') :
    Spells A (cs ++ ',' :: ' ' :: cs') (ts ++ .op "," :: ts') := by
  have hspaced : Spells A (' ' :: cs') ts' :=
    (spells_space (A := fun _ => True)).append h' fun _ _ => trivial
  have hcomma : Spells A (',' :: ' ' :: cs') (.op "," :: ts') :=
    (spells_mark (A := fun _ => True) (by decide)).append hspaced fun _ _ => trivial
  exact h.append hcomma fun _ _ => ends_cons (by decide)

theorem isIdentifierStart_of_isWord (h : isWord n = true) {c : Char} {rest : List Char}
    (hc : c ∈ (n.toList ++ rest).head?) : Text.isIdentifierStart c = true := by
  simp only [isWord, Bool.and_eq_true] at h
  have hname := h.1.1.1
  cases hn : n.toList with
  | nil =>
    rw [hn] at hname
    cases hname
  | cons d more =>
    rw [hn] at hname hc
    obtain rfl : d = c := Option.some_inj.mp hc
    exact (Bool.and_eq_true_iff.mp hname).1

theorem spells_member (h : isWord n = true) :
    Spells (Ends true) ('.' :: n.toList) [.op ".", .name n] :=
  Spells.append ⟨fun _ => lexes_point, by decide⟩ (spells_name h)
    fun _ _ _ hc => isIdentifierStart_of_isWord h hc

theorem Operand.attribute (h : Operand true cs e) (hn : isWord n = true) :
    Operand true (cs ++ '.' :: n.toList) (.attribute e n) := by
  obtain ⟨hopens, ts, hspells, hbegins, htrailed⟩ := h
  exact ⟨hopens.append, _,
    hspells.append (spells_member hn) fun _ _ c hc => .inr ⟨rfl, (Option.some_inj.mp hc).symm⟩,
    hbegins.append rfl, htrailed.attribute n⟩

theorem Written.whole (h : Written cs e) :
    ∃ ts, Spells (Ends false) cs ts ∧ Begins ts ∧ Whole ts e := by
  obtain ⟨-, ts, hspells, hbegins, hjoined⟩ := h
  exact ⟨ts, hspells, hbegins, hjoined.whole hbegins⟩

theorem listing_nil : Listing [] [] false := ⟨[], spells_nil, .nil⟩

theorem Written.listing (h : Written cs e) : Listing cs [e] true := by
  obtain ⟨ts, hspells, hbegins, hwhole⟩ := h.whole
  exact ⟨ts, hspells, .one hwhole hbegins⟩

theorem Written.cons (h : Written cs e) (h' : Listing cs' es single) :
    Listing (cs ++ ',' :: ' ' :: cs') (e :: es) false := by
  obtain ⟨ts, hspells, hbegins, hwhole⟩ := h.whole
  obtain ⟨ts', hspells', hitems⟩ := h'
  exact ⟨_, hspells.comma hspells', .cons hwhole hbegins hitems⟩

/-- The only item of a tuple. -/
theorem Written.ended (h : Written cs e) : Listing (cs ++ [',']) [e] false := by
  obtain ⟨ts, hspells, hbegins, hwhole⟩ := h.whole
  exact ⟨_, hspells.append (spells_mark (by decide)) fun _ _ => ends_cons (by decide),
    .cons hwhole hbegins .nil⟩

theorem Items.begins (h : Items ts es single) (hne : es ≠ []) : Begins ts := by
  cases h with
  | nil => exact (hne rfl).elim
  | one _ hb => exact hb
  | cons _ hb => exact hb.append rfl

theorem Items.isOp (h : Items ts es single) :
    Reader.isOp "=" (ts ++ [.op ")"]) = false ∧ Reader.isOp "=" (ts ++ [.op "]"]) = false := by
  cases h with
  | nil => exact ⟨rfl, rfl⟩
  | one _ hb => exact ⟨hb.isOp rfl, hb.isOp rfl⟩
  | cons _ hb => exact ⟨(hb.append rfl).isOp rfl, (hb.append rfl).isOp rfl⟩

theorem Listing.parentheses (h : Listing cs es single) :
    Operand point ('(' :: cs ++ [')']) (grouped es single) := by
  obtain ⟨ts, hspells, hitems⟩ := h
  exact ⟨⟨_, _, rfl, rfl, by decide⟩, _, hspells.enclosed (by decide),
    ⟨_, _, rfl, rfl, hitems.isOp.1⟩, hitems.parentheses⟩

theorem Listing.brackets (h : Listing cs es single) :
    Operand point ('[' :: cs ++ [']']) (.list es) := by
  obtain ⟨ts, hspells, hitems⟩ := h
  exact ⟨⟨_, _, rfl, rfl, by decide⟩, _, hspells.enclosed (by decide),
    ⟨_, _, rfl, rfl, hitems.isOp.2⟩, hitems.brackets⟩

theorem Operand.subscript (h : Operand point cs e) (h' : Listing cs' es single) (hne : es ≠ []) :
    Operand true (cs ++ ('[' :: cs' ++ [']'])) (.subscript e (grouped es single)) := by
  obtain ⟨hopens, ts, hspells, hbegins, htrailed⟩ := h
  obtain ⟨ts', hspells', hitems⟩ := h'
  exact ⟨hopens.append, _,
    hspells.append (hspells'.enclosed (by decide)) fun _ _ => ends_cons (by decide),
    hbegins.append rfl, htrailed.subscript hitems (hitems.begins hne)⟩

theorem Written.either (h : Written cs l) (h' : Operand point cs' r) :
    Written (cs ++ ' ' :: '|' :: ' ' :: cs') (.either l r) := by
  obtain ⟨hopens, ts, hspells, hbegins, hjoined⟩ := h
  obtain ⟨-, ts', hspells', -, htrailed⟩ := h'
  have hspaced : Spells (Ends false) (' ' :: cs') ts' :=
    (spells_space (A := fun _ => True)).append (hspells'.mono fun _ => Ends.mono) fun _ _ => trivial
  have hbar : Spells (Ends false) ('|' :: ' ' :: cs') (.op "|" :: ts') :=
    (spells_mark (A := fun _ => True) (by decide)).append hspaced fun _ _ => trivial
  have hright : Spells (Ends false) (' ' :: '|' :: ' ' :: cs') (.op "|" :: ts') :=
    (spells_space (A := fun _ => True)).append hbar fun _ _ => trivial
  exact ⟨hopens.append, _, hspells.append hright fun _ _ => ends_cons (by decide),
    hbegins.append rfl, hjoined.either htrailed.signed⟩

/-- A signed operand, which stands in parentheses. -/
theorem Operand.sign {c : Char} {symbol : String} (h : Operand point cs e)
    (hs : (c, symbol) ∈ [('-', "-"), ('+', "+"), ('~', "~")]) :
    Operand true ('(' :: c :: cs ++ [')']) (.operation symbol [e]) := by
  obtain ⟨-, ts, hspells, hbegins, htrailed⟩ := h
  have hmark : Spells (fun _ => True) [c] [.op symbol] :=
    spells_mark (List.mem_of_mem_tail (List.mem_of_mem_tail hs))
  have hsign : isSkipped c = false ∧ c ≠ '=' ∧ symbol ∈ ["-", "+", "~"] ∧
      openers.contains symbol = true := by
    simp only [List.mem_cons, Prod.mk.injEq, List.not_mem_nil, or_false] at hs
    rcases hs with ⟨rfl, rfl⟩ | ⟨rfl, rfl⟩ | ⟨rfl, rfl⟩ <;> decide
  have hequals : isOp "=" ts = false := by
    rw [← List.append_nil ts]
    exact hbegins.isOp rfl
  have hinside : Written (c :: cs) (.operation symbol [e]) :=
    ⟨⟨c, cs, rfl, hsign.1, hsign.2.1⟩, _,
      hmark.append (hspells.mono fun _ => Ends.mono) fun _ _ => trivial,
      ⟨_, ts, rfl, hsign.2.2.2, hequals⟩, (htrailed.signed.sign hsign.2.2.1).joined⟩
  exact hinside.listing.parentheses

/-! ### Lists of texts -/

theorem toList_separated (s t : String) (ss : List String) :
    (String.intercalate ", " (s :: t :: ss)).toList =
      s.toList ++ ',' :: ' ' :: (String.intercalate ", " (t :: ss)).toList := by
  rw [String.intercalate_cons_cons, String.toList_append, String.toList_append, List.append_assoc]
  rfl

theorem listing_texts {xs : List Expr} (h : ∀ x ∈ xs, Written x.text.toList x) :
    ∃ single, Listing (String.intercalate ", " (Expr.text.texts xs)).toList xs single ∧
      (single = true → ∃ x, xs = [x]) := by
  induction xs with
  | nil => exact ⟨false, listing_nil, fun h => (Bool.false_ne_true h).elim⟩
  | cons x xs ih =>
    obtain ⟨hx, hxs⟩ := List.forall_mem_cons.mp h
    cases xs with
    | nil => exact ⟨true, hx.listing, fun _ => ⟨x, rfl⟩⟩
    | cons y ys =>
      obtain ⟨single, hys, -⟩ := ih hxs
      refine ⟨false, ?_, fun h => (Bool.false_ne_true h).elim⟩
      rw [Expr.text.texts, Expr.text.texts, toList_separated]
      exact hx.cons hys

/-- The items of a tuple. -/
theorem listing_commas {xs : List Expr} (h : ∀ x ∈ xs, Written x.text.toList x) (hne : xs ≠ []) :
    Listing (Expr.commas (Expr.text.texts xs)).toList xs false := by
  rcases xs with _ | ⟨x, _ | ⟨y, ys⟩⟩
  · exact (hne rfl).elim
  · change Listing (x.text ++ ",").toList [x] false
    rw [String.toList_append]
    exact (h x (List.mem_singleton_self x)).ended
  · obtain ⟨single, hxs, hsingle⟩ := listing_texts h
    cases single with
    | true =>
      obtain ⟨x', hx'⟩ := hsingle rfl
      cases hx'
    | false => exact hxs

/-- The texts are arguments, the named ones last. -/
def Given (ss : List String) (es : List Expr) (named : List (String × Expr)) : Prop :=
  ∃ ts, Spells (Ends false) (String.intercalate ", " ss).toList ts ∧ (ss = [] ↔ ts = []) ∧
    Arguments ts es named

theorem Spells.separated {s : String} {ss : List String} (h : Spells (Ends false) s.toList ts)
    (h' : Spells (Ends false) (String.intercalate ", " ss).toList ts') (hss : ss = [] ↔ ts' = []) :
    Spells (Ends false) (String.intercalate ", " (s :: ss)).toList (ts ++ separated ts') := by
  cases ss with
  | nil =>
    obtain rfl := hss.mp rfl
    rw [separated, List.append_nil]
    exact h
  | cons t ss =>
    rw [toList_separated]
    cases ts' with
    | nil => cases hss.mpr rfl
    | cons => exact h.comma h'

theorem given_nil : Given [] [] [] := ⟨[], spells_nil, iff_of_true rfl rfl, .nil⟩

theorem Given.positional {ss : List String} (h : Written e.text.toList e)
    (h' : Given ss es named) : Given (e.text :: ss) (e :: es) named := by
  obtain ⟨ts, hspells, hbegins, hwhole⟩ := h.whole
  obtain ⟨ts', hspells', hss, harguments⟩ := h'
  refine ⟨_, hspells.separated hspells' hss, ?_, .positional hwhole hbegins harguments⟩
  obtain ⟨t, more, rfl, -⟩ := hbegins
  exact iff_of_false (List.cons_ne_nil _ _) (List.cons_ne_nil _ _)

/-- The value of a named argument. -/
theorem Spells.value (h : Spells A cs ts) (ho : Opens cs) :
    Spells A ('=' :: cs) (.op "=" :: ts) := by
  obtain ⟨c, more, rfl, -, hc⟩ := ho
  exact Spells.append ⟨fun _ => lexes_equals, by decide⟩ h
    fun _ _ d hd => Option.some_inj.mp hd ▸ hc

theorem Given.keyword {ss : List String} (hn : isWord n = true) (h : Written e.text.toList e)
    (h' : Given ss [] named) : Given ((n ++ "=" ++ e.text) :: ss) [] ((n, e) :: named) := by
  obtain ⟨ts, hspells, hbegins, hwhole⟩ := h.whole
  obtain ⟨ts', hspells', hss, harguments⟩ := h'
  have hnamed : Spells (Ends false) (n ++ "=" ++ e.text).toList (.name n :: .op "=" :: ts) := by
    rw [String.toList_append, String.toList_append, List.append_assoc]
    exact (spells_name hn).append (hspells.value h.1) fun _ _ => ends_cons (by decide)
  exact ⟨_, hnamed.separated hspells' hss,
    iff_of_false (List.cons_ne_nil _ _) (List.cons_ne_nil _ _), .named n hwhole harguments⟩

theorem Operand.call {ss : List String} (h : Operand point cs e) (h' : Given ss es named) :
    Operand true (cs ++ ('(' :: (String.intercalate ", " ss).toList ++ [')']))
      (.call e es named) := by
  obtain ⟨hopens, ts, hspells, hbegins, htrailed⟩ := h
  obtain ⟨ts', hspells', -, harguments⟩ := h'
  exact ⟨hopens.append, _,
    hspells.append (hspells'.enclosed (by decide)) fun _ _ => ends_cons (by decide),
    hbegins.append rfl, htrailed.call harguments⟩

/-! ### Whole texts -/

theorem Written.ofChars (h : Written cs e) : Reader.ofChars cs = some e := by
  obtain ⟨ts, hspells, -, hwhole⟩ := h.whole
  obtain ⟨k, hk, hlexes⟩ := hspells.lexes 0
  have htokens : tokens? (cs.length + 1) 0 cs = some ts := by
    have hstep := hlexes (cs.length + 1 - k) [] fun _ hc => by cases hc
    rw [Nat.sub_add_cancel (by omega), List.append_nil] at hstep
    obtain ⟨fuel, hfuel⟩ := Nat.exists_eq_add_of_le' (show 1 ≤ cs.length + 1 - k by omega)
    rw [hstep, hfuel]
    exact congrArg some (List.append_nil ts)
  have hexpression : expression (30 * ts.length + 60) ts = some (e, []) := by
    have hread := hwhole (30 * ts.length + 60) [] (by omega) .nil
    rwa [List.append_nil] at hread
  have houtermost : ofChars.outermost ts = some (e, []) := by
    unfold ofChars.outermost
    simp only [hexpression]
    rfl
  unfold Reader.ofChars
  simp only [htokens, houtermost]
  rfl

theorem unifyLineEnds_of_not_mem (h : '\r' ∉ cs) : Text.unifyLineEnds cs = cs := by
  induction cs with
  | nil => rfl
  | cons c cs ih =>
    rw [List.mem_cons, not_or] at h
    rw [Text.unifyLineEnds, ih h.2]
    · rintro _ rfl _
      exact h.1 rfl
    · rintro rfl
      exact h.1 rfl

theorem Opens.skipBlankLines (h : Opens cs) (fuel : Nat) :
    Reader.skipBlankLines fuel cs = cs := by
  obtain ⟨c, more, rfl, hc, -⟩ := h
  cases fuel with
  | zero => rfl
  | succ fuel =>
    simp only [isSkipped, Bool.or_eq_false_iff, beq_eq_false_iff_ne] at hc
    obtain ⟨⟨⟨⟨⟨hblank, htab⟩, hfeed⟩, -⟩, hcomment⟩, hline⟩ := hc
    rw [Reader.skipBlankLines, List.takeWhile_cons_of_pos (by simpa using hline),
      List.dropWhile_cons_of_neg (by simp [hblank, htab, hfeed])]
    exact if_neg (by simp [hcomment])

theorem Written.ofText? {s : String} (h : Written s.toList e) : Expr.ofText? s = some e := by
  obtain ⟨ts, hspells, -⟩ := h.2
  have hchars := h.ofChars
  unfold Expr.ofText?
  rw [unifyLineEnds_of_not_mem hspells.unified, h.1.skipBlankLines]
  obtain ⟨c, more, hcs, hc, -⟩ := h.1
  simp only [isSkipped, Bool.or_eq_false_iff] at hc
  rw [hcs] at hchars ⊢
  simp only [hc, Bool.or_false, Bool.false_eq_true, if_false, hchars]

/-! ### Expressions -/

end Reader

namespace Expr

open Reader

/-- Can a point stand right behind the text of the expression? -/
def takesPoint : Expr → Bool
  | .int _ => false
  | _ => true

/-- Names and what is made of them by attributes, subscripts, calls, bars and brackets, with texts
and numbers in between: nothing that depends on how a fraction or a byte string is written. -/
inductive Plain : Expr → Prop
  | none : Plain .none
  | ellipsis : Plain .ellipsis
  | bool (b : Bool) : Plain (.bool b)
  | int (n : Nat) : Plain (.int n)
  | str (s : String) : Plain (.str s)
  | name {n : String} (hn : isWord n = true) : Plain (.name n)
  | member {e : Expr} {n : String} (he : Plain e) (hpoint : e.takesPoint = true)
      (hn : isWord n = true) : Plain (.attribute e n)
  | subscript {e i : Expr} (he : Plain e) (hi : Plain i) : Plain (.subscript e i)
  | tuple {es : List Expr} (h : ∀ e ∈ es, Plain e) : Plain (.tuple es)
  | list {es : List Expr} (h : ∀ e ∈ es, Plain e) : Plain (.list es)
  | either {l r : Expr} (hl : Plain l) (hr : Plain r) : Plain (.either l r)
  | call {e : Expr} {es : List Expr} {named : List (String × Expr)} (he : Plain e)
      (h : ∀ e ∈ es, Plain e) (hwords : ∀ p ∈ named, isWord p.1 = true)
      (hnamed : ∀ p ∈ named, Plain p.2) :
    Plain (.call e es named)
  | sign {symbol : String} {e : Expr} (hs : symbol ∈ ["-", "+", "~"]) (he : Plain e)
      (hclosed : e.isClosed = true) : Plain (.operation symbol [e])

/-- The text of an index, which a tuple is without its parentheses. -/
def indexText : Expr → String
  | .tuple items => commas (text.texts items)
  | e => e.text

theorem text_subscript (e i : Expr) :
    (Expr.subscript e i).text = wrapped (!e.isClosed) e.text ++ "[" ++ i.indexText ++ "]" := by
  cases i <;> rfl

/-- What the expression is written as reads back, also as an index, and as an operand unless it is
a union. -/
structure Reads (e : Expr) : Prop where
  written : Written e.text.toList e
  operand : (∀ l r, e ≠ .either l r) → Operand e.takesPoint e.text.toList e
  index : ∃ es single, Listing e.indexText.toList es single ∧ es ≠ [] ∧ grouped es single = e

theorem reads_of_operand {e : Expr} (h : Operand e.takesPoint e.text.toList e)
    (hi : e.indexText = e.text) : e.Reads :=
  ⟨h.written, fun _ => h, [e], true, hi ▸ h.written.listing, List.cons_ne_nil _ _, rfl⟩

/-- With parentheses around it, or as it stands. -/
theorem Reads.wrapped {e : Expr} {needed : Bool} (h : e.Reads)
    (hn : needed = false → ∀ l r, e ≠ .either l r) :
    Operand e.takesPoint (Expr.wrapped needed e.text).toList e := by
  cases needed with
  | false => exact h.operand (hn rfl)
  | true =>
    change Operand _ ("(" ++ e.text ++ ")").toList e
    rw [String.toList_append, String.toList_append]
    exact h.written.listing.parentheses

theorem ne_either_of_isClosed {e : Expr} (h : e.isClosed = true) (l r : Expr) :
    e ≠ .either l r := by
  rintro rfl
  cases h

theorem Reads.target {e : Expr} (h : e.Reads) :
    Operand e.takesPoint (Expr.wrapped (!e.isClosed) e.text).toList e :=
  h.wrapped fun hclosed => ne_either_of_isClosed (Bool.not_eq_false' _ ▸ hclosed)

/-! ### Each kind of expression -/

theorem reads_attribute {e : Expr} {n : String} (h : e.Reads) (hpoint : e.takesPoint = true)
    (hn : isWord n = true) : (Expr.attribute e n).Reads := by
  refine reads_of_operand ?_ rfl
  change Operand true (Expr.wrapped (!e.isClosed) e.text ++ "." ++ n).toList _
  rw [String.toList_append, String.toList_append, List.append_assoc]
  exact (hpoint ▸ h.target).attribute hn

theorem reads_subscript {e i : Expr} (he : e.Reads) (hi : i.Reads) :
    (Expr.subscript e i).Reads := by
  obtain ⟨es, single, hlisting, hne, hgrouped⟩ := hi.index
  refine reads_of_operand ?_ rfl
  rw [text_subscript, String.toList_append, String.toList_append, String.toList_append,
    List.append_assoc, List.append_assoc]
  have hoperand := he.target.subscript hlisting hne
  rwa [hgrouped] at hoperand

theorem grouped_false (es : List Expr) : grouped es false = .tuple es := by
  rcases es with _ | ⟨_, _ | _⟩ <;> rfl

theorem reads_tuple {es : List Expr} (h : ∀ e ∈ es, e.Reads) : (Expr.tuple es).Reads := by
  cases es with
  | nil => exact reads_of_operand listing_nil.parentheses rfl
  | cons e es =>
    have hlisting := listing_commas (fun x hx => (h x hx).written) (List.cons_ne_nil e es)
    have hgrouped := grouped_false (e :: es)
    have hoperand : Operand true (Expr.tuple (e :: es)).text.toList (.tuple (e :: es)) := by
      change Operand true ("(" ++ commas (text.texts (e :: es)) ++ ")").toList _
      rw [String.toList_append, String.toList_append]
      exact hgrouped ▸ hlisting.parentheses
    exact ⟨hoperand.written, fun _ => hoperand, _, _, hlisting, List.cons_ne_nil e es, hgrouped⟩

theorem reads_list {es : List Expr} (h : ∀ e ∈ es, e.Reads) : (Expr.list es).Reads := by
  obtain ⟨single, hlisting, -⟩ := listing_texts fun x hx => (h x hx).written
  refine reads_of_operand ?_ rfl
  change Operand true ("[" ++ String.intercalate ", " (text.texts es) ++ "]").toList _
  rw [String.toList_append, String.toList_append]
  exact hlisting.brackets

theorem reads_either {l r : Expr} (hl : l.Reads) (hr : r.Reads) : (Expr.either l r).Reads := by
  have hright : ∃ needed, (Expr.either l r).text = l.text ++ " | " ++ Expr.wrapped needed r.text ∧
      (needed = false → ∀ l' r', r ≠ .either l' r') := by
    refine ⟨_, rfl, ?_⟩
    rintro hneeded l' r' rfl
    cases hneeded
  obtain ⟨needed, htext, hneeded⟩ := hright
  have hwritten : Written (Expr.either l r).text.toList (.either l r) := by
    rw [htext, String.toList_append, String.toList_append, List.append_assoc]
    exact hl.written.either (hr.wrapped hneeded)
  exact ⟨hwritten, fun h => (h l r rfl).elim, _, _, hwritten.listing, List.cons_ne_nil _ _, rfl⟩

theorem given_texts {es : List Expr} {named : List (String × Expr)} (h : ∀ e ∈ es, e.Reads)
    (hwords : ∀ p ∈ named, isWord p.1 = true) (hnamed : ∀ p ∈ named, p.2.Reads) :
    Given (text.texts es ++ text.namedTexts named) es named := by
  induction es with
  | nil =>
    induction named with
    | nil => exact given_nil
    | cons p named ih =>
      obtain ⟨hp, hwords⟩ := List.forall_mem_cons.mp hwords
      obtain ⟨hp', hnamed⟩ := List.forall_mem_cons.mp hnamed
      exact .keyword hp hp'.written (ih hwords hnamed)
  | cons e es ih =>
    obtain ⟨he, hes⟩ := List.forall_mem_cons.mp h
    exact .positional he.written (ih hes)

theorem reads_call {e : Expr} {es : List Expr} {named : List (String × Expr)} (he : e.Reads)
    (h : ∀ e ∈ es, e.Reads) (hwords : ∀ p ∈ named, isWord p.1 = true)
    (hnamed : ∀ p ∈ named, p.2.Reads) : (Expr.call e es named).Reads := by
  refine reads_of_operand ?_ rfl
  change Operand true (Expr.wrapped (!e.isClosed) e.text ++ "(" ++
    String.intercalate ", " (text.texts es ++ text.namedTexts named) ++ ")").toList _
  rw [String.toList_append, String.toList_append, String.toList_append, List.append_assoc,
    List.append_assoc]
  exact he.target.call (given_texts h hwords hnamed)

theorem reads_sign {symbol : String} {e : Expr} (hs : symbol ∈ ["-", "+", "~"]) (he : e.Reads)
    (hclosed : e.isClosed = true) : (Expr.operation symbol [e]).Reads := by
  have hoperand := he.operand (ne_either_of_isClosed hclosed)
  have hsign : ∃ c, symbol.toList = [c] ∧ (c, symbol) ∈ [('-', "-"), ('+', "+"), ('~', "~")] := by
    simp only [List.mem_cons, List.not_mem_nil, or_false] at hs
    rcases hs with rfl | rfl | rfl
    · exact ⟨'-', rfl, by simp⟩
    · exact ⟨'+', rfl, by simp⟩
    · exact ⟨'~', rfl, by simp⟩
  obtain ⟨c, hc, hsymbol⟩ := hsign
  refine reads_of_operand ?_ rfl
  change Operand true ("(" ++ (symbol ++ e.text) ++ ")").toList _
  rw [String.toList_append, String.toList_append, String.toList_append, hc]
  exact hoperand.sign hsymbol

theorem Plain.reads {e : Expr} (h : e.Plain) : e.Reads := by
  induction h with
  | none => exact reads_of_operand (operand_keyword (.head _)) rfl
  | ellipsis => exact reads_of_operand operand_dots rfl
  | bool b =>
    cases b with
    | true => exact reads_of_operand (operand_keyword (.tail _ (.head _))) rfl
    | false => exact reads_of_operand (operand_keyword (.tail _ (.tail _ (.head _)))) rfl
  | int n => exact reads_of_operand (operand_number n) rfl
  | str s => exact reads_of_operand (operand_text s) rfl
  | name hn => exact reads_of_operand (operand_name hn) rfl
  | member _ hpoint hn ih => exact reads_attribute ih hpoint hn
  | subscript _ _ ih ih' => exact reads_subscript ih ih'
  | tuple _ ih => exact reads_tuple ih
  | list _ ih => exact reads_list ih
  | either _ _ ih ih' => exact reads_either ih ih'
  | call _ _ hwords _ ih ih' ih'' => exact reads_call ih ih' hwords ih''
  | sign hs _ hclosed ih => exact reads_sign hs ih hclosed

/-- No identifier has a character in it that cannot stand in one. -/
theorem not_isIdentifier {c : Char} {cs : List Char} (h : c ∈ cs)
    (hc : Text.isIdentifierStart c = false ∧ Text.isIdentifierRest c = false) :
    Text.isIdentifier cs = false := by
  cases cs with
  | nil => rfl
  | cons d more =>
    rw [Text.isIdentifier, Bool.and_eq_false_iff]
    rcases List.mem_cons.mp h with rfl | h
    · exact .inl hc.1
    · refine .inr (Bool.eq_false_iff.mpr fun hall => ?_)
      rw [List.all_eq_true.mp hall c h] at hc
      cases hc.2

theorem not_isIdentifier_digits (n : Nat) : Text.isIdentifier (toString n).toList = false := by
  rw [Nat.toString_eq_ofList_toDigits, String.toList_ofList]
  have hdigits := isDigit_toDigits n
  cases hds : Nat.toDigits 10 n with
  | nil => rfl
  | cons d ds =>
    have hd := of_isDigit (p := fun c => !Text.isIdentifierStart c)
      (hdigits d (hds ▸ List.mem_cons_self ..)) (by decide)
    rw [Text.isIdentifier, (Bool.not_eq_true' _).mp hd, Bool.false_and]

/-- Of plain expressions, only names are written as identifiers. -/
theorem Plain.isName {e : Expr} (h : e.Plain) (hname : Text.isIdentifier e.text.toList = true)
    (hkeyword : keywords.contains e.text = false) : e = .name e.text := by
  have hmark : ∀ {c}, c ∈ e.text.toList →
      Text.isIdentifierStart c = false ∧ Text.isIdentifierRest c = false → e = .name e.text :=
    fun h hc => absurd (hname.symm.trans (not_isIdentifier h hc)) (by decide)
  cases h with
  | none => exact absurd hkeyword (by decide)
  | ellipsis => exact absurd hname (by decide)
  | bool b => cases b <;> exact absurd hkeyword (by decide)
  | int n => exact absurd (hname.symm.trans (not_isIdentifier_digits n)) (by decide)
  | str s =>
    obtain ⟨mark, hquote, hdisplay⟩ := toList_display s
    have hmem : mark ∈ (Text.display s).toList := by simp [hdisplay]
    rcases eq_or_eq_of_isQuote hquote with rfl | rfl <;> exact hmark hmem (by decide)
  | name => rfl
  | member => exact hmark (c := '.') (by simp [text, String.toList_append]) (by decide)
  | subscript =>
    exact hmark (c := '[') (by simp [text_subscript, String.toList_append]) (by decide)
  | @tuple es =>
    refine hmark (c := '(') ?_ (by decide)
    cases es with
    | nil => decide
    | cons => simp [text, wrapped, String.toList_append]
  | list => exact hmark (c := '[') (by simp [text, String.toList_append]) (by decide)
  | either => exact hmark (c := ' ') (by simp [text, String.toList_append]) (by decide)
  | call => exact hmark (c := '(') (by simp [text, String.toList_append]) (by decide)
  | sign => exact hmark (c := '(') (by simp [text, String.toList_append]) (by decide)

/-- The text of a plain expression writes it. -/
theorem Plain.writes {e : Expr} (h : e.Plain) : World.Writes e.text e where
  parses := h.reads.written.ofText?
  isName := h.isName

end Expr

end TypeProjection.Annotation
