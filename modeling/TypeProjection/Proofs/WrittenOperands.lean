import TypeProjection.Proofs.WrittenTokens

/-!
# Tokens of expressions

What tokens are read as, if they stand as the writer of expressions puts them.
-/

namespace TypeProjection.Annotation.Reader

variable {e l r a : Expr} {es : List Expr} {n o : String} {fuel : Nat} {single : Bool}
  {named : List (String × Expr)} {ts ts' rest : List Token} {symbols symbols' : List String}

/-! ### What comes before and behind an expression -/

/-- The operators that an expression can begin with. -/
def openers : List String := ["...", "(", "[", "-", "+", "~"]

/-- Can the token begin an expression? -/
def begins : Token → Bool
  | .name _ | .literal _ => true
  | .keyword word => ["None", "True", "False"].contains word
  | .op symbol => openers.contains symbol
  | .lineEnd => false

/-- The tokens begin an expression, and no named argument. -/
def Begins (ts : List Token) : Prop :=
  ∃ t more, ts = t :: more ∧ begins t = true ∧ Reader.isOp "=" more = false

/-- Nothing follows, or one of certain operators does. -/
inductive Stops (symbols : List String) : List Token → Prop
  | nil : Stops symbols []
  | op {symbol : String} {rest : List Token} (h : symbol ∈ symbols) :
    Stops symbols (.op symbol :: rest)

theorem Stops.mono (h : Stops symbols rest) (hsub : symbols ⊆ symbols') : Stops symbols' rest := by
  cases h with
  | nil => exact .nil
  | op h => exact .op (hsub h)

theorem isOp_append (h : Reader.isOp o ts = false) (h' : Reader.isOp o ts' = false) :
    Reader.isOp o (ts ++ ts') = false := by
  cases ts with
  | nil => exact h'
  | cons t => cases t <;> exact h

theorem Begins.append (h : Begins ts) (h' : Reader.isOp "=" ts' = false) : Begins (ts ++ ts') := by
  obtain ⟨t, more, rfl, ht, hmore⟩ := h
  exact ⟨t, more ++ ts', rfl, ht, isOp_append hmore h'⟩

/-- No operator but these begins an expression. -/
theorem Begins.isOp (h : Begins ts) (ho : openers.contains o = false) :
    Reader.isOp o (ts ++ rest) = false := by
  obtain ⟨t, more, rfl, ht, -⟩ := h
  cases t with
  | op symbol =>
    refine beq_eq_false_iff_ne.mpr ?_
    rintro rfl
    exact Bool.false_ne_true (ho.symm.trans ht)
  | _ => rfl

theorem Begins.isKeyword (h : Begins ts) (hn : ["None", "True", "False"].contains n = false) :
    Reader.isKeyword n (ts ++ rest) = false := by
  obtain ⟨t, more, rfl, ht, -⟩ := h
  cases t with
  | keyword word =>
    refine beq_eq_false_iff_ne.mpr ?_
    rintro rfl
    exact Bool.false_ne_true (hn.symm.trans ht)
  | _ => rfl

theorem Stops.isKeyword (h : Stops symbols rest) (n : String) :
    Reader.isKeyword n rest = false := by
  cases h <;> rfl

theorem Stops.isOp (h : Stops symbols rest) (ho : symbols.contains o = false) :
    Reader.isOp o rest = false := by
  cases h with
  | nil => rfl
  | @op symbol _ h =>
    refine beq_eq_false_iff_ne.mpr ?_
    rintro rfl
    rw [List.contains_iff_mem.mpr h] at ho
    cases ho

/-! ### Reading what stands for itself -/

/-- What may follow an operand that more may be added to, an operand of a union, and an
expression. -/
def trailing : List String := [".", "[", "(", "|", ",", "]", ")"]

def joining : List String := ["|", ",", "]", ")"]

def ending : List String := [",", "]", ")"]

/-- The tokens are an operand, and attributes and subscripts of it. -/
def Trailed (ts : List Token) (e : Expr) : Prop :=
  ∀ fuel rest, 30 * ts.length ≤ fuel → Stops trailing rest → ∃ a more fuel',
    atom fuel (ts ++ rest) = some (a, more) ∧ fuel ≤ fuel' + ts.length ∧
      trailers fuel a more = trailers fuel' e rest

/-- One token that stands for itself. -/
theorem trailed_one {t : Token} (h : ∀ fuel rest, Stops trailing rest →
    atom (fuel + 2) (t :: rest) = some (e, rest)) : Trailed [t] e := by
  intro fuel rest hfuel hrest
  obtain ⟨fuel, rfl⟩ := Nat.exists_eq_add_of_le' (show 2 ≤ fuel by simp at hfuel; omega)
  exact ⟨e, rest, fuel + 2, h fuel rest hrest, by simp, rfl⟩

theorem trailed_name (n : String) : Trailed [.name n] (.name n) := trailed_one fun _ _ _ => rfl

theorem trailed_text (s : String) : Trailed [.literal (.str s)] (.str s) :=
  trailed_one fun fuel rest hrest => by
    change adjacent (fuel + 1) s rest = _
    cases hrest <;> rfl

theorem trailed_number (n : Int) : Trailed [.literal (.int n)] (.int n) :=
  trailed_one fun _ _ _ => rfl

theorem Trailed.attribute (h : Trailed ts e) (n : String) :
    Trailed (ts ++ [.op ".", .name n]) (.attribute e n) := by
  intro fuel rest hfuel hrest
  rw [List.length_append, List.length_cons, List.length_singleton] at hfuel
  obtain ⟨a, more, fuel', hatom, hle, htrailers⟩ :=
    h fuel (.op "." :: .name n :: rest) (by omega) (.op (by decide))
  obtain ⟨fuel', rfl⟩ := Nat.exists_eq_add_of_le' (show 1 ≤ fuel' by omega)
  refine ⟨a, more, fuel', ?_, ?_, htrailers⟩
  · rw [List.append_assoc]
    exact hatom
  · rw [List.length_append, List.length_cons, List.length_singleton]
    omega

theorem trailers_of_stops (h : Stops joining rest) (e : Expr) (fuel : Nat) :
    trailers (fuel + 1) e rest = some (e, rest) := by
  cases h with
  | nil => rfl
  | op h =>
    simp only [joining, List.mem_cons, List.not_mem_nil, or_false] at h
    rcases h with rfl | rfl | rfl | rfl <;> rfl

theorem Trailed.power (h : Trailed ts e) (hrest : Stops joining rest)
    (hfuel : 30 * ts.length + 2 ≤ fuel) : Reader.power fuel (ts ++ rest) = some (e, rest) := by
  obtain ⟨fuel, rfl⟩ := Nat.exists_eq_add_of_le' (show 1 ≤ fuel by omega)
  obtain ⟨a, more, fuel', hatom, hle, htrailers⟩ :=
    h fuel rest (by omega) (hrest.mono (by decide))
  have hstop : trailers fuel a more = some (e, rest) := by
    obtain ⟨fuel', rfl⟩ := Nat.exists_eq_add_of_le' (show 1 ≤ fuel' by omega)
    rw [htrailers, trailers_of_stops hrest]
  rw [Reader.power, hatom]
  change (trailers fuel a more).bind _ = _
  rw [hstop]
  change (if isOp "**" rest = true then _ else _) = _
  rw [hrest.isOp (by decide)]
  rfl

/-- The tokens are an operand, which may have a sign. -/
def Signed (ts : List Token) (e : Expr) : Prop :=
  ∀ fuel rest, 30 * ts.length + 3 ≤ fuel → Stops joining rest →
    factor fuel (ts ++ rest) = some (e, rest)

/-- No operand begins with a sign. -/
theorem atom_sign {symbol : String} (h : symbol ∈ ["-", "+", "~"]) :
    atom fuel (.op symbol :: rest) = none := by
  simp only [List.mem_cons, List.not_mem_nil, or_false] at h
  cases fuel with
  | zero => rfl
  | succ fuel => rcases h with rfl | rfl | rfl <;> rfl

theorem factor_eq_power (h : ∀ symbol ∈ ["-", "+", "~"], Reader.isOp symbol ts = false) :
    factor (fuel + 1) ts = power fuel ts := by
  cases ts with
  | nil => rfl
  | cons t more =>
    cases t with
    | op symbol =>
      have hsign : (symbol == "-" || symbol == "+" || symbol == "~") = false := by
        simpa only [Reader.isOp, List.forall_mem_cons, List.not_mem_nil, false_implies,
          implies_true, and_true, Bool.or_eq_false_iff, and_assoc] using h
      change (if (symbol == "-" || symbol == "+" || symbol == "~") = true then _ else _) = _
      rw [hsign]
      rfl
    | _ => rfl

theorem Trailed.signed (h : Trailed ts e) : Signed ts e := by
  intro fuel rest hfuel hrest
  obtain ⟨fuel, rfl⟩ := Nat.exists_eq_add_of_le' (show 1 ≤ fuel by omega)
  refine (factor_eq_power fun symbol hsymbol => ?_).trans (h.power hrest (by omega))
  obtain ⟨a, more, -, hatom, -, -⟩ := h fuel rest (by omega) (hrest.mono (by decide))
  rw [Bool.eq_false_iff]
  intro hop
  cases hts : ts ++ rest with
  | nil =>
    rw [hts] at hop
    cases hop
  | cons t more' =>
    rw [hts] at hop hatom
    cases t with
    | op symbol' =>
      rw [eq_of_beq hop, atom_sign hsymbol] at hatom
      cases hatom
    | _ => cases hop

theorem Signed.sign {symbol : String} (h : Signed ts e) (hsymbol : symbol ∈ ["-", "+", "~"]) :
    Signed (.op symbol :: ts) (.operation symbol [e]) := by
  intro fuel rest hfuel hrest
  rw [List.length_cons] at hfuel
  obtain ⟨fuel, rfl⟩ := Nat.exists_eq_add_of_le' (show 1 ≤ fuel by omega)
  have hsign : (symbol == "-" || symbol == "+" || symbol == "~") = true := by
    simp only [List.mem_cons, List.not_mem_nil, or_false] at hsymbol
    rcases hsymbol with rfl | rfl | rfl <;> decide
  change (if (symbol == "-" || symbol == "+" || symbol == "~") = true then
    (factor fuel (ts ++ rest)).bind _ else _) = _
  rw [hsign, if_pos rfl, h fuel rest (by omega) hrest]
  rfl

/-- An operand is read at every level whose operators do not follow it. -/
theorem Signed.level (h : Signed ts e) (hrest : Stops joining rest)
    {tighter : List (List String)} (hapart : ∀ symbols ∈ tighter, ∀ s ∈ joining, s ∉ symbols)
    (hfuel : 30 * ts.length + 4 + tighter.length ≤ fuel) :
    Reader.level fuel tighter (ts ++ rest) = some (e, rest) := by
  induction tighter generalizing fuel with
  | nil =>
    obtain ⟨fuel, rfl⟩ := Nat.exists_eq_add_of_le' (show 1 ≤ fuel by omega)
    exact h fuel rest (by simp at hfuel; omega) hrest
  | cons symbols tighter ih =>
    obtain ⟨hsymbols, htighter⟩ := List.forall_mem_cons.mp hapart
    rw [List.length_cons] at hfuel
    obtain ⟨fuel, rfl⟩ := Nat.exists_eq_add_of_le' (show 2 ≤ fuel by omega)
    rw [Reader.level, ih htighter (by omega)]
    change levelRest (fuel + 1) symbols tighter e rest = _
    cases hrest with
    | nil => rfl
    | @op symbol more hsymbol =>
      have hnot : symbols.contains symbol = false :=
        Bool.eq_false_iff.mpr fun hin => hsymbols symbol hsymbol (List.contains_iff_mem.mp hin)
      rw [levelRest, hnot]
      rfl

/-! ### Reading unions -/

/-- The tokens are an operand, and operands with bars before them. -/
def Joined (ts : List Token) (e : Expr) : Prop :=
  ∀ fuel rest, 30 * ts.length + 9 ≤ fuel → Stops joining rest → ∃ a more fuel',
    level fuel levels.tail (ts ++ rest) = some (a, more) ∧ fuel ≤ fuel' + ts.length ∧
      levelRest fuel ["|"] levels.tail a more = levelRest fuel' ["|"] levels.tail e rest

theorem apart_tail : ∀ symbols ∈ levels.tail, ∀ s ∈ joining, s ∉ symbols := by decide

theorem Signed.joined (h : Signed ts e) : Joined ts e := by
  intro fuel rest hfuel hrest
  exact ⟨e, rest, fuel, h.level hrest apart_tail hfuel, by omega, rfl⟩

theorem Joined.either (h : Joined ts l) (hr : Signed ts' r) :
    Joined (ts ++ .op "|" :: ts') (.either l r) := by
  intro fuel rest hfuel hrest
  rw [List.length_append, List.length_cons] at hfuel
  obtain ⟨a, more, fuel', hlevel, hle, hjoined⟩ :=
    h fuel (.op "|" :: (ts' ++ rest)) (by omega) (.op (by decide))
  obtain ⟨fuel', rfl⟩ := Nat.exists_eq_add_of_le' (show 1 ≤ fuel' by omega)
  refine ⟨a, more, fuel', ?_, ?_, hjoined.trans ?_⟩
  · rw [List.append_assoc]
    exact hlevel
  · rw [List.length_append, List.length_cons]
    omega
  · change (level fuel' levels.tail (ts' ++ rest)).bind _ = _
    rw [hr.level hrest apart_tail (show 30 * ts'.length + 4 + levels.tail.length ≤ fuel' by
      change 30 * ts'.length + 9 ≤ fuel'
      omega)]
    rfl

/-- The tokens are a whole expression. -/
def Whole (ts : List Token) (e : Expr) : Prop :=
  ∀ fuel rest, 30 * ts.length + 15 ≤ fuel → Stops ending rest →
    expression fuel (ts ++ rest) = some (e, rest)

theorem Joined.whole (h : Joined ts e) (hb : Begins ts) : Whole ts e := by
  intro fuel rest hfuel hrest
  obtain ⟨fuel, rfl⟩ := Nat.exists_eq_add_of_le' (show 5 ≤ fuel by omega)
  obtain ⟨a, more, fuel', hlevel, hle, hjoined⟩ :=
    h fuel rest (by omega) (hrest.mono (by decide))
  obtain ⟨fuel', rfl⟩ := Nat.exists_eq_add_of_le' (show 1 ≤ fuel' by omega)
  have hsum : level (fuel + 1) levels (ts ++ rest) = some (e, rest) := by
    change (level fuel levels.tail (ts ++ rest)).bind _ = _
    rw [hlevel]
    change levelRest fuel ["|"] levels.tail a more = _
    rw [hjoined]
    cases hrest with
    | nil => rfl
    | op hsymbol =>
      simp only [ending, List.mem_cons, List.not_mem_nil, or_false] at hsymbol
      rcases hsymbol with rfl | rfl | rfl <;> rfl
  have hnegation : negation (fuel + 2) (ts ++ rest) = some (e, rest) := by
    rw [negation, hb.isKeyword (by decide), if_neg Bool.false_ne_true, hsum]
    change comparisons (fuel + 1) e rest = _
    cases hrest with
    | nil => rfl
    | op hsymbol =>
      simp only [ending, List.mem_cons, List.not_mem_nil, or_false] at hsymbol
      rcases hsymbol with rfl | rfl | rfl <;> rfl
  have hconjunction : conjunction (fuel + 3) (ts ++ rest) = some (e, rest) := by
    rw [conjunction, hnegation]
    change (if isKeyword "and" rest = true then _ else _) = _
    rw [hrest.isKeyword]
    rfl
  have hdisjunction : disjunction (fuel + 4) (ts ++ rest) = some (e, rest) := by
    rw [disjunction, hconjunction]
    change (if isKeyword "or" rest = true then _ else _) = _
    rw [hrest.isKeyword]
    rfl
  rw [expression, hdisjunction]
  change (if isKeyword "if" rest = true then _ else _) = _
  rw [hrest.isKeyword]
  rfl

/-! ### Reading items -/

/-- The tokens are items with commas between them, and there may be a last comma; a single item
without a comma is told apart. -/
inductive Items : List Token → List Expr → Bool → Prop
  | nil : Items [] [] false
  | one {ts : List Token} {e : Expr} (h : Whole ts e) (hb : Begins ts) : Items ts [e] true
  | cons {ts ts' : List Token} {e : Expr} {es : List Expr} {single : Bool} (h : Whole ts e)
      (hb : Begins ts) (hrest : Items ts' es single) : Items (ts ++ .op "," :: ts') (e :: es) false

theorem starred_of_whole (h : Whole ts e) (hb : Begins ts) (hrest : Stops ending rest)
    (hfuel : 30 * ts.length + 16 ≤ fuel) : starred fuel (ts ++ rest) = some (e, rest) := by
  obtain ⟨fuel, rfl⟩ := Nat.exists_eq_add_of_le' (show 1 ≤ fuel by omega)
  rw [starred, hb.isOp (by decide), if_neg Bool.false_ne_true]
  exact h fuel rest (by omega) hrest

theorem isOp_cons (o : String) (rest : List Token) : isOp o (.op o :: rest) = true :=
  beq_self_eq_true o

/-- Items are read up to the bracket that closes them. -/
theorem Items.sequence {closer : String} (h : Items ts es single) (hc : closer ∈ ["]", ")"])
    (hfuel : 30 * ts.length + 20 ≤ fuel) :
    Reader.sequence fuel closer (ts ++ .op closer :: rest) = some (es, single, rest) := by
  have hopens : openers.contains closer = false := by
    simp only [List.mem_cons, List.not_mem_nil, or_false] at hc
    rcases hc with rfl | rfl <;> rfl
  have hcomma : Reader.isOp "," (.op closer :: rest) = false := by
    simp only [List.mem_cons, List.not_mem_nil, or_false] at hc
    rcases hc with rfl | rfl <;> rfl
  induction h generalizing fuel with
  | nil =>
    obtain ⟨fuel, rfl⟩ := Nat.exists_eq_add_of_le' (show 1 ≤ fuel by omega)
    rw [List.nil_append, Reader.sequence, isOp_cons, if_pos rfl]
    rfl
  | @one ts e hwhole hb =>
    obtain ⟨fuel, rfl⟩ := Nat.exists_eq_add_of_le' (show 1 ≤ fuel by omega)
    have hclose : Stops ending (.op closer :: rest) := .op (List.mem_cons_of_mem _ hc)
    rw [Reader.sequence, hb.isOp hopens, if_neg Bool.false_ne_true,
      starred_of_whole hwhole hb hclose (by omega)]
    change (if Reader.isOp "," (.op closer :: rest) = true then _ else _) = _
    rw [hcomma, if_neg Bool.false_ne_true, after?, isOp_cons]
    rfl
  | @cons ts ts' e es single hwhole hb _ ih =>
    rw [List.length_append, List.length_cons] at hfuel
    obtain ⟨fuel, rfl⟩ := Nat.exists_eq_add_of_le' (show 1 ≤ fuel by omega)
    rw [List.append_assoc, List.cons_append, Reader.sequence, hb.isOp hopens,
      if_neg Bool.false_ne_true, starred_of_whole hwhole hb (.op (by decide)) (by omega)]
    change (Reader.sequence fuel closer (ts' ++ .op closer :: rest)).bind _ = _
    rw [ih (by omega)]
    rfl

theorem subscriptItem_of_whole (h : Whole ts e) (hb : Begins ts) (hrest : Stops ending rest)
    (hfuel : 30 * ts.length + 18 ≤ fuel) : subscriptItem fuel (ts ++ rest) = some (e, rest) := by
  obtain ⟨fuel, rfl⟩ := Nat.exists_eq_add_of_le' (show 2 ≤ fuel by omega)
  rw [subscriptItem, rangeParts, hb.isOp (by decide), hb.isOp (by decide),
    hb.isOp (by decide), starred_of_whole h hb hrest (by omega)]
  change Option.bind (if isOp ":" rest = true then _ else _) _ = _
  rw [hrest.isOp (by decide)]
  rfl

/-- Subscripts are read up to the bracket that closes them. -/
theorem Items.subscripts (h : Items ts es single) (hfuel : 30 * ts.length + 20 ≤ fuel) :
    Reader.subscripts fuel (ts ++ .op "]" :: rest) = some (es, single, rest) := by
  induction h generalizing fuel with
  | nil =>
    obtain ⟨fuel, rfl⟩ := Nat.exists_eq_add_of_le' (show 1 ≤ fuel by omega)
    rfl
  | @one ts e hwhole hb =>
    obtain ⟨fuel, rfl⟩ := Nat.exists_eq_add_of_le' (show 1 ≤ fuel by omega)
    have hclose : Stops ending (.op "]" :: rest) := .op (by decide)
    rw [Reader.subscripts, hb.isOp (by decide), if_neg Bool.false_ne_true,
      subscriptItem_of_whole hwhole hb hclose (by omega)]
    change some ([e], !isOp "*" (ts ++ .op "]" :: rest), rest) = _
    rw [hb.isOp (by decide)]
    rfl
  | @cons ts ts' e es single hwhole hb _ ih =>
    rw [List.length_append, List.length_cons] at hfuel
    obtain ⟨fuel, rfl⟩ := Nat.exists_eq_add_of_le' (show 1 ≤ fuel by omega)
    rw [List.append_assoc, List.cons_append, Reader.subscripts, hb.isOp (by decide),
      if_neg Bool.false_ne_true, subscriptItem_of_whole hwhole hb (.op (by decide)) (by omega)]
    change (Reader.subscripts fuel (ts' ++ .op "]" :: rest)).bind _ = _
    rw [ih (by omega)]
    rfl

/-! ### Brackets -/

/-- What items are between parentheses, or as a subscript: the only one, or a tuple. -/
def grouped : List Expr → Bool → Expr
  | [e], true => e
  | es, _ => .tuple es

theorem Items.parentheses (h : Items ts es single) :
    Trailed (.op "(" :: ts ++ [.op ")"]) (grouped es single) := by
  intro fuel rest hfuel hrest
  rw [List.length_append, List.length_cons, List.length_singleton] at hfuel
  obtain ⟨fuel, rfl⟩ := Nat.exists_eq_add_of_le' (show 1 ≤ fuel by omega)
  refine ⟨_, rest, fuel + 1, ?_, by omega, rfl⟩
  rw [List.append_assoc]
  change (Reader.sequence fuel ")" (ts ++ .op ")" :: rest)).bind _ = _
  rw [h.sequence (by decide) (by omega)]
  cases h with
  | nil => rfl
  | one => rfl
  | @cons _ _ _ es => cases es <;> rfl

theorem Items.brackets (h : Items ts es single) :
    Trailed (.op "[" :: ts ++ [.op "]"]) (.list es) := by
  intro fuel rest hfuel hrest
  rw [List.length_append, List.length_cons, List.length_singleton] at hfuel
  obtain ⟨fuel, rfl⟩ := Nat.exists_eq_add_of_le' (show 1 ≤ fuel by omega)
  refine ⟨_, rest, fuel + 1, ?_, by omega, rfl⟩
  rw [List.append_assoc]
  change (Reader.sequence fuel "]" (ts ++ .op "]" :: rest)).bind _ = _
  rw [h.sequence (by decide) (by omega)]
  rfl

theorem Trailed.subscript (h : Trailed ts e) (hi : Items ts' es single) (hb : Begins ts') :
    Trailed (ts ++ (.op "[" :: ts' ++ [.op "]"])) (.subscript e (grouped es single)) := by
  intro fuel rest hfuel hrest
  simp only [List.length_append, List.length_cons, List.length_nil] at hfuel ⊢
  obtain ⟨a, more, fuel', hatom, hle, htrailers⟩ :=
    h fuel (.op "[" :: (ts' ++ .op "]" :: rest)) (by omega) (.op (by decide))
  obtain ⟨fuel', rfl⟩ := Nat.exists_eq_add_of_le' (show 1 ≤ fuel' by omega)
  refine ⟨a, more, fuel', ?_, by omega, htrailers.trans ?_⟩
  · simpa only [List.append_assoc, List.cons_append, List.nil_append] using hatom
  · change (if isOp "]" (ts' ++ .op "]" :: rest) = true then _ else _) = _
    rw [hb.isOp (by decide), if_neg Bool.false_ne_true, hi.subscripts (by omega)]
    cases hi with
    | nil => rfl
    | one => rfl
    | @cons _ _ _ es => cases es <;> rfl

/-! ### Calls -/

/-- More arguments, with a comma before them. -/
def separated : List Token → List Token
  | [] => []
  | ts => .op "," :: ts

/-- The tokens are arguments, the named ones last. -/
inductive Arguments : List Token → List Expr → List (String × Expr) → Prop
  | nil : Arguments [] [] []
  | positional {ts ts' : List Token} {e : Expr} {es : List Expr} {named : List (String × Expr)}
      (h : Whole ts e) (hb : Begins ts) (hrest : Arguments ts' es named) :
    Arguments (ts ++ separated ts') (e :: es) named
  | named {ts ts' : List Token} {e : Expr} {named : List (String × Expr)} (n : String)
      (h : Whole ts e) (hrest : Arguments ts' [] named) :
    Arguments (.name n :: .op "=" :: (ts ++ separated ts')) [] ((n, e) :: named)

theorem Arguments.of_nil (h : Arguments ts es named) (hts : ts = []) : es = [] ∧ named = [] := by
  cases h with
  | nil => exact ⟨rfl, rfl⟩
  | positional _ hb =>
    obtain ⟨t, more, rfl, -⟩ := hb
    cases hts
  | named => cases hts

theorem stops_separated (ts rest : List Token) :
    Stops ending (separated ts ++ .op ")" :: rest) := by
  cases ts <;> exact .op (by decide)

theorem isOp_separated (ts rest : List Token) :
    isOp "=" (separated ts ++ .op ")" :: rest) = false := by
  cases ts <;> rfl

theorem argumentsRest_separated (h : Arguments ts es named)
    (hread : argumentsFrom fuel (ts ++ .op ")" :: rest) = some (es, named, rest)) :
    argumentsRest (fuel + 1) (separated ts ++ .op ")" :: rest) = some (es, named, rest) := by
  cases ts with
  | nil =>
    obtain ⟨rfl, rfl⟩ := h.of_nil rfl
    rfl
  | cons => exact hread

theorem argumentsFrom_positional (hclose : isOp ")" ts = false)
    (hnamed : ∀ n more, ts ≠ .name n :: .op "=" :: more)
    (h : expression fuel ts = some (e, ts')) :
    argumentsFrom (fuel + 1) ts =
      (argumentsRest fuel ts').map fun found => (e :: found.1, found.2) := by
  rw [argumentsFrom, hclose, if_neg Bool.false_ne_true]
  · rw [h]
    exact (Option.map_eq_bind ..).symm
  · exact hnamed

theorem length_le_separated (ts : List Token) : ts.length ≤ (separated ts).length := by
  cases ts <;> simp [separated]

theorem Begins.length_pos (h : Begins ts) : 0 < ts.length := by
  obtain ⟨t, more, rfl, -⟩ := h
  exact Nat.succ_pos _

/-- Arguments are read up to the parenthesis that closes them. -/
theorem Arguments.read (h : Arguments ts es named) (hfuel : 30 * ts.length + 20 ≤ fuel) :
    argumentsFrom fuel (ts ++ .op ")" :: rest) = some (es, named, rest) := by
  induction h generalizing fuel with
  | nil =>
    obtain ⟨fuel, rfl⟩ := Nat.exists_eq_add_of_le' (show 1 ≤ fuel by omega)
    rfl
  | @positional ts ts' e es named hwhole hb hargs ih =>
    have hpos := hb.length_pos
    have hle := length_le_separated ts'
    rw [List.length_append] at hfuel
    obtain ⟨fuel, rfl⟩ := Nat.exists_eq_add_of_le' (show 2 ≤ fuel by omega)
    have hexpression := hwhole (fuel + 1) _ (by omega) (stops_separated ts' rest)
    rw [List.append_assoc, argumentsFrom_positional (hb.isOp (by decide)) ?_ hexpression,
      argumentsRest_separated hargs (ih (by omega))]
    · rfl
    · intro n more heq
      obtain ⟨t, ts, rfl, -, hmore⟩ := hb
      have hequals := isOp_append hmore (isOp_separated ts' rest)
      have hnext : ts ++ (separated ts' ++ .op ")" :: rest) = .op "=" :: more :=
        (List.cons.inj heq).2
      rw [hnext] at hequals
      cases hequals
  | @named ts ts' e named n hwhole hargs ih =>
    have hle := length_le_separated ts'
    simp only [List.length_cons, List.length_append] at hfuel
    obtain ⟨fuel, rfl⟩ := Nat.exists_eq_add_of_le' (show 2 ≤ fuel by omega)
    have hexpression := hwhole (fuel + 1) _ (by omega) (stops_separated ts' rest)
    rw [List.cons_append, List.cons_append, List.append_assoc]
    change (expression (fuel + 1) (ts ++ (separated ts' ++ .op ")" :: rest))).bind _ = _
    rw [hexpression]
    change (argumentsRest (fuel + 1) (separated ts' ++ .op ")" :: rest)).bind _ = _
    rw [argumentsRest_separated hargs (ih (by omega))]
    rfl

theorem Trailed.call (h : Trailed ts e) (ha : Arguments ts' es named) :
    Trailed (ts ++ (.op "(" :: ts' ++ [.op ")"])) (.call e es named) := by
  intro fuel rest hfuel hrest
  simp only [List.length_append, List.length_cons, List.length_nil] at hfuel ⊢
  obtain ⟨a, more, fuel', hatom, hle, htrailers⟩ :=
    h fuel (.op "(" :: (ts' ++ .op ")" :: rest)) (by omega) (.op (by decide))
  obtain ⟨fuel', rfl⟩ := Nat.exists_eq_add_of_le' (show 1 ≤ fuel' by omega)
  refine ⟨a, more, fuel', ?_, by omega, htrailers.trans ?_⟩
  · simpa only [List.append_assoc, List.cons_append, List.nil_append] using hatom
  · change (argumentsFrom fuel' (ts' ++ .op ")" :: rest)).bind _ = _
    rw [ha.read (by omega)]
    rfl

end TypeProjection.Annotation.Reader
