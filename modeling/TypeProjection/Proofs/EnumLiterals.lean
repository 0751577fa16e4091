import Mathlib.Data.List.Induction
import TypeProjection.Annotation.Types
import TypeProjection.Definition.Enumeration
import TypeProjection.Graph
import TypeProjection.Proofs.AnnotationKeys
import TypeProjection.Proofs.Outcome
import TypeProjection.Proofs.QuotedTexts
import TypeProjection.Proofs.TextResolution
import TypeProjection.Walk

/-!
# Values of enumerations

What a field of an enumeration holds can be read back. An integer is written in its canonical
decimal form and a text as a quoted literal. No two of these values share a literal, except for
texts in which the halves of a pair stand next to each other: such a text is read as the one with the
character that they make. A declaration has one field for each entry of the enumeration, further
names of a member included.
-/

namespace TypeProjection

/-! ### Integers -/

/-- The decimal digits of a number, with no zero in front of others. -/
structure Decimal (n : Nat) (cs : List Char) : Prop where
  digits : ∀ c ∈ cs, c.isDigit = true
  nonempty : cs ≠ []
  canonical : cs.head? = some '0' → cs = ['0']
  value : Nat.ofDigitChars 10 cs 0 = n

/-- The canonical text of an integer. -/
def SignedDecimal : Int → List Char → Prop
  | .ofNat n, cs => Decimal n cs
  | .negSucc n, cs => ∃ digits, cs = '-' :: digits ∧ Decimal (n + 1) digits

variable {n : Nat} {cs : List Char}

theorem digitChar_of_isDigit {c : Char} (h : c.isDigit = true) :
    c.toNat - '0'.toNat < 10 ∧ (c.toNat - '0'.toNat).digitChar = c := by
  simp only [Char.isDigit, UInt32.le_iff_toNat_le, Bool.and_eq_true, decide_eq_true_eq] at h
  obtain ⟨hlow, hhigh⟩ : 48 ≤ c.toNat ∧ c.toNat ≤ 57 := h
  have hzero : '0'.toNat = 48 := rfl
  refine ⟨by omega, Char.toNat_inj.mp ?_⟩
  rw [Nat.toNat_digitChar_of_lt_ten (by omega)]
  omega

theorem head_toDigits (h : n ≠ 0) : (Nat.toDigits 10 n).head? ≠ some '0' := by
  induction n using Nat.strongRecOn with
  | ind n ih =>
    rw [Nat.toDigits_eq_if (by decide)]
    split
    · rw [List.head?_cons, ne_eq, Option.some_inj, Nat.digitChar_eq_zero]
      exact h
    · rw [List.head?_append_of_ne_nil _ Nat.toDigits_ne_nil]
      exact ih (n / 10) (by omega) (by omega)

theorem decimal_toDigits (n : Nat) : Decimal n (Nat.toDigits 10 n) where
  digits c hc := Nat.isDigit_of_mem_toDigits (by decide) (by decide) hc
  nonempty := Nat.toDigits_ne_nil
  canonical h := by
    by_cases hn : n = 0
    · subst hn
      exact Nat.toDigits_zero 10
    · exact absurd h (head_toDigits hn)
  value := Nat.ofDigitChars_ten_toDigits

/-- A number has one canonical form. -/
theorem Decimal.eq_toDigits (h : Decimal n cs) : cs = Nat.toDigits 10 n := by
  induction cs using List.reverseRecOn generalizing n with
  | nil => exact absurd rfl h.nonempty
  | append_singleton front c ih =>
    obtain ⟨hc, hchar⟩ := digitChar_of_isDigit (h.digits c (by simp))
    have hlast : Nat.toDigits 10 (c.toNat - '0'.toNat) = [c] := by
      rw [Nat.toDigits_of_lt_base hc, hchar]
    have hvalue : 10 * Nat.ofDigitChars 10 front 0 + (c.toNat - '0'.toNat) = n := by
      rw [← h.value, Nat.ofDigitChars_append, Nat.ofDigitChars_cons, Nat.ofDigitChars_nil]
    by_cases hfront : front = []
    · subst hfront
      rw [Nat.ofDigitChars_nil, Nat.mul_zero, Nat.zero_add] at hvalue
      rw [List.nil_append, ← hvalue, hlast]
    · have hhead : front.head? ≠ some '0' := fun hzero => by
        have hall := h.canonical (by rwa [List.head?_append_of_ne_nil _ hfront])
        exact hfront (List.append_eq_singleton_iff.mp hall |>.elim (·.1) fun h => by simp at h)
      have hdigits := ih ⟨fun x hx => h.digits x (List.mem_append_left _ hx), hfront,
        fun hzero => absurd hzero hhead, rfl⟩
      have hpos : 0 < Nat.ofDigitChars 10 front 0 := by
        refine Nat.pos_of_ne_zero fun hzero => hhead ?_
        rw [hdigits, hzero, Nat.toDigits_zero]
        rfl
      rw [← hvalue, ← Nat.toDigits_append_toDigits (by decide) hpos hc, ← hdigits, hlast]

/-- An integer has one canonical text, and it is the literal of the integer. -/
theorem signedDecimal_iff {n : Int} {text : String} :
    SignedDecimal n text.toList ↔ text = (Literal.int n).enumText := by
  cases n with
  | ofNat n =>
    have htext : ((Literal.int (.ofNat n)).enumText).toList = Nat.toDigits 10 n := Nat.toList_repr
    rw [← String.toList_inj, htext]
    exact ⟨Decimal.eq_toDigits, fun h => h ▸ decimal_toDigits n⟩
  | negSucc n =>
    have htext : ((Literal.int (.negSucc n)).enumText).toList = '-' :: Nat.toDigits 10 (n + 1) := by
      show ("-" ++ (n + 1).repr).toList = _
      rw [String.toList_append, Nat.toList_repr]
      rfl
    rw [← String.toList_inj, htext]
    constructor
    · rintro ⟨digits, hdigits, hd⟩
      rw [hdigits, hd.eq_toDigits]
    · exact fun h => ⟨_, h, decimal_toDigits (n + 1)⟩

/-! ### Texts and integers together -/

/-- The first character of an integer's text is a digit or a sign. -/
theorem SignedDecimal.head_ne_quote {n : Int} (h : SignedDecimal n cs) : cs.head? ≠ some '"' := by
  have hdecimal : ∀ {m : Nat} {ds : List Char}, Decimal m ds → ds.head? ≠ some '"' := by
    intro m ds hd hhead
    exact absurd (hd.digits _ (List.mem_of_mem_head? hhead)) (by decide)
  cases n with
  | ofNat n => exact hdecimal h
  | negSucc n =>
    obtain ⟨digits, rfl, _⟩ := h
    simp

theorem SignedDecimal.inj {n m : Int} (hn : SignedDecimal n cs) (hm : SignedDecimal m cs) :
    n = m := by
  have hsign : ∀ {k : Nat} {ds : List Char}, ¬ Decimal k ('-' :: ds) := fun hd =>
    absurd (hd.digits '-' (List.mem_cons_self ..)) (by decide)
  cases n with
  | ofNat n =>
    cases m with
    | ofNat m => rw [← Decimal.value hn, ← Decimal.value hm]
    | negSucc m =>
      obtain ⟨digits, rfl, _⟩ := hm
      exact absurd hn hsign
  | negSucc n =>
    obtain ⟨digits, rfl, hd⟩ := hn
    cases m with
    | ofNat m => exact absurd hm hsign
    | negSucc m =>
      obtain ⟨digits', hdigits, hd'⟩ := hm
      cases hdigits
      rw [Int.negSucc_inj]
      exact Nat.succ_inj.mp (hd.value.symm.trans hd'.value)

/-- Two integers or texts have one literal exactly if they are the same, texts with their pairs
joined. -/
theorem enumText_eq_iff {v w : Int ⊕ List Text.Point} :
    (v.elim Literal.int Literal.str).enumText = (w.elim Literal.int Literal.str).enumText ↔
      v.map id Text.joinPairs = w.map id Text.joinPairs := by
  have hint (n : Int) : SignedDecimal n (Literal.int n).enumText.toList := signedDecimal_iff.mpr rfl
  have hparse (ps : List Text.Point) :
      Json.parse (Literal.str ps).enumText = some (.ofPoints (Text.joinPairs ps)) :=
    Text.parse_quote ps
  have hne (n : Int) (ps : List Text.Point) :
      (Literal.int n).enumText ≠ (Literal.str ps).enumText := by
    intro h
    obtain ⟨pieces, _, hquote⟩ := Text.quotes_quote ps
    refine (hint n).head_ne_quote ?_
    rw [h]
    exact congrArg List.head? hquote
  constructor
  · rcases v with n | ps <;> rcases w with m | qs <;> intro h
    · have hm := hint m
      rw [← show (Literal.int n).enumText = (Literal.int m).enumText from h] at hm
      rw [(hint n).inj hm]
    · exact absurd h (hne n qs)
    · exact absurd h.symm (hne m ps)
    · have hq := hparse qs
      rw [← show (Literal.str ps).enumText = (Literal.str qs).enumText from h, hparse ps] at hq
      exact congrArg Sum.inr (Text.ofPoints_injective (Option.some.inj hq))
  · rcases v with n | ps <;> rcases w with m | qs <;> intro h
    · cases h
      rfl
    · cases h
    · cases h
    · show Text.quote ps = Text.quote qs
      rw [← Text.quote_joinPairs ps, ← Text.quote_joinPairs qs, Sum.inr.inj h]

/-- No two integers or texts without pairs have the same literal. -/
theorem enumText_injective :
    Function.Injective fun v : Int ⊕ {ps : List Text.Point // Text.Unpaired ps} =>
      (v.elim Literal.int fun ps => Literal.str ps).enumText := by
  have hval (v : Int ⊕ {ps : List Text.Point // Text.Unpaired ps}) :
      (v.elim Literal.int fun ps => Literal.str ps) =
        (v.map id Subtype.val).elim Literal.int Literal.str := by cases v <;> rfl
  intro v w h
  dsimp only at h
  rw [hval, hval, enumText_eq_iff] at h
  rcases v with n | ⟨ps, hps⟩ <;> rcases w with m | ⟨qs, hqs⟩
  · cases h
    rfl
  · cases h
  · cases h
  · have hjoined : Text.joinPairs ps = Text.joinPairs qs := Sum.inr.inj h
    rw [Text.joinPairs_of_unpaired hps, Text.joinPairs_of_unpaired hqs] at hjoined
    subst hjoined
    rfl

/-! ### Declarations -/

open Walk in
/-- An enumeration that is neither skipped nor declared already gets a field for each entry. -/
theorem ends_buildEnum_fresh {τ : Type} [BEq τ] (U : Universe τ) {t : τ} {r : Registry τ}
    (hskip : r.options.skips (U.displayName t) = false) (hfresh : r.findEnum t = none) :
    Ends true (buildEnum U t) r fun x _ => ∃ d, x = some d ∧ d.source = t ∧
      List.Forall₂ (fun m f => f.name = m.1 ∧ f.literal = m.2.enumText) (U.enumMembers t) d.fields := by
  unfold buildEnum
  simp only [ends_bind, ends_isSkipped, hskip, Bool.false_eq_true, if_false, ends_get, hfresh,
    ends_renamed, ends_modify, ends_report, ends_pure]
  refine ⟨_, rfl, rfl, ?_⟩
  exact List.forall₂_map_right_iff.mpr (List.forall₂_same.mpr fun _ _ => ⟨rfl, rfl⟩)

namespace Definition

open Annotation

/-- Does a name in the body of an enumeration name a member? -/
def namesMember (owner name : String) : Bool := !(isPrivateTo owner name || isSpecial name)

/-- The names that a definition gives to members. -/
def EnumDefinition.memberNames (d : EnumDefinition) : List String :=
  (d.members.map fun m => privateName d.name (Text.normalForm m.1)).filter
    (namesMember d.name)

theorem names_of_assignedValues {owner : String} {numbering : Numbering}
    {given values : List (String × Literal)} {previous : List Literal}
    {written : List (String × MemberValue)}
    (h : assignedValues owner numbering given previous written = .ok values) :
    values.map (·.1) = given.map (·.1) ++
      (written.map fun m => privateName owner (Text.normalForm m.1)).filter
        (namesMember owner) := by
  induction written generalizing given previous with
  | nil =>
    cases h
    simp
  | cons m written ih =>
    rw [assignedValues] at h
    extract_lets go at h
    rw [List.map_cons]
    split at h
    · next hleft =>
      rw [List.filter_cons_of_neg (by rw [namesMember, hleft]; decide), ih h]
    · next hkept =>
      split at h
      · cases h
      · split at h
        · cases h
        · have hgo : ∃ v, go v = .ok values := by
            split at h
            · exact ⟨_, h⟩
            · obtain ⟨v, _, h⟩ := World.bind_eq_ok.mp h
              exact ⟨v, h⟩
          obtain ⟨v, hv⟩ := hgo
          have hname : namesMember owner
              (privateName owner (Text.normalForm m.1)) = true := by
            rw [namesMember, Bool.eq_false_iff.mpr hkept, Bool.not_false]
          rw [List.filter_cons_of_pos hname, ih hv, List.map_append, List.append_assoc]
          rfl

/-- Every entry is kept in its place, and its member is an entry as well. -/
theorem entries_of_namedMembers {kind : DataKind} {values : List (String × Literal)}
    {done members : List (String × String × Literal)}
    (h : namedMembers kind done values = .ok members) (hdone : ∀ m ∈ done, (m.2.1, m.2) ∈ done) :
    members.map (·.1) = done.map (·.1) ++ values.map (·.1) ∧
      ∀ m ∈ members, (m.2.1, m.2) ∈ members := by
  induction values generalizing done with
  | nil =>
    cases h
    exact ⟨by simp, hdone⟩
  | cons e values ih =>
    rw [namedMembers] at h
    obtain ⟨v, _, h⟩ := World.bind_eq_ok.mp h
    extract_lets entry at h
    have hentry : entry.1 = e.1 ∧
        ((entry.2.1, entry.2) ∈ done ∨ (entry.2.1, entry.2) = entry) := by
      unfold entry
      split
      · next m hm => exact ⟨rfl, .inl (hdone m (List.mem_of_find?_eq_some hm))⟩
      · exact ⟨rfl, .inr rfl⟩
    have hmore : ∀ m ∈ done ++ [entry], (m.2.1, m.2) ∈ done ++ [entry] := by
      refine List.forall_mem_append.mpr ⟨fun m hm => ?_, List.forall_mem_singleton.mpr ?_⟩
      · exact List.mem_append_left _ (hdone m hm)
      · rw [List.mem_append, List.mem_singleton]
        exact hentry.2
    obtain ⟨hnames, hmembers⟩ := ih h hmore
    refine ⟨?_, hmembers⟩
    rw [hnames, List.map_append, List.append_assoc, List.map_singleton, hentry.1]
    rfl

/-- The entries of an enumeration are the names in its definition, in order. A name whose value was
taken is a further name of an entry before it. -/
theorem entries_of_enumMembers {w : World} {d : EnumDefinition}
    {bases : List ClassRef} {members : List (String × String × Literal)}
    (h : enumMembers w d bases = .ok members) :
    members.map (·.1) = d.memberNames ∧ ∀ m ∈ members, (m.2.1, m.2) ∈ members := by
  obtain ⟨_, _, h⟩ := World.bind_eq_ok.mp h
  obtain ⟨values, hvalues, h⟩ := World.bind_eq_ok.mp h
  split at h
  · cases h
  · obtain ⟨hnames, hmembers⟩ := entries_of_namedMembers h (List.forall_mem_nil _)
    exact ⟨hnames.trans (names_of_assignedValues hvalues), hmembers⟩

end Definition

open Annotation in
/-- The literals of enumerations are faithful. An integer has its canonical text, and a text a literal
in printable ASCII that reads back as the text with its pairs joined: as the text itself if there are
none, as in every text of characters. Without pairs no two of them share a literal. The declaration
of an enumeration that is neither skipped nor declared already has one field for each entry, in
order; the entries of a class are those of its members and of the further names that members have,
which are all the names in its definition. -/
theorem enum_literals :
    (∀ (n : Int) (text : String),
      SignedDecimal n text.toList ↔ text = (Literal.int n).enumText) ∧
    (∀ ps : List Text.Point, Text.Quotes ps (Literal.str ps).enumText.toList ∧
      (∀ x ∈ (Literal.str ps).enumText.toList, 32 ≤ x.toNat ∧ x.toNat ≤ 126) ∧
      Json.parse (Literal.str ps).enumText = some (.ofPoints (Text.joinPairs ps)) ∧
      (Text.joinPairs ps = ps ↔ Text.Unpaired ps)) ∧
    (∀ s : String, Text.Unpaired (Text.points s) ∧
      Json.parse (Literal.str (Text.points s)).enumText = some (.str s)) ∧
    (∀ v w : Int ⊕ List Text.Point,
      (v.elim Literal.int Literal.str).enumText = (w.elim Literal.int Literal.str).enumText ↔
        v.map id Text.joinPairs = w.map id Text.joinPairs) ∧
    (Function.Injective fun v : Int ⊕ {ps : List Text.Point // Text.Unpaired ps} =>
      (v.elim Literal.int fun ps => Literal.str ps).enumText) ∧
    (∀ {τ : Type} [BEq τ] (U : Universe τ) (t : τ) (r : Registry τ),
      r.options.skips (U.displayName t) = false → r.findEnum t = none →
      ∃ d r', Walk.buildEnum U t r = some (some d, r') ∧ d.source = t ∧
        List.Forall₂ (fun m f => f.name = m.1 ∧ f.literal = m.2.enumText)
          (U.enumMembers t) d.fields) ∧
    (∀ (w : World) (c : ClassRef), w.isEnumeration c = true →
      w.types.enumMembers (.cls c) = (w.membersOf c).map fun m => (m.1, m.2.2)) ∧
    ∀ (w : World) (d : Definition.EnumDefinition) (bases : List ClassRef)
      (members : List (String × String × Literal)),
      Definition.enumMembers w d bases = .ok members →
      members.map (·.1) = d.memberNames ∧ ∀ m ∈ members, (m.2.1, m.2) ∈ members := by
  refine ⟨fun _ _ => signedDecimal_iff, fun ps => ?_, fun s => ⟨Text.unpaired_points s, ?_⟩,
    fun _ _ => enumText_eq_iff, enumText_injective, ?_, ?_,
    fun _ _ _ _ => Definition.entries_of_enumMembers⟩
  · have hquotes : Text.Quotes ps (Literal.str ps).enumText.toList := Text.quotes_quote ps
    exact ⟨hquotes, hquotes.printable, Text.parse_quote ps, Text.joinPairs_eq_iff⟩
  · rw [← Text.ofPoints_points s]
    exact (Text.quotes_quote _).parse (Text.unpaired_points s)
  · intro τ _ U t r hskip hfresh
    obtain ⟨_, r', hrun, d, rfl, hd⟩ := Walk.ends_strict.mp (ends_buildEnum_fresh U hskip hfresh)
    exact ⟨d, r', hrun, hd⟩
  · intro w c hc
    have henum : w.isEnumType (.cls c) = true := by
      rw [World.isEnumType, Value.class?_cls]
      exact hc
    show (if w.isEnumType (.cls c) = true then
      (((Value.cls c).class?.map w.membersOf).getD []).map fun m => (m.1, m.2.2) else []) = _
    rw [if_pos henum, Value.class?_cls]
    rfl

/-- Sizes, one of which has two names. -/
def sizes : TypeGraph where
  nodes := [("Size", { GraphNode.plain "Size" with
    isStructural := false, isEnum := true
    enumMembers := [("SMALL", .int (-1)), ("LITTLE", .int (-1)), ("NAME", .str (Text.points "a\""))] })]

/-- The same sizes, as a definition. -/
def sizesDefinition : Definition.EnumDefinition :=
  ⟨"Size", "enum.Enum", [("SMALL", .written (.int (-1))), ("LITTLE", .written (.int (-1))),
    ("NAME", .written (.str (Text.points "a\"")))]⟩

open Annotation in
theorem enum_literals_sizes :
    (Literal.int (-1)).enumText = "-1" ∧ SignedDecimal (-1) (Literal.int (-1)).enumText.toList ∧
    (∃ d r', Walk.buildEnum sizes.types "Size" (Registry.fresh Options.default) =
        some (some d, r') ∧ d.source = "Size" ∧
      List.Forall₂ (fun m f => f.name = m.1 ∧ f.literal = m.2.enumText)
        (sizes.types.enumMembers "Size") d.fields) ∧
    (World.initial.types.enumMembers (.cls (.library "uuid" "SafeUUID")) =
      (World.initial.membersOf (.library "uuid" "SafeUUID")).map fun m => (m.1, m.2.2)) ∧
    [("SMALL", "SMALL", Literal.int (-1)), ("LITTLE", "SMALL", .int (-1)),
      ("NAME", "NAME", .str (Text.points "a\""))].map (·.1) = sizesDefinition.memberNames :=
  ⟨by decide, (enum_literals.1 _ _).mpr rfl,
    enum_literals.2.2.2.2.2.1 sizes.types "Size" _ (by decide) (by decide),
    enum_literals.2.2.2.2.2.2.1 World.initial _ (by decide),
    (enum_literals.2.2.2.2.2.2.2 World.initial sizesDefinition [.library "enum" "Enum"] _ rfl).1⟩

/-- The two halves of a pair, which make one character where they are read. -/
def halves : List Text.Point := [.ofCode 0xd83d, .ofCode 0xde00]

/-- Two texts may share a literal, and it reads back as one of them only. -/
theorem enum_literals_not_always_read_back :
    halves ≠ Text.points "😀" ∧
    (Literal.str halves).enumText = (Literal.str (Text.points "😀")).enumText ∧
    Json.parse (Literal.str halves).enumText ≠ some (.ofPoints halves) := by
  have hjoined : Text.joinPairs halves = Text.points "😀" := by decide
  have hhalves : halves ≠ Text.points "😀" := by decide
  refine ⟨hhalves, ?_, fun h => hhalves ?_⟩
  · show Text.quote halves = Text.quote (Text.points "😀")
    rw [← hjoined, Text.quote_joinPairs]
  · rw [show Json.parse (Literal.str halves).enumText = _ from Text.parse_quote halves] at h
    rw [← hjoined]
    exact (Text.ofPoints_injective (Option.some.inj h)).symm

end TypeProjection
