import TypeProjection.Proofs.EncodedTexts
import TypeProjection.Proofs.KeyedLists
import TypeProjection.Proofs.TextLines
import TypeProjection.Proofs.WrittenFiles
import TypeProjection.Settings.Configuration

/-!
# Files of replacements

A file of replacements is read back as what was written into it. A text writes a list of pairs if
each pair has a line of its own, however much space is around its sides, and every other line says
nothing: it is blank, it is a comment, it has no colon, or one of its sides is empty. Such a text is
read as the mapping of the pairs in which the last one counts, whichever line ends it uses. Two
texts, one behind the other at a line break, give the first mapping updated by the second.
-/

namespace TypeProjection

/-! ### Lists of pairs as mappings -/

section Mappings

variable {α : Type} {base entries : List (String × α)}

theorem lookup_putPairs (base entries : List (String × α)) (k : String) :
    (putPairs base entries).lookup k = (entries.reverse.lookup k).or (base.lookup k) := by
  unfold putPairs
  induction entries generalizing base with
  | nil => rfl
  | cons e entries ih =>
    rw [List.foldl_cons, ih, lookup_put_entry, List.reverse_cons, List.lookup_append,
      Option.or_assoc, List.lookup_cons]
    cases k == e.1 <;> rfl

/-- Where no key comes twice, the order of the pairs does not matter to what stands under a key. -/
theorem lookup_reverse (h : (keys entries).Nodup) (k : String) :
    entries.reverse.lookup k = entries.lookup k := by
  induction entries with
  | nil => rfl
  | cons e entries ih =>
    obtain ⟨he, hentries⟩ : e.1 ∉ keys entries ∧ (keys entries).Nodup := List.nodup_cons.mp h
    rw [List.reverse_cons, List.lookup_append, ih hentries, List.lookup_cons, List.lookup_cons]
    cases hk : k == e.1 with
    | false => exact Option.or_none
    | true =>
      have hnone : entries.lookup k = none := by
        refine List.lookup_eq_none_iff.mpr fun x hx => ?_
        rw [beq_iff_eq] at hk
        subst hk
        exact bne_iff_ne.mpr fun hx' => he (hx' ▸ List.mem_map_of_mem hx)
      rw [hnone]
      rfl

/-- What is put into an empty list and from there into another could have been put there at once. -/
theorem putPairs_putPairs (hbase : (keys base).Nodup) (entries : List (String × α)) :
    putPairs base (putPairs [] entries) = putPairs base entries := by
  have hempty : keys (putPairs [] entries) = distinct (keys entries) :=
    keys_putPairs_eq_distinct List.nodup_nil
  have hnodup : (keys (putPairs [] entries)).Nodup := hempty ▸ nodup_distinct _
  refine eq_of_keys_lookup ?_ (keys_putPairs_eq_distinct hbase ▸ nodup_distinct _) fun k => ?_
  · rw [keys_putPairs_eq_distinct hbase, keys_putPairs_eq_distinct hbase, hempty]
    exact distinct_append_congr (distinct_of_nodup (nodup_distinct _))
  · rw [lookup_putPairs, lookup_putPairs, lookup_reverse hnodup, lookup_putPairs, List.lookup_nil,
      Option.or_none]

end Mappings

namespace TypeMap

open Text

/-! ### What a line says -/

/-- Blanks within a line. -/
def Spaces (cs : List Char) : Prop := ∀ c ∈ cs, isBlank c = true ∧ isLineEnd c = false

instance (cs : List Char) : Decidable (Spaces cs) := List.decidableBAll _ cs

/-- A text that can stand on either side of a colon. -/
structure Side (cs : List Char) : Prop extends Bare cs where
  oneLine : OneLine cs

/-- A text that can stand to the left of a colon. -/
structure Key (cs : List Char) : Prop extends Side cs where
  no_colon : ':' ∉ cs
  no_comment : cs.head? ≠ some '#'

/-- A line and the pair that it writes, if it writes one. -/
inductive Line : List Char → Option (String × String) → Prop where
  | pair {k v : String} {a b c d : List Char} (hk : Key k.toList) (hv : Side v.toList)
      (ha : Spaces a) (hb : Spaces b) (hc : Spaces c) (hd : Spaces d) :
      Line (a ++ k.toList ++ b ++ ':' :: (c ++ v.toList ++ d)) (some (k, v))
  | blank {a : List Char} (ha : Spaces a) : Line a none
  | comment {a rest : List Char} (ha : Spaces a) (hrest : OneLine rest) :
      Line (a ++ '#' :: rest) none
  | noColon {line : List Char} (hline : OneLine line) (hcolon : ':' ∉ line) : Line line none
  | noKey {a rest : List Char} (ha : Spaces a) (hrest : OneLine rest) :
      Line (a ++ ':' :: rest) none
  | noValue {key a : List Char} (hkey : OneLine key) (hcolon : ':' ∉ key) (ha : Spaces a) :
      Line (key ++ ':' :: a) none

/-- The ways to end a line. -/
inductive Ending : List Char → Prop where
  | single {c : Char} (hc : isLineEnd c = true) : Ending [c]
  | double : Ending ['\r', '\n']

/-- The texts that write a list of pairs, line by line. The last line may go without an end. -/
inductive Writes : List (String × String) → List Char → Prop where
  | nil : Writes [] []
  | last {line : List Char} {pair? : Option (String × String)} (hline : Line line pair?) :
      Writes pair?.toList line
  | line {line ending rest : List Char} {pair? : Option (String × String)}
      {pairs : List (String × String)} (hline : Line line pair?) (hending : Ending ending)
      (hrest : Writes pairs rest) : Writes (pair?.toList ++ pairs) (line ++ ending ++ rest)

variable {cs line rest key left : List Char} {pair? : Option (String × String)}

theorem Spaces.blank (h : Spaces cs) : ∀ c ∈ cs, isBlank c = true := fun c hc => (h c hc).1

theorem Spaces.oneLine (h : Spaces cs) : OneLine cs := fun c hc => (h c hc).2

theorem Line.oneLine (h : Line line pair?) : OneLine line := by
  cases h with
  | pair hk hv ha hb hc hd =>
    exact ((ha.oneLine.append hk.oneLine).append hb.oneLine).append
      (.cons rfl ((hc.oneLine.append hv.oneLine).append hd.oneLine))
  | blank ha => exact ha.oneLine
  | comment ha hrest => exact ha.oneLine.append (.cons rfl hrest)
  | noColon hline => exact hline
  | noKey ha hrest => exact ha.oneLine.append (.cons rfl hrest)
  | noValue hkey _ ha => exact hkey.append (.cons rfl ha.oneLine)

/-- A line without a colon says nothing. -/
theorem entry?_of_not_mem (h : ':' ∉ line) : entry? line = none := by
  have hcut : cutAt ':' (strip line) = none := cutAt_of_not_mem fun hmem => h (strip_subset hmem)
  unfold entry?
  split
  · rfl
  · rfl
  · rw [hcut]

/-- What a line says that has a colon and is no comment. -/
theorem entry?_of_cut {value : List Char} (hstrip : strip line = key ++ ':' :: value)
    (hkey : ':' ∉ key) (hcomment : key.head? ≠ some '#') :
    entry? line = if (strip key).isEmpty || (strip value).isEmpty then none
      else some (String.ofList (strip key), String.ofList (strip value)) := by
  have hcut : cutAt ':' (strip line) = some (key, value) := by rw [hstrip, cutAt_append hkey]
  unfold entry?
  split
  · next heq =>
    rw [heq] at hstrip
    exact absurd hstrip.symm (List.append_ne_nil_of_right_ne_nil _ (List.cons_ne_nil _ _))
  · next heq =>
    rw [heq] at hstrip
    cases key with
    | nil => cases hstrip
    | cons c key =>
      cases hstrip
      exact absurd rfl hcomment
  · rw [hcut]

theorem entry?_comment (hleft : Spaces left) (rest : List Char) :
    entry? (left ++ '#' :: rest) = none := by
  have hstrip : strip (left ++ '#' :: rest) = '#' :: stripRight rest := by
    rw [strip_append_left hleft.blank, strip, List.dropWhile_cons_of_neg (by decide),
      stripRight_cons rfl]
  unfold entry?
  rw [hstrip]
  rfl

theorem entry?_noKey (hleft : Spaces left) (rest : List Char) :
    entry? (left ++ ':' :: rest) = none := by
  have hstrip : strip (left ++ ':' :: rest) = [] ++ ':' :: stripRight rest := by
    rw [strip_append_left hleft.blank, strip, List.dropWhile_cons_of_neg (by decide),
      stripRight_cons rfl, List.nil_append]
  rw [entry?_of_cut hstrip List.not_mem_nil (by simp)]
  rfl

theorem entry?_noValue (hkey : ':' ∉ key) {right : List Char} (hright : Spaces right) :
    entry? (key ++ ':' :: right) = none := by
  have hdrop : ':' ∉ key.dropWhile isBlank := fun h => hkey (List.dropWhile_subset _ h)
  have hstrip : strip (key ++ ':' :: right) = key.dropWhile isBlank ++ ':' :: [] := by
    rw [strip, dropWhile_append_cons rfl, List.append_cons, stripRight_append hright.blank,
      stripRight_of_last (by simp; rfl)]
  by_cases hcomment : (key.dropWhile isBlank).head? = some '#'
  · obtain ⟨rest, hrest⟩ := List.head?_eq_some_iff.mp hcomment
    unfold entry?
    rw [hstrip, hrest]
    rfl
  · rw [entry?_of_cut hstrip hdrop hcomment, strip_of_blank (List.forall_mem_nil _),
      List.isEmpty_nil, Bool.or_true]
    rfl

theorem entry?_pair {k v a b c d : List Char} (hk : Key k) (hv : Side v) (ha : Spaces a)
    (hb : Spaces b) (hc : Spaces c) (hd : Spaces d) :
    entry? (a ++ k ++ b ++ ':' :: (c ++ v ++ d)) = some (String.ofList k, String.ofList v) := by
  have hstrip : strip (a ++ k ++ b ++ ':' :: (c ++ v ++ d)) = (k ++ b) ++ ':' :: (c ++ v) := by
    have h := strip_padded ha.blank (hk.toBare.append hv.toBare (b ++ ':' :: c)) hd.blank
    simpa [List.append_assoc] using h
  have hkb : ':' ∉ k ++ b := by
    rw [List.mem_append]
    rintro (h | h)
    · exact hk.no_colon h
    · exact absurd (hb _ h).1 (by decide)
  have hhead : (k ++ b).head? ≠ some '#' := by
    rw [List.head?_append_of_ne_nil _ hk.nonempty]
    exact hk.no_comment
  rw [entry?_of_cut hstrip hkb hhead, strip_padded_right hk.toBare hb.blank,
    strip_padded_left hc.blank hv.toBare, List.isEmpty_eq_false_iff.mpr hk.nonempty,
    List.isEmpty_eq_false_iff.mpr hv.nonempty]
  rfl

/-- What a line says, as the list of the one pair or of none. -/
def saying (line : List Char) : List (String × String) :=
  match entry? line with
  | some pair => [pair]
  | none => []

theorem saying_of_entry {pair? : Option (String × String)} (h : entry? line = pair?) :
    saying line = pair?.toList := by
  rw [saying, h]
  cases pair? <;> rfl

@[simp] theorem saying_nil : saying [] = [] := saying_of_entry (entry?_of_not_mem List.not_mem_nil)

/-- A line says the pair that it writes, and nothing if it writes none. -/
theorem Line.saying_eq (h : Line line pair?) : saying line = pair?.toList := by
  refine saying_of_entry ?_
  cases h with
  | pair hk hv ha hb hc hd =>
    rw [entry?_pair hk hv ha hb hc hd, String.ofList_toList, String.ofList_toList]
  | blank ha =>
    unfold entry?
    rw [strip_of_blank ha.blank]
  | comment ha _ => exact entry?_comment ha _
  | noColon _ hcolon => exact entry?_of_not_mem hcolon
  | noKey ha _ => exact entry?_noKey ha _
  | noValue _ hcolon ha => exact entry?_noValue hcolon ha

/-! ### What a text says -/

/-- What the lines of a text say, `current` being the reversed start of the first. -/
def said (current cs : List Char) : List (String × String) :=
  (linesFrom current cs).filterMap entry?

theorem read_eq_said (text : String) : read text = putPairs [] (said [] text.toList) := rfl

/-- At a line end, what has been read of the line is what the line says. -/
theorem said_end {c : Char} (hc : isLineEnd c = true) (current cs : List Char) :
    said current (c :: cs) = saying current.reverse ++ said [] cs := by
  have hcons (line : List Char) (rest : List (List Char)) :
      (line :: rest).filterMap entry? = saying line ++ rest.filterMap entry? := by
    rw [List.filterMap_cons, saying]
    cases entry? line <;> rfl
  by_cases hpair : c = '\r' ∧ ∃ rest, cs = '\n' :: rest
  · -- the second of two characters that end one line would end an empty line
    obtain ⟨rfl, rest, rfl⟩ := hpair
    rw [said, linesFrom.eq_3, hcons, said, linesFrom_end rfl (by simp), List.reverse_nil, hcons,
      saying_nil]
    rfl
  · rw [said, linesFrom_end hc fun rest hr hcs => hpair ⟨hr, rest, hcs⟩, hcons]
    rfl

theorem said_nil (current : List Char) : said current [] = saying current.reverse := by
  cases current with
  | nil => exact saying_nil.symm
  | cons c current =>
    rw [said, linesFrom.eq_2 _ (List.cons_ne_nil c current), saying, List.filterMap_cons]
    cases entry? (c :: current).reverse <;> rfl

theorem said_ordinary {c : Char} (hc : isLineEnd c = false) (current cs : List Char) :
    said current (c :: cs) = said (c :: current) cs := by
  rw [said, linesFrom_ordinary hc, said]

theorem said_oneLine (h : OneLine line) (current cs : List Char) :
    said current (line ++ cs) = said (line.reverse ++ current) cs := by
  rw [said, linesFrom_oneLine h, said]

theorem said_unifyLineEnds (current cs : List Char) :
    said current (unifyLineEnds cs) = said current cs := by
  rw [said, linesFrom_unifyLineEnds, said]

/-- A line with its end says its pair, and what follows says the rest. -/
theorem said_line {ending : List Char} (hline : OneLine line) (hending : Ending ending)
    (cs : List Char) : said [] (line ++ ending ++ cs) = saying line ++ said [] cs := by
  rw [List.append_assoc, said_oneLine hline, List.append_nil]
  cases hending with
  | single hc => rw [List.singleton_append, said_end hc, List.reverse_reverse]
  | double =>
    rw [List.cons_append, said_end rfl, List.reverse_reverse, List.singleton_append, said_end rfl]
    rfl

/-- A text that writes a list of pairs says the pairs, in their order. -/
theorem Writes.said {pairs : List (String × String)} (h : Writes pairs cs) :
    said [] cs = pairs := by
  induction h with
  | nil => rfl
  | last hline =>
    have h := said_oneLine hline.oneLine [] []
    rwa [List.append_nil, List.append_nil, said_nil, List.reverse_reverse, hline.saying_eq] at h
  | line hline hending _ ih => rw [said_line hline.oneLine hending, hline.saying_eq, ih]

/-- Behind a line end, a text says what it would say on its own. -/
theorem said_append {c : Char} (hc : isLineEnd c = true) (current front back : List Char) :
    said current (front ++ c :: back) = said current (front ++ [c]) ++ said [] back := by
  induction front generalizing current with
  | nil =>
    rw [List.nil_append, said_end hc, List.nil_append, said_end hc, said_nil, List.reverse_nil,
      saying_nil, List.append_nil]
  | cons x front ih =>
    rw [List.cons_append, List.cons_append]
    cases hx : isLineEnd x with
    | true => rw [said_end hx, said_end hx, ih, List.append_assoc]
    | false => rw [said_ordinary hx, said_ordinary hx, ih]

theorem said_append_end {c : Char} (hc : isLineEnd c = true) (current cs : List Char) :
    said current (cs ++ [c]) = said current cs := by
  induction cs generalizing current with
  | nil =>
    rw [List.nil_append, said_end hc, said_nil, said_nil, List.reverse_nil,
      saying_nil, List.append_nil]
  | cons x cs ih =>
    rw [List.cons_append]
    cases hx : isLineEnd x with
    | true => rw [said_end hx, said_end hx, ih]
    | false => rw [said_ordinary hx, said_ordinary hx, ih]

/-- What stands behind a text so that the text ends at a line break: a line end, or nothing if the
text has one at its end. -/
def Breaks (cs ending : List Char) : Prop :=
  Ending ending ∨ ending = [] ∧ ∃ c, cs.getLast? = some c ∧ isLineEnd c = true

/-- Two texts that are put together at a line break say what both say. -/
theorem said_of_breaks {front ending : List Char} (h : Breaks front ending) (back : List Char) :
    said [] (front ++ ending ++ back) = said [] front ++ said [] back := by
  obtain (_ | _) | ⟨rfl, c, hlast, hc⟩ := h
  · next c hc =>
    rw [List.append_assoc, List.singleton_append, said_append hc, said_append_end hc]
  · have hpair : front ++ ['\r', '\n'] ++ back = (front ++ ['\r']) ++ '\n' :: back := by simp
    rw [hpair, said_append rfl, said_append_end rfl, said_append_end rfl]
  · obtain ⟨front, rfl⟩ := List.getLast?_eq_some_iff.mp hlast
    rw [List.append_nil, List.append_assoc, List.singleton_append, said_append hc]

/-! ### What a file says -/

variable {t t₁ t₂ : FileTree} {p p₁ p₂ : Path}

/-- A file that holds the bytes of a text gives the mapping of what the text says. -/
theorem replacements_of_held {text : String} (h : t.held p = some (encode text)) :
    Configuration.replacements t p = .ok (putPairs [] (said [] text.toList)) := by
  have hbytes : t.readBytes p = .ok (encode text) := by
    unfold FileTree.held at h
    cases hread : t.readBytes p with
    | error f => rw [hread] at h; cases h
    | ok bs => rw [hread] at h; cases h; rfl
  have htext : t.readText p = .ok (String.ofList (unifyLineEnds text.toList)) := by
    simp only [FileTree.readText, hbytes, bind, Except.bind, decode_encode, pure, Except.pure]
  obtain ⟨q, _, _, hplace, _⟩ := FileTree.held_eq_some.mp h
  have hhas : t.has p = true := by rw [FileTree.has, hplace, Option.isSome_some]
  have hread : read (String.ofList (unifyLineEnds text.toList)) =
      putPairs [] (said [] text.toList) := by
    rw [read_eq_said, String.toList_ofList, said_unifyLineEnds]
  rw [Configuration.replacements, hhas, if_pos rfl, htext, ← hread]
  simp only [bind, Except.bind, pure, Except.pure]

/-- A file of replacements that writes a list of pairs is read as the mapping of the pairs in which
the last one with a key counts; and a file that holds two texts, one behind the other at a line
break, is read as the mapping of the first text updated by that of the second. -/
theorem replacements_written :
    (∀ {t : FileTree} {p : Path} {text : String} {pairs : List (String × String)},
      t.held p = some (encode text) → Writes pairs text.toList →
      ∃ mapping, Configuration.replacements t p = .ok mapping ∧
        keys mapping = distinct (keys pairs) ∧
        ∀ key, mapping.lookup key = pairs.reverse.lookup key) ∧
    ∀ {t t₁ t₂ : FileTree} {p p₁ p₂ : Path} {front ending back : String},
      Breaks front.toList ending.toList → t₁.held p₁ = some (encode front) →
      t₂.held p₂ = some (encode back) → t.held p = some (encode (front ++ ending ++ back)) →
      ∃ first second, Configuration.replacements t₁ p₁ = .ok first ∧
        Configuration.replacements t₂ p₂ = .ok second ∧
        Configuration.replacements t p = .ok (putPairs first second) := by
  constructor
  · intro t p text pairs hheld hwrites
    refine ⟨putPairs [] pairs, ?_, keys_putPairs_eq_distinct List.nodup_nil, fun key => ?_⟩
    · rw [replacements_of_held hheld, hwrites.said]
    · rw [lookup_putPairs, List.lookup_nil, Option.or_none]
  · intro t t₁ t₂ p p₁ p₂ front ending back hbreaks hfront hback hheld
    refine ⟨_, _, replacements_of_held hfront, replacements_of_held hback, ?_⟩
    have hnodup : (keys (putPairs [] (said [] front.toList))).Nodup := by
      have hempty : (keys ([] : List (String × String))).Nodup := List.nodup_nil
      rw [keys_putPairs_eq_distinct hempty]
      exact nodup_distinct _
    have htext : (front ++ ending ++ back).toList =
        front.toList ++ ending.toList ++ back.toList := by simp
    rw [replacements_of_held hheld, htext, said_of_breaks hbreaks, putPairs_putPairs hnodup]
    exact congrArg _ List.foldl_append

/-- A working directory with a file that holds a text. -/
def mapFile (text : String) : FileTree :=
  ⟨["work"], [(["work", "map"], .file (.bytes (encode text)) 0)], 0⟩

theorem held_mapFile (text : String) :
    (mapFile text).held ⟨"", ["map"]⟩ = some (encode text) := rfl

/-- A comment, a pair with space around its sides, a line without a colon, and the same key once
more on a line without an end. -/
theorem writes_twice :
    Writes [("k", "v:w"), ("k", "#")] "# a\r\n k : v:w\t\nnone\x0ck:#".toList := by
  have hcomment : Line ([] ++ '#' :: [' ', 'a']) none :=
    .comment (by decide) (by decide)
  have hkey : Key "k".toList :=
    ⟨⟨by decide, by decide⟩, by decide, by decide⟩
  have hfirst : Side "v:w".toList :=
    ⟨by decide, by decide⟩
  have hsecond : Side "#".toList :=
    ⟨by decide, by decide⟩
  have hspace : Spaces [' '] := by decide
  have hnone : Spaces [] := by decide
  have htab : Spaces ['\t'] := by decide
  have hword : Line "none".toList none := .noColon (by decide) (by decide)
  exact .line hcomment .double (.line (.pair hkey hfirst hspace hspace hspace htab)
    (.single (c := '\n') rfl) (.line hword (.single (c := '\x0c') rfl)
    (.last (.pair hkey hsecond hnone hnone hnone hnone))))

theorem replacements_written_twice :
    (∃ mapping,
      Configuration.replacements (mapFile "# a\r\n k : v:w\t\nnone\x0ck:#") ⟨"", ["map"]⟩ =
        .ok mapping ∧
      keys mapping = distinct (keys [("k", "v:w"), ("k", "#")]) ∧
      ∀ key, mapping.lookup key = [("k", "v:w"), ("k", "#")].reverse.lookup key) ∧
    ∃ first second, Configuration.replacements (mapFile "k:v") ⟨"", ["map"]⟩ = .ok first ∧
      Configuration.replacements (mapFile "\nk:w") ⟨"", ["map"]⟩ = .ok second ∧
      Configuration.replacements (mapFile ("k:v" ++ "\r" ++ "\nk:w")) ⟨"", ["map"]⟩ =
        .ok (putPairs first second) :=
  ⟨replacements_written.1 (held_mapFile _) writes_twice,
    replacements_written.2 (show Breaks "k:v".toList "\r".toList from .inl (.single rfl))
      (held_mapFile _) (held_mapFile _) (held_mapFile _)⟩

end TypeMap

end TypeProjection
