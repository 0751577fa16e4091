import Mathlib.Data.List.Forall2
import Mathlib.Data.Set.Function
import TypeProjection.Text.Blank
import TypeProjection.Text.Identifier

/-!
# Replacing the words of a text

A word is a run of characters that may stand in an identifier. A text is its words and the
characters between them in order, and `mapWords` replaces each word once. Texts that are put
together around a separator are replaced one by one. Where different words are replaced by
different words, different texts stay different, and what stands between the words is found again
in its place.
-/

namespace TypeProjection.Text

/-- May the character stand in an identifier? -/
def isWordPart (c : Char) : Bool := isIdentifierStart c || isIdentifierRest c

/-- Is the text a single word? -/
def isWordText (s : String) : Bool := !s.toList.isEmpty && s.toList.all isWordPart

/-- Does the text hold characters between words only, and at least one? -/
def isGap (s : String) : Bool := !s.toList.isEmpty && s.toList.all fun c => !isWordPart c

/-- A whole word of a text, or a character between words. -/
inductive Segment where
  | word (text : String)
  | gap (c : Char)
  deriving DecidableEq

namespace Segment

/-- The characters of a segment. -/
def chars : Segment → List Char
  | .word s => s.toList
  | .gap c => [c]

/-- The segment with its word replaced. -/
def map (f : String → String) : Segment → Segment
  | .word s => .word (f s)
  | .gap c => .gap c

/-- The word that a segment is. -/
def word? : Segment → Option String
  | .word s => some s
  | .gap _ => none

end Segment

/-- The word with these characters, if there are any. -/
def wordOf (word : List Char) : List Segment :=
  if word.isEmpty then [] else [.word (String.ofList word)]

/-- The segments of a text, behind what has been read of a word. -/
def segmentsFrom (word : List Char) : List Char → List Segment
  | [] => wordOf word
  | c :: rest =>
    if isWordPart c then segmentsFrom (word ++ [c]) rest
    else wordOf word ++ .gap c :: segmentsFrom [] rest

/-- The segments of a text in order. -/
def segments (s : String) : List Segment := segmentsFrom [] s.toList

/-- The text with these segments. -/
def joined (ps : List Segment) : String := String.ofList (ps.flatMap Segment.chars)

/-- The text with each of its words replaced. -/
def mapWords (f : String → String) (s : String) : String := joined ((segments s).map (Segment.map f))

/-- The words of a text in order. -/
def words (s : String) : List String := (segments s).filterMap Segment.word?

variable {f : String → String} {N : String → Prop} {s t a b sep : String}

theorem startsWith_eq {whole start : List Char} : startsWith whole start = true ↔ start <+: whole := by
  induction start generalizing whole with
  | nil =>
    rw [startsWith]
    exact iff_of_true rfl List.nil_prefix
  | cons d start ih =>
    cases whole with
    | nil => exact iff_of_false Bool.false_ne_true fun h => nomatch List.prefix_nil.mp h
    | cons c whole =>
      rw [startsWith, Bool.and_eq_true, beq_iff_eq, ih, List.cons_prefix_cons]
      exact and_congr_left fun _ => eq_comm

/-! Segments. -/

theorem isWordText_of_isIdentifier (h : isIdentifier s.toList = true) : isWordText s = true := by
  unfold isWordText
  cases hs : s.toList with
  | nil =>
    rw [hs] at h
    cases h
  | cons c rest =>
    rw [hs] at h
    obtain ⟨hstart, hrest⟩ := Bool.and_eq_true_iff.mp h
    rw [List.isEmpty_cons, Bool.not_false, Bool.true_and, List.all_cons, Bool.and_eq_true]
    refine ⟨by rw [isWordPart, hstart, Bool.true_or], List.all_eq_true.mpr fun d hd => ?_⟩
    rw [isWordPart, List.all_eq_true.mp hrest d hd, Bool.or_true]

theorem segmentsFrom_words {word cs : List Char} (h : ∀ c ∈ cs, isWordPart c = true) :
    segmentsFrom word cs = wordOf (word ++ cs) := by
  induction cs generalizing word with
  | nil => rw [segmentsFrom, List.append_nil]
  | cons c cs ih =>
    rw [segmentsFrom, if_pos (h c (List.mem_cons_self ..)),
      ih fun d hd => h d (List.mem_cons_of_mem _ hd), List.append_assoc, List.singleton_append]

theorem segmentsFrom_gap {word cs ds : List Char} {c : Char} (hc : isWordPart c = false) :
    segmentsFrom word (cs ++ c :: ds) = segmentsFrom word cs ++ .gap c :: segmentsFrom [] ds := by
  induction cs generalizing word with
  | nil => rw [List.nil_append, segmentsFrom, segmentsFrom, if_neg (Bool.eq_false_iff.mp hc)]
  | cons d cs ih =>
    rw [List.cons_append, segmentsFrom, segmentsFrom]
    split
    · exact ih
    · rw [ih, List.append_assoc, List.cons_append]

theorem segmentsFrom_gaps {word cs gaps ds : List Char} (hne : gaps ≠ [])
    (h : ∀ c ∈ gaps, isWordPart c = false) :
    segmentsFrom word (cs ++ (gaps ++ ds)) =
      segmentsFrom word cs ++ (gaps.map .gap ++ segmentsFrom [] ds) := by
  induction gaps generalizing word cs with
  | nil => exact absurd rfl hne
  | cons c gaps ih =>
    rw [List.cons_append, segmentsFrom_gap (h c (List.mem_cons_self ..)), List.map_cons,
      List.cons_append]
    cases gaps with
    | nil => rfl
    | cons d gaps =>
      have hrest : segmentsFrom [] ([] ++ (d :: gaps ++ ds)) = _ :=
        ih (List.cons_ne_nil d gaps) fun e he => h e (List.mem_cons_of_mem _ he)
      rw [List.nil_append] at hrest
      rw [hrest]
      rfl

theorem flatMap_wordOf (word : List Char) : (wordOf word).flatMap Segment.chars = word := by
  unfold wordOf
  cases word with
  | nil => rfl
  | cons c word => simp [Segment.chars]

theorem flatMap_segmentsFrom (word cs : List Char) :
    (segmentsFrom word cs).flatMap Segment.chars = word ++ cs := by
  induction cs generalizing word with
  | nil => rw [segmentsFrom, flatMap_wordOf, List.append_nil]
  | cons c cs ih =>
    rw [segmentsFrom]
    split
    · rw [ih, List.append_assoc, List.singleton_append]
    · rw [List.flatMap_append, List.flatMap_cons, flatMap_wordOf, ih]
      rfl

/-- A text is its segments in order. -/
theorem joined_segments (s : String) : joined (segments s) = s := by
  rw [joined, segments, flatMap_segmentsFrom, List.nil_append, String.ofList_toList]

theorem joined_append (ps qs : List Segment) : joined (ps ++ qs) = joined ps ++ joined qs := by
  rw [joined, List.flatMap_append, String.ofList_append, joined, joined]

theorem joined_gaps (s : String) : joined (s.toList.map .gap) = s := by
  rw [joined, List.flatMap_map]
  exact (congrArg String.ofList (List.flatMap_singleton' s.toList)).trans String.ofList_toList

theorem segments_word (h : isWordText s = true) : segments s = [.word s] := by
  obtain ⟨hne, hall⟩ := Bool.and_eq_true_iff.mp h
  rw [segments, segmentsFrom_words (List.all_eq_true.mp hall), List.nil_append, wordOf,
    if_neg (by simpa using hne), String.ofList_toList]

theorem segments_separated (h : isGap sep = true) :
    segments (a ++ sep ++ b) = segments a ++ (sep.toList.map .gap ++ segments b) := by
  obtain ⟨hne, hall⟩ := Bool.and_eq_true_iff.mp h
  rw [segments, String.toList_append, String.toList_append, List.append_assoc]
  refine segmentsFrom_gaps ?_ fun c hc => ?_
  · simpa using hne
  · simpa using List.all_eq_true.mp hall c hc

theorem mem_words {w : String} : w ∈ words s ↔ Segment.word w ∈ segments s := by
  rw [words, List.mem_filterMap]
  constructor
  · rintro ⟨p, hp, hw⟩
    cases p with
    | word v =>
      cases hw
      exact hp
    | gap c => cases hw
  · exact fun h => ⟨_, h, rfl⟩

/-- The words of a text are words. -/
theorem isWordText_of_mem_words {w : String} (h : w ∈ words s) : isWordText w = true := by
  have hwordOf : ∀ {word : List Char}, (∀ c ∈ word, isWordPart c = true) →
      ∀ w, Segment.word w ∈ wordOf word → isWordText w = true := by
    intro word hword w hw
    unfold wordOf at hw
    split at hw
    · cases hw
    · cases List.mem_singleton.mp hw
      rw [isWordText, String.toList_ofList, Bool.and_eq_true]
      exact ⟨by simpa using ‹¬ word.isEmpty = true›, List.all_eq_true.mpr hword⟩
  have hfrom : ∀ {word cs : List Char}, (∀ c ∈ word, isWordPart c = true) →
      ∀ w, Segment.word w ∈ segmentsFrom word cs → isWordText w = true := by
    intro word cs
    induction cs generalizing word with
    | nil => exact hwordOf
    | cons c cs ih =>
      intro hword w hw
      rw [segmentsFrom] at hw
      split at hw
      · refine ih (fun d hd => ?_) w hw
        rcases List.mem_append.mp hd with hd | hd
        · exact hword d hd
        · exact List.mem_singleton.mp hd ▸ ‹isWordPart c = true›
      · rcases List.mem_append.mp hw with hw | hw
        · exact hwordOf hword w hw
        · rcases List.mem_cons.mp hw with hw | hw
          · cases hw
          · exact ih (fun _ h => (List.not_mem_nil h).elim) w hw
  exact hfrom (fun _ h => (List.not_mem_nil h).elim) w (mem_words.mp h)

/-! Replacing words. -/

theorem map_gaps (cs : List Char) : (cs.map .gap).map (Segment.map f) = cs.map .gap := by
  rw [List.map_map]
  rfl

theorem eq_gaps_of_map {ps : List Segment} {cs : List Char}
    (h : ps.map (Segment.map f) = cs.map .gap) : ps = cs.map .gap := by
  induction ps generalizing cs with
  | nil =>
    cases cs with
    | nil => rfl
    | cons c cs => cases h
  | cons p ps ih =>
    cases cs with
    | nil => cases h
    | cons c cs =>
      obtain ⟨hp, hps⟩ := List.cons.inj h
      cases p with
      | word w => cases hp
      | gap d =>
        cases hp
        rw [ih hps, List.map_cons]

theorem mapWords_word (h : isWordText s = true) : mapWords f s = f s := by
  rw [mapWords, segments_word h]
  simp [joined, Segment.map, Segment.chars]

theorem mapWords_separated (h : isGap sep = true) :
    mapWords f (a ++ sep ++ b) = mapWords f a ++ sep ++ mapWords f b := by
  rw [mapWords, segments_separated h, List.map_append, List.map_append, map_gaps, joined_append,
    joined_append, joined_gaps, String.append_assoc]
  rfl

theorem words_word (h : isWordText s = true) : words s = [s] := by
  rw [words, segments_word h]
  rfl

theorem words_separated (h : isGap sep = true) : words (a ++ sep ++ b) = words a ++ words b := by
  have hgaps : (sep.toList.map Segment.gap).filterMap Segment.word? = [] := by
    rw [List.filterMap_map]
    exact List.filterMap_eq_nil_iff.mpr fun _ _ => rfl
  rw [words, segments_separated h, List.filterMap_append, List.filterMap_append, hgaps,
    List.nil_append]
  rfl

/-- Words that are replaced by words are the words of the new text. -/
theorem segmentsFrom_map {word cs : List Char}
    (h : ∀ w, Segment.word w ∈ segmentsFrom word cs → isWordText (f w) = true) :
    segmentsFrom [] (((segmentsFrom word cs).map (Segment.map f)).flatMap Segment.chars) =
      (segmentsFrom word cs).map (Segment.map f) := by
  have hword : ∀ word, (∀ w, Segment.word w ∈ wordOf word → isWordText (f w) = true) →
      segmentsFrom [] (((wordOf word).map (Segment.map f)).flatMap Segment.chars) =
        (wordOf word).map (Segment.map f) := by
    intro word h
    unfold wordOf at h ⊢
    split
    · rfl
    · rw [if_neg ‹_›] at h
      have hone := segments_word (h _ (List.mem_singleton_self _))
      simpa [Segment.map, Segment.chars, segments] using hone
  induction cs generalizing word with
  | nil => exact hword word h
  | cons c cs ih =>
    rw [segmentsFrom] at h ⊢
    split
    · rw [if_pos ‹_›] at h
      exact ih h
    · rename_i hc
      rw [if_neg hc] at h
      rw [List.map_append, List.map_cons, List.flatMap_append, List.flatMap_cons]
      rw [show (Segment.map f (.gap c)).chars = [c] from rfl, List.singleton_append,
        segmentsFrom_gap (Bool.eq_false_iff.mpr hc),
        hword word fun w hw => h w (List.mem_append_left _ hw),
        ih fun w hw => h w (List.mem_append_right _ (List.mem_cons_of_mem _ hw))]
      rfl

theorem segments_mapWords (h : ∀ w ∈ words s, isWordText (f w) = true) :
    segments (mapWords f s) = (segments s).map (Segment.map f) := by
  rw [mapWords, joined, segments, String.toList_ofList]
  exact segmentsFrom_map fun w hw => h w (mem_words.mpr hw)

/-- Where different words are replaced by different words, different texts stay different. -/
theorem eq_of_mapWords (hword : ∀ w, N w → isWordText (f w) = true)
    (hinj : ∀ v w, N v → N w → f v = f w → v = w) (hs : ∀ w ∈ words s, N w)
    (ht : ∀ w ∈ words t, N w) (h : mapWords f s = mapWords f t) : s = t := by
  have hback : Set.LeftInvOn (Function.invFunOn f {w | N w}) f {w | N w} :=
    Set.InjOn.leftInvOn_invFunOn fun v hv w hw => hinj v w hv hw
  have hsegments : ∀ u, (∀ w ∈ words u, N w) →
      (segments (mapWords f u)).map (Segment.map (Function.invFunOn f {w | N w})) = segments u := by
    intro u hu
    rw [segments_mapWords fun w hw => hword w (hu w hw), List.map_map]
    refine (List.map_congr_left fun p hp => ?_).trans (List.map_id _)
    cases p with
    | word w => exact congrArg Segment.word (hback (hu w (mem_words.mpr hp)))
    | gap c => rfl
  rw [← joined_segments s, ← joined_segments t, ← hsegments s hs, ← hsegments t ht, h]

/-! Occurrences. -/

theorem contains_eq {part whole : List Char} : contains part whole = true ↔ part <:+: whole := by
  induction whole with
  | nil => rw [contains, List.isEmpty_iff, List.infix_nil]
  | cons c whole ih =>
    rw [contains, Bool.or_eq_true, startsWith_eq, ih, List.infix_cons_iff]

theorem contains_iff : contains sep.toList s.toList = true ↔ ∃ a b, s = a ++ sep ++ b := by
  rw [contains_eq]
  constructor
  · rintro ⟨a, b, h⟩
    refine ⟨String.ofList a, String.ofList b, ?_⟩
    rw [← String.toList_inj, String.toList_append, String.toList_append, String.toList_ofList,
      String.toList_ofList, h]
  · rintro ⟨a, b, rfl⟩
    exact ⟨a.toList, b.toList, by rw [String.toList_append, String.toList_append]⟩

/-- What stands between words occurs in the new text where it did in the old one. -/
theorem contains_mapWords (hsep : isGap sep = true)
    (hs : ∀ w ∈ words s, isWordText (f w) = true) :
    contains sep.toList (mapWords f s).toList = contains sep.toList s.toList := by
  rw [Bool.eq_iff_iff, contains_iff, contains_iff]
  constructor
  · rintro ⟨a, b, h⟩
    have hsegments := segments_mapWords hs
    rw [h, segments_separated hsep, List.append_eq_map_iff] at hsegments
    obtain ⟨ps, qs, hps, -, hqs⟩ := hsegments
    obtain ⟨gaps, rest, rfl, hgaps, -⟩ := List.append_eq_map_iff.mp hqs.symm
    have hkept : gaps = sep.toList.map .gap := eq_gaps_of_map hgaps
    refine ⟨joined ps, joined rest, ?_⟩
    rw [← joined_segments s, hps, hkept, joined_append, joined_append, joined_gaps, String.append_assoc]
  · rintro ⟨a, b, rfl⟩
    exact ⟨mapWords f a, mapWords f b, mapWords_separated hsep⟩

/-! Texts that say the same in other words. -/

/-- A text of certain words, and the text with each of them replaced. -/
structure Reworded (f : String → String) (N : String → Prop) (s s' : String) : Prop where
  eq : s' = mapWords f s
  words : ∀ w ∈ Text.words s, N w

theorem reworded_empty : Reworded f N "" "" := ⟨rfl, fun _ h => nomatch h⟩

theorem reworded_word (h : isWordText s = true) (hs : N s) : Reworded f N s (f s) where
  eq := (mapWords_word h).symm
  words w hw := by
    rw [words_word h, List.mem_singleton] at hw
    exact hw ▸ hs

namespace Reworded

variable {a' b' : String}

theorem separated (hsep : isGap sep = true) (ha : Reworded f N a a') (hb : Reworded f N b b') :
    Reworded f N (a ++ sep ++ b) (a' ++ sep ++ b') where
  eq := by rw [ha.eq, hb.eq, mapWords_separated hsep]
  words w hw := by
    rw [words_separated hsep] at hw
    exact (List.mem_append.mp hw).elim (ha.words w) (hb.words w)

theorem opened (hsep : isGap sep = true) (hb : Reworded f N b b') :
    Reworded f N (sep ++ b) (sep ++ b') := by
  have h := reworded_empty.separated hsep hb
  rwa [String.empty_append] at h

theorem closed (hsep : isGap sep = true) (ha : Reworded f N a a') :
    Reworded f N (a ++ sep) (a' ++ sep) := by
  have h := ha.separated hsep reworded_empty
  rwa [String.append_empty, String.append_empty] at h

theorem intercalate (hsep : isGap sep = true) {xs ys : List String}
    (h : List.Forall₂ (Reworded f N) xs ys) :
    Reworded f N (sep.intercalate xs) (sep.intercalate ys) := by
  induction h with
  | nil => exact reworded_empty
  | cons hxy hrest ih =>
    cases hrest with
    | nil => simpa only [String.intercalate_singleton] using hxy
    | cons hxy' hrest =>
      rw [String.intercalate_cons_cons, String.intercalate_cons_cons]
      exact hxy.separated hsep ih

variable (hword : ∀ w, N w → isWordText (f w) = true)

include hword

theorem beq (hinj : ∀ v w, N v → N w → f v = f w → v = w) (ha : Reworded f N a a')
    (hb : Reworded f N b b') : (a' == b') = (a == b) := by
  rw [Bool.eq_iff_iff, beq_iff_eq, beq_iff_eq, ha.eq, hb.eq]
  exact ⟨eq_of_mapWords hword hinj ha.words hb.words, congrArg _⟩

theorem contains (hsep : isGap sep = true) (ha : Reworded f N a a') :
    Text.contains sep.toList a'.toList = Text.contains sep.toList a.toList := by
  rw [ha.eq, contains_mapWords hsep fun w hw => hword w (ha.words w hw)]

end Reworded

end TypeProjection.Text
