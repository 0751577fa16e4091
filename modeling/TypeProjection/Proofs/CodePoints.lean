import Mathlib.Data.List.Chain
import TypeProjection.Text.Point

/-!
# Code points

A text gives its code points, and they give the text back. The halves of a surrogate pair make one
character where a text with both of them next to each other is read by its code units, so such a
text is taken for another one. No text of characters is.
-/

namespace TypeProjection.Text

variable {p : Point} {ps qs : List Point} {s t : String}

namespace Point

theorem ofCode_code (p : Point) : ofCode p.code = p := by
  cases p with
  | char c =>
    have hvalid : c.toNat < 55296 ∨ 57343 < c.toNat ∧ c.toNat < 1114112 := c.valid
    rw [ofCode, code, dif_neg (by omega), Char.ofNat_toNat]
  | surrogate s => rw [ofCode, code, dif_pos s.bounds]

theorem isHigh_iff : p.isHigh = true ↔ 55296 ≤ p.code ∧ p.code < 56320 := by
  rw [isHigh, Bool.and_eq_true, decide_eq_true_eq, decide_eq_true_eq]

theorem isLow_iff : p.isLow = true ↔ 56320 ≤ p.code ∧ p.code < 57344 := by
  rw [isLow, Bool.and_eq_true, decide_eq_true_eq, decide_eq_true_eq]

theorem isHigh_char (c : Char) : (char c).isHigh = false := by
  have hvalid : c.toNat < 55296 ∨ 57343 < c.toNat ∧ c.toNat < 1114112 := c.valid
  rw [Bool.eq_false_iff, ne_eq, isHigh_iff, code]
  omega

theorem isLow_char (c : Char) : (char c).isLow = false := by
  have hvalid : c.toNat < 55296 ∨ 57343 < c.toNat ∧ c.toNat < 1114112 := c.valid
  rw [Bool.eq_false_iff, ne_eq, isLow_iff, code]
  omega

end Point

/-! Texts and their code points. -/

theorem mapM_char (cs : List Char) : (cs.map Point.char).mapM Point.char? = some cs := by
  induction cs with
  | nil => rfl
  | cons c cs ih =>
    rw [List.map_cons, List.mapM_cons, ih]
    rfl

@[simp] theorem ofPoints?_points (s : String) : ofPoints? (points s) = some s := by
  rw [ofPoints?, points, mapM_char, Option.map_some, String.ofList_toList]

theorem eq_map_char {cs : List Char} (h : ps.mapM Point.char? = some cs) : ps = cs.map .char := by
  induction ps generalizing cs with
  | nil =>
    cases h
    rfl
  | cons p ps ih =>
    rw [List.mapM_cons] at h
    cases p with
    | surrogate s => cases h
    | char c =>
      obtain ⟨d, hd, h⟩ := Option.bind_eq_some_iff.mp h
      obtain ⟨rest, hrest, h⟩ := Option.bind_eq_some_iff.mp h
      cases hd
      cases h
      rw [ih hrest, List.map_cons]

theorem ofPoints?_eq_some : ofPoints? ps = some s ↔ ps = points s := by
  refine ⟨fun h => ?_, fun h => h ▸ ofPoints?_points s⟩
  obtain ⟨cs, hcs, rfl⟩ := Option.map_eq_some_iff.mp h
  rw [points, String.toList_ofList]
  exact eq_map_char hcs

@[simp] theorem points_append (s t : String) : points (s ++ t) = points s ++ points t := by
  rw [points, String.toList_append, List.map_append]
  rfl

theorem points_join (ss : List String) : points (String.join ss) = (ss.map points).flatten := by
  induction ss with
  | nil => rfl
  | cons s ss ih => rw [String.join_cons, points_append, ih, List.map_cons, List.flatten_cons]

/-! Pairs. -/

/-- No high half of a pair stands directly before a low one. -/
def Unpaired (ps : List Point) : Prop :=
  ps.IsChain fun p q => ¬ (p.isHigh = true ∧ q.isLow = true)

/-- The character that the two halves of a pair make. -/
def pairOf (p q : Point) : Char := Char.ofNat (65536 + (p.code - 55296) * 1024 + (q.code - 56320))

/-- Code points with the halves of each pair joined. -/
def joinPairs : List Point → List Point
  | p :: q :: rest =>
    if p.isHigh && q.isLow then .char (pairOf p q) :: joinPairs rest else p :: joinPairs (q :: rest)
  | ps => ps

theorem joinPairs_of_unpaired (h : Unpaired ps) : joinPairs ps = ps := by
  induction ps using joinPairs.induct with
  | case1 p q rest hpair ih =>
    rw [Bool.and_eq_true] at hpair
    exact absurd hpair (List.isChain_cons_cons.mp h).1
  | case2 p q rest hpair ih =>
    rw [joinPairs, if_neg hpair, ih (List.isChain_cons_cons.mp h).2]
  | case3 ps hshort =>
    rw [joinPairs]
    exact hshort

/-- The first code point of a joined text is that of the text, or a character. -/
theorem head_joinPairs (h : p ∈ (joinPairs ps).head?) (hlow : p.isLow = true) : p ∈ ps.head? := by
  cases ps using joinPairs.fun_cases with
  | case1 q r rest hpair =>
    rw [joinPairs, if_pos hpair] at h
    cases h
    rw [Point.isLow_char] at hlow
    cases hlow
  | case2 q r rest hpair =>
    rw [joinPairs, if_neg hpair] at h
    exact h
  | case3 ps hshort =>
    rw [joinPairs] at h
    · exact h
    · exact hshort

theorem unpaired_joinPairs (ps : List Point) : Unpaired (joinPairs ps) := by
  induction ps using joinPairs.induct with
  | case1 p q rest hpair ih =>
    rw [joinPairs, if_pos hpair]
    refine List.isChain_cons.mpr ⟨fun r _ hboth => ?_, ih⟩
    rw [Point.isHigh_char] at hboth
    cases hboth.1
  | case2 p q rest hpair ih =>
    rw [joinPairs, if_neg hpair]
    refine List.isChain_cons.mpr ⟨fun r hr hboth => hpair ?_, ih⟩
    obtain rfl := Option.some.inj (head_joinPairs hr hboth.2)
    rw [Bool.and_eq_true]
    exact hboth
  | case3 ps hshort =>
    rw [joinPairs]
    · rcases ps with _ | ⟨p, _ | ⟨q, rest⟩⟩
      · exact .nil
      · exact .singleton p
      · exact (hshort p q rest rfl).elim
    · exact hshort

theorem joinPairs_eq_iff : joinPairs ps = ps ↔ Unpaired ps :=
  ⟨fun h => h ▸ unpaired_joinPairs ps, joinPairs_of_unpaired⟩

theorem unpaired_points (s : String) : Unpaired (points s) := by
  have hchars : ∀ p ∈ points s, p.isHigh = false := by
    intro p hp
    obtain ⟨c, -, rfl⟩ := List.mem_map.mp hp
    exact Point.isHigh_char c
  generalize points s = ps at hchars
  induction ps with
  | nil => exact .nil
  | cons p ps ih =>
    obtain ⟨hp, hps⟩ := List.forall_mem_cons.mp hchars
    refine List.isChain_cons.mpr ⟨fun q _ hboth => ?_, ih hps⟩
    rw [hp] at hboth
    cases hboth.1

end TypeProjection.Text
