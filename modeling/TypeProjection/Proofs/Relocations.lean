import Mathlib.Data.List.Pairwise

/-!
# Blocks of numbers that go elsewhere

A line of blocks, one behind the other, is taken apart and put together in another order, perhaps
with gaps. The numbers in front of all blocks stay, and those behind all blocks go behind everything
else. No two numbers go to the same place.
-/

namespace TypeProjection

/-- A block of numbers, and where it goes. -/
structure Block where
  source : Nat
  target : Nat
  length : Nat

namespace Block

/-- Two pieces of a line that have no number in common. -/
def Disjoint (i m j n : Nat) : Prop := i + m ≤ j ∨ j + n ≤ i

/-- Blocks that cover a line up to its top, but for its base, and go to places of their own between
the base and the next free number. -/
structure Fit (blocks : List Block) (base top next : Nat) : Prop where
  base_le : base ≤ top ∧ base ≤ next
  sources : ∀ b ∈ blocks, base ≤ b.source ∧ b.source + b.length ≤ top
  targets : ∀ b ∈ blocks, base ≤ b.target ∧ b.target + b.length ≤ next
  sourcesApart : blocks.Pairwise fun b c => Disjoint b.source b.length c.source c.length
  targetsApart : blocks.Pairwise fun b c => Disjoint b.target b.length c.target c.length
  cover : ∀ i, base ≤ i → i < top → ∃ b ∈ blocks, b.source ≤ i ∧ i < b.source + b.length

/-- Where a number goes. -/
def relocate (blocks : List Block) (base top next i : Nat) : Nat :=
  match blocks.find? fun b => decide (b.source ≤ i ∧ i < b.source + b.length) with
  | some b => b.target + (i - b.source)
  | none => if i < base then i else next + (i - top)

variable {blocks : List Block} {b c : Block} {base top next i j n : Nat}

/-- Pieces that are apart, or the same one. -/
theorem eq_or_disjoint {start : Block → Nat}
    (h : blocks.Pairwise fun b c => Disjoint (start b) b.length (start c) c.length) (hb : b ∈ blocks)
    (hc : c ∈ blocks) : b = c ∨ Disjoint (start b) b.length (start c) c.length := by
  by_cases hbc : b = c
  · exact .inl hbc
  · have : Std.Symm fun b c => Disjoint (start b) b.length (start c) c.length :=
      ⟨fun _ _ hdisjoint => hdisjoint.symm⟩
    exact .inr (h.forall hb hc hbc)

/-- A number is in front of the blocks, in a block or behind all of them. -/
theorem relocate_cases (h : Fit blocks base top next) (i : Nat) :
    (i < base ∧ relocate blocks base top next i = i) ∨
      (∃ b ∈ blocks, ∃ n < b.length, i = b.source + n ∧
        relocate blocks base top next i = b.target + n) ∨
      ∃ n, i = top + n ∧ relocate blocks base top next i = next + n := by
  unfold relocate
  cases hfind : blocks.find? fun b => decide (b.source ≤ i ∧ i < b.source + b.length) with
  | some b =>
    have hi : b.source ≤ i ∧ i < b.source + b.length := by
      simpa only [decide_eq_true_eq] using List.find?_some hfind
    exact .inr (.inl ⟨b, List.mem_of_find?_eq_some hfind, i - b.source, by omega, by omega, rfl⟩)
  | none =>
    have hnone := List.find?_eq_none.mp hfind
    by_cases hbase : i < base
    · exact .inl ⟨hbase, if_pos hbase⟩
    · refine .inr (.inr ⟨i - top, ?_, if_neg hbase⟩)
      by_contra hlt
      obtain ⟨b, hb, hi⟩ := h.cover i (Nat.le_of_not_lt hbase) (by omega)
      exact hnone b hb (decide_eq_true hi)

theorem relocate_base (h : Fit blocks base top next) (hi : i < base) :
    relocate blocks base top next i = i := by
  have hbase := h.base_le
  rcases relocate_cases h i with ⟨-, hi⟩ | ⟨b, hb, n, -, rfl, -⟩ | ⟨n, rfl, -⟩
  · exact hi
  · have := h.sources b hb
    omega
  · omega

theorem relocate_block (h : Fit blocks base top next) (hb : b ∈ blocks) (hn : n < b.length) :
    relocate blocks base top next (b.source + n) = b.target + n := by
  have hwithin := h.sources b hb
  rcases relocate_cases h (b.source + n) with ⟨hi, -⟩ | ⟨c, hc, m, hm, hi, hgoes⟩ | ⟨m, hi, -⟩
  · omega
  · rcases eq_or_disjoint h.sourcesApart hb hc with rfl | hapart
    · rw [hgoes]
      omega
    · unfold Disjoint at hapart
      omega
  · omega

theorem relocate_top (h : Fit blocks base top next) (n : Nat) :
    relocate blocks base top next (top + n) = next + n := by
  have hbase := h.base_le
  rcases relocate_cases h (top + n) with ⟨hi, -⟩ | ⟨b, hb, m, hm, hi, -⟩ | ⟨m, hi, hgoes⟩
  · omega
  · have := h.sources b hb
    omega
  · rw [hgoes]
    omega

/-- No two numbers go to the same place. -/
theorem relocate_injective (h : Fit blocks base top next) :
    Function.Injective (relocate blocks base top next) := by
  have hbase := h.base_le
  intro i j heq
  rcases relocate_cases h i with ⟨hi, hgoes⟩ | ⟨b, hb, n, hn, rfl, hgoes⟩ | ⟨n, rfl, hgoes⟩ <;>
    rcases relocate_cases h j with ⟨hj, hgoes'⟩ | ⟨c, hc, m, hm, rfl, hgoes'⟩ | ⟨m, rfl, hgoes'⟩ <;>
    rw [hgoes, hgoes'] at heq
  · exact heq
  · have := h.targets c hc
    omega
  · omega
  · have := h.targets b hb
    omega
  · rcases eq_or_disjoint h.targetsApart hb hc with rfl | hapart
    · omega
    · unfold Disjoint at hapart
      omega
  · have := h.targets b hb
    omega
  · omega
  · have := h.targets c hc
    omega
  · omega

end Block

end TypeProjection
