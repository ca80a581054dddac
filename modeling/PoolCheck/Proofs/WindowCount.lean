import Mathlib.Data.Set.Card
import PoolCheck.Proofs.Window

/-!
# Windows counted one by one

The extent is computed by one division and at most one decrement. It is the number of positions that
are wanted: rounding down, those of the windows that fit into the padded line; rounding up, those of
the windows that start before the padding behind the line, as long as the window before still leaves
a part of the padded line behind it. Both kinds of positions have no gaps, so each is counted by the
first position that is not of its kind.
-/

set_option autoImplicit false

namespace PoolCheck.Axis

variable {a : Axis} {input o : Nat}

/-- The number of positions of a kind that holds up to some position and never again. -/
theorem encard_of_lt_iff {P : Nat → Prop} {n : Nat} (h : ∀ o, P o ↔ o < n) :
    {o | P o}.encard = n := by
  have hset : {o | P o} = (Finset.range n : Set Nat) := by
    ext o
    rw [Set.mem_ofPred_eq, h o, Finset.mem_coe, Finset.mem_range]
  rw [hset, Set.encard_coe_eq_coe_finsetCard, Finset.card_range]

theorem fits_iff (h : a.Sound) (hk : a.kernel ≤ a.padded input) :
    o * a.stride + a.kernel ≤ a.padded input ↔ o < a.count false input := by
  rw [count, if_neg Bool.false_ne_true, Nat.lt_succ_iff, Nat.le_div_iff_mul_le h.stride_pos]
  omega

theorem left_iff (h : a.Sound) (hk : a.kernel ≤ a.padded input) :
    o = 0 ∨ (o - 1) * a.stride + a.kernel < a.padded input ↔ o < a.moves input + 1 := by
  cases o with
  | zero => simp
  | succ o =>
    have hm := moves_spec a input h.stride_pos
    rw [Nat.add_sub_cancel, Nat.add_lt_add_iff_right]
    constructor
    · rintro (h0 | hlt)
      · omega
      · refine Nat.lt_of_mul_lt_mul_right (a := a.stride) ?_
        omega
    · intro hlt
      right
      have hle : (o + 1) * a.stride ≤ a.moves input * a.stride := Nat.mul_le_mul_right _ hlt
      rw [Nat.add_mul, Nat.one_mul] at hle
      omega

theorem starts_before (h : a.Sound) (ho : o < a.moves input) :
    o * a.stride < input + a.padding := by
  have hm := moves_spec a input h.stride_pos
  have hp := h.padding_le
  have hk := h.kernel_pos
  have hle : (o + 1) * a.stride ≤ a.moves input * a.stride := Nat.mul_le_mul_right _ ho
  rw [Nat.add_mul, Nat.one_mul] at hle
  unfold padded at hm
  omega

/-- Rounding up counts the windows that start before the padding behind the line and that a part of
the padded line is left for. -/
theorem wanted_iff (h : a.Sound) (hk : a.kernel ≤ a.padded input) :
    o * a.stride < input + a.padding ∧
        (o = 0 ∨ (o - 1) * a.stride + a.kernel < a.padded input) ↔
      o < a.count true input := by
  rw [left_iff h hk, count, if_pos rfl]
  split_ifs with hd
  · constructor
    · rintro ⟨hstart, hle⟩
      rcases Nat.lt_succ_iff_lt_or_eq.1 hle with hlt | rfl
      · exact hlt
      · omega
    · intro hlt
      exact ⟨starts_before h hlt, by omega⟩
  · constructor
    · exact fun hw => hw.2
    · intro hle
      rcases Nat.lt_succ_iff_lt_or_eq.1 hle with hlt | rfl
      · exact ⟨starts_before h hlt, hle⟩
      · exact ⟨by omega, hle⟩

theorem count_true_cases (h : a.Sound) (hk : a.kernel ≤ a.padded input) :
    a.count true input = a.count false input ∨ a.count true input = a.count false input + 1 := by
  have hm := moves_spec a input h.stride_pos
  have hf := floor_spec a input h.stride_pos
  have hp := h.padding_le
  have hk' := h.kernel_pos
  generalize hq : (a.padded input - a.kernel) / a.stride = q at hf
  have hge : q ≤ a.moves input := by
    refine Nat.le_of_mul_le_mul_right (hf.1.trans hm.1) h.stride_pos
  have hle : a.moves input ≤ q + 1 := by
    refine Nat.le_of_lt_succ (Nat.lt_of_mul_lt_mul_right (a := a.stride) ?_)
    rw [Nat.succ_mul, Nat.add_mul, Nat.one_mul]
    omega
  simp only [count, if_true, Bool.false_eq_true, if_false, hq]
  split_ifs with hd
  · -- An exact division would let the dropped window end with the padded line.
    have hne : a.moves input ≠ q := by
      intro he
      rw [he] at hd
      unfold padded at hf hk
      omega
    omega
  · omega

/-- The extent is the number of windows that are wanted. Of those that a part of the padded line is
left for, rounding up drops at most one, and then none starts in the padding behind the line. It
gives as many windows as rounding down, or one more. -/
theorem extent_counts (h : a.Sound) (hi : 0 < input) (hk : a.kernel ≤ input + 2 * a.padding)
    (hkernel : a.kernel < 2 ^ 62) (hstride : a.stride < 2 ^ 62) (hinput : input < 2 ^ 62) :
    ∃ down up, a.extent false input = .ok down ∧ a.extent true input = .ok up ∧
      {o | o * a.stride + a.kernel ≤ input + 2 * a.padding}.encard = down ∧
      {o | o * a.stride < input + a.padding ∧
        (o = 0 ∨ (o - 1) * a.stride + a.kernel < input + 2 * a.padding)}.encard = up ∧
      {o | o = 0 ∨ (o - 1) * a.stride + a.kernel < input + 2 * a.padding}.encard ≤ up + 1 ∧
      (∀ o < up, o * a.stride < input + a.padding) ∧
      (up = down ∨ up = down + 1) := by
  have hk' : a.kernel ≤ a.padded input := hk
  have hextent : ∀ ceilMode, a.extent ceilMode input = .ok (a.count ceilMode input) := by
    intro ceilMode
    rw [extent_eq (noWrap_of_lt h hi hkernel hstride hinput) h hi, if_neg (Nat.not_lt.2 hk')]
  have hleft : {o | o = 0 ∨ (o - 1) * a.stride + a.kernel < a.padded input}.encard ≤
      a.count true input + 1 := by
    rw [encard_of_lt_iff fun o => left_iff h hk', count, if_pos rfl]
    split_ifs with hd
    · exact_mod_cast Nat.le_refl (a.moves input + 1)
    · exact_mod_cast Nat.le_succ (a.moves input + 1)
  exact ⟨_, _, hextent false, hextent true, encard_of_lt_iff fun o => fits_iff h hk',
    encard_of_lt_iff fun o => wanted_iff h hk', hleft, fun o ho => ((wanted_iff h hk').2 ho).1,
    count_true_cases h hk'⟩

/-- A line of four elements between two of padding has two windows of two elements, three apart.
Rounding up adds one that would start behind the line, and drops it. -/
theorem extent_counts_dropped :
    (⟨2, 3, 1⟩ : Axis).extent true 4 = .ok 2 ∧
      {o | o * 3 < 5 ∧ (o = 0 ∨ (o - 1) * 3 + 2 < 6)}.encard = 2 := by
  obtain ⟨down, up, -, hu, -, hcard, -⟩ := @extent_counts ⟨2, 3, 1⟩ 4
    ⟨by decide, by decide, by decide⟩ (by decide) (by decide) (by decide) (by decide) (by decide)
  have hup : (⟨2, 3, 1⟩ : Axis).extent true 4 = .ok 2 := by decide
  rw [hup] at hu
  cases hu
  exact ⟨hup, hcard⟩

end PoolCheck.Axis
