import PoolCheck.Proofs.Acceptance

/-!
# The padded line

With padding in front and what has to be added behind, the line has room for exactly as many
unpadded windows as there are windows on the line, and each of them finds the same elements.
Rounding down, no more is added behind the line than in front of it. Rounding up, what is added may
be longer than the padding, by less than the stride.
-/

set_option autoImplicit false

namespace PoolCheck.Axis

variable {a : Axis} {ceilMode : Bool} {input out : Nat}

theorem trailing_le_padding (h : a.Sound) (hk : a.kernel ≤ a.padded input) :
    a.trailing input (a.count false input) ≤ a.padding := by
  have hf := floor_spec a input h.stride_pos
  unfold padded at hf hk
  rw [trailing, count, if_neg Bool.false_ne_true, Nat.add_sub_cancel]
  unfold padded
  omega

theorem trailing_lt_kernel (h : a.Sound) (ceilMode : Bool) (hi : 0 < input) :
    a.trailing input (a.count ceilMode input) < a.kernel := by
  have hlast := last_start_lt h ceilMode hi
  have hk := h.kernel_pos
  unfold trailing
  omega

theorem trailing_lt_of_ceil (h : a.Sound) (hk : a.kernel ≤ a.padded input) :
    a.trailing input (a.count true input) < a.padding + a.stride := by
  have hm := moves_spec a input h.stride_pos
  have hs := h.stride_pos
  have hle : (a.count true input - 1) * a.stride ≤ a.moves input * a.stride := by
    apply Nat.mul_le_mul_right
    rw [count, if_pos rfl]
    split_ifs <;> omega
  unfold padded at hm hk
  unfold trailing
  omega

theorem found_positions {o : Nat} (hn : a.NoWrap ceilMode input) (h : a.Sound)
    (hk : a.kernel ≤ a.padded input) (ho : o < a.count ceilMode input) :
    ((List.range' (o * a.stride) a.kernel).filter
      fun i => a.padding ≤ i ∧ i < a.padding + input).map (· - a.padding) =
        (a.window input o).positions := by
  rw [window_positions hn h hk ho, List.map_map]
  conv_rhs => rw [← List.map_id (a.window input o).positions]
  apply List.map_congr_left
  intro i _
  exact Nat.add_sub_cancel_left a.padding i

/-- Wherever an extent is given, the padded line can be measured and holds exactly that many
unpadded windows, and each of them has the elements that the window with its number sees. What is
added behind the line is at most the padding if the extent is rounded down; if it is rounded up, it
is less than the kernel, and exceeds the padding by less than the stride. -/
theorem padding_tiles {name : String} {along : Dimension} (hc : a.check name along = .ok ())
    (hs : a.Small input) (he : a.extent ceilMode input = .ok out) :
    a.trailingFits input out = true ∧ a.kernel ≤ a.lined input out ∧
      (a.lined input out - a.kernel) / a.stride + 1 = out ∧
      (∀ o < out, o * a.stride + a.kernel ≤ a.lined input out ∧
        ((List.range' (o * a.stride) a.kernel).filter
          fun i => a.padding ≤ i ∧ i < a.padding + input).map (· - a.padding) =
            (a.window input o).positions) ∧
      (ceilMode = false → a.trailing input out ≤ a.padding) ∧
      (ceilMode = true →
        a.trailing input out < a.kernel ∧ a.trailing input out < a.padding + a.stride) := by
  have h := check_eq_ok.1 hc
  obtain ⟨hi, hn, hk, rfl⟩ := of_extent h hs he
  have hfirst := end_le_lined a input (count_pos a ceilMode hi)
  refine ⟨trailingFits_eq hn h hk hi, by omega, windows_lined h hk hi, ?_, ?_, ?_⟩
  · intro o ho
    exact ⟨end_le_lined a input ho, found_positions hn h hk ho⟩
  · rintro rfl
    exact trailing_le_padding h hk
  · rintro rfl
    exact ⟨trailing_lt_kernel h true hi, trailing_lt_of_ceil h hk⟩

/-- Two windows of two elements, three apart, on four elements between two of padding: the third was
dropped, and the second one ends with the line, so nothing is added behind it. -/
theorem padding_tiles_dropped :
    let a : Axis := ⟨2, 3, 1⟩
    a.extent true 4 = .ok 2 ∧ a.lined 4 2 = 5 ∧ (a.lined 4 2 - 2) / 3 + 1 = 2 ∧
      ((List.range' 3 2).filter fun i => 1 ≤ i ∧ i < 5).map (· - 1) =
        (a.window 4 1).positions := by
  have h := @padding_tiles ⟨2, 3, 1⟩ true 4 2 "AvgPool2d" .height (by decide)
    ⟨by decide, by decide, by decide⟩ (by decide)
  exact ⟨by decide, by decide, h.2.2.1, (h.2.2.2.1 1 (by decide)).2⟩

end PoolCheck.Axis
