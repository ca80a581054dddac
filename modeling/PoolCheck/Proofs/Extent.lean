import PoolCheck.Proofs.Window

/-!
# The number of windows over all words

The extent is computed with signed readings, and the check bounds neither the kernel nor the stride.
Where both read as positive numbers and no number on the way leaves the words, the extent is as
large as the padded line allows, or the kernel is refused. A kernel from the upper half of the words
reads as negative, and is taken for one that fits.
-/

set_option autoImplicit false

namespace PoolCheck.Axis

variable {a : Axis} {ceilMode : Bool} {input : Nat}

theorem signed_of_upper {n : Nat} (hl : signLimit ≤ n) (h : n < wordLimit) :
    signed n = (n : Int) - wordLimit := by
  have hw : signLimit + signLimit = wordLimit := rfl
  rw [signed, if_neg (by omega), Int.bmod_def, Int.emod_eq_of_lt (by omega) (by exact_mod_cast h)]
  split_ifs <;> omega

/-- An accepted padding takes at most the kernel from the padded line, so a line that reads as
negative holds no window. -/
theorem span_neg_of_upper (h : a.Sound) (hk : a.kernel < signLimit) (hl : signLimit ≤ input)
    (hw : input < wordLimit) : a.span input < 0 := by
  have hp := h.padding_le
  rw [span, signed_of_upper hl hw, signed_eq hk, signed_eq (show a.padding < signLimit by omega)]
  omega

theorem readable_of_spanFits (h : a.Sound) (hk : a.kernel < signLimit) (hs : a.stride < signLimit)
    (hl : input < signLimit) (hf : a.spanFits input = true) : a.Readable input := by
  have hp := h.padding_le
  have hf' := (Bool.and_eq_true_iff.1 (Bool.and_eq_true_iff.1 hf).1).2
  rw [signed_eq hl, signed_eq (show a.padding < signLimit by omega), isReading_iff] at hf'
  constructor
  · exact hk
  · exact hs
  · unfold padded
    omega

/-- Where the signed computation does not overflow, an accepted kernel and stride below the upper
half of the words give at least one window and no more than the padded line has places for, or
the fault that names the kernel. -/
theorem extent_bounded {op : String} {along : Dimension} (h : a.check op along = .ok ())
    (hk : a.kernel < signLimit) (hs : a.stride < signLimit) (hi : 0 < input)
    (hw : input < wordLimit) (hspan : a.spanFits input = true)
    (hsteps : 0 ≤ a.span input → a.stepsFit ceilMode input = true) :
    (∃ out, a.extent ceilMode input = .ok out ∧ a.kernel ≤ input + 2 * a.padding ∧
      1 ≤ out ∧ out ≤ input + 2 * a.padding - a.kernel + 1) ∨
    ∃ kernel length, a.extent ceilMode input = .error (.kernelTooLarge kernel length) ∧
      (input + 2 * a.padding < a.kernel ∨ signLimit ≤ input) := by
  have hsound := sound_of_check h
  have hpos := hsound.stride_pos
  by_cases hl : input < signLimit
  · have hr := readable_of_spanFits hsound hk hs hl hspan
    have hspan' := span_eq hr
    rw [extent_of_readable hr hpos hi]
    by_cases hlong : a.padded input < a.kernel
    · rw [if_pos hlong]
      exact .inr ⟨_, _, rfl, .inl hlong⟩
    · left
      rw [if_neg hlong, if_pos (hsteps (by omega))]
      exact ⟨_, rfl, Nat.le_of_not_lt hlong, count_pos a ceilMode hi,
        count_le_places a ceilMode input hpos⟩
  · right
    have hneg := span_neg_of_upper hsound hk (Nat.le_of_not_lt hl) hw
    rw [extent, if_neg (by omega), if_neg (by omega), hspan, if_neg (by simp), if_pos hneg]
    exact ⟨_, _, rfl, .inr (Nat.le_of_not_lt hl)⟩

/-- The longest kernel that reads as positive, on a line that its padding just fills. -/
theorem extent_bounded_longest :
    (⟨2 ^ 63 - 1, 2 ^ 63 - 1, 2 ^ 62 - 1⟩ : Axis).extent true 1 = .ok 1 := by
  rcases @extent_bounded ⟨2 ^ 63 - 1, 2 ^ 63 - 1, 2 ^ 62 - 1⟩ true 1 "AvgPool2d" .height
    (by decide) (by decide) (by decide) (by decide) (by decide) (by decide) (by decide) with
    ⟨out, ho, -, hpos, hle⟩ | ⟨_, _, -, h | h⟩
  · have hone : out = 1 := Nat.le_antisymm hle hpos
    rw [ho, hone]
  · exact absurd h (by decide)
  · exact absurd h (by decide)

/-- The largest word is accepted as a kernel, and as a stride. It reads as minus one: a line of one
element has three windows that long, and a line of five elements almost as many as there are
words. -/
theorem extent_of_largest_word :
    ((⟨2 ^ 64 - 1, 1, 0⟩ : Axis).check "AvgPool2d" .height = .ok () ∧
      (⟨2 ^ 64 - 1, 1, 0⟩ : Axis).spanFits 1 = true ∧
      (⟨2 ^ 64 - 1, 1, 0⟩ : Axis).stepsFit false 1 = true ∧
      (⟨2 ^ 64 - 1, 1, 0⟩ : Axis).extent false 1 = .ok 3) ∧
    (⟨1, 2 ^ 64 - 1, 0⟩ : Axis).check "AvgPool2d" .height = .ok () ∧
      (⟨1, 2 ^ 64 - 1, 0⟩ : Axis).spanFits 5 = true ∧
      (⟨1, 2 ^ 64 - 1, 0⟩ : Axis).stepsFit false 5 = true ∧
      (⟨1, 2 ^ 64 - 1, 0⟩ : Axis).extent false 5 = .ok (2 ^ 64 - 3) := by
  decide

end PoolCheck.Axis
