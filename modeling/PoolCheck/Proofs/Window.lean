import Mathlib.Tactic.Linarith
import Mathlib.Tactic.Ring
import PoolCheck.Pool.Window

/-!
# Windows in the natural numbers

The positions of a window are computed with signed words. As long as no number on the way leaves
them, this is arithmetic of natural numbers: the number of windows, their positions and the padding
behind the line all have closed forms. From these follow that every window sees the line, and that
the padded line is tiled by exactly as many unpadded windows.
-/

set_option autoImplicit false

namespace PoolCheck

theorem signed_eq {n : Nat} (h : n < signLimit) : signed n = n := by
  simp [signed, h]

theorem word_natCast {n : Nat} (h : n < wordLimit) : word (n : Int) = n := by
  unfold word
  rw [Int.emod_eq_of_lt (by omega) (by exact_mod_cast h)]
  exact Int.toNat_natCast n

theorem isReading_iff {x : Int} :
    isReading x = true ↔ -(signLimit : Int) ≤ x ∧ x < signLimit := by
  simp [isReading]

theorem neg_fdiv_neg (m s : Nat) (hs : 0 < s) :
    -((-(m : Int)).fdiv s) = ((m + s - 1) / s : Nat) := by
  rw [Int.fdiv_eq_ediv_of_nonneg _ (by omega)]
  have hr := Int.emod_nonneg (-(m : Int)) (by omega : (s : Int) ≠ 0)
  have hl := Int.emod_lt_of_pos (-(m : Int)) (by omega : (0 : Int) < s)
  have hq := Int.emod_add_mul_ediv (-(m : Int)) s
  have hc : ((m + s - 1 : Nat) : Int) / s = -(-(m : Int) / s) := by
    rw [Int.ediv_eq_iff_of_pos (by omega)]
    push_cast [Nat.sub_add_cancel, show 1 ≤ m + s by omega]
    constructor <;> nlinarith
  rw [Int.natCast_ediv, hc]

theorem filter_range' (s n p q : Nat) :
    (List.range' s n).filter (fun i => p ≤ i ∧ i < q) =
      List.range' (max s p) (min (s + n) q - max s p) := by
  induction n generalizing s with
  | zero =>
    have hz : min (s + 0) q - max s p = 0 := by omega
    rw [hz]
    rfl
  | succ n ih =>
    rw [List.range'_succ, List.filter_cons, ih]
    by_cases hs : p ≤ s ∧ s < q
    · have hl : min (s + (n + 1)) q - max s p = min (s + 1 + n) q - max (s + 1) p + 1 := by omega
      rw [hl, List.range'_succ, show max s p = s by omega, show max (s + 1) p = s + 1 by omega]
      simp [hs]
    · by_cases hp : s < p
      · rw [show max s p = max (s + 1) p by omega, show s + (n + 1) = s + 1 + n by omega]
        simp [hs]
      · have hz : min (s + (n + 1)) q - max s p = 0 := by omega
        have hz' : min (s + 1 + n) q - max (s + 1) p = 0 := by omega
        rw [hz, hz']
        simp [hs]

end PoolCheck

namespace PoolCheck.Axis

structure Sound (a : Axis) : Prop where
  kernel_pos : 0 < a.kernel
  stride_pos : 0 < a.stride
  padding_le : a.padding ≤ a.kernel / 2

theorem sound_of_check {op : String} {along : Dimension} {a : Axis}
    (h : a.check op along = .ok ()) : a.Sound := by
  unfold check at h
  split_ifs at h with hk hs hp
  exact ⟨by omega, by omega, by omega⟩

def padded (a : Axis) (input : Nat) : Nat := input + 2 * a.padding

/-- How often the first window can be moved inside the padded line, and once more if it does not
end there. -/
def moves (a : Axis) (input : Nat) : Nat := (a.padded input - a.kernel + a.stride - 1) / a.stride

def count (a : Axis) (ceilMode : Bool) (input : Nat) : Nat :=
  if ceilMode then
    if input + a.padding ≤ a.moves input * a.stride then a.moves input else a.moves input + 1
  else (a.padded input - a.kernel) / a.stride + 1

/-- The kernel, the stride and the padded line are positive signed words. -/
structure Readable (a : Axis) (input : Nat) : Prop where
  kernel_lt : a.kernel < signLimit
  stride_lt : a.stride < signLimit
  padded_lt : a.padded input < signLimit

/-- No number along one dimension wraps: the parameters and the padded line are positive signed
words, and so are the start of the window that rounding up may drop and the end of the last one. -/
structure NoWrap (a : Axis) (ceilMode : Bool) (input : Nat) : Prop where
  kernel_lt : a.kernel < signLimit
  stride_lt : a.stride < signLimit
  padded_lt : a.padded input < signLimit
  moves_lt : ceilMode = true → a.kernel ≤ a.padded input → a.moves input * a.stride < signLimit
  last_lt : a.kernel ≤ a.padded input →
    (a.count ceilMode input - 1) * a.stride + a.kernel < signLimit + a.padding

variable {a : Axis} {ceilMode : Bool} {input : Nat}

theorem NoWrap.readable (h : a.NoWrap ceilMode input) : a.Readable input :=
  ⟨h.kernel_lt, h.stride_lt, h.padded_lt⟩

/-! ## The number of windows -/

theorem moves_spec (a : Axis) (input : Nat) (hs : 0 < a.stride) :
    a.padded input - a.kernel ≤ a.moves input * a.stride ∧
      a.moves input * a.stride < a.padded input - a.kernel + a.stride := by
  have hd := Nat.div_add_mod (a.padded input - a.kernel + a.stride - 1) a.stride
  have hl := Nat.mod_lt (a.padded input - a.kernel + a.stride - 1) hs
  unfold moves
  rw [Nat.mul_comm] at hd
  omega

theorem floor_spec (a : Axis) (input : Nat) (hs : 0 < a.stride) :
    (a.padded input - a.kernel) / a.stride * a.stride ≤ a.padded input - a.kernel ∧
      a.padded input - a.kernel < (a.padded input - a.kernel) / a.stride * a.stride + a.stride := by
  have hd := Nat.div_add_mod (a.padded input - a.kernel) a.stride
  have hl := Nat.mod_lt (a.padded input - a.kernel) hs
  rw [Nat.mul_comm] at hd
  omega

theorem count_pos (a : Axis) (ceilMode : Bool) (hi : 0 < input) : 0 < a.count ceilMode input := by
  unfold count
  split_ifs with hc hd
  · by_contra hz
    have hm : a.moves input = 0 := by omega
    rw [hm] at hd
    omega
  · exact Nat.succ_pos _
  · exact Nat.succ_pos _

theorem last_start_lt (h : a.Sound) (ceilMode : Bool) (hi : 0 < input) :
    (a.count ceilMode input - 1) * a.stride < input + a.padding := by
  have hm := moves_spec a input h.stride_pos
  have hf := floor_spec a input h.stride_pos
  have hp := h.padding_le
  have hk := h.kernel_pos
  unfold count
  split_ifs with hc hd
  · rw [Nat.sub_mul, Nat.one_mul]
    unfold padded at hm
    omega
  · rw [Nat.add_sub_cancel]
    omega
  · rw [Nat.add_sub_cancel]
    unfold padded at hf ⊢
    omega

theorem start_le_last (a : Axis) {n o : Nat} (ho : o < n) : o * a.stride ≤ (n - 1) * a.stride :=
  Nat.mul_le_mul_right _ (Nat.le_sub_one_of_lt ho)

theorem start_lt {o : Nat} (h : a.Sound) (hi : 0 < input) (ho : o < a.count ceilMode input) :
    o * a.stride < input + a.padding :=
  (a.start_le_last ho).trans_lt (last_start_lt h ceilMode hi)

theorem count_le (h : a.Sound) (ceilMode : Bool) (hi : 0 < input) :
    a.count ceilMode input ≤ input + a.padding := by
  have hl := last_start_lt h ceilMode hi
  have hm := Nat.le_mul_of_pos_right (a.count ceilMode input - 1) h.stride_pos
  omega

theorem moves_le (a : Axis) (input : Nat) (hs : 0 < a.stride) :
    a.moves input ≤ a.padded input - a.kernel := by
  have hm := moves_spec a input hs
  by_contra hgt
  have h1 : (a.padded input - a.kernel + 1) * a.stride ≤ a.moves input * a.stride :=
    Nat.mul_le_mul_right _ (by omega)
  have h2 := Nat.le_mul_of_pos_right (a.padded input - a.kernel) hs
  rw [Nat.add_mul, Nat.one_mul] at h1
  omega

theorem count_le_places (a : Axis) (ceilMode : Bool) (input : Nat) (hs : 0 < a.stride) :
    a.count ceilMode input ≤ a.padded input - a.kernel + 1 := by
  have hm := moves_le a input hs
  have hq := Nat.div_le_self (a.padded input - a.kernel) a.stride
  unfold count
  split_ifs <;> omega

/-- One more window would not fit behind the last one, unless it started behind the line or the
last one already ends where the padded line does. -/
theorem count_spec (h : a.Sound) (ceilMode : Bool) (hk : a.kernel ≤ a.padded input) :
    ((a.count ceilMode input - 1) * a.stride + a.kernel ≤ a.padded input ∧
      input + a.padding < a.count ceilMode input * a.stride + a.kernel) ∨
    a.padded input ≤ (a.count ceilMode input - 1) * a.stride + a.kernel := by
  have hm := moves_spec a input h.stride_pos
  have hf := floor_spec a input h.stride_pos
  have hk' := h.kernel_pos
  unfold count
  split_ifs with hc hd
  · left
    rw [Nat.sub_mul, Nat.one_mul]
    omega
  · right
    rw [Nat.add_sub_cancel]
    omega
  · left
    rw [Nat.add_sub_cancel, Nat.add_mul, Nat.one_mul]
    unfold padded at hf hk ⊢
    omega

theorem count_mul (a : Axis) (ceilMode : Bool) (hi : 0 < input) :
    a.count ceilMode input * a.stride = (a.count ceilMode input - 1) * a.stride + a.stride := by
  have hc := count_pos a ceilMode hi
  conv_lhs => rw [show a.count ceilMode input = a.count ceilMode input - 1 + 1 by omega,
    Nat.add_mul, Nat.one_mul]

structure Small (a : Axis) (input : Nat) : Prop where
  kernel : a.kernel < 2 ^ 62
  stride : a.stride < 2 ^ 62
  input : input < 2 ^ 62

theorem noWrap_of_lt (h : a.Sound) (hi : 0 < input) (hk : a.kernel < 2 ^ 62)
    (hs : a.stride < 2 ^ 62) (hl : input < 2 ^ 62) : a.NoWrap ceilMode input := by
  have hp := h.padding_le
  have hm := moves_spec a input h.stride_pos
  have hlast := last_start_lt h ceilMode hi
  refine ⟨?_, ?_, ?_, fun _ _ => ?_, fun _ => ?_⟩
  all_goals
    unfold padded at *
    unfold signLimit
    omega

/-! ## The signed computation -/

theorem span_eq (hr : a.Readable input) : a.span input = (a.padded input : Int) - a.kernel := by
  have hp := hr.padded_lt
  unfold padded at hp ⊢
  rw [span, signed_eq (by omega), signed_eq (by omega), signed_eq hr.kernel_lt]
  push_cast
  ring

theorem spanFits_eq (hr : a.Readable input) : a.spanFits input = true := by
  have hk := hr.kernel_lt
  have hp := hr.padded_lt
  have hs := span_eq hr
  unfold padded at hp hs
  rw [spanFits, hs, signed_eq (by omega), signed_eq (by omega)]
  simp only [Bool.and_eq_true, isReading_iff]
  omega

theorem steps_eq (hr : a.Readable input) (hs : 0 < a.stride) (hk : a.kernel ≤ a.padded input) :
    a.steps ceilMode input =
      ((if ceilMode then a.moves input
        else (a.padded input - a.kernel) / a.stride : Nat) : Int) := by
  have hspan : a.span input = ((a.padded input - a.kernel : Nat) : Int) := by
    rw [span_eq hr]
    omega
  rw [steps, hspan, signed_eq hr.stride_lt]
  cases ceilMode
  · simp [Int.fdiv_eq_ediv_of_nonneg]
  · simp only [if_true]
    rw [neg_fdiv_neg _ _ hs, moves]

theorem stepsFit_eq (hn : a.NoWrap ceilMode input) (h : a.Sound)
    (hk : a.kernel ≤ a.padded input) : a.stepsFit ceilMode input = true := by
  have hs := h.stride_pos
  have hk' := h.kernel_pos
  have hp : a.padded input < signLimit := hn.padded_lt
  have hp' : input + 2 * a.padding < signLimit := hn.padded_lt
  rw [stepsFit, steps_eq hn.readable hs hk, signed_eq hn.stride_lt, signed_eq (by omega),
    signed_eq (by omega)]
  cases ceilMode
  · have hq := Nat.div_le_self (a.padded input - a.kernel) a.stride
    simp only [Bool.false_eq_true, if_false, Bool.not_false, Bool.true_or, Bool.and_true,
      isReading_iff]
    generalize (a.padded input - a.kernel) / a.stride = q at *
    omega
  · have hl := hn.moves_lt rfl hk
    have hm := moves_le a input hs
    simp only [if_true, Bool.not_true, Bool.false_or, Bool.and_eq_true, isReading_iff]
    omega

theorem windowCount_eq (hr : a.Readable input) (hs : 0 < a.stride)
    (hk : a.kernel ≤ a.padded input) :
    a.windowCount ceilMode input = a.count ceilMode input := by
  have hp := hr.padded_lt
  unfold padded at hp
  rw [windowCount, steps_eq hr hs hk, signed_eq hr.stride_lt, signed_eq (by omega),
    signed_eq (by omega), count]
  cases ceilMode
  · simp
  · simp only [if_true, Bool.true_and, decide_eq_true_eq]
    norm_cast

theorem word_windowCount (hr : a.Readable input) (hs : 0 < a.stride)
    (hk : a.kernel ≤ a.padded input) :
    word (a.windowCount ceilMode input) = a.count ceilMode input := by
  have hle := count_le_places a ceilMode input hs
  have hp := hr.padded_lt
  have hw : signLimit + signLimit = wordLimit := rfl
  rw [windowCount_eq hr hs hk, word_natCast (by omega)]

theorem extent_of_readable (hr : a.Readable input) (hs : 0 < a.stride) (hi : 0 < input) :
    a.extent ceilMode input =
      if a.padded input < a.kernel then .error (.kernelTooLarge a.kernel (a.padded input))
      else if a.stepsFit ceilMode input then .ok (a.count ceilMode input)
      else .error .tooLarge := by
  have hp := hr.padded_lt
  rw [extent, if_neg (by omega), if_neg (by omega), spanFits_eq hr, span_eq hr]
  by_cases hk : a.padded input < a.kernel
  · rw [if_neg (by simp), if_pos (by omega), if_pos hk, signed_eq hr.kernel_lt]
    unfold padded at hp ⊢
    rw [signed_eq (by omega), signed_eq (by omega)]
    push_cast
    rfl
  · rw [if_neg (by simp), if_neg (by omega), if_neg hk, word_windowCount hr hs (by omega)]
    cases a.stepsFit ceilMode input <;> rfl

theorem extent_eq (hn : a.NoWrap ceilMode input) (h : a.Sound) (hi : 0 < input) :
    a.extent ceilMode input =
      if a.padded input < a.kernel then .error (.kernelTooLarge a.kernel (a.padded input))
      else .ok (a.count ceilMode input) := by
  rw [extent_of_readable hn.readable h.stride_pos hi]
  by_cases hk : a.padded input < a.kernel
  · rw [if_pos hk, if_pos hk]
  · rw [if_neg hk, if_neg hk, stepsFit_eq hn h (by omega), if_pos rfl]

theorem of_extent {out : Nat} (h : a.Sound) (hs : a.Small input)
    (he : a.extent ceilMode input = .ok out) :
    0 < input ∧ a.NoWrap ceilMode input ∧ a.kernel ≤ a.padded input ∧
      out = a.count ceilMode input := by
  rcases Nat.eq_zero_or_pos input with rfl | hi
  · rw [extent, if_pos rfl] at he
    cases he
  · have hn : a.NoWrap ceilMode input := noWrap_of_lt h hi hs.kernel hs.stride hs.input
    rw [extent_eq hn h hi] at he
    split_ifs at he with hlong
    cases he
    exact ⟨hi, hn, Nat.le_of_not_lt hlong, rfl⟩

/-! ## The positions of a window -/

theorem NoWrap.end_lt {o : Nat} (hn : a.NoWrap ceilMode input) (hk : a.kernel ≤ a.padded input)
    (ho : o < a.count ceilMode input) : o * a.stride + a.kernel < signLimit + a.padding := by
  have hstart := a.start_le_last ho
  have hlast := hn.last_lt hk
  omega

theorem signed_window {o : Nat} (hn : a.NoWrap ceilMode input) (h : a.Sound)
    (hk : a.kernel ≤ a.padded input) (ho : o < a.count ceilMode input) :
    signed (o * a.stride) = (o * a.stride : Nat) ∧ signed a.padding = a.padding ∧
      signed a.kernel = a.kernel ∧ signed input = input := by
  have hend := hn.end_lt hk ho
  have hp : input + 2 * a.padding < signLimit := hn.padded_lt
  have hpad := h.padding_le
  exact ⟨signed_eq (by omega), signed_eq (by omega), signed_eq hn.kernel_lt, signed_eq (by omega)⟩

theorem clip_end (x k p n : Nat) :
    max (min (min ((x : Int) - p + k) (n + p)) n) ((x - p : Nat) : Int) =
      ((max (min (x + k - p) n) (x - p) : Nat) : Int) := by
  rw [min_assoc, min_eq_right (show (n : Int) ≤ n + p by omega), Nat.cast_max, Nat.cast_min]
  by_cases h : p ≤ x + k
  · rw [Nat.cast_sub h]
    congr 2
    push_cast
    omega
  · omega

theorem clip_padded (x k p n : Nat) :
    max (min ((x : Int) - p + k) (n + p) - (x - p)) 0 =
      ((min (x + k) (n + 2 * p) - x : Nat) : Int) := by
  by_cases h : x + k ≤ n + 2 * p
  · rw [Nat.min_eq_left h, min_eq_left (by omega)]
    omega
  · rw [Nat.min_eq_right (by omega), min_eq_right (by omega)]
    omega

/-- The window in natural numbers. Subtraction stops at zero, which is where the line begins. -/
theorem window_eq {o : Nat} (hn : a.NoWrap ceilMode input) (h : a.Sound)
    (hk : a.kernel ≤ a.padded input) (ho : o < a.count ceilMode input) :
    a.window input o =
      ⟨o * a.stride - a.padding, max (min (o * a.stride + a.kernel - a.padding) input)
        (o * a.stride - a.padding),
        min (o * a.stride + a.kernel) (a.padded input) - o * a.stride⟩ := by
  obtain ⟨hstart, hpadding, hkernel, hinput⟩ := signed_window hn h hk ho
  have hend := hn.end_lt hk ho
  have hp := hn.padded_lt
  have hpad := h.padding_le
  have hw : signLimit + signLimit = wordLimit := rfl
  unfold padded at hp ⊢
  rw [window, hstart, hpadding, hkernel, hinput]
  clear hstart
  generalize o * a.stride = x at *
  have e1 : max ((x : Int) - a.padding) 0 = ((x - a.padding : Nat) : Int) := by omega
  rw [e1, clip_end, clip_padded, word_natCast (by omega), word_natCast (by omega),
    word_natCast (by omega)]

theorem mem_positions {o i : Nat} (hn : a.NoWrap ceilMode input) (h : a.Sound)
    (hk : a.kernel ≤ a.padded input) (ho : o < a.count ceilMode input) :
    i ∈ (a.window input o).positions ↔
      i < input ∧ o * a.stride ≤ i + a.padding ∧ i + a.padding < o * a.stride + a.kernel := by
  rw [window_eq hn h hk ho, Window.positions, Window.length, List.mem_range'_1]
  simp only
  omega

theorem windowFits_eq {o : Nat} (hn : a.NoWrap ceilMode input) (h : a.Sound)
    (hk : a.kernel ≤ a.padded input) (ho : o < a.count ceilMode input) :
    a.windowFits input o = true := by
  obtain ⟨hstart, hpadding, hkernel, hinput⟩ := signed_window hn h hk ho
  have hend := hn.end_lt hk ho
  have hp : input + 2 * a.padding < signLimit := hn.padded_lt
  have hpad := h.padding_le
  have hw : signLimit + signLimit = wordLimit := rfl
  rw [windowFits, hstart, hpadding, hkernel, hinput]
  simp only [Bool.and_eq_true, isReading_iff, decide_eq_true_eq]
  clear hstart
  generalize o * a.stride = x at *
  omega

theorem windowsFit_eq (hn : a.NoWrap ceilMode input) (h : a.Sound)
    (hk : a.kernel ≤ a.padded input) (hi : 0 < input) :
    a.windowsFit input (a.count ceilMode input) = true := by
  have hc := count_pos a ceilMode hi
  rw [windowsFit, windowFits_eq hn h hk hc, windowFits_eq hn h hk (by omega)]
  simp

theorem trailingFits_eq (hn : a.NoWrap ceilMode input) (h : a.Sound)
    (hk : a.kernel ≤ a.padded input) (hi : 0 < input) :
    a.trailingFits input (a.count ceilMode input) = true := by
  have hc := count_pos a ceilMode hi
  have hp : input + 2 * a.padding < signLimit := hn.padded_lt
  have hlast := hn.last_lt hk
  have hpad := h.padding_le
  have hkernel := hn.kernel_lt
  have hw : signLimit + signLimit = wordLimit := rfl
  simp only [trailingFits, Bool.and_eq_true, decide_eq_true_eq]
  omega

theorem window_nonempty {o : Nat} (hn : a.NoWrap ceilMode input) (h : a.Sound)
    (hk : a.kernel ≤ a.padded input) (hi : 0 < input) (ho : o < a.count ceilMode input) :
    0 < (a.window input o).length := by
  have hstart := start_lt h hi ho
  have hp := h.padding_le
  have hk' := h.kernel_pos
  rw [window_eq hn h hk ho, Window.length]
  simp only
  omega

theorem window_length_le {o : Nat} (hn : a.NoWrap ceilMode input) (h : a.Sound)
    (hk : a.kernel ≤ a.padded input) (ho : o < a.count ceilMode input) :
    (a.window input o).length ≤ (a.window input o).paddedLength := by
  rw [window_eq hn h hk ho, Window.length]
  simp only [padded]
  omega

theorem paddedLength_le {o : Nat} (hn : a.NoWrap ceilMode input) (h : a.Sound)
    (hk : a.kernel ≤ a.padded input) (ho : o < a.count ceilMode input) :
    (a.window input o).paddedLength ≤ a.kernel := by
  rw [window_eq hn h hk ho]
  simp only
  omega

/-! ## Padding the line -/

def lined (a : Axis) (input out : Nat) : Nat := a.padding + input + a.trailing input out

theorem lined_eq (out : Nat) :
    a.lined input out = max (input + a.padding) ((out - 1) * a.stride + a.kernel) := by
  unfold lined trailing
  omega

theorem end_le_lined (a : Axis) (input : Nat) {n o : Nat} (ho : o < n) :
    o * a.stride + a.kernel ≤ a.lined input n := by
  have hle := a.start_le_last ho
  rw [lined_eq]
  omega

theorem windows_lined (h : a.Sound) (hk : a.kernel ≤ a.padded input) (hi : 0 < input) :
    (a.lined input (a.count ceilMode input) - a.kernel) / a.stride + 1 =
      a.count ceilMode input := by
  have hc := count_pos a ceilMode hi
  have hm := count_mul a ceilMode hi
  have hs := h.stride_pos
  have hspec := count_spec h ceilMode hk
  rw [lined_eq]
  have hq : (max (input + a.padding) ((a.count ceilMode input - 1) * a.stride + a.kernel) -
      a.kernel) / a.stride = a.count ceilMode input - 1 := by
    apply Nat.div_eq_of_lt_le
    · omega
    · rw [Nat.sub_add_cancel hc]
      unfold padded at hspec
      omega
  omega

theorem window_positions {o : Nat} (hn : a.NoWrap ceilMode input) (h : a.Sound)
    (hk : a.kernel ≤ a.padded input) (ho : o < a.count ceilMode input) :
    (List.range' (o * a.stride) a.kernel).filter (fun i => a.padding ≤ i ∧ i < a.padding + input) =
      (a.window input o).positions.map (a.padding + ·) := by
  rw [filter_range', window_eq hn h hk ho, Window.positions, Window.length, List.map_add_range']
  simp only [padded] at hk ⊢
  congr 1 <;> omega

end PoolCheck.Axis
