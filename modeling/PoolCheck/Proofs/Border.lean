import PoolCheck.Proofs.Average
import PoolCheck.Proofs.Padding

/-!
# Padding as a border

Rounding down, no window ends behind the padded line. So it makes no difference whether a plane has
its padding only in the parameters, or really stands behind a border of neutral elements and is
pooled without any padding: the windows have one length, the divisors that count the padding are the
same, and a border element changes no accumulator. Rounding up, the last window may be cut where the
padded line ends, and on the plane with the border it would be dropped or divided by another number.
-/

set_option autoImplicit false

namespace PoolCheck

/-! ## Along one dimension -/

namespace Axis

def unpadded (a : Axis) : Axis := { a with padding := 0 }

variable {a : Axis} {input o : Nat}

theorem Sound.unpadded (h : a.Sound) : a.unpadded.Sound :=
  ⟨h.kernel_pos, h.stride_pos, Nat.zero_le _⟩

@[simp] theorem padded_unpadded (a : Axis) (input : Nat) : a.unpadded.padded input = input := by
  simp [padded, unpadded]

@[simp] theorem count_unpadded (a : Axis) (input : Nat) :
    a.unpadded.count false (a.padded input) = a.count false input := by
  simp [count, unpadded, padded]

/-- Rounding up, there may be more: the one that starts in the padding behind the line is dropped,
and behind a border it is not. -/
example : (⟨2, 2, 1⟩ : Axis).count true 1 = 1 ∧ (⟨2, 2, 1⟩ : Axis).unpadded.count true 3 = 2 := by
  decide

theorem NoWrap.unpadded (hn : a.NoWrap false input) (h : a.Sound) :
    a.unpadded.NoWrap false (a.padded input) := by
  have hpadded := hn.padded_lt
  have hfloor := floor_spec a input h.stride_pos
  constructor
  · exact hn.kernel_lt
  · exact hn.stride_lt
  · rwa [padded_unpadded]
  · intro hf
    cases hf
  · intro hk
    rw [padded_unpadded] at hk
    have hkernel : a.kernel ≤ a.padded input := hk
    rw [count_unpadded, count, if_neg Bool.false_ne_true, Nat.add_sub_cancel]
    show (a.padded input - a.kernel) / a.stride * a.stride + a.kernel < signLimit + 0
    omega

/-- The window `o` is one of those that are counted when rounding down. -/
structure Floored (a : Axis) (input o : Nat) : Prop where
  noWrap : a.NoWrap false input
  sound : a.Sound
  kernel_le : a.kernel ≤ a.padded input
  lt : o < a.count false input

namespace Floored

theorem end_le (h : a.Floored input o) : o * a.stride + a.kernel ≤ a.padded input := by
  have hfloor := floor_spec a input h.sound.stride_pos
  have hkernel := h.kernel_le
  have hlt := h.lt
  have hle : o * a.stride ≤ (a.padded input - a.kernel) / a.stride * a.stride := by
    apply Nat.mul_le_mul_right
    simp only [count, Bool.false_eq_true, if_false] at hlt
    omega
  omega

theorem window_unpadded (h : a.Floored input o) :
    a.unpadded.window (a.padded input) o = a.whole o := by
  have hend := h.end_le
  rw [window_eq (h.noWrap.unpadded h.sound) h.sound.unpadded
    (by rw [padded_unpadded]; exact h.kernel_le) (by rw [count_unpadded]; exact h.lt),
    padded_unpadded, whole, Window.mk.injEq]
  simp only [unpadded]
  omega

theorem paddedLength (h : a.Floored input o) : (a.window input o).paddedLength = a.kernel := by
  have hend := h.end_le
  rw [window_eq h.noWrap h.sound h.kernel_le h.lt]
  simp only
  omega

theorem positions (h : a.Floored input o) : (List.range' (o * a.stride) a.kernel).filter
    (fun i => a.padding ≤ i ∧ i < a.padding + input) =
      (a.window input o).positions.map (a.padding + ·) :=
  window_positions h.noWrap h.sound h.kernel_le h.lt

end Floored

end Axis

/-! ## On a plane -/

def Geometry.unpadded (g : Geometry) : Geometry := { g with padding := ⟨0, 0⟩ }

def AvgPool.unpadded (p : AvgPool) : AvgPool := { p with geometry := p.geometry.unpadded }

def MaxPool.unpadded (q : MaxPool) : MaxPool := ⟨q.geometry.unpadded⟩

/-- The planes of a map behind a border of one value, so many rows and columns wide on each side. -/
def FeatureMap.surround (x : FeatureMap) (border : Pair) (v : Binary32) : FeatureMap :=
  .ofFn (x.shape.resize (x.shape.height + 2 * border.h) (x.shape.width + 2 * border.w))
    fun b c i j =>
      if border.h ≤ i ∧ i < border.h + x.shape.height ∧ border.w ≤ j ∧
        j < border.w + x.shape.width then x.entry b c (i - border.h) (j - border.w)
      else v

namespace Operator

def unpadded : Operator → Operator
  | avg p => .avg p.unpadded
  | max q => .max q.unpadded

def border : Operator → Binary32
  | avg _ => .zero
  | max _ => .negInfinity

/-- The padding is counted, or the divisor is given, so that no divisor depends on where the plane
ends. -/
def CountsPadding : Operator → Prop
  | avg p => p.countIncludePad = true ∨ p.divisorOverride ≠ none
  | max _ => True

variable {op : Operator} {s out : MapShape}

@[simp] theorem rows_unpadded (op : Operator) :
    op.unpadded.geometry.rows = op.geometry.rows.unpadded := by
  cases op <;> rfl

@[simp] theorem cols_unpadded (op : Operator) :
    op.unpadded.geometry.cols = op.geometry.cols.unpadded := by
  cases op <;> rfl

@[simp] theorem ceilMode_unpadded (op : Operator) :
    op.unpadded.geometry.ceilMode = op.geometry.ceilMode := by
  cases op <;> rfl

theorem Sound.unpadded (h : op.Sound) : op.unpadded.Sound := by
  constructor
  · rw [rows_unpadded]
    exact h.rows.unpadded
  · rw [cols_unpadded]
    exact h.cols.unpadded
  · cases op with
    | avg p =>
      rintro _ ⟨⟩
      exact h.divisor p rfl
    | max q =>
      intro p hp
      cases hp

def surrounded (op : Operator) (s : MapShape) : MapShape :=
  s.resize (op.geometry.rows.padded s.height) (op.geometry.cols.padded s.width)

namespace Pooled

theorem output (h : op.Pooled s out) : op.geometry.output s = .ok out := by
  have hrows := Axis.extent_eq h.rows h.sound.rows h.height_pos
  have hcols := Axis.extent_eq h.cols h.sound.cols h.width_pos
  rw [if_neg (Nat.not_lt.2 h.rows_le)] at hrows
  rw [if_neg (Nat.not_lt.2 h.cols_le)] at hcols
  exact Geometry.output_eq_ok.2 ⟨_, _, hrows, hcols, h.out_eq⟩

theorem windowsFit_of_fits (h : op.Pooled s out) (hh : fitsMemory out.height windowSize = true)
    (hw : fitsMemory out.width windowSize = true) : windowsFit op.geometry s out = true := by
  have hrows := Axis.windowsFit_eq h.rows h.sound.rows h.rows_le h.height_pos
  have hcols := Axis.windowsFit_eq h.cols h.sound.cols h.cols_le h.width_pos
  simp only [Operator.windowsFit, hh, hw, Bool.true_and]
  rw [h.out_eq, MapShape.resize_height, MapShape.resize_width, hrows, hcols]
  rfl

theorem unpadded (h : op.Pooled s out) (hf : op.geometry.ceilMode = false) :
    op.unpadded.Pooled (op.surrounded s) out := by
  have hrows := h.rows
  have hcols := h.cols
  have hout := h.out_eq
  rw [hf] at hrows hcols hout
  constructor
  · exact h.sound.unpadded
  · rw [rows_unpadded, ceilMode_unpadded, hf]
    exact hrows.unpadded h.sound.rows
  · rw [cols_unpadded, ceilMode_unpadded, hf]
    exact hcols.unpadded h.sound.cols
  · exact h.height_pos.trans_le (Nat.le_add_right _ _)
  · exact h.width_pos.trans_le (Nat.le_add_right _ _)
  · rw [rows_unpadded, Axis.padded_unpadded]
    exact h.rows_le
  · rw [cols_unpadded, Axis.padded_unpadded]
    exact h.cols_le
  · rw [rows_unpadded, cols_unpadded, ceilMode_unpadded, hf, hout, ← Axis.count_unpadded,
      ← Axis.count_unpadded]
    rfl

theorem floored_rows (h : op.Pooled s out) (hf : op.geometry.ceilMode = false) {i : Nat}
    (hi : i < out.height) : op.geometry.rows.Floored s.height i :=
  ⟨hf ▸ h.rows, h.sound.rows, h.rows_le, hf ▸ h.lt_rows hi⟩

theorem floored_cols (h : op.Pooled s out) (hf : op.geometry.ceilMode = false) {j : Nat}
    (hj : j < out.width) : op.geometry.cols.Floored s.width j :=
  ⟨hf ▸ h.cols, h.sound.cols, h.cols_le, hf ▸ h.lt_cols hj⟩

theorem fold_surround (h : op.Pooled s out) (hf : op.geometry.ceilMode = false) {x : FeatureMap}
    (hx : x.shape = s) {f : Binary32 → Binary32 → Binary32} {start v : Binary32}
    {Reached : Binary32 → Prop} (hn : Neutral f start v Reached) {b c i j : Nat}
    (hb : b < s.batch) (hc : c < s.channels) (hi : i < out.height) (hj : j < out.width) :
    (patch (op.geometry.rows.whole i) (op.geometry.cols.whole j)
      ((x.surround op.geometry.padding v).entry b c)).foldl f start =
    (patch (op.geometry.rows.window s.height i) (op.geometry.cols.window s.width j)
      (x.entry b c)).foldl f start := by
  subst hx
  have hrow := h.floored_rows hf hi
  have hcol := h.floored_cols hf hj
  exact hn.fold_framed hrow.positions hcol.positions fun p hp q hq => FeatureMap.entry_ofFn
    (s := op.surrounded x.shape) _ hb hc (hp.trans_le hrow.end_le) (hq.trans_le hcol.end_le)

theorem divisor_whole {p : AvgPool} (h : (Operator.avg p).Pooled s out)
    (hf : p.geometry.ceilMode = false) (hcounts : (Operator.avg p).CountsPadding) {i j : Nat}
    (hi : i < out.height) (hj : j < out.width) :
    p.divisor (p.geometry.rows.whole i) (p.geometry.cols.whole j) =
      p.divisor (p.geometry.rows.window s.height i) (p.geometry.cols.window s.width j) := by
  have hrow := (h.floored_rows hf hi).paddedLength
  have hcol := (h.floored_cols hf hj).paddedLength
  simp only [geometry] at hrow hcol
  unfold AvgPool.divisor
  cases ho : p.divisorOverride with
  | some d => rfl
  | none =>
    have hcount : p.countIncludePad = true := hcounts.resolve_right fun hne => hne ho
    simp only [hcount, if_true]
    rw [hrow, hcol]
    rfl

theorem pool_surround (h : op.Pooled s out) (hf : op.geometry.ceilMode = false)
    (hcounts : op.CountsPadding) {x : FeatureMap} (hx : x.shape = s) {b c i j : Nat}
    (hb : b < s.batch) (hc : c < s.channels) (hi : i < out.height) (hj : j < out.width) :
    op.unpadded.pool (op.geometry.rows.whole i) (op.geometry.cols.whole j)
      ((x.surround op.geometry.padding op.border).entry b c) =
    op.pool (op.geometry.rows.window s.height i) (op.geometry.cols.window s.width j)
      (x.entry b c) := by
  cases op with
  | max q => exact h.fold_surround hf hx maxStep_neutral hb hc hi hj
  | avg p =>
    have hsum := h.fold_surround hf hx sum_neutral hb hc hi hj
    have hdivisor := h.divisor_whole hf hcounts hi hj
    have hwhole := AvgPool.pool_of_seen (p := p.unpadded)
      (h.sound.rows.kernel_pos.trans_eq (Axis.length_whole _ i).symm)
      (h.sound.cols.kernel_pos.trans_eq (Axis.length_whole _ j).symm)
      ((x.surround p.geometry.padding .zero).entry b c)
    calc
      _ = sum _ / .ofCount (p.divisor (p.geometry.rows.whole i) (p.geometry.cols.whole j)) := hwhole
      _ = _ := congrArg₂ (· / ·) hsum (congrArg Binary32.ofCount hdivisor)
      _ = _ := (h.seeing.pool_eq hi hj _).symm

theorem window_unpadded (h : op.Pooled s out) (hf : op.geometry.ceilMode = false) {i j : Nat}
    (hi : i < out.height) (hj : j < out.width) :
    op.unpadded.geometry.rows.window (op.surrounded s).height i = op.geometry.rows.whole i ∧
      op.unpadded.geometry.cols.window (op.surrounded s).width j = op.geometry.cols.whole j := by
  rw [rows_unpadded, cols_unpadded]
  exact ⟨(h.floored_rows hf hi).window_unpadded, (h.floored_cols hf hj).window_unpadded⟩

theorem divisorsFit_unpadded (h : op.Pooled s out) (hf : op.geometry.ceilMode = false)
    (hcounts : op.CountsPadding) (hd : op.divisorsFit s out = true) :
    op.unpadded.divisorsFit (op.surrounded s) out = true := by
  cases op with
  | max q => rfl
  | avg p =>
    show (decide (s.batch * s.channels = 0) || p.unpadded.divisorsFit _ _) = true
    by_cases hn : s.batch * s.channels = 0
    · rw [decide_eq_true hn, Bool.true_or]
    cases ho : p.divisorOverride with
    | some d => simp [AvgPool.divisorsFit, AvgPool.unpadded, ho]
    | none =>
      rw [Bool.or_eq_true]
      right
      apply AvgPool.divisorsFit_of_lt
      intro r hr c hc
      obtain ⟨i, hi, rfl⟩ := List.mem_map.1 (List.mem_filter.1 hr).1
      obtain ⟨j, hj, rfl⟩ := List.mem_map.1 (List.mem_filter.1 hc).1
      rw [List.mem_range] at hi hj
      obtain ⟨hrow, hcol⟩ := h.window_unpadded hf hi hj
      have hlt := h.divisor_lt hd hn ho hi hj
      rw [← h.divisor_whole hf hcounts hi hj] at hlt
      exact (congrArg₂ p.divisor hrow hcol).trans_lt hlt

theorem poolMap_unpadded (h : op.Pooled s out) (hf : op.geometry.ceilMode = false)
    (hcounts : op.CountsPadding) {x : FeatureMap} (hx : x.shape = s) :
    op.unpadded.poolMap (x.surround op.geometry.padding op.border) out = op.poolMap x out := by
  subst hx
  rw [poolMap, poolMap]
  apply FeatureMap.ofFn_congr
  intro b c i j hb hc hi hj
  have hb' : b < x.shape.batch := by rwa [h.out_eq] at hb
  have hc' : c < x.shape.channels := by rwa [h.out_eq] at hc
  obtain ⟨hrow, hcol⟩ := h.window_unpadded hf hi hj
  have hpool := h.pool_surround hf hcounts rfl hb' hc' hi hj
  rw [← hrow, ← hcol] at hpool
  exact hpool

end Pooled

/-- Rounding down, padding is the same as a border: where an operator runs, and its divisors do not
depend on where the plane ends, the operator without padding runs on the planes behind a border that
is as wide as the padding, and gives the same tensor, element by element and bit by bit. -/
theorem padding_is_border {x y : Tensor} (hx : x.shape = s.toShape)
    (hr : op.geometry.rows.Readable s.height) (hc : op.geometry.cols.Readable s.width)
    (hf : op.geometry.ceilMode = false) (hcounts : op.CountsPadding) (h : op.forward x = .ok y) :
    ∃ map, x.toFeatureMap? = some map ∧
      op.unpadded.forward (map.surround op.geometry.padding op.border).toTensor = .ok y := by
  obtain ⟨map, out, rfl, rfl, -, hp, hw, hd, ha, rfl⟩ := pooled_of_forward h hx hr hc
  have hp' := hp.unpadded hf
  have hfits : fitsMemory out.height windowSize = true ∧
      fitsMemory out.width windowSize = true := by
    simp only [windowsFit, Bool.and_eq_true] at hw
    exact hw.1.1
  refine ⟨map, rfl, forward_eq_ok.2 ⟨check_eq_ok.2 hp'.sound, _, out, rfl, ?_, ?_, ?_, ?_, ha, ?_⟩⟩
  · exact MapShape.forOperator_eq_ok.2 ⟨rfl, hp'.height_pos, hp'.width_pos⟩
  · exact hp'.output
  · exact hp'.windowsFit_of_fits hfits.1 hfits.2
  · exact hp.divisorsFit_unpadded hf hcounts hd
  · rw [hp.poolMap_unpadded hf hcounts rfl]

theorem padding_is_border_corners :
    let p : AvgPool := ⟨⟨.square 2, .square 2, .square 1, false⟩, true, none⟩
    let x : FeatureMap := ⟨⟨1, 1, 2, 2⟩, #[.one, .nan, .negInfinity, .one], rfl⟩
    let z : FeatureMap := ⟨⟨1, 1, 4, 4⟩, #[.zero, .zero, .zero, .zero, .zero, .one, .nan, .zero,
      .zero, .negInfinity, .one, .zero, .zero, .zero, .zero, .zero], rfl⟩
    ∃ y, (avg p).forward x.toTensor = .ok y ∧ (avg p.unpadded).forward z.toTensor = .ok y ∧
      y.shape = [1, 1, 2, 2] := by
  intro p x z
  have hf : (avg p).forward x.toTensor = .ok ((avg p).poolMap x ⟨1, 1, 2, 2⟩).toTensor :=
    forward_eq_ok.2 ⟨by decide, x, ⟨1, 1, 2, 2⟩, rfl, by decide, by decide, by decide, by decide,
      by decide, rfl⟩
  obtain ⟨map, hmap, hborder⟩ := padding_is_border (s := ⟨1, 1, 2, 2⟩) rfl
    ⟨by decide, by decide, by decide⟩ ⟨by decide, by decide, by decide⟩ rfl
    (show (avg p).CountsPadding from Or.inl rfl) hf
  cases hmap
  have hz : x.surround ⟨1, 1⟩ .zero = z := FeatureMap.ext rfl (by decide)
  exact ⟨_, hf, hz ▸ hborder, rfl⟩

end Operator

end PoolCheck
