import PoolCheck.Proofs.FeatureMap
import PoolCheck.Proofs.Window
import PoolCheck.Module.Lowering

/-!
# One operator on one shape

The trusted pooling, the inference of shapes and the lowering each check an operator against a
shape on their own. Where no number wraps, all three refuse the same shapes for the same cause, and
on the others the windows, the divisors and the explicit padding can all be made.
-/

set_option autoImplicit false

namespace PoolCheck

/-! ## Divisors -/

theorem foldl_max_cases {α : Type} (f : α → Nat) (n : Nat) (xs : List α) :
    xs.foldl (fun n x => Nat.max n (f x)) n = n ∨
      ∃ x ∈ xs, xs.foldl (fun n x => Nat.max n (f x)) n = f x := by
  induction xs generalizing n with
  | nil => exact .inl rfl
  | cons x xs ih =>
    rw [List.foldl_cons]
    rcases ih (Nat.max n (f x)) with h | ⟨y, hy, h⟩
    · rw [h]
      by_cases hle : n ≤ f x
      · exact .inr ⟨x, List.mem_cons_self, Nat.max_eq_right hle⟩
      · exact .inl (Nat.max_eq_left (by omega))
    · exact .inr ⟨y, List.mem_cons_of_mem _ hy, h⟩

theorem le_foldl_max {α : Type} (f : α → Nat) (n : Nat) (xs : List α) :
    n ≤ xs.foldl (fun n x => Nat.max n (f x)) n ∧
      ∀ x ∈ xs, f x ≤ xs.foldl (fun n x => Nat.max n (f x)) n := by
  induction xs generalizing n with
  | nil => simp
  | cons x xs ih =>
    obtain ⟨hn, hx⟩ := ih (Nat.max n (f x))
    rw [List.foldl_cons, List.forall_mem_cons]
    exact ⟨(Nat.le_max_left n (f x)).trans hn, (Nat.le_max_right n (f x)).trans hn, hx⟩

theorem AvgPool.divisorsFit_of_lt {p : AvgPool} {rows cols : List Window}
    (h : ∀ r ∈ rows, ∀ c ∈ cols, p.divisor r c < wordLimit) : p.divisorsFit rows cols = true := by
  have hmost : ∀ f : Window → Nat, (∀ r ∈ rows, ∀ c ∈ cols, f r * f c < wordLimit) →
      rows.foldl (fun n w => Nat.max n (f w)) 0 * cols.foldl (fun n w => Nat.max n (f w)) 0 <
        wordLimit := by
    intro f hf
    rcases foldl_max_cases f 0 rows with hr | ⟨r, hr, er⟩
    · rw [hr, Nat.zero_mul]
      decide
    rcases foldl_max_cases f 0 cols with hc | ⟨c, hc, ec⟩
    · rw [hc, Nat.mul_zero]
      decide
    rw [er, ec]
    exact hf r hr c hc
  unfold divisorsFit
  cases ho : p.divisorOverride with
  | some d => rfl
  | none =>
    simp only [divisor, ho] at h
    cases hp : p.countIncludePad with
    | false => simpa using hmost Window.length (by simpa [hp] using h)
    | true => simpa using hmost Window.paddedLength (by simpa [hp] using h)

theorem AvgPool.divisor_lt {p : AvgPool} {rows cols : List Window} {r c : Window}
    (h : p.divisorsFit rows cols = true) (ho : p.divisorOverride = none) (hr : r ∈ rows)
    (hc : c ∈ cols) : p.divisor r c < wordLimit := by
  have hle : ∀ f : Window → Nat, f r * f c ≤ rows.foldl (fun n w => Nat.max n (f w)) 0 *
      cols.foldl (fun n w => Nat.max n (f w)) 0 :=
    fun f => Nat.mul_le_mul ((le_foldl_max f 0 rows).2 r hr) ((le_foldl_max f 0 cols).2 c hc)
  simp only [divisorsFit, ho, Option.isSome_none, Bool.false_or, decide_eq_true_eq] at h
  simp only [divisor, ho]
  split_ifs with hp <;> simp only [hp, if_true, Bool.false_eq_true, if_false] at h
  · exact (hle Window.paddedLength).trans_lt h
  · exact (hle Window.length).trans_lt h

theorem AvgPool.divisor_pos {p : AvgPool} {rows cols : Window} (hd : p.divisorOverride ≠ some 0)
    (hr : 0 < rows.length) (hc : 0 < cols.length) (hr' : rows.length ≤ rows.paddedLength)
    (hc' : cols.length ≤ cols.paddedLength) : 0 < p.divisor rows cols := by
  unfold divisor
  cases ho : p.divisorOverride with
  | some d => exact Nat.pos_of_ne_zero fun hz => hd (hz ▸ ho)
  | none =>
    simp only
    split_ifs
    · exact Nat.mul_pos (by omega) (by omega)
    · exact Nat.mul_pos hr hc

theorem AvgPool.divisor_lt_of_le {p : AvgPool} {rows cols : Window}
    (hr : rows.length ≤ rows.paddedLength) (hc : cols.length ≤ cols.paddedLength)
    (h : rows.paddedLength * cols.paddedLength < wordLimit)
    (hd : ∀ d, p.divisorOverride = some d → d < wordLimit) : p.divisor rows cols < wordLimit := by
  unfold divisor
  cases ho : p.divisorOverride with
  | some d => exact hd d ho
  | none =>
    simp only
    split_ifs
    · exact h
    · exact (Nat.mul_le_mul hr hc).trans_lt h

theorem AvgPool.pool_of_seen {p : AvgPool} {rows cols : Window} (hr : 0 < rows.length)
    (hc : 0 < cols.length) (plane : Nat → Nat → Binary32) :
    p.pool rows cols plane = sum (patch rows cols plane) / .ofCount (p.divisor rows cols) := by
  rw [pool, Window.isEmpty, Window.isEmpty, decide_eq_false (by omega), decide_eq_false (by omega)]
  rfl

namespace Operator

/-! ## Where no number wraps -/

/-- What an operator makes for a result of one shape can be made and held: the windows along both
sides, the result itself, and the divisors with the table of them. -/
structure Held (op : Operator) (s out : MapShape) : Prop where
  result : addressable out.toShape = true
  rows : fitsMemory out.height windowSize = true
  cols : fitsMemory out.width windowSize = true
  table : ∀ p, op = .avg p → p.divisorOverride = none → fitsMemory (out.height * out.width) 4 = true
  divisor : ∀ p, op = .avg p → ∀ i < out.height, ∀ j < out.width,
    p.divisor (p.geometry.rows.window s.height i) (p.geometry.cols.window s.width j) < wordLimit

/-- No machine number wraps while an operator works on planes of one shape. -/
structure NoWrap (op : Operator) (s : MapShape) : Prop where
  rows : op.geometry.rows.NoWrap op.geometry.ceilMode s.height
  cols : op.geometry.cols.NoWrap op.geometry.ceilMode s.width
  held : ∀ out, op.geometry.output s = .ok out → op.Held s out

/-- The operator turns planes of the first shape into planes of the second. -/
structure Turns (op : Operator) (s out : MapShape) : Prop where
  checked : op.check = .ok ()
  rows : op.geometry.rows.Sound
  cols : op.geometry.cols.Sound
  noWrap : op.NoWrap s
  height_pos : 0 < s.height
  width_pos : 0 < s.width
  rows_le : op.geometry.rows.kernel ≤ op.geometry.rows.padded s.height
  cols_le : op.geometry.cols.kernel ≤ op.geometry.cols.padded s.width
  out_eq : out = s.resize (op.geometry.rows.count op.geometry.ceilMode s.height)
    (op.geometry.cols.count op.geometry.ceilMode s.width)

variable {op : Operator} {s out : MapShape}

theorem sound_of_check (h : op.check = .ok ()) :
    op.geometry.rows.Sound ∧ op.geometry.cols.Sound := by
  have hg : ∀ kind g, Geometry.check kind g = .ok () → g.rows.Sound ∧ g.cols.Sound := by
    intro kind g hg
    unfold Geometry.check at hg
    cases hr : g.rows.check kind .height with
    | error e => simp [hr, bind, Except.bind] at hg
    | ok u =>
      rw [hr] at hg
      exact ⟨Axis.sound_of_check hr, Axis.sound_of_check hg⟩
  cases op with
  | max p => exact hg _ _ h
  | avg p =>
    simp only [check] at h
    cases hp : p.geometry.check (avg p).kind with
    | error e => simp [hp, bind, Except.bind] at h
    | ok u => exact hg _ _ hp

theorem output_eq (hc : op.check = .ok ())
    (hr : op.geometry.rows.NoWrap op.geometry.ceilMode s.height)
    (hk : op.geometry.cols.NoWrap op.geometry.ceilMode s.width) (hh : 0 < s.height)
    (hw : 0 < s.width) :
    op.geometry.output s =
      if op.geometry.rows.padded s.height < op.geometry.rows.kernel then
        .error (.kernelTooLarge op.geometry.rows.kernel (op.geometry.rows.padded s.height))
      else if op.geometry.cols.padded s.width < op.geometry.cols.kernel then
        .error (.kernelTooLarge op.geometry.cols.kernel (op.geometry.cols.padded s.width))
      else .ok (s.resize (op.geometry.rows.count op.geometry.ceilMode s.height)
        (op.geometry.cols.count op.geometry.ceilMode s.width)) := by
  obtain ⟨h1, h2⟩ := sound_of_check hc
  unfold Geometry.output
  rw [Axis.extent_eq hr h1 hh, Axis.extent_eq hk h2 hw]
  split_ifs <;> rfl

theorem output_cases (hc : op.check = .ok ()) (hn : op.NoWrap s) (hh : 0 < s.height)
    (hw : 0 < s.width) :
    (∃ cause, op.geometry.output s = .error cause ∧ cause.aborts = false) ∨
      ∃ out, op.geometry.output s = .ok out ∧ op.Turns s out := by
  obtain ⟨hr, hk⟩ := sound_of_check hc
  rw [output_eq hc hn.rows hn.cols hh hw]
  split_ifs with h1 h2
  · exact .inl ⟨_, rfl, rfl⟩
  · exact .inl ⟨_, rfl, rfl⟩
  · exact .inr ⟨_, rfl, hc, hr, hk, hn, hh, hw, by omega, by omega, rfl⟩

namespace Turns

theorem output (h : op.Turns s out) : op.geometry.output s = .ok out := by
  have hr := h.rows_le
  have hk := h.cols_le
  rw [output_eq h.checked h.noWrap.rows h.noWrap.cols h.height_pos h.width_pos, if_neg (by omega),
    if_neg (by omega), h.out_eq]

theorem held (h : op.Turns s out) : op.Held s out := h.noWrap.held out h.output

theorem height_eq (h : op.Turns s out) :
    out.height = op.geometry.rows.count op.geometry.ceilMode s.height := by
  rw [h.out_eq, MapShape.resize_height]

theorem width_eq (h : op.Turns s out) :
    out.width = op.geometry.cols.count op.geometry.ceilMode s.width := by
  rw [h.out_eq, MapShape.resize_width]

theorem out_height_pos (h : op.Turns s out) : 0 < out.height := by
  rw [h.height_eq]
  exact Axis.count_pos _ _ h.height_pos

theorem out_width_pos (h : op.Turns s out) : 0 < out.width := by
  rw [h.width_eq]
  exact Axis.count_pos _ _ h.width_pos

theorem forOperator (h : op.Turns s out) : MapShape.forOperator op.kind s.toShape = .ok s :=
  MapShape.forOperator_eq_ok.2 ⟨rfl, h.height_pos, h.width_pos⟩

theorem outputShape (h : op.Turns s out) : op.outputShape s.toShape = .ok out.toShape := by
  simp [Operator.outputShape, h.forOperator, h.output, bind, Except.bind, pure, Except.pure]

theorem row_seen (h : op.Turns s out) {i : Nat} (hi : i < out.height) :
    0 < (op.geometry.rows.window s.height i).length :=
  Axis.window_nonempty h.noWrap.rows h.rows h.rows_le h.height_pos (h.height_eq ▸ hi)

theorem col_seen (h : op.Turns s out) {j : Nat} (hj : j < out.width) :
    0 < (op.geometry.cols.window s.width j).length :=
  Axis.window_nonempty h.noWrap.cols h.cols h.cols_le h.width_pos (h.width_eq ▸ hj)

theorem windowsFit (h : op.Turns s out) : op.geometry.rows.windowsFit s.height out.height = true ∧
    op.geometry.cols.windowsFit s.width out.width = true := by
  rw [h.height_eq, h.width_eq]
  exact ⟨Axis.windowsFit_eq h.noWrap.rows h.rows h.rows_le h.height_pos,
    Axis.windowsFit_eq h.noWrap.cols h.cols h.cols_le h.width_pos⟩

theorem windows_seeing (h : op.Turns s out) :
    (op.geometry.rows.windows s.height out.height).filter (fun w => !w.isEmpty) =
        op.geometry.rows.windows s.height out.height ∧
      (op.geometry.cols.windows s.width out.width).filter (fun w => !w.isEmpty) =
        op.geometry.cols.windows s.width out.width := by
  constructor
  · rw [List.filter_eq_self]
    intro w hw
    obtain ⟨i, hi, rfl⟩ := List.mem_map.1 hw
    have hl := h.row_seen (List.mem_range.1 hi)
    simp [Window.isEmpty, Nat.ne_of_gt hl]
  · rw [List.filter_eq_self]
    intro w hw
    obtain ⟨j, hj, rfl⟩ := List.mem_map.1 hw
    have hl := h.col_seen (List.mem_range.1 hj)
    simp [Window.isEmpty, Nat.ne_of_gt hl]

theorem divisorsFit_windows {p : AvgPool} (h : (Operator.avg p).Turns s out) :
    p.divisorsFit (p.geometry.rows.windows s.height out.height)
      (p.geometry.cols.windows s.width out.width) = true := by
  apply AvgPool.divisorsFit_of_lt
  intro r hr c hc
  obtain ⟨i, hi, rfl⟩ := List.mem_map.1 hr
  obtain ⟨j, hj, rfl⟩ := List.mem_map.1 hc
  exact h.held.divisor p rfl i (List.mem_range.1 hi) j (List.mem_range.1 hj)

theorem divisorsFit (h : op.Turns s out) : op.divisorsFit s out = true := by
  cases op with
  | max p => rfl
  | avg p =>
    have hs := h.windows_seeing
    have hd := h.divisorsFit_windows
    simp only [Operator.geometry] at hs
    simp only [Operator.divisorsFit, hs.1, hs.2, hd, Bool.or_true]

theorem forward (h : op.Turns s out) {x : FeatureMap} (hx : x.shape = s) :
    op.forward x.toTensor = .ok (op.poolMap x out).toTensor := by
  subst hx
  have hf : Operator.windowsFit op.geometry x.shape out = true := by
    simp only [Operator.windowsFit, h.held.rows, h.held.cols, h.windowsFit.1, h.windowsFit.2,
      Bool.and_true]
  simp [Operator.forward, h.checked, h.forOperator, h.output, h.divisorsFit, hf, h.held.result,
    Except.mapError, bind, Except.bind, pure, Except.pure]

theorem paddingFits (h : op.Turns s out) : Operator.paddingFits op.geometry s out = true := by
  rw [Operator.paddingFits, h.height_eq, h.width_eq,
    Axis.trailingFits_eq h.noWrap.rows h.rows h.rows_le h.height_pos,
    Axis.trailingFits_eq h.noWrap.cols h.cols h.cols_le h.width_pos]
  rfl

theorem tableFits (h : op.Turns s out) : op.tableFits s out = true := by
  cases op with
  | max p => rfl
  | avg p =>
    have hw := h.windowsFit
    simp only [Operator.geometry] at hw
    simp only [Operator.tableFits, hw.1, hw.2, h.divisorsFit_windows, Bool.and_true]
    cases ho : p.divisorOverride with
    | some d => rfl
    | none => simpa using h.held.table p rfl ho

theorem lower (h : op.Turns s out) : op.lower s.toShape = .ok (op.primitives s out) := by
  simp [Operator.lower, h.checked, h.forOperator, h.output, h.paddingFits, h.tableFits, bind,
    Except.bind, pure, Except.pure]

theorem stage (h : op.Turns s out) :
    op.stage s.toShape = .ok ⟨op.text, out.toShape, op.primitives s out⟩ := by
  simp [Operator.stage, h.lower, h.outputShape, bind, Except.bind, pure, Except.pure]

end Turns

/-! ## Small numbers -/

theorem volume_filter_le {b : Nat} (hb : 0 < b) {t : Shape} (h : ∀ d ∈ t, d ≤ b) :
    volume (t.filter (· ≠ 0)) ≤ b ^ t.length := by
  induction t with
  | nil => exact Nat.le_refl 1
  | cons d ds ih =>
    have hd := ih (fun e he => h e (List.mem_cons_of_mem _ he))
    rw [List.length_cons, Nat.pow_succ, Nat.mul_comm]
    by_cases hz : d = 0
    · rw [List.filter_cons_of_neg (by simp [hz])]
      exact hd.trans (Nat.le_mul_of_pos_left _ hb)
    · rw [List.filter_cons_of_pos (by simp [hz]), volume]
      exact Nat.mul_le_mul (h d List.mem_cons_self) hd

theorem held_of_le (hb : out.batch ≤ 2 ^ 15) (hc : out.channels ≤ 2 ^ 15)
    (hh : out.height ≤ 2 ^ 15) (hw : out.width ≤ 2 ^ 15)
    (hd : ∀ p, op = .avg p → ∀ i < out.height, ∀ j < out.width,
      p.divisor (p.geometry.rows.window s.height i) (p.geometry.cols.window s.width j) <
        wordLimit) : op.Held s out where
  result := by
    have hv := volume_filter_le (b := 2 ^ 15) (t := out.toShape) (by decide) (by
      simp only [MapShape.toShape, List.forall_mem_cons]
      exact ⟨hb, hc, hh, hw, by simp⟩)
    rw [addressable, decide_eq_true_eq]
    exact Nat.lt_of_le_of_lt hv (show (2 ^ 15) ^ 4 < signLimit by decide)
  rows := by
    rw [fitsMemory, decide_eq_true_eq, windowSize, signLimit]
    omega
  cols := by
    rw [fitsMemory, decide_eq_true_eq, windowSize, signLimit]
    omega
  table _ _ _ := by
    have hhw := Nat.mul_le_mul hh hw
    rw [fitsMemory, decide_eq_true_eq, signLimit]
    omega
  divisor := hd

theorem noWrap_of_lt (hc : op.check = .ok ())
    (hg : op.geometry.kernel.h < 2 ^ 14 ∧ op.geometry.kernel.w < 2 ^ 14 ∧
      op.geometry.stride.h < 2 ^ 14 ∧ op.geometry.stride.w < 2 ^ 14)
    (hs : s.batch < 2 ^ 14 ∧ s.channels < 2 ^ 14 ∧ 0 < s.height ∧ s.height < 2 ^ 14 ∧
      0 < s.width ∧ s.width < 2 ^ 14)
    (hd : ∀ p d, op = .avg p → p.divisorOverride = some d → d < halfWordLimit) : op.NoWrap s := by
  obtain ⟨hr, hk⟩ := sound_of_check hc
  obtain ⟨g1, g2, g3, g4⟩ := hg
  obtain ⟨s1, s2, s3, s4, s5, s6⟩ := hs
  have hkh : op.geometry.rows.kernel < 2 ^ 14 := g1
  have hkw : op.geometry.cols.kernel < 2 ^ 14 := g2
  have hsh : op.geometry.rows.stride < 2 ^ 14 := g3
  have hsw : op.geometry.cols.stride < 2 ^ 14 := g4
  have hnr : op.geometry.rows.NoWrap op.geometry.ceilMode s.height :=
    Axis.noWrap_of_lt hr s3 (by omega) (by omega) (by omega)
  have hnk : op.geometry.cols.NoWrap op.geometry.ceilMode s.width :=
    Axis.noWrap_of_lt hk s5 (by omega) (by omega) (by omega)
  refine ⟨hnr, hnk, fun out ho => ?_⟩
  rw [output_eq hc hnr hnk s3 s5] at ho
  split_ifs at ho with h1 h2
  cases ho
  have hch := Axis.count_le hr op.geometry.ceilMode s3
  have hcw := Axis.count_le hk op.geometry.ceilMode s5
  have hph := hr.padding_le
  have hpw := hk.padding_le
  have hb : s.batch ≤ 2 ^ 15 := by omega
  have hc : s.channels ≤ 2 ^ 15 := by omega
  refine held_of_le hb hc (by rw [MapShape.resize_height]; omega)
    (by rw [MapShape.resize_width]; omega) ?_
  have hlr := Nat.le_of_not_lt h1
  have hlk := Nat.le_of_not_lt h2
  rintro p rfl i hi j hj
  refine AvgPool.divisor_lt_of_le (Axis.window_length_le hnr hr hlr hi)
    (Axis.window_length_le hnk hk hlk hj) ?_ fun d ho => ?_
  · calc _ ≤ p.geometry.rows.kernel * p.geometry.cols.kernel :=
          Nat.mul_le_mul (Axis.paddedLength_le hnr hr hlr hi) (Axis.paddedLength_le hnk hk hlk hj)
      _ ≤ 2 ^ 14 * 2 ^ 14 := Nat.mul_le_mul hkh.le hkw.le
      _ < wordLimit := by decide
  · exact (hd p d rfl ho).trans (by decide)

/-! ## What one operator does with any shape -/

def Safe (op : Operator) (s : Shape) : Prop :=
  ∀ plane, MapShape.forOperator op.kind s = .ok plane → op.NoWrap plane

theorem forOperator_error {s : Shape} {cause : ConfigFault}
    (h : MapShape.forOperator op.kind s = .error cause) : cause.aborts = false := by
  unfold MapShape.forOperator at h
  split at h
  · split_ifs at h
    cases h
    rfl
  · cases h
    rfl

/-- Either the shape is refused by the inference, by the trusted pooling and by the lowering, for
one cause, or the operator turns its planes. -/
theorem outputShape_cases {s : Shape} (hc : op.check = .ok ()) (hn : op.Safe s) :
    (∃ cause, op.outputShape s = .error cause ∧ cause.aborts = false ∧
      op.stage s = .error cause) ∨
    ∃ plane out, s = plane.toShape ∧ op.Turns plane out := by
  cases hf : MapShape.forOperator op.kind s with
  | error cause =>
    refine .inl ⟨cause, ?_, forOperator_error hf, ?_⟩
    · simp [outputShape, hf, bind, Except.bind]
    · simp [stage, lower, hc, hf, bind, Except.bind]
  | ok plane =>
    obtain ⟨rfl, hh, hw⟩ := MapShape.forOperator_eq_ok.1 hf
    rcases output_cases hc (hn plane hf) hh hw with ⟨cause, he, ha⟩ | ⟨out, -, ht⟩
    · refine .inl ⟨cause, ?_, ha, ?_⟩
      · simp [outputShape, hf, he, bind, Except.bind]
      · simp [stage, lower, hc, hf, he, bind, Except.bind]
    · exact .inr ⟨plane, out, rfl, ht⟩

end Operator

end PoolCheck
