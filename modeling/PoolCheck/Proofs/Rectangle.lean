import Mathlib.Data.List.Basic
import Mathlib.Data.List.ProdSigma
import PoolCheck.Proofs.Sight

/-!
# The rectangle behind each element

Where a window starts and stops is said once more, with signed positions and for one element of the
result at a time. What lies on the plane between the two is a rectangle, and pooling has read its
elements row by row. So what holds of each window holds of each element of the result, by its place
in row-major order.
-/

set_option autoImplicit false

namespace PoolCheck

/-! ## Along one dimension -/

namespace Axis

/-- Where window `o` starts, on the line or in the padding before it. -/
def low (a : Axis) (o : Nat) : Int := (o : Int) * a.stride - a.padding

/-- Where window `o` stops: a kernel further on, or where the padding behind the line does. -/
def high (a : Axis) (input o : Nat) : Int := min (a.low o + a.kernel) (input + a.padding)

def onLine (a : Axis) (input o : Nat) : List Nat :=
  (List.range input).filter fun i =>
    max (a.low o) 0 ≤ (i : Int) ∧ (i : Int) < min (a.high input o) input

variable {a : Axis} {ceilMode : Bool} {input out o : Nat}

theorem noWrap_of_fits (h : a.Sound) (hr : a.Readable input) (hi : 0 < input)
    (he : a.extent ceilMode input = .ok out) (hf : a.windowsFit input out = true) :
    a.NoWrap ceilMode input ∧ a.kernel ≤ a.padded input ∧ out = a.count ceilMode input := by
  rw [extent_of_readable hr h.stride_pos hi] at he
  split_ifs at he with hlong hsteps
  cases he
  have hk : a.kernel ≤ a.padded input := Nat.le_of_not_lt hlong
  have hpadded : input + 2 * a.padding < signLimit := hr.padded_lt
  refine ⟨⟨hr.kernel_lt, hr.stride_lt, hr.padded_lt, ?_, fun _ => ?_⟩, hk, rfl⟩
  · rintro rfl -
    rw [stepsFit, steps_eq hr h.stride_pos hk, signed_eq hr.stride_lt] at hsteps
    simp only [if_true, Bool.not_true, Bool.false_or, Bool.and_eq_true, isReading_iff] at hsteps
    exact_mod_cast hsteps.2.1.2
  · have hcount := count_pos a ceilMode hi
    have hlast := last_start_lt h ceilMode hi
    have hfit : a.windowFits input (a.count ceilMode input - 1) = true := by
      rw [windowsFit, decide_eq_false (by omega), Bool.false_or, Bool.and_eq_true] at hf
      exact hf.2
    rw [windowFits, signed_eq (show (a.count ceilMode input - 1) * a.stride < signLimit by omega),
      signed_eq hr.kernel_lt, signed_eq (show a.padding < signLimit by omega)] at hfit
    simp only [Bool.and_eq_true, isReading_iff] at hfit
    omega

theorem onLine_eq (hn : a.NoWrap ceilMode input) (h : a.Sound) (hk : a.kernel ≤ a.padded input)
    (ho : o < a.count ceilMode input) : a.onLine input o = (a.window input o).positions := by
  have hcast : ((o * a.stride : Nat) : Int) = (o : Int) * a.stride := Nat.cast_mul o a.stride
  have hrange : a.onLine input o = (List.range' 0 input).filter fun i =>
      o * a.stride - a.padding ≤ i ∧ i < o * a.stride + a.kernel - a.padding := by
    rw [← List.range_eq_range', onLine]
    apply List.filter_congr
    intro i hi
    rw [List.mem_range] at hi
    rw [high, low, ← hcast, decide_eq_decide]
    omega
  rw [hrange, filter_range', window_eq hn h hk ho, Window.positions, Window.length]
  simp only
  congr 1
  omega

theorem paddedLength_eq (hn : a.NoWrap ceilMode input) (h : a.Sound)
    (hk : a.kernel ≤ a.padded input) (hi : 0 < input) (ho : o < a.count ceilMode input) :
    ((a.window input o).paddedLength : Int) = a.high input o - a.low o := by
  have hcast : ((o * a.stride : Nat) : Int) = (o : Int) * a.stride := Nat.cast_mul o a.stride
  have hstart := start_lt h hi ho
  rw [window_eq hn h hk ho, high, low, ← hcast]
  simp only [padded]
  omega

end Axis

/-! ## On a plane -/

namespace Geometry

/-- The rows and columns that the windows `i` and `j` have on a plane, row by row. -/
def rectangle (g : Geometry) (s : MapShape) (i j : Nat) : List (Nat × Nat) :=
  g.rows.onLine s.height i ×ˢ g.cols.onLine s.width j

def area (g : Geometry) (s : MapShape) (i j : Nat) : Int :=
  (g.rows.high s.height i - g.rows.low i) * (g.cols.high s.width j - g.cols.low j)

/-- Each element of `y` has a relation to the elements of `x` in the rectangle behind it, on the
plane of the same image and channel. -/
def EachElement (g : Geometry) (s out : MapShape) (x y : Tensor)
    (R : Nat → Nat → List Binary32 → Binary32 → Prop) : Prop :=
  ∀ b < out.batch, ∀ c < out.channels, ∀ i < out.height, ∀ j < out.width, ∃ values v,
    (g.rectangle s i j).map (fun q => x.data[s.place b c q.1 q.2]?) = values.map some ∧
      y.data[out.place b c i j]? = some v ∧ R i j values v

end Geometry

theorem patch_eq_map (rows cols : Window) (plane : Nat → Nat → Binary32) :
    patch rows cols plane = (rows.positions ×ˢ cols.positions).map fun q => plane q.1 q.2 := by
  show _ = (rows.positions.flatMap fun i => cols.positions.map (Prod.mk i)).map _
  rw [patch, List.map_flatMap]
  apply List.flatMap_congr
  intro i _
  rw [List.map_map]
  rfl

namespace Operator

/-- Once an operator has pooled the planes of a shape, no number along either side has wrapped. -/
structure Pooled (op : Operator) (s out : MapShape) : Prop where
  sound : op.Sound
  rows : op.geometry.rows.NoWrap op.geometry.ceilMode s.height
  cols : op.geometry.cols.NoWrap op.geometry.ceilMode s.width
  height_pos : 0 < s.height
  width_pos : 0 < s.width
  rows_le : op.geometry.rows.kernel ≤ op.geometry.rows.padded s.height
  cols_le : op.geometry.cols.kernel ≤ op.geometry.cols.padded s.width
  out_eq : out = s.resize (op.geometry.rows.count op.geometry.ceilMode s.height)
    (op.geometry.cols.count op.geometry.ceilMode s.width)

variable {op : Operator} {s out : MapShape}

theorem pooled_of_forward {x y : Tensor} (h : op.forward x = .ok y) (hx : x.shape = s.toShape)
    (hr : op.geometry.rows.Readable s.height) (hc : op.geometry.cols.Readable s.width) :
    ∃ (map : FeatureMap) (out : MapShape), x = map.toTensor ∧
      map.shape = s ∧ op.geometry.output s = .ok out ∧ op.Pooled s out ∧
      windowsFit op.geometry s out = true ∧ op.divisorsFit s out = true ∧
      addressable out.toShape = true ∧ y = (op.poolMap map out).toTensor := by
  obtain ⟨hcheck, map, out, rfl, hplane, ho, hw, hd, ha, rfl⟩ := forward_eq_ok.1 h
  cases MapShape.toShape_injective hx
  have hsound := check_eq_ok.1 hcheck
  obtain ⟨-, hh, hwidth⟩ := MapShape.forOperator_eq_ok.1 hplane
  obtain ⟨height, width, heh, hew, rfl⟩ := Geometry.output_eq_ok.1 ho
  have hfits := hw
  simp only [windowsFit, MapShape.resize_height, MapShape.resize_width, Bool.and_eq_true] at hfits
  obtain ⟨⟨-, hfr⟩, hfc⟩ := hfits
  obtain ⟨hnr, hkr, rfl⟩ := Axis.noWrap_of_fits hsound.rows hr hh heh hfr
  obtain ⟨hnc, hkc, rfl⟩ := Axis.noWrap_of_fits hsound.cols hc hwidth hew hfc
  exact ⟨map, _, rfl, rfl, ho, ⟨hsound, hnr, hnc, hh, hwidth, hkr, hkc, rfl⟩, hw, hd, ha, rfl⟩

namespace Pooled

variable {i j : Nat}

theorem lt_rows (h : op.Pooled s out) (hi : i < out.height) :
    i < op.geometry.rows.count op.geometry.ceilMode s.height := by
  rwa [h.out_eq] at hi

theorem lt_cols (h : op.Pooled s out) (hj : j < out.width) :
    j < op.geometry.cols.count op.geometry.ceilMode s.width := by
  rwa [h.out_eq] at hj

theorem rectangle_eq (h : op.Pooled s out) (hi : i < out.height) (hj : j < out.width) :
    op.geometry.rectangle s i j = (op.geometry.rows.window s.height i).positions ×ˢ
      (op.geometry.cols.window s.width j).positions := by
  rw [Geometry.rectangle, Axis.onLine_eq h.rows h.sound.rows h.rows_le (h.lt_rows hi),
    Axis.onLine_eq h.cols h.sound.cols h.cols_le (h.lt_cols hj)]

theorem seeing (h : op.Pooled s out) : op.Seeing s out where
  sound := h.sound
  out_eq := by rw [h.out_eq]; rfl
  rows _ hi := Axis.sees h.rows h.sound.rows h.rows_le h.height_pos (h.lt_rows hi)
  cols _ hj := Axis.sees h.cols h.sound.cols h.cols_le h.width_pos (h.lt_cols hj)

theorem area_eq (h : op.Pooled s out) (hi : i < out.height) (hj : j < out.width) :
    (((op.geometry.rows.window s.height i).paddedLength *
      (op.geometry.cols.window s.width j).paddedLength : Nat) : Int) =
        op.geometry.area s i j := by
  rw [Nat.cast_mul, Geometry.area,
    Axis.paddedLength_eq h.rows h.sound.rows h.rows_le h.height_pos (h.lt_rows hi),
    Axis.paddedLength_eq h.cols h.sound.cols h.cols_le h.width_pos (h.lt_cols hj)]

theorem read_rectangle (h : op.Pooled s out) {x : FeatureMap} (hx : x.shape = s) {b c : Nat}
    (hb : b < s.batch) (hc : c < s.channels) (hi : i < out.height) (hj : j < out.width) :
    (op.geometry.rectangle s i j).map (fun q => x.data[s.place b c q.1 q.2]?) =
      (patch (op.geometry.rows.window s.height i) (op.geometry.cols.window s.width j)
        (x.entry b c)).map some := by
  subst hx
  rw [h.rectangle_eq hi hj, patch_eq_map, List.map_map]
  apply List.map_congr_left
  rintro ⟨k, l⟩ hmem
  obtain ⟨hk, hl⟩ := List.mem_product.1 hmem
  exact x.getElem?_place hb hc ((h.seeing.rows i hi).lt_of_mem_positions hk)
    ((h.seeing.cols j hj).lt_of_mem_positions hl)

theorem eachElement (h : op.Pooled s out) {x : FeatureMap} (hx : x.shape = s)
    {R : Nat → Nat → List Binary32 → Binary32 → Prop}
    (hR : ∀ b < s.batch, ∀ c < s.channels, ∀ i < out.height, ∀ j < out.width,
      R i j (patch (op.geometry.rows.window s.height i) (op.geometry.cols.window s.width j)
        (x.entry b c)) (op.pool (op.geometry.rows.window s.height i)
          (op.geometry.cols.window s.width j) (x.entry b c))) :
    op.geometry.EachElement s out x.toTensor (op.poolMap x out).toTensor R := by
  intro b hb c hc i hi j hj
  have hb' : b < s.batch := by rwa [h.out_eq] at hb
  have hc' : c < s.channels := by rwa [h.out_eq] at hc
  refine ⟨_, _, h.read_rectangle hx hb' hc' hi hj, ?_, hR b hb' c hc' i hi j hj⟩
  subst hx
  have hplace := (op.poolMap x out).getElem?_place hb hc hi hj
  rw [poolMap, FeatureMap.entry_ofFn _ hb hc hi hj] at hplace
  exact hplace

end Pooled

end Operator

end PoolCheck
