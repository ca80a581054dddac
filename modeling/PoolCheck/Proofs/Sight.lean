import PoolCheck.Proofs.Acceptance
import PoolCheck.Proofs.Lowering

/-!
# Windows that see the line

Of each window at least one element lies on the line itself, whichever way the number of windows is
rounded, since the padding is at most half as long as the kernel. So no average is taken over
nothing, no stored divisor is below one, and each maximum is an element of the plane.
-/

set_option autoImplicit false

namespace PoolCheck

/-! ## Along one dimension -/

namespace Axis

def MeetsPadding (a : Axis) (input o : Nat) : Prop :=
  ∃ t : Int, (o : Int) * a.stride - a.padding ≤ t ∧
    t < (o : Int) * a.stride - a.padding + a.kernel ∧
    (-(a.padding : Int) ≤ t ∧ t < 0 ∨ (input : Int) ≤ t ∧ t < (input : Int) + a.padding)

/-- What the window with number `o` is cut to: from where it starts on the line to where it or the
line ends, which is not nothing. The padding only adds to its length, which stays within the
kernel. -/
structure Sees (a : Axis) (input o : Nat) : Prop where
  start_eq : ((a.window input o).start : Int) = max ((o : Int) * a.stride - a.padding) 0
  stop_eq : ((a.window input o).stop : Int) =
    min ((o : Int) * a.stride - a.padding + a.kernel) input
  start_lt : (a.window input o).start < (a.window input o).stop
  length_pos : 1 ≤ (a.window input o).length
  length_le : (a.window input o).length ≤ (a.window input o).paddedLength
  paddedLength_le : (a.window input o).paddedLength ≤ a.kernel
  unpadded : ¬a.MeetsPadding input o → (a.window input o).paddedLength = (a.window input o).length
  of_padding_zero : a.padding = 0 → (a.window input o).paddedLength = (a.window input o).length

variable {a : Axis} {ceilMode : Bool} {input out o : Nat}

theorem inside_of_not_meetsPadding (hp : 0 < a.padding) (hstart : o * a.stride < input + a.padding)
    (hk : 0 < a.kernel) (hm : ¬a.MeetsPadding input o) :
    a.padding ≤ o * a.stride ∧ o * a.stride + a.kernel ≤ input + a.padding := by
  constructor
  · by_contra hlt
    refine hm ⟨(o : Int) * a.stride - a.padding, le_rfl, by omega, .inl ⟨?_, ?_⟩⟩
    · have hnn : (0 : Int) ≤ (o : Int) * a.stride := by positivity
      omega
    · have hcast : ((o * a.stride : Nat) : Int) < a.padding := by omega
      push_cast at hcast
      omega
  · by_contra hlt
    have hend : ((input + a.padding : Nat) : Int) < (o * a.stride + a.kernel : Nat) := by omega
    have hbegin : ((o * a.stride : Nat) : Int) < (input + a.padding : Nat) := by omega
    push_cast at hend hbegin
    exact hm ⟨input, by omega, by omega, .inr ⟨le_rfl, by omega⟩⟩

theorem sees (hn : a.NoWrap ceilMode input) (h : a.Sound) (hk : a.kernel ≤ a.padded input)
    (hi : 0 < input) (ho : o < a.count ceilMode input) : a.Sees input o := by
  have hpos := window_nonempty hn h hk hi ho
  have hw := window_eq hn h hk ho
  have hstart := start_lt h hi ho
  have hpad := h.padding_le
  have hkernel := h.kernel_pos
  have hcast : ((o * a.stride : Nat) : Int) = (o : Int) * a.stride := Nat.cast_mul o a.stride
  constructor
  · rw [hw, ← hcast]
    simp only
    omega
  · rw [hw, ← hcast]
    simp only
    omega
  · unfold Window.length at hpos
    omega
  · exact hpos
  · exact window_length_le hn h hk ho
  · exact paddedLength_le hn h hk ho
  · intro hm
    rcases Nat.eq_zero_or_pos a.padding with hz | hp
    · rw [hw, Window.length]
      simp only [padded, hz]
      omega
    · obtain ⟨hl, hr⟩ := inside_of_not_meetsPadding hp hstart hkernel hm
      rw [hw, Window.length]
      simp only [padded]
      omega
  · intro hz
    rw [hw, Window.length]
    simp only [padded, hz]
    omega

theorem Sees.not_isEmpty (h : a.Sees input o) : (a.window input o).isEmpty = false :=
  decide_eq_false (Nat.ne_of_gt h.length_pos)

theorem Sees.lt_of_mem_positions (h : a.Sees input o) {i : Nat}
    (hi : i ∈ (a.window input o).positions) : i < input := by
  have hlt := (List.mem_range'_1.1 hi).2
  have hstop := h.stop_eq
  have hstart := h.start_lt
  rw [Window.length] at hlt
  omega

end Axis

/-! ## Elements of a window -/

theorem patch_ne_nil {rows cols : Window} (hr : 0 < rows.length) (hc : 0 < cols.length)
    (plane : Nat → Nat → Binary32) : patch rows cols plane ≠ [] := by
  have hi : rows.start ∈ rows.positions := List.mem_range'_1.2 ⟨Nat.le_refl _, by omega⟩
  have hj : cols.start ∈ cols.positions := List.mem_range'_1.2 ⟨Nat.le_refl _, by omega⟩
  exact List.ne_nil_of_mem (List.mem_flatMap.2 ⟨_, hi, List.mem_map.2 ⟨_, hj, rfl⟩⟩)

theorem maxStep_cases (m x : Binary32) : maxStep m x = x ∨ maxStep m x = m := by
  unfold maxStep
  split_ifs
  · exact .inl rfl
  · exact .inr rfl

theorem foldl_maxStep_cases (m : Binary32) (xs : List Binary32) :
    xs.foldl maxStep m = m ∨ xs.foldl maxStep m ∈ xs := by
  induction xs generalizing m with
  | nil => exact .inl rfl
  | cons x xs ih =>
    rw [List.foldl_cons, List.mem_cons]
    rcases ih (maxStep m x) with he | hmem
    · rcases maxStep_cases m x with hx | hm
      · exact .inr (.inl (he.trans hx))
      · exact .inl (he.trans hm)
    · exact .inr (.inr hmem)

theorem maxStep_negInfinity (x : Binary32) : maxStep .negInfinity x = x := by
  unfold maxStep
  split_ifs with h
  · rfl
  · rw [Bool.or_eq_true, not_or, Bool.not_eq_true, Bool.not_eq_true] at h
    exact (Binary32.eq_negInfinity h.1 h.2).symm

theorem maximum_mem {xs : List Binary32} (hne : xs ≠ []) : maximum xs ∈ xs := by
  cases xs with
  | nil => exact absurd rfl hne
  | cons x xs =>
    rw [maximum, List.foldl_cons, maxStep_negInfinity, List.mem_cons]
    exact foldl_maxStep_cases x xs

theorem FeatureMap.entry_mem (x : FeatureMap) {b c i j : Nat} (hb : b < x.shape.batch)
    (hc : c < x.shape.channels) (hi : i < x.shape.height) (hj : j < x.shape.width) :
    x.entry b c i j ∈ x.data :=
  Array.mem_of_getElem? (x.getElem?_place hb hc hi hj)

theorem FeatureMap.of_mem_ofFn {s : MapShape} {f : Nat → Nat → Nat → Nat → Binary32} {v : Binary32}
    (h : v ∈ (ofFn s f).data) : ∃ b c i j, b < s.batch ∧ c < s.channels ∧ i < s.height ∧
      j < s.width ∧ v = f b c i j := by
  obtain ⟨k, hk, rfl⟩ := Array.mem_iff_getElem.1 h
  have hk' : k < volume s.toShape := by simpa [ofFn] using hk
  obtain ⟨hb, hc, hi, hj⟩ := MapShape.place_split hk'
  exact ⟨_, _, _, _, hb, hc, hi, hj, by simp [ofFn]⟩

theorem FeatureMap.divideByMap_of_one_le {x y : FeatureMap} {height width : Nat}
    {divisors : Array Binary32} (hd : ∀ d ∈ divisors, Binary32.one.lessOrEqual d = true)
    (h : x.divideByMap height width divisors = .ok y) :
    y = ofFn x.shape fun b c i j => x.entry b c i j / divisors.getD (i * width + j) .zero := by
  unfold divideByMap at h
  split_ifs at h with hsize
  cases h
  obtain ⟨rfl, rfl, hsize⟩ := hsize
  apply ofFn_congr
  intro b c i j _ _ hi hj
  have hk : i * x.shape.width + j < divisors.size := by
    rw [hsize]
    exact row_major_lt hi hj
  have hmem : divisors.getD (i * x.shape.width + j) .zero ∈ divisors := by
    rw [Array.getD_eq_getD_getElem?, Array.getElem?_eq_getElem hk, Option.getD_some]
    exact Array.getElem_mem hk
  simp only [Binary32.equal_zero_of_one_le (hd _ hmem), Bool.false_eq_true, if_false]

/-! ## Operators -/

namespace Operator

structure Small (op : Operator) (s : MapShape) : Prop where
  kernel_h : op.geometry.rows.kernel < 2 ^ 62
  kernel_w : op.geometry.cols.kernel < 2 ^ 62
  stride_h : op.geometry.rows.stride < 2 ^ 62
  stride_w : op.geometry.cols.stride < 2 ^ 62
  height : s.height < 2 ^ 62
  width : s.width < 2 ^ 62

/-- All windows of an operator on the planes of a shape see the line along their dimension. -/
structure Seeing (op : Operator) (s out : MapShape) : Prop where
  sound : op.Sound
  out_eq : out = s.resize out.height out.width
  rows : ∀ i < out.height, op.geometry.rows.Sees s.height i
  cols : ∀ j < out.width, op.geometry.cols.Sees s.width j

variable {op : Operator} {p : AvgPool} {s out : MapShape} {i j : Nat}

theorem of_divideByMap_mem {height width : Nat} {divisors : Array Binary32}
    (h : .divideByMap height width divisors ∈ op.primitives s out) :
    ∃ p, op = .avg p ∧ p.divisorOverride = none ∧ divisors = p.divisorTable s out := by
  cases op with
  | max q => simp [primitives, padding] at h
  | avg p =>
    cases ho : p.divisorOverride with
    | some d => simp [primitives, padding, ho] at h
    | none =>
      simp only [primitives, padding, ho, List.mem_cons, reduceCtorEq, false_or,
        Primitive.divideByMap.injEq, List.not_mem_nil, or_false] at h
      exact ⟨p, rfl, ho, h.2.2⟩

theorem seeing_of_output (hc : op.check = .ok ()) (hs : op.Small s)
    (ho : op.geometry.output s = .ok out) : op.Seeing s out := by
  have hsound := check_eq_ok.1 hc
  obtain ⟨h, w, hh, hw, rfl⟩ := Geometry.output_eq_ok.1 ho
  obtain ⟨hi, hn, hk, rfl⟩ := Axis.of_extent hsound.rows ⟨hs.kernel_h, hs.stride_h, hs.height⟩ hh
  obtain ⟨hi', hn', hk', rfl⟩ := Axis.of_extent hsound.cols ⟨hs.kernel_w, hs.stride_w, hs.width⟩ hw
  constructor
  · exact hsound
  · rfl
  · exact fun i ho => Axis.sees hn hsound.rows hk hi ho
  · exact fun j ho => Axis.sees hn' hsound.cols hk' hi' ho

namespace Seeing

theorem pool_eq (h : (Operator.avg p).Seeing s out) (hi : i < out.height) (hj : j < out.width)
    (plane : Nat → Nat → Binary32) :
    p.pool (p.geometry.rows.window s.height i) (p.geometry.cols.window s.width j) plane =
      sum (patch (p.geometry.rows.window s.height i) (p.geometry.cols.window s.width j) plane) /
        .ofCount (p.divisor (p.geometry.rows.window s.height i)
          (p.geometry.cols.window s.width j)) :=
  AvgPool.pool_of_seen (h.rows i hi).length_pos (h.cols j hj).length_pos plane

theorem divisor_pos (h : (Operator.avg p).Seeing s out) (hi : i < out.height) (hj : j < out.width) :
    0 < p.divisor (p.geometry.rows.window s.height i) (p.geometry.cols.window s.width j) := by
  have hr := h.rows i hi
  have hc := h.cols j hj
  exact AvgPool.divisor_pos (h.sound.divisor p rfl) hr.length_pos hc.length_pos hr.length_le
    hc.length_le

theorem one_le_divisorTable (h : (Operator.avg p).Seeing s out) (ho : p.divisorOverride = none)
    (ht : (Operator.avg p).tableFits s out = true) :
    ∀ d ∈ p.divisorTable s out, Binary32.one.lessOrEqual d = true := by
  intro d hd
  simp only [tableFits, ho, Option.isSome_none, Bool.false_or, Bool.and_eq_true] at ht
  rw [AvgPool.divisorTable, List.mem_toArray, List.mem_flatMap] at hd
  obtain ⟨i, hi, hd⟩ := hd
  obtain ⟨j, hj, rfl⟩ := List.mem_map.1 hd
  refine Binary32.one_le_ofCount
    (h.divisor_pos (List.mem_range.1 hi) (List.mem_range.1 hj)) ?_
  exact AvgPool.divisor_lt ht.2 ho (List.mem_map_of_mem hi) (List.mem_map_of_mem hj)

theorem mem_of_mem_poolMap {q : MaxPool} {x : FeatureMap}
    (h : (Operator.max q).Seeing x.shape out) {v : Binary32}
    (hv : v ∈ ((Operator.max q).poolMap x out).data) : v ∈ x.data := by
  obtain ⟨b, c, i, j, hb, hc, hi, hj, rfl⟩ := FeatureMap.of_mem_ofFn hv
  rw [h.out_eq] at hb hc
  have hrow := h.rows i hi
  have hcol := h.cols j hj
  have hmem := maximum_mem (patch_ne_nil hrow.length_pos hcol.length_pos (x.entry b c))
  obtain ⟨k, hk, hmem⟩ := List.mem_flatMap.1 hmem
  obtain ⟨l, hl, he⟩ := List.mem_map.1 hmem
  have hpool : (Operator.max q).pool ((Operator.max q).geometry.rows.window x.shape.height i)
      ((Operator.max q).geometry.cols.window x.shape.width j) (x.entry b c) = x.entry b c k l :=
    he.symm
  rw [hpool]
  exact x.entry_mem hb hc (hrow.lt_of_mem_positions hk) (hcol.lt_of_mem_positions hl)

end Seeing

end Operator

/-- Wherever an extent is given, each window holds an element of the line, and the padding adds to
it up to the kernel where the two meet. So an operator that passes its check averages no empty
window, stores no divisor below one, which is to say that the stored table divides every element,
and takes maxima that are elements of the plane, so that a negative infinity is one that was there
before. -/
theorem windows_see :
    (∀ (a : Axis) (ceilMode : Bool) (input out : Nat) (name : String) (along : Dimension),
      a.check name along = .ok () → a.kernel < 2 ^ 62 → a.stride < 2 ^ 62 → input < 2 ^ 62 →
      a.extent ceilMode input = .ok out → ∀ o < out, a.Sees input o) ∧
    ∀ (op : Operator) (s out : MapShape), op.check = .ok () → op.Small s →
      op.outputShape s.toShape = .ok out.toShape →
      (∀ i < out.height, ∀ j < out.width,
        (op.geometry.rows.window s.height i).isEmpty = false ∧
        (op.geometry.cols.window s.width j).isEmpty = false ∧ ∀ p, op = .avg p → ∀ plane,
        p.pool (p.geometry.rows.window s.height i) (p.geometry.cols.window s.width j) plane =
          sum (patch (p.geometry.rows.window s.height i) (p.geometry.cols.window s.width j)
            plane) / .ofCount (p.divisor (p.geometry.rows.window s.height i)
              (p.geometry.cols.window s.width j))) ∧
      (∀ ps height width divisors, op.lower s.toShape = .ok ps →
        .divideByMap height width divisors ∈ ps →
          (∀ d ∈ divisors, Binary32.one.lessOrEqual d = true) ∧
          ∀ x y, (Primitive.divideByMap height width divisors).step x = .ok y →
            y = .ofFn x.shape fun b c i j =>
              x.entry b c i j / divisors.getD (i * width + j) .zero) ∧
      ∀ q, op = .max q → ∀ x y : Tensor, x.shape = s.toShape → op.forward x = .ok y →
        ∀ v ∈ y.data, v ∈ x.data := by
  refine ⟨fun a ceilMode input out name along hc hk hs hl he o ho => ?_,
    fun op s out hc hsmall hout => ?_⟩
  · have hsound := Axis.check_eq_ok.1 hc
    obtain ⟨hi, hn, hk', rfl⟩ := Axis.of_extent hsound ⟨hk, hs, hl⟩ he
    exact Axis.sees hn hsound hk' hi ho
  · obtain ⟨plane, shape, hplane, ho, hshape⟩ := Operator.outputShape_eq_ok.1 hout
    cases MapShape.toShape_injective (MapShape.forOperator_eq_ok.1 hplane).1
    cases MapShape.toShape_injective hshape
    have hsee := Operator.seeing_of_output hc hsmall ho
    refine ⟨?_, ?_, ?_⟩
    · intro i hi j hj
      refine ⟨(hsee.rows i hi).not_isEmpty, (hsee.cols j hj).not_isEmpty, ?_⟩
      rintro p rfl values
      exact hsee.pool_eq hi hj values
    · intro ps height width divisors hl hmem
      obtain ⟨-, plane, shape, hplane', ho', -, ht, rfl⟩ := Operator.lower_eq_ok.1 hl
      cases hplane.symm.trans hplane'
      cases ho.symm.trans ho'
      obtain ⟨p, rfl, hd, rfl⟩ := Operator.of_divideByMap_mem hmem
      have hone := hsee.one_le_divisorTable hd ht
      exact ⟨hone, fun x y hy => FeatureMap.divideByMap_of_one_le hone hy⟩
    · rintro q rfl x y hx hf v hv
      obtain ⟨-, map, shape, rfl, -, ho', -, -, -, rfl⟩ := Operator.forward_eq_ok.1 hf
      cases MapShape.toShape_injective hx
      cases ho.symm.trans ho'
      exact hsee.mem_of_mem_poolMap hv

/-- Rounding up lets the last window of three elements begin on the last of four, with two of them
behind the line. A window there along both dimensions has one element to take the average of. -/
theorem windows_see_clipped :
    let pool : AvgPool := ⟨⟨.square 3, .square 2, .square 1, true⟩, false, none⟩
    (⟨3, 2, 1⟩ : Axis).Sees 4 2 ∧
      pool.pool ⟨3, 4, 2⟩ ⟨3, 4, 2⟩ (fun _ _ => .one) = sum [.one] / .ofCount 1 :=
  ⟨windows_see.1 ⟨3, 2, 1⟩ true 4 3 "AvgPool2d" .height (by decide) (by decide) (by decide)
      (by decide) (by decide) 2 (by decide),
    ((windows_see.2 (.avg ⟨⟨.square 3, .square 2, .square 1, true⟩, false, none⟩) ⟨1, 1, 4, 4⟩
      ⟨1, 1, 3, 3⟩ (by decide) ⟨by decide, by decide, by decide, by decide, by decide, by decide⟩
      (by decide)).1 2 (by decide) 2 (by decide)).2.2 _ rfl fun _ _ => .one⟩

end PoolCheck
