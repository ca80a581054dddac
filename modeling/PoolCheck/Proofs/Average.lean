import PoolCheck.Proofs.Rectangle

/-!
# Averages by position

Each element of an average is the sum over the rectangle behind it, taken from zero row by row, over
the divisor that is given, or the area of its windows with their padding, or the number of elements
of the rectangle.
-/

set_option autoImplicit false

namespace PoolCheck

namespace AvgPool

def denominator (p : AvgPool) (s : MapShape) (i j : Nat) : Int :=
  match p.divisorOverride with
  | some d => d
  | none =>
    if p.countIncludePad then p.geometry.area s i j else (p.geometry.rectangle s i j).length

end AvgPool

namespace Operator.Pooled

variable {p : AvgPool} {s out : MapShape} {i j : Nat}

theorem divisor_eq (h : (Operator.avg p).Pooled s out) (hi : i < out.height) (hj : j < out.width) :
    ((p.divisor (p.geometry.rows.window s.height i) (p.geometry.cols.window s.width j) : Nat) :
      Int) = p.denominator s i j := by
  have harea := h.area_eq hi hj
  have hrectangle := h.rectangle_eq hi hj
  simp only [Operator.geometry] at harea hrectangle
  unfold AvgPool.divisor AvgPool.denominator
  cases p.divisorOverride with
  | some d => rfl
  | none =>
    simp only
    split_ifs
    · exact harea
    · rw [hrectangle, List.length_product, Window.positions, Window.positions, List.length_range',
        List.length_range']

theorem divisor_lt (h : (Operator.avg p).Pooled s out)
    (hd : (Operator.avg p).divisorsFit s out = true) (hn : s.batch * s.channels ≠ 0)
    (hnone : p.divisorOverride = none) (hi : i < out.height) (hj : j < out.width) :
    p.divisor (p.geometry.rows.window s.height i) (p.geometry.cols.window s.width j) <
      wordLimit := by
  have hrow := (h.seeing.rows i hi).not_isEmpty
  have hcol := (h.seeing.cols j hj).not_isEmpty
  simp only [divisorsFit, decide_eq_false hn, Bool.false_or] at hd
  refine AvgPool.divisor_lt hd hnone ?_ ?_
  · exact List.mem_filter.2 ⟨List.mem_map_of_mem (List.mem_range.2 hi), congrArg not hrow⟩
  · exact List.mem_filter.2 ⟨List.mem_map_of_mem (List.mem_range.2 hj), congrArg not hcol⟩

end Operator.Pooled

/-- Where parameters and lines are read as they are, each element of an average that is given is the
quotient of the sum over its rectangle and its denominator, rounded to a single-precision word. A
denominator that is computed is positive and a machine word itself. -/
theorem average_by_position {p : AvgPool} {x y : Tensor} {s : MapShape} (hx : x.shape = s.toShape)
    (hr : p.geometry.rows.Readable s.height) (hc : p.geometry.cols.Readable s.width)
    (h : (Operator.avg p).forward x = .ok y) :
    ∃ out, p.geometry.output s = .ok out ∧ out = s.resize out.height out.width ∧
      y.shape = out.toShape ∧ p.geometry.EachElement s out x y fun i j values v =>
        ∃ d : Nat, (d : Int) = p.denominator s i j ∧
          (p.divisorOverride = none → 0 < d ∧ d < wordLimit) ∧
          v = values.foldl (· + ·) .zero / .ofCount d := by
  obtain ⟨map, out, rfl, hs, ho, hp, -, hd, -, rfl⟩ := Operator.pooled_of_forward h hx hr hc
  have hsee := hp.seeing
  refine ⟨out, ho, hsee.out_eq, rfl, hp.eachElement hs fun b hb c hc i hi j hj => ?_⟩
  have hplanes : s.batch * s.channels ≠ 0 := Nat.mul_ne_zero (by omega) (by omega)
  refine ⟨_, hp.divisor_eq hi hj, fun hnone => ⟨hsee.divisor_pos hi hj, ?_⟩,
    hsee.pool_eq hi hj (map.entry b c)⟩
  exact hp.divisor_lt hd hplanes hnone hi hj

/-- Rounding up, the last window of three on four positions begins on the last of them and ends with
the padding. Along both sides, it has one element to sum up, and an area of four. -/
theorem average_by_position_corner :
    let p : AvgPool := ⟨⟨.square 3, .square 2, .square 1, true⟩, true, none⟩
    let x : Tensor := ⟨[1, 1, 4, 4], Array.ofFn fun k : Fin 16 => .ofCount k, by simp [volume]⟩
    ∃ y, (Operator.avg p).forward x = .ok y ∧
      y.data[8]? = some ([.ofCount 15].foldl (· + ·) .zero / .ofCount 4) := by
  intro p x
  let map : FeatureMap := ⟨⟨1, 1, 4, 4⟩, x.data, x.size_eq⟩
  have hf : (Operator.avg p).forward x = .ok ((Operator.avg p).poolMap map ⟨1, 1, 3, 3⟩).toTensor :=
    Operator.forward_eq_ok.2 ⟨by decide, map, ⟨1, 1, 3, 3⟩, rfl, by decide, by decide, by decide,
      by decide, by decide, rfl⟩
  obtain ⟨out, ho, -, -, heach⟩ := average_by_position (s := ⟨1, 1, 4, 4⟩) rfl
    ⟨by decide, by decide, by decide⟩ ⟨by decide, by decide, by decide⟩ hf
  have hout : p.geometry.output ⟨1, 1, 4, 4⟩ = .ok ⟨1, 1, 3, 3⟩ := by decide
  cases ho.symm.trans hout
  obtain ⟨values, v, hvalues, hv, d, hd, -, rfl⟩ :=
    heach 0 (by decide) 0 (by decide) 2 (by decide) 2 (by decide)
  have hrectangle : p.geometry.rectangle ⟨1, 1, 4, 4⟩ 2 2 = [(3, 3)] := by decide
  have hdenominator : p.denominator ⟨1, 1, 4, 4⟩ 2 2 = 4 := by decide
  have hd4 : d = 4 := by omega
  rw [hrectangle] at hvalues
  obtain ⟨w, rfl, hw⟩ := List.map_eq_singleton_iff.1 hvalues.symm
  cases hw
  rw [hd4] at hv
  exact ⟨_, hf, hv⟩

end PoolCheck
