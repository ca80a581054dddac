import PoolCheck.Proofs.Binary32.Order
import PoolCheck.Proofs.Rectangle

/-!
# Maxima by position

Elements are taken one after another. A NaN is kept, whatever comes after it, and as long as there
is none the place of what is kept is the highest so far. What the comparison starts with is below
everything, so it is never seen: each window has an element. Thus each maximum is one of the
elements of its rectangle, and a border of negative infinities does not change that.
-/

set_option autoImplicit false

namespace PoolCheck

/-! ## Maxima of lists -/

/-- What the maximum of some values is: a NaN if there is one among them, and otherwise one of them
that none of them exceeds. It is the negative infinity only if they all are. -/
structure IsMaximum (xs : List Binary32) (m : Binary32) : Prop where
  of_nan : (∃ x ∈ xs, x.isNaN = true) → m.isNaN = true
  mem : (∀ x ∈ xs, x.isNaN = false) → m ∈ xs
  ge : (∀ x ∈ xs, x.isNaN = false) → ∀ x ∈ xs, x.lessOrEqual m = true
  of_negInfinity : m = .negInfinity → ∀ x ∈ xs, x = .negInfinity

variable {m x : Binary32} {xs : List Binary32}

theorem isNaN_maxStep (m x : Binary32) : (maxStep m x).isNaN = (m.isNaN || x.isNaN) := by
  unfold maxStep
  cases hless : m.less x with
  | true =>
    obtain ⟨hm, hx⟩ := Binary32.isNaN_of_less hless
    rw [Bool.true_or, if_pos rfl, hm, hx]
    rfl
  | false =>
    cases hx : x.isNaN with
    | true => rw [Bool.or_true, if_pos rfl, hx, Bool.or_true]
    | false => rw [Bool.or_false, if_neg Bool.false_ne_true, Bool.or_false]

theorem isNaN_foldl_maxStep (m : Binary32) (xs : List Binary32) :
    (xs.foldl maxStep m).isNaN = (m.isNaN || xs.any Binary32.isNaN) := by
  induction xs generalizing m with
  | nil => rw [List.foldl_nil, List.any_nil, Bool.or_false]
  | cons x xs ih => rw [List.foldl_cons, ih, isNaN_maxStep, List.any_cons, Bool.or_assoc]

theorem rank_maxStep (hm : m.isNaN = false) (hx : x.isNaN = false) :
    (maxStep m x).rank = max m.rank x.rank := by
  unfold maxStep
  rw [hx, Bool.or_false]
  split_ifs with hless
  · rw [max_eq_right ((Binary32.less_iff hm hx).1 hless).le]
  · rw [max_eq_left (not_lt.1 fun h => hless ((Binary32.less_iff hm hx).2 h))]

theorem rank_le_foldl_maxStep (hm : m.isNaN = false) (h : ∀ x ∈ xs, x.isNaN = false) :
    m.rank ≤ (xs.foldl maxStep m).rank ∧ ∀ x ∈ xs, x.rank ≤ (xs.foldl maxStep m).rank := by
  induction xs generalizing m with
  | nil => exact ⟨le_rfl, fun x hx => nomatch hx⟩
  | cons x xs ih =>
    rw [List.forall_mem_cons] at h
    have hstep : (maxStep m x).isNaN = false := by rw [isNaN_maxStep, hm, h.1]; rfl
    obtain ⟨hle, hall⟩ := ih hstep h.2
    rw [rank_maxStep hm h.1] at hle
    rw [List.foldl_cons, List.forall_mem_cons]
    exact ⟨(le_max_left _ _).trans hle, (le_max_right _ _).trans hle, hall⟩

theorem isMaximum_maximum (hne : xs ≠ []) : IsMaximum xs (maximum xs) := by
  have hinf : Binary32.negInfinity.isNaN = false := rfl
  have hnan : (maximum xs).isNaN = xs.any Binary32.isNaN := by
    rw [maximum, isNaN_foldl_maxStep, hinf, Bool.false_or]
  have hnone : (∀ x ∈ xs, x.isNaN = false) → (maximum xs).isNaN = false := by
    intro h
    rw [hnan, List.any_eq_false]
    intro x hx
    rw [h x hx]
    exact Bool.false_ne_true
  have hge : (∀ x ∈ xs, x.isNaN = false) → ∀ x ∈ xs, x.lessOrEqual (maximum xs) = true := by
    intro h x hx
    rw [Binary32.lessOrEqual_iff (h x hx) (hnone h)]
    exact (rank_le_foldl_maxStep hinf h).2 x hx
  refine ⟨?_, fun _ => maximum_mem hne, hge, ?_⟩
  · intro hany
    rw [hnan]
    exact List.any_eq_true.2 hany
  · intro he x hx
    rw [he, hinf] at hnan
    have h : ∀ x ∈ xs, x.isNaN = false := fun x hx =>
      Bool.eq_false_of_not_eq_true (List.any_eq_false.1 hnan.symm x hx)
    have hle := hge h x hx
    rw [he, Binary32.lessOrEqual_iff (h x hx) hinf] at hle
    refine Binary32.eq_negInfinity (Bool.eq_false_of_not_eq_true fun hless => ?_) (h x hx)
    exact absurd ((Binary32.less_iff hinf (h x hx)).1 hless) (not_lt.2 hle)

/-! ## Maxima of planes -/

namespace Operator.Pooled

variable {q : MaxPool} {s out : MapShape}

theorem turns (h : (Operator.max q).Pooled s out) (ho : q.geometry.output s = .ok out)
    (hf : windowsFit q.geometry s out = true) (ha : addressable out.toShape = true) :
    (Operator.max q).Turns s out := by
  simp only [windowsFit, Bool.and_eq_true] at hf
  refine ⟨check_eq_ok.2 h.sound, h.sound.rows, h.sound.cols, ⟨h.rows, h.cols, ?_⟩, h.height_pos,
    h.width_pos, h.rows_le, h.cols_le, h.out_eq⟩
  intro out' ho'
  cases ho.symm.trans ho'
  refine ⟨ha, hf.1.1.1, hf.1.1.2, ?_, ?_⟩
  · intro p hp
    cases hp
  · intro p hp
    cases hp

theorem eachElement_isMaximum (h : (Operator.max q).Pooled s out) {map : FeatureMap}
    (hs : map.shape = s) : q.geometry.EachElement s out map.toTensor
      ((Operator.max q).poolMap map out).toTensor fun _ _ values v => IsMaximum values v :=
  h.eachElement hs fun _ _ _ _ _ hi _ hj =>
    isMaximum_maximum
      (patch_ne_nil (h.seeing.rows _ hi).length_pos (h.seeing.cols _ hj).length_pos _)

end Operator.Pooled

theorem Operator.padded_of_run {q : MaxPool} {s out : MapShape} {x z : FeatureMap}
    (ho : q.geometry.output s = .ok out) (hx : x.shape = s)
    (h : Primitive.run ((Operator.max q).primitives s out) x = .ok z) :
    (Operator.max q).Padded s := by
  subst hx
  intro out' ho'
  cases ho.symm.trans ho'
  obtain ⟨y, hy, -⟩ := Except.bind_eq_ok.1 h
  obtain ⟨hshape, hheld⟩ := FeatureMap.shape_of_pad hy
  rw [hshape] at hheld
  exact hheld

/-- Where parameters and lines are read as they are, each element of a maximum that is given is the
maximum of its rectangle. Then the operator can be lowered, to two primitives that run as soon as
the padded planes can be held, and each element that they give is the maximum of its rectangle. -/
theorem maximum_by_position {q : MaxPool} {x y : Tensor} {s : MapShape} (hx : x.shape = s.toShape)
    (hr : q.geometry.rows.Readable s.height) (hc : q.geometry.cols.Readable s.width)
    (h : (Operator.max q).forward x = .ok y) :
    ∃ out, q.geometry.output s = .ok out ∧ out = s.resize out.height out.width ∧
      y.shape = out.toShape ∧
      (q.geometry.EachElement s out x y fun _ _ values v => IsMaximum values v) ∧
      ∃ ps map, (Operator.max q).lower x.shape = .ok ps ∧ x.toFeatureMap? = some map ∧
        ps = [Operator.padding q.geometry s out .negInfinity,
          .windowMax q.geometry.kernel q.geometry.stride] ∧
        ((Operator.max q).Padded s → ∃ z, Primitive.run ps map = .ok z) ∧
        ∀ z, Primitive.run ps map = .ok z → z.shape = out ∧
          q.geometry.EachElement s out x z.toTensor fun _ _ values v => IsMaximum values v := by
  obtain ⟨map, out, rfl, hs, ho, hp, hf, -, ha, rfl⟩ := Operator.pooled_of_forward h hx hr hc
  have ht := hp.turns ho hf ha
  have heach := hp.eachElement_isMaximum hs
  refine ⟨out, ho, hp.seeing.out_eq, rfl, heach, _, map, hx ▸ ht.lower, rfl, rfl, ?_, ?_⟩
  · intro hpadded
    exact ⟨_, ht.primitives_run hpadded hs⟩
  · intro z hz
    have hrun := ht.primitives_run (Operator.padded_of_run ho hs hz) hs
    cases hz.symm.trans hrun
    exact ⟨rfl, heach⟩

/-- Windows of three over rows of two, with padding on both sides. A NaN before a number stays, and
of two negative infinities the maximum is one of them. -/
theorem maximum_by_position_padded :
    let q : MaxPool := ⟨⟨⟨1, 3⟩, ⟨1, 3⟩, ⟨0, 1⟩, false⟩⟩
    let x : Tensor := ⟨[1, 1, 2, 2], #[.nan, .one, .negInfinity, .negInfinity], rfl⟩
    ∃ y v, (Operator.max q).forward x = .ok y ∧ y.data[0]? = some v ∧ v.isNaN = true ∧
      y.data[1]? = some .negInfinity := by
  intro q x
  let map : FeatureMap := ⟨⟨1, 1, 2, 2⟩, x.data, x.size_eq⟩
  have hf : (Operator.max q).forward x = .ok ((Operator.max q).poolMap map ⟨1, 1, 2, 1⟩).toTensor :=
    Operator.forward_eq_ok.2 ⟨by decide, map, ⟨1, 1, 2, 1⟩, rfl, by decide, by decide, by decide,
      by decide, by decide, rfl⟩
  obtain ⟨out, ho, -, -, heach, -⟩ := maximum_by_position (s := ⟨1, 1, 2, 2⟩) rfl
    ⟨by decide, by decide, by decide⟩ ⟨by decide, by decide, by decide⟩ hf
  have hout : q.geometry.output ⟨1, 1, 2, 2⟩ = .ok ⟨1, 1, 2, 1⟩ := by decide
  cases ho.symm.trans hout
  have hsome := List.map_injective_iff.2 (Option.some_injective Binary32)
  obtain ⟨first, v, hfirst, hv, hmax⟩ :=
    heach 0 (by decide) 0 (by decide) 0 (by decide) 0 (by decide)
  obtain ⟨second, w, hsecond, hw, hmax'⟩ :=
    heach 0 (by decide) 0 (by decide) 1 (by decide) 0 (by decide)
  have hr : q.geometry.rectangle ⟨1, 1, 2, 2⟩ 0 0 = [(0, 0), (0, 1)] := by decide
  have hr' : q.geometry.rectangle ⟨1, 1, 2, 2⟩ 1 0 = [(1, 0), (1, 1)] := by decide
  rw [hr] at hfirst
  rw [hr'] at hsecond
  have hnan : [.nan, .one].map some = first.map some := hfirst
  have hinf : [.negInfinity, .negInfinity].map some = second.map some := hsecond
  cases hsome hnan
  cases hsome hinf
  have hmem := hmax'.mem (by decide)
  refine ⟨_, v, hf, hv, hmax.of_nan ⟨.nan, by simp, by decide⟩, ?_⟩
  rw [show w = .negInfinity by simpa using hmem] at hw
  exact hw

end PoolCheck
