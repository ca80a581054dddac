import Mathlib.Data.List.Zip
import PoolCheck.Proofs.Binary32.Monotone
import PoolCheck.Proofs.Verdict

/-!
# Looser tolerances

A policy that accepts more pairs of elements leaves fewer positions to reject, and what a verdict
says beyond that does not depend on the policy. A larger tolerance accepts more pairs: the absolute
one is compared with the distance itself, the relative one is first multiplied by a positive
number, which keeps the order. The two tensors have equal parts in all of this.
-/

set_option autoImplicit false

namespace PoolCheck

/-! ## Sizes -/

namespace Binary32

open Float.Model (UnpackedFloat)
open Float.Model.UnpackedFloat Unpacked

variable {x y : Binary32}

theorem isInfinite_eq (x : Binary32) : x.isInfinite = x.view.isInf := by
  rw [← unpack_toFloat32 x]
  rfl

theorem view_abs (h : x.isNaN = false) : x.abs.view = unsign x.view := by
  have hheld := x.held_view
  rw [isNaN_eq] at h
  rw [← ofUnpacked_view h, abs_ofUnpacked, ofUnpacked_view h]
  apply view_ofUnpacked
  cases hx : x.view with
  | finite s m e hm =>
    rw [hx] at hheld
    exact hheld
  | _ => trivial

theorem view_cases (hn : x.isNaN = false) (hi : x.isInfinite = false) :
    (∃ s, x.view = .zero s) ∨ ∃ s m e hm, x.view = .finite s m e hm := by
  rw [isNaN_eq] at hn
  rw [isInfinite_eq] at hi
  cases hx : x.view with
  | zero s => exact .inl ⟨s, rfl⟩
  | finite s m e hm => exact .inr ⟨s, m, e, hm, rfl⟩
  | _ => simp [hx, UnpackedFloat.isNaN, UnpackedFloat.isInf] at hn hi

theorem view_larger_abs (h : x.equal y = false) (hx : x.isNaN = false) (hy : y.isNaN = false)
    (hx' : x.isInfinite = false) (hy' : y.isInfinite = false) :
    ∃ m e hm, (x.abs.larger y.abs).view = .finite .positive m e hm := by
  have habsx := view_abs hx
  have habsy := view_abs hy
  rcases view_cases hx hx' with ⟨s, hzx⟩ | ⟨s, m, e, hm, hfx⟩
  · rcases view_cases hy hy' with ⟨t, hzy⟩ | ⟨t, m, e, hm, hfy⟩
    · rw [equal_eq, hzx, hzy] at h
      cases h
    · rw [hzx] at habsx
      rw [hfy] at habsy
      have hless : x.abs.less y.abs = true := by
        rw [less_eq, habsx, habsy]
        rfl
      rw [larger, if_pos hless]
      exact ⟨m, e, hm, habsy⟩
  · rw [hfx] at habsx
    by_cases hless : x.abs.less y.abs = true
    · rw [larger, if_pos hless]
      rcases view_cases hy hy' with ⟨t, hzy⟩ | ⟨t, m', e', hm', hfy⟩
      · rw [hzy] at habsy
        rw [less_eq, habsx, habsy] at hless
        cases hless
      · rw [hfy] at habsy
        exact ⟨m', e', hm', habsy⟩
    · rw [larger, if_neg hless]
      exact ⟨m, e, hm, habsx⟩

theorem larger_abs_comm (hx : x.isNaN = false) (hy : y.isNaN = false) :
    x.abs.larger y.abs = y.abs.larger x.abs := by
  have hux := unsigned_abs hx
  have huy := unsigned_abs hy
  unfold larger
  split_ifs with hless hless' hless'
  · rw [less_iff hux.isNaN huy.isNaN] at hless
    rw [less_iff huy.isNaN hux.isNaN] at hless'
    exact absurd hless' hless.asymm
  · rfl
  · rfl
  · rw [less_iff hux.isNaN huy.isNaN, not_lt] at hless
    rw [less_iff huy.isNaN hux.isNaN, not_lt] at hless'
    exact hux.eq_of_rank huy (le_antisymm hless' hless)

end Binary32

/-! ## Pairs of elements -/

namespace Policy

variable {a b a₁ r₁ a₂ r₂ : Binary32}

theorem near_eq_true {abs rel : Binary32} : near abs rel a b = true ↔ a.equal b = true ∨
    a.isInfinite = false ∧ b.isInfinite = false ∧
      ((Binary32.distance a b).lessOrEqual abs = true ∨
        (Binary32.distance a b).lessOrEqual (a.abs.larger b.abs * rel) = true) := by
  simp only [near, Binary32.larger, Binary32.distance]
  cases a.equal b <;> cases a.isInfinite <;> cases b.isInfinite <;> simp [or_iff_not_imp_left]

/-- A larger tolerance accepts whatever a smaller one accepts. -/
theorem near_mono (ha : a₁.lessOrEqual a₂ = true) (hr₀ : Binary32.zero.lessOrEqual r₁ = true)
    (hr : r₁.lessOrEqual r₂ = true) (h : near a₁ r₁ a b = true) : near a₂ r₂ a b = true := by
  rw [near_eq_true] at h ⊢
  by_cases heq : a.equal b = true
  · exact .inl heq
  obtain ⟨hinf, hinf', hle⟩ := h.resolve_left heq
  refine .inr ⟨hinf, hinf', ?_⟩
  rcases hle with hle | hle
  · exact .inl (Binary32.lessOrEqual_trans hle ha)
  · rw [Bool.not_eq_true] at heq
    have hnan := (Binary32.isNaN_of_lessOrEqual hle).1
    rw [Binary32.isNaN_distance heq, Bool.or_eq_false_iff] at hnan
    obtain ⟨m, e, hm, hview⟩ := Binary32.view_larger_abs heq hnan.1 hnan.2 hinf hinf'
    exact .inr (Binary32.lessOrEqual_trans hle (Binary32.mul_lessOrEqual hview hr₀ hr))

/-- Whatever one policy accepts, the other accepts. -/
def Looser (p q : Policy) : Prop := ∀ a b, p.accepts a b = true → q.accepts a b = true

theorem looser_exact (abs rel : Binary32) : Looser .exact (.tolerance abs rel) :=
  fun _ _ h => near_eq_true.2 (.inl h)

theorem looser_tolerance (ha : a₁.lessOrEqual a₂ = true)
    (hr₀ : Binary32.zero.lessOrEqual r₁ = true) (hr : r₁.lessOrEqual r₂ = true) :
    Looser (.tolerance a₁ r₁) (.tolerance a₂ r₂) :=
  fun _ _ h => near_mono ha hr₀ hr h

theorem near_symm {abs rel : Binary32} (h : near abs rel a b = true) : near abs rel b a = true := by
  rw [near_eq_true] at h ⊢
  by_cases heq : a.equal b = true
  · exact .inl (Binary32.equal_symm heq)
  obtain ⟨hinf, hinf', hle⟩ := h.resolve_left heq
  have hnan : (Binary32.distance a b).isNaN = false := by
    rcases hle with hle | hle <;> exact (Binary32.isNaN_of_lessOrEqual hle).1
  rw [Binary32.isNaN_distance (Bool.eq_false_of_not_eq_true heq), Bool.or_eq_false_iff] at hnan
  rw [Binary32.distance_comm, Binary32.larger_abs_comm hnan.1 hnan.2] at hle
  exact .inr ⟨hinf', hinf, hle⟩

theorem accepts_comm (p : Policy) (a b : Binary32) : p.accepts a b = p.accepts b a := by
  cases p with
  | exact => exact Binary32.equal_comm a b
  | tolerance abs rel => exact Bool.eq_iff_iff.2 ⟨near_symm, near_symm⟩

end Policy

/-! ## The scan -/

namespace Scan

variable {p q : Policy}

theorem step_comm (p : Policy) (s : Scan) (a b : Binary32) : step p s a b = step p s b a := by
  have hdist : (a - b).abs = (b - a).abs := Binary32.distance_comm a b
  rw [step, step, Binary32.equal_comm, p.accepts_comm, hdist]

theorem run_swap (p : Policy) (s : Scan) (ps : List (Binary32 × Binary32)) :
    s.run p (ps.map Prod.swap) = s.run p ps := by
  induction ps generalizing s with
  | nil => rfl
  | cons pair ps ih =>
    obtain ⟨a, b⟩ := pair
    rw [List.map_cons, Prod.swap_prod_mk, run, run, ih, step_comm]

end Scan

/-! ## Verdicts -/

/-- What a verdict says that a looser policy gives, compared with a stricter one. -/
structure Verdict.Loosens (strict loose : Verdict) : Prop where
  passed : strict.passed = true → loose.passed = true
  diagnostic : Option.Rel
    (fun d e : Diagnostic => e.mismatchCount ≤ d.mismatchCount ∧ e.maxAbsDiff = d.maxAbsDiff)
    strict.diagnostic loose.diagnostic

namespace Policy

variable {p q : Policy} {x y : Tensor}

theorem Looser.rejected_subset (h : p.Looser q) : q.rejected x y ⊆ p.rejected x y := by
  intro k hk
  rw [rejected, Finset.mem_filter] at hk ⊢
  exact ⟨hk.1, Bool.eq_false_of_not_eq_true fun hp => ne_true_of_eq_false hk.2 (h _ _ hp)⟩

theorem scan_congr (p q : Policy) (x y : Tensor) :
    (p.scan x y).firstUnequal = (q.scan x y).firstUnequal ∧
      (p.scan x y).maxAbsDiff = (q.scan x y).maxAbsDiff := by
  simp only [scan, Scan.run_firstUnequal, Scan.run_maxAbsDiff, and_self]

theorem Looser.loosens (h : p.Looser q) (hs : x.shape = y.shape) :
    (p.judge x y).Loosens (q.judge x y) := by
  have hsubset := h.rejected_subset (x := x) (y := y)
  constructor
  · rw [judge_passed_iff hs, judge_passed_iff hs]
    intro hp
    exact Finset.subset_empty.1 (hp ▸ hsubset)
  · obtain ⟨hfirst, hmax⟩ := scan_congr p q x y
    rw [judge_eq, judge_eq, Scan.verdict, Scan.verdict, hfirst]
    cases (q.scan x y).firstUnequal with
    | none => exact .none
    | some k =>
      refine .some ⟨?_, hmax.symm⟩
      rw [scan_rejected hs, scan_rejected hs]
      exact Finset.card_le_card hsubset

theorem judge_comm (p : Policy) (h : x.shape = y.shape) : p.judge y x = p.judge x y := by
  rw [judge, judge, ← List.zip_swap, Scan.run_swap, h, Tensor.size, Tensor.size,
    Tensor.size_eq_of_shape h]

/-- Where a tolerance is made larger, a position that was accepted is still accepted, so a verdict
that passed still passes. The largest difference and whether there is anything to report stay the
same, and the two tensors may change places without any effect. -/
theorem loosening_keeps_passes {a₁ r₁ a₂ r₂ : Binary32} (h : x.shape = y.shape)
    (ha : a₁.lessOrEqual a₂ = true) (hr₀ : Binary32.zero.lessOrEqual r₁ = true)
    (hr : r₁.lessOrEqual r₂ = true) :
    ∃ strict tight loose, Policy.exact.compare x y = .ok strict ∧
      (Policy.tolerance a₁ r₁).compare x y = .ok tight ∧
      (Policy.tolerance a₂ r₂).compare x y = .ok loose ∧
      strict.Loosens tight ∧ tight.Loosens loose ∧
      ∀ p : Policy, p.compare y x = p.compare x y := by
  refine ⟨_, _, _, compare_eq_ok.2 ⟨h, rfl⟩, compare_eq_ok.2 ⟨h, rfl⟩, compare_eq_ok.2 ⟨h, rfl⟩,
    (looser_exact a₁ r₁).loosens h, (looser_tolerance ha hr₀ hr).loosens h, fun p => ?_⟩
  rw [compare, compare, if_pos h, if_pos h.symm, judge_comm p h]

theorem loosening_keeps_passes_one :
    let x : Tensor := ⟨[1, 2], #[.zero, .one], rfl⟩
    let y : Tensor := ⟨[1, 2], #[.one, .one], rfl⟩
    ∃ strict tight loose, Policy.exact.compare x y = .ok strict ∧ strict.passed = false ∧
      (Policy.tolerance .zero .zero).compare x y = .ok tight ∧
      (Policy.tolerance .one .infinity).compare y x = .ok loose ∧ loose.passed = true ∧
      strict.Loosens tight ∧ tight.Loosens loose := by
  intro x y
  obtain ⟨strict, tight, loose, hstrict, htight, hloose, h, h', hcomm⟩ :=
    loosening_keeps_passes (x := x) (y := y) rfl
      (show Binary32.zero.lessOrEqual .one = true by decide)
      (show Binary32.zero.lessOrEqual .zero = true by decide)
      (show Binary32.zero.lessOrEqual .infinity = true by decide)
  refine ⟨strict, tight, loose, hstrict, ?_, htight, (hcomm _).trans hloose, ?_, h, h'⟩
  · obtain ⟨-, rfl⟩ := compare_eq_ok.1 hstrict
    decide
  · obtain ⟨-, rfl⟩ := compare_eq_ok.1 hloose
    decide

end Policy

end PoolCheck
