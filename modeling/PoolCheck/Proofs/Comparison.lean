import PoolCheck.Fault

/-!
# What a verdict says

The scan over the pairs of elements counts the pairs that are neither equal nor accepted by the
policy. A verdict that is not a fault therefore accepts every pair.
-/

set_option autoImplicit false

namespace PoolCheck

/-! ## Pairs of elements -/

/-- Tensors of one shape whose elements stand pairwise in a relation. -/
def Tensor.Agree (related : Binary32 → Binary32 → Bool) (x y : Tensor) : Prop :=
  x.shape = y.shape ∧
    ∀ k < x.size, related (x.data.getD k .zero) (y.data.getD k .zero) = true

namespace Tensor

variable {related : Binary32 → Binary32 → Bool} {x y : Tensor}

theorem size_eq_of_shape (h : x.shape = y.shape) : x.data.size = y.data.size := by
  rw [x.size_eq, y.size_eq, h]

theorem zip_eq_map (h : x.shape = y.shape) : x.data.toList.zip y.data.toList =
    (List.range x.size).map fun k => (x.data.getD k .zero, y.data.getD k .zero) := by
  have hs := size_eq_of_shape h
  apply List.ext_getElem
  · simp [size, hs]
  · intro k hk hk'
    have hx : k < x.data.size := by simpa [size] using hk'
    have hy : k < y.data.size := hs ▸ hx
    simp [hx, hy]

theorem agree_iff_zip (h : x.shape = y.shape) : x.Agree related y ↔
    ∀ p ∈ x.data.toList.zip y.data.toList, related p.1 p.2 = true := by
  simp [zip_eq_map h, Agree, h]

theorem equal_iff : x.equal y = true ↔ x.Agree Binary32.equal y := by
  unfold equal
  rw [Bool.and_eq_true, beq_iff_eq]
  constructor
  · rintro ⟨hs, ha⟩
    rw [agree_iff_zip hs, ← Array.toList_zip]
    intro p hp
    exact Array.all_eq_true'.1 ha p (Array.mem_toList_iff.1 hp)
  · intro h
    refine ⟨h.1, ?_⟩
    rw [agree_iff_zip h.1, ← Array.toList_zip] at h
    exact Array.all_eq_true'.2 fun p hp => h p (Array.mem_toList_iff.2 hp)

end Tensor

/-! ## The scan -/

/-- A pair is tolerated when it is equal or the policy accepts it. -/
def Policy.tolerates (policy : Policy) (a b : Binary32) : Bool := a.equal b || policy.accepts a b

namespace Scan

variable {policy : Policy}

theorem step_rejected (s : Scan) (a b : Binary32) :
    (step policy s a b).rejected = s.rejected + if policy.tolerates a b then 0 else 1 := by
  unfold step Policy.tolerates
  cases a.equal b
  · cases policy.accepts a b <;> rfl
  · rfl

theorem step_firstUnequal (s : Scan) (a b : Binary32) : (step policy s a b).firstUnequal =
    if !a.equal b then s.firstUnequal.or (some s.position) else s.firstUnequal := by
  unfold step
  cases a.equal b <;> rfl

theorem step_firstRejected (s : Scan) (a b : Binary32) : (step policy s a b).firstRejected =
    if !policy.tolerates a b then s.firstRejected.or (some s.position) else s.firstRejected := by
  unfold step Policy.tolerates
  cases a.equal b
  · cases policy.accepts a b <;> rfl
  · rfl

theorem step_position (s : Scan) (a b : Binary32) :
    (step policy s a b).position = s.position + 1 := by
  unfold step
  cases a.equal b <;> rfl

theorem step_maxAbsDiff (s : Scan) (a b : Binary32) : (step policy s a b).maxAbsDiff =
    if !a.equal b then widen s.maxAbsDiff (a - b).abs else s.maxAbsDiff := by
  unfold step
  cases a.equal b <;> rfl

theorem run_rejected (s : Scan) (ps : List (Binary32 × Binary32)) : (s.run policy ps).rejected =
    s.rejected + ps.countP fun p => !policy.tolerates p.1 p.2 := by
  induction ps generalizing s with
  | nil => rfl
  | cons p ps ih =>
    obtain ⟨a, b⟩ := p
    rw [run, ih, step_rejected, List.countP_cons]
    cases policy.tolerates a b
    · simp only [Bool.not_false, if_true, Bool.false_eq_true, if_false]
      omega
    · simp

theorem run_first {first : Scan → Option Nat} {hit : Binary32 × Binary32 → Bool}
    (hstep : ∀ s a b, first (step policy s a b) =
      if hit (a, b) then (first s).or (some s.position) else first s)
    (s : Scan) (ps : List (Binary32 × Binary32)) :
    first (s.run policy ps) = (first s).or ((ps.findIdx? hit).map (s.position + ·)) := by
  induction ps generalizing s with
  | nil => simp [run]
  | cons p ps ih =>
    obtain ⟨a, b⟩ := p
    rw [run, ih, hstep, step_position, List.findIdx?_cons]
    by_cases h : hit (a, b) = true
    · cases first s <;> simp [h]
    · simp [h, Option.map_map, Function.comp_def, Nat.add_assoc, Nat.add_comm 1]

theorem run_maxAbsDiff (s : Scan) (ps : List (Binary32 × Binary32)) :
    (s.run policy ps).maxAbsDiff = ((ps.filter fun p => !p.1.equal p.2).map
      fun p => (p.1 - p.2).abs).foldl widen s.maxAbsDiff := by
  induction ps generalizing s with
  | nil => rfl
  | cons p ps ih =>
    obtain ⟨a, b⟩ := p
    rw [run, ih, step_maxAbsDiff, List.filter_cons]
    cases a.equal b <;> rfl

theorem run_firstUnequal (s : Scan) (ps : List (Binary32 × Binary32)) :
    (s.run policy ps).firstUnequal =
      s.firstUnequal.or ((ps.findIdx? fun p => !p.1.equal p.2).map (s.position + ·)) :=
  run_first step_firstUnequal s ps

theorem run_firstRejected (s : Scan) (ps : List (Binary32 × Binary32)) :
    (s.run policy ps).firstRejected =
      s.firstRejected.or ((ps.findIdx? fun p => !policy.tolerates p.1 p.2).map (s.position + ·)) :=
  run_first step_firstRejected s ps

theorem run_firstUnequal_eq_none (s : Scan) (ps : List (Binary32 × Binary32)) :
    (s.run policy ps).firstUnequal = none ↔
      s.firstUnequal = none ∧ ∀ p ∈ ps, p.1.equal p.2 = true := by
  rw [run_firstUnequal, Option.or_eq_none_iff, Option.map_eq_none_iff, List.findIdx?_eq_none_iff]
  simp

end Scan

namespace Policy

variable {policy : Policy} {x y : Tensor} {v : Verdict}

theorem judge_passed (h : x.shape = y.shape) :
    (policy.judge x y).passed = true ↔ x.Agree policy.tolerates y := by
  rw [Tensor.agree_iff_zip h]
  unfold judge Scan.verdict
  split
  case h_1 hf =>
    have he := ((Scan.run_firstUnequal_eq_none _ _).1 hf).2
    refine iff_of_true rfl fun p hp => ?_
    rw [tolerates, he p hp, Bool.true_or]
  case h_2 =>
    rw [decide_eq_true_iff, Scan.run_rejected]
    show 0 + _ = 0 ↔ _
    rw [Nat.zero_add, List.countP_eq_zero]
    simp

/-- Without a diagnostic the verdict passes, so a failing verdict always has one. -/
theorem judge_diagnostic (h : (policy.judge x y).diagnostic = none) :
    (policy.judge x y).passed = true := by
  unfold judge Scan.verdict at h ⊢
  split at h
  · rfl
  · cases h

theorem judge_of_equal (h : x.Agree Binary32.equal y) : policy.judge x y = ⟨true, none⟩ := by
  unfold judge Scan.verdict
  rw [(Scan.run_firstUnequal_eq_none _ _).2 ⟨rfl, (Tensor.agree_iff_zip h.1).1 h⟩]

theorem compare_eq_ok : policy.compare x y = .ok v ↔ x.shape = y.shape ∧ policy.judge x y = v := by
  unfold compare
  by_cases h : x.shape = y.shape <;> simp [h]

end Policy

theorem Verdict.settle_eq_ok {v w : Verdict} : v.settle = .ok w ↔
    (v.passed = true ∨ v.diagnostic = none) ∧ v = w := by
  obtain ⟨passed, diagnostic⟩ := v
  cases passed
  · cases diagnostic <;> simp [settle]
  · cases diagnostic <;> simp [settle]

theorem Policy.settle_of_compare {policy : Policy} {x y : Tensor} {v w : Verdict}
    (hc : policy.compare x y = .ok v) (hs : v.settle = .ok w) :
    x.Agree policy.tolerates y ∧ w.passed = true ∧ policy.judge x y = w := by
  obtain ⟨hshape, rfl⟩ := Policy.compare_eq_ok.1 hc
  obtain ⟨hv, rfl⟩ := Verdict.settle_eq_ok.1 hs
  have hp : (policy.judge x y).passed = true := by
    rcases hv with hp | hd
    · exact hp
    · exact judge_diagnostic hd
  exact ⟨(judge_passed hshape).1 hp, hp, rfl⟩

end PoolCheck
