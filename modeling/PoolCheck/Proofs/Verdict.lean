import Mathlib.Data.Finset.Max
import Mathlib.Data.Nat.Count
import Mathlib.Order.Bounds.Basic
import PoolCheck.Proofs.Binary32.Distance
import PoolCheck.Proofs.Comparison
import PoolCheck.Proofs.Maximum
import PoolCheck.Proofs.Tensor.Position

/-!
# Verdicts by position

Two sets of positions say all of a verdict: those at which the tensors are not equal, and those of
them that the policy does not accept. The scan goes through the positions in order, so what it has
kept at the end is the number of positions, the least one, and the largest difference over a set.
-/

set_option autoImplicit false

namespace PoolCheck

/-! ## Positions -/

namespace Tensor

def element (x : Tensor) (k : Nat) : Binary32 := x.data.getD k .zero

/-- The positions at which two tensors are not equal. -/
def unequal (x y : Tensor) : Finset Nat :=
  (Finset.range x.size).filter fun k => (x.element k).equal (y.element k) = false

variable {x y : Tensor} {k : Nat}

theorem mem_unequal :
    k ∈ x.unequal y ↔ k < x.size ∧ (x.element k).equal (y.element k) = false := by
  simp [unequal]

end Tensor

/-- The positions at which two tensors are neither equal nor close enough for the policy. -/
def Policy.rejected (policy : Policy) (x y : Tensor) : Finset Nat :=
  (x.unequal y).filter fun k => policy.accepts (x.element k) (y.element k) = false

theorem Policy.mem_rejected {policy : Policy} {x y : Tensor} {k : Nat} :
    k ∈ policy.rejected x y ↔
      k < x.size ∧ policy.tolerates (x.element k) (y.element k) = false := by
  simp [rejected, Tensor.mem_unequal, tolerates, and_assoc]

theorem findIdx?_range {hit : Nat → Bool} {n k : Nat} :
    (List.range n).findIdx? hit = some k ↔ IsLeast {i | i < n ∧ hit i = true} k := by
  rw [List.findIdx?_eq_some_iff_getElem]
  simp only [List.length_range, List.getElem_range]
  constructor
  · rintro ⟨hk, hhit, hleast⟩
    refine ⟨⟨hk, hhit⟩, fun i hi => ?_⟩
    by_contra hlt
    exact hleast i (Nat.lt_of_not_le hlt) hi.2
  · rintro ⟨⟨hk, hhit⟩, hleast⟩
    refine ⟨hk, hhit, fun i hi hiti => ?_⟩
    exact absurd (hleast ⟨hi.trans hk, hiti⟩) (Nat.not_le.2 hi)

theorem findIdx?_zip {x y : Tensor} (h : x.shape = y.shape) (hit : Binary32 × Binary32 → Bool)
    {k : Nat} : (x.data.toList.zip y.data.toList).findIdx? hit = some k ↔
      IsLeast {i | i < x.size ∧ hit (x.element i, y.element i) = true} k := by
  rw [Tensor.zip_eq_map h, List.findIdx?_map]
  exact findIdx?_range

theorem eq_none_iff_of_isLeast {S : Finset Nat} {o : Option Nat}
    (h : ∀ k, o = some k ↔ IsLeast (S : Set Nat) k) : o = none ↔ S = ∅ := by
  constructor
  · intro ho
    by_contra hne
    have hmin := Finset.isLeast_min' S (Finset.nonempty_iff_ne_empty.2 hne)
    rw [(h _).2 hmin] at ho
    cases ho
  · intro hS
    cases o with
    | none => rfl
    | some k => exact absurd hS (Finset.ne_empty_of_mem ((h k).1 rfl).1)

/-! ## The largest difference -/

namespace Scan

variable {gs : List Binary32}

theorem isNaN_widen (m g : Binary32) : (widen m g).isNaN = (m.isNaN || g.isNaN) := by
  unfold widen Binary32.larger
  cases hm : m.isNaN <;> cases hg : g.isNaN
  · cases m.less g <;> simp [hm, hg]
  all_goals
    simp
    rfl

theorem isNaN_foldl_widen (m : Binary32) (gs : List Binary32) :
    (gs.foldl widen m).isNaN = (m.isNaN || gs.any Binary32.isNaN) := by
  induction gs generalizing m with
  | nil => simp
  | cons g gs ih => simp [ih, isNaN_widen, Bool.or_assoc]

/-- Without a NaN, the larger difference is taken as a maximum takes the larger element. -/
theorem widen_eq_maxStep {m g : Binary32} (hm : m.isNaN = false) (hg : g.isNaN = false) :
    widen m g = maxStep m g := by
  simp [widen, maxStep, Binary32.larger, hm, hg]

theorem foldl_widen_eq {m : Binary32} (hm : m.isNaN = false) (h : ∀ g ∈ gs, g.isNaN = false) :
    gs.foldl widen m = gs.foldl maxStep m := by
  induction gs generalizing m with
  | nil => simp
  | cons g gs ih =>
    rw [List.forall_mem_cons] at h
    rw [List.foldl_cons, List.foldl_cons, widen_eq_maxStep hm h.1]
    apply ih _ h.2
    rw [isNaN_maxStep, hm, h.1]
    rfl

theorem foldl_widen_zero (hne : gs ≠ []) (h : ∀ g ∈ gs, g.Unsigned) :
    gs.foldl widen .zero = maximum gs := by
  rw [foldl_widen_eq rfl fun g hg => (h g hg).isNaN, maximum]
  cases gs with
  | nil => exact absurd rfl hne
  | cons g gs =>
    have hg := h g List.mem_cons_self
    have hzero : maxStep .zero g = g := by
      unfold maxStep
      rw [hg.isNaN, Bool.or_false]
      split_ifs with hless
      · rfl
      · rw [Binary32.less_iff rfl hg.isNaN, not_lt] at hless
        exact Binary32.Unsigned.eq_of_rank .zero hg (le_antisymm hg.zero_le hless)
    rw [List.foldl_cons, List.foldl_cons, hzero, maxStep_negInfinity]

end Scan

/-! ## What was scanned -/

namespace Policy

variable {policy : Policy} {x y : Tensor} {k : Nat}

def scan (policy : Policy) (x y : Tensor) : Scan :=
  Scan.start.run policy (x.data.toList.zip y.data.toList)

theorem judge_eq (policy : Policy) (x y : Tensor) :
    policy.judge x y = (policy.scan x y).verdict x.shape x.size := rfl

theorem scan_firstUnequal (policy : Policy) (h : x.shape = y.shape) :
    (policy.scan x y).firstUnequal = some k ↔ IsLeast (x.unequal y : Set Nat) k := by
  have hset : (x.unequal y : Set Nat) =
      {i | i < x.size ∧ (!(x.element i).equal (y.element i)) = true} := by
    ext i
    simp [Tensor.mem_unequal]
  rw [hset, ← findIdx?_zip h fun p => !p.1.equal p.2, scan, Scan.run_firstUnequal]
  simp [Scan.start]

theorem scan_firstRejected (h : x.shape = y.shape) :
    (policy.scan x y).firstRejected = some k ↔ IsLeast (policy.rejected x y : Set Nat) k := by
  have hset : (policy.rejected x y : Set Nat) =
      {i | i < x.size ∧ (!policy.tolerates (x.element i) (y.element i)) = true} := by
    ext i
    simp [mem_rejected]
  rw [hset, ← findIdx?_zip h fun p => !policy.tolerates p.1 p.2, scan, Scan.run_firstRejected]
  simp [Scan.start]

theorem scan_rejected (h : x.shape = y.shape) :
    (policy.scan x y).rejected = (policy.rejected x y).card := by
  have hset : policy.rejected x y =
      {k ∈ Finset.range x.size | (!policy.tolerates (x.element k) (y.element k)) = true} := by
    ext k
    simp [mem_rejected]
  rw [hset, ← Nat.count_eq_card_filter_range, Nat.count, scan, Scan.run_rejected,
    Tensor.zip_eq_map h, List.countP_map]
  simp [Scan.start, Function.comp_def, Tensor.element]

theorem scan_maxAbsDiff (policy : Policy) (h : x.shape = y.shape) : ∃ gs : List Binary32,
    (policy.scan x y).maxAbsDiff = gs.foldl Scan.widen .zero ∧
      ∀ g, g ∈ gs ↔ ∃ k ∈ x.unequal y, Binary32.distance (x.element k) (y.element k) = g := by
  refine ⟨_, Scan.run_maxAbsDiff _ _, fun g => ?_⟩
  rw [Tensor.zip_eq_map h]
  simp [Tensor.mem_unequal, Tensor.element, Binary32.distance, and_assoc]

theorem scan_first (h : x.shape = y.shape) (hk : (policy.scan x y).firstUnequal = some k) :
    ∃ i, (policy.scan x y).firstRejected.getD k = i ∧ i < x.size ∧
      (IsLeast (policy.rejected x y : Set Nat) i ∨
        policy.rejected x y = ∅ ∧ IsLeast (x.unequal y : Set Nat) i) := by
  have hleast := (scan_firstUnequal policy h).1 hk
  cases hr : (policy.scan x y).firstRejected with
  | some i =>
    have hi := (scan_firstRejected h).1 hr
    exact ⟨i, rfl, (mem_rejected.1 hi.1).1, .inl hi⟩
  | none =>
    have hnone := (eq_none_iff_of_isLeast fun _ => scan_firstRejected h).1 hr
    exact ⟨k, rfl, (Tensor.mem_unequal.1 hleast.1).1, .inr ⟨hnone, hleast⟩⟩

theorem scan_isNaN_iff (h : x.shape = y.shape) : (policy.scan x y).maxAbsDiff.isNaN = true ↔
    ∃ k ∈ x.unequal y, (x.element k).isNaN = true ∨ (y.element k).isNaN = true := by
  obtain ⟨gs, hmax, hgs⟩ := scan_maxAbsDiff policy h
  rw [hmax, Scan.isNaN_foldl_widen, show Binary32.zero.isNaN = false from rfl, Bool.false_or,
    List.any_eq_true]
  constructor
  · rintro ⟨g, hg, hn⟩
    obtain ⟨k, hk, rfl⟩ := (hgs g).1 hg
    rw [Binary32.isNaN_distance (Tensor.mem_unequal.1 hk).2, Bool.or_eq_true] at hn
    exact ⟨k, hk, hn⟩
  · rintro ⟨k, hk, hn⟩
    refine ⟨_, (hgs _).2 ⟨k, hk, rfl⟩, ?_⟩
    rw [Binary32.isNaN_distance (Tensor.mem_unequal.1 hk).2, Bool.or_eq_true]
    exact hn

/-- As long as it is not a NaN, what the scan has kept is the largest of the differences. -/
theorem scan_greatest (h : x.shape = y.shape) (hne : (x.unequal y).Nonempty)
    (hn : (policy.scan x y).maxAbsDiff.isNaN = false) :
    (∃ k ∈ x.unequal y,
      Binary32.distance (x.element k) (y.element k) = (policy.scan x y).maxAbsDiff) ∧
    ∀ k ∈ x.unequal y, (Binary32.distance (x.element k) (y.element k)).lessOrEqual
      (policy.scan x y).maxAbsDiff = true := by
  have hnone := mt (scan_isNaN_iff h).2 (ne_true_of_eq_false hn)
  obtain ⟨gs, hmax, hgs⟩ := scan_maxAbsDiff policy h
  have hall : ∀ g ∈ gs, g.Unsigned := by
    intro g hg
    obtain ⟨k, hk, rfl⟩ := (hgs g).1 hg
    apply Binary32.unsigned_distance (Tensor.mem_unequal.1 hk).2
    · exact Bool.eq_false_of_not_eq_true fun hx => hnone ⟨k, hk, .inl hx⟩
    · exact Bool.eq_false_of_not_eq_true fun hy => hnone ⟨k, hk, .inr hy⟩
  obtain ⟨k, hk⟩ := hne
  have hgs_ne : gs ≠ [] := List.ne_nil_of_mem ((hgs _).2 ⟨k, hk, rfl⟩)
  have hmaximum := isMaximum_maximum hgs_ne
  rw [hmax, Scan.foldl_widen_zero hgs_ne hall]
  constructor
  · exact (hgs _).1 (hmaximum.mem fun g hg => (hall g hg).isNaN)
  · intro j hj
    exact hmaximum.ge (fun g hg => (hall g hg).isNaN) _ ((hgs _).2 ⟨j, hj, rfl⟩)

/-! ## What is reported -/

/-- What a diagnostic says of two tensors that are not equal at each position. -/
structure Reports (policy : Policy) (x y : Tensor) (d : Diagnostic) : Prop where
  mismatchCount : d.mismatchCount = (policy.rejected x y).card
  elementCount : d.elementCount = x.size
  firstMismatch : ∃ k, (IsLeast (policy.rejected x y : Set Nat) k ∨
      policy.rejected x y = ∅ ∧ IsLeast (x.unequal y : Set Nat) k) ∧
    inRange x.shape d.firstMismatch = true ∧ ravel x.shape d.firstMismatch = k
  isNaN_iff : d.maxAbsDiff.isNaN = true ↔
    ∃ k ∈ x.unequal y, (x.element k).isNaN = true ∨ (y.element k).isNaN = true
  attained : d.maxAbsDiff.isNaN = false →
    ∃ k ∈ x.unequal y, Binary32.distance (x.element k) (y.element k) = d.maxAbsDiff
  greatest : d.maxAbsDiff.isNaN = false → ∀ k ∈ x.unequal y,
    (Binary32.distance (x.element k) (y.element k)).lessOrEqual d.maxAbsDiff = true

/-- What a verdict says, and what becomes of it. -/
structure Judges (policy : Policy) (x y : Tensor) (v : Verdict) : Prop where
  passed : v.passed = true ↔ policy.rejected x y = ∅
  diagnostic : v.diagnostic = none ↔ x.unequal y = ∅
  reports : ∀ d, v.diagnostic = some d → policy.Reports x y d
  equal : policy = .exact → policy.rejected x y = x.unequal y ∧
    (v.passed = true ↔ x.equal y = true)
  settle : v.passed = true → v.settle = .ok v
  settle_fails : v.passed = false →
    ∃ d, v.diagnostic = some d ∧ v.settle = .error (.valueMismatch d)

theorem scan_reports (h : x.shape = y.shape) (hk : (policy.scan x y).firstUnequal = some k) :
    policy.Reports x y ⟨(policy.scan x y).maxAbsDiff,
      unravel x.shape ((policy.scan x y).firstRejected.getD k), (policy.scan x y).rejected,
      x.size⟩ := by
  have hne : (x.unequal y).Nonempty := ⟨k, ((scan_firstUnequal policy h).1 hk).1⟩
  obtain ⟨_, rfl, hi, hleast⟩ := scan_first h hk
  rw [Tensor.size, x.size_eq] at hi
  constructor
  · exact scan_rejected h
  · rfl
  · exact ⟨_, hleast, unravel_spec hi⟩
  · exact scan_isNaN_iff h
  · exact fun hn => (scan_greatest h hne hn).1
  · exact fun hn => (scan_greatest h hne hn).2

theorem rejected_exact (x y : Tensor) : Policy.exact.rejected x y = x.unequal y := by
  ext k
  simp [mem_rejected, Tensor.mem_unequal, tolerates, accepts]

theorem judge_diagnostic_eq_none (h : x.shape = y.shape) :
    (policy.judge x y).diagnostic = none ↔ x.unequal y = ∅ := by
  rw [← eq_none_iff_of_isLeast fun _ => scan_firstUnequal policy h, judge_eq, Scan.verdict]
  cases (policy.scan x y).firstUnequal <;> simp

theorem judge_passed_iff (h : x.shape = y.shape) :
    (policy.judge x y).passed = true ↔ policy.rejected x y = ∅ := by
  rw [judge_passed h, Finset.eq_empty_iff_forall_notMem]
  constructor
  · intro hagree k hk
    obtain ⟨hlt, hnot⟩ := mem_rejected.1 hk
    exact ne_true_of_eq_false hnot (hagree.2 k hlt)
  · intro hnone
    refine ⟨h, fun k hk => ?_⟩
    by_contra hnot
    exact hnone k (mem_rejected.2 ⟨hk, Bool.eq_false_of_not_eq_true hnot⟩)

theorem judges (h : x.shape = y.shape) : policy.Judges x y (policy.judge x y) := by
  constructor
  · exact judge_passed_iff h
  · exact judge_diagnostic_eq_none h
  · intro d hd
    rw [judge_eq, Scan.verdict] at hd
    split at hd
    case h_1 => cases hd
    case h_2 k hk =>
      cases hd
      exact scan_reports h hk
  · rintro rfl
    refine ⟨rejected_exact x y, ?_⟩
    rw [judge_passed h, Tensor.equal_iff]
    simp [Tensor.Agree, tolerates, accepts]
  · intro hp
    exact Verdict.settle_eq_ok.2 ⟨.inl hp, rfl⟩
  · intro hp
    cases hd : (policy.judge x y).diagnostic with
    | none =>
      rw [judge_diagnostic hd] at hp
      cases hp
    | some d => exact ⟨d, rfl, by simp [Verdict.settle, hp, hd]⟩

/-- The verdict on two tensors of one shape says exactly which positions differ and which of them
the policy does not accept. On two tensors of different shapes there is none. -/
theorem compare_exact (policy : Policy) (x y : Tensor) :
    (x.shape = y.shape → ∃ v, policy.compare x y = .ok v ∧ policy.Judges x y v) ∧
    (x.shape ≠ y.shape →
      policy.compare x y = .error (.shapeMismatch x.shape y.shape .verdict)) := by
  constructor
  · intro h
    exact ⟨_, compare_eq_ok.2 ⟨h, rfl⟩, judges h⟩
  · intro h
    rw [compare, if_neg h]

theorem compare_exact_nan :
    let x : Tensor := ⟨[1, 3], #[.one, .nan, .one], rfl⟩
    let y : Tensor := ⟨[1, 3], #[.one, .one, .zero], rfl⟩
    ∃ v d, Policy.exact.compare x y = .ok v ∧ v.diagnostic = some d ∧ v.passed = false ∧
      d.mismatchCount = 2 ∧ d.maxAbsDiff.isNaN = true ∧ ravel [1, 3] d.firstMismatch = 1 := by
  intro x y
  obtain ⟨v, hv, h⟩ := (compare_exact .exact x y).1 rfl
  have hunequal : x.unequal y = {1, 2} := by decide
  have hrejected : Policy.exact.rejected x y = {1, 2} := by rw [(h.equal rfl).1, hunequal]
  have hp : v.passed = false := by
    rw [← Bool.not_eq_true, h.passed, hrejected]
    decide
  obtain ⟨d, hd, -⟩ := h.settle_fails hp
  have hr := h.reports d hd
  refine ⟨v, d, hv, hd, hp, ?_, ?_, ?_⟩
  · rw [hr.mismatchCount, hrejected]
    rfl
  · exact hr.isNaN_iff.2 ⟨1, by rw [hunequal]; decide, .inl (by decide)⟩
  · obtain ⟨k, hk | hk, -, hravel⟩ := hr.firstMismatch
    · rw [hrejected] at hk
      exact hravel.trans (hk.unique (by simp [IsLeast, lowerBounds]))
    · rw [hrejected] at hk
      exact absurd hk.1 (by decide)

end Policy

end PoolCheck
