import Mathlib.Data.List.Forall2
import Mathlib.Data.Set.Function
import PoolCheck.Tensor

/-!
# Positions in a tensor

Row-major positions and multi-indices. A position below the volume has a multi-index in range, whose
row-major position it is, and each multi-index in range belongs to one position. Positions are
ordered as their multi-indices are, the outermost axis first.
-/

set_option autoImplicit false

namespace PoolCheck

variable {s : Shape} {d k : Nat}

theorem volume_append (s t : Shape) : volume (s ++ t) = volume s * volume t := by
  induction s with
  | nil => simp [volume]
  | cons d ds ih => simp [volume, ih, Nat.mul_assoc]

theorem volume_reverse (s : Shape) : volume s.reverse = volume s := by
  induction s with
  | nil => rfl
  | cons d ds ih => simp [volume_append, volume, ih, Nat.mul_comm]

theorem pos_of_lt_volume (h : k < volume s) : ∀ d ∈ s, 0 < d := by
  induction s generalizing k with
  | nil => exact fun d hd => nomatch hd
  | cons e es ih =>
    have he : 0 < volume es := Nat.pos_of_mul_pos_left (Nat.zero_lt_of_lt h)
    intro d hd
    rcases List.mem_cons.1 hd with rfl | hd
    · exact Nat.pos_of_mul_pos_right (Nat.zero_lt_of_lt h)
    · exact ih he d hd

theorem unravelInner_concat (hs : ∀ d ∈ s, 0 < d) (hd : 0 < d) (k : Nat) :
    unravelInner (s ++ [d]) k = unravelInner s k ++ [k / volume s % d] := by
  induction s generalizing k with
  | nil => simp [unravelInner, volume, Nat.pos_iff_ne_zero.1 hd]
  | cons e es ih =>
    have he : e ≠ 0 := Nat.pos_iff_ne_zero.1 (hs e List.mem_cons_self)
    simp only [List.cons_append, unravelInner, he, if_false,
      ih fun f hf => hs f (List.mem_cons_of_mem _ hf), Nat.div_div_eq_div_mul, volume]

theorem unravel_cons (hs : ∀ d ∈ s, 0 < d) (hd : 0 < d) (k : Nat) :
    unravel (d :: s) k = k / volume s % d :: unravel s k := by
  have hr : ∀ e ∈ s.reverse, 0 < e := fun e he => hs e (List.mem_reverse.1 he)
  simp [unravel, unravelInner_concat hr hd, volume_reverse]

theorem ravel_unravel_mod (hs : ∀ d ∈ s, 0 < d) (k : Nat) :
    ravel s (unravel s k) = k % volume s := by
  induction s with
  | nil => simp [ravel, volume, Nat.mod_one]
  | cons d ds ih =>
    rw [List.forall_mem_cons] at hs
    rw [unravel_cons hs.2 hs.1, ravel, ih hs.2, volume, Nat.mul_comm d, Nat.mod_mul, Nat.mul_comm,
      Nat.add_comm]

theorem inRange_unravel (hs : ∀ d ∈ s, 0 < d) (k : Nat) : inRange s (unravel s k) = true := by
  induction s with
  | nil => rfl
  | cons d ds ih =>
    rw [List.forall_mem_cons] at hs
    simp [unravel_cons hs.2 hs.1, inRange, Nat.mod_lt _ hs.1, ih hs.2]

theorem unravel_spec (h : k < volume s) :
    inRange s (unravel s k) = true ∧ ravel s (unravel s k) = k := by
  have hs := pos_of_lt_volume h
  exact ⟨inRange_unravel hs k, by rw [ravel_unravel_mod hs, Nat.mod_eq_of_lt h]⟩

/-! ## Multi-indices in range -/

variable {i j : List Nat}

theorem inRange_iff : inRange s i = true ↔ List.Forall₂ (fun d n => n < d) s i := by
  induction s generalizing i with
  | nil => cases i <;> simp [inRange]
  | cons d ds ih => cases i <;> simp [inRange, ih]

theorem length_of_inRange (h : inRange s i = true) : i.length = s.length :=
  (inRange_iff.1 h).length_eq.symm

theorem inRange_reverse (h : inRange s i = true) : inRange s.reverse i.reverse = true :=
  inRange_iff.2 (List.rel_reverse (inRange_iff.1 h))

/-- A smaller outermost index is not made up for by the inner ones. -/
theorem row_lt {v n m r : Nat} (hn : n < m) (hr : r < v) : n * v + r < m * v :=
  calc n * v + r < n * v + v := Nat.add_lt_add_left hr _
    _ = (n + 1) * v := (Nat.succ_mul n v).symm
    _ ≤ m * v := Nat.mul_le_mul_right v hn

theorem ravel_lt (h : inRange s i = true) : ravel s i < volume s := by
  replace h := inRange_iff.1 h
  induction h with
  | nil => exact Nat.one_pos
  | cons hn _ ih => exact row_lt hn ih

theorem ravel_injective (hi : inRange s i = true) (hj : inRange s j = true)
    (h : ravel s i = ravel s j) : i = j := by
  induction s generalizing i j with
  | nil =>
    rw [List.length_eq_zero_iff.1 (length_of_inRange hi),
      List.length_eq_zero_iff.1 (length_of_inRange hj)]
  | cons d ds ih =>
    cases i with
    | nil => cases hi
    | cons n ns =>
    cases j with
    | nil => cases hj
    | cons m ms =>
      simp only [inRange, Bool.and_eq_true] at hi hj
      have hn := ravel_lt hi.2
      have hm := ravel_lt hj.2
      simp only [ravel] at h
      have hpos : 0 < volume ds := Nat.zero_lt_of_lt hn
      have hhead : n = m := by
        have hq := congrArg (· / volume ds) h
        simpa [Nat.add_comm, Nat.add_mul_div_right _ _ hpos, Nat.div_eq_of_lt hn,
          Nat.div_eq_of_lt hm] using hq
      subst hhead
      rw [ih hi.2 hj.2 (Nat.add_left_cancel h)]

theorem unravel_ravel (h : inRange s i = true) : unravel s (ravel s i) = i := by
  obtain ⟨hin, hk⟩ := unravel_spec (ravel_lt h)
  exact ravel_injective hin h hk

/-! ## Order -/

theorem ravel_lt_iff (hi : inRange s i = true) (hj : inRange s j = true) :
    ravel s i < ravel s j ↔ i < j := by
  induction s generalizing i j with
  | nil =>
    rw [List.length_eq_zero_iff.1 (length_of_inRange hi),
      List.length_eq_zero_iff.1 (length_of_inRange hj)]
    exact iff_of_false (Nat.lt_irrefl _) (List.not_lt_nil _)
  | cons d ds ih =>
    cases i with
    | nil => cases hi
    | cons n ns =>
    cases j with
    | nil => cases hj
    | cons m ms =>
      simp only [inRange, Bool.and_eq_true] at hi hj
      rw [ravel, ravel, List.cons_lt_cons_iff]
      rcases Nat.lt_trichotomy n m with h | rfl | h
      · exact iff_of_true (Nat.lt_add_right _ (row_lt h (ravel_lt hi.2))) (.inl h)
      · rw [Nat.add_lt_add_iff_left, ih hi.2 hj.2]
        exact ⟨fun h => .inr ⟨rfl, h⟩, fun h => (h.resolve_left (Nat.lt_irrefl n)).2⟩
      · refine iff_of_false (Nat.lt_asymm (Nat.lt_add_right _ (row_lt h (ravel_lt hj.2)))) ?_
        rintro (hlt | ⟨he, -⟩)
        · exact Nat.lt_asymm h hlt
        · exact Nat.ne_of_gt h he

namespace Tensor

variable {x : Tensor} {data : Array Binary32}

theorem ofData_eq_ok (h : ofData data s = .ok x) : x.shape = s ∧ x.data = data := by
  unfold ofData at h
  split_ifs at h
  cases h
  exact ⟨rfl, rfl⟩

theorem index_of_inRange (h : inRange x.shape i = true) :
    ∃ v, x.data[ravel x.shape i]? = some v ∧ x.index i = .ok v := by
  have hk : ravel x.shape i < x.data.size := x.size_eq ▸ ravel_lt h
  refine ⟨x.data[ravel x.shape i], Array.getElem?_eq_getElem hk, ?_⟩
  rw [index, if_neg fun hne => hne (length_of_inRange h), if_pos h, Array.getD_eq_getD_getElem?,
    Array.getElem?_eq_getElem hk, Option.getD_some]

/-- Every position has one multi-index in range, and the tensor holds there what stands at that
position of the data it was made of. Positions and multi-indices in range are as many and in the
same order. -/
theorem unravel_row_major (h : ofData data s = .ok x) :
    (∀ k < x.size, List.Forall₂ (fun d n => n < d) s (unravel x.shape k) ∧
      (∃ v, data[k]? = some v ∧ x.index (unravel x.shape k) = .ok v) ∧
      ∀ i, List.Forall₂ (fun d n => n < d) s i → (ravel s i = k ↔ i = unravel x.shape k)) ∧
    Set.BijOn (unravel x.shape) {k | k < x.size} {i | List.Forall₂ (fun d n => n < d) s i} ∧
    ∀ j < x.size, ∀ k < x.size, (unravel x.shape j < unravel x.shape k ↔ j < k) := by
  obtain ⟨rfl, rfl⟩ := ofData_eq_ok h
  have hsize : x.size = volume x.shape := x.size_eq
  have hspec : ∀ k < x.size, inRange x.shape (unravel x.shape k) = true ∧
      ravel x.shape (unravel x.shape k) = k := fun k hk => unravel_spec (hsize ▸ hk)
  simp only [← inRange_iff]
  refine ⟨fun k hk => ?_, ⟨fun k hk => (hspec k hk).1, ?_, ?_⟩, fun j hj k hk => ?_⟩
  · obtain ⟨hin, hravel⟩ := hspec k hk
    obtain ⟨v, hv, hindex⟩ := index_of_inRange hin
    rw [hravel] at hv
    refine ⟨hin, ⟨v, hv, hindex⟩, fun i hi => ⟨?_, ?_⟩⟩
    · rintro rfl
      exact (unravel_ravel hi).symm
    · rintro rfl
      exact hravel
  · intro j hj k hk he
    rw [← (hspec j hj).2, ← (hspec k hk).2, he]
  · intro i hi
    exact ⟨ravel x.shape i, (ravel_lt hi).trans_eq hsize.symm, unravel_ravel hi⟩
  · rw [← ravel_lt_iff (hspec j hj).1 (hspec k hk).1, (hspec j hj).2, (hspec k hk).2]

theorem unravel_row_major_planes : ∃ x : Tensor,
    ofData #[.zero, .one, .zero, .one, .zero, .one] [2, 1, 3] = .ok x ∧
      x.index [1, 0, 2] = .ok .one ∧ unravel [2, 1, 3] 3 < unravel [2, 1, 3] 4 := by
  have h : ofData #[.zero, .one, .zero, .one, .zero, .one] [2, 1, 3] =
      .ok ⟨[2, 1, 3], #[.zero, .one, .zero, .one, .zero, .one], rfl⟩ := rfl
  obtain ⟨hat, -, horder⟩ := unravel_row_major h
  obtain ⟨-, ⟨v, hv, hindex⟩, -⟩ := hat 5 (by decide)
  cases hv
  exact ⟨_, h, hindex, (horder 3 (by decide) 4 (by decide)).2 (by decide)⟩

end Tensor

end PoolCheck
