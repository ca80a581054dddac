import PoolCheck.Tensor

/-!
# The size of a tensor

A shape that can be addressed has extents that are words, and so has each smaller shape.
-/

set_option autoImplicit false

namespace PoolCheck

theorem volume_filter_cons (d : Nat) (ds : Shape) :
    volume ((d :: ds).filter (· ≠ 0)) = max d 1 * volume (ds.filter (· ≠ 0)) := by
  by_cases hd : d = 0
  · rw [List.filter_cons_of_neg (by simp [hd]), hd]
    exact (Nat.one_mul _).symm
  · rw [List.filter_cons_of_pos (by simp [hd]), volume, Nat.max_eq_left (Nat.pos_of_ne_zero hd)]

theorem volume_filter_pos (s : Shape) : 0 < volume (s.filter (· ≠ 0)) := by
  induction s with
  | nil => exact Nat.one_pos
  | cons d ds ih =>
    rw [volume_filter_cons]
    exact Nat.mul_pos (by omega) ih

theorem le_volume_filter {s : Shape} {d : Nat} (h : d ∈ s) : d ≤ volume (s.filter (· ≠ 0)) := by
  induction s with
  | nil => cases h
  | cons e es ih =>
    rw [volume_filter_cons]
    rcases List.mem_cons.1 h with rfl | h
    · exact Nat.le_trans (Nat.le_max_left d 1) (Nat.le_mul_of_pos_right _ (volume_filter_pos es))
    · exact Nat.le_trans (ih h) (Nat.le_mul_of_pos_left _ (by omega))

theorem volume_le_filter (s : Shape) : volume s ≤ volume (s.filter (· ≠ 0)) := by
  induction s with
  | nil => exact Nat.le_refl _
  | cons d ds ih =>
    rw [volume_filter_cons, volume]
    exact Nat.mul_le_mul (Nat.le_max_left d 1) ih

theorem volume_filter_le_of_front {s t : Shape} (h : s <+: t) :
    volume (s.filter (· ≠ 0)) ≤ volume (t.filter (· ≠ 0)) := by
  obtain ⟨u, rfl⟩ := h
  induction s with
  | nil => exact volume_filter_pos u
  | cons d ds ih =>
    rw [List.cons_append, volume_filter_cons, volume_filter_cons]
    exact Nat.mul_le_mul_left _ ih

theorem countable_of_addressable {s : Shape} (h : addressable s = true) : countable s = true := by
  have hv := of_decide_eq_true h
  have hw : signLimit < wordLimit := by decide
  rw [countable, List.all_eq_true]
  intro n _
  have hle := Nat.le_trans (volume_le_filter (s.take (n + 1)))
    (volume_filter_le_of_front (List.take_prefix (n + 1) s))
  exact decide_eq_true (by omega)

theorem lt_of_addressable {s : Shape} (h : addressable s = true) {d : Nat} (hd : d ∈ s) :
    d < wordLimit := by
  have hv := of_decide_eq_true h
  have hle := le_volume_filter hd
  have hw : signLimit < wordLimit := by decide
  omega

end PoolCheck
