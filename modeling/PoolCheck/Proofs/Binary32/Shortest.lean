import PoolCheck.Proofs.Binary32.Double
import PoolCheck.Proofs.Literal

/-!
# Shortest decimals of whole numbers

The shortest decimal of a count is near the count, so it is rounded to it. It is a whole number as
well: a grid of whole numbers has the count itself on it, and where the search does not come that
far, it ends on a coarser grid. That grid is also the first one that is fine enough, so the
significand is never longer than double precision.
-/

set_option autoImplicit false

namespace PoolCheck

open Float.Model (Format UnpackedFloat)
open Float.Model.UnpackedFloat Unpacked

/-! ## Digits -/

theorem digitCount_pos (n : Nat) : 0 < digitCount n := Nat.length_toDigits_pos

theorem digitCount_le_iff {n k : Nat} (hk : 0 < k) : digitCount n ≤ k ↔ n < 10 ^ k :=
  Nat.length_toDigits_le_iff (by decide) hk

theorem lt_pow_digitCount (n : Nat) : n < 10 ^ digitCount n :=
  (digitCount_le_iff (digitCount_pos n)).1 (Nat.le_refl _)

theorem pow_le_of_digitCount {n : Nat} (hn : 0 < n) : 10 ^ (digitCount n - 1) ≤ n := by
  rcases Nat.eq_zero_or_pos (digitCount n - 1) with hz | hpos
  · rw [hz]
    exact hn
  · refine Nat.le_of_not_lt fun hlt => ?_
    have := (digitCount_le_iff hpos).2 hlt
    omega

theorem digitCount_mul_pow {n : Nat} (hn : 0 < n) (k : Nat) :
    digitCount (n * 10 ^ k) = digitCount n + k := by
  induction k with
  | zero => rw [Nat.pow_zero, Nat.mul_one, Nat.add_zero]
  | succ k ih =>
    have hpos := Nat.mul_pos hn (Nat.pow_pos (n := k) (show 0 < 10 by decide))
    rw [Nat.pow_succ, ← Nat.mul_assoc, digitCount, Nat.toDigits_of_base_le (by decide) (by omega),
      Nat.mul_div_cancel _ (by decide), List.length_append]
    exact congrArg (· + 1) ih

theorem Decimal.trim_spec (fuel c p : Nat) :
    ∃ c' q : Nat, Decimal.trim fuel ⟨c, p⟩ = ⟨c', (p + q : Nat)⟩ ∧ c = c' * 10 ^ q := by
  induction fuel generalizing c p with
  | zero => exact ⟨c, 0, rfl, by simp⟩
  | succ fuel ih =>
    rw [trim]
    split_ifs with h
    · obtain ⟨c', q, htrim, hc⟩ := ih (c / 10) (p + 1)
      refine ⟨c', q + 1, ?_, ?_⟩
      · rw [Nat.add_comm q 1, ← Nat.add_assoc, ← htrim]
        rfl
      · simp only at h
        rw [Nat.pow_succ, ← Nat.mul_assoc, ← hc]
        omega
    · exact ⟨c, 0, rfl, by simp⟩

theorem findSome?_range {α : Type} {f : Nat → Option α} {i n : Nat} {b : α} (hi : i < n)
    (hb : f i = some b) (hnone : ∀ j < i, f j = none) : (List.range n).findSome? f = some b := by
  induction n with
  | zero => cases hi
  | succ n ih =>
    rw [List.range_succ, List.findSome?_append]
    rcases Nat.lt_succ_iff_lt_or_eq.1 hi with h | rfl
    · rw [ih h]
      rfl
    · have hbefore : (List.range i).findSome? f = none :=
        List.findSome?_eq_none_iff.2 fun j hj => hnone j (List.mem_range.1 hj)
      rw [hbefore]
      simp [hb]

namespace Binary32.Magnitude

variable {v : Magnitude} {tie : Tie} {p c x : Nat}

/-- The numbers that are rounded to a value, counted like the bounds of the search on a grid. -/
structure Near (v : Magnitude) (x : Nat) : Prop where
  low : 4 * v.mantissa * 2 ^ (v.exponent - 2).toNat ≤
    x + (if v.narrow then 1 else 2) * 2 ^ (v.exponent - 2).toNat
  high : x ≤ (4 * v.mantissa + 2) * 2 ^ (v.exponent - 2).toNat
  odd : v.mantissa % 2 = 1 → 4 * v.mantissa * 2 ^ (v.exponent - 2).toNat <
      x + 2 * 2 ^ (v.exponent - 2).toNat ∧ x < (4 * v.mantissa + 2) * 2 ^ (v.exponent - 2).toNat

def unit (v : Magnitude) (p : Nat) : Nat := 10 ^ p * 2 ^ (2 - v.exponent).toNat

def inside (v : Magnitude) (x : Nat) : Bool :=
  if v.mantissa % 2 = 0 then
    (4 * v.mantissa - if v.narrow then 1 else 2) * 2 ^ (v.exponent - 2).toNat ≤ x &&
      x ≤ (4 * v.mantissa + 2) * 2 ^ (v.exponent - 2).toNat
  else (4 * v.mantissa - if v.narrow then 1 else 2) * 2 ^ (v.exponent - 2).toNat < x &&
    x < (4 * v.mantissa + 2) * 2 ^ (v.exponent - 2).toNat

theorem near_of_inside (h : v.inside x = true) : v.Near x := by
  unfold inside at h
  have hk : (if v.narrow then 1 else 2) * 2 ^ (v.exponent - 2).toNat ≤
      2 * 2 ^ (v.exponent - 2).toNat := Nat.mul_le_mul_right _ (by split_ifs <;> decide)
  rw [Nat.sub_mul] at h
  by_cases heven : v.mantissa % 2 = 0
  · rw [if_pos heven, Bool.and_eq_true, decide_eq_true_eq, decide_eq_true_eq] at h
    exact ⟨by omega, h.2, by omega⟩
  · rw [if_neg heven, Bool.and_eq_true, decide_eq_true_eq, decide_eq_true_eq] at h
    exact ⟨by omega, by omega, fun _ => ⟨by omega, h.2⟩⟩

/-- A number that fails the test is a quarter of a step below the value, half a step above it, or
farther away. -/
theorem far_of_inside (hm : 0 < v.mantissa) (h : v.inside x = false) :
    x + 2 ^ (v.exponent - 2).toNat ≤ 4 * v.mantissa * 2 ^ (v.exponent - 2).toNat ∨
      4 * v.mantissa * 2 ^ (v.exponent - 2).toNat + 2 * 2 ^ (v.exponent - 2).toNat ≤ x := by
  unfold inside at h
  have hw := Nat.two_pow_pos (v.exponent - 2).toNat
  have hk : 2 ^ (v.exponent - 2).toNat ≤
      (if v.narrow then 1 else 2) * 2 ^ (v.exponent - 2).toNat :=
    Nat.le_mul_of_pos_left _ (by split_ifs <;> decide)
  have hk' : (if v.narrow then 1 else 2) * 2 ^ (v.exponent - 2).toNat ≤
      4 * v.mantissa * 2 ^ (v.exponent - 2).toNat :=
    Nat.mul_le_mul_right _ (by split_ifs <;> omega)
  rw [Nat.sub_mul, Nat.add_mul] at h
  by_cases heven : v.mantissa % 2 = 0
  · rw [if_pos heven, Bool.and_eq_false_iff, decide_eq_false_iff_not, decide_eq_false_iff_not] at h
    omega
  · rw [if_neg heven, Bool.and_eq_false_iff, decide_eq_false_iff_not, decide_eq_false_iff_not] at h
    omega

theorem inside_of_hit? (h : v.hit? tie p = some c) : v.inside (c * v.unit p) = true := by
  simp only [hit?, Nat.pow_eq, Int.toNat_natCast, Int.toNat_neg_natCast, Nat.pow_zero,
    Nat.mul_one] at h
  rw [inside, unit]
  split at h
  case h_1 h1 h2 =>
    rw [Option.some.injEq] at h
    split_ifs at h
    · subst h
      exact h1
    · subst h
      exact h2
  case h_2 h1 h2 =>
    cases h
    exact h1
  case h_3 h1 h2 =>
    cases h
    exact h2
  case h_4 h1 h2 => cases h

/-- Where a grid has no hit, neither of the points next to the value is near enough. -/
theorem not_inside_of_hit? (h : v.hit? tie p = none) :
    v.inside (4 * v.mantissa * 2 ^ (v.exponent - 2).toNat / v.unit p * v.unit p) = false ∧
      v.inside ((4 * v.mantissa * 2 ^ (v.exponent - 2).toNat / v.unit p + 1) * v.unit p) =
        false := by
  simp only [hit?, Nat.pow_eq, Int.toNat_natCast, Int.toNat_neg_natCast, Nat.pow_zero,
    Nat.mul_one] at h
  rw [inside, inside, unit]
  split at h
  case h_1 h1 h2 => cases h
  case h_2 h1 h2 => cases h
  case h_3 h1 h2 => cases h
  case h_4 h1 h2 => exact ⟨h1, h2⟩

/-- A grid without a hit does not have the value on it and is not much finer than the values are. -/
theorem coarse_of_hit? (hm : 0 < v.mantissa) (h : v.hit? tie p = none) :
    ¬v.unit p ∣ 4 * v.mantissa * 2 ^ (v.exponent - 2).toNat ∧
      3 * 2 ^ (v.exponent - 2).toNat ≤ v.unit p := by
  obtain ⟨hdown, hup⟩ := not_inside_of_hit? h
  have hu : 0 < v.unit p := by unfold unit; positivity
  have hw := Nat.two_pow_pos (v.exponent - 2).toNat
  have hsplit := Nat.div_add_mod (4 * v.mantissa * 2 ^ (v.exponent - 2).toNat) (v.unit p)
  have hrest := Nat.mod_lt (4 * v.mantissa * 2 ^ (v.exponent - 2).toNat) hu
  replace hdown := far_of_inside hm hdown
  replace hup := far_of_inside hm hup
  rw [Nat.add_mul, Nat.one_mul] at hup
  rw [Nat.mul_comm] at hsplit
  rw [Nat.dvd_iff_mod_eq_zero]
  omega

/-! ## Whole numbers -/

structure Whole (v : Magnitude) (n : Nat) : Prop where
  mantissa_le : 2 ^ 23 ≤ v.mantissa
  mantissa_lt : v.mantissa < 2 ^ 24
  narrow : v.narrow = decide (v.mantissa = 2 ^ 23)
  exponent_le : v.exponent ≤ 41
  le_exponent : -23 ≤ v.exponent
  value : v.mantissa * 2 ^ v.exponent.toNat = n * 2 ^ (-v.exponent).toNat

namespace Whole

variable {n d : Nat} {s : Sign}

theorem quarters (h : v.Whole n) :
    4 * v.mantissa * 2 ^ (v.exponent - 2).toNat = n * 2 ^ (2 - v.exponent).toNat := by
  apply Nat.eq_of_mul_eq_mul_right (Nat.two_pow_pos (-v.exponent).toNat)
  calc 4 * v.mantissa * 2 ^ (v.exponent - 2).toNat * 2 ^ (-v.exponent).toNat
      = v.mantissa * 2 ^ ((v.exponent - 2).toNat + (-v.exponent).toNat + 2) := by ring
    _ = v.mantissa * 2 ^ (v.exponent.toNat + (2 - v.exponent).toNat) := by
      congr 2
      omega
    _ = v.mantissa * 2 ^ v.exponent.toNat * 2 ^ (2 - v.exponent).toNat := by ring
    _ = n * 2 ^ (2 - v.exponent).toNat * 2 ^ (-v.exponent).toNat := by
      rw [h.value]
      ring

theorem pos (h : v.Whole n) : 0 < n := by
  refine Nat.pos_of_ne_zero ?_
  rintro rfl
  have hv := h.value
  have hm := h.mantissa_le
  have hp := Nat.two_pow_pos v.exponent.toNat
  rw [Nat.zero_mul, Nat.mul_eq_zero] at hv
  omega

theorem leadingExponent_eq (h : v.Whole n) :
    v.leadingExponent = (digitCount n - 1 : Nat) := by
  have hpos := digitCount_pos n
  have hraised : v.mantissa * 10 ^ 46 * 2 ^ v.exponent.toNat / 2 ^ (-v.exponent).toNat =
      n * 10 ^ 46 := by
    rw [Nat.mul_right_comm, h.value, Nat.mul_right_comm, Nat.mul_div_cancel _ (Nat.two_pow_pos _)]
  simp only [leadingExponent, Nat.pow_eq]
  rw [hraised, digitCount_mul_pow h.pos]
  omega

theorem pos_of_near (h : v.Whole n) (hd : v.Near (d * 2 ^ (2 - v.exponent).toNat)) : 0 < d := by
  refine Nat.pos_of_ne_zero ?_
  rintro rfl
  have hlow := hd.low
  have hm := h.mantissa_le
  rw [Nat.zero_mul, Nat.zero_add] at hlow
  have := Nat.le_of_mul_le_mul_right hlow (Nat.two_pow_pos _)
  split_ifs at this <;> omega

theorem round_of_near (h : v.Whole n) (hd : v.Near (d * 2 ^ (2 - v.exponent).toNat)) :
    UnpackedFloat.round .binary32 s d 0 = .finite s v.mantissa v.exponent
      (Nat.lt_of_lt_of_le (by decide) h.mantissa_le) := by
  have hmin : Format.binary32.minExponent = -149 := rfl
  have hm := h.mantissa_le
  have he := h.le_exponent
  have hexp : (0 : Int) - (2 - v.exponent).toNat + ((v.exponent - 2).toNat + 2 : Nat) =
      v.exponent := by omega
  have hlow := hd.low
  have hnarrow : (if v.narrow then 1 else 2) = if v.mantissa = 2 ^ 23 then 1 else 2 := by
    rw [h.narrow]
    simp only [decide_eq_true_eq]
  rw [hnarrow] at hlow
  have hround := @Unpacked.round_of_near .binary32 s v.mantissa (0 - (2 - v.exponent).toNat)
    (d * 2 ^ (2 - v.exponent).toNat) (v.exponent - 2).toNat
  rw [hexp, round_shift _ _ _ (h.pos_of_near hd)] at hround
  exact hround ⟨by omega, h.mantissa_lt, .inl hm⟩ (by omega) (by omega) hlow hd.high hd.odd

theorem fits_of_near (h : v.Whole n) (hd : v.Near (c * v.unit p)) (hp : v.exponent ≤ p + 29) :
    0 < c ∧ c * 5 ^ p < 2 ^ 53 ∧ p ≤ 22 := by
  have hm := h.mantissa_lt
  have he := h.exponent_le
  have hhigh := hd.high
  rw [unit, ← Nat.mul_assoc] at hd hhigh
  have hpos := h.pos_of_near hd
  have hlt : c * 10 ^ p * 2 ^ (2 - v.exponent).toNat < 2 ^ 26 * 2 ^ (v.exponent - 2).toNat :=
    Nat.lt_of_le_of_lt hhigh (Nat.mul_lt_mul_of_pos_right (by omega) (Nat.two_pow_pos _))
  have hc : 0 < c := Nat.pos_of_mul_pos_right hpos
  refine ⟨hc, ?_, ?_⟩
  · refine Nat.lt_of_mul_lt_mul_right (a := 2 ^ (p + (2 - v.exponent).toNat)) ?_
    calc c * 5 ^ p * 2 ^ (p + (2 - v.exponent).toNat)
        = c * 10 ^ p * 2 ^ (2 - v.exponent).toNat := by
          rw [Nat.pow_add, show (10 : Nat) = 5 * 2 from rfl, Nat.mul_pow]
          ring
      _ < 2 ^ 26 * 2 ^ (v.exponent - 2).toNat := hlt
      _ ≤ 2 ^ 53 * 2 ^ (p + (2 - v.exponent).toNat) := by
          rw [← Nat.pow_add, ← Nat.pow_add]
          exact Nat.pow_le_pow_right (by decide) (by omega)
  · by_contra hlarge
    have h10 : 10 ^ 23 ≤ 10 ^ p := Nat.pow_le_pow_right (by decide) (by omega)
    have hcp : 10 ^ p ≤ c * 10 ^ p := Nat.le_mul_of_pos_left _ hc
    have hmul := Nat.le_mul_of_pos_right (c * 10 ^ p) (Nat.two_pow_pos (2 - v.exponent).toNat)
    have h2 : 2 ^ (v.exponent - 2).toNat ≤ 2 ^ 39 := Nat.pow_le_pow_right (by decide) (by omega)
    omega

theorem exists_hit (h : v.Whole n) (tie : Tie) : ∃ k < 10, k ≤ digitCount n - 1 ∧
    (∃ c, v.hit? tie (digitCount n - 1 - k : Nat) = some c) ∧
    ∀ j < k, v.hit? tie (digitCount n - 1 - j : Nat) = none := by
  have hm : 0 < v.mantissa := Nat.lt_of_lt_of_le (by decide) h.mantissa_le
  have hw := Nat.two_pow_pos (v.exponent - 2).toNat
  have hfirst : v.hit? tie (digitCount n - 1 - min 9 (digitCount n - 1) : Nat) ≠ none := by
    intro hnone
    obtain ⟨hdvd, hgrid⟩ := coarse_of_hit? hm hnone
    rw [h.quarters, unit] at hdvd
    by_cases ht : digitCount n - 1 ≤ 9
    · apply hdvd
      rw [Nat.min_eq_right ht, Nat.sub_self, Nat.pow_zero, Nat.one_mul]
      exact Nat.dvd_mul_left _ _
    · rw [Nat.min_eq_left (Nat.le_of_not_le ht), unit] at hgrid
      have hpow : 10 ^ (digitCount n - 1) = 10 ^ (digitCount n - 1 - 9) * 10 ^ 9 := by
        rw [← Nat.pow_add]
        congr 1
        omega
      have hn := Nat.mul_le_mul_right (2 ^ (2 - v.exponent).toNat) (pow_le_of_digitCount h.pos)
      rw [← h.quarters, hpow] at hn
      have hlt := h.mantissa_lt
      nlinarith
  have hsome : ∃ k, v.hit? tie (digitCount n - 1 - k : Nat) ≠ none := ⟨_, hfirst⟩
  classical
  have hle := Nat.find_min' hsome hfirst
  refine ⟨Nat.find hsome, by omega, by omega,
    Option.ne_none_iff_exists'.1 (Nat.find_spec hsome), ?_⟩
  intro j hj
  exact not_not.1 (Nat.find_min hsome hj)

theorem le_grid (h : v.Whole n) {k : Nat} (hk : k ≤ digitCount n - 1)
    (hnone : ∀ j < k, v.hit? tie (digitCount n - 1 - j : Nat) = none) :
    3 * 2 ^ (v.exponent - 2).toNat ≤ v.unit (digitCount n - k) := by
  have hm : 0 < v.mantissa := Nat.lt_of_lt_of_le (by decide) h.mantissa_le
  cases k with
  | zero =>
    have hlt := Nat.mul_lt_mul_of_pos_right (lt_pow_digitCount n)
      (Nat.two_pow_pos (2 - v.exponent).toNat)
    rw [← h.quarters] at hlt
    rw [unit, Nat.sub_zero]
    nlinarith [Nat.two_pow_pos (v.exponent - 2).toNat]
  | succ k =>
    have hgrid := (coarse_of_hit? hm (hnone k (Nat.lt_succ_self k))).2
    rwa [Nat.sub_sub, Nat.add_comm 1 k] at hgrid

theorem exponent_le_of_grid (h : v.Whole n) {k : Nat}
    (hgrid : 3 * 2 ^ (v.exponent - 2).toNat ≤ v.unit (digitCount n - k)) :
    v.exponent ≤ (digitCount n - 1 - k : Nat) + 29 := by
  by_contra hlarge
  obtain ⟨x, hx⟩ : ∃ x : Nat, v.exponent = x + 29 := ⟨(v.exponent - 29).toNat, by omega⟩
  have hmost := h.exponent_le
  have h5 : 5 ^ x ≤ 5 ^ 12 := Nat.pow_le_pow_right (by decide) (by omega)
  have h10 : 10 ^ (digitCount n - k) ≤ 10 ^ x := Nat.pow_le_pow_right (by decide) (by omega)
  rw [unit, show (2 - v.exponent).toNat = 0 by omega,
    show (v.exponent - 2).toNat = x + 27 by omega,
    Nat.pow_zero, Nat.mul_one] at hgrid
  have hsplit : 10 ^ x = 5 ^ x * 2 ^ x := Nat.mul_pow 5 2 x
  have h2 := Nat.mul_le_mul_right (2 ^ x) h5
  have hp := Nat.two_pow_pos x
  rw [Nat.pow_add] at hgrid
  omega

/-- The shortest decimal is a whole number near the value, and ends in so many zeros that what is
left fits double precision. -/
theorem exists_shortest (h : v.Whole n) (tie : Tie) :
    ∃ c p : Nat, v.shortest tie = ⟨c, p⟩ ∧ v.Near (c * v.unit p) ∧ v.exponent ≤ p + 29 := by
  obtain ⟨k, hk10, hk, ⟨c, hc⟩, hnone⟩ := h.exists_hit tie
  have hexp := h.exponent_le_of_grid (h.le_grid hk hnone)
  have hm : v.mantissa ≠ 0 := (Nat.lt_of_lt_of_le (by decide) h.mantissa_le).ne'
  have htop : ∀ j ≤ k, v.leadingExponent - (j : Int) = (digitCount n - 1 - j : Nat) := by
    intro j hj
    rw [h.leadingExponent_eq]
    have hpos := digitCount_pos n
    omega
  obtain ⟨c', q, htrim, rfl⟩ := Decimal.trim_spec 40 c (digitCount n - 1 - k)
  refine ⟨c', digitCount n - 1 - k + q, ?_, ?_, by omega⟩
  · rw [shortest, if_neg hm, ← htrim]
    simp only
    rw [@findSome?_range _ _ k 10 ⟨c' * 10 ^ q, (digitCount n - 1 - k : Nat)⟩ hk10,
      Option.getD_some]
    · rw [htop k (Nat.le_refl k), hc]
      rfl
    · intro j hj
      rw [htop j hj.le, hnone j hj]
      rfl
  · have hnear := near_of_inside (inside_of_hit? hc)
    have hsame : c' * v.unit (digitCount n - 1 - k + q) =
        c' * 10 ^ q * v.unit (digitCount n - 1 - k) := by
      rw [unit, unit, Nat.pow_add]
      ring
    rwa [hsame]

end Whole

end Binary32.Magnitude

end PoolCheck
