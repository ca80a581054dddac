import PoolCheck.Proofs.Binary32.Packing

/-!
# Rounding

A mantissa is shortened by shifting it, while a round bit and a sticky bit keep what is needed of
the bits that leave it. The shortened mantissa is the nearest quotient by a power of two, ties to
even. So rounding an exact value gives the form that a format stores, and never zero where the
exponent is one that the format has.
-/

set_option autoImplicit false

namespace PoolCheck.Unpacked

open Float.Model (Format UnpackedFloat totalExponent)
open Float.Model.UnpackedFloat

/-- The quotient by `2 ^ n`, rounded to the nearest number, ties to even. -/
def nearest (m n : Nat) : Nat :=
  if 2 * (m % 2 ^ n) < 2 ^ n then m / 2 ^ n
  else if 2 ^ n < 2 * (m % 2 ^ n) then m / 2 ^ n + 1
  else m / 2 ^ n + m / 2 ^ n % 2

/-- A mantissa from which `n` bits were shifted out, with what its residual bits say of them. -/
structure Shifted (em : ExtendedMantissa) (m n : Nat) : Prop where
  mantissa : em.mantissa = m / 2 ^ n
  round : em.roundBit = true ↔ 2 ^ n ≤ 2 * (m % 2 ^ n)
  sticky : em.stickyBit = true ↔ m % 2 ^ n ≠ 0 ∧ 2 * (m % 2 ^ n) ≠ 2 ^ n

namespace Shifted

variable {em : ExtendedMantissa} {m n : Nat}

theorem start (m : Nat) : Shifted (.ofMantissaAndAccuracy m .exact) m 0 := by
  refine ⟨by simp [ExtendedMantissa.ofMantissaAndAccuracy], ?_, ?_⟩ <;>
    simp [ExtendedMantissa.ofMantissaAndAccuracy, Nat.mod_one]

theorem step (h : Shifted em m n) : Shifted em.shiftRightOne m (n + 1) := by
  have hr := Nat.mod_lt m (Nat.two_pow_pos n)
  have hs : m % 2 ^ (n + 1) = m % 2 ^ n + 2 ^ n * (m / 2 ^ n % 2) := Nat.mod_pow_succ
  have hp : 2 ^ (n + 1) = 2 ^ n * 2 := Nat.pow_succ 2 n
  rcases Nat.mod_two_eq_zero_or_one (m / 2 ^ n) with hb | hb
  all_goals
    rw [hb] at hs
    refine ⟨?_, ?_, ?_⟩
    · simp only [ExtendedMantissa.shiftRightOne, h.mantissa]
      rw [Nat.div_div_eq_div_mul, Nat.pow_succ]
    · simp only [ExtendedMantissa.shiftRightOne, h.mantissa, bne_iff_ne]
      omega
    · simp only [ExtendedMantissa.shiftRightOne, Bool.or_eq_true, h.round, h.sticky]
      omega

theorem repeated (h : Shifted em m 0) (n : Nat) :
    Shifted (n.repeat ExtendedMantissa.shiftRightOne em) m n := by
  induction n with
  | zero => exact h
  | succ n ih => exact ih.step

theorem roundedMantissa_eq (h : Shifted em m n) : em.roundedMantissa = nearest m n := by
  have hr := Nat.mod_lt m (Nat.two_pow_pos n)
  obtain ⟨q, round, sticky⟩ := em
  obtain ⟨hq, hround, hsticky⟩ := h
  simp only at hq hround hsticky
  subst hq
  unfold ExtendedMantissa.roundedMantissa nearest
  cases round <;> cases sticky <;>
    simp only [ExtendedMantissa.accuracy, Accuracy.roundToNearestEven] <;>
    simp only [Bool.false_eq_true, false_iff, true_iff] at hround hsticky
  · rw [if_pos (by omega)]
  · rw [if_pos (by omega)]
  · rw [if_neg (by omega), if_neg (by omega)]
  · rw [if_neg (by omega), if_pos (by omega)]

end Shifted

theorem shiftRight_shifted (m n : Nat) :
    Shifted (ExtendedMantissa.ofMantissaAndAccuracy m .exact >>> n) m n :=
  (Shifted.start m).repeated n

theorem div_le_nearest (m n : Nat) : m / 2 ^ n ≤ nearest m n := by
  unfold nearest
  split_ifs <;> omega

theorem nearest_le (m n : Nat) : nearest m n ≤ m / 2 ^ n + 1 := by
  unfold nearest
  split_ifs <;> omega

@[simp] theorem nearest_zero (m : Nat) : nearest m 0 = m := by
  simp [nearest, Nat.mod_one]

theorem nearest_mul (m n : Nat) : nearest (m * 2 ^ n) n = m := by
  have hp := Nat.two_pow_pos n
  rw [nearest, Nat.mul_mod_left, if_pos (by omega), Nat.mul_div_cancel _ hp]

/-! ## The form of a rounded value -/

variable {spec : Format}

/-- A rounded mantissa at its exponent. A mantissa that was rounded up to one bit more is halved. -/
def placed (spec : Format) (s : Sign) (r : Nat) (t : Int) : UnpackedFloat :=
  if r = 2 ^ spec.mantissaBits then
    .finite s (2 ^ spec.mantissaBitsWithoutImplicit) (t + 1) (Nat.two_pow_pos _)
  else if h : r = 0 then .zero s
  else .finite s r t (Nat.pos_of_ne_zero h)

def target (spec : Format) (m : Nat) (e : Int) : Int := spec.targetExponent (totalExponent m e)

theorem target_eq (spec : Format) (m : Nat) (e : Int) :
    target spec m e = max (m.log2 + 1 + e - spec.mantissaBits) spec.minExponent := rfl

theorem minExponent_le_target (spec : Format) (m : Nat) (e : Int) :
    spec.minExponent ≤ target spec m e :=
  Int.le_max_right _ _

theorem nearest_le_pow (spec : Format) {m : Nat} (e : Int) (hm : 0 < m) :
    nearest m (target spec m e - e).toNat ≤ 2 ^ spec.mantissaBits := by
  have ht := target_eq spec m e
  have hl : m < 2 ^ spec.mantissaBits * 2 ^ (target spec m e - e).toNat := by
    rw [← Nat.pow_add, ← Nat.log2_lt hm.ne']
    omega
  have hd : m / 2 ^ (target spec m e - e).toNat < 2 ^ spec.mantissaBits :=
    Nat.div_lt_of_lt_mul (by rw [Nat.mul_comm]; exact hl)
  have hn := nearest_le m (target spec m e - e).toNat
  omega

theorem pow_le_nearest {m : Nat} {e : Int} (hm : 0 < m) (he : e ≤ target spec m e)
    (ht : target spec m e ≠ spec.minExponent) :
    2 ^ spec.mantissaBitsWithoutImplicit ≤ nearest m (target spec m e - e).toNat := by
  have heq := target_eq spec m e
  have hp : spec.mantissaBits = 1 + spec.mantissaBitsWithoutImplicit := rfl
  have hl : 2 ^ (spec.mantissaBitsWithoutImplicit + (target spec m e - e).toNat) ≤ m := by
    rw [← Nat.le_log2 hm.ne']
    omega
  rw [Nat.pow_add] at hl
  have hd := (Nat.le_div_iff_mul_le (Nat.two_pow_pos _)).2 hl
  exact hd.trans (div_le_nearest _ _)

theorem shiftToTargetExponent_eq {m : Nat} {e : Int} {a : Accuracy} (he : e ≤ target spec m e) :
    shiftToTargetExponent spec m e a =
      (ExtendedMantissa.ofMantissaAndAccuracy m a >>> (target spec m e - e).toNat,
        target spec m e) := by
  simp only [shiftToTargetExponent, shiftToExponent, Prod.mk.injEq]
  rw [← target]
  exact ⟨rfl, by omega⟩

theorem shiftToTargetExponent_of_le {m : Nat} {e : Int} {a : Accuracy} (he : target spec m e ≤ e) :
    shiftToTargetExponent spec m e a = (ExtendedMantissa.ofMantissaAndAccuracy m a, e) := by
  simp only [shiftToTargetExponent, shiftToExponent, Prod.mk.injEq]
  rw [← target, Int.toNat_of_nonpos (by omega)]
  exact ⟨rfl, by simp⟩

theorem roundWithAccuracy_exact {s : Sign} {m : Nat} {e : Int} (hm : 0 < m)
    (he : e ≤ target spec m e) :
    roundWithAccuracy spec s m e .exact =
      placed spec s (nearest m (target spec m e - e).toNat) (target spec m e) := by
  have hle := nearest_le_pow spec e hm
  have hmin := minExponent_le_target spec m e
  have hround := (shiftRight_shifted m (target spec m e - e).toNat).roundedMantissa_eq
  have hfirst := shiftToTargetExponent_eq (a := .exact) he
  generalize target spec m e = t at *
  generalize nearest m (t - e).toNat = r at *
  simp only [roundWithAccuracy, hfirst, hround, placed]
  by_cases hr : r = 2 ^ spec.mantissaBits
  · subst hr
    have ht : target spec (2 ^ spec.mantissaBits) t = t + 1 := by
      rw [target_eq, Nat.log2_two_pow]
      omega
    have hs := (shiftRight_shifted (2 ^ spec.mantissaBits) 1).mantissa
    have hhalf : 2 ^ spec.mantissaBits / 2 ^ 1 = 2 ^ spec.mantissaBitsWithoutImplicit := by
      rw [Format.mantissaBits, Nat.add_comm, Nat.pow_succ]
      omega
    have hsecond : shiftToTargetExponent spec (2 ^ spec.mantissaBits) t .exact =
        (ExtendedMantissa.ofMantissaAndAccuracy (2 ^ spec.mantissaBits) .exact >>> 1, t + 1) := by
      rw [shiftToTargetExponent_eq (by omega), ht, show (t + 1 - t).toNat = 1 by omega]
    simp only [hsecond, hs, hhalf, dif_neg (Nat.two_pow_pos _).ne', if_true]
  · have ht : target spec r t ≤ t := by
      have hlog : r.log2 + 1 ≤ spec.mantissaBits := by
        have hp : 0 < spec.mantissaBits := by unfold Format.mantissaBits; omega
        by_cases hz : r = 0
        · rw [hz, Nat.log2_zero]
          omega
        · have hl := (Nat.log2_lt hz).2 (show r < 2 ^ spec.mantissaBits by omega)
          omega
      rw [target_eq]
      omega
    simp only [shiftToTargetExponent_of_le ht, if_neg hr]
    rfl

theorem log2_mul_pow {m : Nat} (hm : 0 < m) (k : Nat) : (m * 2 ^ k).log2 = m.log2 + k := by
  have h := (Nat.log2_eq_iff hm.ne').1 rfl
  rw [Nat.log2_eq_iff (Nat.mul_pos hm (Nat.two_pow_pos k)).ne']
  constructor
  · rw [Nat.pow_add]
    exact Nat.mul_le_mul_right _ h.1
  · rw [Nat.add_right_comm, Nat.pow_add]
    exact Nat.mul_lt_mul_of_pos_right h.2 (Nat.two_pow_pos k)

theorem placed_rounded {s : Sign} {r : Nat} {t : Int} (hr : r ≤ 2 ^ spec.mantissaBits)
    (hmin : spec.minExponent ≤ t)
    (hl : t ≠ spec.minExponent → 2 ^ spec.mantissaBitsWithoutImplicit ≤ r) :
    Rounded spec (placed spec s r t) := by
  have hp : 2 ^ spec.mantissaBits = 2 ^ spec.mantissaBitsWithoutImplicit * 2 := by
    rw [Format.mantissaBits, Nat.add_comm, Nat.pow_succ]
  have hpos := Nat.two_pow_pos spec.mantissaBitsWithoutImplicit
  unfold placed
  split_ifs with h1 h2
  · exact ⟨by omega, by omega, .inl (Nat.le_refl _)⟩
  · trivial
  · exact ⟨hmin, by omega, by by_cases ht : t = spec.minExponent; exacts [.inr ht, .inl (hl ht)]⟩

theorem rounded_roundWithAccuracy {s : Sign} {m : Nat} {e : Int} (hm : 0 < m)
    (he : e ≤ target spec m e) : Rounded spec (roundWithAccuracy spec s m e .exact) := by
  rw [roundWithAccuracy_exact hm he]
  exact placed_rounded (nearest_le_pow spec e hm) (minExponent_le_target spec m e)
    (pow_le_nearest hm he)

theorem roundWithAccuracy_finite (spec : Format) (s : Sign) {m : Nat} {e : Int} (hm : 0 < m)
    (he : e ≤ target spec m e) (hmin : spec.minExponent ≤ e) :
    ∃ r t hr, roundWithAccuracy spec s m e .exact = .finite s r t hr ∧ Normal spec r t ∧
      target spec m e ≤ t ∧ t ≤ target spec m e + 1 := by
  have hr : nearest m (target spec m e - e).toNat ≠ 0 := by
    by_cases ht : target spec m e = e
    · rw [ht, Int.sub_self, Int.toNat_zero, nearest_zero]
      exact hm.ne'
    · have hl := pow_le_nearest hm he (by omega)
      have hp := Nat.two_pow_pos spec.mantissaBitsWithoutImplicit
      omega
  have hrounded := rounded_roundWithAccuracy (s := s) hm he
  rw [roundWithAccuracy_exact hm he, placed] at hrounded ⊢
  split_ifs at hrounded ⊢ with hc
  · exact ⟨_, _, Nat.two_pow_pos _, rfl, hrounded, by omega, Int.le_refl _⟩
  · exact ⟨_, _, Nat.pos_of_ne_zero hr, rfl, hrounded, Int.le_refl _, by omega⟩

/-- Rounding lowers the exponent first, where the mantissa has room for it. -/
theorem round_eq (spec : Format) (s : Sign) {m : Nat} (e : Int) (hm : 0 < m) :
    UnpackedFloat.round spec s m e = roundWithAccuracy spec s (m * 2 ^ (e - target spec m e).toNat)
      (e - (e - target spec m e).toNat) .exact ∧
    target spec (m * 2 ^ (e - target spec m e).toNat) (e - (e - target spec m e).toNat) =
      target spec m e := by
  constructor
  · simp only [UnpackedFloat.round, decreaseExponent, Nat.shiftLeft_eq]
    rfl
  · have ht := target_eq spec m e
    rw [target_eq, log2_mul_pow hm]
    push_cast
    omega

theorem round_finite (spec : Format) (s : Sign) {m : Nat} {e : Int} (hm : 0 < m)
    (he : spec.minExponent ≤ e) :
    ∃ r t hr, UnpackedFloat.round spec s m e = .finite s r t hr ∧ Normal spec r t ∧
      target spec m e ≤ t ∧ t ≤ target spec m e + 1 := by
  obtain ⟨h, ht⟩ := round_eq spec s e hm
  have hmin := minExponent_le_target spec m e
  obtain ⟨r, t, hr, hround, hn, hle⟩ := roundWithAccuracy_finite spec s
    (Nat.mul_pos hm (Nat.two_pow_pos _)) (show _ ≤ _ by rw [ht]; omega) (by omega)
  exact ⟨r, t, hr, h.trans hround, hn, ht ▸ hle⟩

end PoolCheck.Unpacked
