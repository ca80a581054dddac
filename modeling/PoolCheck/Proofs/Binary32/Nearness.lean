import Mathlib.Tactic.Linarith
import PoolCheck.Proofs.Binary32.Arithmetic

/-!
# What is rounded to a value

Rounding looks at the number alone, not at how it is split into mantissa and exponent. A number that
fits the format is kept. A number no farther from a value than half the distance to its neighbours
is rounded to that value; on the midpoint the mantissa has to be even.
-/

set_option autoImplicit false

namespace PoolCheck.Unpacked

open Float.Model (Format UnpackedFloat)
open Float.Model.UnpackedFloat

theorem nearest_shift (m n k : Nat) : nearest (m * 2 ^ k) (n + k) = nearest m n := by
  have hp := Nat.two_pow_pos k
  have hdiv : m * 2 ^ k / 2 ^ (n + k) = m / 2 ^ n := by
    rw [Nat.pow_add, Nat.mul_div_mul_right _ _ hp]
  have hmod : m * 2 ^ k % 2 ^ (n + k) = m % 2 ^ n * 2 ^ k := by
    rw [Nat.pow_add, Nat.mul_mod_mul_right]
  have hlt : ∀ a b : Nat, a * 2 ^ k < b * 2 ^ k ↔ a < b := fun a b => Nat.mul_lt_mul_right hp
  rw [nearest, hdiv, hmod, Nat.pow_add, ← Nat.mul_assoc]
  simp only [hlt]
  rfl

/-- The nearest quotient is one that is at most half away, and is even if it is half away. -/
theorem nearest_eq_of_near {d m n : Nat} (hlow : 2 * m * 2 ^ n ≤ 2 * d + 2 ^ n)
    (hhigh : 2 * d ≤ (2 * m + 1) * 2 ^ n)
    (hodd : m % 2 = 1 → 2 * m * 2 ^ n < 2 * d + 2 ^ n ∧ 2 * d < (2 * m + 1) * 2 ^ n) :
    nearest d n = m := by
  have hp := Nat.two_pow_pos n
  have hsplit := Nat.div_add_mod d (2 ^ n)
  have hrest := Nat.mod_lt d hp
  unfold nearest
  generalize 2 ^ n = w at *
  generalize d % w = r at *
  generalize d / w = q at *
  subst hsplit
  -- the quotient is the value itself or the one below it
  have hq : q = m ∨ q + 1 = m := by
    have h1 : q < m + 1 := by
      by_contra h
      have := Nat.mul_le_mul_left w (show m + 1 ≤ q by omega)
      nlinarith
    have h2 : m < q + 2 := by
      by_contra h
      have := Nat.mul_le_mul_left w (show q + 2 ≤ m by omega)
      nlinarith
    omega
  rcases hq with rfl | rfl
  · have hr : 2 * r ≤ w := by nlinarith
    have hr' : q % 2 = 1 → 2 * r < w := fun h => by
      have := (hodd h).2
      nlinarith
    rw [if_neg (show ¬w < 2 * r by omega)]
    split_ifs <;> omega
  · have hr : w ≤ 2 * r := by nlinarith
    have hr' : (q + 1) % 2 = 1 → w < 2 * r := fun h => by
      have := (hodd h).1
      nlinarith
    rw [if_neg (show ¬2 * r < w by omega)]
    split_ifs <;> omega

variable {spec : Format} {s : Sign} {m : Nat} {e : Int}

theorem target_shift (spec : Format) (e : Int) (hm : 0 < m) (k : Nat) :
    target spec (m * 2 ^ k) (e - k) = target spec m e := by
  rw [target_eq, target_eq, log2_mul_pow hm]
  push_cast
  congr 1
  omega

theorem round_placed (spec : Format) (s : Sign) (e : Int) (hm : 0 < m) :
    UnpackedFloat.round spec s m e = placed spec s
      (nearest (m * 2 ^ (e - target spec m e).toNat) (target spec m e - e).toNat)
      (target spec m e) := by
  obtain ⟨hround, htarget⟩ := round_eq spec s e hm
  rw [hround, roundWithAccuracy_exact (Nat.mul_pos hm (Nat.two_pow_pos _)) (by omega), htarget]
  congr 2
  omega

theorem round_shift (spec : Format) (s : Sign) (e : Int) (hm : 0 < m) (k : Nat) :
    UnpackedFloat.round spec s (m * 2 ^ k) (e - k) = UnpackedFloat.round spec s m e := by
  rw [round_placed spec s _ (Nat.mul_pos hm (Nat.two_pow_pos k)), round_placed spec s _ hm,
    target_shift spec e hm]
  generalize target spec m e = t
  congr 1
  by_cases ht : e ≤ t
  · rw [show (e - k - t).toNat = 0 by omega, show (e - t).toNat = 0 by omega, Nat.pow_zero,
      Nat.mul_one, Nat.mul_one, show (t - (e - k)).toNat = (t - e).toNat + k by omega,
      nearest_shift]
  · have hsum : m * 2 ^ k * 2 ^ (e - k - t).toNat =
        m * 2 ^ (e - t).toNat * 2 ^ (t - (e - k)).toNat := by
      rw [Nat.mul_assoc, Nat.mul_assoc, ← Nat.pow_add, ← Nat.pow_add]
      congr 2
      omega
    rw [hsum, nearest_mul, show (t - e).toNat = 0 by omega, nearest_zero]

theorem roundWithAccuracy_eq_round (hm : 0 < m) (he : e ≤ target spec m e) :
    roundWithAccuracy spec s m e .exact = UnpackedFloat.round spec s m e := by
  rw [(round_eq spec s e hm).1, show (e - target spec m e).toNat = 0 by omega]
  simp

theorem target_of_normal (h : Normal spec m e) (hm : 0 < m) : target spec m e = e := by
  obtain ⟨hmin, hlt, hle⟩ := h
  have hp : spec.mantissaBits = 1 + spec.mantissaBitsWithoutImplicit := rfl
  have hlog := (Nat.log2_lt hm.ne').2 hlt
  rw [← Nat.le_log2 hm.ne'] at hle
  rw [target_eq]
  omega

theorem round_of_normal (h : Normal spec m e) (hm : 0 < m) :
    UnpackedFloat.round spec s m e = .finite s m e hm := by
  rw [round_placed spec s e hm, target_of_normal h hm, Int.sub_self, Int.toNat_zero, Nat.pow_zero,
    Nat.mul_one, nearest_zero, placed, if_neg h.2.1.ne, dif_neg hm.ne']

def room (spec : Format) (m : Nat) : Nat := spec.mantissaBitsWithoutImplicit - m.log2

theorem normal_room (hm : 0 < m) (h : m < 2 ^ spec.mantissaBits)
    (he : spec.minExponent ≤ e - room spec m) :
    Normal spec (m * 2 ^ room spec m) (e - room spec m) := by
  have hp : spec.mantissaBits = 1 + spec.mantissaBitsWithoutImplicit := rfl
  have hlog := (Nat.log2_lt hm.ne').2 h
  have hpos := (Nat.mul_pos hm (Nat.two_pow_pos (room spec m))).ne'
  have hfull : (m * 2 ^ room spec m).log2 = spec.mantissaBitsWithoutImplicit := by
    rw [log2_mul_pow hm, room]
    omega
  refine ⟨he, ?_, .inl ?_⟩
  · rw [← Nat.log2_lt hpos]
    omega
  · rw [← Nat.le_log2 hpos]
    omega

theorem round_of_lt (hm : 0 < m) (h : m < 2 ^ spec.mantissaBits)
    (he : spec.minExponent ≤ e - room spec m) :
    UnpackedFloat.round spec s m e = .finite s (m * 2 ^ room spec m) (e - room spec m)
      (Nat.mul_pos hm (Nat.two_pow_pos _)) := by
  rw [← round_shift spec s e hm (room spec m)]
  exact round_of_normal (normal_room hm h he) _

/-- A mantissa with `k` places more than the format holds loses these, to the nearest. -/
theorem round_of_log2 {d k : Nat} (hd : 0 < d)
    (hlog : d.log2 = spec.mantissaBitsWithoutImplicit + k) (hmin : spec.minExponent ≤ e + k) :
    UnpackedFloat.round spec s d e = placed spec s (nearest d k) (e + k) := by
  have hbits : spec.mantissaBits = 1 + spec.mantissaBitsWithoutImplicit := rfl
  have ht : target spec d e = e + k := by
    rw [target_eq, hlog]
    omega
  rw [round_placed spec s e hd, ht, show (e - (e + k)).toNat = 0 by omega,
    show (e + (k : Int) - e).toNat = k by omega, Nat.pow_zero, Nat.mul_one]

/-- A number close enough to a value that has a neighbour below is rounded to it. Below a power of
two the neighbour is only half as far away. -/
theorem round_of_near {d j : Nat} (hn : Normal spec m (e + (j + 2 : Nat))) (hm : 0 < m)
    (hmin : spec.minExponent < e + (j + 2 : Nat))
    (hlow : 4 * m * 2 ^ j ≤
      d + (if m = 2 ^ spec.mantissaBitsWithoutImplicit then 1 else 2) * 2 ^ j)
    (hhigh : d ≤ (4 * m + 2) * 2 ^ j)
    (hodd : m % 2 = 1 → 4 * m * 2 ^ j < d + 2 * 2 ^ j ∧ d < (4 * m + 2) * 2 ^ j) :
    UnpackedFloat.round spec s d e = .finite s m (e + (j + 2 : Nat)) hm := by
  obtain ⟨-, hlt, hle⟩ := hn
  replace hle := hle.resolve_right hmin.ne'
  have hw := Nat.two_pow_pos j
  have h1 : 2 ^ (j + 1) = 2 * 2 ^ j := by ring
  have h2 : 2 ^ (j + 2) = 4 * 2 ^ j := by ring
  have hbits : spec.mantissaBits = spec.mantissaBitsWithoutImplicit + 1 := Nat.add_comm _ _
  have hp : 2 ^ spec.mantissaBits = 2 * 2 ^ spec.mantissaBitsWithoutImplicit := by
    rw [hbits, pow_succ']
  have hlow' : 4 * m * 2 ^ j ≤ d + 2 * 2 ^ j := by
    split_ifs at hlow <;> omega
  have hd : 0 < d := by nlinarith
  by_cases hd' : 2 ^ (spec.mantissaBitsWithoutImplicit + (j + 2)) ≤ d
  · have hlog : d.log2 = spec.mantissaBitsWithoutImplicit + (j + 2) := by
      refine (Nat.log2_eq_iff hd.ne').2 ⟨hd', ?_⟩
      rw [Nat.add_right_comm, ← hbits, Nat.pow_add, h2]
      nlinarith
    have hnearest : nearest d (j + 2) = m := by
      apply nearest_eq_of_near <;> rw [h2]
      · linarith
      · linarith
      · intro h
        obtain ⟨h1, h3⟩ := hodd h
        constructor <;> linarith
    rw [round_of_log2 hd hlog hmin.le, hnearest, placed, if_neg hlt.ne, dif_neg hm.ne']
  · -- below a power of two the step is halved, and rounding goes up to the power
    rw [Nat.pow_add, h2, Nat.not_le] at hd'
    have hm' : m = 2 ^ spec.mantissaBitsWithoutImplicit := by
      by_contra h
      have : 2 ^ spec.mantissaBitsWithoutImplicit + 1 ≤ m := by omega
      nlinarith
    rw [if_pos hm', hm'] at hlow
    have hlog : d.log2 = spec.mantissaBitsWithoutImplicit + (j + 1) := by
      refine (Nat.log2_eq_iff hd.ne').2 ⟨?_, ?_⟩
      · rw [Nat.pow_add, h1]
        nlinarith [Nat.two_pow_pos spec.mantissaBitsWithoutImplicit]
      · rwa [Nat.add_assoc, Nat.pow_add, h2]
    have hnearest : nearest d (j + 1) = 2 ^ spec.mantissaBits := by
      apply nearest_eq_of_near <;> rw [h1, hp]
      · linarith
      · linarith
      · omega
    rw [round_of_log2 hd hlog (by omega), hnearest, placed, if_pos rfl]
    simp only [hm', UnpackedFloat.finite.injEq, true_and]
    omega

end PoolCheck.Unpacked
