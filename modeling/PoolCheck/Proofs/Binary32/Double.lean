import Mathlib.Tactic.IntervalCases
import PoolCheck.Proofs.Binary32.Nearness

/-!
# Exact values in double precision

A whole number is read through double precision: its digits, then one multiplication or division by
a power of ten. As long as the numbers fit, nothing is rounded on this way, and the only rounding
is the last one, to single precision.
-/

set_option autoImplicit false

namespace PoolCheck

open Float.Model (Format UnpackedFloat totalExponent)
open Float.Model.UnpackedFloat Unpacked

/-- A value in double precision is `m * 2 ^ e`, and was not rounded. -/
structure Exact (f : Float) (m e : Nat) : Prop where
  pos : 0 < m
  fits : m < 2 ^ 53
  small : e ≤ 900
  view : f.toModel.unpack = UnpackedFloat.round .binary64 .positive m e

namespace Exact

variable {f g : Float} {a b m n p q e k : Nat}

theorem round_eq (hm : 0 < m) (h : m < 2 ^ 53) (e : Nat) :
    UnpackedFloat.round .binary64 .positive m e =
      .finite .positive (m * 2 ^ room .binary64 m) (e - room .binary64 m)
        (Nat.mul_pos hm (Nat.two_pow_pos _)) := by
  refine round_of_lt hm h ?_
  have h1 : Format.binary64.minExponent = -1074 := rfl
  have h2 : room .binary64 m = 52 - m.log2 := rfl
  omega

theorem held (hm : 0 < m) (h : m < 2 ^ 53) (he : e ≤ 900) :
    Held .binary64 (UnpackedFloat.round .binary64 .positive m e) := by
  have h1 : Format.binary64.minExponent = -1074 := rfl
  have h2 : room .binary64 m = 52 - m.log2 := rfl
  have h3 : (Format.binary64.exponentBias : Int) = 1023 := rfl
  rw [round_eq hm h]
  refine ⟨normal_room hm h (by omega), ?_⟩
  rw [InRange, h3]
  norm_num
  omega

theorem of_pack (hm : 0 < m) (h : m < 2 ^ 53) (he : e ≤ 900) :
    Exact (.ofModel (.pack (UnpackedFloat.round .binary64 .positive m e))) m e := by
  refine ⟨hm, h, he, unpack_pack ?_ (held hm h he)⟩
  rw [round_eq hm h]
  simp

theorem toFloat (hn : 0 < n) (h : n < 2 ^ 53) : Exact (UInt64.ofNat n).toFloat n 0 := by
  have hword : (UInt64.ofNat n).toNat = n := UInt64.toNat_ofNat_of_lt' (h.trans (by decide))
  show Exact (.ofModel (.pack (UnpackedFloat.ofNat .binary64 (UInt64.ofNat n).toNat))) n 0
  rw [hword, Binary32.ofNat_eq_round _ hn]
  exact of_pack hn h (Nat.zero_le _)

theorem powerOfTen (h : p ≤ 22) : Exact (Gathered.powerOfTen p) (5 ^ p) p := by
  refine ⟨by positivity, ?_, by omega, ?_⟩
  · exact Nat.lt_of_le_of_lt (Nat.pow_le_pow_right (by decide) h) (by decide)
  · interval_cases p <;> rfl

theorem mul (hf : Exact f a p) (hg : Exact g b q) (h : a * b < 2 ^ 53) (hpq : p + q ≤ 900) :
    Exact (f * g) (a * b) (p + q) := by
  have hab := Nat.mul_pos hf.pos hg.pos
  have hlog : a.log2 + b.log2 ≤ (a * b).log2 := by
    rw [Nat.le_log2 hab.ne', Nat.pow_add]
    exact Nat.mul_le_mul (Nat.log2_self_le hf.pos.ne') (Nat.log2_self_le hg.pos.ne')
  have hview : UnpackedFloat.mul .binary64 f.toModel.unpack g.toModel.unpack =
      UnpackedFloat.round .binary64 .positive (a * b) (p + q : Nat) := by
    rw [hf.view, hg.view, round_eq hf.pos hf.fits, round_eq hg.pos hg.fits]
    have hm : a * 2 ^ room .binary64 a * (b * 2 ^ room .binary64 b) =
        a * b * 2 ^ (room .binary64 a + room .binary64 b) := by
      rw [Nat.pow_add]
      ring
    have he : (p - room .binary64 a + (q - room .binary64 b) : Int) =
        (p + q : Nat) - (room .binary64 a + room .binary64 b : Nat) := by
      push_cast
      ring
    show roundWithAccuracy .binary64 .positive _ _ .exact = _
    rw [hm, he, roundWithAccuracy_eq_round (Nat.mul_pos hab (Nat.two_pow_pos _)),
      round_shift _ _ _ hab]
    have h1 : (Format.binary64.mantissaBits : Int) = 53 := rfl
    have h2 : Format.binary64.minExponent = -1074 := rfl
    have ha : room .binary64 a = 52 - a.log2 := rfl
    have hb : room .binary64 b = 52 - b.log2 := rfl
    rw [target_shift _ _ hab, target_eq]
    omega
  show Exact (.ofModel (.pack (UnpackedFloat.mul .binary64 f.toModel.unpack g.toModel.unpack))) _ _
  rw [hview]
  exact of_pack hab h hpq

theorem div (hf : Exact f (a * b) p) (hg : Exact g b 0) : Exact (f / g) a p := by
  have ha : 0 < a := Nat.pos_of_mul_pos_right hf.pos
  have hafits : a < 2 ^ 53 := Nat.lt_of_le_of_lt (Nat.le_mul_of_pos_right a hg.pos) hf.fits
  have hlog : (a * b).log2 < (a.log2 + 1) + (b.log2 + 1) := by
    rw [Nat.log2_lt hf.pos.ne', Nat.pow_add]
    exact Nat.mul_lt_mul'' Nat.lt_log2_self Nat.lt_log2_self
  have hlog53 := (Nat.log2_lt hf.pos.ne').2 hf.fits
  have h1 : (Format.binary64.mantissaBits : Int) = 53 := rfl
  have h2 : Format.binary64.minExponent = -1074 := rfl
  have hrab : room .binary64 (a * b) = 52 - (a * b).log2 := rfl
  have hrb : room .binary64 b = 52 - b.log2 := rfl
  have hview : UnpackedFloat.div .binary64 f.toModel.unpack g.toModel.unpack =
      UnpackedFloat.round .binary64 .positive a p := by
    rw [hf.view, hg.view, round_eq hf.pos hf.fits, round_eq hg.pos hg.fits]
    simp only [UnpackedFloat.div, divCore]
    generalize ht : min (_ : Int) _ = t
    simp only [totalExponent, Format.targetExponent, log2_mul_pow hf.pos,
      log2_mul_pow hg.pos] at ht
    have htarget : t ≤ target .binary64 a p := by
      rw [target_eq]
      omega
    obtain ⟨k, rfl⟩ : ∃ k : Nat, t = p - k := ⟨(p - t).toNat, by omega⟩
    have hpow : (a * b * 2 ^ room .binary64 (a * b)) <<<
        (p - room .binary64 (a * b) - (0 - room .binary64 b) - (p - k) : Int).toNat =
        a * 2 ^ k * (b * 2 ^ room .binary64 b) := by
      have hexp : room .binary64 (a * b) +
          (p - room .binary64 (a * b) - (0 - room .binary64 b) - (p - k) : Int).toNat =
          k + room .binary64 b := by omega
      rw [Nat.shiftLeft_eq, Nat.mul_assoc, ← Nat.pow_add, hexp, Nat.pow_add]
      ring
    have hb := Nat.mul_pos hg.pos (Nat.two_pow_pos (room .binary64 b))
    rw [Int.natCast_zero, hpow, Nat.mul_div_cancel _ hb, Nat.mul_mod_left]
    show roundWithAccuracy .binary64 .positive _ _ .exact = _
    rw [roundWithAccuracy_eq_round (Nat.mul_pos ha (Nat.two_pow_pos k)),
      round_shift _ _ _ ha]
    rwa [target_shift _ _ ha]
  show Exact (.ofModel (.pack (UnpackedFloat.div .binary64 f.toModel.unpack g.toModel.unpack))) _ _
  rw [hview]
  exact of_pack ha hafits hf.small

theorem shift (h : Exact f m (e + k)) (hfits : m * 2 ^ k < 2 ^ 53) : Exact f (m * 2 ^ k) e := by
  have hs := h.small
  refine ⟨Nat.mul_pos h.pos (Nat.two_pow_pos k), hfits, by omega, ?_⟩
  rw [h.view, ← round_shift _ _ _ h.pos k]
  congr 1
  omega

theorem isInf (h : Exact f m e) : f.isInf = false := by
  show f.toModel.unpack.isInf = false
  rw [h.view, round_eq h.pos h.fits]
  rfl

theorem ofDouble (h : Exact f m e) :
    Binary32.ofDouble f = .ofUnpacked (.round .binary32 .positive (m * 2 ^ e) 0) := by
  have hview : UnpackedFloat.unpack .binary64 f.toBits.toBitVec = _ := h.view
  have hshift := round_shift .binary32 .positive e h.pos e
  rw [Int.sub_self] at hshift
  rw [Binary32.ofDouble, hview, round_eq h.pos h.fits]
  simp only
  rw [round_shift _ _ _ h.pos, hshift]

end Exact

end PoolCheck
