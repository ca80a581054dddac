import PoolCheck.Proofs.Binary32.Unsigned
import PoolCheck.Tensor.Random

/-!
# Draws from the unit interval

The upper bits of a word make a number from one on; what it exceeds one by is the draw. The range
from zero to one is not narrowed, so every element of a random tensor is such a draw.
-/

set_option autoImplicit false

namespace PoolCheck.Tensor

open Float.Model (Format UnpackedFloat)
open Float.Model.UnpackedFloat Unpacked
open Binary32 (Unsigned)

def Unsigned (x : Tensor) : Prop := ∀ k, (x.data.getD k .zero).Unsigned

theorem bits_of_draw (w : UInt32) : ((w >>> 9) ||| 0x3f800000).toBitVec =
    packComponents .binary32 .positive 127#8 (BitVec.ofNat 23 (w.toNat / 512)) := by
  have hw : (BitVec.ofNat 23 (w.toNat / 512)).toNat = w.toNat / 512 := by
    have := w.toNat_lt
    rw [BitVec.toNat_ofNat, Nat.mod_eq_of_lt (by omega)]
  have hl : ((w >>> 9) ||| 0x3f800000).toBitVec.toNat = w.toNat / 512 ||| 0x3f800000 := by
    rw [UInt32.toNat_toBitVec, UInt32.toNat_or, UInt32.toNat_shiftRight, Nat.shiftRight_eq_div_pow]
    rfl
  apply BitVec.eq_of_toNat_eq
  rw [hl, packComponents, BitVec.toNat_append, BitVec.toNat_append, hw, Nat.or_comm]
  rfl

theorem view_one : Binary32.one.view = .finite .positive (2 ^ 23) (-23) (by decide) := rfl

theorem unsigned_unitDraw (w : UInt32) : (unitDraw w).Unsigned := by
  have hv : (⟨(w >>> 9) ||| 0x3f800000⟩ : Binary32).view =
      .finite .positive (2 ^ 23 + (BitVec.ofNat 23 (w.toNat / 512)).toNat) (-23) (by omega) := by
    show unpack .binary32 ((w >>> 9) ||| 0x3f800000).toBitVec = _
    rw [bits_of_draw, unpack_normal (by decide) (by decide)]
    rfl
  rw [unitDraw, Binary32.sub_eq, hv, view_one]
  apply Unsigned.ofUnpacked
  simp only [sub, decreaseExponent, Sign.apply, min_self, Int.sub_self, Int.toNat_zero,
    Nat.shiftLeft_zero]
  exact unsigned_normalize (by push_cast; omega) _

theorem unsigned_draw (w : UInt32) : (draw .zero .one w).Unsigned := by
  have hscaled : (unitDraw w * Binary32.one).Unsigned := by
    rw [Binary32.mul_eq, view_one]
    exact Unsigned.ofUnpacked (unsigned_mul (unsigned_unitDraw w))
  exact hscaled.add .zero

theorem fitScale_unit : fitScale .zero .one (Binary32.one - Binary32.zero).bits.toNat = .one := by
  have hw : (Binary32.one - Binary32.zero).bits.toNat = 0x3f7fffff + 1 := by decide
  have hs : (⟨UInt32.ofNat (0x3f7fffff + 1)⟩ : Binary32) = .one := by decide
  have hb : Binary32.one.lessOrEqual (draw .zero .one 0xffffffff) = false := by decide
  rw [hw, fitScale, hs]
  simp only [hb, Bool.false_eq_true, if_false]

theorem random_unit {s : Shape} (h : holdable s = true) (seed : Nat) :
    ∃ x, random .zero .one s seed = .ok x ∧ x.shape = s ∧ x.Unsigned := by
  have hless : Binary32.zero.less .one = true := by decide
  have hfinite : (Binary32.zero.isFinite && Binary32.one.isFinite &&
      (Binary32.one - Binary32.zero).isFinite) = true := by decide
  unfold random
  simp only [hless, hfinite, h, fitScale_unit, Bool.not_true, Bool.false_eq_true, if_false]
  refine ⟨_, rfl, rfl, fun k => ?_⟩
  simp only [Array.getD_eq_getD_getElem?, Array.getElem?_ofFn]
  split_ifs
  · exact unsigned_draw _
  · exact Unsigned.zero

end PoolCheck.Tensor
