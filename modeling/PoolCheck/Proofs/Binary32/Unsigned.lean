import PoolCheck.Proofs.Binary32.Arithmetic

/-!
# Values that are not below zero

Sums of such values, their quotients by positive counts and the larger ones among them are values of
the same kind, so no NaN can come up. An infinity can: a sum or a quotient may be too large.
-/

set_option autoImplicit false

namespace PoolCheck.Unpacked

open Float.Model (Format UnpackedFloat)
open Float.Model.UnpackedFloat

def Unsigned : UnpackedFloat → Prop
  | .zero s | .finite s _ _ _ | .infinity s => s = .positive
  | .notANumber => False

variable {spec : Format} {u v : UnpackedFloat}

theorem unsigned_components {e : BitVec spec.exponentBits}
    {m : BitVec spec.mantissaBitsWithoutImplicit} (he : e ≠ -1#_) :
    Unsigned (unpack spec (packComponents spec .positive e m)) := by
  by_cases h0 : e = 0#_
  · subst h0
    by_cases hm : m = 0#_
    · subst hm
      rw [show packComponents spec .positive 0#_ 0#_ = packedZero spec .positive from rfl,
        unpack_packedZero]
      rfl
    · rw [unpack_subnormal hm]
      rfl
  · rw [unpack_normal h0 he]
    rfl

theorem unsigned_unpack_pack (hu : Unsigned u) : Unsigned (unpack spec (pack spec u)) := by
  cases u with
  | notANumber => exact hu.elim
  | infinity s =>
    rw [show pack spec (.infinity s) = packedInfinity spec s from rfl, unpack_infinity]
    exact hu
  | zero s =>
    rw [show pack spec (.zero s) = packedZero spec s from rfl, unpack_packedZero]
    exact hu
  | finite s m e hm =>
    cases hu
    simp only [pack]
    split_ifs with hlarge hnormal
    · rw [unpack_infinity]
      rfl
    · apply unsigned_components
      intro h
      have ht := congrArg BitVec.toNat h
      rw [neg_one_toNat, BitVec.toNat_ofNat, Nat.mod_eq_of_lt (by omega)] at ht
      omega
    · exact unsigned_components (zero_ne_neg_one spec)

theorem unsigned_roundWithAccuracy (m : Nat) (e : Int) (a : Accuracy) :
    Unsigned (roundWithAccuracy spec .positive m e a) := by
  simp only [roundWithAccuracy]
  split_ifs <;> rfl

theorem unsigned_normalize {m : Int} (hm : 0 ≤ m) (e : Int) :
    Unsigned (UnpackedFloat.normalize spec m e .positive) := by
  rw [Binary32.normalize_eq, if_neg (by omega)]
  split_ifs
  · rfl
  · exact unsigned_roundWithAccuracy _ _ _

theorem unsigned_add (hu : Unsigned u) (hv : Unsigned v) : Unsigned (add spec u v) := by
  cases u with
  | notANumber => exact hu.elim
  | infinity s =>
    cases hu
    cases v with
    | notANumber => exact hv.elim
    | infinity t =>
      cases hv
      rfl
    | zero t => rfl
    | finite t m e hm => rfl
  | zero s =>
    cases hu
    cases v with
    | zero t =>
      cases hv
      rfl
    | _ => exact hv
  | finite s m e hm =>
    cases hu
    cases v with
    | notANumber => exact hv.elim
    | infinity t => exact hv
    | zero t => rfl
    | finite t m' e' hm' =>
      cases hv
      simp only [add, Sign.apply]
      exact unsigned_normalize (by omega) _

theorem unsigned_div {m : Nat} {e : Int} {hm : 0 < m} (hu : Unsigned u) :
    Unsigned (div spec u (.finite .positive m e hm)) := by
  cases u with
  | notANumber => exact hu.elim
  | infinity s =>
    cases hu
    rfl
  | zero s =>
    cases hu
    rfl
  | finite s m' e' hm' =>
    cases hu
    exact unsigned_roundWithAccuracy _ _ _

theorem unsigned_mul {m : Nat} {e : Int} {hm : 0 < m} (hu : Unsigned u) :
    Unsigned (mul spec u (.finite .positive m e hm)) := by
  cases u with
  | notANumber => exact hu.elim
  | infinity s =>
    cases hu
    rfl
  | zero s =>
    cases hu
    rfl
  | finite s m' e' hm' =>
    cases hu
    exact unsigned_roundWithAccuracy _ _ _

theorem beq_of_unsigned (hu : Unsigned u) : u.beq u = true := by
  cases u with
  | notANumber => exact hu.elim
  | infinity s =>
    cases hu
    rfl
  | zero s => rfl
  | finite s m e hm =>
    cases hu
    simp [UnpackedFloat.beq, UnpackedFloat.compare, Ordering.then]

end PoolCheck.Unpacked

namespace PoolCheck.Binary32

open Float.Model (UnpackedFloat)
open Float.Model.UnpackedFloat Unpacked

def Unsigned (x : Binary32) : Prop := Unpacked.Unsigned x.view

namespace Unsigned

variable {x y : Binary32} {u : UnpackedFloat}

theorem ofUnpacked (h : Unpacked.Unsigned u) : Unsigned (ofUnpacked u) := unsigned_unpack_pack h

theorem zero : Unsigned .zero := rfl

theorem add (hx : Unsigned x) (hy : Unsigned y) : Unsigned (x + y) := by
  rw [add_eq]
  exact ofUnpacked (unsigned_add hx hy)

theorem div_ofCount (hx : Unsigned x) {n : Nat} (h0 : 0 < n) (hn : n < wordLimit) :
    Unsigned (x / ofCount n) := by
  obtain ⟨m, e, hm, hv⟩ := view_ofCount h0 hn
  rw [div_eq, hv]
  exact ofUnpacked (unsigned_div hx)

theorem equal_self (hx : Unsigned x) : x.equal x = true := by
  rw [equal_eq]
  exact beq_of_unsigned hx

end Unsigned

end PoolCheck.Binary32
