import Mathlib
import PoolCheck.Binary32.Reading

/-!
# Packed and unpacked values

Unpacking gives the values that a format holds, each in one form, and packing such a value loses
nothing. A rounded value that is too large for the format is packed as an infinity. The library has
the components of a word, and that packing gives an unpacked word again, but only Mathlib as a whole
imports that part of it.
-/

set_option autoImplicit false

namespace PoolCheck.Unpacked

open Float.Model (Format UnpackedFloat)
open Float.Model.UnpackedFloat

variable {spec : Format}

theorem toNat_one_append {w : Nat} (v : BitVec w) : (1#1 ++ v).toNat = 2 ^ w + v.toNat := by
  rw [BitVec.toNat_append, ← Nat.shiftLeft_add_eq_or_of_lt v.isLt]
  simp [Nat.shiftLeft_eq]

/-- A finite value in the one form that rounding leaves it in, of any size. -/
def Normal (spec : Format) (m : Nat) (e : Int) : Prop :=
  spec.minExponent ≤ e ∧ m < 2 ^ spec.mantissaBits ∧
    (2 ^ spec.mantissaBitsWithoutImplicit ≤ m ∨ e = spec.minExponent)

def InRange (spec : Format) (e : Int) : Prop :=
  e + spec.exponentBias + spec.mantissaBitsWithoutImplicit + 1 < 2 ^ spec.exponentBits

instance (spec : Format) (e : Int) : Decidable (InRange spec e) :=
  inferInstanceAs (Decidable (_ < _))

/-- The values that a format holds. -/
def Held (spec : Format) : UnpackedFloat → Prop
  | .finite _ m e _ => Normal spec m e ∧ InRange spec e
  | _ => True

def Rounded (spec : Format) : UnpackedFloat → Prop
  | .finite _ m e _ => Normal spec m e
  | _ => True

theorem minExponent_eq (spec : Format) :
    spec.minExponent = 1 - (spec.exponentBias + spec.mantissaBitsWithoutImplicit : Int) := by
  have hb := Nat.two_pow_pos (spec.exponentBits - 1)
  simp only [Format.minExponent, Format.exponentBias, Format.mantissaBits]
  push_cast [Nat.cast_sub (show 1 ≤ 2 ^ (spec.exponentBits - 1) from hb)]
  ring

theorem neg_one_toNat (w : Nat) : (-1#w).toNat = 2 ^ w - 1 := by
  rw [BitVec.neg_one_eq_allOnes, BitVec.toNat_allOnes]

theorem two_lt_pow (hx : 1 < spec.exponentBits) : 2 < 2 ^ spec.exponentBits :=
  Nat.pow_lt_pow_right (a := 2) (by decide) hx

theorem zero_ne_neg_one (spec : Format) : (0#_ : BitVec spec.exponentBits) ≠ -1#_ := by
  intro h
  have ht := congrArg BitVec.toNat h
  have hp := Nat.pow_lt_pow_right (a := 2) (by decide) spec.he
  rw [neg_one_toNat, BitVec.toNat_zero] at ht
  omega

theorem unpack_infinity (s : Sign) : unpack spec (packedInfinity spec s) = .infinity s := by
  simp [unpack, packedInfinity]

theorem unpack_of_nan {s : Sign} {m : BitVec spec.mantissaBitsWithoutImplicit} (hm : m ≠ 0#_) :
    unpack spec (packComponents spec s (-1#_) m) = .notANumber := by
  simp only [unpack, unpackMantissa_packComponents, unpackExponent_packComponents, hm, if_true,
    if_false]

/-- Without the implicit bit, the components stand for a multiple of the smallest value. -/
theorem unpack_subnormal {s : Sign} {m : BitVec spec.mantissaBitsWithoutImplicit} (hm : m ≠ 0#_) :
    unpack spec (packComponents spec s 0#_ m) =
      .finite s m.toNat spec.minExponent (by simpa [BitVec.toNat_pos, BitVec.pos_iff_ne_zero]) := by
  have h := zero_ne_neg_one spec
  simp only [unpack, unpackMantissa_packComponents, unpackExponent_packComponents,
    unpackSign_packComponents, Sign.ofBitVec_toBitVec, h, hm, if_false, if_true, dif_neg,
    not_false_eq_true, BitVec.toNat_zero, UnpackedFloat.finite.injEq, true_and]
  rw [minExponent_eq]
  push_cast
  ring

theorem unpack_normal {s : Sign} {e : BitVec spec.exponentBits}
    {m : BitVec spec.mantissaBitsWithoutImplicit} (h0 : e ≠ 0#_) (h1 : e ≠ -1#_) :
    unpack spec (packComponents spec s e m) =
      .finite s (2 ^ spec.mantissaBitsWithoutImplicit + m.toNat) (e.toNat + spec.minExponent - 1)
        (Nat.add_pos_left (Nat.two_pow_pos _) _) := by
  simp only [unpack, unpackMantissa_packComponents, unpackExponent_packComponents,
    unpackSign_packComponents, Sign.ofBitVec_toBitVec, h0, h1, if_false, toNat_one_append,
    UnpackedFloat.finite.injEq, true_and]
  rw [minExponent_eq]
  ring

/-- What the components of a word say of its value. -/
inductive Kind (spec : Format) : BitVec spec.numBits → Prop
  | infinity (s : Sign) : Kind spec (packedInfinity spec s)
  | nan (s : Sign) {m : BitVec spec.mantissaBitsWithoutImplicit} (hm : m ≠ 0#_) :
    Kind spec (packComponents spec s (-1#_) m)
  | zero (s : Sign) : Kind spec (packedZero spec s)
  | subnormal (s : Sign) {m : BitVec spec.mantissaBitsWithoutImplicit} (hm : m ≠ 0#_) :
    Kind spec (packComponents spec s 0#_ m)
  | normal (s : Sign) {e : BitVec spec.exponentBits}
    (m : BitVec spec.mantissaBitsWithoutImplicit) (h0 : e ≠ 0#_) (h1 : e ≠ -1#_) :
    Kind spec (packComponents spec s e m)

theorem kind (b : BitVec spec.numBits) : Kind spec b := by
  rw [← packComponents_unpackSign_unpackExponent_unpackMantissa b]
  by_cases h1 : unpackExponent b = -1#_
  · rw [h1]
    by_cases hm : unpackMantissa b = 0#_
    · rw [hm]
      exact .infinity _
    · exact .nan _ hm
  by_cases h0 : unpackExponent b = 0#_
  · rw [h0]
    by_cases hm : unpackMantissa b = 0#_
    · rw [hm]
      exact .zero _
    · exact .subnormal _ hm
  · exact .normal _ _ h0 h1

theorem held_unpack (hx : 1 < spec.exponentBits) (b : BitVec spec.numBits) :
    Held spec (unpack spec b) := by
  have hp : 2 ^ spec.mantissaBits = 2 ^ spec.mantissaBitsWithoutImplicit * 2 := by
    rw [Format.mantissaBits, Nat.add_comm, Nat.pow_succ]
  have hb := minExponent_eq spec
  cases kind b with
  | infinity s =>
    rw [unpack_infinity]
    trivial
  | nan s hm =>
    rw [unpack_of_nan hm]
    trivial
  | zero s =>
    rw [unpack_packedZero]
    trivial
  | @subnormal s m hm =>
    have hlt := m.isLt
    rw [unpack_subnormal hm]
    refine ⟨⟨le_refl _, by omega, .inr rfl⟩, ?_⟩
    rw [InRange, hb]
    have h2 : (2 : Int) < 2 ^ spec.exponentBits := by exact_mod_cast two_lt_pow hx
    omega
  | @normal s e m h0 h1 =>
    have hlt := m.isLt
    have he := e.isLt
    have h0' : e.toNat ≠ 0 := fun h => h0 (BitVec.eq_of_toNat_eq h)
    have h1' : e.toNat ≠ 2 ^ spec.exponentBits - 1 := by
      intro h
      exact h1 (BitVec.eq_of_toNat_eq (by rw [h, neg_one_toNat]))
    rw [unpack_normal h0 h1]
    refine ⟨⟨by omega, by omega, .inl (by omega)⟩, ?_⟩
    rw [InRange, hb]
    have h2 : (e.toNat : Int) + 1 < 2 ^ spec.exponentBits := by
      exact_mod_cast (show e.toNat + 1 < 2 ^ spec.exponentBits by omega)
    omega

theorem biased_eq (spec : Format) (e : Int) :
    e + spec.exponentBias + spec.mantissaBitsWithoutImplicit = e - spec.minExponent + 1 := by
  rw [minExponent_eq]
  ring

theorem biased_lt {e : Int} (h : InRange spec e) (hmin : spec.minExponent ≤ e) :
    (e - spec.minExponent + 1).toNat + 1 < 2 ^ spec.exponentBits := by
  rw [InRange, biased_eq] at h
  have h' : (((e - spec.minExponent + 1).toNat + 1 : Nat) : Int) <
      (2 ^ spec.exponentBits : Nat) := by
    push_cast
    omega
  exact_mod_cast h'

theorem pack_finite {s : Sign} {m : Nat} {e : Int} {hm : 0 < m} (h : InRange spec e)
    (hn : Normal spec m e) :
    pack spec (.finite s m e hm) =
      if 2 ^ spec.mantissaBitsWithoutImplicit ≤ m then
        packComponents spec s (BitVec.ofNat _ (e - spec.minExponent + 1).toNat) (BitVec.ofNat _ m)
      else packComponents spec s 0#_ (BitVec.ofNat _ m) := by
  have hlt := biased_lt h hn.1
  have hl : m.log2 + 1 = spec.mantissaBits ↔ 2 ^ spec.mantissaBitsWithoutImplicit ≤ m := by
    have hu := (Nat.log2_lt hm.ne').2 hn.2.1
    rw [← Nat.le_log2 hm.ne']
    unfold Format.mantissaBits at *
    omega
  simp only [pack, biased_eq, hl, if_neg (Nat.not_le.2 hlt)]

theorem mod_of_normal {p m : Nat} (h1 : 2 ^ p ≤ m) (h2 : m < 2 ^ (1 + p)) :
    m % 2 ^ p = m - 2 ^ p := by
  have hp : 2 ^ (1 + p) = 2 ^ p * 2 := by rw [Nat.add_comm, Nat.pow_succ]
  rw [Nat.mod_eq_sub_mod h1, Nat.mod_eq_of_lt (by omega)]

theorem unpack_pack {u : UnpackedFloat} (hu : u ≠ .notANumber)
    (h : Held spec u) : unpack spec (pack spec u) = u := by
  cases u with
  | notANumber => exact absurd rfl hu
  | infinity s => exact unpack_infinity s
  | zero s => exact unpack_packedZero
  | finite s m e hm =>
    obtain ⟨hn, hr⟩ := h
    have hmin := hn.1
    rw [pack_finite hr hn]
    split_ifs with hl
    · have hlt := biased_lt hr hmin
      have ht : (BitVec.ofNat spec.exponentBits (e - spec.minExponent + 1).toNat).toNat =
          (e - spec.minExponent + 1).toNat := by
        rw [BitVec.toNat_ofNat, Nat.mod_eq_of_lt (by omega)]
      rw [unpack_normal]
      · simp only [ht, BitVec.toNat_ofNat, mod_of_normal hl hn.2.1, UnpackedFloat.finite.injEq,
          true_and]
        omega
      · intro h0
        rw [h0, BitVec.toNat_zero] at ht
        omega
      · intro h1
        rw [h1, neg_one_toNat] at ht
        omega
    · have ht : (BitVec.ofNat spec.mantissaBitsWithoutImplicit m).toNat = m := by
        rw [BitVec.toNat_ofNat, Nat.mod_eq_of_lt (by omega)]
      rw [unpack_subnormal]
      · simp only [ht, UnpackedFloat.finite.injEq, true_and]
        exact (hn.2.2.resolve_left hl).symm
      · intro h0
        rw [h0, BitVec.toNat_zero] at ht
        omega

theorem unpack_pack_overflow {s : Sign} {m : Nat} {e : Int} (hm : 0 < m) (h : ¬InRange spec e) :
    unpack spec (pack spec (.finite s m e hm)) = .infinity s := by
  have hlt : 2 ^ spec.exponentBits ≤
      (e + spec.exponentBias + spec.mantissaBitsWithoutImplicit).toNat + 1 := by
    rw [InRange] at h
    have h' : ((2 ^ spec.exponentBits : Nat) : Int) ≤
        (((e + spec.exponentBias + spec.mantissaBitsWithoutImplicit).toNat + 1 : Nat) : Int) := by
      push_cast
      omega
    exact_mod_cast h'
  simp only [pack, if_pos hlt, unpack_infinity]

end PoolCheck.Unpacked
