import PoolCheck.Proofs.Binary32.Shortest
import PoolCheck.Proofs.Exchange

/-!
# Counts read back

A count is written as the shortest decimal that is near it. The decimal is a whole number, written
with a zero after the point or with an exponent, and both forms are read through double precision
without rounding. The one rounding that is left gives the count again.
-/

set_option autoImplicit false

namespace PoolCheck

open Float.Model (Format UnpackedFloat)
open Float.Model.UnpackedFloat Unpacked

namespace Binary32

variable {n : Nat}

theorem toNat_bits_ofUnpacked {m : Nat} {e : Int} {hm : 0 < m} (hn : Normal .binary32 m e)
    (hr : InRange .binary32 e) (hl : 2 ^ 23 ≤ m) :
    (ofUnpacked (.finite .positive m e hm)).bits.toNat =
      (e + 150).toNat * 2 ^ 23 + (m - 2 ^ 23) := by
  have hmin : Format.binary32.minExponent = -149 := rfl
  have hb : (e - Format.binary32.minExponent + 1).toNat + 1 < 2 ^ 8 := biased_lt hr hn.1
  have hmod := mod_of_normal hl hn.2.1
  rw [hmin, show e - -149 + 1 = e + 150 by omega] at hb
  show (pack .binary32 _).toNat = _
  rw [pack_finite hr hn, if_pos hl, hmin, show e - -149 + 1 = e + 150 by omega]
  simp only [packComponents, BitVec.toNat_append, BitVec.toNat_ofNat, Sign.toBitVec]
  rw [Nat.mod_eq_of_lt (show (e + 150).toNat < 2 ^ 8 by omega), hmod]
  rw [Nat.zero_mod, Nat.zero_shiftLeft, Nat.zero_or,
    ← Nat.shiftLeft_add_eq_or_of_lt (show m - 2 ^ 23 < 2 ^ 23 by omega), Nat.shiftLeft_eq]

theorem magnitude_of_toNat {x : Binary32} {b f : Nat} (hx : x.bits.toNat = b * 2 ^ 23 + f)
    (hb : b < 2 ^ 8) (hb' : 1 < b) (hf : f < 2 ^ 23) :
    x.isNegative = false ∧ x.magnitude = ⟨f + 2 ^ 23, b - 150, decide (f = 0)⟩ := by
  have hfraction : (x.bits &&& 0x7fffff).toNat = f := by
    rw [UInt32.toNat_and, hx, show (0x7fffff : UInt32).toNat = 2 ^ 23 - 1 from rfl,
      Nat.and_two_pow_sub_one_eq_mod]
    omega
  have hbiased : ((x.bits >>> 23) &&& 0xff).toNat = b := by
    rw [UInt32.toNat_and, UInt32.toNat_shiftRight, hx,
      show (0xff : UInt32).toNat = 2 ^ 8 - 1 from rfl,
      Nat.and_two_pow_sub_one_eq_mod, show (23 : UInt32).toNat % 32 = 23 from rfl,
      Nat.shiftRight_eq_div_pow]
    omega
  constructor
  · rw [isNegative, decide_eq_false_iff_not, UInt32.le_iff_toNat_le, hx,
      show (0x80000000 : UInt32).toNat = 2 ^ 31 from rfl]
    omega
  · simp only [magnitude, hfraction, hbiased, if_neg (show b ≠ 0 by omega), hb', decide_true,
      Bool.and_true]
    rfl

theorem magnitude_ofCount (h0 : 0 < n) (h : n < wordLimit) :
    (ofCount n).isNegative = false ∧ (∃ n', (ofCount n).magnitude.Whole n') ∧
      ∃ hm, ofCount n = ofUnpacked
        (.finite .positive (ofCount n).magnitude.mantissa (ofCount n).magnitude.exponent hm) := by
  obtain ⟨m, e, hm, hround, hnormal, hrange, hl, hlow, hhigh⟩ := exists_ofCount h0 h
  have hlt : m < 2 ^ 24 := hnormal.2.1
  have hlog : n.log2 < 64 := (Nat.log2_lt h0.ne').2 (by simpa [wordLimit] using h)
  have hcount : ofCount n = ofUnpacked (.finite .positive m e hm) := by
    rw [ofCount_eq_round h0 h, hround]
  have hbits := @toNat_bits_ofUnpacked m e hm hnormal hrange hl
  obtain ⟨hsign, hmagnitude⟩ := magnitude_of_toNat hbits (by omega) (by omega) (by omega)
  have hnarrow : decide (m - 2 ^ 23 = 0) = decide (m = 2 ^ 23) := decide_eq_decide.2 (by omega)
  rw [← hcount, Nat.sub_add_cancel hl, show ((e + 150).toNat - 150 : Int) = e by omega,
    hnarrow] at hmagnitude
  refine ⟨hcount ▸ hsign, ?_, ?_⟩
  · rw [hmagnitude]
    by_cases hn : n < 2 ^ 24
    · have hexact := @round_of_lt .binary32 .positive n 0 h0 hn
      have hroom : room .binary32 n = 23 - n.log2 := rfl
      have hmin : Format.binary32.minExponent = -149 := rfl
      have hlog' := (Nat.log2_lt h0.ne').2 hn
      rw [hround] at hexact
      obtain ⟨-, rfl, rfl⟩ := UnpackedFloat.finite.inj (hexact (by omega))
      refine ⟨n, hl, hlt, rfl, by simp only; omega, by simp only; omega, ?_⟩
      simp only
      rw [show (0 - (room .binary32 n : Int)).toNat = 0 by omega,
        show (-(0 - (room .binary32 n : Int))).toNat = room .binary32 n by omega, Nat.pow_zero,
        Nat.mul_one]
    · have hlog' := (Nat.le_log2 h0.ne').2 (Nat.le_of_not_lt hn)
      refine ⟨m * 2 ^ e.toNat, hl, hlt, rfl, by simp only; omega, by simp only; omega, ?_⟩
      simp only
      rw [show (-e).toNat = 0 by omega, Nat.pow_zero, Nat.mul_one]
  · rw [hmagnitude]
    exact ⟨hm, hcount⟩

end Binary32

/-! ## Digits -/

theorem le_ofDigitChars (ds : List Char) (n : Nat) : n ≤ Nat.ofDigitChars 10 ds n := by
  rw [Nat.ofDigitChars_eq_ofDigitChars_zero]
  exact Nat.le_trans (Nat.le_mul_of_pos_left n (by positivity)) (Nat.le_add_right _ _)

namespace Gathered

theorem whole_of_lt (n : Nat) (e : Int) (ds : List Char)
    (h : Nat.ofDigitChars 10 ds n < wordLimit) :
    whole ⟨n, e⟩ ds = ⟨Nat.ofDigitChars 10 ds n, e⟩ := by
  induction ds generalizing n with
  | nil => rfl
  | cons d ds ih =>
    have hfits : (⟨n, e⟩ : Gathered).fits d = true :=
      decide_eq_true (Nat.lt_of_le_of_lt (le_ofDigitChars ds _) h)
    rw [whole, if_pos hfits]
    exact ih _ h

theorem fraction_of_lt (n : Nat) (e : Int) (ds : List Char)
    (h : Nat.ofDigitChars 10 ds n < wordLimit) :
    fraction ⟨n, e⟩ ds = ⟨Nat.ofDigitChars 10 ds n, e - ds.length⟩ := by
  induction ds generalizing n e with
  | nil => simp [fraction]
  | cons d ds ih =>
    have hfits : (⟨n, e⟩ : Gathered).fits d = true :=
      decide_eq_true (Nat.lt_of_le_of_lt (le_ofDigitChars ds _) h)
    rw [fraction, if_pos hfits, List.length_cons]
    refine (ih _ _ h).trans ?_
    congr 1
    push_cast
    ring

theorem double?_of_pow {c p : Nat} (hc : 0 < c) (hp : p ≤ 22) (h : c * 5 ^ p < 2 ^ 53) :
    ∃ f, double? ⟨c, p⟩ = some f ∧ Exact f (c * 5 ^ p) p := by
  have hc53 : c < 2 ^ 53 := Nat.lt_of_le_of_lt (Nat.le_mul_of_pos_right c (by positivity)) h
  have hexact := (Exact.toFloat hc hc53).mul (Exact.powerOfTen hp) h (by omega)
  rw [Nat.zero_add] at hexact
  refine ⟨_, ?_, hexact⟩
  rw [double?, if_pos (Int.natCast_nonneg p), if_pos (show (p : Int) ≤ 308 by omega)]
  simp only [Int.toNat_natCast, hexact.isInf, Bool.false_eq_true, if_false]

theorem double?_of_tenth {d : Nat} (hd : 0 < d) (h : 10 * d < 2 ^ 53) :
    ∃ f, double? ⟨10 * d, -1⟩ = some f ∧ Exact f d 0 := by
  have hten : Exact (powerOfTen 1) 10 0 :=
    @Exact.shift _ 5 0 1 (Exact.powerOfTen (by decide)) (by decide)
  have hnum := Exact.toFloat (show 0 < 10 * d by omega) h
  rw [Nat.mul_comm] at hnum
  refine ⟨_, ?_, hnum.div hten⟩
  rw [double?, if_neg (show ¬(0 : Int) ≤ -1 by decide), Nat.mul_comm 10 d,
    show (-1 : Int).natAbs = 1 from rfl, shrink, if_pos (by decide)]

end Gathered

/-! ## Literals -/

namespace Binary32

variable {x : Binary32} {c p : Nat}

theorem leading_natCast (c p : Nat) :
    (⟨c, p⟩ : Decimal).leading = (p + digitCount c - 1 : Nat) := by
  have hpos := digitCount_pos c
  simp only [Decimal.leading]
  omega

theorem head_toDigits_ne_zero {n : Nat} (h : 0 < n) : (Nat.toDigits 10 n).head? ≠ some '0' :=
  fun h0 => h.ne' (eq_zero_of_head_toDigits h0)

theorem positional_leading (c p : Nat) :
    NumberStyle.exchange.positional (⟨c, p⟩ : Decimal).leading =
      decide (p + digitCount c ≤ 13) := by
  have hpos := digitCount_pos c
  rw [leading_natCast, NumberStyle.exchange]
  simp only [← Bool.decide_and]
  exact decide_eq_decide.2 (by omega)

theorem layout_positional (h : p + digitCount c ≤ 13) :
    NumberStyle.exchange.layout false ⟨c, p⟩ =
      ⟨false, Nat.toDigits 10 c ++ List.replicate p '0', ['0'], none⟩ := by
  have hpos := digitCount_pos c
  have hlen : (Nat.toDigits 10 c).length = digitCount c := rfl
  simp only [NumberStyle.layout, positional_leading, decide_eq_true h, if_true]
  rw [leading_natCast, if_pos (Int.natCast_nonneg _), Int.toNat_natCast,
    show p + digitCount c - 1 + 1 = p + digitCount c by omega, List.take_of_length_le (by omega),
    List.drop_eq_nil_of_le (by omega), hlen, Nat.add_sub_cancel]
  rfl

theorem layout_scientific (h : ¬p + digitCount c ≤ 13) :
    NumberStyle.exchange.layout false ⟨c, p⟩ =
      ⟨false, (Nat.toDigits 10 c).take 1, (Nat.toDigits 10 c).drop 1,
        some (p + digitCount c - 1 : Nat)⟩ := by
  simp only [NumberStyle.layout, positional_leading, decide_eq_false h, Bool.false_eq_true,
    if_false]
  rw [leading_natCast]

theorem plain_layout (hc : 0 < c) : (NumberStyle.exchange.layout false ⟨c, p⟩).Plain := by
  have hdigit : ∀ d ∈ Nat.toDigits 10 c, d.isDigit = true := fun _ => isDigit_of_mem_toDigits
  by_cases h : p + digitCount c ≤ 13
  · rw [layout_positional h]
    refine ⟨?_, by simp, by simp [Nat.toDigits_ne_nil], ?_⟩
    · intro d hd
      rcases List.mem_append.1 hd with hd | hd
      · exact hdigit d hd
      · rw [List.eq_of_mem_replicate hd]
        decide
    · intro hz
      rw [List.head?_append, Option.or_eq_some_iff] at hz
      rcases hz with hz | hz
      · exact absurd hz (head_toDigits_ne_zero hc)
      · exact absurd (List.head?_eq_none_iff.1 hz.1) Nat.toDigits_ne_nil
  · rw [layout_scientific h]
    refine ⟨fun d hd => hdigit d (List.mem_of_mem_take hd),
      fun d hd => hdigit d (List.mem_of_mem_drop hd), ?_, ?_⟩
    · simp [Nat.toDigits_ne_nil]
    · intro hz
      rw [List.head?_take, if_neg (by decide)] at hz
      exact absurd hz (head_toDigits_ne_zero hc)

theorem gathered_positional (c p : Nat) (h : c * 10 ^ p * 10 < wordLimit) :
    (⟨false, Nat.toDigits 10 c ++ List.replicate p '0', ['0'], none⟩ : Literal).gathered =
      ⟨10 * (c * 10 ^ p), -1⟩ := by
  have hvalue : Nat.ofDigitChars 10 (Nat.toDigits 10 c ++ List.replicate p '0') 0 = c * 10 ^ p := by
    rw [Nat.ofDigitChars_append, Nat.ofDigitChars_ten_toDigits, Nat.ofDigitChars_replicate_zero,
      Nat.mul_comm]
  have hwhole := Gathered.whole_of_lt 0 0 (Nat.toDigits 10 c ++ List.replicate p '0')
    (by rw [hvalue]; omega)
  rw [hvalue] at hwhole
  have hlast : Nat.ofDigitChars 10 ['0'] (c * 10 ^ p) = 10 * (c * 10 ^ p) := rfl
  have hfraction := Gathered.fraction_of_lt (c * 10 ^ p) 0 ['0'] (by rw [hlast]; omega)
  simp only [Literal.gathered, hwhole, hfraction]
  rfl

theorem gathered_scientific (c p : Nat) (h : c < wordLimit) :
    (⟨false, (Nat.toDigits 10 c).take 1, (Nat.toDigits 10 c).drop 1,
      some (p + digitCount c - 1 : Nat)⟩ : Literal).gathered = ⟨c, p⟩ := by
  have hpos := digitCount_pos c
  have hvalue : Nat.ofDigitChars 10 ((Nat.toDigits 10 c).drop 1)
      (Nat.ofDigitChars 10 ((Nat.toDigits 10 c).take 1) 0) = c := by
    rw [← Nat.ofDigitChars_append, List.take_append_drop, Nat.ofDigitChars_ten_toDigits]
  have hlt := le_ofDigitChars ((Nat.toDigits 10 c).drop 1)
    (Nat.ofDigitChars 10 ((Nat.toDigits 10 c).take 1) 0)
  rw [hvalue] at hlt
  have hwhole := Gathered.whole_of_lt 0 0 ((Nat.toDigits 10 c).take 1) (by omega)
  have hfraction := Gathered.fraction_of_lt _ 0 ((Nat.toDigits 10 c).drop 1)
    (by rw [hvalue]; exact h)
  rw [hvalue, List.length_drop, show (Nat.toDigits 10 c).length = digitCount c from rfl]
    at hfraction
  simp only [Literal.gathered, hwhole, hfraction, Option.getD_some]
  congr 1
  omega

theorem value?_layout (hc : 0 < c) (hp : p ≤ 22) (h : c * 5 ^ p < 2 ^ 53) :
    (NumberStyle.exchange.layout false ⟨c, p⟩).value? =
      some (ofUnpacked (.round .binary32 .positive (c * 10 ^ p) 0)) := by
  have hword : wordLimit = 2 ^ 64 := rfl
  by_cases hlength : p + digitCount c ≤ 13
  · have hd : 0 < c * 10 ^ p := by positivity
    have hsmall : c * 10 ^ p < 10 ^ 13 := by
      calc c * 10 ^ p < 10 ^ digitCount c * 10 ^ p :=
            Nat.mul_lt_mul_of_pos_right (lt_pow_digitCount c) (by positivity)
        _ = 10 ^ (p + digitCount c) := by rw [← Nat.pow_add, Nat.add_comm]
        _ ≤ 10 ^ 13 := Nat.pow_le_pow_right (by decide) hlength
    obtain ⟨f, hf, hexact⟩ := Gathered.double?_of_tenth hd (by omega)
    rw [layout_positional hlength, Literal.value?, gathered_positional _ _ (by omega), hf]
    simp [Literal.isWhole, hexact.ofDouble]
  · have hc53 : c < 2 ^ 53 := Nat.lt_of_le_of_lt (Nat.le_mul_of_pos_right c (by positivity)) h
    obtain ⟨f, hf, hexact⟩ := Gathered.double?_of_pow hc hp h
    have hten : c * 5 ^ p * 2 ^ p = c * 10 ^ p := by
      rw [Nat.mul_assoc, ← Nat.mul_pow]
    rw [layout_scientific hlength, Literal.value?, gathered_scientific _ _ (by omega), hf]
    simp [Literal.isWhole, hexact.ofDouble, hten]

theorem exchangeable_zero : (ofCount 0).Exchangeable := by
  have hl : (ofCount 0).literal .exchange = ⟨false, ['0'], ['0'], none⟩ := by decide +kernel
  constructor
  · decide
  · rw [hl]
    constructor <;> simp
  · rw [hl]
    decide +kernel

/-- The text of a count is read as that count. -/
theorem exchangeable_ofCount {n : Nat} (h : n < wordLimit) : (ofCount n).Exchangeable := by
  rcases Nat.eq_zero_or_pos n with rfl | h0
  · exact exchangeable_zero
  obtain ⟨hsign, ⟨n', hwhole⟩, hm, hcount⟩ := magnitude_ofCount h0 h
  obtain ⟨c, p, hshortest, hnear, hexp⟩ := hwhole.exists_shortest .even
  obtain ⟨hc, hfits, hp⟩ := hwhole.fits_of_near hnear hexp
  rw [Magnitude.unit, ← Nat.mul_assoc] at hnear
  have hliteral : (ofCount n).literal .exchange = NumberStyle.exchange.layout false ⟨c, p⟩ := by
    rw [literal, hsign]
    exact congrArg _ hshortest
  refine ⟨?_, ?_, ?_⟩
  · obtain ⟨m, e, hm, hview⟩ := view_ofCount h0 h
    rw [isFinite_eq, hview]
    rfl
  · rw [hliteral]
    exact plain_layout hc
  · rw [hliteral, value?_layout hc hp hfits, hwhole.round_of_near hnear, ← hcount]

end Binary32

end PoolCheck
