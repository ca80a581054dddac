import PoolCheck.Proofs.Binary32.Rounding

/-!
# Arithmetic on single-precision words

The operations on words are those on unpacked values, packed again. A sum is a negative zero only if
both summands are, so a sum that was started with zero is not changed by adding zeros. A positive
count is never rounded to zero.
-/

set_option autoImplicit false

namespace PoolCheck.Binary32

open Float.Model (Format UnpackedFloat)
open Float.Model.UnpackedFloat Unpacked

/-- The value that a word stands for. -/
def view (x : Binary32) : UnpackedFloat := UnpackedFloat.unpack .binary32 x.bits.toBitVec

theorem held_view (x : Binary32) : Held .binary32 x.view := held_unpack (by decide) _

theorem view_ofUnpacked {u : UnpackedFloat} (h : Held .binary32 u) : (ofUnpacked u).view = u := by
  by_cases hu : u = .notANumber
  · subst hu
    exact unpack_packedNaN
  · exact unpack_pack hu h

theorem ofUnpacked_view_ofUnpacked (u : UnpackedFloat) :
    ofUnpacked (ofUnpacked u).view = ofUnpacked u := by
  have h := pack_unpack_of_valid (valid_pack (f := u) : Format.binary32.Valid _)
  simp only [ofUnpacked, view] at h ⊢
  rw [h]

theorem ofUnpacked_view {x : Binary32} (h : x.view.isNaN = false) : ofUnpacked x.view = x := by
  have hvalid : Format.binary32.Valid x.bits.toBitVec := by
    constructor
    intro he hm
    have hnan : x.view = .notANumber := by simp only [view, unpack, he, hm, if_true, if_false]
    rw [hnan] at h
    cases h
  simp only [ofUnpacked, view, pack_unpack_of_valid hvalid]

theorem view_ofUnpacked_finite {s : Sign} {m : Nat} {e : Int} {hm : 0 < m}
    (h : Normal .binary32 m e) : (ofUnpacked (.finite s m e hm)).view =
      if InRange .binary32 e then .finite s m e hm else .infinity s := by
  split_ifs with hr
  · exact view_ofUnpacked ⟨h, hr⟩
  · exact unpack_pack_overflow hm hr

/-! ## The operations -/

theorem unpack_toFloat32 (x : Binary32) : x.toFloat32.toModel.unpack = x.view :=
  view_ofUnpacked x.held_view

theorem add_eq (x y : Binary32) : x + y = ofUnpacked (add .binary32 x.view y.view) := by
  rw [← unpack_toFloat32 x, ← unpack_toFloat32 y]
  rfl

theorem sub_eq (x y : Binary32) : x - y = ofUnpacked (sub .binary32 x.view y.view) := by
  rw [← unpack_toFloat32 x, ← unpack_toFloat32 y]
  rfl

theorem mul_eq (x y : Binary32) : x * y = ofUnpacked (mul .binary32 x.view y.view) := by
  rw [← unpack_toFloat32 x, ← unpack_toFloat32 y]
  rfl

theorem div_eq (x y : Binary32) : x / y = ofUnpacked (div .binary32 x.view y.view) := by
  rw [← unpack_toFloat32 x, ← unpack_toFloat32 y]
  rfl

theorem less_eq (x y : Binary32) : x.less y = x.view.lt y.view := by
  rw [← unpack_toFloat32 x, ← unpack_toFloat32 y]
  exact Bool.decide_eq_true

theorem lessOrEqual_eq (x y : Binary32) : x.lessOrEqual y = x.view.le y.view := by
  rw [← unpack_toFloat32 x, ← unpack_toFloat32 y]
  exact Bool.decide_eq_true

theorem equal_eq (x y : Binary32) : x.equal y = x.view.beq y.view := by
  rw [← unpack_toFloat32 x, ← unpack_toFloat32 y]
  rfl

theorem isNaN_eq (x : Binary32) : x.isNaN = x.view.isNaN := by
  rw [← unpack_toFloat32 x]
  rfl

theorem isFinite_eq (x : Binary32) : x.isFinite = x.view.isFinite := by
  rw [← unpack_toFloat32 x]
  rfl

theorem ofCount_eq {n : Nat} (h : n < wordLimit) :
    ofCount n = ofUnpacked (UnpackedFloat.ofNat .binary32 n) := by
  have hn : (UInt64.ofNat n).toNat = n := UInt64.toNat_ofNat_of_lt' h
  show ofUnpacked (UnpackedFloat.ofNat .binary32 (UInt64.ofNat n).toNat) = _
  rw [hn]

@[simp] theorem view_zero : zero.view = .zero .positive := rfl

@[simp] theorem view_negInfinity : negInfinity.view = .infinity .negative := rfl

/-! ## Sums -/

theorem normalize_eq (spec : Format) (m e : Int) (s : Sign) :
    UnpackedFloat.normalize spec m e s =
      if m < 0 then UnpackedFloat.round spec .negative (-m).toNat e
      else if m = 0 then .zero s else UnpackedFloat.round spec .positive m.toNat e := by
  unfold UnpackedFloat.normalize
  split <;> rename_i h
  · rw [Int.compare_eq_lt] at h
    rw [if_pos h]
  · rw [Int.compare_eq_eq] at h
    rw [if_neg (by omega), if_pos h]
  · rw [Int.compare_eq_gt] at h
    rw [if_neg (by omega), if_neg (by omega)]

theorem add_zero_eq {spec : Format} {u : UnpackedFloat} (h : u ≠ .zero .negative) :
    add spec u (.zero .positive) = u := by
  cases u with
  | notANumber => rfl
  | infinity s => rfl
  | zero s =>
    cases s with
    | negative => exact absurd rfl h
    | positive => rfl
  | finite s m e hm => rfl

theorem rounded_normalize (spec : Format) (m e : Int) (s : Sign) (he : spec.minExponent ≤ e) :
    Rounded spec (UnpackedFloat.normalize spec m e s) := by
  rw [normalize_eq]
  split_ifs with h1 h2
  · obtain ⟨r, t, hr, h, hn, -⟩ := round_finite spec .negative (show 0 < (-m).toNat by omega) he
    rw [h]
    exact hn
  · trivial
  · obtain ⟨r, t, hr, h, hn, -⟩ := round_finite spec .positive (show 0 < m.toNat by omega) he
    rw [h]
    exact hn

theorem normalize_ne_negZero (spec : Format) (m e : Int) (he : spec.minExponent ≤ e) :
    UnpackedFloat.normalize spec m e .positive ≠ .zero .negative := by
  rw [normalize_eq]
  split_ifs with h1 h2
  · obtain ⟨r, t, hr, h, -, -⟩ := round_finite spec .negative (show 0 < (-m).toNat by omega) he
    rw [h]
    simp
  · simp
  · obtain ⟨r, t, hr, h, -, -⟩ := round_finite spec .positive (show 0 < m.toNat by omega) he
    rw [h]
    simp

theorem rounded_add {spec : Format} {u v : UnpackedFloat} (hu : Held spec u) (hv : Held spec v) :
    Rounded spec (add spec u v) := by
  cases u with
  | notANumber => trivial
  | infinity s => cases v <;> simp only [add] <;> first | trivial | (split_ifs <;> trivial)
  | zero s =>
    cases v with
    | finite s' m e hm => exact hv.1
    | zero s' =>
      simp only [add]
      split_ifs <;> trivial
    | _ => trivial
  | finite s m e hm =>
    cases v with
    | finite s' m' e' hm' => exact rounded_normalize _ _ _ _ (le_min hu.1.1 hv.1.1)
    | zero s' => exact hu.1
    | _ => trivial

theorem eq_negZero_of_add {spec : Format} {u v : UnpackedFloat} (hu : Held spec u)
    (hv : Held spec v) (h : add spec u v = .zero .negative) :
    u = .zero .negative ∧ v = .zero .negative := by
  cases u with
  | notANumber => simp [add] at h
  | infinity s => cases v <;> simp only [add] at h <;> first | cases h | (split_ifs at h)
  | zero s =>
    cases v with
    | zero s' => cases s <;> cases s' <;> first | exact ⟨rfl, rfl⟩ | cases h
    | _ => cases h
  | finite s m e hm =>
    cases v with
    | finite s' m' e' hm' =>
      exact absurd h (normalize_ne_negZero spec _ _ (le_min hu.1.1 hv.1.1))
    | _ => cases h

theorem eq_zero_of_view {u : UnpackedFloat} {s : Sign} (hu : Rounded .binary32 u)
    (h : (ofUnpacked u).view = .zero s) : u = .zero s := by
  cases u with
  | finite s' m e hm =>
    rw [view_ofUnpacked_finite hu] at h
    split_ifs at h
  | _ => rwa [view_ofUnpacked (by trivial)] at h

structure Settled (x : Binary32) : Prop where
  packed : ofUnpacked x.view = x
  ne_negZero : x.view ≠ .zero .negative

namespace Settled

theorem zero : Settled Binary32.zero := ⟨by decide, by simp⟩

theorem add {x : Binary32} (h : Settled x) (y : Binary32) : Settled (x + y) := by
  rw [add_eq]
  refine ⟨ofUnpacked_view_ofUnpacked _, fun hn => h.ne_negZero ?_⟩
  have hz := eq_zero_of_view (rounded_add x.held_view y.held_view) hn
  exact (eq_negZero_of_add x.held_view y.held_view hz).1

theorem add_zero {x : Binary32} (h : Settled x) : x + Binary32.zero = x := by
  rw [add_eq, view_zero, add_zero_eq h.ne_negZero, h.packed]

end Settled

/-! ## Counts -/

theorem ofNat_eq_round (spec : Format) {n : Nat} (h : 0 < n) :
    UnpackedFloat.ofNat spec n = UnpackedFloat.round spec .positive n 0 := by
  show UnpackedFloat.normalize spec n 0 .positive = _
  rw [normalize_eq, if_neg (by omega), if_neg (by omega)]
  rfl

theorem exists_ofCount {n : Nat} (h0 : 0 < n) (h : n < wordLimit) :
    ∃ m e hm, UnpackedFloat.round .binary32 .positive n 0 = .finite .positive m e hm ∧
      Normal .binary32 m e ∧ InRange .binary32 e ∧ 2 ^ 23 ≤ m ∧
      (n.log2 : Int) - 23 ≤ e ∧ e ≤ n.log2 - 22 := by
  obtain ⟨m, e, hm, hround, hnormal, he⟩ :=
    round_finite .binary32 .positive h0 (show Format.binary32.minExponent ≤ 0 by decide)
  have hl : n.log2 < 64 := (Nat.log2_lt h0.ne').2 (by simpa [wordLimit] using h)
  have ht := target_eq .binary32 n 0
  have h1 : (Format.binary32.mantissaBits : Int) = 24 := rfl
  have h2 : Format.binary32.minExponent = -149 := rfl
  have h3 : (Format.binary32.exponentBias : Int) = 127 := rfl
  have hr : InRange .binary32 e := by
    rw [InRange, h3]
    norm_num
    omega
  exact ⟨m, e, hm, hround, hnormal, hr, hnormal.2.2.resolve_right (by omega), by omega, by omega⟩

theorem ofCount_eq_round {n : Nat} (h0 : 0 < n) (h : n < wordLimit) :
    ofCount n = ofUnpacked (UnpackedFloat.round .binary32 .positive n 0) := by
  rw [ofCount_eq h, ofNat_eq_round _ h0]

theorem view_ofCount {n : Nat} (h0 : 0 < n) (h : n < wordLimit) :
    ∃ m e hm, (ofCount n).view = .finite .positive m e hm := by
  obtain ⟨m, e, hm, hround, hnormal, hrange, -⟩ := exists_ofCount h0 h
  refine ⟨m, e, hm, ?_⟩
  rw [ofCount_eq_round h0 h, hround, view_ofUnpacked_finite hnormal, if_pos hrange]

theorem ofCount_equal_zero {n : Nat} (h0 : 0 < n) (h : n < wordLimit) :
    (ofCount n).equal .zero = false := by
  obtain ⟨m, e, hm, hv⟩ := view_ofCount h0 h
  rw [equal_eq, hv, view_zero]
  rfl

theorem one_le_ofCount {n : Nat} (h0 : 0 < n) (h : n < wordLimit) :
    one.lessOrEqual (ofCount n) = true := by
  obtain ⟨m, e, hm, hround, hnormal, hrange, hlow, he, -⟩ := exists_ofCount h0 h
  have hone : one.view = .finite .positive (2 ^ 23) (-23) (by decide) := rfl
  rw [lessOrEqual_eq, hone, ofCount_eq_round h0 h, hround, view_ofUnpacked_finite hnormal,
    if_pos hrange]
  show ((compare (-23) e).then (compare (2 ^ 23) m)).isLE = true
  rcases (show (-23 : Int) ≤ e by omega).lt_or_eq with hlt | heq
  · rw [Int.compare_eq_lt.2 hlt]
    rfl
  · rw [heq, Int.compare_eq_eq.2 rfl]
    exact Nat.isLE_compare.2 hlow

theorem equal_zero_of_one_le {x : Binary32} (h : one.lessOrEqual x = true) :
    x.equal .zero = false := by
  have hone : one.view = .finite .positive (2 ^ 23) (-23) (by decide) := rfl
  rw [lessOrEqual_eq, hone] at h
  rw [equal_eq, view_zero]
  cases hv : x.view with
  | zero s =>
    rw [hv] at h
    cases h
  | notANumber => rfl
  | infinity s => cases s <;> rfl
  | finite s m e hm => cases s <;> rfl

/-! ## Maxima -/

theorem less_negInfinity (x : Binary32) : x.less negInfinity = false := by
  rw [less_eq, view_negInfinity]
  cases x.view with
  | infinity s => cases s <;> rfl
  | finite s m e hm => cases s <;> rfl
  | zero s => cases s <;> rfl
  | notANumber => rfl

theorem eq_negInfinity {x : Binary32} (hl : negInfinity.less x = false) (hn : x.isNaN = false) :
    x = negInfinity := by
  rw [isNaN_eq] at hn
  rw [less_eq, view_negInfinity] at hl
  have hview : x.view = .infinity .negative := by
    cases hv : x.view with
    | infinity s =>
      cases s with
      | negative => rfl
      | positive =>
        rw [hv] at hl
        cases hl
    | notANumber =>
      rw [hv] at hn
      cases hn
    | zero s =>
      rw [hv] at hl
      cases hl
    | finite s m e hm =>
      rw [hv] at hl
      cases hl
  rw [← ofUnpacked_view hn, hview]
  rfl

end PoolCheck.Binary32
