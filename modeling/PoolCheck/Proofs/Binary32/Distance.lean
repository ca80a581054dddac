import PoolCheck.Proofs.Binary32.Nearness
import PoolCheck.Proofs.Binary32.Order
import PoolCheck.Proofs.Binary32.Unsigned

/-!
# Distances of words

The distance of two words is their difference without its sign. It is the same in both directions,
and it is a NaN only if one of them is, as long as they are not equal: two infinities of one sign
have no difference, but they are equal.
-/

set_option autoImplicit false

namespace PoolCheck.Unpacked

open Float.Model (Format UnpackedFloat)
open Float.Model.UnpackedFloat

variable {spec : Format} {u v : UnpackedFloat}

def unsign : UnpackedFloat → UnpackedFloat
  | .zero _ => .zero .positive
  | .finite _ m e hm => .finite .positive m e hm
  | .infinity _ => .infinity .positive
  | .notANumber => .notANumber

theorem unsigned_unsign (h : u.isNaN = false) : Unsigned (unsign u) := by
  cases u with
  | notANumber => cases h
  | _ => rfl

/-! ## Packing -/

theorem packComponents_and (s : Sign) (e : BitVec 8) (m : BitVec 23) :
    packComponents .binary32 s e m &&& 0x7fffffff#32 =
      packComponents .binary32 .positive e m := by
  have hmask : 0x7fffffff#32 = (0#1 ++ BitVec.allOnes 31 : BitVec 32) := by decide
  have hsplit : ∀ s : Sign, packComponents .binary32 s e m =
      (s.toBitVec ++ (e ++ m : BitVec 31) : BitVec 32) := fun _ => BitVec.append_assoc
  rw [hsplit, hsplit, hmask]
  refine BitVec.and_append.trans ?_
  rw [BitVec.and_zero, BitVec.and_allOnes]
  rfl

theorem pack_unsign (u : UnpackedFloat) :
    pack .binary32 u &&& 0x7fffffff#32 = pack .binary32 (unsign u) := by
  cases u with
  | notANumber => exact packComponents_and _ _ _
  | infinity s => exact packComponents_and _ _ _
  | zero s => exact packComponents_and _ _ _
  | finite s m e hm =>
    simp only [unsign, pack]
    split_ifs <;> exact packComponents_and _ _ _

/-! ## Differences -/

theorem unsign_round (spec : Format) (s : Sign) {m : Nat} (hm : 0 < m) (e : Int) :
    unsign (UnpackedFloat.round spec s m e) = UnpackedFloat.round spec .positive m e := by
  rw [round_placed spec s e hm, round_placed spec .positive e hm]
  unfold placed
  split_ifs <;> rfl

theorem unsign_normalize (spec : Format) (m e : Int) (s : Sign) :
    unsign (UnpackedFloat.normalize spec m e s) =
      if m = 0 then .zero .positive else UnpackedFloat.round spec .positive m.natAbs e := by
  rw [Binary32.normalize_eq]
  split_ifs with h1 h2 h2
  · omega
  · rw [unsign_round spec _ (by omega), show (-m).toNat = m.natAbs by omega]
  · rfl
  · rw [unsign_round spec _ (by omega), show m.toNat = m.natAbs by omega]

theorem unsign_sub_comm (spec : Format) (u v : UnpackedFloat) :
    unsign (sub spec u v) = unsign (sub spec v u) := by
  cases u with
  | notANumber => cases v <;> rfl
  | infinity s =>
    cases v with
    | infinity t => cases s <;> cases t <;> rfl
    | _ => rfl
  | zero s =>
    cases v with
    | zero t => cases s <;> cases t <;> rfl
    | _ => rfl
  | finite s m e hm =>
    cases v with
    | finite t m' e' hm' =>
      simp only [sub, unsign_normalize, min_comm e' e]
      generalize s.apply (decreaseExponent m e (min e e')).1 = a
      generalize t.apply (decreaseExponent m' e' (min e e')).1 = b
      simp only [show (b - a = 0) = (a - b = 0) from propext (by omega),
        show (b - a).natAbs = (a - b).natAbs by omega]
    | _ => rfl

theorem isNaN_normalize (spec : Format) (m e : Int) (s : Sign) :
    (UnpackedFloat.normalize spec m e s).isNaN = false := by
  simp only [Binary32.normalize_eq, UnpackedFloat.round, roundWithAccuracy]
  split_ifs <;> rfl

theorem isNaN_sub (h : u.beq v = false) : (sub spec u v).isNaN = (u.isNaN || v.isNaN) := by
  cases u with
  | notANumber => cases v <;> rfl
  | infinity s =>
    cases v with
    | infinity t => cases s <;> cases t <;> first | rfl | cases h
    | _ => rfl
  | zero s =>
    cases v with
    | zero t => cases h
    | _ => rfl
  | finite s m e hm =>
    cases v with
    | finite t m' e' hm' => exact isNaN_normalize _ _ _ _
    | _ => rfl

/-! ## Order -/

theorem Unsigned.rank_nonneg (hu : Unsigned u) : rank (.zero .positive) ≤ rank u := by
  cases u with
  | notANumber => exact hu.elim
  | zero s => exact le_rfl
  | infinity s =>
    cases hu
    exact Prod.Lex.le_iff.2 (.inl (by simp [rank]))
  | finite s m e hm =>
    cases hu
    exact Prod.Lex.le_iff.2 (.inl (by simp [rank]))

theorem Unsigned.rank_le_infinity (hu : Unsigned u) :
    rank u ≤ rank (.infinity .positive) := by
  cases u with
  | notANumber => exact hu.elim
  | infinity s =>
    cases hu
    exact le_rfl
  | zero s => exact Prod.Lex.le_iff.2 (.inl (by simp [rank]))
  | finite s m e hm =>
    cases hu
    exact Prod.Lex.le_iff.2 (.inl (by simp [rank]))

theorem Unsigned.eq_of_rank (hu : Unsigned u) (hv : Unsigned v) (h : rank u = rank v) : u = v := by
  cases u with
  | notANumber => exact hu.elim
  | finite s m e hm =>
    cases hu
    cases v with
    | notANumber => exact hv.elim
    | finite t m' e' hm' =>
      cases hv
      simp only [rank, EmbeddingLike.apply_eq_iff_eq, Prod.mk.injEq, true_and, Nat.cast_inj] at h
      simp [h]
    | _ =>
      cases hv
      simp [rank] at h
  | _ =>
    cases hu
    cases v with
    | notANumber => exact hv.elim
    | _ =>
      cases hv
      simp [rank] at h ⊢

end PoolCheck.Unpacked

namespace PoolCheck.Binary32

open Float.Model (UnpackedFloat)
open Float.Model.UnpackedFloat Unpacked

variable {x y : Binary32}

theorem abs_ofUnpacked (u : UnpackedFloat) : (ofUnpacked u).abs = ofUnpacked (unsign u) := by
  have h : (ofUnpacked u).bits &&& 0x7fffffff = (ofUnpacked (unsign u)).bits :=
    UInt32.toBitVec_inj.1 (pack_unsign u)
  rw [abs, h]

def distance (x y : Binary32) : Binary32 := (x - y).abs

theorem distance_eq (x y : Binary32) :
    distance x y = ofUnpacked (unsign (sub .binary32 x.view y.view)) := by
  rw [distance, sub_eq, abs_ofUnpacked]

theorem distance_comm (x y : Binary32) : distance x y = distance y x := by
  rw [distance_eq, distance_eq, unsign_sub_comm]

theorem Unsigned.isNaN (h : Unsigned x) : x.isNaN = false := by
  rw [isNaN_eq]
  rw [Unsigned] at h
  cases hx : x.view with
  | notANumber =>
    rw [hx] at h
    exact h.elim
  | _ => rfl

theorem unsigned_abs (h : x.isNaN = false) : Unsigned x.abs := by
  rw [isNaN_eq] at h
  rw [← ofUnpacked_view h, abs_ofUnpacked]
  exact Unsigned.ofUnpacked (unsigned_unsign h)

theorem unsigned_distance (h : x.equal y = false) (hx : x.isNaN = false) (hy : y.isNaN = false) :
    Unsigned (distance x y) := by
  rw [equal_eq] at h
  rw [isNaN_eq] at hx hy
  rw [distance_eq]
  apply Unsigned.ofUnpacked
  apply unsigned_unsign
  rw [isNaN_sub h, hx, hy]
  rfl

theorem isNaN_distance (h : x.equal y = false) :
    (distance x y).isNaN = (x.isNaN || y.isNaN) := by
  cases hn : x.isNaN || y.isNaN with
  | true =>
    rw [equal_eq] at h
    rw [isNaN_eq, isNaN_eq, ← isNaN_sub h] at hn
    rw [distance_eq]
    cases hs : sub .binary32 x.view y.view with
    | notANumber => rfl
    | _ =>
      rw [hs] at hn
      cases hn
  | false =>
    obtain ⟨hx, hy⟩ := Bool.or_eq_false_iff.1 hn
    exact (unsigned_distance h hx hy).isNaN

/-! ## Order -/

theorem Unsigned.eq_of_rank (hx : Unsigned x) (hy : Unsigned y) (h : x.rank = y.rank) : x = y := by
  have hview : x.view = y.view := Unpacked.Unsigned.eq_of_rank hx hy h
  have hnx := hx.isNaN
  have hny := hy.isNaN
  rw [isNaN_eq] at hnx hny
  rw [← ofUnpacked_view hnx, ← ofUnpacked_view hny, hview]

theorem Unsigned.zero_le (hx : Unsigned x) : Binary32.zero.rank ≤ x.rank :=
  Unpacked.Unsigned.rank_nonneg hx

end PoolCheck.Binary32
