import Mathlib.Data.Nat.Cast.Order.Ring
import Mathlib.Data.Prod.Lex
import Mathlib.Order.Compare
import PoolCheck.Proofs.Binary32.Arithmetic

/-!
# The order of single-precision words

Values that are not NaN are compared by their place in a linear order: first by sign and by whether
they are infinite, then by exponent, then by mantissa, the last two the other way round below zero.
The two zeros have one place.
-/

set_option autoImplicit false

namespace PoolCheck.Unpacked

open Float.Model (UnpackedFloat)
open Float.Model.UnpackedFloat

theorem compare_natCast (m n : Nat) : compare (m : Int) n = compare m n := by
  rw [← cmp_eq_compare, ← cmp_eq_compare]
  exact Nat.strictMono_cast.cmp_map_eq m n

theorem compare_neg (m n : Int) : compare (-m) (-n) = (compare m n).swap := by
  have hanti : StrictAnti fun k : Int => -k := fun _ _ h => Int.neg_lt_neg h
  rw [← Std.OrientedCmp.eq_swap, ← cmp_eq_compare, ← cmp_eq_compare]
  exact hanti.cmp_map_eq m n

/-- The place of a value among all of them. That of a NaN means nothing. -/
def rank : UnpackedFloat → Int ×ₗ Int ×ₗ Int
  | .infinity .negative => toLex (-2, toLex (0, 0))
  | .finite .negative m e _ => toLex (-1, toLex (-e, -m))
  | .zero _ | .notANumber => toLex (0, toLex (0, 0))
  | .finite .positive m e _ => toLex (1, toLex (e, m))
  | .infinity .positive => toLex (2, toLex (0, 0))

variable {u v : UnpackedFloat}

theorem compare_finite (s : Sign) {m m' : Nat} {e e' : Int} (hm : 0 < m) (hm' : 0 < m') :
    UnpackedFloat.compare (.finite s m e hm) (.finite s m' e' hm') =
      some (compare (rank (.finite s m e hm)) (rank (.finite s m' e' hm'))) := by
  cases s
  · simp only [UnpackedFloat.compare, rank, Prod.Lex.compare_def, compareLex, compareOn,
      ofLex_toLex, Std.ReflCmp.compare_self, compare_neg, compare_natCast, Ordering.swap_then,
      Ordering.eq_then]
  · simp only [UnpackedFloat.compare, rank, Prod.Lex.compare_def, compareLex, compareOn,
      ofLex_toLex, Std.ReflCmp.compare_self, compare_natCast, Ordering.eq_then]

theorem compare_eq (hu : u.isNaN = false) (hv : v.isNaN = false) :
    u.compare v = some (compare (rank u) (rank v)) := by
  cases u with
  | notANumber => cases hu
  | infinity s =>
    cases v with
    | notANumber => cases hv
    | infinity t => cases s <;> cases t <;> rfl
    | zero t => cases s <;> rfl
    | finite t m e hm => cases s <;> cases t <;> rfl
  | zero s =>
    cases v with
    | notANumber => cases hv
    | infinity t => cases t <;> rfl
    | zero t => rfl
    | finite t m e hm => cases t <;> rfl
  | finite s m e hm =>
    cases v with
    | notANumber => cases hv
    | infinity t => cases s <;> cases t <;> rfl
    | zero t => cases s <;> rfl
    | finite t m' e' hm' =>
      cases s <;> cases t
      · exact compare_finite .negative hm hm'
      · rfl
      · rfl
      · exact compare_finite .positive hm hm'

theorem lt_iff (hu : u.isNaN = false) (hv : v.isNaN = false) :
    u.lt v = true ↔ rank u < rank v := by
  rw [UnpackedFloat.lt, compare_eq hu hv, beq_iff_eq, Option.some.injEq, compare_lt_iff_lt]

theorem le_iff (hu : u.isNaN = false) (hv : v.isNaN = false) :
    u.le v = true ↔ rank u ≤ rank v := by
  rw [UnpackedFloat.le, compare_eq hu hv, Option.any_some, Ordering.isLE_iff_ne_gt,
    ← compare_le_iff_le]

theorem beq_iff (hu : u.isNaN = false) (hv : v.isNaN = false) :
    u.beq v = true ↔ rank u = rank v := by
  rw [UnpackedFloat.beq, compare_eq hu hv, beq_iff_eq, Option.some.injEq, compare_eq_iff_eq]

theorem isNaN_of_compare {o : Ordering} (h : u.compare v = some o) :
    u.isNaN = false ∧ v.isNaN = false := by
  cases u with
  | notANumber => cases v <;> cases h
  | _ =>
    cases v with
    | notANumber => cases h
    | _ => exact ⟨rfl, rfl⟩

theorem isNaN_of_lt (h : u.lt v = true) : u.isNaN = false ∧ v.isNaN = false :=
  isNaN_of_compare (beq_iff_eq.1 h)

theorem isNaN_of_le (h : u.le v = true) : u.isNaN = false ∧ v.isNaN = false := by
  obtain ⟨o, ho, -⟩ := (Option.any_eq_true _ _).1 h
  exact isNaN_of_compare ho

theorem isNaN_of_beq (h : u.beq v = true) : u.isNaN = false ∧ v.isNaN = false :=
  isNaN_of_compare (beq_iff_eq.1 h)

end PoolCheck.Unpacked

namespace PoolCheck.Binary32

variable {x y : Binary32}

/-- The place of a word that is not a NaN. -/
def rank (x : Binary32) : Int ×ₗ Int ×ₗ Int := Unpacked.rank x.view

theorem less_iff (hx : x.isNaN = false) (hy : y.isNaN = false) :
    x.less y = true ↔ x.rank < y.rank := by
  rw [isNaN_eq] at hx hy
  rw [less_eq, Unpacked.lt_iff hx hy]
  rfl

theorem lessOrEqual_iff (hx : x.isNaN = false) (hy : y.isNaN = false) :
    x.lessOrEqual y = true ↔ x.rank ≤ y.rank := by
  rw [isNaN_eq] at hx hy
  rw [lessOrEqual_eq, Unpacked.le_iff hx hy]
  rfl

theorem equal_symm (h : x.equal y = true) : y.equal x = true := by
  rw [equal_eq] at h ⊢
  obtain ⟨hx, hy⟩ := Unpacked.isNaN_of_beq h
  rw [Unpacked.beq_iff hx hy] at h
  exact (Unpacked.beq_iff hy hx).2 h.symm

theorem equal_comm (x y : Binary32) : x.equal y = y.equal x :=
  Bool.eq_iff_iff.2 ⟨equal_symm, equal_symm⟩

theorem isNaN_of_less (h : x.less y = true) : x.isNaN = false ∧ y.isNaN = false := by
  rw [less_eq] at h
  rw [isNaN_eq, isNaN_eq]
  exact Unpacked.isNaN_of_lt h

theorem isNaN_of_lessOrEqual (h : x.lessOrEqual y = true) : x.isNaN = false ∧ y.isNaN = false := by
  rw [lessOrEqual_eq] at h
  rw [isNaN_eq, isNaN_eq]
  exact Unpacked.isNaN_of_le h

theorem lessOrEqual_trans {z : Binary32} (h : x.lessOrEqual y = true)
    (h' : y.lessOrEqual z = true) : x.lessOrEqual z = true := by
  obtain ⟨hx, hy⟩ := isNaN_of_lessOrEqual h
  obtain ⟨-, hz⟩ := isNaN_of_lessOrEqual h'
  rw [lessOrEqual_iff hx hy] at h
  rw [lessOrEqual_iff hy hz] at h'
  exact (lessOrEqual_iff hx hz).2 (h.trans h')

end PoolCheck.Binary32
