import Mathlib.Algebra.Order.Ring.Nat
import PoolCheck.Json.Lexer

/-!
# Literals read back

A literal without superfluous digits is cut into the same parts when its text is read.
-/

set_option autoImplicit false

namespace PoolCheck

/-! ## Digits -/

theorem isDigit_of_mem_toDigits {n : Nat} {c : Char} (h : c ∈ Nat.toDigits 10 n) :
    c.isDigit = true :=
  Nat.isDigit_of_mem_toDigits (by decide) (by decide) h

theorem exists_digitChar {c : Char} (h : c.isDigit = true) : ∃ k < 10, c = Nat.digitChar k := by
  obtain ⟨hl, hu⟩ : 48 ≤ c.toNat ∧ c.toNat ≤ 57 := Char.isDigit_iff_toNat.1 h
  have hlt : c.toNat - 48 < 10 := by omega
  refine ⟨c.toNat - 48, hlt, Char.toNat_inj.1 ?_⟩
  rw [Nat.toNat_digitChar_of_lt_ten hlt]
  omega

theorem eq_zero_of_head_toDigits {n : Nat} (h : (Nat.toDigits 10 n).head? = some '0') : n = 0 := by
  induction n using Nat.strongRecOn with
  | ind n ih =>
    by_cases hn : n < 10
    · rw [Nat.toDigits_of_lt_base hn, List.head?_cons, Option.some.injEq] at h
      exact Nat.digitChar_eq_zero.1 h
    · rw [Nat.toDigits_of_base_le (by decide) (Nat.le_of_not_lt hn), List.head?_append,
        Option.or_eq_some_iff, List.head?_eq_none_iff] at h
      rcases h with h | ⟨h, -⟩
      · have := ih (n / 10) (by omega) h
        omega
      · exact absurd h Nat.toDigits_ne_nil

section Span

variable {ds rest : List Char} (hd : ∀ c ∈ ds, c.isDigit = true)
  (hr : ∀ c, rest.head? = some c → c.isDigit = false)

include hd hr

theorem takeWhile_isDigit : (ds ++ rest).takeWhile Char.isDigit = ds := by
  have hrest : rest.takeWhile Char.isDigit = [] := by
    cases rest with
    | nil => rfl
    | cons c cs => rw [List.takeWhile_cons_of_neg (by simp [hr c rfl])]
  rw [List.takeWhile_append_of_pos hd, hrest, List.append_nil]

theorem dropWhile_isDigit : (ds ++ rest).dropWhile Char.isDigit = rest := by
  have h := List.takeWhile_append_dropWhile (p := Char.isDigit) (l := ds ++ rest)
  rw [takeWhile_isDigit hd hr] at h
  exact List.append_cancel_left h

end Span

/-! ## Literals -/

namespace Literal

/-- A literal as it is printed: digits before the point, and no zero before other digits. -/
structure Plain (l : Literal) : Prop where
  whole_digits : ∀ c ∈ l.whole, c.isDigit = true
  fraction_digits : ∀ c ∈ l.fraction, c.isDigit = true
  nonempty : l.whole ≠ []
  no_zero : l.whole.head? = some '0' → l.whole = ['0']

theorem plain_ofNat (n : Nat) : (ofNat n).Plain where
  whole_digits := fun _ => isDigit_of_mem_toDigits
  fraction_digits := by simp [ofNat]
  nonempty := Nat.toDigits_ne_nil
  no_zero := by
    intro h
    show Nat.toDigits 10 n = ['0']
    rw [eq_zero_of_head_toDigits h, Nat.toDigits_zero]

def exponentText (exponent : Option Int) : List Char :=
  match exponent with
  | none => []
  | some e => 'e' :: ((if 0 ≤ e then ['+'] else []) ++ integerText e)

theorem exponent?_cons {body : List Char} {negative : Bool} {n : Nat}
    (hn : decide (body.head? = some '-') = negative)
    (hb : (if body.head? = some '-' ∨ body.head? = some '+' then body.tail else body) =
      Nat.toDigits 10 n) :
    Json.exponent? ('e' :: body) = some (some (if negative then -(n : Int) else n)) := by
  have hdigits : ¬(Nat.toDigits 10 n = [] ∨ (!(Nat.toDigits 10 n).all Char.isDigit) = true) := by
    rw [List.all_eq_true.2 fun _ => isDigit_of_mem_toDigits]
    simp [Nat.toDigits_ne_nil]
  unfold Json.exponent?
  simp only [true_or, if_true, hn, hb]
  rw [if_neg hdigits, Nat.ofDigitChars_ten_toDigits]

theorem exponent?_exponentText (e : Option Int) :
    Json.exponent? (exponentText e) = some e := by
  cases e with
  | none => rfl
  | some e =>
    unfold exponentText integerText
    by_cases he : 0 ≤ e
    · simp only [if_pos he, if_neg (Int.not_lt.2 he)]
      rw [List.singleton_append, exponent?_cons (n := e.natAbs) rfl rfl]
      simp [Int.natAbs_of_nonneg he]
    · simp only [if_neg he, if_pos (Int.not_le.1 he)]
      rw [List.nil_append, exponent?_cons (n := e.natAbs) rfl rfl]
      have habs : (e.natAbs : Int) = -e := by omega
      simp [habs]

def fractionText (ds : List Char) : List Char := if ds = [] then [] else '.' :: ds

theorem chars_eq (l : Literal) : l.chars true =
    (if l.negative then ['-'] else []) ++
      (l.whole ++ (fractionText l.fraction ++ exponentText l.exponent)) := by
  unfold chars exponentText fractionText
  cases l.exponent <;> simp

theorem head_exponentText (e : Option Int) {c : Char} (h : (exponentText e).head? = some c) :
    c = 'e' := by
  cases e with
  | none => cases h
  | some e =>
    cases h
    rfl

theorem head_fractionText (ds : List Char) (e : Option Int) {c : Char}
    (h : (fractionText ds ++ exponentText e).head? = some c) : c.isDigit = false := by
  unfold fractionText at h
  split_ifs at h
  · rw [head_exponentText e h]
    decide
  · cases h
    decide

theorem unsigned?_text {l : Literal} (hl : l.Plain) :
    Json.unsigned? l.negative
      (l.whole ++ (fractionText l.fraction ++ exponentText l.exponent)) = some l := by
  obtain ⟨negative, whole, fraction, exponent⟩ := l
  obtain ⟨hw, hf, hne, hz⟩ := hl
  simp only at hw hf hne hz ⊢
  have hplain : ¬(whole = [] ∨ whole.head? = some '0' ∧ whole ≠ ['0']) := by
    rintro (h | ⟨h, h'⟩)
    · exact hne h
    · exact h' (hz h)
  have hmark := fun c => @head_fractionText fraction exponent c
  unfold Json.unsigned?
  simp only [takeWhile_isDigit hw hmark, dropWhile_isDigit hw hmark, if_neg hplain]
  rw [fractionText]
  by_cases hzero : fraction = []
  · subst hzero
    rw [if_pos rfl, List.nil_append]
    split
    case h_1 rest hr =>
      exact absurd (head_exponentText exponent (c := '.') (by rw [hr]; rfl)) (by decide)
    case h_2 =>
      rw [exponent?_exponentText]
      rfl
  · have hmark : ∀ c, (exponentText exponent).head? = some c → c.isDigit = false := by
      intro c hc
      rw [head_exponentText exponent hc]
      decide
    rw [if_neg hzero, List.cons_append]
    simp only [takeWhile_isDigit hf hmark, dropWhile_isDigit hf hmark, if_neg hzero,
      exponent?_exponentText]
    rfl

theorem literal?_chars {l : Literal} (hl : l.Plain) : Json.literal? (l.chars true) = some l := by
  have h := unsigned?_text hl
  rw [chars_eq]
  cases hn : l.negative
  · rw [hn] at h
    simp only [Bool.false_eq_true, if_false, List.nil_append]
    unfold Json.literal?
    split
    case h_1 cs hcs =>
      cases hw : l.whole with
      | nil => exact absurd hw hl.nonempty
      | cons d ds =>
        rw [hw, List.cons_append, List.cons.injEq] at hcs
        have hd := hl.whole_digits d (by rw [hw]; exact List.mem_cons_self)
        rw [hcs.1] at hd
        exact absurd hd (by decide)
    case h_2 => exact h
  · rw [hn] at h
    exact h

end Literal

end PoolCheck
