import PoolCheck.Proofs.Binary32.Distance

/-!
# Products keep the order

A larger number is never rounded to a smaller value. At one exponent the nearest quotients are in
order, and at a larger exponent the mantissa keeps its leading bit, which is as much as a smaller
exponent allows. So the products of a positive number are in the order of the other factors, also
where they are too large and become infinite.
-/

set_option autoImplicit false

namespace PoolCheck.Unpacked

open Float.Model (Format UnpackedFloat)
open Float.Model.UnpackedFloat

/-! ## Rounding -/

theorem nearest_mono {m m' : Nat} (h : m ≤ m') (n : Nat) : nearest m n ≤ nearest m' n := by
  have hq : m / 2 ^ n ≤ m' / 2 ^ n := Nat.div_le_div_right h
  rcases hq.lt_or_eq with hlt | heq
  · calc
      nearest m n ≤ m / 2 ^ n + 1 := nearest_le m n
      _ ≤ m' / 2 ^ n := hlt
      _ ≤ nearest m' n := div_le_nearest m' n
  · have hm := Nat.div_add_mod m (2 ^ n)
    have hm' := Nat.div_add_mod m' (2 ^ n)
    rw [heq] at hm
    unfold nearest
    rw [heq]
    split_ifs <;> omega

variable {spec : Format} {m m' r r' : Nat} {e e' t t' : Int}

theorem rank_finite_le {hm : 0 < m} {hm' : 0 < m'} :
    rank (.finite .positive m e hm) ≤ rank (.finite .positive m' e' hm') ↔
      e < e' ∨ e = e' ∧ m ≤ m' := by
  simp [rank, Prod.Lex.toLex_le_toLex]

theorem unsigned_placed (spec : Format) (r : Nat) (t : Int) :
    Unsigned (placed spec .positive r t) := by
  unfold placed
  split_ifs <;> rfl

/-- At one exponent the order is that of the mantissas, and a mantissa with its leading bit stands
above all at a smaller exponent. -/
theorem rank_placed_le (h : t = t' ∧ r ≤ r' ∧ r' ≤ 2 ^ spec.mantissaBits ∨
    t < t' ∧ 2 ^ spec.mantissaBitsWithoutImplicit ≤ r') :
    rank (placed spec .positive r t) ≤ rank (placed spec .positive r' t') := by
  have hpos := Nat.two_pow_pos spec.mantissaBitsWithoutImplicit
  have hnonneg := (unsigned_placed spec r' t').rank_nonneg
  unfold placed at hnonneg ⊢
  split_ifs at hnonneg ⊢ <;> first | exact hnonneg | rw [rank_finite_le]; omega | omega

theorem target_mono (spec : Format) (e : Int) (hm : 0 < m) (h : m ≤ m') :
    target spec m e ≤ target spec m' e := by
  have hlog : m.log2 ≤ m'.log2 := by
    rw [Nat.le_log2 (by omega)]
    exact (Nat.log2_self_le hm.ne').trans h
  rw [target_eq, target_eq]
  omega

theorem rank_round_mono (hm : 0 < m) (h : m ≤ m') (he : e ≤ spec.minExponent) :
    rank (UnpackedFloat.round spec .positive m e) ≤
      rank (UnpackedFloat.round spec .positive m' e) := by
  have hm' : 0 < m' := hm.trans_le h
  have hmin := minExponent_le_target spec m e
  have hle := target_mono spec e hm h
  have hround : ∀ {n : Nat}, 0 < n → UnpackedFloat.round spec .positive n e =
      placed spec .positive (nearest n (target spec n e - e).toNat) (target spec n e) := by
    intro n hn
    have := minExponent_le_target spec n e
    rw [round_placed spec _ _ hn, show (e - target spec n e).toNat = 0 by omega, Nat.pow_zero,
      Nat.mul_one]
  rw [hround hm, hround hm']
  rcases hle.lt_or_eq with hlt | heq
  · exact rank_placed_le (.inr ⟨hlt, pow_le_nearest hm' (by omega) (by omega)⟩)
  · have hpow := nearest_le_pow spec e hm'
    rw [heq]
    exact rank_placed_le (.inl ⟨rfl, nearest_mono h _, hpow⟩)

/-- Rounding keeps the order of numbers, however they are split into mantissa and exponent. -/
theorem rank_round_le (hm : 0 < m) (hm' : 0 < m') {d : Nat} (h : m ≤ m' * 2 ^ d) :
    rank (UnpackedFloat.round spec .positive m e) ≤
      rank (UnpackedFloat.round spec .positive m' (e + d)) := by
  -- both are brought to an exponent that need not be lowered any more
  have hlow : e - (e - spec.minExponent).toNat ≤ spec.minExponent := by omega
  generalize (e - spec.minExponent).toNat = k at hlow
  rw [← round_shift spec .positive e hm k, ← round_shift spec .positive (e + d) hm' (d + k),
    show e + d - (d + k : Nat) = e - k by omega, Nat.pow_add, ← Nat.mul_assoc]
  exact rank_round_mono (Nat.mul_pos hm (Nat.two_pow_pos k)) (Nat.mul_le_mul_right _ h) hlow

/-! ## Products -/

theorem exists_shift {hm : 0 < m} {hm' : 0 < m'} (hn : Normal spec m e) (hn' : Normal spec m' e')
    (h : rank (.finite .positive m e hm) ≤ rank (.finite .positive m' e' hm')) :
    ∃ d : Nat, e' = e + d ∧ m ≤ m' * 2 ^ d := by
  obtain ⟨hmin, hlt, -⟩ := hn
  obtain ⟨-, -, hfull⟩ := hn'
  rcases rank_finite_le.1 h with he | ⟨rfl, hle⟩
  · have hd : 2 ≤ 2 ^ (e' - e).toNat := Nat.le_self_pow (by omega) 2
    have hp : 2 ^ spec.mantissaBits = 2 ^ spec.mantissaBitsWithoutImplicit * 2 := by
      rw [Format.mantissaBits, Nat.add_comm, Nat.pow_succ]
    refine ⟨(e' - e).toNat, by omega, ?_⟩
    calc
      m ≤ 2 ^ spec.mantissaBitsWithoutImplicit * 2 := by omega
      _ ≤ m' * 2 ^ (e' - e).toNat := Nat.mul_le_mul (hfull.resolve_right (by omega)) hd
  · exact ⟨0, by simp, by simpa⟩

theorem mul_finite (hmin : spec.minExponent ≤ 0) (s s' : Sign) (hm : 0 < m) (hm' : 0 < m')
    (hn : Normal spec m e) (hn' : Normal spec m' e') :
    mul spec (.finite s m e hm) (.finite s' m' e' hm') =
      UnpackedFloat.round spec (s * s') (m * m') (e + e') := by
  have hpos := Nat.mul_pos hm hm'
  have ht := target_eq spec (m * m') (e + e')
  have hp : spec.mantissaBits = 1 + spec.mantissaBitsWithoutImplicit := rfl
  apply roundWithAccuracy_eq_round hpos
  obtain ⟨-, -, hfull⟩ := hn
  obtain ⟨-, -, hfull'⟩ := hn'
  by_cases h : 2 ^ spec.mantissaBitsWithoutImplicit ≤ m * m'
  · rw [← Nat.le_log2 hpos.ne'] at h
    omega
  · have he : e = spec.minExponent :=
      hfull.resolve_left fun hle => h (hle.trans (Nat.le_mul_of_pos_right m hm'))
    have he' : e' = spec.minExponent :=
      hfull'.resolve_left fun hle => h (hle.trans (Nat.le_mul_of_pos_left m' hm))
    omega

theorem rounded_round (s : Sign) (hm : 0 < m) : Rounded spec (UnpackedFloat.round spec s m e) := by
  obtain ⟨hround, htarget⟩ := round_eq spec s e hm
  rw [hround]
  exact rounded_roundWithAccuracy (Nat.mul_pos hm (Nat.two_pow_pos _)) (by omega)

theorem rounded_mul {s s' : Sign} {hm : 0 < m} {hm' : 0 < m'} (hmin : spec.minExponent ≤ 0)
    (hn : Normal spec m e) (hn' : Normal spec m' e') :
    Rounded spec (mul spec (.finite s m e hm) (.finite s' m' e' hm')) := by
  rw [mul_finite hmin s s' hm hm' hn hn']
  exact rounded_round _ (Nat.mul_pos hm hm')

theorem rank_mul_le {k : Nat} {f : Int} (hmin : spec.minExponent ≤ 0) (hk : 0 < k) {hm : 0 < m}
    {hm' : 0 < m'} (hw : Normal spec k f) (hn : Normal spec m e) (hn' : Normal spec m' e')
    (h : rank (.finite .positive m e hm) ≤ rank (.finite .positive m' e' hm')) :
    rank (mul spec (.finite .positive k f hk) (.finite .positive m e hm)) ≤
      rank (mul spec (.finite .positive k f hk) (.finite .positive m' e' hm')) := by
  obtain ⟨d, rfl, hle⟩ := exists_shift hn hn' h
  rw [mul_finite hmin _ _ hk hm hw hn, mul_finite hmin _ _ hk hm' hw hn', ← Int.add_assoc]
  apply rank_round_le (Nat.mul_pos hk hm) (Nat.mul_pos hk hm')
  rw [Nat.mul_assoc]
  exact Nat.mul_le_mul_left k hle

theorem held_of_rank_le {u : UnpackedFloat} {hm : 0 < m} (hr : InRange spec e)
    (hu : Rounded spec u) (hu' : Unsigned u) (h : rank u ≤ rank (.finite .positive m e hm)) :
    Held spec u := by
  cases u with
  | finite s m' e' hm' =>
    cases hu'
    refine ⟨hu, ?_⟩
    have he := rank_finite_le.1 h
    unfold InRange at hr ⊢
    omega
  | _ => trivial

theorem cases_of_nonneg {u : UnpackedFloat} (hn : u.isNaN = false)
    (h : rank (.zero .positive) ≤ rank u) :
    (∃ s, u = .zero s) ∨ (∃ m e hm, u = .finite .positive m e hm) ∨ u = .infinity .positive := by
  cases u with
  | notANumber => cases hn
  | zero s => exact .inl ⟨s, rfl⟩
  | infinity s =>
    cases s with
    | negative => simp [rank, Prod.Lex.toLex_le_toLex] at h
    | positive => exact .inr (.inr rfl)
  | finite s m e hm =>
    cases s with
    | negative => simp [rank, Prod.Lex.toLex_le_toLex] at h
    | positive => exact .inr (.inl ⟨m, e, hm, rfl⟩)

end PoolCheck.Unpacked

namespace PoolCheck.Binary32

open Float.Model (UnpackedFloat)
open Float.Model.UnpackedFloat Unpacked

variable {w x y : Binary32} {u v : UnpackedFloat}

theorem rank_ofUnpacked_le (hu : Rounded .binary32 u) (hv : Rounded .binary32 v)
    (hu' : Unpacked.Unsigned u) (hv' : Unpacked.Unsigned v)
    (h : Unpacked.rank u ≤ Unpacked.rank v) : (ofUnpacked u).rank ≤ (ofUnpacked v).rank := by
  have htop := (Unsigned.ofUnpacked hu').rank_le_infinity
  cases v with
  | notANumber => exact hv'.elim
  | infinity s =>
    cases hv'
    exact htop
  | zero s =>
    have hs : s = .positive := hv'
    subst hs
    rw [Unpacked.Unsigned.eq_of_rank hu' hv' (le_antisymm h hu'.rank_nonneg)]
  | finite s m e hm =>
    cases hv'
    unfold rank
    rw [view_ofUnpacked_finite hv]
    split_ifs with hr
    · rw [view_ofUnpacked (held_of_rank_le hr hu hu' h)]
      exact h
    · exact htop

section

variable {k : Nat} {f : Int} {hk : 0 < k}

theorem view_mul_zero {s : Sign} (hw : w.view = .finite .positive k f hk) (hx : x.view = .zero s) :
    (w * x).view = .zero (.positive * s) := by
  rw [mul_eq, hw, hx]
  exact view_ofUnpacked trivial

theorem unsigned_mul (hw : w.view = .finite .positive k f hk)
    (hx : (∃ m e hm, x.view = .finite .positive m e hm) ∨ x.view = .infinity .positive) :
    Unsigned (w * x) := by
  rw [mul_eq, hw]
  apply Unsigned.ofUnpacked
  rcases hx with ⟨m, e, hm, hx⟩ | hx
  · rw [hx]
    exact unsigned_roundWithAccuracy _ _ _
  · rw [hx]
    rfl

theorem mul_nonneg (hw : w.view = .finite .positive k f hk) (h : zero.lessOrEqual x = true) :
    zero.lessOrEqual (w * x) = true := by
  obtain ⟨-, hn⟩ := isNaN_of_lessOrEqual h
  rw [lessOrEqual_iff rfl hn] at h
  rw [isNaN_eq] at hn
  rcases cases_of_nonneg hn h with ⟨s, hx⟩ | hx
  · have hview := view_mul_zero hw hx
    rw [lessOrEqual_iff rfl (by rw [isNaN_eq, hview]; rfl), rank, rank, hview]
    exact le_rfl
  · have hu := unsigned_mul hw hx
    rw [lessOrEqual_iff rfl hu.isNaN]
    exact hu.zero_le

theorem rank_mul_finite {m m' : Nat} {e e' : Int} {hm : 0 < m} {hm' : 0 < m'}
    (hw : w.view = .finite .positive k f hk) (hx : x.view = .finite .positive m e hm)
    (hy : y.view = .finite .positive m' e' hm') (h : x.rank ≤ y.rank) :
    (w * x).rank ≤ (w * y).rank := by
  have hheld := w.held_view
  have hheldx := x.held_view
  have hheldy := y.held_view
  rw [hw] at hheld
  rw [hx] at hheldx
  rw [hy] at hheldy
  rw [rank, rank, hx, hy] at h
  rw [mul_eq, mul_eq, hw, hx, hy]
  apply rank_ofUnpacked_le
  · exact rounded_mul (by decide) hheld.1 hheldx.1
  · exact rounded_mul (by decide) hheld.1 hheldy.1
  · exact unsigned_roundWithAccuracy _ _ _
  · exact unsigned_roundWithAccuracy _ _ _
  · exact rank_mul_le (by decide) hk hheld.1 hheldx.1 hheldy.1 h

theorem mul_lessOrEqual (hw : w.view = .finite .positive k f hk)
    (h0 : zero.lessOrEqual x = true) (h : x.lessOrEqual y = true) :
    (w * x).lessOrEqual (w * y) = true := by
  have hwx := mul_nonneg hw h0
  have hwy := mul_nonneg hw (lessOrEqual_trans h0 h)
  obtain ⟨-, hnwx⟩ := isNaN_of_lessOrEqual hwx
  obtain ⟨-, hnwy⟩ := isNaN_of_lessOrEqual hwy
  obtain ⟨hnx, hny⟩ := isNaN_of_lessOrEqual h
  rw [lessOrEqual_iff rfl hnx] at h0
  rw [lessOrEqual_iff rfl hnwy] at hwy
  rw [lessOrEqual_iff hnx hny] at h
  rw [lessOrEqual_iff hnwx hnwy]
  rw [isNaN_eq] at hnx hny
  rcases cases_of_nonneg hnx h0 with ⟨s, hx⟩ | hx
  · rw [rank, view_mul_zero hw hx]
    exact hwy
  rcases cases_of_nonneg hny (h0.trans h) with ⟨s, hy⟩ | ⟨m', e', hm', hy⟩ | hy
  · -- nothing above zero is below a zero
    rw [rank, rank, hy] at h
    rcases hx with ⟨m, e, hm, hx⟩ | hx <;> simp [hx, Unpacked.rank, Prod.Lex.toLex_le_toLex] at h
  · rcases hx with ⟨m, e, hm, hx⟩ | hx
    · exact rank_mul_finite hw hx hy h
    · simp [rank, hx, hy, Unpacked.rank, Prod.Lex.toLex_le_toLex] at h
  · have hinfinity : (w * y).view = .infinity .positive := by
      rw [mul_eq, hw, hy]
      exact view_ofUnpacked trivial
    rw [rank, rank, hinfinity]
    exact (unsigned_mul hw hx).rank_le_infinity

end

end PoolCheck.Binary32
