import PoolCheck.Text

/-!
# Cutting and joining

Cutting text at a separator and joining the pieces are inverse to each other.
-/

set_option autoImplicit false

namespace PoolCheck.Text

variable {c : Char} {cs w : List Char}

theorem split_ne_nil (c : Char) (cs : List Char) : split c cs ≠ [] := by
  cases cs with
  | nil => simp [split]
  | cons d ds =>
    rw [split]
    split
    · simp
    · split <;> simp

theorem split_cons_of_ne {d : Char} (h : d ≠ c) (cs : List Char) :
    ∃ w ws, split c cs = w :: ws ∧ split c (d :: cs) = (d :: w) :: ws := by
  cases hs : split c cs with
  | nil => exact absurd hs (split_ne_nil c cs)
  | cons w ws => exact ⟨w, ws, rfl, by rw [split, if_neg h, hs]⟩

theorem split_of_not_mem (h : c ∉ cs) : split c cs = [cs] := by
  induction cs with
  | nil => rfl
  | cons d ds ih =>
    obtain ⟨hd, hds⟩ := not_or.1 (fun hm => h (List.mem_cons.2 hm))
    obtain ⟨w, ws, hs, he⟩ := split_cons_of_ne (Ne.symm hd) ds
    rw [ih hds] at hs
    cases hs
    exact he

theorem split_append (c : Char) (a b : List Char) :
    split c (a ++ c :: b) = split c a ++ split c b := by
  induction a with
  | nil => simp [split]
  | cons d ds ih =>
    rw [List.cons_append]
    by_cases hd : d = c
    · rw [split, if_pos hd, ih, split, if_pos hd, List.cons_append]
    · obtain ⟨w, ws, hs, he⟩ := split_cons_of_ne hd ds
      obtain ⟨v, vs, hs', he'⟩ := split_cons_of_ne hd (ds ++ c :: b)
      rw [ih, hs, List.cons_append] at hs'
      cases hs'
      rw [he, he', List.cons_append]

theorem not_mem_of_mem_split (h : w ∈ split c cs) : c ∉ w := by
  induction cs generalizing w with
  | nil =>
    rw [split, List.mem_singleton] at h
    simp [h]
  | cons d ds ih =>
    by_cases hd : d = c
    · rw [split, if_pos hd] at h
      rcases List.mem_cons.1 h with rfl | h
      · simp
      · exact ih h
    · obtain ⟨v, vs, hs, he⟩ := split_cons_of_ne hd ds
      rw [he] at h
      rw [hs] at ih
      rcases List.mem_cons.1 h with rfl | h
      · have hv := ih List.mem_cons_self
        simp [hv, Ne.symm hd]
      · exact ih (List.mem_cons_of_mem _ h)

theorem join_cons (s w : List Char) {ws : List (List Char)} (h : ws ≠ []) :
    join s (w :: ws) = w ++ s ++ join s ws := by
  cases ws with
  | nil => exact absurd rfl h
  | cons v vs => rfl

theorem join_append (s : List Char) {vs ws : List (List Char)} (hv : vs ≠ []) (hw : ws ≠ []) :
    join s (vs ++ ws) = join s vs ++ s ++ join s ws := by
  induction vs with
  | nil => exact absurd rfl hv
  | cons v vs ih =>
    rw [List.cons_append]
    by_cases hz : vs = []
    · subst hz
      rw [List.nil_append, join_cons s v hw]
      rfl
    · rw [join_cons s v (by simp [hz]), ih hz, join_cons s v hz]
      simp only [List.append_assoc]

theorem join_split (c : Char) (cs : List Char) : join [c] (split c cs) = cs := by
  induction cs with
  | nil => rfl
  | cons d ds ih =>
    by_cases hd : d = c
    · rw [split, if_pos hd, join_cons _ _ (split_ne_nil c ds), ih, hd]
      rfl
    · obtain ⟨w, ws, hs, he⟩ := split_cons_of_ne hd ds
      rw [hs] at ih
      rw [he, ← ih]
      cases ws <;> rfl

theorem split_join {ws : List (List Char)} (hne : ws ≠ []) (h : ∀ w ∈ ws, c ∉ w) :
    split c (join [c] ws) = ws := by
  induction ws with
  | nil => exact absurd rfl hne
  | cons w ws ih =>
    have hw := h w List.mem_cons_self
    by_cases hz : ws = []
    · subst hz
      exact split_of_not_mem hw
    · rw [join_cons _ _ hz, List.append_assoc, List.singleton_append, split_append,
        split_of_not_mem hw, ih hz (fun v hv => h v (List.mem_cons_of_mem _ hv))]
      rfl

end PoolCheck.Text
