import PoolCheck.Proofs.Sequence

/-!
# What is decoded fits

A decoder of numbers gives none that its machine type does not hold. So the numbers of a graph that
is read from a text fit their types, whatever the text is.
-/

set_option autoImplicit false

namespace PoolCheck

/-- All that a decoder gives has a property. -/
def Decoder.Gives {α : Type} (d : Decoder α) (P : α → Prop) : Prop := ∀ v x, d v = .ok x → P x

section Gives

variable {α σ : Type} {d : Decoder α} {P : α → Prop} {m : Members} {name : String} {x : α}

namespace Decoder

theorem gives_nat (limit : Nat) : (nat limit).Gives (· < limit) := by
  intro v n h
  unfold nat at h
  split at h
  · split at h
    · split_ifs at h with hlt
      cases h
      exact hlt
    · cases h
  · cases h

theorem Gives.items (hd : d.Gives P) {vs : List Json} {xs : List α} (h : items d vs = .ok xs) :
    ∀ x ∈ xs, P x := by
  induction vs generalizing xs with
  | nil =>
    cases h
    simp
  | cons v rest ih =>
    simp only [Decoder.items, Except.bind_eq_ok, Except.pure_eq_ok] at h
    obtain ⟨x, hx, others, ho, rfl⟩ := h
    exact List.forall_mem_cons.2 ⟨hd v x hx, ih ho⟩

theorem Gives.list (hd : d.Gives P) : (list d).Gives fun xs => ∀ x ∈ xs, P x := by
  intro v xs h
  unfold Decoder.list at h
  split at h
  · obtain ⟨ys, hy, h⟩ := Except.bind_eq_ok.1 h
    split_ifs at h
    cases h
    exact hd.items hy
  · cases h

theorem gives_shape : shape.Gives fun s => ∀ d ∈ s, d < wordLimit := (gives_nat wordLimit).list

end Decoder

namespace Members

theorem required_gives (hd : d.Gives P) (h : m.required name d = .ok x) : P x := by
  obtain ⟨v, -, h⟩ := Except.bind_eq_ok.1 h
  cases v with
  | none => cases h
  | some v => exact hd v x h

theorem optional_gives {o : Option α} (hd : d.Gives P)
    (h : m.withDefault name none (Decoder.optional d) = .ok o) : ∀ x, o = some x → P x := by
  obtain ⟨v, -, h⟩ := Except.bind_eq_ok.1 h
  cases v with
  | none =>
    cases h
    nofun
  | some v =>
    rintro x rfl
    exact hd v x (Decoder.of_optional h)

theorem fold_keeps {I : σ → Prop} {names seen : List String}
    {set : σ → String → Json → Except ReadFault σ}
    (hset : ∀ s name v s', I s → set s name v = .ok s' → I s') {s s' : σ}
    {ms : List (String × Json)} (hs : I s) (h : fold names set seen s ms = .ok s') : I s' := by
  induction ms generalizing seen s with
  | nil =>
    cases h
    exact hs
  | cons m rest ih =>
    obtain ⟨name, v⟩ := m
    rw [fold] at h
    split_ifs at h
    obtain ⟨mid, hm, h⟩ := Except.bind_eq_ok.1 h
    exact ih (hset s name v mid hs hm) h

end Members

end Gives

/-! ## Operators -/

theorem Pair.ofJson_gives : Decoder.Gives ofJson IsWords := by
  have hword := Decoder.gives_nat wordLimit
  intro v p h
  unfold ofJson at h
  split at h
  · simp only [Except.bind_eq_ok, Except.pure_eq_ok] at h
    obtain ⟨h', hh, w, hw, rfl⟩ := h
    exact ⟨hword _ _ hh, hword _ _ hw⟩
  · cases hk : Decoder.word v with
    | error e =>
      rw [hk] at h
      cases h
    | ok k =>
      rw [hk] at h
      cases h
      exact ⟨hword _ _ hk, hword _ _ hk⟩

theorem Geometry.words_of_ofMembers {m : Members} {g : Geometry} (h : ofMembers m = .ok g) :
    g.kernel.IsWords ∧ g.stride.IsWords ∧ g.padding.IsWords := by
  simp only [ofMembers, Except.bind_eq_ok, Except.pure_eq_ok] at h
  obtain ⟨kernel, hk, stride, hs, padding, hp, ceilMode, -, rfl⟩ := h
  have hkernel := Members.required_gives Pair.ofJson_gives hk
  have hstride := Members.optional_gives Pair.ofJson_gives hs
  have hpadding := Members.optional_gives Pair.ofJson_gives hp
  refine ⟨hkernel, ?_, ?_⟩
  · cases stride with
    | none => exact hkernel
    | some p => exact hstride p rfl
  · cases padding with
    | none => exact (by decide : Pair.IsWords (.square 0))
    | some p => exact hpadding p rfl

namespace Operator

theorem parametersOfJson_gives : Decoder.Gives parametersOfJson IsWords := by
  intro v op h
  obtain ⟨⟨tag, body⟩, -, h⟩ := Except.bind_eq_ok.1 h
  simp only at h
  split_ifs at h
  · cases ha : AvgPool.ofJson body with
    | error e =>
      rw [ha] at h
      cases h
    | ok p =>
      rw [ha] at h
      cases h
      simp only [AvgPool.ofJson, Except.bind_eq_ok, Except.pure_eq_ok] at ha
      obtain ⟨m, -, g, hg, _, -, divisor, hd, rfl⟩ := ha
      obtain ⟨hk, hs, hp⟩ := Geometry.words_of_ofMembers hg
      have hdivisor := Members.optional_gives (Decoder.gives_nat halfWordLimit) hd
      refine ⟨hk, hs, hp, ?_⟩
      rintro _ d ⟨⟩ he
      exact hdivisor d he
  · cases hm : MaxPool.ofJson body with
    | error e =>
      rw [hm] at h
      cases h
    | ok p =>
      rw [hm] at h
      cases h
      simp only [MaxPool.ofJson, Except.bind_eq_ok, Except.pure_eq_ok] at hm
      obtain ⟨m, -, g, hg, rfl⟩ := hm
      obtain ⟨hk, hs, hp⟩ := Geometry.words_of_ofMembers hg
      refine ⟨hk, hs, hp, ?_⟩
      intro _ d h
      cases h

end Operator

theorem OperatorSequence.ofJson_gives :
    Decoder.Gives ofJson fun q => ∀ op ∈ q.operators, op.IsWords := by
  intro v q h
  exact Operator.parametersOfJson_gives.list v _ (ofJson_eq_ok.1 h)

/-! ## Graphs -/

structure GraphDraft.IsWords (d : GraphDraft) : Prop where
  version : ∀ n, d.version = some n → n < halfWordLimit
  inputShape : ∀ s, d.inputShape = some s → ∀ e ∈ s, e < wordLimit
  operators : ∀ q, d.operators = some q → ∀ op ∈ q.operators, op.IsWords

theorem GraphDraft.IsWords.set {d d' : GraphDraft} {name : String} {v : Json} (hd : d.IsWords)
    (h : d.set name v = .ok d') : d'.IsWords := by
  unfold GraphDraft.set at h
  split_ifs at h
  · obtain ⟨n, hn, h⟩ := Except.bind_eq_ok.1 h
    cases h
    refine ⟨?_, hd.inputShape, hd.operators⟩
    rintro _ ⟨⟩
    exact Decoder.gives_nat halfWordLimit v n hn
  · obtain ⟨_, -, h⟩ := Except.bind_eq_ok.1 h
    cases h
    exact ⟨hd.version, hd.inputShape, hd.operators⟩
  · obtain ⟨s, hs, h⟩ := Except.bind_eq_ok.1 h
    cases h
    refine ⟨hd.version, ?_, hd.operators⟩
    rintro _ ⟨⟩
    exact Decoder.gives_shape v s hs
  · obtain ⟨_, -, h⟩ := Except.bind_eq_ok.1 h
    cases h
    exact ⟨hd.version, hd.inputShape, hd.operators⟩
  · obtain ⟨q, hq, h⟩ := Except.bind_eq_ok.1 h
    cases h
    refine ⟨hd.version, hd.inputShape, ?_⟩
    rintro _ ⟨⟩
    exact OperatorSequence.ofJson_gives v q hq
  · cases h
    exact hd

namespace Graph

theorem ofJson_gives : Decoder.Gives ofJson IsWords := by
  intro v g h
  obtain ⟨m, -, h⟩ := Except.bind_eq_ok.1 h
  obtain ⟨d, hd, h⟩ := Except.bind_eq_ok.1 h
  have hempty : GraphDraft.empty.IsWords := by
    constructor <;> exact fun _ h => (nomatch h)
  have hwords : d.IsWords := Members.fold_keeps (fun _ _ _ _ hs h => hs.set h) hempty hd
  split at h
  · next hf _ =>
    cases h
    simp only [GraphDraft.finish?, Option.bind_eq_bind, Option.bind_eq_some_iff,
      Option.some.injEq] at hf
    obtain ⟨_, hv, _, -, _, hs, _, -, _, hq, rfl⟩ := hf
    exact ⟨hwords.version _ hv, hwords.inputShape _ hs, hwords.operators _ hq⟩
  · cases h

/-- A graph that is read from any text can be written again. -/
theorem isWords_of_ofText {text : String} {g : Graph} (h : ofText text = .ok g) : g.IsWords := by
  obtain ⟨v, -, hv⟩ := Decoder.text_eq_ok.1 h
  exact ofJson_gives v g hv

end Graph

end PoolCheck
