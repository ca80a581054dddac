import PoolCheck.Conversion.Action
import PoolCheck.Proofs.Outcome

/-!
# Actions that succeed or fail

An action made of others succeeds when each of them does, on the files that the one before left. It
fails with the fault of the first that does not, and leaves the files of that one.
-/

set_option autoImplicit false

namespace PoolCheck

namespace Action

variable {ε ε' α β : Type} {fs fs' : FileSystem}

def exec (a : Action ε α) (fs : FileSystem) : Except ε α × FileSystem := a fs

theorem exec_bind (a : Action ε α) (f : α → Action ε β) (fs : FileSystem) :
    (a >>= f).exec fs = match a.exec fs with
      | (.ok x, mid) => (f x).exec mid
      | (.error e, mid) => (.error e, mid) := by
  have hb : (a >>= f).exec fs = (ExceptT.bindCont f (a fs).1).run (a fs).2 := rfl
  rw [hb]
  unfold exec
  cases a fs with
  | mk x mid => cases x <;> rfl

theorem exec_pure (x : α) (fs : FileSystem) : (pure x : Action ε α).exec fs = (.ok x, fs) := rfl

theorem exec_ask (f : FileSystem → Except ε α) (fs : FileSystem) :
    (ask f).exec fs = (f fs, fs) := rfl

theorem exec_throw (e : ε) (fs : FileSystem) :
    (throw e : Action ε α).exec fs = (.error e, fs) := rfl

theorem exec_change (f : FileSystem → Option FileSystem) (fault : ε) (fs : FileSystem) :
    (change f fault).exec fs = match f fs with
      | some fs' => (.ok (), fs')
      | none => (.error fault, fs) := rfl

theorem exec_mapFault (g : ε → ε') (a : Action ε α) (fs : FileSystem) :
    (mapFault g a).exec fs = ((a.exec fs).1.mapError g, (a.exec fs).2) := rfl

theorem bind_eq_ok {a : Action ε α} {f : α → Action ε β} {r : β} :
    (a >>= f).exec fs = (.ok r, fs') ↔
      ∃ x mid, a.exec fs = (.ok x, mid) ∧ (f x).exec mid = (.ok r, fs') := by
  rw [exec_bind]
  constructor
  · intro h
    cases ha : a.exec fs with
    | mk x mid =>
      rw [ha] at h
      cases x with
      | error e => simp at h
      | ok x => exact ⟨x, mid, rfl, h⟩
  · rintro ⟨x, mid, ha, h⟩
    rw [ha]
    exact h

theorem pure_eq_ok {x r : α} : (pure x : Action ε α).exec fs = (.ok r, fs') ↔ x = r ∧ fs = fs' := by
  simp [exec_pure]

theorem ask_eq_ok {f : FileSystem → Except ε α} {r : α} :
    (ask f).exec fs = (.ok r, fs') ↔ f fs = .ok r ∧ fs = fs' := by
  simp [exec_ask]

theorem change_eq_ok {f : FileSystem → Option FileSystem} {fault : ε} {u : Unit} :
    (change f fault).exec fs = (.ok u, fs') ↔ f fs = some fs' := by
  rw [exec_change]
  cases f fs <;> simp

theorem mapFault_eq_ok {g : ε → ε'} {a : Action ε α} {r : α} :
    (mapFault g a).exec fs = (.ok r, fs') ↔ a.exec fs = (.ok r, fs') := by
  rw [exec_mapFault]
  cases a.exec fs with
  | mk x mid => simp [mapError_eq_ok]

theorem get_eq_ok {r : FileSystem} :
    (get : Action ε FileSystem).exec fs = (.ok r, fs') ↔ fs = r ∧ fs = fs' := by
  show ((Except.ok fs : Except ε FileSystem), fs) = _ ↔ _
  simp

theorem ask_bind_ask (f : FileSystem → Except ε α) (g : α → FileSystem → Except ε β) :
    (ask f >>= fun x => ask (g x)) = ask fun fs => f fs >>= fun x => g x fs := by
  funext fs
  show (ask f >>= fun x => ask (g x)).exec fs = _
  rw [exec_bind, exec_ask]
  cases hf : f fs with
  | error e => simp only [ask, hf]; rfl
  | ok x => simp only [ask, hf]; rfl

/-! ## Actions that fail -/

theorem bind_eq_error {a : Action ε α} {f : α → Action ε β} {e : ε} :
    (a >>= f).exec fs = (.error e, fs') ↔ a.exec fs = (.error e, fs') ∨
      ∃ x mid, a.exec fs = (.ok x, mid) ∧ (f x).exec mid = (.error e, fs') := by
  rw [exec_bind]
  cases ha : a.exec fs with
  | mk x mid => cases x <;> simp [and_assoc]

theorem not_pure_eq_error {x : α} {e : ε} : ¬(pure x : Action ε α).exec fs = (.error e, fs') := by
  simp [exec_pure]

theorem ask_eq_error {f : FileSystem → Except ε α} {e : ε} :
    (ask f).exec fs = (.error e, fs') ↔ f fs = .error e ∧ fs = fs' := by
  simp [exec_ask]

theorem change_eq_error {f : FileSystem → Option FileSystem} {fault e : ε} :
    (change f fault).exec fs = (.error e, fs') ↔ f fs = none ∧ fault = e ∧ fs = fs' := by
  rw [exec_change]
  cases f fs <;> simp

theorem mapFault_eq_error {g : ε → ε'} {a : Action ε α} {e : ε'} :
    (mapFault g a).exec fs = (.error e, fs') ↔
      ∃ cause, a.exec fs = (.error cause, fs') ∧ g cause = e := by
  rw [exec_mapFault]
  cases a.exec fs with
  | mk x mid =>
    simp only [Prod.mk.injEq, mapError_eq_error]
    exact ⟨fun ⟨⟨cause, h, hg⟩, hm⟩ => ⟨cause, ⟨h, hm⟩, hg⟩,
      fun ⟨cause, ⟨h, hm⟩, hg⟩ => ⟨⟨cause, h, hg⟩, hm⟩⟩

/-! ## What actions keep -/

/-- Whatever comes of the action, what holds of the files before holds of the files it leaves. -/
def Keeps (I : FileSystem → Prop) (a : Action ε α) : Prop := ∀ fs, I fs → I (a.exec fs).2

section Keeps

variable {I : FileSystem → Prop}

theorem Keeps.bind {a : Action ε α} {f : α → Action ε β} (ha : Keeps I a)
    (hf : ∀ x before after, I before → a.exec before = (.ok x, after) → Keeps I (f x)) :
    Keeps I (a >>= f) := by
  intro fs hi
  have hmid := ha fs hi
  rw [exec_bind]
  cases hx : a.exec fs with
  | mk r mid =>
    rw [hx] at hmid
    cases r with
    | error e => exact hmid
    | ok x => exact hf x fs mid hi hx mid hmid

theorem keeps_pure (x : α) : Keeps I (pure x : Action ε α) := fun _ hi => hi

theorem keeps_get : Keeps I (get : Action ε FileSystem) := fun _ hi => hi

theorem keeps_ask (f : FileSystem → Except ε α) : Keeps I (ask f) := fun _ hi => hi

theorem keeps_change {f : FileSystem → Option FileSystem} (fault : ε)
    (h : ∀ fs fs', I fs → f fs = some fs' → I fs') : Keeps I (change f fault) := by
  intro fs hi
  rw [exec_change]
  cases hf : f fs with
  | none => exact hi
  | some fs' => exact h fs fs' hi hf

end Keeps

end Action

end PoolCheck
