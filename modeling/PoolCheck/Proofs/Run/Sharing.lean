import PoolCheck.Proofs.Routine
import PoolCheck.Proofs.Run.Footprint

/-!
# Parties that share files

A party keeps to some locations when what it sees and what it changes is a matter of the files at
these locations and of the directories alone. Two parties that keep to different locations do not
notice each other: in whatever order they take their steps, each comes as far as it comes alone,
with the same files.
-/

set_option autoImplicit false

namespace PoolCheck

variable {α β ε : Type} {S T : Location → Prop} {fs mid now later own : FileSystem} {p : Path}

namespace FileSystem

/-- The same directories, and the same files at these locations. -/
structure SameOn (fs : FileSystem) (S : Location → Prop) (now : FileSystem) : Prop where
  current : now.current = fs.current
  alike : fs.Alike now
  node? : ∀ q, S q → now.node? q = fs.node? q

namespace SameOn

theorem refl (fs : FileSystem) (S : Location → Prop) : fs.SameOn S fs :=
  ⟨rfl, fun _ => Iff.rfl, fun _ _ => rfl⟩

theorem locate (h : fs.SameOn S now) {q : Location} :
    now.locate p = .ok q ↔ fs.locate p = .ok q := h.alike.locate (.inr h.current)

theorem elsewhere (h : fs.SameOn S now) (hi : now.Inside T later) (hd : ∀ q, S q → ¬T q) :
    fs.SameOn S later :=
  ⟨hi.current.trans h.current, h.alike.trans hi.alike,
    fun q hq => (node?_of_seen (hi.other q (hd q hq))).trans (h.node? q hq)⟩

theorem node?_eq (h : fs.SameOn S now) {q : Location}
    (hq : fs.node? q ≠ some .directory → S q) : now.node? q = fs.node? q := by
  by_cases hd : fs.node? q = some .directory
  · rw [hd, (h.alike q).2 hd]
  · exact h.node? q (hq hd)

theorem find? (h : fs.SameOn S now) (hp : fs.Lands S p) : now.find? p = fs.find? p := by
  unfold FileSystem.find?
  cases hl : fs.locate p with
  | ok q =>
    rw [h.locate.2 hl]
    exact h.node?_eq (hp q hl)
  | error e =>
    cases hn : now.locate p with
    | error e' => rfl
    | ok q => cases hl.symm.trans (h.locate.1 hn)

theorem lands (h : fs.SameOn S now) (hp : fs.Lands S p) : now.Lands S p := fun q hq hd =>
  hp q (h.locate.1 hq) fun hd' => hd ((h.alike q).2 hd')

theorem put {fs' now' : FileSystem} {place : Location} {n : Option Node} (h : fs.SameOn S now)
    (hc : fs'.current = fs.current) (hc' : now'.current = now.current)
    (hf : ∀ q, fs'.node? q = if q = place then n else fs.node? q)
    (hf' : ∀ q, now'.node? q = if q = place then n else now.node? q) : fs'.SameOn S now' := by
  refine ⟨hc'.trans (h.current.trans hc.symm), fun q => ?_, fun q hq => ?_⟩
  · rw [hf, hf']
    split_ifs
    · exact Iff.rfl
    · exact h.alike q
  · rw [hf, hf']
    split_ifs
    · rfl
    · exact h.node? q hq

theorem set {place : Location} (h : fs.SameOn S now) (hp : place ≠ []) (n : Node)
    (hn : n.FitsAt place) : (fs.set place n hn).SameOn S (now.set place n hn) :=
  h.put rfl rfl (node?_set hp n hn) (node?_set hp n hn)

theorem write? (h : fs.SameOn S now) (hp : fs.Lands S p) (content : ByteArray) :
    fs.write? p content = none ∧ now.write? p content = none ∨
      ∃ fs' now', fs.write? p content = some fs' ∧ now.write? p content = some now' ∧
        fs'.SameOn S now' := by
  unfold FileSystem.write?
  cases hl : fs.locate p with
  | error e =>
    cases hn : now.locate p with
    | error e' => exact .inl ⟨rfl, rfl⟩
    | ok q => cases hl.symm.trans (h.locate.1 hn)
  | ok place =>
    rw [h.locate.2 hl]
    dsimp only
    rw [h.node?_eq (hp place hl)]
    cases hn : fs.node? place with
    | none =>
      have hd : fs.node? place ≠ some .directory := by simp [hn]
      have hroot := ne_root_of_not_directory hd
      exact .inr ⟨_, _, rfl, rfl, h.set hroot _ _⟩
    | some n =>
      cases n with
      | directory => exact .inl ⟨rfl, rfl⟩
      | void => exact .inr ⟨fs, now, rfl, rfl, h⟩
      | file old x =>
        have hd : fs.node? place ≠ some .directory := by simp [hn]
        have hroot := ne_root_of_not_directory hd
        exact .inr ⟨_, _, rfl, rfl, h.set hroot _ _⟩

theorem remove (h : fs.SameOn S now) (hp : fs.Lands S p) (hl : now.locate p = fs.locate p) :
    (∃ e, fs.remove p = .error e ∧ now.remove p = .error e) ∨
      ∃ fs' now', fs.remove p = .ok fs' ∧ now.remove p = .ok now' ∧ fs'.SameOn S now' := by
  unfold FileSystem.remove
  rw [hl]
  cases hq : fs.locate p with
  | error e => exact .inl ⟨e, rfl, rfl⟩
  | ok place =>
    dsimp only
    rw [h.node?_eq (hp place hq)]
    cases hn : fs.node? place with
    | none => exact .inl ⟨.missing, rfl, rfl⟩
    | some n =>
      cases n with
      | directory => exact .inl ⟨.blocked, rfl, rfl⟩
      | void => exact .inl ⟨.blocked, rfl, rfl⟩
      | file old x =>
        have hd : fs.node? place ≠ some .directory := by simp [hn]
        have hroot := ne_root_of_not_directory hd
        exact .inr ⟨_, _, rfl, rfl, h.put rfl rfl (node?_erase hroot) (node?_erase hroot)⟩

end SameOn

end FileSystem

open FileSystem

/-! ## Steps that keep to some files -/

/-- What a step gives and what it leaves is a matter of the files at these locations alone, and it
changes no others. -/
def Local (S : Location → Prop) (a : FileSystem → α × FileSystem) (fs : FileSystem) : Prop :=
  ∀ now, fs.SameOn S now →
    (a now).1 = (a fs).1 ∧ (a fs).2.SameOn S (a now).2 ∧ now.Inside S (a now).2

open PoolCheck.Action

theorem local_ask {f : FileSystem → Except ε α} (h : ∀ now, fs.SameOn S now → f now = f fs) :
    Local S (ask f).exec fs :=
  fun now hn => ⟨h now hn, hn, .start now S⟩

theorem local_write (hp : fs.Lands S p) (content : ByteArray) (fault : ε) :
    Local S (change (·.write? p content) fault).exec fs := by
  intro now hn
  rw [exec_change, exec_change]
  rcases hn.write? hp content with ⟨hf, hw⟩ | ⟨fs', now', hf, hw, hs⟩
  · rw [hf, hw]
    exact ⟨rfl, hn, .start now S⟩
  · rw [hf, hw]
    exact ⟨rfl, hs, (Inside.start now S).write (hn.lands hp) hw⟩

/-- Why nothing can be removed may depend on what is on the way there. -/
theorem local_remove (hp : fs.Lands S p)
    (hl : ∀ now, fs.SameOn S now → now.locate p = fs.locate p) :
    Local S (removeStale p).exec fs := by
  intro now hn
  unfold exec removeStale
  rcases hn.remove hp (hl now hn) with ⟨e, hf, hr⟩ | ⟨fs', now', hf, hr, hs⟩
  · rw [hf, hr]
    cases e <;> exact ⟨rfl, hn, .start now S⟩
  · rw [hf, hr]
    exact ⟨rfl, hs, (Inside.start now S).remove (hn.lands hp) hr⟩

/-! ## Routines that keep to some files -/

namespace Routine

/-- Every step, as it comes from these files on, keeps to the locations. -/
def KeepsTo (S : Location → Prop) : Routine α → FileSystem → Prop
  | done _, _ => True
  | step change next, fs =>
    (∀ now, fs.SameOn S now →
      next now = next fs ∧ (change fs).SameOn S (change now) ∧ now.Inside S (change now)) ∧
    (next fs).KeepsTo S (change fs)

theorem keepsTo_once {a : FileSystem → α × FileSystem} (h : Local S a fs) :
    (once a).KeepsTo S fs :=
  ⟨fun now hn => ⟨congrArg done (h now hn).1, (h now hn).2⟩, trivial⟩

theorem KeepsTo.inside {r : Routine α} (h : r.KeepsTo S fs) : fs.Inside S (r.run fs).2 := by
  induction r generalizing fs with
  | done result => exact .start fs S
  | step change next ih => exact (h.1 fs (.refl fs S)).2.2.trans (ih fs h.2)

theorem KeepsTo.bind {r : Routine α} {f : α → Routine β} (h : r.KeepsTo S fs)
    (hf : (f (r.run fs).1).KeepsTo S (r.run fs).2) : (r >>= f).KeepsTo S fs := by
  induction r generalizing fs with
  | done result => exact hf
  | step change next ih =>
    refine ⟨fun now hn => ⟨?_, (h.1 now hn).2⟩, ih fs h.2 hf⟩
    exact congrArg (Routine.bind · f) (h.1 now hn).1

theorem KeepsTo.map {r : Routine α} (h : r.KeepsTo S fs) (g : α → β) :
    (g <$> r).KeepsTo S fs := h.bind trivial

theorem KeepsTo.cut {r : Routine α} (h : r.KeepsTo S fs) (patience : Option Nat) :
    (r.cut patience).KeepsTo S fs := by
  induction r generalizing fs patience with
  | done result =>
    rw [Routine.cut]
    trivial
  | step change next ih =>
    match patience with
    | some 0 => trivial
    | some (n + 1) =>
      exact ⟨fun now hn => ⟨congrArg (Routine.cut (some n)) (h.1 now hn).1, (h.1 now hn).2⟩,
        ih fs h.2 (some n)⟩
    | none =>
      exact ⟨fun now hn => ⟨congrArg (Routine.cut none) (h.1 now hn).1, (h.1 now hn).2⟩,
        ih fs h.2 none⟩

end Routine

namespace Course

/-- A course keeps to some locations as its routine does. -/
structure KeepsTo (S : Location → Prop) (c : Course ε α) (fs : FileSystem) : Prop where
  routine : Routine.KeepsTo S c.run fs

theorem keepsTo_settle (r : Except ε α) : (settle r : Course ε α).KeepsTo S fs := ⟨trivial⟩

theorem keepsTo_pure (x : α) : (pure x : Course ε α).KeepsTo S fs := ⟨trivial⟩

theorem keepsTo_throw (e : ε) : (throw e : Course ε α).KeepsTo S fs := ⟨trivial⟩

theorem keepsTo_atom {a : Action ε α} (h : Local S a.exec fs) : (atom a).KeepsTo S fs :=
  ⟨Routine.keepsTo_once h⟩

theorem keepsTo_look {f : FileSystem → Except ε α} (h : ∀ now, fs.SameOn S now → f now = f fs) :
    (look f).KeepsTo S fs := keepsTo_atom (local_ask h)

theorem keepsTo_call {r : Routine α} (h : r.KeepsTo S fs) : (call r : Course ε α).KeepsTo S fs :=
  ⟨h.map Except.ok⟩

namespace KeepsTo

theorem mapFault {ε' : Type} {c : Course ε α} (h : c.KeepsTo S fs) (g : ε → ε') :
    (c.mapFault g).KeepsTo S fs := ⟨h.routine.map (Except.mapError g)⟩

theorem inside {c : Course ε α} (h : c.KeepsTo S fs) : fs.Inside S (c.action.exec fs).2 :=
  h.routine.inside

theorem bind {c : Course ε α} {f : α → Course ε β} (h : c.KeepsTo S fs)
    (hf : ∀ x mid, c.action.exec fs = (.ok x, mid) → fs.Inside S mid → (f x).KeepsTo S mid) :
    (c >>= f).KeepsTo S fs := by
  have hi := h.inside
  refine ⟨h.routine.bind ?_⟩
  show Routine.KeepsTo S (ExceptT.bindCont f (c.action.exec fs).1) (c.action.exec fs).2
  cases hr : c.action.exec fs with
  | mk r mid =>
    rw [hr] at hi
    cases r with
    | error e => trivial
    | ok x => exact (hf x mid hr hi).routine

theorem bind_settle {r : Except ε α} {f : α → Course ε β}
    (hf : ∀ x, r = .ok x → (f x).KeepsTo S fs) : (settle r >>= f).KeepsTo S fs := by
  refine KeepsTo.bind (keepsTo_settle r) fun x mid hx _ => ?_
  obtain ⟨hr, rfl⟩ := ask_eq_ok.1 hx
  exact hf x hr

theorem bind_look {l : FileSystem → Except ε α} {f : α → Course ε β}
    (h : ∀ now, fs.SameOn S now → l now = l fs) (hf : ∀ x, l fs = .ok x → (f x).KeepsTo S fs) :
    (look l >>= f).KeepsTo S fs := by
  refine (keepsTo_look h).bind fun x mid hx _ => ?_
  obtain ⟨hr, rfl⟩ := ask_eq_ok.1 hx
  exact hf x hr

end KeepsTo

end Course

/-! ## Two parties -/

namespace Routine

/-- Two parties take their steps in some order, on the same files. -/
inductive Interleaved (r : Routine α) (s : Routine β) (fs : FileSystem) :
    Routine α → Routine β → FileSystem → Prop where
  | start : Interleaved r s fs r s fs
  | first {r' r'' : Routine α} {s' : Routine β} {mid now : FileSystem}
    (before : Interleaved r s fs r' s' mid) (last : Moves r' mid r'' now) :
    Interleaved r s fs r'' s' now
  | second {r' : Routine α} {s' s'' : Routine β} {mid now : FileSystem}
    (before : Interleaved r s fs r' s' mid) (last : Moves s' mid s'' now) :
    Interleaved r s fs r' s'' now

/-- Whatever was done between its steps, a party has come as far as it comes alone, and its files
are what they are then. -/
structure Undisturbed (S : Location → Prop) (r : Routine α) (fs : FileSystem) (r' : Routine α)
    (own now : FileSystem) : Prop where
  alone : Leads r fs r' own
  inside : fs.Inside S own
  same : own.SameOn S now
  keepsTo : r'.KeepsTo S own

variable {r r' r'' : Routine α} {s s' : Routine β}

namespace Undisturbed

theorem start (h : r.KeepsTo S fs) : Undisturbed S r fs r fs fs :=
  ⟨.start, .start fs S, .refl fs S, h⟩

theorem step_inside (h : Undisturbed S r fs r' own now) (hm : Moves r' now r'' later) :
    now.Inside S later := by
  cases hm
  exact (h.keepsTo.1 now h.same).2.2

theorem step (h : Undisturbed S r fs r' own now) (hm : Moves r' now r'' later) :
    ∃ own', Undisturbed S r fs r'' own' later := by
  cases hm with
  | intro change next now =>
    obtain ⟨hnext, hsame, -⟩ := h.keepsTo.1 now h.same
    obtain ⟨-, -, hi⟩ := h.keepsTo.1 own (.refl own S)
    rw [hnext]
    exact ⟨change own, h.alone.next (.intro change next own), h.inside.trans hi, hsame,
      h.keepsTo.2⟩

theorem elsewhere (h : Undisturbed S r fs r' own now) (hi : now.Inside T later)
    (hd : ∀ q, S q → ¬T q) : Undisturbed S r fs r' own later :=
  ⟨h.alone, h.inside, h.same.elsewhere hi hd, h.keepsTo⟩

theorem of_done {x : α} (h : Undisturbed S r fs (done x) own now) : r.run fs = (x, own) :=
  h.alone.run_eq

end Undisturbed

/-- Two parties that keep to different locations do not notice each other. -/
theorem Interleaved.undisturbed (hr : r.KeepsTo S fs) (hs : s.KeepsTo T fs)
    (hd : ∀ q, S q → ¬T q) (h : Interleaved r s fs r' s' now) :
    (∃ own, Undisturbed S r fs r' own now) ∧ ∃ own, Undisturbed T s fs s' own now := by
  -- A step of one party keeps to its files, so it is elsewhere for the other.
  induction h with
  | start => exact ⟨⟨fs, .start hr⟩, ⟨fs, .start hs⟩⟩
  | first before last ih =>
    obtain ⟨⟨own, ho⟩, ⟨other, hother⟩⟩ := ih
    refine ⟨ho.step last, other, hother.elsewhere (ho.step_inside last) fun q hq hq' => ?_⟩
    exact hd q hq' hq
  | second before last ih =>
    obtain ⟨⟨own, ho⟩, ⟨other, hother⟩⟩ := ih
    exact ⟨⟨own, ho.elsewhere (hother.step_inside last) hd⟩, hother.step last⟩

end Routine

end PoolCheck
