import Mathlib.Tactic.SplitIfs
import PoolCheck.FileSystem
import PoolCheck.Proofs.Text

/-!
# What a change of one file leaves alone

Writing or removing a file changes what is found at its own location and nothing else. Which
location a path leads to depends on the directories only, so paths keep their locations.
-/

set_option autoImplicit false

namespace PoolCheck.FileSystem

variable {fs fs' : FileSystem} {place q : Location} {p : Path}

/-! ## Entries -/

theorem lookup_cons_eq {β : Type} (q r : Location) (n : β) (es : List (Location × β)) :
    ((r, n) :: es).lookup q = if q = r then some n else es.lookup q := by
  rw [List.lookup_cons]
  by_cases h : q = r
  · simp [h]
  · rw [beq_false_of_ne h, if_neg h]

theorem lookup_insert (place q : Location) (n : Node) (es : List (Location × Node)) :
    (insert place n es).lookup q = if q = place then some n else es.lookup q := by
  induction es with
  | nil => rw [insert, lookup_cons_eq, List.lookup_nil]
  | cons e es ih =>
    obtain ⟨r, m⟩ := e
    rw [insert]
    by_cases hr : r = place
    · rw [if_pos hr, lookup_cons_eq, lookup_cons_eq]
      by_cases h : q = place <;> simp [h, hr]
    · rw [if_neg hr, lookup_cons_eq, lookup_cons_eq, ih]
      by_cases h : q = r
      · subst h
        simp [hr]
      · simp [h]

theorem insert_insert (place : Location) (m n : Node) (es : List (Location × Node)) :
    insert place n (insert place m es) = insert place n es := by
  induction es with
  | nil => simp [insert]
  | cons e es ih =>
    by_cases he : e.1 = place
    · simp [insert, he]
    · simp [insert, he, ih]

theorem lookup_filter {β : Type} (keep : Location → Bool) (q : Location)
    (es : List (Location × β)) :
    (es.filter fun e => keep e.1).lookup q = if keep q then es.lookup q else none := by
  induction es with
  | nil => simp
  | cons e es ih =>
    obtain ⟨r, m⟩ := e
    by_cases hr : keep r = true
    · rw [List.filter_cons, if_pos hr, lookup_cons_eq, lookup_cons_eq, ih]
      by_cases h : q = r
      · subst h
        simp [hr]
      · simp [h]
    · rw [List.filter_cons, if_neg hr, ih, lookup_cons_eq]
      by_cases h : q = r
      · subst h
        simp [hr]
      · simp [h]

theorem node?_set (h : place ≠ []) (n : Node) (hn : n.FitsAt place) (q : Location) :
    (fs.set place n hn).node? q = if q = place then some n else fs.node? q := by
  unfold node? set
  by_cases hq : q = []
  · subst hq
    simp [Ne.symm h]
  · rw [if_neg hq, if_neg hq]
    exact lookup_insert place q n fs.entries

theorem set_set (hp : place ≠ []) (m n : Node) (hm : m.FitsAt place) (hn : n.FitsAt place) :
    (fs.set place m hm).set place n hn = fs.set place n hn := by
  have hnew : ((fs.set place m hm).node? place).isNone = false := by
    rw [node?_set hp, if_pos rfl]
    rfl
  unfold set at hnew ⊢
  simp only [hnew, insert_insert, List.filter_filter]
  congr 1
  refine List.filter_congr fun t _ => ?_
  simp

theorem node?_erase (h : place ≠ []) (q : Location) :
    (fs.erase place).node? q = if q = place then none else fs.node? q := by
  unfold node? erase
  by_cases hq : q = []
  · subst hq
    simp [Ne.symm h]
  · rw [if_neg hq, if_neg hq]
    have hf := lookup_filter (fun r => decide (r ≠ place)) q fs.entries
    simpa using hf

theorem eq_nullDevice_of_void (h : fs.node? place = some .void) : place = nullDevice := by
  unfold node? at h
  split_ifs at h
  · cases h
  · obtain ⟨before, after, hsplit, -⟩ := List.lookup_eq_some_iff.1 h
    have hmem : (place, Node.void) ∈ fs.entries := by simp [hsplit]
    cases fs.fitting _ hmem
    rfl

theorem ne_nullDevice_of_last {name : String} (hl : place.getLast? = some name)
    (h : '.' ∈ name.toList) : place ≠ nullDevice := by
  rintro rfl
  cases Option.some.inj hl
  exact absurd h (by decide)

theorem ne_root_of_not_directory (h : fs.node? place ≠ some .directory) : place ≠ [] := by
  rintro rfl
  exact h rfl

/-! ## Walks -/

theorem walk_append (fs : FileSystem) (place : Location) (a b : Path.Segments) :
    fs.walk place (a ++ b) = fs.walk place a >>= fun mid => fs.walk mid b := by
  induction a generalizing place with
  | nil => rfl
  | cons s a ih =>
    rw [List.cons_append, walk, walk]
    split
    · rfl
    · rfl
    · rfl
    · split_ifs
      · exact ih _
      · exact ih _
      · exact ih _
      · rfl

theorem walk_name {s : List Char} (hi : Path.isIdle s = false) (hd : s ≠ ['.', '.']) :
    fs.walk place [s] = .ok q ↔
      fs.node? place = some .directory ∧ isName s = true ∧ place ++ [String.ofList s] = q := by
  rw [walk]
  split
  case h_1 h => simp [h]
  case h_2 h => simp [h]
  case h_3 h => simp [h]
  case h_4 h =>
    rw [if_neg (by simp [hi]), if_neg hd]
    by_cases hn : isName s = true
    · simp [hn, h, walk]
    · simp [hn]

/-- A location that a walk from the root can reach: all above it are directories. -/
def Reached (fs : FileSystem) (place : Location) : Prop :=
  ∀ n < place.length, fs.node? (place.take n) = some .directory

theorem reached_root (fs : FileSystem) : fs.Reached [] := by
  intro n hn
  exact absurd hn (by simp)

theorem Reached.dropLast (h : fs.Reached place) : fs.Reached place.dropLast := by
  intro n hn
  rw [List.length_dropLast] at hn
  rw [List.dropLast_eq_take, List.take_take, Nat.min_eq_left (by omega)]
  exact h n (by omega)

theorem Reached.append (h : fs.Reached place) (hd : fs.node? place = some .directory)
    (name : String) : fs.Reached (place ++ [name]) := by
  intro n hn
  rw [List.length_append, List.length_singleton] at hn
  by_cases he : n = place.length
  · rw [he, List.take_left]
    exact hd
  · rw [List.take_append_of_le_length (by omega)]
    exact h n (by omega)

theorem Reached.walk (h : fs.Reached place) {segments : Path.Segments}
    (hw : fs.walk place segments = .ok q) : fs.Reached q := by
  induction segments generalizing place with
  | nil =>
    cases hw
    exact h
  | cons s rest ih =>
    rw [FileSystem.walk] at hw
    split at hw
    case h_4 hd =>
      split_ifs at hw
      · exact ih h hw
      · exact ih h.dropLast hw
      · exact ih (h.append hd _) hw
    all_goals cases hw

theorem Reached.walk_back (h : fs.Reached place) (hw : fs.walk place [['.', '.']] = .ok q) :
    fs.node? q = some .directory := by
  rw [FileSystem.walk] at hw
  split at hw
  case h_4 hd =>
    rw [if_neg (by decide), if_pos rfl] at hw
    cases hw
    by_cases hz : place = []
    · rw [hz]
      rfl
    · have hl := List.length_pos_iff.2 hz
      rw [List.dropLast_eq_take]
      exact h _ (by omega)
  all_goals cases hw

/-! ## Paths keep their locations -/

/-- Every directory of the second file system is one of the first. -/
structure Covers (fs fs' : FileSystem) : Prop where
  current : fs'.current = fs.current
  directory : ∀ q, fs'.node? q = some .directory → fs.node? q = some .directory

theorem Covers.refl (fs : FileSystem) : fs.Covers fs := ⟨rfl, fun _ h => h⟩

theorem walk_mono (h : ∀ q, fs'.node? q = some .directory → fs.node? q = some .directory)
    {segments : Path.Segments} (hw : fs'.walk place segments = .ok q) :
    fs.walk place segments = .ok q := by
  induction segments generalizing place with
  | nil => exact hw
  | cons s rest ih =>
    rw [FileSystem.walk] at hw ⊢
    split at hw
    case h_4 hd =>
      rw [h _ hd]
      simp only
      split_ifs at hw ⊢
      · exact ih hw
      · exact ih hw
      · exact ih hw
    all_goals cases hw

theorem locate_eq_ok : fs.locate p = .ok q ↔
    p ≠ "" ∧ ¬(pathLimit ≤ p.utf8ByteSize || p.contains '\x00') = true ∧
      ∃ start,
        (if p.isAbsolute then .ok [] else fs.walk [] (Path.segments fs.current)) = .ok start ∧
        fs.walk start p.segments = .ok q := by
  unfold locate
  by_cases h1 : p = ""
  · rw [if_pos h1]
    exact ⟨fun h => (nomatch h), fun h => absurd h1 h.1⟩
  rw [if_neg h1]
  by_cases h2 : (pathLimit ≤ p.utf8ByteSize || p.contains '\x00') = true
  · rw [if_pos h2]
    exact ⟨fun h => (nomatch h), fun h => absurd h2 h.2.1⟩
  rw [if_neg h2]
  by_cases h3 : p.isAbsolute = true
  · rw [if_pos h3, if_pos h3]
    constructor
    · intro h
      exact ⟨h1, h2, [], rfl, h⟩
    · rintro ⟨-, -, _, hs, h⟩
      cases hs
      exact h
  · rw [if_neg h3, if_neg h3]
    cases fs.walk [] (Path.segments fs.current) with
    | error e => simp
    | ok start =>
      constructor
      · intro h
        exact ⟨h1, h2, start, rfl, h⟩
      · rintro ⟨-, -, _, hs, h⟩
        cases hs
        exact h

theorem Covers.locate (h : fs.Covers fs') (hl : fs'.locate p = .ok q) : fs.locate p = .ok q := by
  rw [locate_eq_ok] at hl ⊢
  obtain ⟨h1, h2, start, hs, hw⟩ := hl
  refine ⟨h1, h2, start, ?_, walk_mono h.directory hw⟩
  split_ifs at hs ⊢
  · exact hs
  · rw [h.current] at hs
    exact walk_mono h.directory hs

theorem find?_eq_none : fs.find? p = none ↔ ∀ q, fs.locate p = .ok q → fs.node? q = none := by
  unfold find?
  cases fs.locate p <;> simp

theorem find?_eq_some {n : Node} :
    fs.find? p = some n ↔ ∃ q, fs.locate p = .ok q ∧ fs.node? q = some n := by
  unfold find?
  cases fs.locate p <;> simp

/-! ## Changes of one file -/

theorem covers_set (n : Node) (hn : n.FitsAt place) (h : n ≠ .directory) (hp : place ≠ []) :
    fs.Covers (fs.set place n hn) := by
  refine ⟨rfl, fun q hq => ?_⟩
  rw [node?_set hp] at hq
  split_ifs at hq with he
  · exact absurd (Option.some.inj hq) h
  · exact hq

theorem covers_erase (hp : place ≠ []) : fs.Covers (fs.erase place) := by
  refine ⟨rfl, fun q hq => ?_⟩
  rw [node?_erase hp] at hq
  split_ifs at hq
  exact hq

theorem find?_of_remove (h : fs.remove p = .ok fs') : fs.Covers fs' ∧ fs'.find? p = none ∧
    ∀ q, fs'.node? q ≠ none → fs.node? q ≠ none := by
  unfold remove at h
  split at h
  · cases h
  case h_2 place hl =>
    split at h
    case h_4 hn =>
      cases h
      have hp : place ≠ [] := ne_root_of_not_directory (by rw [hn]; simp)
      refine ⟨covers_erase hp, find?_eq_none.2 fun q hq => ?_, fun q hq => ?_⟩
      · have hq' := (covers_erase hp).locate hq
        rw [hl] at hq'
        cases hq'
        rw [node?_erase hp, if_pos rfl]
      · rw [node?_erase hp] at hq
        split_ifs at hq with he
        · exact absurd rfl hq
        · exact hq
    all_goals cases h

theorem find?_of_missing (h : fs.remove p = .error .missing) : fs.find? p = none := by
  unfold remove at h
  rw [find?_eq_none]
  intro q hq
  rw [hq] at h
  simp only at h
  split at h
  case h_1 hn => exact hn
  all_goals cases h

theorem write?_eq_some {content : ByteArray} (h : fs.write? p content = some fs') :
    ∃ place, fs.locate p = .ok place ∧ fs.node? place ≠ some .directory ∧
      (fs.node? place = some .void ∧ fs' = fs ∨
        ∃ executable, fs' = fs.set place (.file content executable)) := by
  unfold write? at h
  split at h
  · cases h
  case h_2 place hl =>
    split at h
    case h_1 => cases h
    case h_2 hn =>
      cases h
      exact ⟨place, hl, by rw [hn]; simp, .inl ⟨hn, rfl⟩⟩
    case h_3 executable hn =>
      cases h
      exact ⟨place, hl, by rw [hn]; simp, .inr ⟨executable, rfl⟩⟩
    case h_4 hn =>
      cases h
      exact ⟨place, hl, by rw [hn]; simp, .inr ⟨false, rfl⟩⟩

theorem find?_of_write {content : ByteArray} {other : Path} (h : fs.write? p content = some fs')
    (hne : ∀ a b, fs.locate p = .ok a → fs.node? a ≠ some .directory → fs.locate other = .ok b →
      a ≠ b) (hf : fs.find? other = none) : fs'.find? other = none := by
  obtain ⟨place, hl, hd, ⟨-, rfl⟩ | ⟨executable, rfl⟩⟩ := write?_eq_some h
  · exact hf
  · have hp := ne_root_of_not_directory hd
    rw [find?_eq_none] at hf ⊢
    intro q hq
    have hq' := (covers_set _ .file (by simp) hp).locate hq
    rw [node?_set hp, if_neg (Ne.symm (hne place q hl hd hq'))]
    exact hf q hq'

/-! ## Places of files -/

def Open (fs : FileSystem) (place : Location) : Prop :=
  fs.node? place ≠ some .directory ∧ fs.node? place ≠ some .void

def Holds (fs : FileSystem) (place : Location) (content : ByteArray) : Prop :=
  ∃ executable, fs.node? place = some (.file content executable)

/-- A file can be written and read under this path. -/
def Admits (fs : FileSystem) (p : Path) : Prop :=
  ∃ place, fs.locate p = .ok place ∧ fs.Open place

theorem Holds.isOpen {content : ByteArray} (h : fs.Holds place content) : fs.Open place := by
  obtain ⟨x, hx⟩ := h
  rw [Open, hx]
  exact ⟨by simp, by simp⟩

theorem read?_of_holds {content : ByteArray} (hl : fs.locate p = .ok place)
    (h : fs.Holds place content) : fs.read? p = some content := by
  obtain ⟨x, hx⟩ := h
  rw [read?, find?, hl]
  simp only [hx]

theorem isFile_of_holds {content : ByteArray} (hl : fs.locate p = .ok place)
    (h : fs.Holds place content) : fs.isFile p = true := by
  obtain ⟨x, hx⟩ := h
  rw [isFile, find?, hl]
  simp only [hx]

def Alike (fs fs' : FileSystem) : Prop :=
  ∀ q, fs'.node? q = some .directory ↔ fs.node? q = some .directory

theorem Alike.trans {fs'' : FileSystem} (h : fs.Alike fs') (h' : fs'.Alike fs'') :
    fs.Alike fs'' := fun q => (h' q).trans (h q)

theorem Alike.walk (h : fs.Alike fs') {segments : Path.Segments} :
    fs'.walk place segments = .ok q ↔ fs.walk place segments = .ok q :=
  ⟨walk_mono fun q => (h q).1, walk_mono fun q => (h q).2⟩

theorem Alike.locate (h : fs.Alike fs') (hp : p.isAbsolute = true ∨ fs'.current = fs.current) :
    fs'.locate p = .ok q ↔ fs.locate p = .ok q := by
  rw [locate_eq_ok, locate_eq_ok]
  refine and_congr_right fun _ => and_congr_right fun _ => exists_congr fun start => ?_
  refine and_congr ?_ h.walk
  split_ifs with ha
  · exact Iff.rfl
  · rw [hp.resolve_left ha]
    exact h.walk

/-- The two differ at most at one place, where each has a file or nothing. -/
structure Frame (fs fs' : FileSystem) (place : Location) : Prop where
  current : fs'.current = fs.current
  before : fs.Open place
  after : fs'.Open place
  other : ∀ q, q ≠ place → fs'.node? q = fs.node? q

namespace Frame

theorem alike (h : fs.Frame fs' place) : fs.Alike fs' := by
  intro q
  by_cases hq : q = place
  · subst hq
    exact iff_of_false h.after.1 h.before.1
  · rw [h.other q hq]

theorem isOpen (h : fs.Frame fs' place) (ho : fs.Open q) : fs'.Open q := by
  by_cases hq : q = place
  · subst hq
    exact h.after
  · rw [Open, h.other q hq]
    exact ho

theorem holds {content : ByteArray} (h : fs.Frame fs' place) (hh : fs.Holds q content)
    (hq : q ≠ place) : fs'.Holds q content := by
  rw [Holds, h.other q hq]
  exact hh

end Frame

theorem isSome_find?_of_write {content : ByteArray} {other : Path}
    (h : fs.write? p content = some fs') (ho : other = p ∨ (fs.find? other).isSome = true) :
    (fs'.find? other).isSome = true := by
  obtain ⟨place, hl, hd, ⟨hv, rfl⟩ | ⟨executable, rfl⟩⟩ := write?_eq_some h
  · rcases ho with rfl | ho
    · rw [find?_eq_some.2 ⟨place, hl, hv⟩]
      rfl
    · exact ho
  have hp := ne_root_of_not_directory hd
  have halike : fs.Alike (fs.set place (.file content executable)) := by
    intro q
    rw [node?_set hp]
    split_ifs with hq
    · exact iff_of_false (by simp) (hq ▸ hd)
    · exact Iff.rfl
  have hloc : ∀ q, (fs.set place (.file content executable)).locate other = .ok q ↔
      fs.locate other = .ok q := fun q => halike.locate (.inr rfl)
  rcases ho with rfl | ho
  · rw [find?_eq_some.2 ⟨place, (hloc place).2 hl, by rw [node?_set hp, if_pos rfl]⟩]
    rfl
  · obtain ⟨n, hn⟩ := Option.isSome_iff_exists.1 ho
    obtain ⟨q, hq, hnode⟩ := find?_eq_some.1 hn
    have hq' := (hloc q).2 hq
    by_cases he : q = place
    · rw [find?_eq_some.2 ⟨q, hq', by rw [node?_set hp, if_pos he]⟩]
      rfl
    · rw [find?_eq_some.2 ⟨q, hq', by rw [node?_set hp, if_neg he, hnode]⟩]
      rfl

theorem exists_write (hl : fs.locate p = .ok place) (ho : fs.Open place) (content : ByteArray) :
    ∃ fs', fs.write? p content = some fs' ∧ fs.Frame fs' place ∧ fs'.Holds place content := by
  have hp := ne_root_of_not_directory ho.1
  have hset : ∀ x, fs.Frame (fs.set place (.file content x)) place ∧
      (fs.set place (.file content x)).Holds place content := by
    intro x
    have hh : (fs.set place (.file content x)).Holds place content :=
      ⟨x, by rw [node?_set hp, if_pos rfl]⟩
    exact ⟨⟨rfl, ho, hh.isOpen, fun q hq => by rw [node?_set hp, if_neg hq]⟩, hh⟩
  unfold write?
  rw [hl]
  simp only
  split
  case h_1 hd => exact absurd hd ho.1
  case h_2 hv => exact absurd hv ho.2
  case h_3 x _ => exact ⟨_, rfl, hset x⟩
  case h_4 => exact ⟨_, rfl, hset false⟩

theorem remove_of_open (hl : fs.locate p = .ok place) (ho : fs.Open place) :
    (fs.remove p = .error .missing ∧ fs.Frame fs place) ∨
      ∃ fs', fs.remove p = .ok fs' ∧ fs.Frame fs' place := by
  have hp := ne_root_of_not_directory ho.1
  unfold remove
  rw [hl]
  simp only
  split
  case h_1 => exact .inl ⟨rfl, rfl, ho, ho, fun _ _ => rfl⟩
  case h_2 hd => exact absurd hd ho.1
  case h_3 hv => exact absurd hv ho.2
  case h_4 =>
    refine .inr ⟨_, rfl, rfl, ho, ?_, fun q hq => by rw [node?_erase hp, if_neg hq]⟩
    rw [Open, node?_erase hp, if_pos rfl]
    exact ⟨by simp, by simp⟩

end PoolCheck.FileSystem
