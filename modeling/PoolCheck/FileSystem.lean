import PoolCheck.Path

/-!
# Files

A file system holds files and directories by location, and a current directory for relative paths.
A path is walked segment by segment, and each step has to start from a directory. There are no
links. A void is always empty, whatever is written to it, and stands at one location only. What has
no time of its own was changed at the present time, and a directory is changed with the names in it.
-/

set_option autoImplicit false

namespace PoolCheck

/-- The names from the root on. -/
abbrev Location := List String

inductive Node where
  | directory
  | void
  | file (content : ByteArray) (executable : Bool)

instance : DecidableEq Node
  | .directory, .directory => isTrue rfl
  | .void, .void => isTrue rfl
  | .directory, .void => isFalse nofun
  | .directory, .file _ _ => isFalse nofun
  | .void, .directory => isFalse nofun
  | .void, .file _ _ => isFalse nofun
  | .file _ _, .directory => isFalse nofun
  | .file _ _, .void => isFalse nofun
  | .file c x, .file d y =>
    decidable_of_iff (c.data = d.data ∧ x = y) (by cases c; cases d; simp)

def Node.usualMode : Node → Nat
  | .directory | .file _ true => 0o755
  | .file _ false => 0o644
  | .void => 0o666

def Node.withMode : Node → Nat → Node
  | .file content _, m => .file content (m &&& 0o111 ≠ 0)
  | n, _ => n

def nullDevice : Location := ["dev", "null"]

/-- A void stands nowhere but at the null device. -/
inductive Node.FitsAt : Node → Location → Prop
  | directory {place : Location} : FitsAt .directory place
  | file {place : Location} {content : ByteArray} {executable : Bool} :
      FitsAt (.file content executable) place
  | void : FitsAt .void nullDevice

attribute [simp] Node.FitsAt.directory Node.FitsAt.file

instance : (n : Node) → (place : Location) → Decidable (n.FitsAt place)
  | .directory, _ => isTrue .directory
  | .file _ _, _ => isTrue .file
  | .void, place =>
    decidable_of_iff (place = nullDevice) ⟨fun h => h ▸ .void, fun h => by cases h; rfl⟩

/-- What was made first stands first. The clock and all times are in nanoseconds. -/
structure FileSystem where
  entries : List (Location × Node)
  current : Path
  clock : Int := 0
  times : List (Location × Int) := []
  modes : List (Location × Nat) := []
  fitting : ∀ e ∈ entries, e.2.FitsAt e.1 := by decide +kernel

inductive AccessFault where
  | missing
  | blocked
  deriving DecidableEq

namespace FileSystem

def node? (fs : FileSystem) (place : Location) : Option Node :=
  if place = [] then some .directory else fs.entries.lookup place

def insert (place : Location) (n : Node) : List (Location × Node) → List (Location × Node)
  | [] => [(place, n)]
  | e :: es => if e.1 = place then (place, n) :: es else e :: insert place n es

theorem mem_insert {place : Location} {n : Node} {es : List (Location × Node)}
    {e : Location × Node} (h : e ∈ insert place n es) : e = (place, n) ∨ e ∈ es := by
  induction es with
  | nil => exact .inl (List.mem_singleton.1 h)
  | cons first es ih =>
    unfold insert at h
    split at h
    · exact (List.mem_cons.1 h).imp_right (List.mem_cons_of_mem _)
    · rcases List.mem_cons.1 h with rfl | h
      · exact .inr List.mem_cons_self
      · exact (ih h).imp_right (List.mem_cons_of_mem _)

def set (fs : FileSystem) (place : Location) (n : Node) (h : n.FitsAt place := by constructor) :
    FileSystem :=
  let isNew := (fs.node? place).isNone
  { fs with
    entries := insert place n fs.entries
    times := fs.times.filter fun t => t.1 ≠ place && !(isNew && t.1 = place.dropLast)
    fitting := fun e he => (mem_insert he).elim (fun heq => heq ▸ h) (fs.fitting e) }

def erase (fs : FileSystem) (place : Location) : FileSystem :=
  { fs with
    entries := fs.entries.filter fun e => e.1 ≠ place
    times := fs.times.filter fun t => t.1 ≠ place && t.1 ≠ place.dropLast
    modes := fs.modes.filter fun m => m.1 ≠ place
    fitting := fun e he => fs.fitting e (List.mem_filter.1 he).1 }

def eraseTree (fs : FileSystem) (place : Location) : FileSystem :=
  { fs with
    entries := fs.entries.filter fun e => !place.isPrefixOf e.1
    times := fs.times.filter fun t => !place.isPrefixOf t.1 && t.1 ≠ place.dropLast
    modes := fs.modes.filter fun m => !place.isPrefixOf m.1
    fitting := fun e he => fs.fitting e (List.mem_filter.1 he).1 }

def time (fs : FileSystem) (place : Location) : Int := (fs.times.lookup place).getD fs.clock

def setTime (fs : FileSystem) (place : Location) (t : Int) : FileSystem :=
  { fs with times := (place, t) :: fs.times.filter fun t => t.1 ≠ place }

/-- Sets the clock. What was changed before keeps the time it had until now. -/
def setClock (fs : FileSystem) (t : Int) : FileSystem :=
  if t = fs.clock then fs
  else { fs with
    clock := t
    times := fs.entries.map fun e => (e.1, fs.time e.1) }

def mode (fs : FileSystem) (place : Location) : Nat :=
  match fs.modes.lookup place, fs.node? place with
  | some m, _ => m
  | none, some n => n.usualMode
  | none, none => 0

def setMode (fs : FileSystem) (place : Location) (m : Nat) : FileSystem :=
  { fs with
    entries := fs.entries.map fun e => if e.1 = place then (e.1, e.2.withMode m) else e
    modes := (place, m) :: fs.modes.filter fun m => m.1 ≠ place
    fitting := by
      intro e he
      obtain ⟨old, hold, rfl⟩ := List.mem_map.1 he
      have hfits := fs.fitting old hold
      split
      · cases hn : old.2 with
        | file => exact .file
        | directory => exact .directory
        | void =>
          rw [hn] at hfits
          exact hfits
      · exact hfits }

def pathLimit : Nat := 4096

def isName (segment : List Char) : Bool := (String.ofList segment).utf8ByteSize ≤ 255

def walk (fs : FileSystem) : Location → Path.Segments → Except AccessFault Location
  | place, [] => .ok place
  | place, s :: rest =>
    match fs.node? place with
    | none => .error .missing
    | some .void | some (.file _ _) => .error .blocked
    | some .directory =>
      if Path.isIdle s then walk fs place rest
      else if s = ['.', '.'] then walk fs place.dropLast rest
      else if isName s then walk fs (place ++ [String.ofList s]) rest
      else .error .blocked

/-- Where a path leads. Only its last name may be missing. -/
def locate (fs : FileSystem) (p : Path) : Except AccessFault Location :=
  if p = "" then .error .missing
  else if pathLimit ≤ p.utf8ByteSize || p.contains '\x00' then .error .blocked
  else if p.isAbsolute then fs.walk [] p.segments
  else
    match fs.walk [] (Path.segments fs.current) with
    | .ok start => fs.walk start p.segments
    | .error e => .error e

def find? (fs : FileSystem) (p : Path) : Option Node :=
  match fs.locate p with
  | .ok place => fs.node? place
  | .error _ => none

def read? (fs : FileSystem) (p : Path) : Option ByteArray :=
  match fs.find? p with
  | some (.file content _) => some content
  | some .void => some .empty
  | _ => none

def readText? (fs : FileSystem) (p : Path) : Option String :=
  (fs.read? p).bind String.fromUTF8?

def isFile (fs : FileSystem) (p : Path) : Bool :=
  match fs.find? p with
  | some (.file _ _) => true
  | _ => false

def isDirectory (fs : FileSystem) (p : Path) : Bool := fs.find? p = some .directory

/-- Replaces or makes a file. A file that was there stays executable or not. -/
def write? (fs : FileSystem) (p : Path) (content : ByteArray) : Option FileSystem :=
  match fs.locate p with
  | .error _ => none
  | .ok place =>
    match fs.node? place with
    | some .directory => none
    | some .void => some fs
    | some (.file _ executable) => some (fs.set place (.file content executable))
    | none => some (fs.set place (.file content false))

def writeText? (fs : FileSystem) (p : Path) (text : String) : Option FileSystem :=
  fs.write? p text.toUTF8

def makeDirectory (fs : FileSystem) (p : Path) : Except AccessFault FileSystem :=
  match fs.locate p.withoutSlashes with
  | .error e => .error e
  | .ok place =>
    if (fs.node? place).isSome then .error .blocked else .ok (fs.set place .directory)

/-- Makes a directory and, where nothing is, all above it. The second part tells whether the
directory is there in the end. -/
def makeWithParents : Nat → FileSystem → Path → FileSystem × Bool
  | 0, fs, _ => (fs, false)
  | fuel + 1, fs, p =>
    if p = "" then (fs, true)
    else
      match fs.makeDirectory p, p.parent? with
      | .ok fs', _ => (fs', true)
      | .error .blocked, _ => (fs, fs.isDirectory p)
      | .error .missing, none => (fs, false)
      | .error .missing, some above =>
        match makeWithParents fuel fs above with
        | (fs', false) => (fs', false)
        | (fs', true) =>
          match fs'.makeDirectory p with
          | .ok fs'' => (fs'', true)
          | .error _ => (fs', fs'.isDirectory p)

def makeDirectories (fs : FileSystem) (p : Path) : FileSystem × Bool :=
  fs.makeWithParents (p.length + 1) p

def remove (fs : FileSystem) (p : Path) : Except AccessFault FileSystem :=
  match fs.locate p with
  | .error e => .error e
  | .ok place =>
    match fs.node? place with
    | none => .error .missing
    | some .directory | some .void => .error .blocked
    | some (.file _ _) => .ok (fs.erase place)

def names (fs : FileSystem) (dir : Location) : List String :=
  fs.entries.filterMap fun e =>
    match e.1.getLast? with
    | some name => if e.1 = dir ++ [name] then some name else none
    | none => none

/-! ## Files without names -/

def isNameless (place : Location) : Bool := place.head? = some ""

/-- Keeps what has no name any more at a place to which no path leads, as names are not empty. -/
def keepNameless (fs : FileSystem) (content : ByteArray) (executable : Bool) :
    FileSystem × Location :=
  let place := ["", toString (fs.entries.countP fun e => isNameless e.1)]
  ({ fs with
    entries := fs.entries ++ [(place, .file content executable)]
    fitting := by
      intro e he
      rcases List.mem_append.1 he with he | he
      · exact fs.fitting e he
      · rw [List.mem_singleton.1 he]
        exact .file }, place)

def dropNameless (fs : FileSystem) : FileSystem :=
  { fs with
    entries := fs.entries.filter fun e => !isNameless e.1
    fitting := fun e he => fs.fitting e (List.mem_filter.1 he).1 }

def absolute (fs : FileSystem) (p : Path) : Path :=
  if p.isAbsolute then p else Path.join fs.current p

end FileSystem

end PoolCheck
