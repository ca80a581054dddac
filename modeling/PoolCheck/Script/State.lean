import PoolCheck.Script.Executable
import PoolCheck.Script.Reader.Command

/-!
# The state of a script

A session is what the processes of a script can see and change: the files, the open files behind
descriptors, the time, and the shell of the process whose turn it is. The shells of the others
stand beside it.
-/

set_option autoImplicit false

namespace PoolCheck.Script

inductive Target where
  | file (place : Location)
  | directory
  | void
  | memory (content : ByteArray)
  | pipe (outlet : Nat)

/-- An open file, which descriptors share. `changed` is the time when a pipe was last written to or
read from. -/
structure OpenFile where
  target : Target
  offset : Nat
  appends : Bool
  readable : Bool
  writable : Bool
  changed : Nat

/-- `kept` tells that it stays when it is unset. -/
structure Variable where
  value : Option Chars
  exported : Bool
  readOnly : Bool
  kept : Bool

namespace Variable

def plain (value : Chars) : Variable := ⟨some value, false, false, false⟩

def fromOutside (value : Chars) : Variable := ⟨some value, true, false, false⟩

end Variable

structure Limit where
  soft : Nat
  hard : Nat

/-- What a call puts back when it is over. -/
inductive Outside where
  | options (letters : Chars)
  | binding (name : String) (v : Option Variable)

/-- Where reading options from arguments is: the next argument, and how much of the one before it
was read, if there is more of it. -/
structure OptionCursor where
  next : Nat
  offset : Option Nat
  deriving Inhabited

def OptionCursor.start : OptionCursor := ⟨1, none⟩

inductive Finish where
  | exited (status : Nat)
  | killed (signal : Nat)
  deriving DecidableEq

/-- A job as its shell knows it: its last process, its number, and of how many commands it is made.
How it has ended is known when the shell has looked at it. -/
structure Child where
  process : Nat
  number : Nat
  stages : Nat
  finish : Option Finish
  waited : Bool

def Child.processes (c : Child) : List Nat :=
  (List.range c.stages).map fun n => c.process + 1 + n - c.stages

/-- `root` is the process that a script takes for its own, also in its subshells. `caller` is the
name of the command on whose behalf complaints are made. `bindings` has the oldest variable first.
`locals` holds what each call that is going on puts back, the latest change first, and `depth`
counts the functions among the calls. The latest child stands first. -/
structure Shell where
  process : Nat
  root : Nat
  name : Chars
  caller : Option Chars
  line : Nat
  reached : Nat
  base : Nat
  arguments : List Chars
  bindings : List (String × Variable)
  locals : List (List Outside)
  depth : Nat
  functions : List (String × Command)
  aliases : List (String × Chars)
  located : List (String × Chars)
  options : Chars
  descriptors : List (Nat × Nat)
  /-- Open files that are kept behind redirections. -/
  held : List Nat
  traps : List (Nat × Chars)
  status : Nat
  outputStatus : Nat
  /-- The status from before a trap, while it is carried out. -/
  interrupted : Option Nat
  loops : Nat
  children : List Child
  latestChild : Option Nat
  optionCursor : OptionCursor
  mask : Nat
  limits : List (Char × Limit)
  isNew : Bool
  ends : Bool
  deriving Inhabited

structure Job where
  process : Nat
  shell : Shell
  tested : Bool
  command : Command
  start : Nat
  directory : Path
  share : Nat

structure Message where
  process : Nat
  signal : Nat
  arrival : Nat

/-- `waiting` are the shells of the current process that wait for an inner one. No other process
does anything before the `horizon`. `started` are the processes that were started since the turn
began, and `living` the shells of all others. -/
structure Session where
  installed : Installed
  shell : Shell
  waiting : List Shell
  files : FileSystem
  origin : Int
  opened : Array OpenFile
  documents : Array Word
  now : Nat
  horizon : Nat
  started : List Job
  living : List Shell
  ended : List (Nat × Nat × Finish)
  signals : List Message
  processes : Nat
  patience : Nat
  /-- How many of them the current process may take. -/
  share : Nat

inductive Halt where
  | exit (status : Option Nat)
  | fault
  | back (status : Option Nat)
  | jump (again : Bool) (levels : Nat)
  | killed (process signal : Nat)
  | expired

namespace Session

def shells (s : Session) : List Shell := s.shell :: s.waiting

def others (s : Session) : List Shell := s.living ++ s.started.map Job.shell

def feeds (s : Session) (outlet : Nat) (shells : List Shell) : Bool :=
  let isInlet (i : Nat) : Bool :=
    match s.opened[i]? with
    | some { target := .pipe j, .. } => j = outlet
    | _ => false
  shells.any fun sh => sh.held.any isInlet || sh.descriptors.any fun d => isInlet d.2

end Session

def Shell.uses (sh : Shell) (i : Nat) : Bool :=
  sh.held.contains i || sh.descriptors.any fun d => d.2 = i

def OpenFile.unread (f : OpenFile) : Nat :=
  match f.target with
  | .memory content => content.size - f.offset
  | _ => 0

namespace Finish

def status : Finish → Nat
  | exited n => n
  | killed signal => 128 + signal

end Finish

end PoolCheck.Script
