import PoolCheck.Script.Simple

/-!
# Carrying out commands

Commands are carried out on a session. What is nested is left to a parameter, which in the end is
the same for less deep nesting. Every command takes one step of the patience of the session.
-/

set_option autoImplicit false

namespace PoolCheck.Script

open Run

section

variable (self : Task → Run Unit)

/-! ## Texts -/

def linesBetween (first last : Nat) : List Chars → Chars
  | [] => []
  | [l] => if first ≤ 1 && 1 < last then l else []
  | l :: ls =>
    (if first ≤ 1 && 1 < last then l ++ ['\n'] else []) ++ linesBetween (first - 1) (last - 1) ls

def showLines (origin : Origin) (all : Chars) (first last : Nat) : Run Unit := do
  if origin ≠ .words && first < last && (← shell).hasOption 'v' then
    let _ ← writeChars 2 (linesBetween first last (Text.split '\n' all))

def runNext (tested : Bool) (origin : Origin) (all : Chars) (state : Cursor × Bool) :
    Run ((Cursor × Bool) × Bool) := do
  let (cursor, any) := state
  let s ← get
  let cursor := { cursor with documents := s.documents, aliases := s.shell.aliases }
  let first := cursor.line
  let isBehind := cursor.rest = []
  match nextCommand cursor with
  | .error e =>
    showLines origin all first (e.line + 1)
    changeShell fun sh => { sh with line := e.line }
    faultText ("Syntax error: " ++ e.cause)
  | .ok none =>
    if !isBehind then showLines origin all first (all.length + 2)
    pure ((cursor, any), false)
  | .ok (some (c, cursor)) =>
    showLines origin all first (if cursor.rest = [] then cursor.line + 1 else cursor.line)
    modify fun s => { s with
      documents := cursor.documents
      shell := { s.shell with
        reached := cursor.line
        base := if origin = .script then cursor.line else s.shell.base } }
    match c with
    | .nothing => pure ((cursor, any), true)
    | c =>
      self (.command tested c)
      pure ((cursor, true), true)

def runText (tested : Bool) (origin : Origin) (cs : Chars) : Run Unit := do
  let { reached, .. } ← shell
  let (_, any) ← repeated (runNext self tested origin cs) (Cursor.start cs #[] [], false)
  changeShell fun sh => { sh with reached := reached }
  if !any then setStatus 0

/-! ## Compound commands -/

inductive Landing where
  | through
  | again
  | out
  deriving DecidableEq

/-- Runs a part of a loop, at which jumps land. -/
def landing (act : Run Unit) : Run Landing := do
  match ← attempt act with
  | .ok _ => pure .through
  | .error (.jump again n) =>
    if n ≤ 1 then pure (if again then .again else .out) else throw (.jump again (n - 1))
  | .error h => throw h

def looping (act : Run Nat) : Run Unit := do
  let loops := (← shell).loops
  changeShell fun sh => { sh with loops := loops + 1 }
  setStatus (← ensuring act (changeShell fun sh => { sh with loops := loops }))

def loopPass (tested untilTrue : Bool) (test body : Command) (last : Nat) : Run (Nat × Bool) := do
  tick
  match ← landing (self (.command true test)) with
  | .out => pure (last, false)
  | .again => pure (last, true)
  | .through =>
    if ((← status) = 0) = untilTrue then pure (last, false)
    else
      let l ← landing (self (.command tested body))
      pure (← status, l ≠ .out)

def eachPass (tested : Bool) (name : String) (body : Command) (state : List Chars × Nat) :
    Run ((List Chars × Nat) × Bool) := do
  match state with
  | ([], last) => pure (([], last), false)
  | (field :: rest, _) =>
    Builtin.setChecked name.toList field false
    let l ← landing (self (.command tested body))
    pure ((rest, ← status), l ≠ .out)

def forEach (tested : Bool) (name : String) (words : List Word) (body : Command) : Run Unit := do
  let fields := (← words.mapM (wordFields (substitute self))).flatten
  looping (do
    let (_, last) ← repeated (eachPass self tested name body) (fields, 0)
    pure last)

def branchFor (subject : Chars) : List (List Word × Command) → Run (Option Command)
  | [] => pure none
  | (patterns, body) :: rest => do
    let fits ← patterns.foldlM (fun (fits : Bool) w => do
      if fits then pure true
      else pure ((← wordPattern (substitute self) w).covers subject)) false
    if fits then pure (some body) else branchFor subject rest

def chooseBranch (tested : Bool) (subject : Word) (branches : List (List Word × Command)) :
    Run Unit := do
  let text ← wordText (substitute self) subject
  match ← branchFor self text branches with
  | none | some .nothing => setStatus 0
  | some body => self (.command tested body)

/-- Looks up where the programs of a pipeline are, as far as they are named as such. -/
def lookAhead (tested : Bool) : Command → Run Unit
  | .simple _ _ (w :: _) _ => do
    match (Part.plain? w).filter isName with
    | none => pure ()
    | some name =>
      match ← resolve self tested true name with
      | .other => let _ ← locateCommand none name
      | _ => pure ()
  | _ => pure ()

def pipe (tested : Bool) (stages : List Command) : Run Unit := do
  stages.forM (lookAhead self tested)
  changeShell Shell.makeRoom
  let processes ← startStages id tested none stages
  let finishes ← processes.mapM (awaitProcess false)
  lookAtChildren
  takeOver (finishes.getLast?.join.getD (.exited 0))

/-- Ends a strict shell if nobody looks at a status that is not zero. -/
def checkStatus (tested : Bool) : Run Unit := do
  let sh ← shell
  if !tested && sh.status ≠ 0 && sh.hasOption 'e' then throw (.exit (some sh.status))

def compound (tested : Bool) : Command → Run Unit
  | .nothing => pure ()
  | .simple line assignments words redirects => do
    simple self tested line assignments words redirects
    checkStatus tested
  | .pipeline stages => do
    pipe self tested stages
    checkStatus tested
  | .subshell line body redirects => do
    changeShell fun sh => { sh with line := line }
    let connections ← redirects.mapM (connectionOf self)
    let f ← separately self id (do
      if ← establishAll self connections then self (.command tested body)
      else throw (.exit (some 2)))
    takeOver f
    checkStatus tested
  | .background body => startJob body
  | .negate body => do
    self (.command true body)
    setStatus (if (← status) = 0 then 1 else 0)
  | .sequence first second => do
    self (.command tested first)
    self (.command tested second)
  | .both first second => do
    self (.command true first)
    if (← status) = 0 then self (.command tested second)
  | .either first second => do
    self (.command true first)
    if (← status) ≠ 0 then self (.command tested second)
  | .redirected line body redirects => do
    changeShell fun sh => { sh with line := line }
    redirected self redirects (self (.command tested body))
  | .choose test yes no => do
    self (.command true test)
    if (← status) = 0 then self (.command tested yes)
    else
      match no with
      | .nothing => setStatus 0
      | no => self (.command tested no)
  | .loop untilTrue test body =>
    looping (repeated (loopPass self tested untilTrue test body) 0)
  | .each line name words body => do
    changeShell fun sh => { sh with line := line }
    forEach self tested name words body
  | .matching line subject branches => do
    changeShell fun sh => { sh with line := line }
    chooseBranch self tested subject branches
  | .define name body => do
    changeShell fun sh => { sh with
      functions := (name, body) :: sh.functions.filter fun f => f.1 ≠ name }
    setStatus 0

def perform : Task → Run Unit
  | .text tested origin cs => runText self tested origin cs
  | .command _ .nothing => pure ()
  | .command tested c => do
    tick
    present
    takeSignals self
    if !(← shell).hasOption 'n' then compound self tested c
    takeSignals self

end

def processDepth : Nat := 100

/-- Carries out what is nested at most so deep. Deeper nesting is more than a process can hold. -/
def run : Nat → Task → Run Unit
  | 0, _ => do
    let s ← get
    throw (if processDepth < s.waiting.length then .expired else .killed s.shell.process 11)
  | n + 1, t => perform (run n) t

def nestingDepth : Nat := 12000

def runTask (t : Task) : Run Unit := run nestingDepth t

end PoolCheck.Script
