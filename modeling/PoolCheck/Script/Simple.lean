import PoolCheck.Script.Builtin.Calling

/-!
# Simple commands

Assignments, redirections and words. The first word tells what is called: a function, a builtin
command or a program.
-/

set_option autoImplicit false

namespace PoolCheck.Script

open Run

section

variable (self : Task → Run Unit)

inductive Resolved where
  | builtin (e : Builtin.Entry)
  | function (body : Command)
  | other

def resolve (tested withFunctions : Bool) (name : Chars) : Run Resolved := do
  let key := String.ofList name
  let sh ← shell
  let body := if withFunctions then sh.functions.lookup key else none
  match body, (builtins self tested).find? fun e => e.name = key with
  | some body, _ => pure (.function body)
  | none, some e => pure (.builtin e)
  | none, none => pure .other

/-- The first fields of some words, and the words after those that gave none. -/
def firstFields : List Word → Run (List Chars × List Word)
  | [] => pure ([], [])
  | w :: ws => do
    match ← wordFields (substitute self) w with
    | [] => firstFields ws
    | fields => pure (fields, ws)

def argumentFields (assigns : Bool) (w : Word) : Run (List Chars) := do
  match if assigns then assignment? w else none with
  | some (name, value) =>
    pure [name.toList ++ '=' :: (← wordValue (substitute self) value)]
  | none => wordFields (substitute self) w

/-- A command with its name looked up: what its first words have given, and the words behind them.
`plain` tells that it was called without detours, which matters for faults of special ones, and
`detour` has the fields of the detours. `dirs` says where programs are looked for, if not where the
variable for it says. -/
structure Called where
  resolved : Resolved
  fields : List Chars
  rest : List Word
  plain : Bool
  detour : List Chars
  dirs : Option Chars

namespace Called

def start (fields : List Chars) (rest : List Word) : Called :=
  ⟨.other, fields, rest, true, [], none⟩

def builtin? (t : Called) : Option Builtin.Entry :=
  match t.resolved with
  | .builtin e => some e
  | _ => none

def isSpecial (t : Called) : Bool := t.plain && t.builtin?.any Builtin.Entry.special

def isExec (t : Called) : Bool := t.builtin?.any fun e => e.name = "exec"

def assigns (t : Called) : Bool := t.builtin?.any Builtin.Entry.assigns

end Called

/-- The options of a call by way of another command, and what is called: nothing if it only
describes. -/
def detour? : List Chars → Option (Bool × List Chars)
  | [] => some (false, [])
  | arg :: rest =>
    match arg with
    | ['-', '-'] => some (false, rest)
    | '-' :: c :: cs =>
      if (c :: cs).all (· = 'p') then (detour? rest).map fun (_, rest) => (true, rest) else none
    | _ => some (false, arg :: rest)

def detourFields (args : List Chars) (rest : List Word) : Run (List Chars × List Word) := do
  let (args, rest) ← if args = [] then firstFields self rest else pure (args, rest)
  if args.all fun a => a.head? = some '-' then
    let (more, rest) ← firstFields self rest
    pure (args ++ more, rest)
  else pure (args, rest)

def lookUp (tested : Bool) : Nat → Called → Run Called
  | 0, t => pure t
  | n + 1, t =>
    match t.fields with
    | [] => pure t
    | name :: args => do
      let t := { t with resolved := ← resolve self tested t.plain name }
      if t.builtin?.any fun e => e.name = "command" then
        let (args, rest) ← detourFields self args t.rest
        match detour? args with
        | none | some (_, []) => pure { t with fields := name :: args, rest := rest }
        | some (standard, inner) =>
          let detour := t.detour ++ (name :: args).take (args.length + 1 - inner.length)
          lookUp tested n ⟨.other, inner, rest, false, detour,
            if standard then some standardPath else t.dirs⟩
      else pure t

def detourLimit : Nat := 20

def runBuiltin (special : Bool) (e : Builtin.Entry) (args : List Chars) : Run Unit := do
  let caller := (← shell).caller
  changeShell fun sh => { sh with caller := some e.name.toList }
  let r ← attempt (e.run args)
  changeShell fun sh => { sh with caller := caller }
  match r with
  | .error .fault => if special then throw .fault
  | r => resume r

def functionDepth : Nat := 1000

def callFunction (tested : Bool) (body : Command) (args : List Chars) : Run Unit := do
  let sh ← shell
  if functionDepth ≤ sh.depth then
    faultText "Maximum function recursion depth (1000) reached"
  setShell { sh with
    arguments := args, optionCursor := .start, depth := sh.depth + 1, loops := 0 }
  let r ← attempt (self (.command tested body))
  changeShell fun inner => { inner with
    arguments := sh.arguments, optionCursor := sh.optionCursor
    depth := sh.depth, loops := sh.loops }
  match r with
  | .error (.back n) => setStatus (n.getD (← status))
  | r => resume r

def callOther (dirs : Option Chars) (name : Chars) (args : List Chars) : Run Unit := do
  match ← execute self dirs name args with
  | .ok f => takeOver f
  | .error e =>
    spend searching
    complain (name ++ ": ".toList ++ e.text.toList)
    setStatus (if name.contains '/' then e.status else 127)

def expandedText (cs : Chars) : Run Chars := do
  let s ← get
  match readText { Cursor.start cs #[] [] with documents := s.documents } with
  | .error e =>
    changeShell fun sh => { sh with line := e.line }
    complain ("Syntax error: ".toList ++ e.cause.toList)
    changeShell fun sh => { sh with line := s.shell.line }
    pure cs
  | .ok (w, cursor) =>
    set { s with
      documents := cursor.documents
      shell := { s.shell with options := s.shell.options.filter (· ≠ 'x') } }
    let r ← attempt (wordText (substitute self) w)
    changeShell fun sh => { sh with options := s.shell.options }
    match r with
    | .error .fault => pure cs
    | r => resume r

def trace (assignments : List (String × Chars)) (fields : List Chars) : Run Unit := do
  let sh ← shell
  if sh.hasOption 'x' then
    let front ← expandedText self ((sh.value? "PS4").getD [])
    let texts := assignments.map (fun (name, value) => name.toList ++ '=' :: value) ++ fields
    let _ ← writeChars 2 (front ++ Text.join [' '] texts ++ ['\n'])

/-- Assignments one after the other, so that each sees those before it. -/
def assignAll (assign : String → Chars → Run Unit) :
    List (String × Word) → Run (List (String × Chars))
  | [] => pure []
  | (name, w) :: rest => do
    let value ← wordValue (substitute self) w
    assign name value
    pure ((name, value) :: (← assignAll assign rest))

def callTarget (tested : Bool) (t : Called) (fields : List Chars) : Run Unit :=
  match t.resolved, fields with
  | _, [] => do setStatus (← shell).outputStatus
  | .builtin e, _ :: args => runBuiltin (e.special && t.plain) e args
  | .function body, _ :: args => callFunction self tested body args
  | .other, name :: args => callOther self t.dirs name args

/-- Whether a shell comes to its end, unless something on the way takes up a fault. -/
def isFinal : Except Halt Unit → Bool
  | .ok _ | .error (.back _) | .error (.jump _ _) => false
  | .error _ => true

def simple (tested : Bool) (line : Nat) (assignments : List (String × Word)) (words : List Word)
    (redirects : List Redirect) : Run Unit := do
  changeShell fun sh => { sh with line := line, outputStatus := 0 }
  let (fields, rest) ← firstFields self words
  let t ← lookUp self tested detourLimit (.start fields rest)
  let more ← t.rest.mapM (argumentFields self t.assigns)
  let fields := t.fields ++ more.flatten
  let outer := (← shell).locals
  let isCall := fields ≠ [] && !t.isSpecial
  if isCall then changeShell fun sh => { sh with locals := [] :: outer }
  let connections ← redirects.mapM (connectionOf self)
  let old ← remember redirects
  let body : Run Unit := do
    if ← establishAll self connections then
      let values ← assignAll self (fun name value =>
        if isCall then makeLocal name.toList (some value) true
        else assign name value (t.isExec && 1 < fields.length)) assignments
      trace self values (t.detour ++ fields)
      callTarget self tested t fields
    else if t.isSpecial then throw .fault
  let r ← attempt (if t.isExec then body else ensuring body (putBack old))
  if !isFinal r then leaveCalls outer.length
  resume r

end

end PoolCheck.Script
