import PoolCheck.Script.Reader.Token

/-!
# Reading commands

A script is read one complete command at a time, so that a command can change how those behind it
are read. What is nested is read by a parameter.
-/

set_option autoImplicit false

namespace PoolCheck.Script

open Reader

/-- How far a list of commands goes: to the end of its line, to a word that ends it, or the same
with perhaps no command at all. -/
inductive Extent where
  | line
  | body
  | free
  deriving DecidableEq

inductive Goal where
  | list (x : Extent)
  | command

section Commands

variable (within : Goal → Reader Command)

def substituted (bracketed : Bool) : Reader Command := do
  let waiting := (← get).announced
  modify fun c => { c with announced := [] }
  let body ← within (.list .free)
  if bracketed then
    let t ← token (fun _ => within (.list .free)) ⟨false, false, false⟩
    unless t.isOperator ")" do unexpected t (some "\")\"")
  modify fun c => { c with announced := waiting, held := none }
  pure body

def tokenAt (newlines keywords aliases : Bool) : Reader Token :=
  token (substituted within) ⟨newlines, keywords, aliases⟩

def expectKeyword (name : String) : Reader Unit := do
  let t ← tokenAt within false false false
  unless t.isKeyword name do unexpected t (some ("\"" ++ name ++ "\""))

def announce (descriptor : Nat) (stripTabs : Bool) : Reader Redirect := do
  let t ← nextToken (substituted within) true
  match t with
  | .word w =>
    let number := (← get).documents.size
    let a : Announced := ⟨number, ⟨Part.unquoted w, stripTabs⟩, w.any Part.isQuotation⟩
    modify fun c => { c with
      documents := c.documents.push []
      announced := c.announced ++ [a] }
    pure (.document descriptor number)
  | t => unexpected t none

def redirectTarget : RedirectHead → Reader Redirect
  | .document d stripTabs => announce within d stripTabs
  | .file d mode => do
    match ← tokenAt within false false false with
    | .word w => pure (.file d mode w)
    | t => unexpected t none
  | .duplicate d => do
    match ← tokenAt within false false false with
    | .word w => pure (.duplicate d w)
    | t => unexpected t none

def redirectsAfter (acc : List Redirect) : Nat → Reader (List Redirect)
  | 0 => pure acc.reverse
  | n + 1 => do
    match ← tokenAt within false true true with
    | .redirect head => do
      let r ← redirectTarget within head
      redirectsAfter (r :: acc) n
    | t =>
      hold t
      pure acc.reverse

def assignment? (w : Word) : Option (String × Word) :=
  let isPlain : Part → Bool
    | .char c => c ≠ '='
    | _ => false
  let front := w.takeWhile isPlain
  match Part.plain? front, w.drop front.length with
  | some name, .char '=' :: value =>
    if isName name then some (String.ofList name, value) else none
  | _, _ => none

def specialNames : List String :=
  [".", ":", "break", "continue", "eval", "exec", "exit", "export", "readonly", "return", "set",
    "shift", "times", "trap", "unset"]

structure Draft where
  assignments : List (String × Word)
  words : List Word
  redirects : List Redirect

def function (w : Word) : Reader Command := do
  let t ← tokenAt within false false false
  unless t.isOperator ")" do unexpected t (some "\")\"")
  match Part.plain? w with
  | some cs =>
    if isName cs && !specialNames.contains (String.ofList cs) then
      let t ← tokenAt within true true true
      hold t
      pure (.define (String.ofList cs) (← within .command))
    else fail "Bad function name"
  | none => fail "Bad function name"

def simpleFrom (line : Nat) (d : Draft) : Nat → Reader Command
  | 0 => pure .nothing
  | n + 1 => do
    let t ← tokenAt within false false d.words.isEmpty
    match t with
    | .word w =>
      match d.words, assignment? w with
      | [], some a => simpleFrom line { d with assignments := a :: d.assignments } n
      | _, _ => simpleFrom line { d with words := w :: d.words } n
    | .redirect head =>
      let r ← redirectTarget within head
      simpleFrom line { d with redirects := r :: d.redirects } n
    | t =>
      match t.isOperator "(", d with
      | true, ⟨[], [w], []⟩ => function within w
      | _, _ =>
        hold t
        pure (.simple line d.assignments.reverse d.words.reverse d.redirects.reverse)

def elseParts : Nat → Reader Command
  | 0 => pure .nothing
  | n + 1 => do
    let t ← tokenAt within false false false
    match t with
    | .keyword "elif" =>
      let test ← within (.list .body)
      expectKeyword within "then"
      let yes ← within (.list .body)
      pure (.choose test yes (← elseParts n))
    | .keyword "else" => within (.list .body)
    | t =>
      hold t
      pure .nothing

def condition : Reader Command := do
  let test ← within (.list .body)
  expectKeyword within "then"
  let yes ← within (.list .body)
  let no ← elseParts within ((← get).rest.length + 1)
  expectKeyword within "fi"
  pure (.choose test yes no)

def loopOf (untilTrue : Bool) : Reader Command := do
  let test ← within (.list .body)
  expectKeyword within "do"
  let body ← within (.list .body)
  expectKeyword within "done"
  pure (.loop untilTrue test body)

def listWords (acc : List Word) : Nat → Reader (List Word × Token)
  | 0 => pure (acc.reverse, .finish)
  | n + 1 => do
    match ← tokenAt within false false false with
    | .word w => listWords (w :: acc) n
    | t => pure (acc.reverse, t)

def eachOf (line : Nat) : Reader Command := do
  let name ← match ← tokenAt within false false false with
    | .word w =>
      match Part.plain? w with
      | some cs => if isName cs then pure (String.ofList cs) else fail "Bad for loop variable"
      | none => fail "Bad for loop variable"
    | _ => fail "Bad for loop variable"
  let t ← tokenAt within true true true
  let words ←
    if t.isKeyword "in" then do
      let (words, t) ← listWords within [] ((← get).rest.length + 1)
      match t with
      | .newline => readDocuments (substituted within)
      | t => unless t.isOperator ";" do unexpected t none
      pure words
    else do
      unless t.isOperator ";" do hold t
      pure [[.mark, .parameter true "@" .keep, .mark]]
  let t ← tokenAt within true true true
  unless t.isKeyword "do" do unexpected t (some "\"do\"")
  let body ← within (.list .body)
  expectKeyword within "done"
  pure (.each line name words body)

def patterns (acc : List Word) : Nat → Token → Reader (List Word)
  | 0, t => unexpected t none
  | n + 1, t => do
    let w ← match t with
      | .word w => pure w
      | .keyword name => pure (name.toList.map .char)
      | _ => pure (← get).word
    let t ← tokenAt within false false false
    if t.isOperator "|" then patterns (w :: acc) n (← tokenAt within false false false)
    else if t.isOperator ")" then pure (w :: acc).reverse
    else unexpected t (some "\")\"")

def branches (acc : List (List Word × Command)) : Nat → Token → Reader (List (List Word × Command))
  | 0, _ => pure acc.reverse
  | n + 1, t => do
    if t.isKeyword "esac" then pure acc.reverse
    else
      let t ← if t.isOperator "(" then tokenAt within false false false else pure t
      let ps ← patterns within [] ((← get).rest.length + 2) t
      let body ← within (.list .free)
      let t ← tokenAt within true true false
      let acc := (ps, body) :: acc
      if t.isKeyword "esac" then pure acc.reverse
      else if t.isOperator ";;" then branches acc n (← tokenAt within true true false)
      else unexpected t (some "\";;\"")

def matchingOf (line : Nat) : Reader Command := do
  match ← tokenAt within false false false with
  | .word subject =>
    let t ← tokenAt within true true true
    unless t.isKeyword "in" do unexpected t (some "\"in\"")
    let t ← tokenAt within true true false
    pure (.matching line subject (← branches within [] ((← get).rest.length + 1) t))
  | t => unexpected t (some "word")

def closedBy (name : String) : Reader Command := do
  let body ← within (.list .body)
  expectKeyword within name
  pure body

def redirectedBy (line : Nat) (body : Command) : Reader Command := do
  let rs ← redirectsAfter within [] ((← get).rest.length + 2)
  match body, rs with
  | body, [] => pure body
  | .subshell line body _, rs => pure (.subshell line body rs)
  | body, rs => pure (.redirected line body rs)

def command : Reader Command := do
  let line := (← get).line
  let t ← tokenAt within false false false
  match t with
  | .keyword "if" => redirectedBy within line (← condition within)
  | .keyword "while" => redirectedBy within line (← loopOf within false)
  | .keyword "until" => redirectedBy within line (← loopOf within true)
  | .keyword "for" => redirectedBy within line (← eachOf within line)
  | .keyword "case" => redirectedBy within line (← matchingOf within line)
  | .keyword "\x7b" => redirectedBy within line (← closedBy within "\x7d")
  | .operator "(" =>
    let body ← within (.list .body)
    let t ← tokenAt within false false false
    unless t.isOperator ")" do unexpected t (some "\")\"")
    redirectedBy within line (.subshell line body [])
  | .word _ | .redirect _ =>
    hold t
    simpleFrom within (← get).line ⟨[], [], []⟩ ((← get).rest.length + 4)
  | t => unexpected t none

def stages (acc : List Command) : Nat → Reader (List Command)
  | 0 => pure acc.reverse
  | n + 1 => do
    let t ← tokenAt within false false false
    if t.isOperator "|" then
      hold (← tokenAt within true true true)
      let c ← command within
      stages (c :: acc) n
    else
      hold t
      pure acc.reverse

def pipeline : Reader Command := do
  let t ← tokenAt within false false false
  let negated := t.isKeyword "!"
  if negated then hold (← tokenAt within false true true) else hold t
  let first ← command within
  let rest ← stages within [] ((← get).rest.length + 1)
  let all := if rest.isEmpty then first else .pipeline (first :: rest)
  pure (if negated then .negate all else all)

def chainFrom (left : Command) : Nat → Reader Command
  | 0 => pure left
  | n + 1 => do
    let t ← tokenAt within false false false
    if t.isOperator "&&" then
      hold (← tokenAt within true true true)
      let right ← pipeline within
      chainFrom (.both left right) n
    else if t.isOperator "||" then
      hold (← tokenAt within true true true)
      let right ← pipeline within
      chainFrom (.either left right) n
    else
      hold t
      pure left

def chain : Reader Command := do
  let first ← pipeline within
  chainFrom within first ((← get).rest.length + 1)

/-- A list of commands. The end of the script is left to be read again. -/
def listFrom (x : Extent) (first : Bool) (acc : Command) : Nat → Reader Command
  | 0 => pure acc
  | n + 1 => do
    let t ← tokenAt within (x ≠ .line) true true
    match t with
    | .newline =>
      readDocuments (substituted within)
      pure acc
    | .finish =>
      readDocuments (substituted within)
      hold t
      pure acc
    | t =>
      hold t
      if t.endsList && (x = .free || (x = .body && !first)) then pure acc
      else
        let c ← chain within
        let t ← tokenAt within false false false
        let acc := acc.andThen (if t.isOperator "&" then .background c else c)
        match t with
        | .newline | .finish =>
          hold t
          listFrom x false acc n
        | t =>
          if t.isOperator ";" || t.isOperator "&" then listFrom x false acc n
          else if x = .line then unexpected t none
          else
            hold t
            pure acc

def goal : Goal → Reader Command
  | .list x => do listFrom within x true .nothing ((← get).rest.length + 2)
  | .command => command within

end Commands

def readGoal : Nat → Goal → Reader Command
  | 0, _ => fail "nested too deeply"
  | n + 1, g => goal (readGoal n) g

def nestingLimit : Nat := 500

def readText (c : Cursor) : Except SyntaxFault (Word × Cursor) := do
  let inner := substituted (readGoal nestingLimit)
  let never : LastLine := ⟨['\x00'], false⟩
  let (w, after) ← (hereText inner ⟨some never, false⟩ [] (c.rest.length + 1)).run c
  pure (w.reverse, after)

def nextCommand (c : Cursor) : Except SyntaxFault (Option (Command × Cursor)) := do
  let (command, after) ← (readGoal nestingLimit (.list .line)).run { c with held := none }
  match after.held, command with
  | some .finish, .nothing => pure none
  | _, _ => pure (some (command, after))

end PoolCheck.Script
