import PoolCheck.Script.Reader.Basic

/-!
# Reading words

Words with their quotations and expansions, and here-documents, which are read when the line that
announces them has ended. A command inside of a word is read by a parameter.
-/

set_option autoImplicit false

namespace PoolCheck.Script

open Reader

/-- The quotes around a piece of text. Those of a pattern in a here-document are loose: they do
not keep the values of parameters from being patterns. -/
inductive Quoting where
  | plain
  | double
  | loose
  | sum
  deriving DecidableEq

namespace Quoting

def isQuoted : Quoting → Bool
  | plain | loose => false
  | double | sum => true

end Quoting

/-- How a text is read: inside a here-document or not, with expansions or without. -/
structure Setting where
  here : Option LastLine
  bare : Bool

def endsWord (c : Char) : Bool := "\n <>();&|\t".toList.contains c

def isSpecial (c : Char) : Bool := "!#$*-?@".toList.contains c || c.isDigit

def isEscapable (c : Char) : Bool := c = '\\' || c = '\x60' || c = '$'

/-- At the start of a line of a here-document: what follows its end if this is the end, and else
the line with its tabs taken away. -/
def LastLine.check (e : LastLine) (rest : Chars) : Sum Chars Chars :=
  let line := if e.stripTabs then rest.dropWhile (· = '\t') else rest
  match Text.stripFront? e.delimiter line with
  | some [] => .inl []
  | some ('\n' :: rest) => .inl rest
  | _ => .inr line

/-- To be called behind a line end. True if a here-document ends there. -/
def passLineEnd (s : Setting) : Reader Bool := do
  match s.here with
  | none => pure false
  | some e =>
    match e.check (← get).rest with
    | .inl rest => modify fun c => { c with rest := rest, line := c.line + 1 }; pure true
    | .inr rest => modify fun c => { c with rest := rest }; pure false

def singleText (acc : Word) : Nat → Reader Word
  | 0 => fail "Unterminated quoted string"
  | n + 1 => do
    match ← nextWritten with
    | none => fail "Unterminated quoted string"
    | some '\'' => pure acc
    | some c => singleText (.literal c :: acc) n

def backquoted (inDouble : Bool) (acc : Chars) : Nat → Reader Chars
  | 0 => fail "EOF in backquote substitution"
  | n + 1 => do
    match ← peek with
    | none => fail "EOF in backquote substitution"
    | some '\x60' => drop; pure acc.reverse
    | some '\\' =>
      drop
      match ← nextWritten with
      | none => fail "EOF in backquote substitution"
      | some c =>
        if isEscapable c || (inDouble && c = '"') then backquoted inDouble (c :: acc) n
        else backquoted inDouble (c :: '\\' :: acc) n
    | some c => drop; backquoted inDouble (c :: acc) n

inductive BraceOperator where
  | closed
  | length
  | bad
  | word (make : Word → Change)
  | pattern (fromBack longest : Bool)

def wordOperator? (orEmpty : Bool) (c : Char) : Option BraceOperator :=
  if c = '-' then some (.word (.otherwise orEmpty))
  else if c = '+' then some (.word (.replace orEmpty))
  else if c = '?' then some (.word (.demand orEmpty))
  else if c = '=' then some (.word (.assign orEmpty))
  else none

def braceOperator : Reader BraceOperator := do
  match ← peek with
  | some '\x7d' => skip; pure .closed
  | some ':' =>
    skip
    match ← peek with
    | some c => skip; pure ((wordOperator? true c).getD .bad)
    | none => pure .bad
  | some c =>
    if c = '%' || c = '#' then
      skip
      let longest := (← peek) == some c
      if longest then skip
      pure (.pattern (c = '%') longest)
    else
      skip
      pure ((wordOperator? false c).getD .bad)
  | none => pure .bad

def braceHead : Reader (String × BraceOperator) := do
  let named (name : Chars) : Reader (String × BraceOperator) := do
    pure (String.ofList name, ← braceOperator)
  match ← peek with
  | none => pure ("", .bad)
  | some c =>
    if isNameStart c then named (← span isNameChar)
    else if c.isDigit then named (← span Char.isDigit)
    else if c = '\x7d' then pure ("", .bad)
    else
      skip
      if c ≠ '#' then
        if isSpecial c then named [c] else pure ("", .bad)
      else
        match ← peek with
        | none => named ['#']
        | some d =>
          let measured (name : Chars) : Reader (String × BraceOperator) := do
            pure (String.ofList name, if (← peek) = some '\x7d' then .length else .bad)
          if isNameStart d then measured (← span isNameChar)
          else if d.isDigit then measured (← span Char.isDigit)
          else if d = '\x7d' then named ['#']
          else
            let c ← get
            skip
            if (← peek) = some '\x7d' then
              if isSpecial d then measured [d] else pure ("", .bad)
            else
              set c
              named ['#']

def BraceOperator.change (word : Word) : BraceOperator → Change
  | closed => .keep
  | length => .length
  | bad => .bad
  | .word make => make word
  | .pattern fromBack longest => .cut fromBack longest word

section Words

variable (inner : Bool → Reader Command)

mutual

def plainText (s : Setting) (inBraces : Bool) (acc : Word) : Nat → Reader Word
  | 0 => fail "Missing '\x7d'"
  | n + 1 => do
    match ← peek with
    | none => if inBraces then fail "Missing '\x7d'" else pure acc
    | some c =>
      if c = '\x7d' && inBraces then
        drop
        pure acc
      else if !inBraces && endsWord c then pure acc
      else
        drop
        if c = '\\' then
          plainText s inBraces (.literal ((← nextWritten).getD '\\') :: acc) n
        else if c = '\'' then
          let acc ← singleText (.mark :: acc) ((← get).rest.length + 1)
          plainText s inBraces (.mark :: acc) n
        else if c = '"' then
          let acc ← doubleText s inBraces (.mark :: acc) n
          plainText s inBraces (.mark :: acc) n
        else if (c = '$' || c = '\x60') && !s.bare then
          plainText s inBraces (← expansion s .plain c acc n) n
        else
          if c = '\n' then
            if ← passLineEnd s then fail "Missing '\x7d'"
          plainText s inBraces (.char c :: acc) n

def doubleText (s : Setting) (inBraces : Bool) (acc : Word) : Nat → Reader Word
  | 0 => fail "Unterminated quoted string"
  | n + 1 => do
    match ← peek with
    | none => fail "Unterminated quoted string"
    | some '"' => drop; pure acc
    | some c =>
      drop
      if c = '\\' then
        match ← nextWritten with
        | none => doubleText s inBraces (.literal '\\' :: acc) n
        | some d =>
          if isEscapable d || d = '"' || (d = '\x7d' && inBraces) then
            doubleText s inBraces (.literal d :: acc) n
          else doubleText s inBraces (.literal d :: .literal '\\' :: acc) n
      else if (c = '$' || c = '\x60') && !s.bare then
        let q := if s.here.isSome then .loose else .double
        doubleText s inBraces (← expansion s q c acc n) n
      else
        if c = '\n' then
          if ← passLineEnd s then fail "Unterminated quoted string"
        doubleText s inBraces (.literal c :: acc) n

/-- What is left of braces within double quotes. Quotes in it guard a closing brace. -/
def bracedText (s : Setting) (guarded : Bool) (acc : Word) : Nat → Reader Word
  | 0 => fail "Missing '\x7d'"
  | n + 1 => do
    let cause := if s.here.isSome then "Missing '\x7d'" else "Unterminated quoted string"
    match ← peek with
    | none => fail cause
    | some '"' => drop; bracedText s (!guarded) (.mark :: acc) n
    | some c =>
      drop
      if c = '\x7d' && !guarded then pure acc
      else if c = '\\' then
        match ← nextWritten with
        | none => bracedText s guarded (.literal '\\' :: acc) n
        | some d =>
          if isEscapable d || d = '"' || d = '\x7d' then
            bracedText s guarded (.literal d :: acc) n
          else bracedText s guarded (.literal d :: .literal '\\' :: acc) n
      else if c = '$' || c = '\x60' then
        bracedText s guarded (← expansion s .double c acc n) n
      else
        if c = '\n' then
          if ← passLineEnd s then fail cause
        bracedText s guarded (.literal c :: acc) n

def sumText (s : Setting) (level : Nat) (acc : Word) : Nat → Reader Word
  | 0 => fail "Missing '))'"
  | n + 1 => do
    match ← peek with
    | none => fail "Missing '))'"
    | some c =>
      drop
      if c = '(' then sumText s (level + 1) (.literal c :: acc) n
      else if c = ')' then
        if level ≠ 0 then sumText s (level - 1) (.literal c :: acc) n
        else if (← peek) = some ')' then
          drop
          pure acc
        else sumText s level (.literal c :: acc) n
      else if c = '\\' then
        match ← nextWritten with
        | none => sumText s level (.literal '\\' :: acc) n
        | some d =>
          if isEscapable d || (d = '"' && s.here.isNone) then
            sumText s level (.literal d :: acc) n
          else sumText s level (.literal d :: .literal '\\' :: acc) n
      else if c = '$' || c = '\x60' then sumText s level (← expansion s .sum c acc n) n
      else
        if c = '\n' then
          if ← passLineEnd s then fail "Missing '))'"
        sumText s level (.literal c :: acc) n

def expansion (s : Setting) (q : Quoting) (first : Char) (acc : Word) : Nat → Reader Word
  | 0 => fail "Missing '\x7d'"
  | n + 1 => do
    if first = '\x60' then
      let text ← backquoted (q ≠ .plain) [] ((← get).rest.length + 1)
      pure (.output q.isQuoted (← within text (inner false)) :: acc)
    else
      match ← peek with
      | none => pure (.char '$' :: acc)
      | some c =>
        if c = '(' then
          drop
          if (← peek) = some '(' then
            drop
            let e ← sumText s 0 [] n
            pure (.sum q.isQuoted e.reverse :: acc)
          else pure (.output q.isQuoted (← inner true) :: acc)
        else if c = '\x7b' then
          drop
          let (name, op) ← braceHead
          match op with
          | .closed => pure (.parameter q.isQuoted name .keep :: acc)
          | op =>
            let asPlain : Bool := match op with
              | .pattern _ _ => true
              | _ => decide (q = .plain)
            let word ← if asPlain then plainText s true [] n else bracedText s false [] n
            pure (.parameter q.isQuoted name (op.change word.reverse) :: acc)
        else if isNameStart c then
          pure (.parameter q.isQuoted (String.ofList (← span isNameChar)) .keep :: acc)
        else if isSpecial c then
          drop
          pure (.parameter q.isQuoted (String.singleton c) .keep :: acc)
        else pure (.char '$' :: acc)

end

def hereText (s : Setting) (acc : Word) : Nat → Reader Word
  | 0 => pure acc
  | n + 1 => do
    match ← peek with
    | none => pure acc
    | some c =>
      drop
      if c = '\\' then
        match ← nextWritten with
        | none => hereText s (.literal '\\' :: acc) n
        | some d =>
          if isEscapable d then hereText s (.literal d :: acc) n
          else hereText s (.literal d :: .literal '\\' :: acc) n
      else if c = '$' || c = '\x60' then
        hereText s (← expansion inner s .double c acc ((← get).rest.length + 2)) n
      else if c = '\n' then
        if ← passLineEnd s then pure (.literal c :: acc)
        else hereText s (.literal c :: acc) n
      else hereText s (.literal c :: acc) n

def writtenText (s : Setting) (acc : Word) : Nat → Reader Word
  | 0 => pure acc
  | n + 1 => do
    match ← nextWritten with
    | none => pure acc
    | some '\n' =>
      if ← passLineEnd s then pure (.literal '\n' :: acc)
      else writtenText s (.literal '\n' :: acc) n
    | some c => writtenText s (.literal c :: acc) n

def readDocument (a : Announced) : Reader Unit := do
  let s : Setting := ⟨some a.ending, false⟩
  let size := (← get).rest.length + 1
  let w ←
    if (← get).rest = [] then pure []
    else if ← passLineEnd s then pure []
    else if a.quoted then writtenText s [] size
    else hereText inner s [] size
  modify fun c => { c with documents := c.documents.setIfInBounds a.number w.reverse }

def readDocuments : Reader Unit := do
  let waiting := (← get).announced
  modify fun c => { c with announced := [] }
  waiting.forM (readDocument inner)

end Words

end PoolCheck.Script
