import PoolCheck.Script.Reader.Word

/-!
# Reading tokens

Words, operators, redirections and line ends. An alias is replaced by its text where a command may
stand, and so is a keyword where one is expected.
-/

set_option autoImplicit false

namespace PoolCheck.Script

open Reader

section Tokens

variable (inner : Bool → Reader Command)

def keywords : List String :=
  ["!", "case", "do", "done", "elif", "else", "esac", "fi", "for", "if", "in", "then", "until",
    "while", "\x7b", "\x7d"]

def redirectHead (descriptor : Option Nat) (c : Char) : Reader RedirectHead := do
  let next ← peek
  if c = '>' then
    let d := descriptor.getD 1
    match next with
    | some '>' => drop; pure (.file d .append)
    | some '|' => drop; pure (.file d .replace)
    | some '&' => drop; pure (.duplicate d)
    | _ => pure (.file d .write)
  else
    let d := descriptor.getD 0
    match next with
    | some '<' =>
      drop
      if (← peek) = some '-' then
        drop
        pure (.document d true)
      else pure (.document d false)
    | some '&' => drop; pure (.duplicate d)
    | some '>' => drop; pure (.file d .both)
    | _ => pure (.file d .read)

def descriptor? : Word → Option (Option Nat)
  | [] => some none
  | [.char c] => if c.isDigit then some (some (c.toNat - 48)) else none
  | _ => none

def wordOrRedirect (bare : Bool) : Reader Token := do
  let w := (← plainText inner ⟨none, bare⟩ false [] (2 * (← get).rest.length + 2)).reverse
  let asWord : Reader Token := do
    modify fun c => { c with word := w }
    pure (.word w)
  match ← peek with
  | some c =>
    if c = '<' || c = '>' then
      match descriptor? w with
      | some d =>
        drop
        pure (.redirect (← redirectHead d c))
      | none => asWord
    else asWord
  | none => asWord

def doubled (c : Char) : Reader Token := do
  drop
  if (← peek) = some c then
    drop
    pure (.operator (String.ofList [c, c]))
  else pure (.operator (String.singleton c))

def freshToken (bare : Bool) : Nat → Reader Token
  | 0 => pure .finish
  | n + 1 => do
    match ← peek with
    | none => pure .finish
    | some c =>
      if c = ' ' || c = '\t' then
        drop
        freshToken bare n
      else if c = '#' then
        modify fun c => { c with rest := c.rest.dropWhile (· ≠ '\n') }
        freshToken bare n
      else if c = '\n' then
        drop
        pure .newline
      else if c = '&' || c = '|' || c = ';' then doubled c
      else if c = '(' || c = ')' then
        drop
        pure (.operator (String.singleton c))
      else wordOrRedirect inner bare

def nextToken (bare : Bool) : Reader Token := do
  match (← get).held with
  | some t => modify fun c => { c with held := none }; pure t
  | none => freshToken inner bare ((← get).rest.length + 1)

def hold (t : Token) : Reader Unit := modify fun c => { c with held := some t }

def pastNewlines : Nat → Token → Reader Token
  | n + 1, .newline => do
    readDocuments inner
    pastNewlines n (← nextToken inner false)
  | _, t => pure t

structure Expecting where
  newlines : Bool
  keywords : Bool
  aliases : Bool

def spliceAlias (name : String) : Reader Bool := do
  let c ← get
  match c.aliases.lookup name with
  | none => pure false
  | some text =>
    let used := c.used.filter fun u => u.2 ≤ c.rest.length
    if used.any fun u => u.1 = name then pure false
    else
      let endsBlank := text.getLast?.any fun d => d = ' ' || d = '\t'
      set { c with
        rest := text ++ c.rest
        used := (name, c.rest.length) :: used
        blankAt := if endsBlank then some c.rest.length else c.blankAt }
      pure true

/-- The next token. Behind an alias that ends with a blank there may be another alias. -/
def tokenFor (e : Expecting) : Nat → Reader Token
  | 0 => pure .finish
  | n + 1 => do
    let before ← get
    let t ← nextToken inner false
    let t ← if e.newlines then pastNewlines inner ((← get).rest.length + 2) t else pure t
    let after ← get
    let isBehind := before.blankAt.any fun k =>
      k < before.rest.length && after.rest.length ≤ k
    match t with
    | .word w =>
      match Part.plain? w with
      | some cs =>
        let name := String.ofList cs
        if e.keywords && keywords.contains name then pure (.keyword name)
        else if e.aliases || isBehind then
          if ← spliceAlias name then tokenFor e n else pure t
        else pure t
      | none => pure t
    | t => pure t

def token (e : Expecting) : Reader Token := tokenFor inner e 100

end Tokens

end PoolCheck.Script
