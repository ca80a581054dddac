import PoolCheck.Script.Basic

/-!
# Reading scripts

A cursor is where reading is, and a reader moves it on. Tokens are what a script is made of.
-/

set_option autoImplicit false

namespace PoolCheck.Script

structure SyntaxFault where
  line : Nat
  cause : String

inductive RedirectHead where
  | file (descriptor : Nat) (mode : FileMode)
  | duplicate (descriptor : Nat)
  | document (descriptor : Nat) (stripTabs : Bool)

inductive Token where
  | word (w : Word)
  | keyword (name : String)
  | operator (text : String)
  | redirect (head : RedirectHead)
  | newline
  | finish

/-- Where a here-document ends: at a line with only its delimiter. -/
structure LastLine where
  delimiter : Chars
  stripTabs : Bool

structure Announced where
  number : Nat
  ending : LastLine
  quoted : Bool

/-- Where reading is. An alias is in use as long as what was there behind its name is not shorter
than the rest. `blankAt` is the length of what was there behind an alias that ends with a blank. -/
structure Cursor where
  rest : Chars
  line : Nat
  held : Option Token
  announced : List Announced
  documents : Array Word
  aliases : List (String × Chars)
  used : List (String × Nat)
  blankAt : Option Nat
  /-- The last word, which stands for patterns that are none. -/
  word : Word

abbrev Reader := StateT Cursor (Except SyntaxFault)

namespace Token

def shown : Token → String
  | word _ => "word"
  | keyword name => "\"" ++ name ++ "\""
  | operator text => "\"" ++ text ++ "\""
  | redirect _ => "redirection"
  | newline => "newline"
  | finish => "end of file"

def isOperator (text : String) : Token → Bool
  | operator t => t = text
  | _ => false

def isKeyword (name : String) : Token → Bool
  | keyword n => n = name
  | _ => false

def endsList : Token → Bool
  | finish => true
  | operator t => t = ")" || t = ";;"
  | keyword n => ["do", "done", "elif", "else", "esac", "fi", "then", "\x7d"].contains n
  | _ => false

end Token

namespace Cursor

def start (text : Chars) (documents : Array Word) (aliases : List (String × Chars)) : Cursor :=
  ⟨text, 1, none, [], documents, aliases, [], none, []⟩

def joined (c : Cursor) : Cursor :=
  let (line, rest) := go c.line c.rest
  { c with line := line, rest := rest }
where
  go : Nat → Chars → Nat × Chars
    | line, '\\' :: '\n' :: rest => go (line + 1) rest
    | line, rest => (line, rest)

def advanced (c : Cursor) : Cursor :=
  match c.rest with
  | [] => c
  | d :: rest => { c with rest := rest, line := if d = '\n' then c.line + 1 else c.line }

end Cursor

namespace Reader

def fail {α : Type} (cause : String) : Reader α := do throw ⟨(← get).line, cause⟩

def unexpected {α : Type} (t : Token) (expected : Option String) : Reader α :=
  fail (t.shown ++ " unexpected" ++
    match expected with
    | some e => " (expecting " ++ e ++ ")"
    | none => "")

def peek : Reader (Option Char) := do
  modify Cursor.joined
  pure (← get).rest.head?

def drop : Reader Unit := modify Cursor.advanced

/-- Like `drop`, but no new line is counted. -/
def skip : Reader Unit := modify fun c => { c with rest := c.rest.tail }

def nextWritten : Reader (Option Char) := do
  let c := (← get).rest.head?
  drop
  pure c

def within {α : Type} (text : Chars) (r : Reader α) : Reader α := do
  let outer ← get
  set { outer with
    rest := text, line := 1, held := none, announced := [], used := [], blankAt := none }
  let a ← r
  modify fun inner =>
    { outer with documents := inner.documents, held := none }
  pure a

def takeWhile (p : Char → Bool) : Nat → Chars → Reader Chars
  | 0, taken => pure taken.reverse
  | n + 1, taken => do
    match ← peek with
    | some c => if p c then drop; takeWhile p n (c :: taken) else pure taken.reverse
    | none => pure taken.reverse

def span (p : Char → Bool) : Reader Chars := do takeWhile p ((← get).rest.length + 1) []

end Reader

end PoolCheck.Script
