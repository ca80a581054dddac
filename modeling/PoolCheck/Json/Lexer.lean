import PoolCheck.Binary32.Reading
import PoolCheck.Json.Basic

/-!
# Lexing JSON

A text is cut into words, strings and punctuation. A word is a longest run of characters that
cannot stand for anything else; it is one of three names or a number. A number that is too large
has no value. The bounds of a string are found first, and its escapes are decoded after that; a
string with a lone surrogate has no value.
-/

set_option autoImplicit false

namespace PoolCheck.Json

def isBlank (c : Char) : Bool := c = ' ' || c = '\t' || c = '\n' || c = '\r'

/-! ## Strings -/

/-- A character, or one code unit of sixteen bits given by an escape. -/
inductive Piece where
  | char (c : Char)
  | unit (n : Nat)
  deriving DecidableEq

def hexValue? (c : Char) : Option Nat :=
  if '0' ≤ c ∧ c ≤ '9' then some (c.toNat - 48)
  else if 'a' ≤ c ∧ c ≤ 'f' then some (c.toNat - 87)
  else if 'A' ≤ c ∧ c ≤ 'F' then some (c.toNat - 55)
  else none

def unit? (a b c d : Char) : Option Nat := do
  some ((((← hexValue? a) * 16 + (← hexValue? b)) * 16 + (← hexValue? c)) * 16 + (← hexValue? d))

def named? (c : Char) : Option Char :=
  if c = '"' ∨ c = '\\' ∨ c = '/' then some c
  else if c = 'n' then some '\n'
  else if c = 't' then some '\t'
  else if c = 'r' then some '\r'
  else if c = 'b' then some '\x08'
  else if c = 'f' then some '\x0c'
  else none

def pieces? : List Char → Option (List Piece)
  | [] => some []
  | '\\' :: 'u' :: a :: b :: c :: d :: rest => do
    some (.unit (← unit? a b c d) :: (← pieces? rest))
  | '\\' :: c :: rest => do some (.char (← named? c) :: (← pieces? rest))
  | c :: rest =>
    if c = '\\' ∨ c.toNat < 32 then none else (pieces? rest).map (.char c :: ·)

def isHigh (n : Nat) : Bool := 0xd800 ≤ n && n < 0xdc00

def isLow (n : Nat) : Bool := 0xdc00 ≤ n && n < 0xe000

/-- Joins pairs of surrogate units. A surrogate without its partner has no value. -/
def join? : List Piece → Option (List Char)
  | [] => some []
  | .char c :: rest => (join? rest).map (c :: ·)
  | .unit n :: .unit m :: rest =>
    if isHigh n then
      if isLow m then
        (join? rest).map (Char.ofNat (0x10000 + (n - 0xd800) * 0x400 + (m - 0xdc00)) :: ·)
      else none
    else if isLow n then none
    else (join? (.unit m :: rest)).map (Char.ofNat n :: ·)
  | .unit n :: rest =>
    if isHigh n || isLow n then none else (join? rest).map (Char.ofNat n :: ·)

def stringToken (raw : List Char) : Token :=
  match pieces? raw with
  | some ps => .string ((join? ps).map String.ofList)
  | none => .unreadable

/-! ## Words -/

def exponent? : List Char → Option (Option Int)
  | [] => some none
  | mark :: cs =>
    if mark = 'e' ∨ mark = 'E' then
      let negative : Bool := cs.head? = some '-'
      let body := if cs.head? = some '-' ∨ cs.head? = some '+' then cs.tail else cs
      if body = [] ∨ !body.all Char.isDigit then none
      else
        let n : Nat := Nat.ofDigitChars 10 body 0
        some (some (if negative then -(n : Int) else n))
    else none

def unsigned? (negative : Bool) (cs : List Char) : Option Literal :=
  let whole := cs.takeWhile Char.isDigit
  if whole = [] ∨ (whole.head? = some '0' ∧ whole ≠ ['0']) then none
  else
    match cs.dropWhile Char.isDigit with
    | '.' :: rest =>
      let fraction := rest.takeWhile Char.isDigit
      if fraction = [] then none
      else (exponent? (rest.dropWhile Char.isDigit)).map fun e => ⟨negative, whole, fraction, e⟩
    | rest => (exponent? rest).map fun e => ⟨negative, whole, [], e⟩

def literal? : List Char → Option Literal
  | '-' :: cs => unsigned? true cs
  | cs => unsigned? false cs

/-- Two names for truth values, one for nothing; any other word is a number. -/
def wordToken (w : List Char) : Token :=
  if w = ['t', 'r', 'u', 'e'] then .bool true
  else if w = ['f', 'a', 'l', 's', 'e'] then .bool false
  else if w = ['n', 'u', 'l', 'l'] then .null
  else
    match literal? w with
    | some l => .number (if l.value?.isSome then some l else none)
    | none => .unreadable

/-! ## The text -/

def punctuation? (c : Char) : Option Token :=
  if c = '[' then some .beginArray
  else if c = ']' then some .endArray
  else if c = '\x7b' then some .beginObject
  else if c = '\x7d' then some .endObject
  else if c = ',' then some .comma
  else if c = ':' then some .colon
  else none

/-- Where the lexer stands. Characters of the current unit are in reverse. -/
inductive Place where
  | between
  | inWord (seen : List Char)
  | inString (seen : List Char)
  | afterBackslash (seen : List Char)
  deriving DecidableEq

structure Lexer where
  tokens : List Token
  place : Place
  deriving DecidableEq

namespace Lexer

def start : Lexer := ⟨[], .between⟩

def leave (l : Lexer) (next : Place) : Lexer :=
  match l.place with
  | .inWord seen => ⟨wordToken seen.reverse :: l.tokens, next⟩
  | _ => ⟨l.tokens, next⟩

def push (l : Lexer) (t : Token) : Lexer := ⟨t :: l.tokens, .between⟩

def outside (l : Lexer) (c : Char) : Lexer :=
  if isBlank c then l.leave .between
  else if c = '"' then l.leave (.inString [])
  else
    match punctuation? c, l.place with
    | some t, _ => (l.leave .between).push t
    | none, .inWord seen => ⟨l.tokens, .inWord (c :: seen)⟩
    | none, _ => ⟨l.tokens, .inWord [c]⟩

def step (l : Lexer) (c : Char) : Lexer :=
  match l.place with
  | .inString seen =>
    if c = '"' then l.push (stringToken seen.reverse)
    else if c = '\\' then ⟨l.tokens, .afterBackslash (c :: seen)⟩
    else ⟨l.tokens, .inString (c :: seen)⟩
  | .afterBackslash seen => ⟨l.tokens, .inString (c :: seen)⟩
  | _ => l.outside c

def finish (l : Lexer) : List Token :=
  let last := l.leave .between
  match l.place with
  | .inString _ | .afterBackslash _ => (Token.unreadable :: last.tokens).reverse
  | _ => last.tokens.reverse

end Lexer

def lex (s : String) : List Token := (s.toList.foldl Lexer.step .start).finish

end PoolCheck.Json
