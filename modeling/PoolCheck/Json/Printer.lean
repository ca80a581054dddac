import PoolCheck.Json.Basic

/-!
# Printing JSON

Two layouts of one value: compact without any blank, and pretty with two blanks for each level.
Strings escape the quote, the backslash and the control characters.
-/

set_option autoImplicit false

namespace PoolCheck.Json

def hexDigit (n : Nat) : Char := if n < 10 then Char.ofNat (48 + n) else Char.ofNat (87 + n)

def escaped (c : Char) : List Char :=
  if c = '"' then ['\\', '"']
  else if c = '\\' then ['\\', '\\']
  else if c = '\n' then ['\\', 'n']
  else if c = '\t' then ['\\', 't']
  else if c = '\r' then ['\\', 'r']
  else if c = '\x08' then ['\\', 'b']
  else if c = '\x0c' then ['\\', 'f']
  else if c.toNat < 32 then
    ['\\', 'u', '0', '0', hexDigit (c.toNat / 16), hexDigit (c.toNat % 16)]
  else [c]

def quoted (s : String) : List Char := '"' :: (s.toList.flatMap escaped ++ ['"'])

def boolChars : Bool → List Char
  | true => ['t', 'r', 'u', 'e']
  | false => ['f', 'a', 'l', 's', 'e']

def nullChars : List Char := ['n', 'u', 'l', 'l']

def newline (level : Nat) : List Char := '\n' :: List.replicate (2 * level) ' '

mutual

def compactChars : Json → List Char
  | null | valueless => nullChars
  | bool b => boolChars b
  | number l => l.chars true
  | string s => quoted s
  | array [] _ => ['[', ']']
  | array (v :: rest) _ => '[' :: compactChars v ++ compactItems rest
  | object [] _ => ['\x7b', '\x7d']
  | object ((name, v) :: rest) _ =>
    '\x7b' :: quoted name ++ ':' :: compactChars v ++ compactMembers rest

def compactItems : List Json → List Char
  | [] => [']']
  | v :: rest => ',' :: compactChars v ++ compactItems rest

def compactMembers : List (String × Json) → List Char
  | [] => ['\x7d']
  | (name, v) :: rest => ',' :: quoted name ++ ':' :: compactChars v ++ compactMembers rest

end

mutual

def prettyChars (level : Nat) : Json → List Char
  | null | valueless => nullChars
  | bool b => boolChars b
  | number l => l.chars true
  | string s => quoted s
  | array [] _ => ['[', ']']
  | array (v :: rest) _ =>
    '[' :: newline (level + 1) ++ prettyChars (level + 1) v ++ prettyItems level rest
  | object [] _ => ['\x7b', '\x7d']
  | object ((name, v) :: rest) _ =>
    '\x7b' :: newline (level + 1) ++ quoted name ++ [':', ' '] ++ prettyChars (level + 1) v ++
      prettyMembers level rest

def prettyItems (level : Nat) : List Json → List Char
  | [] => newline level ++ [']']
  | v :: rest =>
    ',' :: newline (level + 1) ++ prettyChars (level + 1) v ++ prettyItems level rest

def prettyMembers (level : Nat) : List (String × Json) → List Char
  | [] => newline level ++ ['\x7d']
  | (name, v) :: rest =>
    ',' :: newline (level + 1) ++ quoted name ++ [':', ' '] ++ prettyChars (level + 1) v ++
      prettyMembers level rest

end

def compact (v : Json) : String := String.ofList v.compactChars

def pretty (v : Json) : String := String.ofList (v.prettyChars 0)

end PoolCheck.Json
