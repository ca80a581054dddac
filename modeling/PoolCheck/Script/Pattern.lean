import PoolCheck.Script.Basic

/-!
# Patterns

A pattern covers texts. A star covers any text, a question mark any one character, brackets one
character of a set, and everything else stands for itself. A backslash takes the meaning from the
character behind it.
-/

set_option autoImplicit false

namespace PoolCheck.Script

/-- A set of characters, by ranges and by the classes that it includes. -/
structure CharSet where
  inverted : Bool
  ranges : List (Char × Char)
  classes : List (Char → Bool)

namespace CharSet

def contains (s : CharSet) (c : Char) : Bool :=
  (s.ranges.any (fun r => r.1 ≤ c && c ≤ r.2) || s.classes.any (fun p => p c)) != s.inverted

end CharSet

inductive PatternPart where
  | char (c : Char)
  | any
  | star
  | set (s : CharSet)

abbrev Pattern := List PatternPart

namespace Pattern

def isControl (c : Char) : Bool := c.toNat < 32 || c.toNat = 127

def isVisible (c : Char) : Bool := 32 < c.toNat && c.toNat < 127

def isHexDigit (c : Char) : Bool :=
  c.isDigit || ('a' ≤ c && c ≤ 'f') || ('A' ≤ c && c ≤ 'F')

def classes : List (String × (Char → Bool)) :=
  [("alnum", Char.isAlphanum), ("alpha", Char.isAlpha), ("blank", fun c => c = ' ' || c = '\t'),
    ("cntrl", isControl), ("digit", Char.isDigit), ("graph", isVisible), ("lower", Char.isLower),
    ("print", fun c => c = ' ' || isVisible c), ("punct", fun c => isVisible c && !c.isAlphanum),
    ("space", fun c => c = ' ' || (9 ≤ c.toNat && c.toNat ≤ 13)), ("upper", Char.isUpper),
    ("xdigit", isHexDigit)]

def class? (cs : Chars) : Option ((Char → Bool) × Chars) :=
  classes.findSome? fun (name, p) =>
    (Text.stripFront? (':' :: name.toList ++ [':', ']']) cs).map fun rest => (p, rest)

/-- The members of a set up to its closing bracket, which as the first of them is a member. -/
def members? (s : CharSet) : Nat → Bool → Chars → Option (CharSet × Chars)
  | 0, _, _ => none
  | _, _, [] => none
  | n + 1, first, c :: cs =>
    if c = ']' && !first then some (s, cs)
    else
      match if c = '[' then class? cs else none with
      | some (p, rest) => members? { s with classes := p :: s.classes } n false rest
      | none =>
        match if c = '\\' then cs else c :: cs with
        | [] => none
        | low :: '-' :: d :: rest =>
          if d = ']' then
            members? { s with ranges := (low, low) :: s.ranges } n false ('-' :: d :: rest)
          else
            match if d = '\\' then rest else d :: rest with
            | [] => none
            | high :: rest =>
              members? { s with ranges := (low, high) :: s.ranges } n false rest
        | low :: rest => members? { s with ranges := (low, low) :: s.ranges } n false rest

def set? (cs : Chars) : Option (CharSet × Chars) :=
  match cs with
  | '!' :: rest => members? ⟨true, [], []⟩ (rest.length + 1) true rest
  | cs => members? ⟨false, [], []⟩ (cs.length + 1) true cs

def ofCharsFrom : Nat → Chars → Pattern
  | 0, _ => []
  | _, [] => []
  | n + 1, c :: cs =>
    if c = '*' then .star :: ofCharsFrom n cs
    else if c = '?' then .any :: ofCharsFrom n cs
    else if c = '\\' then
      match cs with
      | [] => [.char '\\']
      | d :: rest => .char d :: ofCharsFrom n rest
    else if c = '[' then
      match set? cs with
      | some (s, rest) => .set s :: ofCharsFrom n rest
      | none => .char '[' :: ofCharsFrom n cs
    else .char c :: ofCharsFrom n cs

def ofChars (cs : Chars) : Pattern := ofCharsFrom (cs.length + 1) cs

def tails : Chars → List Chars
  | [] => [[]]
  | c :: cs => (c :: cs) :: tails cs

def covers : Pattern → Chars → Bool
  | [], cs => cs = []
  | .star :: ps, cs => (tails cs).any (covers ps)
  | _ :: _, [] => false
  | .any :: ps, _ :: cs => covers ps cs
  | .char d :: ps, c :: cs => c = d && covers ps cs
  | .set s :: ps, c :: cs => s.contains c && covers ps cs

def cutFront (p : Pattern) (longest : Bool) (cs : Chars) : Chars :=
  let sizes := List.range (cs.length + 1)
  match (if longest then sizes.reverse else sizes).find? fun n => p.covers (cs.take n) with
  | some n => cs.drop n
  | none => cs

def cutBack (p : Pattern) (longest : Bool) (cs : Chars) : Chars :=
  let sizes := List.range (cs.length + 1)
  match (if longest then sizes else sizes.reverse).find? fun n => p.covers (cs.drop n) with
  | some n => cs.take n
  | none => cs

def isActive (c : Char) : Bool := c = '*' || c = '?' || c = '['

end Pattern

end PoolCheck.Script
