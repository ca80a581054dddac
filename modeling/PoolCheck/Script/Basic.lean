import PoolCheck.Text

/-!
# Scripts

The command language in which small converters are written: words with expansions, redirections,
pipelines, lists, conditions, loops and functions. The text of a script is a list of characters,
one for each byte.
-/

set_option autoImplicit false

namespace PoolCheck.Script

abbrev Chars := List Char

namespace Chars

def ofBytes (b : ByteArray) : Chars := b.data.toList.map fun x => Char.ofNat x.toNat

def ofString (s : String) : Chars := ofBytes s.toUTF8

def bytes (cs : Chars) : ByteArray := ⟨(cs.map fun c => UInt8.ofNat c.toNat).toArray⟩

def text (cs : Chars) : String :=
  match String.fromUTF8? (bytes cs) with
  | some s => s
  | none => String.ofList (cs.map fun c => if c.toNat < 128 then c else '\ufffd')

def isLess : Chars → Chars → Bool
  | [], [] => false
  | [], _ :: _ => true
  | _ :: _, [] => false
  | c :: cs, d :: ds => c < d || (c = d && isLess cs ds)

def sorted (xs : List Chars) : List Chars := xs.mergeSort fun a b => !isLess b a

end Chars

def isNameStart (c : Char) : Bool := c.isAlpha || c = '_'

def isNameChar (c : Char) : Bool := c.isAlphanum || c = '_'

def isName : Chars → Bool
  | [] => false
  | c :: cs => isNameStart c && cs.all isNameChar

inductive FileMode where
  | read
  | write
  | replace
  | append
  | both
  deriving DecidableEq

mutual

/-- A part of a word. A mark stands where a quotation begins or ends, so that a word with nothing
but an empty quotation is not an empty word. Quoted expansions are not cut into fields. -/
inductive Part where
  | char (c : Char)
  | literal (c : Char)
  | mark
  | parameter (quoted : Bool) (name : String) (change : Change)
  | output (quoted : Bool) (body : Command)
  | sum (quoted : Bool) (expression : List Part)

/-- What is made of the value of a parameter. `orEmpty` treats an empty value like none. -/
inductive Change where
  | keep
  | length
  | bad
  | otherwise (orEmpty : Bool) (word : List Part)
  | replace (orEmpty : Bool) (word : List Part)
  | assign (orEmpty : Bool) (word : List Part)
  | demand (orEmpty : Bool) (word : List Part)
  | cut (fromBack longest : Bool) (pattern : List Part)

inductive Redirect where
  | file (descriptor : Nat) (mode : FileMode) (name : List Part)
  | duplicate (descriptor : Nat) (source : List Part)
  | document (descriptor number : Nat)

inductive Command where
  | nothing
  | simple (line : Nat) (assignments : List (String × List Part)) (words : List (List Part))
      (redirects : List Redirect)
  | pipeline (stages : List Command)
  | background (body : Command)
  | negate (body : Command)
  | sequence (first second : Command)
  | both (first second : Command)
  | either (first second : Command)
  | subshell (line : Nat) (body : Command) (redirects : List Redirect)
  | redirected (line : Nat) (body : Command) (redirects : List Redirect)
  | choose (test yes no : Command)
  | loop (untilTrue : Bool) (test body : Command)
  | each (line : Nat) (name : String) (words : List (List Part)) (body : Command)
  | matching (line : Nat) (subject : List Part) (branches : List (List (List Part) × Command))
  | define (name : String) (body : Command)

end

abbrev Word := List Part

instance : Inhabited Command := ⟨.nothing⟩

namespace Part

def plain? : Word → Option Chars
  | [] => some []
  | .char c :: rest => (plain? rest).map (c :: ·)
  | _ => none

def isQuotation : Part → Bool
  | .literal _ => true
  | .mark => true
  | _ => false

def unquoted : Word → Chars
  | [] => []
  | .char c :: rest => c :: unquoted rest
  | .literal c :: rest => c :: unquoted rest
  | _ :: rest => unquoted rest

end Part

namespace Command

def andThen : Command → Command → Command
  | .nothing, c => c
  | c, .nothing => c
  | c, d => .sequence c d

end Command

end PoolCheck.Script
