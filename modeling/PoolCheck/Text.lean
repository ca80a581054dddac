import PoolCheck.Word

/-!
# Cutting text

Texts are lists of characters here. Blanks are the white space of Unicode. A count is written with
ASCII digits and perhaps a plus sign, and fits 64 bits.
-/

set_option autoImplicit false

namespace PoolCheck.Text

def split (separator : Char) : List Char → List (List Char)
  | [] => [[]]
  | c :: cs =>
    if c = separator then [] :: split separator cs
    else
      match split separator cs with
      | [] => [[c]]
      | w :: ws => (c :: w) :: ws

def join (separator : List Char) : List (List Char) → List Char
  | [] => []
  | [w] => w
  | w :: ws => w ++ separator ++ join separator ws

def stripFront? : List Char → List Char → Option (List Char)
  | [], cs => some cs
  | p :: ps, c :: cs => if p = c then stripFront? ps cs else none
  | _ :: _, [] => none

def stripBack? (tail cs : List Char) : Option (List Char) :=
  (stripFront? tail.reverse cs.reverse).map List.reverse

def isBlank (c : Char) : Bool :=
  let n := c.toNat
  (0x9 ≤ n && n ≤ 0xd) || n = 0x20 || n = 0x85 || n = 0xa0 || n = 0x1680 ||
    (0x2000 ≤ n && n ≤ 0x200a) || n = 0x2028 || n = 0x2029 || n = 0x202f || n = 0x205f ||
    n = 0x3000

def trimFront (cs : List Char) : List Char := cs.dropWhile isBlank

def trim (cs : List Char) : List Char := (trimFront (trimFront cs).reverse).reverse

def unsignedCount? (cs : List Char) : Option Nat :=
  let n := Nat.ofDigitChars 10 cs 0
  if cs ≠ [] ∧ cs.all Char.isDigit ∧ n < wordLimit then some n else none

def count? : List Char → Option Nat
  | '+' :: cs => unsignedCount? cs
  | cs => unsignedCount? cs

/-- The lines of a text without their ends. Text after the last end is a line if there is any. -/
def lines (cs : List Char) : List (List Char) :=
  let pieces := split '\n' cs
  let ended := pieces.dropLast.map fun l => (stripBack? ['\r'] l).getD l
  ended ++ (pieces.getLast?.filter (· ≠ [])).toList

end PoolCheck.Text
