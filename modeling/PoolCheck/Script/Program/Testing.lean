import PoolCheck.Script.Condition
import PoolCheck.Script.Program.Options

/-!
# Testing by a program

Where a shell has no part in it, conditions are read by how many words there are. Up to four of
them are told apart by their places, and more are read as a sum of products of terms.
-/

set_option autoImplicit false

namespace PoolCheck.Script.Program

namespace Testing

/-- What conditions are about. `behind` is what stands behind the last word. -/
structure Setting where
  files : FileSystem
  words : List Chars
  behind : Option Chars

abbrev Judging := ReaderT Setting (StateT (List Chars) (Except Chars))

def lacking {α : Type} : Judging α := do
  throw (text "missing argument after " ++ quoted (((← read).words.getLast?).getD []))

def word : Judging Chars := do pure ((← get).headD [])

def advance (needed : Bool) : Judging Unit := do
  modify List.tail
  if needed && (← get).isEmpty then lacking

def isBinary (w : Chars) : Bool :=
  ["=", "!=", "==", "-nt", "-ot", "-ef", "-eq", "-ne", "-lt", "-le", "-gt", "-ge"].contains
    (String.ofList w)

def isDashed : Chars → Bool
  | ['-', _] => true
  | _ => false

/-! ## Numbers -/

def integer (w : Chars) : Judging Int := do
  let (sign, ds) := match w.dropWhile Arithmetic.isSpace with
    | '+' :: ds => (1, ds)
    | '-' :: ds => (-1, ds)
    | ds => ((1 : Int), ds)
  let digits := ds.takeWhile Char.isDigit
  if digits = [] || !(ds.drop digits.length).all Arithmetic.isSpace then
    throw (text "invalid integer " ++ quoted w)
  pure (sign * Nat.ofDigitChars 10 digits 0)

def size (asLength : Bool) (w : Chars) : Judging Int :=
  if asLength then pure w.length else integer w

def compare (op : String) (x y : Int) : Bool :=
  if op = "-eq" then x = y
  else if op = "-ne" then x ≠ y
  else if op = "-lt" then x < y
  else if op = "-le" then x ≤ y
  else if op = "-gt" then y < x
  else y ≤ x

/-! ## Terms -/

def hasFile (fs : FileSystem) (path : Chars) : Bool := (fs.find? (Chars.text path)).isSome

def isNewer (fs : FileSystem) (a b : Chars) : Bool :=
  hasFile fs a && (!hasFile fs b || Condition.isNewer fs a b)

/-- Two words with an operator between them. A length may stand for a number on either side, and
texts are taken from where the words begin then. -/
def binary (lengthFirst : Bool) : Judging Bool := do
  if lengthFirst then advance false
  let ws ← get
  let lengthBehind := 4 ≤ ws.length && ws[2]? = some ['-', 'l']
  if lengthBehind then advance false
  let shifted ← get
  modify (List.drop 3)
  let nth (words : List Chars) (i : Nat) : Chars := (words[i]?).getD []
  let op := String.ofList (nth ws 1)
  let fs := (← read).files
  let ofFiles (holds : Chars → Chars → Bool) : Judging Bool :=
    if lengthFirst || lengthBehind then throw (text (op ++ " does not accept -l"))
    else pure (holds (nth ws 0) (nth ws 2))
  if op = "=" || op = "==" then pure (nth shifted 0 = nth shifted 2)
  else if op = "!=" then pure (nth shifted 0 ≠ nth shifted 2)
  else if op = "-nt" then ofFiles (isNewer fs)
  else if op = "-ot" then ofFiles fun a b => isNewer fs b a
  else if op = "-ef" then ofFiles (Condition.isSameFile fs)
  else do
    let x ← size lengthFirst (nth ws 0)
    let y ← size lengthBehind (nth ws (if lengthBehind then 3 else 2))
    pure (compare op x y)

def unary : Judging Bool := do
  let op ← word
  if !"efdrwxsSchbpLugkntzNOG".toList.any fun c => op = ['-', c] then
    throw (quoted op ++ text ": unary operator expected")
  advance true
  let arg ← word
  modify List.tail
  if op = ['-', 'n'] then pure (arg ≠ [])
  else if op = ['-', 'z'] then pure (arg = [])
  else if op = ['-', 't'] then do
    let _ ← integer arg
    pure false
  else pure (Condition.hasFile (← read).files op arg)

def one : Judging Bool := do
  let w ← word
  modify List.tail
  pure (w ≠ [])

def two : Judging Bool := do
  let w ← word
  if w = ['!'] then do
    advance false
    pure !(← one)
  else if isDashed w then unary
  else lacking

/-- Three words. `sum` reads those that are joined. -/
def three (sum : Judging Bool) : Judging Bool := do
  match ← get with
  | w :: op :: rest =>
    if isBinary op then binary false
    else if w = ['!'] then do
      advance true
      pure !(← two)
    else if w = ['('] && rest.head? = some [')'] then do
      advance false
      let b ← one
      advance false
      pure b
    else if op = ['-', 'a'] || op = ['-', 'o'] then sum
    else throw (quoted op ++ text ": binary operator expected")
  | _ => lacking

def byCount (sum : Judging Bool) (count : Nat) : Judging Bool := do
  let ws ← get
  if count = 1 then one
  else if count = 2 then two
  else if count = 3 then three sum
  else if count = 4 && ws.head? = some ['!'] then do
    advance true
    pure !(← three sum)
  else if count = 4 && ws.head? = some ['('] && ws[3]? = some [')'] then do
    advance false
    let b ← two
    advance false
    pure b
  else sum

/-- How many words belong to an opening bracket in front of them. Without a closing one nearby it
is all of them. -/
def bracketed (ws : List Chars) : Nat :=
  let inner := 1 + ((ws.drop 1).takeWhile (· ≠ [')'])).length
  if 4 < inner then ws.length else inner

def closing : Judging Unit := do
  let behind := (← read).behind
  match (← get).head?.or behind with
  | none => throw (quoted [')'] ++ text " expected")
  | some w =>
    if w ≠ [')'] then throw (quoted [')'] ++ text " expected, found " ++ quoted w)
    advance false

def negations : Nat → Judging Bool
  | 0 => pure false
  | n + 1 => do
    if (← word) = ['!'] then do
      advance true
      pure !(← negations n)
    else pure false

def term (sum : Judging Bool) : Judging Bool := do
  let negated ← negations (← get).length
  let ws ← get
  if ws.isEmpty then lacking
  let b ←
    if ws.head? = some ['('] then do
      advance true
      let b ← byCount sum (bracketed (← get))
      closing
      pure b
    else if ws.head? = some ['-', 'l'] && 4 ≤ ws.length && ws[2]?.any isBinary then binary true
    else if 3 ≤ ws.length && ws[1]?.any isBinary then binary false
    else if ws.head?.any isDashed then unary
    else one
  pure (b != negated)

def joined (op : Chars) (join : Bool → Bool → Bool) (part : Judging Bool) :
    Nat → Judging Bool
  | 0 => part
  | n + 1 => do
    let b ← part
    if (← get).head? = some op then do
      advance false
      pure (join b (← joined op join part n))
    else pure b

def sum : Nat → Judging Bool
  | 0 => lacking
  | n + 1 => do
    let ws ← get
    if ws.isEmpty then lacking
    joined ['-', 'o'] or (joined ['-', 'a'] and (term (sum n)) ws.length) ws.length

def whole : Judging Bool := do
  let ws ← get
  if ws.isEmpty then pure false
  else
    let b ← byCount (sum (ws.length + 1)) ws.length
    match ← get with
    | [] => pure b
    | w :: _ => throw (text "extra argument " ++ quoted w)

end Testing

def testOn (c : Call) (words : List Chars) (behind : Option Chars) : StateM Effect Unit := do
  match (Testing.whole.run ⟨← files, words, behind⟩).run words with
  | .ok (b, _) => setStatus (if b then 0 else 1)
  | .error cause =>
    refuse c cause
    setStatus 2

def test : Program := fun c => testOn c c.arguments none

def bracket : Program := fun c =>
  if c.arguments.getLast? = some [']'] then testOn c c.arguments.dropLast (some [']'])
  else do
    refuse c (text "missing " ++ quoted [']'])
    setStatus 2

end PoolCheck.Script.Program
