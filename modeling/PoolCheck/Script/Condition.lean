import PoolCheck.FileSystem
import PoolCheck.Script.Arithmetic

/-!
# Conditions

Tests of texts, numbers and files, joined by operators. With up to four words the place of a word
decides what it means, so that an operand may look like an operator.
-/

set_option autoImplicit false

namespace PoolCheck.Script.Condition

inductive Fault where
  | noOperand (op : Chars)
  | notNumber (text : Chars)
  | noBracket
  | unexpected (word : Chars)

namespace Fault

def about (word : Chars) (cause : String) : Chars :=
  (if word = [] then [] else word ++ [':', ' ']) ++ cause.toList

def text : Fault → Chars
  | noOperand op => about op "argument expected"
  | notNumber text => "Illegal number: ".toList ++ text
  | noBracket => "closing paren expected".toList
  | unexpected word => about word "unexpected operator"

end Fault

def unaryOperators : List String :=
  ["-r", "-w", "-x", "-e", "-f", "-d", "-c", "-b", "-p", "-u", "-g", "-k", "-s", "-t", "-z", "-n",
    "-h", "-O", "-G", "-L", "-S"]

def binaryOperators : List String :=
  ["=", "!=", "<", ">", "-eq", "-ne", "-ge", "-gt", "-le", "-lt", "-nt", "-ot", "-ef"]

def isUnary (w : Chars) : Bool := unaryOperators.contains (String.ofList w)

def isBinary (w : Chars) : Bool := binaryOperators.contains (String.ofList w)

inductive Lexeme where
  | finish
  | operand
  | unary
  | not
  | both
  | either
  | opening
  | closing
  deriving DecidableEq

def lexeme : List Chars → Lexeme
  | [] => .finish
  | w :: rest =>
    if isUnary w then
      match rest with
      | [] => .operand
      | [_] => .unary
      | next :: _ => if isBinary next then .operand else .unary
    else if w = ['!'] then .not
    else if w = ['-', 'a'] then .both
    else if w = ['-', 'o'] then .either
    else if w = ['('] then if rest = [] then .operand else .opening
    else if w = [')'] then .closing
    else .operand

def number (w : Chars) : Except Fault Int :=
  match Arithmetic.decimal? w with
  | some n => .ok n
  | none => .error (.notNumber w)

def hasFile (fs : FileSystem) (op path : Chars) : Bool :=
  let p := Chars.text path
  match fs.locate p, fs.find? p with
  | .ok place, some node =>
    let flag := String.ofList op
    let has (bit : Nat) : Bool := fs.mode place &&& bit ≠ 0
    if flag = "-e" ∨ flag = "-r" ∨ flag = "-w" ∨ flag = "-O" ∨ flag = "-G" then true
    else if flag = "-u" then has 0o4000
    else if flag = "-g" then has 0o2000
    else if flag = "-k" then has 0o1000
    else
      match node with
      | .directory => flag = "-d" || flag = "-x" || flag = "-s"
      | .void => flag = "-c"
      | .file content executable =>
        flag = "-f" || (flag = "-s" && content.size ≠ 0) || (flag = "-x" && executable)
  | _, _ => false

def unary (fs : FileSystem) (op arg : Chars) : Except Fault Bool :=
  if op = ['-', 'z'] then .ok (arg = [])
  else if op = ['-', 'n'] then .ok (arg ≠ [])
  else if op = ['-', 't'] then (number arg).map fun _ => false
  else .ok (hasFile fs op arg)

def isSameFile (fs : FileSystem) (a b : Chars) : Bool :=
  match fs.locate (Chars.text a), fs.locate (Chars.text b) with
  | .ok p, .ok q => p = q && (fs.node? p).isSome
  | _, _ => false

def isNewer (fs : FileSystem) (a b : Chars) : Bool :=
  match fs.locate (Chars.text a), fs.locate (Chars.text b) with
  | .ok p, .ok q => (fs.node? p).isSome && (fs.node? q).isSome && fs.time q < fs.time p
  | _, _ => false

def binary (fs : FileSystem) (a op b : Chars) : Except Fault Bool :=
  let name := String.ofList op
  if name = "=" then .ok (a = b)
  else if name = "!=" then .ok (a ≠ b)
  else if name = "<" then .ok (Chars.isLess a b)
  else if name = ">" then .ok (Chars.isLess b a)
  else if name = "-ef" then .ok (isSameFile fs a b)
  else if name = "-nt" then .ok (isNewer fs a b)
  else if name = "-ot" then .ok (isNewer fs b a)
  else do
    let x ← number a
    let y ← number b
    pure (
      if name = "-eq" then decide (x = y)
      else if name = "-ne" then decide (x ≠ y)
      else if name = "-ge" then decide (y ≤ x)
      else if name = "-gt" then decide (y < x)
      else if name = "-le" then decide (x ≤ y)
      else decide (x < y))

abbrev Judged := Except Fault (Bool × Chars × List Chars)

def primary (fs : FileSystem) (whole : List Chars → Judged) (asOperand : Bool)
    (ws : List Chars) : Judged :=
  match if asOperand then .operand else lexeme ws, ws with
  | _, [] => .ok (false, [], [])
  | .opening, w :: rest =>
    if lexeme rest = .closing then .ok (false, w, rest)
    else do
      let (b, _, rest) ← whole rest
      match rest with
      | [')'] :: after => pure (b, [')'], after)
      | _ => throw .noBracket
  | .unary, op :: rest =>
    match rest with
    | [] => .error (.noOperand op)
    | arg :: after => do pure (← unary fs op arg, arg, after)
  | _, a :: op :: rest =>
    if isBinary op then
      match rest with
      | [] => .error (.noOperand op)
      | b :: after => do pure (← binary fs a op b, b, after)
    else .ok (a ≠ [], a, op :: rest)
  | _, [a] => .ok (a ≠ [], a, [])

def negation (fs : FileSystem) (whole : List Chars → Judged) :
    Nat → Bool → List Chars → Judged
  | n + 1, false, w :: rest =>
    if lexeme (w :: rest) = .not then
      if rest = [] then .ok (true, w, [])
      else do
        let (b, last, rest) ← negation fs whole n false rest
        pure (!b, last, rest)
    else primary fs whole false (w :: rest)
  | _, asOperand, ws => primary fs whole asOperand ws

def conjunction (fs : FileSystem) (whole : List Chars → Judged) :
    Nat → Bool → Bool → List Chars → Judged
  | 0, _, _, _ => .ok (false, [], [])
  | n + 1, sofar, asOperand, ws => do
    let (b, last, rest) ← negation fs whole (ws.length + 1) asOperand ws
    let all := sofar && b
    match lexeme rest, rest with
    | .both, _ :: rest => conjunction fs whole n all false rest
    | _, rest => pure (all, last, rest)

def disjunction (fs : FileSystem) (whole : List Chars → Judged) :
    Nat → Bool → Bool → List Chars → Judged
  | 0, _, _, _ => .ok (false, [], [])
  | n + 1, sofar, asOperand, ws => do
    let (b, last, rest) ← conjunction fs whole (ws.length + 1) true asOperand ws
    let any := sofar || b
    match lexeme rest, rest with
    | .either, _ :: rest => disjunction fs whole n any false rest
    | _, rest => pure (any, last, rest)

def wholeFrom (fs : FileSystem) : Nat → Bool → List Chars → Judged
  | 0, _, _ => .ok (false, [], [])
  | n + 1, asOperand, ws =>
    disjunction fs (wholeFrom fs n false) (ws.length + 1) false asOperand ws

def judge (fs : FileSystem) (asOperand : Bool) (ws : List Chars) : Except Fault Bool := do
  match ← wholeFrom fs (ws.length + 1) asOperand ws with
  | (b, _, []) => pure b
  | (_, last, _) => throw (.unexpected last)

/-- Whether a condition holds. Of three words one in the middle that can be an operator is one. -/
def holdsFrom (fs : FileSystem) : Nat → List Chars → Except Fault Bool
  | 0, _ => .ok false
  | _, [] => .ok false
  | n + 1, w :: rest =>
    let size := rest.length + 1
    let isMiddle := size = 3 && (rest.head?.any isBinary)
    if isMiddle then judge fs true (w :: rest)
    else if size = 3 || size = 4 then
      if w = ['('] && rest.getLast? = some [')'] then judge fs false rest.dropLast
      else if w = ['!'] then (holdsFrom fs n rest).map (!·)
      else judge fs false (w :: rest)
    else judge fs false (w :: rest)

def holds (fs : FileSystem) (ws : List Chars) : Except Fault Bool :=
  holdsFrom fs (ws.length + 1) ws

end PoolCheck.Script.Condition
