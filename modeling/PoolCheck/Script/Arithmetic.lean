import PoolCheck.Script.Basic

/-!
# Arithmetic in scripts

Expressions over 64-bit numbers that wrap around. A comparison gives one or zero. Names stand for
the numbers that their variables hold, and can be assigned to. Of two alternatives only the one
that is asked for is evaluated.
-/

set_option autoImplicit false

namespace PoolCheck.Script.Arithmetic

/-! ## Numbers -/

def digitValue (c : Char) : Nat :=
  if c.isDigit then c.toNat - 48
  else if c.isLower then c.toNat - 87
  else c.toNat - 55

def isDigitOf (base : Nat) (c : Char) : Bool := c.isAlphanum && digitValue c < base

def valueOf (base : Nat) (ds : Chars) : Nat := ds.foldl (fun n d => base * n + digitValue d) 0

def magnitude? (cs : Chars) : Option (Nat × Chars) :=
  let digits (base : Nat) (cs : Chars) : Nat × Chars :=
    (valueOf base (cs.takeWhile (isDigitOf base)), cs.dropWhile (isDigitOf base))
  match cs with
  | '0' :: x :: d :: rest =>
    if (x = 'x' || x = 'X') && isDigitOf 16 d then some (digits 16 (d :: rest))
    else some (digits 8 cs)
  | '0' :: rest => some (digits 8 ('0' :: rest))
  | c :: rest => if c.isDigit then some (digits 10 (c :: rest)) else none
  | [] => none

def largest : Int := 9223372036854775807

def clamp (n : Int) : Int := max (-largest - 1) (min largest n)

def isSpace (c : Char) : Bool := c = ' ' || (9 ≤ c.toNat && c.toNat ≤ 13)

def integer? (cs : Chars) : Option (Int × Chars) :=
  match cs.dropWhile isSpace with
  | '-' :: rest => (magnitude? rest).map fun (n, rest) => (-(n : Int), rest)
  | '+' :: rest => (magnitude? rest).map fun (n, rest) => ((n : Int), rest)
  | rest => (magnitude? rest).map fun (n, rest) => ((n : Int), rest)

def decimal? (cs : Chars) : Option Int :=
  let (negative, ds) := match cs.dropWhile isSpace with
    | '-' :: ds => (true, ds)
    | '+' :: ds => (false, ds)
    | ds => (false, ds)
  let digits := ds.takeWhile Char.isDigit
  let m : Int := Nat.ofDigitChars 10 digits 0
  let n := if negative then -m else m
  if digits = [] || !(ds.drop digits.length).all isSpace || clamp n ≠ n then none else some n

/-- The number that the value of a variable stands for. An empty value stands for zero. -/
def ofValue? (cs : Chars) : Option Int64 :=
  match integer? cs with
  | some (n, rest) =>
    if rest.all isSpace && clamp n = n then some (Int64.ofInt n) else none
  | none => if cs.all isSpace then some 0 else none

/-! ## Symbols -/

inductive Symbol where
  | number (n : Int64)
  | name (s : String)
  | operator (text : String)
  | unknown
  deriving DecidableEq

/-- Longer operators stand before the operators that they begin with. -/
def operators : List String :=
  ["<<=", ">>=", "<=", "<<", ">=", ">>", "==", "&&", "&=", "||", "|=", "!=", "^=", "*=", "/=",
    "%=", "+=", "-=", "<", ">", "=", "&", "|", "!", "^", "*", "/", "%", "+", "-", "~", "(", ")",
    "?", ":"]

def symbolsFrom : Nat → Chars → List Symbol
  | 0, _ => []
  | _, [] => []
  | n + 1, c :: cs =>
    if c = ' ' || c = '\t' || c = '\n' then symbolsFrom n cs
    else if isNameStart c then
      .name (String.ofList ((c :: cs).takeWhile isNameChar)) ::
        symbolsFrom n (cs.dropWhile isNameChar)
    else
      match magnitude? (c :: cs) with
      | some (m, rest) => .number (Int64.ofInt (clamp m)) :: symbolsFrom n rest
      | none =>
        match operators.findSome? fun op =>
          (Text.stripFront? op.toList (c :: cs)).map fun rest => (op, rest) with
        | some (op, rest) => .operator op :: symbolsFrom n rest
        | none => [.unknown]

def symbols (cs : Chars) : List Symbol := symbolsFrom (cs.length + 1) cs

/-! ## Expressions -/

inductive Expression where
  | number (n : Int64)
  | name (s : String)
  | negate (e : Expression)
  | invert (e : Expression)
  | complement (e : Expression)
  | binary (op : String) (a b : Expression)
  | both (a b : Expression)
  | either (a b : Expression)
  | choose (test yes no : Expression)
  | assign (s op : String) (e : Expression)

inductive Fault where
  | noOperand
  | noEnd
  | noColon
  | noBracket
  | zeroDivisor
  | overflow
  | noNumber (value : Chars)

def levels : List (List String) :=
  [["|"], ["^"], ["&"], ["==", "!="], ["<", "<=", ">", ">="], ["<<", ">>"], ["+", "-"],
    ["*", "/", "%"]]

def assignments : List (String × String) :=
  [("=", ""), ("*=", "*"), ("/=", "/"), ("%=", "%"), ("+=", "+"), ("-=", "-"), ("<<=", "<<"),
    (">>=", ">>"), ("&=", "&"), ("^=", "^"), ("|=", "|")]

abbrev Parsed := Except Fault (Expression × List Symbol)

def binaryFrom (operand : List Symbol → Parsed) (ops : List String) :
    Nat → Expression → List Symbol → Parsed
  | n + 1, a, .operator op :: rest =>
    if ops.contains op then do
      let (b, rest) ← operand rest
      binaryFrom operand ops n (.binary op a b) rest
    else pure (a, .operator op :: rest)
  | _, a, rest => pure (a, rest)

def binaries (operand : List Symbol → Parsed) : List (List String) → List Symbol → Parsed
  | [], ss => operand ss
  | ops :: tighter, ss => do
    let (a, rest) ← binaries operand tighter ss
    binaryFrom (binaries operand tighter) ops (ss.length + 1) a rest

def primary (whole : List Symbol → Parsed) : Nat → List Symbol → Parsed
  | n + 1, .operator op :: rest =>
    if op = "(" then do
      match ← whole rest with
      | (e, .operator ")" :: rest) => pure (e, rest)
      | _ => throw .noBracket
    else if op = "+" then primary whole n rest
    else if op = "-" then do let (e, rest) ← primary whole n rest; pure (.negate e, rest)
    else if op = "!" then do let (e, rest) ← primary whole n rest; pure (.invert e, rest)
    else if op = "~" then do let (e, rest) ← primary whole n rest; pure (.complement e, rest)
    else throw .noOperand
  | _, .number n :: rest => pure (.number n, rest)
  | _, .name s :: rest => pure (.name s, rest)
  | _, _ => throw .noOperand

def conjunction (operand : List Symbol → Parsed) : Nat → List Symbol → Parsed
  | 0, _ => throw .noOperand
  | n + 1, ss => do
    match ← operand ss with
    | (a, .operator "&&" :: rest) => do
      let (b, rest) ← conjunction operand n rest
      pure (.both a b, rest)
    | r => pure r

def disjunction (operand : List Symbol → Parsed) : Nat → List Symbol → Parsed
  | 0, _ => throw .noOperand
  | n + 1, ss => do
    match ← operand ss with
    | (a, .operator "||" :: rest) => do
      let (b, rest) ← disjunction operand n rest
      pure (.either a b, rest)
    | r => pure r

def conditional (whole operand : List Symbol → Parsed) : Nat → List Symbol → Parsed
  | 0, _ => throw .noOperand
  | n + 1, ss => do
    match ← operand ss with
    | (a, .operator "?" :: rest) => do
      match ← whole rest with
      | (b, .operator ":" :: rest) => do
        let (c, rest) ← conditional whole operand n rest
        pure (.choose a b c, rest)
      | _ => throw .noColon
    | r => pure r

def wholeFrom : Nat → List Symbol → Parsed
  | 0, _ => throw .noOperand
  | n + 1, ss =>
    let whole := wholeFrom n
    let size := ss.length + 1
    let plain := conditional whole (disjunction (conjunction
      (binaries (primary whole size) levels) size) size) size
    match ss with
    | .name s :: .operator op :: rest =>
      match assignments.lookup op with
      | some inner => do
        let (e, rest) ← whole rest
        pure (.assign s inner e, rest)
      | none => plain ss
    | ss => plain ss

def parse (cs : Chars) : Except Fault Expression := do
  let ss := symbols cs
  match ← wholeFrom (ss.length + 1) ss with
  | (e, []) => pure e
  | _ => throw .noEnd

/-! ## Values -/

def ofBool (b : Bool) : Int64 := if b then 1 else 0

def apply (op : String) (a b : Int64) : Except Fault Int64 :=
  if op = "+" then .ok (a + b)
  else if op = "-" then .ok (a - b)
  else if op = "*" then .ok (a * b)
  else if op = "/" ∨ op = "%" then
    if b = 0 then .error .zeroDivisor
    else if a = Int64.minValue ∧ b = -1 then .error .overflow
    else .ok (if op = "/" then a / b else a % b)
  else if op = "<<" then .ok (a <<< (b &&& 63))
  else if op = ">>" then .ok (a >>> (b &&& 63))
  else if op = "&" then .ok (a &&& b)
  else if op = "|" then .ok (a ||| b)
  else if op = "^" then .ok (a ^^^ b)
  else if op = "==" then .ok (ofBool (a = b))
  else if op = "!=" then .ok (ofBool (a ≠ b))
  else if op = "<" then .ok (ofBool (a < b))
  else if op = "<=" then .ok (ofBool (a ≤ b))
  else if op = ">" then .ok (ofBool (b < a))
  else .ok (ofBool (b ≤ a))

structure Variables (m : Type → Type) where
  value : String → m Int64
  store : String → Int64 → m Unit
  refuse : Fault → m Int64

def Variables.lift {m : Type → Type} [Monad m] (v : Variables m) : Except Fault Int64 → m Int64
  | .ok n => pure n
  | .error e => v.refuse e

def evaluate {m : Type → Type} [Monad m] (v : Variables m) : Expression → m Int64
  | .number n => pure n
  | .name s => v.value s
  | .negate e => do pure (-(← evaluate v e))
  | .invert e => do pure (ofBool ((← evaluate v e) = 0))
  | .complement e => do pure (~~~(← evaluate v e))
  | .binary op a b => do
    let x ← evaluate v a
    let y ← evaluate v b
    v.lift (apply op x y)
  | .both a b => do
    if (← evaluate v a) = 0 then pure 0 else pure (ofBool ((← evaluate v b) ≠ 0))
  | .either a b => do
    if (← evaluate v a) ≠ 0 then pure 1 else pure (ofBool ((← evaluate v b) ≠ 0))
  | .choose test yes no => do
    if (← evaluate v test) ≠ 0 then evaluate v yes else evaluate v no
  | .assign s op e => do
    let x ← evaluate v e
    let y ← if op = "" then pure x else do v.lift (apply op (← v.value s) x)
    v.store s y
    pure y

end PoolCheck.Script.Arithmetic
