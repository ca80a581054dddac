/-!
# Values in npy headers

A header is written in a notation for literal values: strings and byte strings in single or double
quotes, sums of signed numbers, truth values, `None`, tuples, lists, sets and dictionaries. A digit
group may hold single underscores, and a whole number may be written to base two, eight or sixteen.
Blanks between the parts are spaces, tabs and form feeds. Of a number only the value of a whole one
matters.
-/

set_option autoImplicit false

namespace PoolCheck.Npy

inductive Value where
  | text (s : String)
  | bytes
  | number (whole : Option Int)
  | flag (b : Bool)
  | nothing
  | tuple (items : List Value)
  | list (items : List Value)
  | set (items : List Value)
  | dictionary (entries : List (Value × Value))
  deriving Inhabited

abbrev Rest := List Char

namespace Value

def isBlank (c : Char) : Bool := c = ' ' || c = '\t' || c = '\x0c'

def skipBlanks (cs : Rest) : Rest := cs.dropWhile isBlank

def mark? (m : Char) (cs : Rest) : Option Rest :=
  match skipBlanks cs with
  | c :: rest => if c = m then some rest else none
  | [] => none

/-! ## Numbers -/

def digitValue? (base : Nat) (c : Char) : Option Nat :=
  let n :=
    if c.isDigit then c.toNat - 48
    else if 'a' ≤ c ∧ c ≤ 'f' then c.toNat - 87
    else if 'A' ≤ c ∧ c ≤ 'F' then c.toNat - 55
    else base
  if n < base then some n else none

def moreDigits (base n : Nat) : Rest → Nat × Rest
  | '_' :: c :: rest =>
    match digitValue? base c with
    | some d => moreDigits base (base * n + d) rest
    | none => (n, '_' :: c :: rest)
  | c :: rest =>
    match digitValue? base c with
    | some d => moreDigits base (base * n + d) rest
    | none => (n, c :: rest)
  | [] => (n, [])

def digits? : Rest → Option (Nat × Rest)
  | c :: rest => (digitValue? 10 c).map fun d => moreDigits 10 d rest
  | [] => none

def prefixed? (base : Nat) (cs : Rest) : Option (Nat × Rest) :=
  let (n, rest) := moreDigits base 0 cs
  if rest.length < cs.length then some (n, rest) else none

def baseOf? (c : Char) : Option Nat :=
  if c = 'b' ∨ c = 'B' then some 2
  else if c = 'o' ∨ c = 'O' then some 8
  else if c = 'x' ∨ c = 'X' then some 16
  else none

def whole? (cs : Rest) : Option (Nat × Rest) :=
  match cs with
  | '0' :: c :: rest =>
    match (baseOf? c).bind fun base => prefixed? base rest with
    | some r => some r
    | none => digits? cs
  | cs => digits? cs

def pointed? (cs : Rest) : Option Rest :=
  let behind := ((digits? cs).map (·.2)).getD cs
  match behind with
  | '.' :: rest =>
    match digits? rest with
    | some (_, rest) => some rest
    | none => if behind.length < cs.length then some rest else none
  | _ => none

def exponent? : Rest → Option Rest
  | mark :: rest =>
    if mark = 'e' ∨ mark = 'E' then
      let unsigned := match rest with
        | '+' :: rest | '-' :: rest => rest
        | rest => rest
      (digits? unsigned).map (·.2)
    else none
  | [] => none

def fraction? (cs : Rest) : Option Rest :=
  let point := pointed? cs
  match point.bind exponent?, ((digits? cs).map (·.2)).bind exponent? with
  | some rest, _ => some rest
  | none, some rest => some rest
  | none, none => point

/-- A number without a sign. One with a letter `j` behind it is imaginary. -/
def number? (cs : Rest) : Option (Option Int × Rest) :=
  let fraction := fraction? cs
  let front := fraction.or ((digits? cs).map (·.2))
  match front, fraction with
  | some ('j' :: rest), _ | some ('J' :: rest), _ => some (none, rest)
  | _, some rest => some (none, rest)
  | _, none => (whole? cs).map fun (n, rest) => (some (n : Int), rest)

/-- Signs, whether they turn a number over, and whether there was one. -/
def signs : Nat → Bool → Bool → Rest → Bool × Bool × Rest
  | 0, negative, met, cs => (negative, met, cs)
  | fuel + 1, negative, met, cs =>
    match skipBlanks cs with
    | '-' :: rest => signs fuel (!negative) true rest
    | '+' :: rest => signs fuel negative true rest
    | rest => (negative, met, rest)

def signed (negative : Bool) (n : Option Int) : Option Int :=
  n.map fun n => if negative then -n else n

def plus (a b : Option Int) : Option Int := do some ((← a) + (← b))

def moreTerms : Nat → Option Int → Rest → Option Int × Rest
  | 0, total, cs => (total, cs)
  | fuel + 1, total, cs =>
    match signs cs.length false false cs with
    | (negative, true, rest) =>
      match number? rest with
      | some (n, rest) => moreTerms fuel (plus total (signed negative n)) rest
      | none => (total, cs)
    | _ => (total, cs)

def sum? (cs : Rest) : Option (Value × Rest) := do
  let (negative, _, rest) := signs cs.length false false cs
  let (n, rest) ← number? rest
  let (total, rest) := moreTerms rest.length (signed negative n) rest
  some (number total, rest)

/-! ## Strings -/

inductive Escape where
  | char (c : Char) (rest : Rest)
  | joined (rest : Rest)
  | kept
  | refused

def hexNumber? : Nat → Nat → Rest → Option (Nat × Rest)
  | 0, n, cs => some (n, cs)
  | k + 1, n, c :: cs => (digitValue? 16 c).bind fun d => hexNumber? k (16 * n + d) cs
  | _ + 1, _, [] => none

def octalNumber : Nat → Nat → Rest → Nat × Rest
  | k + 1, n, c :: cs =>
    match digitValue? 8 c with
    | some d => octalNumber k (8 * n + d) cs
    | none => (n, c :: cs)
  | _, n, cs => (n, cs)

def named? (c : Char) : Option Char :=
  if c = '\\' ∨ c = '\'' ∨ c = '"' then some c
  else if c = 'a' then some '\x07'
  else if c = 'b' then some '\x08'
  else if c = 'f' then some '\x0c'
  else if c = 'n' then some '\n'
  else if c = 'r' then some '\r'
  else if c = 't' then some '\t'
  else if c = 'v' then some '\x0b'
  else none

def coded (limit : Nat) (n : Nat) (rest : Rest) : Escape :=
  if n < limit ∧ n.isValidChar then .char (Char.ofNat n) rest else .refused

def hexLength (byteString : Bool) (c : Char) : Nat :=
  if c = 'x' then 2
  else if byteString then 0
  else if c = 'u' then 4
  else if c = 'U' then 8
  else 0

/-- What stands after a backslash. A backslash that begins no escape stands for itself. Characters
cannot be named. -/
def escape (byteString : Bool) (cs : Rest) : Escape :=
  let limit := if byteString then 256 else 0x110000
  match cs with
  | '\r' :: '\n' :: rest => .joined rest
  | 'N' :: '\x7b' :: _ => if byteString then .kept else .refused
  | c :: rest =>
    if c = '\r' ∨ c = '\n' then .joined rest
    else
      match named? c with
      | some d => .char d rest
      | none =>
        if (digitValue? 8 c).isSome then
          let (n, rest) := octalNumber 3 0 (c :: rest)
          coded limit n rest
        else
          let k := hexLength byteString c
          match (if k = 0 then none else hexNumber? k 0 rest) with
          | some (n, rest) => coded limit n rest
          | none => .kept
  | [] => .kept

def quotedText? (byteString : Bool) (quote : Char) : Nat → List Char → Rest →
    Option (List Char × Rest)
  | 0, _, _ => none
  | _, _, [] => none
  | fuel + 1, seen, c :: cs =>
    if c = quote then some (seen.reverse, cs)
    else if c = '\\' then
      match escape byteString cs with
      | .char d rest => quotedText? byteString quote fuel (d :: seen) rest
      | .joined rest => quotedText? byteString quote fuel seen rest
      | .kept => quotedText? byteString quote fuel (c :: seen) cs
      | .refused => none
    else if c = '\r' ∨ c = '\n' then none
    else if byteString ∧ 128 ≤ c.toNat then none
    else quotedText? byteString quote fuel (c :: seen) cs

def quoted? (byteString : Bool) (cs : Rest) : Option (List Char × Rest) :=
  match cs with
  | q :: rest =>
    if q = '\'' ∨ q = '"' then quotedText? byteString q cs.length [] rest else none
  | [] => none

def string? (cs : Rest) : Option (Value × Rest) :=
  match cs with
  | 'b' :: rest | 'B' :: rest => (quoted? true rest).map fun r => (bytes, r.2)
  | cs => (quoted? false cs).map fun r => (text (String.ofList r.1), r.2)

/-! ## Values -/

def words : List (List Char × Value) :=
  [("True".toList, flag true), ("False".toList, flag false), ("None".toList, nothing)]

def word? (cs : Rest) : Option (Value × Rest) :=
  words.findSome? fun (w, v) => if w.isPrefixOf cs then some (v, cs.drop w.length) else none

mutual

def read? : Nat → Rest → Option (Value × Rest)
  | 0, _ => none
  | fuel + 1, cs =>
    let cs := skipBlanks cs
    match (string? cs).or ((sum? cs).or (word? cs)) with
    | some r => some r
    | none =>
      match cs with
      | '(' :: rest => do
        let (items, comma, rest) ← items? fuel ')' rest
        if items.length = 1 ∧ !comma then none else some (tuple items, rest)
      | '[' :: rest => do
        let (items, _, rest) ← items? fuel ']' rest
        some (list items, rest)
      | '\x7b' :: rest =>
        match mark? '\x7d' rest with
        | some rest => some (dictionary [], rest)
        | none => do
          let (first, rest) ← read? fuel rest
          match mark? ':' rest with
          | some rest => do
            let (v, rest) ← read? fuel rest
            let (more, rest) ← entries? fuel rest
            some (dictionary ((first, v) :: more), rest)
          | none => do
            let (more, rest) ← moreItems? fuel '\x7d' rest
            some (set (first :: more), rest)
      | _ => none

def items? : Nat → Char → Rest → Option (List Value × Bool × Rest)
  | 0, _, _ => none
  | fuel + 1, closing, cs =>
    match mark? closing cs with
    | some rest => some ([], true, rest)
    | none => do
      let (v, rest) ← read? fuel cs
      match mark? ',' rest with
      | some rest => do
        let (vs, comma, rest) ← items? fuel closing rest
        some (v :: vs, comma, rest)
      | none => do some ([v], false, ← mark? closing rest)

def moreItems? : Nat → Char → Rest → Option (List Value × Rest)
  | 0, _, _ => none
  | fuel + 1, closing, cs =>
    match mark? ',' cs with
    | some rest => (items? fuel closing rest).map fun (vs, _, rest) => (vs, rest)
    | none => do some ([], ← mark? closing cs)

def entries? : Nat → Rest → Option (List (Value × Value) × Rest)
  | 0, _ => none
  | fuel + 1, cs =>
    match mark? ',' cs with
    | none => do some ([], ← mark? '\x7d' cs)
    | some rest =>
      match mark? '\x7d' rest with
      | some rest => some ([], rest)
      | none => do
        let (key, rest) ← read? fuel rest
        let (v, rest) ← read? fuel (← mark? ':' rest)
        let (more, rest) ← entries? fuel rest
        some ((key, v) :: more, rest)

end

def ofText? (cs : List Char) : Option Value :=
  match read? (2 * cs.length + 2) cs with
  | some (v, rest) => if skipBlanks rest = [] then some v else none
  | none => none

end Value

end PoolCheck.Npy
