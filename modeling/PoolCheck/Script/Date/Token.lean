import PoolCheck.Script.Arithmetic

/-!
# The words of dates

A date is written in numbers, words and marks. Words are read without regard to case, months and
days of the week also by their first three letters, and what stands in parentheses is passed over.
-/

set_option autoImplicit false

namespace PoolCheck.Script.Date

/-- A way from one time to another. Years, months and days go by the calendar. -/
structure Shift where
  years : Int
  months : Int
  days : Int
  nanoseconds : Int

def second : Int := 1000000000

namespace Shift

def zero : Shift := ⟨0, 0, 0, 0⟩

def add (a b : Shift) : Shift :=
  ⟨a.years + b.years, a.months + b.months, a.days + b.days, a.nanoseconds + b.nanoseconds⟩

def times (n : Int) (a : Shift) : Shift :=
  ⟨n * a.years, n * a.months, n * a.days, n * a.nanoseconds⟩

end Shift

/-- Zones are in minutes before the time of Greenwich. -/
inductive Token where
  | number (n : Nat) (digits : Nat)
  | signed (n : Int) (digits : Nat)
  | fraction (isSigned : Bool) (nanoseconds : Int)
  | half (isSecond : Bool)
  | month (n : Nat)
  | weekday (n : Nat)
  | zone (minutes : Int)
  | summerZone (minutes : Int)
  | summer
  | unit (s : Shift)
  | ordinal (n : Int)
  | dayShift (n : Int)
  | direction (n : Int)
  | timeMark
  | localMark
  | mark (c : Char)

namespace Token

/-! ## Words -/

def months : List (String × Nat) :=
  [("january", 1), ("february", 2), ("march", 3), ("april", 4), ("may", 5), ("june", 6),
    ("july", 7), ("august", 8), ("september", 9), ("sept", 9), ("october", 10), ("november", 11),
    ("december", 12)]

def weekdays : List (String × Nat) :=
  [("sunday", 0), ("monday", 1), ("tuesday", 2), ("tues", 2), ("wednesday", 3), ("wednes", 3),
    ("thursday", 4), ("thur", 4), ("thurs", 4), ("friday", 5), ("saturday", 6)]

def units : List (String × Shift) :=
  [("year", ⟨1, 0, 0, 0⟩), ("month", ⟨0, 1, 0, 0⟩), ("fortnight", ⟨0, 0, 14, 0⟩),
    ("week", ⟨0, 0, 7, 0⟩), ("day", ⟨0, 0, 1, 0⟩), ("hour", ⟨0, 0, 0, 3600 * second⟩),
    ("minute", ⟨0, 0, 0, 60 * second⟩), ("min", ⟨0, 0, 0, 60 * second⟩),
    ("second", ⟨0, 0, 0, second⟩), ("sec", ⟨0, 0, 0, second⟩)]

def relatives : List (String × Token) :=
  [("tomorrow", .dayShift 1), ("yesterday", .dayShift (-1)), ("today", .dayShift 0),
    ("now", .dayShift 0), ("last", .ordinal (-1)), ("this", .ordinal 0), ("next", .ordinal 1),
    ("first", .ordinal 1), ("third", .ordinal 3), ("fourth", .ordinal 4), ("fifth", .ordinal 5),
    ("sixth", .ordinal 6), ("seventh", .ordinal 7), ("eighth", .ordinal 8), ("ninth", .ordinal 9),
    ("tenth", .ordinal 10), ("eleventh", .ordinal 11), ("twelfth", .ordinal 12),
    ("ago", .direction (-1)), ("hence", .direction 1)]

/-- Zones by the names of their winter time, in half hours. -/
def zones : List (String × Int) :=
  [("gmt", 0), ("ut", 0), ("utc", 0), ("wet", 0), ("art", -6), ("brt", -6), ("nst", -7),
    ("ast", -8), ("clt", -8), ("est", -10), ("cst", -12), ("mst", -14), ("pst", -16),
    ("akst", -18), ("hst", -20), ("hast", -20), ("sst", -24), ("wat", 2), ("cet", 2), ("met", 2),
    ("mez", 2), ("eet", 4), ("cat", 4), ("sast", 4), ("eat", 6), ("msk", 6), ("ist", 11),
    ("sgt", 16), ("kst", 18), ("jst", 18), ("gst", 20), ("nzst", 24)]

def summerZones : List (String × Int) :=
  [("west", 0), ("bst", 0), ("brst", -6), ("ndt", -7), ("adt", -8), ("clst", -8), ("edt", -10),
    ("cdt", -12), ("mdt", -14), ("pdt", -16), ("akdt", -18), ("hadt", -20), ("cest", 2),
    ("mest", 2), ("mesz", 2), ("eest", 4), ("msd", 6), ("nzdt", 24)]

def zone? (w : String) : Option Token :=
  match zones.lookup w, summerZones.lookup w with
  | some n, _ => some (.zone (30 * n))
  | none, some n => some (.summerZone (30 * n))
  | none, none => none

def letterZone? (c : Char) : Option Token :=
  if c = 't' then some .timeMark
  else if c = 'j' then some .localMark
  else if c = 'z' then some (.zone 0)
  else
    match "abcdefghiklm".toList.idxOf? c, "nopqrstuvwxy".toList.idxOf? c with
    | some n, _ => some (.zone (60 * (n + 1)))
    | none, some n => some (.zone (-60 * (n + 1)))
    | none, none => none

def named? (table : List (String × Nat)) (cs : Chars) : Option Nat :=
  let isShort := cs.length = 3 || (cs.length = 4 && cs.getLast? = some '.')
  (table.find? fun e =>
    if isShort then e.1.toList.take 3 = cs.take 3 else e.1.toList = cs).map (·.2)

def unit? (cs : Chars) : Option Token :=
  let singular := if cs.getLast? = some 's' then cs.dropLast else cs
  match units.lookup (String.ofList cs), units.lookup (String.ofList singular) with
  | some s, _ => some (.unit s)
  | none, some s => some (.unit s)
  | none, none => none

def ofWord? (cs : Chars) : Option Token :=
  let w := String.ofList cs
  let halves := [("am", false), ("a.m.", false), ("pm", true), ("p.m.", true)]
  ((halves.lookup w).map Token.half)
  <|> ((named? months cs).map Token.month)
  <|> ((named? weekdays cs).map Token.weekday)
  <|> zone? w
  <|> (if w = "dst" then some .summer else none)
  <|> unit? cs
  <|> relatives.lookup w
  <|> (match cs with
    | [c] => letterZone? c
    | _ => none)
  <|> (if cs.contains '.' then zone? (String.ofList (cs.filter (· ≠ '.'))) else none)

/-! ## Numbers -/

def nanoseconds (negative : Bool) (whole : Nat) (ds : Chars) : Int :=
  let part := Nat.ofDigitChars 10 (ds.take 9) 0 * Nat.pow 10 (9 - ds.length)
  let size : Int := whole * second + part
  if !negative then size
  else if (ds.drop 9).any (· ≠ '0') then -(size + 1)
  else -size

def number? (sign : Option Bool) (cs : Chars) : Option (Token × Chars) :=
  let ds := cs.takeWhile Char.isDigit
  let rest := cs.drop ds.length
  let n := Nat.ofDigitChars 10 ds 0
  let isPoint (c : Char) : Bool := c = '.' || c = ','
  if Arithmetic.largest < n then none
  else
    match rest with
    | c :: d :: more =>
      if isPoint c && d.isDigit then
        let part := (d :: more).takeWhile Char.isDigit
        some (.fraction sign.isSome (nanoseconds (sign = some true) n part),
          (d :: more).drop part.length)
      else some (ofSign n ds.length, rest)
    | _ => some (ofSign n ds.length, rest)
where
  ofSign (n digits : Nat) : Token :=
    match sign with
    | none => .number n digits
    | some negative => .signed (if negative then -(n : Int) else n) digits

/-! ## Texts -/

def afterComment : Nat → Chars → Chars
  | _, [] => []
  | depth, c :: cs =>
    if c = '(' then afterComment (depth + 1) cs
    else if c = ')' then if depth ≤ 1 then cs else afterComment (depth - 1) cs
    else afterComment depth cs

def isWordChar (c : Char) : Bool := c.isAlpha || c = '.'

def listFrom : Nat → Chars → Option (List Token)
  | 0, _ => some []
  | n + 1, cs =>
    match cs.dropWhile Arithmetic.isSpace with
    | [] => some []
    | c :: rest =>
      if c.isDigit then do
        let (t, rest) ← number? none (c :: rest)
        pure (t :: (← listFrom n rest))
      else if c = '-' || c = '+' then do
        let rest := rest.dropWhile Arithmetic.isSpace
        if rest.head?.any Char.isDigit then
          let (t, rest) ← number? (some (c = '-')) rest
          pure (t :: (← listFrom n rest))
        else listFrom n rest
      else if c.isAlpha then do
        let word := (c :: rest).takeWhile isWordChar
        let t ← ofWord? (word.map Char.toLower)
        pure (t :: (← listFrom n ((c :: rest).drop word.length)))
      else if c = '(' then listFrom n (afterComment 1 rest)
      else do pure (.mark c :: (← listFrom n rest))

def list? (cs : Chars) : Option (List Token) := listFrom (cs.length + 1) cs

end Token

end PoolCheck.Script.Date
