import PoolCheck.Script.Date.Calendar
import PoolCheck.Script.Date.Token

/-!
# Reading dates

A date is a list of items in any order: days, times, zones, and ways to go from there. At most one
of each kind may stand, ways apart. What is not said is taken from the present, but a day without a
time begins at midnight. All times are in nanoseconds from the beginning of the year 1970.
-/

set_option autoImplicit false

namespace PoolCheck.Script.Date

/-- What was read. `half` tells whether it is the second half of the day, if hours are counted in
halves, and the numbers of days, times, weekdays and zones tell how often one was read. -/
structure Reading where
  year : Int
  yearDigits : Nat
  month : Int
  day : Int
  hour : Int
  minute : Int
  nanosecond : Int
  half : Option Bool
  weekday : Int
  weekdayOrdinal : Int
  zone : Int
  shift : Shift
  isShifted : Bool
  days : Nat
  times : Nat
  weekdays : Nat
  zones : Nat

abbrev Step := Option (List Token × Reading)

def minuteOf : Int := 60 * second

def hourOf : Int := 60 * minuteOf

def dayOf : Int := 24 * hourOf

namespace Reading

def start (present : Int) : Reading :=
  let d := Day.ofNumber (present / dayOf)
  let rest := present % dayOf
  { year := d.year
    yearDigits := 0
    month := d.month
    day := d.day
    hour := rest / hourOf
    minute := rest % hourOf / minuteOf
    nanosecond := rest % minuteOf
    half := none
    weekday := 0
    weekdayOrdinal := 0
    zone := 0
    shift := .zero
    isShifted := false
    days := 0
    times := 0
    weekdays := 0
    zones := 0 }

def withDate (r : Reading) (year : Int) (digits : Nat) (month day : Int) : Reading :=
  { r with year := year, yearDigits := digits, month := month, day := day, days := r.days + 1 }

def withDay (r : Reading) (month day : Int) : Reading :=
  { r with month := month, day := day, days := r.days + 1 }

def withTime (r : Reading) (hour minute nanosecond : Int) (half : Option Bool) : Reading :=
  { r with
    hour := hour
    minute := minute
    nanosecond := nanosecond
    half := half
    times := r.times + 1 }

def withWeekday (r : Reading) (ordinal weekday : Int) : Reading :=
  { r with weekday := weekday, weekdayOrdinal := ordinal, weekdays := r.weekdays + 1 }

def withZone (r : Reading) (minutes : Int) : Reading :=
  { r with zone := minutes, zones := r.zones + 1 }

def shifted (r : Reading) (s : Shift) : Reading :=
  { r with shift := r.shift.add s, isShifted := true }

/-- A number on its own is a year behind a date, or else a date or a time in digits. -/
def withNumber (r : Reading) (n digits : Nat) : Reading :=
  if 0 < r.days && r.yearDigits = 0 && !r.isShifted && (0 < r.times || 2 < digits) then
    { r with year := n, yearDigits := digits }
  else if 4 < digits then
    r.withDate (n / 10000 : Nat) (digits - 4) (n / 100 % 100 : Nat) (n % 100 : Nat)
  else if digits ≤ 2 then r.withTime n 0 0 none
  else r.withTime (n / 100 : Nat) (n % 100 : Nat) 0 none

end Reading

/-! ## Zones -/

def zoneMinutes? (n : Int) (digits : Nat) (minutes : Option Nat) : Option Int :=
  let all : Int :=
    match minutes with
    | some m => 60 * n + (if n < 0 then -(m : Int) else m)
    | none => if digits ≤ 2 then 60 * n else 60 * n.tdiv 100 + n.tmod 100
  if -1440 ≤ all && all ≤ 1440 then some all else none

def colonMinutes? : List Token → Option (Option Nat × List Token)
  | .mark ':' :: .number m _ :: rest => some (some m, rest)
  | .mark ':' :: _ => none
  | rest => some (none, rest)

def zoneOffset (r : Reading) (base n : Int) (digits : Nat) (rest : List Token) : Step := do
  let (minutes, rest) ← colonMinutes? rest
  pure (rest, r.withZone (base + (← zoneMinutes? n digits minutes)))

def zone (r : Reading) (minutes : Int) : List Token → Step
  | .signed n _ :: .unit s :: rest => some (rest, (r.withZone minutes).shifted (s.times n))
  | .signed n digits :: rest => zoneOffset r minutes n digits rest
  | .summer :: rest => some (rest, r.withZone (minutes + 60))
  | rest => some (rest, r.withZone minutes)

/-! ## Times -/

def timeEnd (halves : Bool) (r : Reading) (hour minute nanosecond : Int) : List Token → Step
  | .half isSecond :: rest =>
    if halves then some (rest, r.withTime hour minute nanosecond (some isSecond)) else none
  | .signed n digits :: rest =>
    zoneOffset (r.withTime hour minute nanosecond none) 0 n digits rest
  | rest => some (rest, r.withTime hour minute nanosecond none)

def clockTime (halves : Bool) (r : Reading) (hour : Nat) : List Token → Step
  | .number minute _ :: .mark ':' :: .number s _ :: rest =>
    timeEnd halves r hour minute (s * second) rest
  | .number minute _ :: .mark ':' :: .fraction false s :: rest =>
    timeEnd halves r hour minute s rest
  | .number _ _ :: .mark ':' :: _ => none
  | .number minute _ :: rest => timeEnd halves r hour minute 0 rest
  | _ => none

/-! ## Items -/

def afterDate (r : Reading) : List Token → Step
  | .timeMark :: .number h _ :: .mark ':' :: rest => clockTime false r h rest
  | .timeMark :: .number h _ :: .signed n digits :: rest =>
    zoneOffset (r.withTime h 0 0 none) 0 n digits rest
  | .timeMark :: _ => none
  | rest => some (rest, r)

def way (r : Reading) (s : Shift) : List Token → Step
  | .direction n :: rest => some (rest, r.shifted (s.times n))
  | rest => some (rest, r.shifted s)

def slashes (r : Reading) (n digits : Nat) : List Token → Step
  | .number m _ :: .mark '/' :: .number k kDigits :: rest =>
    some (rest, if 4 ≤ digits then r.withDate n digits m k else r.withDate k kDigits n m)
  | .number _ _ :: .mark '/' :: _ => none
  | .number m _ :: rest => some (rest, r.withDay n m)
  | _ => none

def dayMonth (r : Reading) (day month : Nat) : List Token → Step
  | .signed y digits :: rest => some (rest, r.withDate (-y) digits month day)
  | .number y digits :: rest => some (rest, r.withDate y digits month day)
  | rest => some (rest, r.withDay month day)

def monthDay (r : Reading) (month : Nat) : List Token → Step
  | .signed d _ :: .signed y digits :: rest =>
    some (rest, r.withDate (-y) digits month (-d))
  | .number d _ :: .mark ',' :: .number y digits :: rest =>
    some (rest, r.withDate y digits month d)
  | .number _ _ :: .mark ',' :: _ => none
  | .number d _ :: rest => some (rest, r.withDay month d)
  | _ => none

def counted (r : Reading) (n digits : Nat) : List Token → Step
  | .half isSecond :: rest => some (rest, r.withTime n 0 0 (some isSecond))
  | .mark ':' :: rest => clockTime true r n rest
  | .mark '/' :: rest => slashes r n digits rest
  | .month m :: rest => dayMonth r n m rest
  | .weekday w :: rest => some (rest, r.withWeekday n w)
  | .unit s :: rest => way r (s.times n) rest
  | .signed m _ :: .signed d _ :: rest => afterDate (r.withDate n digits (-m) (-d)) rest
  | .signed m _ :: .unit s :: rest => some (rest, (r.withNumber n digits).shifted (s.times m))
  | .signed m d :: rest => zoneOffset (r.withTime n 0 0 none) 0 m d rest
  | rest => some (rest, r.withNumber n digits)

def item (r : Reading) : List Token → Step
  | .number n digits :: rest => counted r n digits rest
  | .signed n _ :: .unit s :: rest => way r (s.times n) rest
  | .fraction _ t :: .unit s :: rest =>
    if s.nanoseconds = second then way r ⟨0, 0, 0, t⟩ rest else none
  | .month m :: rest => monthDay r m rest
  | .weekday w :: .mark ',' :: rest => some (rest, r.withWeekday 0 w)
  | .weekday w :: rest => some (rest, r.withWeekday 0 w)
  | .ordinal n :: .weekday w :: rest => some (rest, r.withWeekday n w)
  | .ordinal n :: .unit s :: rest => way r (s.times n) rest
  | .unit s :: rest => way r s rest
  | .dayShift n :: rest => some (rest, r.shifted ⟨0, 0, n, 0⟩)
  | .timeMark :: .signed n _ :: .unit s :: rest =>
    some (rest, (r.withZone (-420)).shifted (s.times n))
  | .timeMark :: .signed _ _ :: _ => none
  | .timeMark :: rest => some (rest, r.withZone (-420))
  | .zone minutes :: rest => zone r minutes rest
  | .summerZone minutes :: rest => some (rest, r.withZone (minutes + 60))
  | .localMark :: rest => some (rest, { r with zones := r.zones + 1 })
  | _ => none

def items : Nat → List Token → Reading → Option Reading
  | 0, _, _ => none
  | _, [], r => some r
  | n + 1, ts, r => do
    let (rest, r) ← item r ts
    items n rest r

/-! ## Times from readings -/

/-- Of the years with two digits, those up to 68 belong to this century. -/
def fullYear (year : Int) (digits : Nat) : Int :=
  if digits = 2 && 0 ≤ year then if year < 69 then year + 2000 else year + 1900 else year

def hourOfDay? (hour : Int) : Option Bool → Option Int
  | none => if 0 ≤ hour && hour < 24 then some hour else none
  | some isSecond =>
    if hour < 1 || 12 < hour then none
    else some (hour % 12 + (if isSecond then 12 else 0))

def fitsCalendar (n : Int) : Bool := -2147483648 ≤ n && n ≤ 2147483647

def daysTo (r : Reading) (day : Int) : Int :=
  let today := Date.weekday day
  let weeks := if 0 < r.weekdayOrdinal && today ≠ r.weekday then r.weekdayOrdinal - 1
    else r.weekdayOrdinal
  7 * weeks + (r.weekday - today) % 7

def Reading.time? (r : Reading) : Option Int := do
  if [r.times, r.days, r.weekdays, r.zones].any (1 < ·) then none
  let year := fullYear r.year r.yearDigits
  let withClock := 0 < r.times || (r.isShifted && r.days = 0 && r.weekdays = 0)
  let hour ← if withClock then hourOfDay? r.hour r.half else some 0
  let minute := if withClock then r.minute else 0
  let nanosecond := if withClock then r.nanosecond else 0
  let isClock := 0 ≤ minute && minute < 60 && 0 ≤ nanosecond && nanosecond < minuteOf
  let isDay := 1 ≤ r.month && r.month ≤ 12 && 1 ≤ r.day &&
    r.day ≤ monthLength year r.month.toNat && fitsCalendar (year - 1900)
  if !isClock || !isDay then none
  let day := dayNumber year r.month r.day
  let day := if 0 < r.weekdays && r.days = 0 then day + daysTo r day else day
  let d := Day.ofNumber day
  let years := d.year + r.shift.years
  let months := d.month + r.shift.months
  let days := d.day + r.shift.days
  if !(fitsCalendar (years - 1900) && fitsCalendar (months - 1) && fitsCalendar days) then none
  let t := dayNumber years months days * dayOf + hour * hourOf + minute * minuteOf + nanosecond -
    r.zone * minuteOf + r.shift.nanoseconds
  if -Arithmetic.largest - 1 ≤ t / second && t / second ≤ Arithmetic.largest then some t else none

/-- A date may begin with the rule of a zone, in quotes. Its times are those of Greenwich. -/
def withoutRule (cs : Chars) : Chars :=
  let cs := cs.dropWhile Arithmetic.isSpace
  match Text.stripFront? "TZ=\"".toList cs with
  | some rest =>
    if rest.contains '"' then
      ((rest.dropWhile (· ≠ '"')).drop 1).dropWhile Arithmetic.isSpace
    else cs
  | none => cs

def read? (present : Int) (cs : Chars) : Option Int := do
  match ← Token.list? (withoutRule cs) with
  | [.mark '@', .number n _] => pure (n * second)
  | [.mark '@', .signed n _] => pure (n * second)
  | [.mark '@', .fraction _ t] => pure t
  | [] => Reading.time? ((Reading.start present).withNumber 0 1)
  | ts => (← items (ts.length + 1) ts (.start present)).time?

/-- The time of digits: of a month, a day, an hour and a minute behind a year or the last two
digits of one, and perhaps of a second behind a point. A second of 60 is the next one. -/
def stamp? (present : Int) (cs : Chars) : Option Int := do
  let ds := cs.takeWhile (· ≠ '.')
  let behind := cs.drop ds.length
  let hasForm := 8 ≤ ds.length && ds.length ≤ 12 && ds.length % 2 = 0 && ds.all Char.isDigit &&
    (behind = [] || (behind.length = 3 && (behind.drop 1).all Char.isDigit))
  if !hasForm then none
  let front := ds.take (ds.length - 8)
  let pair (i : Nat) : Nat := Nat.ofDigitChars 10 ((ds.drop (ds.length - 8 + 2 * i)).take 2) 0
  let now := Reading.start present
  let year : Int :=
    if front = [] then now.year else fullYear (Nat.ofDigitChars 10 front 0) front.length
  let s := Nat.ofDigitChars 10 (behind.drop 1) 0
  let r := (now.withDate year 4 (pair 0) (pair 1)).withTime (pair 2) (pair 3)
    ((if s = 60 then 59 else s) * second) none
  let t ← r.time?
  pure (if s = 60 then t + second else t)

end PoolCheck.Script.Date
