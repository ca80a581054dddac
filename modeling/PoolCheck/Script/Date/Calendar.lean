/-!
# The calendar

Days are counted from the first of January 1970, which was a Thursday. Years, months and days may
be out of range: months run on into other years, and days into other months.
-/

set_option autoImplicit false

namespace PoolCheck.Script.Date

def isLeap (year : Int) : Bool := year % 4 = 0 && (year % 100 ≠ 0 || year % 400 = 0)

def monthLength (year : Int) (month : Nat) : Nat :=
  if month = 2 then if isLeap year then 29 else 28
  else if month = 4 || month = 6 || month = 9 || month = 11 then 30
  else 31

def leapsBefore (year : Int) : Int :=
  (year - 1) / 4 - (year - 1) / 100 + (year - 1) / 400

def yearStart (year : Int) : Int := 365 * (year - 1970) + (leapsBefore year - leapsBefore 1970)

def daysBefore (year : Int) (month : Nat) : Nat :=
  (List.range' 1 (month - 1)).foldl (fun days m => days + monthLength year m) 0

def dayNumber (year month day : Int) : Int :=
  let year := year + (month - 1) / 12
  yearStart year + daysBefore year (((month - 1) % 12).toNat + 1) + (day - 1)

structure Day where
  year : Int
  month : Nat
  day : Nat

def Day.ofNumber (n : Int) : Day :=
  let guess := 1970 + n * 400 / 146097
  let year :=
    if n < yearStart guess then guess - 1
    else if yearStart (guess + 1) ≤ n then guess + 1
    else guess
  let inYear := (n - yearStart year).toNat
  let month := ((List.range' 1 12).filter fun m => daysBefore year m ≤ inYear).length
  ⟨year, month, inYear - daysBefore year month + 1⟩

def weekday (n : Int) : Int := (n + 4) % 7

end PoolCheck.Script.Date
