import PoolCheck.Binary32.Literal

/-!
# JSON values

Numbers keep their digits, and objects the order and the repetition of their members. A container
that was read from a text has a mark that says whether it was read to its end: where a text stops
being JSON, the containers around that place are left open, and what stands before it can still be
used. A part of the right form may still have no value, such as a number that is too large; it may
be passed over, but not be looked at. Printed values are closed throughout.
-/

set_option autoImplicit false

namespace PoolCheck

inductive Json where
  | null
  | bool (b : Bool)
  | number (l : Literal)
  | string (s : String)
  | array (items : List Json) (closed : Bool)
  | object (members : List (String × Json)) (closed : Bool)
  | valueless
  deriving Inhabited

namespace Json

/-- A lexical unit. A number or a string may be of the right form and have no value.
`unreadable` ends every text. -/
inductive Token where
  | beginArray
  | endArray
  | beginObject
  | endObject
  | comma
  | colon
  | null
  | bool (b : Bool)
  | number (l : Option Literal)
  | string (s : Option String)
  | unreadable
  deriving DecidableEq

def list (items : List Json) : Json := array items true

def record (members : List (String × Json)) : Json := object members true

mutual

def isWhole : Json → Bool
  | array items closed => closed && areWhole items
  | object members closed => closed && membersAreWhole members
  | valueless => false
  | _ => true

def areWhole : List Json → Bool
  | [] => true
  | v :: rest => isWhole v && areWhole rest

def membersAreWhole : List (String × Json) → Bool
  | [] => true
  | (_, v) :: rest => isWhole v && membersAreWhole rest

end

end Json

end PoolCheck
