import PoolCheck.Binary32.Reading
import PoolCheck.Fault
import PoolCheck.Json.Printer
import PoolCheck.Json.Reader

/-!
# Decoding values

A decoder takes a JSON value apart. It fails when the value has another form than asked for, or
when it has the form but does not pass the check of what it describes; only the second failure has
a text. Of several failures in one document the first in reading order is given.
-/

set_option autoImplicit false

namespace PoolCheck

inductive ReadFault where
  | malformed
  | refused (cause : ConfigFault)
  deriving DecidableEq

abbrev Decoder (α : Type) := Json → Except ReadFault α

namespace Decoder

def nat (limit : Nat) : Decoder Nat
  | .number l =>
    match l.nat? with
    | some n => if n < limit then .ok n else .error .malformed
    | none => .error .malformed
  | _ => .error .malformed

def word : Decoder Nat := nat wordLimit

def halfWord : Decoder Nat := nat halfWordLimit

def float : Decoder Binary32
  | .number l =>
    match l.value? with
    | some x => .ok x
    | none => .error .malformed
  | _ => .error .malformed

def string : Decoder String
  | .string s => .ok s
  | _ => .error .malformed

def bool : Decoder Bool
  | .bool b => .ok b
  | _ => .error .malformed

def optional {α : Type} (d : Decoder α) : Decoder (Option α)
  | .null => .ok none
  | v => (d v).map some

def items {α : Type} (d : Decoder α) : List Json → Except ReadFault (List α)
  | [] => .ok []
  | v :: rest => do pure ((← d v) :: (← items d rest))

def list {α : Type} (d : Decoder α) : Decoder (List α)
  | .array vs closed => do
    let xs ← items d vs
    if closed then pure xs else .error .malformed
  | _ => .error .malformed

def shape : Decoder Shape := list word

/-- One of several names, or an object with that one name and nothing in it. -/
def choice {α : Type} (named? : String → Option α) : Decoder α
  | .string s => ((named? s).map .ok).getD (.error .malformed)
  | .object [(s, .null)] true => ((named? s).map .ok).getD (.error .malformed)
  | _ => .error .malformed

/-- A choice inside a value with a tag, where an empty object is nothing too. -/
def innerChoice {α : Type} (named? : String → Option α) : Decoder α
  | .object [(s, .object [] true)] true => ((named? s).map .ok).getD (.error .malformed)
  | v => choice named? v

end Decoder

/-- The members of a record, and whether there may be such a record at all. A record is an object,
or an array of its fields in order, at least `required` of them. -/
structure Members where
  named : List (String × Json)
  whole : Bool

namespace Members

def ofJson (names : List String) (required : Nat) : Json → Except ReadFault Members
  | .object members closed => .ok ⟨members, closed⟩
  | .array items closed =>
    .ok ⟨names.zip items, closed && required ≤ items.length && items.length ≤ names.length⟩
  | _ => .error .malformed

def find (m : Members) (name : String) : Except ReadFault (Option Json) :=
  match m.named.filter fun p => p.1 = name with
  | [] => .ok none
  | [(_, v)] => .ok (some v)
  | _ => .error .malformed

def required {α : Type} (m : Members) (name : String) (d : Decoder α) : Except ReadFault α := do
  match ← m.find name with
  | some v => d v
  | none => .error .malformed

def withDefault {α : Type} (m : Members) (name : String) (other : α) (d : Decoder α) :
    Except ReadFault α := do
  match ← m.find name with
  | some v => d v
  | none => pure other

def fold {σ : Type} (names : List String) (set : σ → String → Json → Except ReadFault σ) :
    List String → σ → List (String × Json) → Except ReadFault σ
  | _, s, [] => .ok s
  | seen, s, (name, v) :: rest =>
    if name ∈ names ∧ name ∈ seen then .error .malformed
    else do fold names set (name :: seen) (← set s name v) rest

end Members

/-- A value with a tag: the tag, and the rest of an object or an array. All of it is looked at. -/
def Json.tagged (tag : String) (v : Json) : Except ReadFault (String × Json) :=
  match v, v.isWhole with
  | .object members _, true =>
    match members.filter fun p => p.1 = tag with
    | [(_, .string s)] => .ok (s, .record (members.filter fun p => p.1 ≠ tag))
    | _ => .error .malformed
  | .array (.string s :: rest) _, true => .ok (s, .list rest)
  | _, _ => .error .malformed

/-- Decodes a whole text. What follows the value is a fault, but a later one than those in it. -/
def Decoder.text {α : Type} (d : Decoder α) (s : String) : Except ReadFault α :=
  match Json.read s with
  | ⟨some v, whole⟩ => do
    let x ← d v
    if whole then pure x else .error .malformed
  | ⟨none, _⟩ => .error .malformed

def Json.ofNat (n : Nat) : Json := .number (.ofNat n)

def Json.ofFloat (x : Binary32) : Json :=
  if x.isFinite then .number (x.literal .exchange) else .null

def Json.ofShape (s : Shape) : Json := .list (s.map .ofNat)

end PoolCheck
