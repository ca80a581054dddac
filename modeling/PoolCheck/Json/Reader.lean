import PoolCheck.Json.Lexer

/-!
# Reading JSON

A stack of open containers is carried over the tokens. When a token does not fit, the open
containers are put together as they are, and the rest of the text is not looked at. So a reading
gives the value up to the first fault, and says whether the text was that value and nothing else.

A container inside 127 others has no value. In an object, a name without a value ends what can be
used of the object, but the text goes on behind it.
-/

set_option autoImplicit false

namespace PoolCheck.Json

/-- An open container, its parts in reverse. `member` has a name that waits for its value, and
`cut` is an object behind a name without a value. -/
inductive Frame where
  | array (items : List Json)
  | object (members : List (String × Json))
  | member (members : List (String × Json)) (name : String)
  | cut (members : List (String × Json))

inductive Expected where
  | value
  | valueOrEnd
  | name
  | nameOrEnd
  | colon
  | separator
  deriving DecidableEq

inductive Progress where
  | expecting (e : Expected) (frames : List Frame)
  | finished (v : Json)
  | stopped (v : Option Json)

structure Reading where
  value : Option Json
  whole : Bool

def maxOpen : Nat := 127

def deliver (v : Json) : List Frame → Progress
  | [] => .finished v
  | .array items :: rest => .expecting .separator (.array (v :: items) :: rest)
  | .member members name :: rest => .expecting .separator (.object ((name, v) :: members) :: rest)
  | .object members :: rest => .expecting .separator (.object members :: rest)
  | .cut members :: rest => .expecting .separator (.cut members :: rest)

def abandon (inner : Option Json) : List Frame → Option Json
  | [] => inner
  | .array items :: rest =>
    abandon (some (.array (items.reverse ++ inner.toList) false)) rest
  | .object members :: rest => abandon (some (.object members.reverse false)) rest
  | .cut members :: rest => abandon (some (.object members.reverse false)) rest
  | .member members name :: rest =>
    let last := inner.toList.map fun v => (name, v)
    abandon (some (.object (members.reverse ++ last) false)) rest

def stop (frames : List Frame) : Progress := .stopped (abandon none frames)

def enter (e : Expected) (frame : Frame) (frames : List Frame) : Progress :=
  .expecting e (frame :: frames)

def leave (v : Json) (frames : List Frame) : Progress :=
  deliver (if frames.length < maxOpen then v else .valueless) frames

def startValue (frames : List Frame) : Token → Progress
  | .null => deliver .null frames
  | .bool b => deliver (.bool b) frames
  | .number l => deliver ((l.map .number).getD .valueless) frames
  | .string s => deliver ((s.map .string).getD .valueless) frames
  | .beginArray => enter .valueOrEnd (.array []) frames
  | .beginObject => enter .nameOrEnd (.object []) frames
  | _ => stop frames

def closeArray : List Frame → Progress
  | .array items :: rest => leave (.array items.reverse true) rest
  | frames => stop frames

def closeObject : List Frame → Progress
  | .object members :: rest => leave (.object members.reverse true) rest
  | .cut members :: rest => leave (.object members.reverse false) rest
  | frames => stop frames

def startMember (s : Option String) : List Frame → Progress
  | .object members :: rest =>
    .expecting .colon (((s.map (.member members)).getD (.cut members)) :: rest)
  | .cut members :: rest => .expecting .colon (.cut members :: rest)
  | frames => stop frames

def nextPart : List Frame → Progress
  | .array items :: rest => .expecting .value (.array items :: rest)
  | .object members :: rest => .expecting .name (.object members :: rest)
  | .cut members :: rest => .expecting .name (.cut members :: rest)
  | frames => stop frames

def step : Progress → Token → Progress
  | .expecting .value frames, t => startValue frames t
  | .expecting .valueOrEnd frames, .endArray => closeArray frames
  | .expecting .valueOrEnd frames, t => startValue frames t
  | .expecting .name frames, .string s => startMember s frames
  | .expecting .nameOrEnd frames, .string s => startMember s frames
  | .expecting .nameOrEnd frames, .endObject => closeObject frames
  | .expecting .colon frames, .colon => .expecting .value frames
  | .expecting .separator frames, .comma => nextPart frames
  | .expecting .separator frames, .endArray => closeArray frames
  | .expecting .separator frames, .endObject => closeObject frames
  | .expecting _ frames, _ => stop frames
  | .finished v, _ => .stopped (some v)
  | .stopped v, _ => .stopped v

def Progress.result : Progress → Reading
  | finished v => ⟨some v, true⟩
  | stopped v => ⟨v, false⟩
  | expecting _ frames => ⟨abandon none frames, false⟩

def read (s : String) : Reading := ((lex s).foldl step (.expecting .value [])).result

end PoolCheck.Json
