import PoolCheck.FileSystem
import PoolCheck.Script.Basic

/-!
# Programs for scripts

A program gets arguments and what is left of its input, and works on the files. What it prints and
what it complains about keep their order.
-/

set_option autoImplicit false

namespace PoolCheck.Script

inductive Stream where
  | file (place : Location)
  | directory
  | pipe
  | void

structure Opened where
  stream : Stream
  input : Option ByteArray

structure Call where
  name : Chars
  arguments : List Chars
  environment : List (String × Chars)
  mask : Nat
  descriptors : List (Nat × Opened)

/-- What a program has done. The output is in reverse, and each part of it stands with the
descriptor that it goes to. `taken` is how much of the input was read, `reads` tells whether any of
it was asked for, and `moved` tells which file is now where. -/
structure Effect where
  files : FileSystem
  reads : Bool
  taken : Nat
  output : List (Nat × ByteArray)
  status : Nat
  milliseconds : Nat
  endless : Bool
  moved : List (Location × Location)

abbrev Program := Call → StateM Effect Unit

namespace Effect

def start (fs : FileSystem) : Effect := ⟨fs, false, 0, [], 0, 0, false, []⟩

end Effect

namespace Call

def input? (c : Call) : Option ByteArray := (c.descriptors.lookup 0).bind Opened.input

def outputPlace? (c : Call) : Option Location :=
  match c.descriptors.lookup 1 with
  | some ⟨.file place, _⟩ => some place
  | _ => none

end Call

def namedDescriptor? (p : Path) : Option Nat :=
  let ofDigits (ds : List Char) : Option Nat :=
    if ds ≠ [] ∧ ds.all Char.isDigit then some (Nat.ofDigitChars 10 ds 0) else none
  if p = "/dev/stdin" then some 0
  else if p = "/dev/stdout" then some 1
  else if p = "/dev/stderr" then some 2
  else
    match Text.stripFront? "/dev/fd/".toList p.toList,
      Text.stripFront? "/proc/self/fd/".toList p.toList with
    | some ds, _ => ofDigits ds
    | none, some ds => ofDigits ds
    | none, none => none

namespace Program

def files : StateM Effect FileSystem := do pure (← get).files

def setFiles (fs : FileSystem) : StateM Effect Unit := modify fun e => { e with files := fs }

def give (descriptor : Nat) (b : ByteArray) : StateM Effect Unit :=
  modify fun e => { e with output := (descriptor, b) :: e.output }

def printBytes (b : ByteArray) : StateM Effect Unit := give 1 b

def print (cs : Chars) : StateM Effect Unit := printBytes (Chars.bytes cs)

def complain (cs : Chars) : StateM Effect Unit := give 2 (Chars.bytes cs)

/-- A question comes before what was printed since the last complaint, as that is kept back. -/
def prompt (cs : Chars) : StateM Effect Unit := modify fun e =>
  let kept := e.output.takeWhile fun part => part.1 = 1
  { e with output := kept ++ (2, Chars.bytes cs) :: e.output.drop kept.length }

def setStatus (n : Nat) : StateM Effect Unit := modify fun e => { e with status := n }

def refuse (c : Call) (cause : Chars) : StateM Effect Unit := do
  complain (c.name ++ ": ".toList ++ cause ++ ['\n'])
  setStatus 1

def hint (c : Call) : StateM Effect Unit := do
  complain ("Try '".toList ++ c.name ++ " --help' for more information.\n".toList)
  setStatus 1

def misuse (c : Call) (cause : Chars) : StateM Effect Unit := do
  refuse c cause
  hint c

def text (s : String) : Chars := Chars.ofString s

/-! ## Input -/

def inputLeft (c : Call) : StateM Effect (Option ByteArray) :=
  modifyGet fun e =>
    (c.input?.map fun all => all.extract e.taken all.size, { e with reads := true })

def takeInput (c : Call) : StateM Effect (Option ByteArray) := do
  let left ← inputLeft c
  modify fun e => { e with taken := e.taken + (left.map ByteArray.size).getD 0 }
  pure left

def takeLine (c : Call) : StateM Effect Chars := do
  let left := Chars.ofBytes ((← inputLeft c).getD .empty)
  let line := left.takeWhile (· ≠ '\n')
  modify fun e => { e with taken := e.taken + min (line.length + 1) left.length }
  pure line

def agrees (c : Call) (question : Chars) : StateM Effect Bool := do
  prompt (c.name ++ text ": " ++ question ++ text "? ")
  let answer ← takeLine c
  pure (answer.head?.any fun d => d = 'y' || d = 'Y')

/-- Runs a program that closes its input, which fails if it has asked for what cannot be read. -/
def closingInput (c : Call) (run : StateM Effect Unit) : StateM Effect Unit := do
  run
  if (← get).reads && c.input?.isNone then
    let isOpen := (c.descriptors.lookup 0).isSome
    refuse c (text (if isOpen then "error closing file" else
      "error closing file: Bad file descriptor"))

/-! ## File names in complaints -/

def isPlain (c : Char) : Bool :=
  c.isAlphanum || "_-./+,%@\x7b\x7d]~#".toList.contains c

def isUnsafeFront (c : Char) : Bool := c = '~' || c = '#'

def isPrintable (c : Char) : Bool := 32 ≤ c.toNat && c.toNat < 127

def threeOctal (n : Nat) : Chars :=
  ['\\', Nat.digitChar (n / 64 % 8), Nat.digitChar (n / 8 % 8), Nat.digitChar (n % 8)]

def escaped (c : Char) : Chars :=
  match [(7, 'a'), (8, 'b'), (9, 't'), (10, 'n'), (11, 'v'), (12, 'f'), (13, 'r')].lookup
      c.toNat with
  | some letter => ['\\', letter]
  | none => threeOctal c.toNat

def quoted (cs : Chars) : Chars :=
  '\'' :: cs.flatMap (fun c =>
    if c = '\'' || c = '\\' then ['\\', c]
    else if isPrintable c then [c] else escaped c) ++ ['\'']

def shellQuoted (apart : Bool) : Chars → Chars
  | [] => []
  | c :: cs =>
    if isPrintable c then
      (if apart then ['\'', '\''] else []) ++ (if c = '\'' then "'\\''".toList else [c]) ++
        shellQuoted false cs
    else (if apart then [] else "'$'".toList) ++ escaped c ++ shellQuoted true cs

def quotedName (name : Chars) : Chars :=
  let isShown (c : Char) : Bool := isPrintable c && !"\"$\\\x60!".toList.contains c
  if name.contains '\'' && name.all isShown then '"' :: name ++ ['"']
  else '\'' :: shellQuoted false name ++ ['\'']

def shownName (name : Chars) : Chars :=
  let isLone := name = ['\x7b'] || name = ['\x7d']
  if name ≠ [] && name.all isPlain && !name.head?.any isUnsafeFront && !isLone then name
  else quotedName name

/-! ## Causes -/

def missingText : Chars := text "No such file or directory"

def accessText (fs : FileSystem) (path : Chars) : Chars :=
  let p := Chars.text path
  match fs.locate p with
  | .ok _ => missingText
  | .error .missing => missingText
  | .error .blocked =>
    let tooLong := FileSystem.pathLimit ≤ p.utf8ByteSize ||
      (Path.segments p).any fun s => !FileSystem.isName s
    if tooLong then text "File name too long" else text "Not a directory"

def withoutSlashes (path : Chars) : Chars :=
  match (path.reverse.dropWhile (· = '/')).reverse with
  | [] => path.take 1
  | cs => cs

def lastName (path : Chars) : Chars :=
  ((Text.split '/' (withoutSlashes path)).getLast?).getD []

/-- A path behind the path of a directory, whose slashes at the end do not count. -/
def below (dir path : Chars) : Chars :=
  let front := (dir.reverse.dropWhile (· = '/')).reverse
  match front, path with
  | [], path =>
    if dir = [] then path
    else if path.head? = some '/' then '/' :: '.' :: path
    else '/' :: path
  | front, '/' :: _ => front ++ path
  | front, path => front ++ '/' :: path

/-! ## What paths lead to -/

inductive Entry where
  | place (p : Location)
  | stream (descriptor : Nat) (o : Opened)

def entry (c : Call) (fs : FileSystem) (path : Chars) : Except AccessFault Entry :=
  match namedDescriptor? (Chars.text path) with
  | some d =>
    match c.descriptors.lookup d with
    | some ⟨.file place, _⟩ => .ok (.place place)
    | some o => .ok (.stream d o)
    | none => .error .missing
  | none => (fs.locate (Chars.text path)).map Entry.place

end Program

end PoolCheck.Script
