import PoolCheck.Script.Program.Options

/-!
# The program that shows files

It puts files one behind the other, and can number lines and make visible what cannot be seen.
-/

set_option autoImplicit false

namespace PoolCheck.Script.Program

/-- Where showing text is: the number of the next line, whether a line begins, and how many empty
lines came before. -/
structure Shown where
  line : Nat
  fresh : Bool
  empty : Nat

def lineNumber (n : Nat) : Chars :=
  let ds := (toString n).toList
  List.replicate (6 - ds.length) ' ' ++ ds ++ ['\t']

def visibleLow (c : Char) : Chars :=
  if c.toNat < 32 then ['^', Char.ofNat (c.toNat + 64)]
  else if c.toNat = 127 then ['^', '?']
  else [c]

def visible (o : Options) (c : Char) : Chars :=
  let marks := o.has "v" || o.has "A" || o.has "e" || o.has "t"
  let tabs := o.has "T" || o.has "A" || o.has "t"
  if c = '\t' then if tabs then ['^', 'I'] else [c]
  else if !marks then [c]
  else if 128 ≤ c.toNat then 'M' :: '-' :: visibleLow (Char.ofNat (c.toNat - 128))
  else visibleLow c

def showChar (o : Options) (acc : Shown × Chars) (c : Char) : Shown × Chars :=
  let (s, out) := acc
  let ends := o.has "E" || o.has "A" || o.has "e"
  let numbersAll := o.has "n" && !o.has "b"
  if c = '\n' then
    let empty := if s.fresh then s.empty + 1 else 0
    if o.has "s" && 2 ≤ empty then (s, out)
    else
      let numbered := s.fresh && numbersAll
      let front := if numbered then lineNumber s.line else []
      let body := front ++ (if ends then ['$'] else []) ++ ['\n']
      (⟨if numbered then s.line + 1 else s.line, true, empty⟩, body.reverse ++ out)
  else
    let numbered := s.fresh && (numbersAll || o.has "b")
    let front := if numbered then lineNumber s.line else []
    (⟨if numbered then s.line + 1 else s.line, false, 0⟩,
      (front ++ visible o c).reverse ++ out)

def withReturns : Chars → Chars
  | '\r' :: '\n' :: cs => '^' :: 'M' :: '\n' :: withReturns cs
  | c :: cs => c :: withReturns cs
  | [] => []

def showBytes (o : Options) (s : Shown) (b : ByteArray) : Shown × ByteArray :=
  if o.given.all fun g => g.1 = "u" then (s, b)
  else
    let cs := Chars.ofBytes b
    let (s, out) := (if o.has "E" then withReturns cs else cs).foldl (showChar o) (s, [])
    (s, Chars.bytes out.reverse)

def shownContent (c : Call) (name : Chars) : StateM Effect (Except Chars ByteArray) := do
  let ofInput : StateM Effect (Except Chars ByteArray) := do
    pure (((← takeInput c).map Except.ok).getD (.error (text "Bad file descriptor")))
  if name = ['-'] then
    match (c.descriptors.lookup 0).map Opened.stream with
    | some .directory => pure (.error (text "Is a directory"))
    | some (.file place) =>
      if c.outputPlace? = some place && (← inputLeft c).any (·.size ≠ 0) then
        pure (.error (text "input file is output file"))
      else ofInput
    | _ => ofInput
  else
    let fs ← files
    match entry c fs name with
    | .error _ => pure (.error (accessText fs name))
    | .ok (.stream _ ⟨.directory, _⟩) => pure (.error (text "Is a directory"))
    | .ok (.stream d o) =>
      if d = 0 then ofInput else pure (.ok (o.input.getD .empty))
    | .ok (.place place) =>
      match fs.node? place with
      | none => pure (.error missingText)
      | some .void => pure (.ok .empty)
      | some .directory => pure (.error (text "Is a directory"))
      | some (.file content _) =>
        if content.size ≠ 0 && c.outputPlace? = some place then
          pure (.error (text "input file is output file"))
        else pure (.ok content)

def showOne (c : Call) (o : Options) (s : Shown) (name : Chars) : StateM Effect Shown := do
  match ← shownContent c name with
  | .ok content =>
    let (s, out) := showBytes o s content
    printBytes out
    pure s
  | .error cause =>
    refuse c (shownName name ++ text ": " ++ cause)
    pure s

def catGrammar : Grammar where
  flags := "AbeEnstTuv"
  valued := ""
  long := [⟨"number-nonblank", "b", .nothing⟩, ⟨"number", "n", .nothing⟩,
    ⟨"squeeze-blank", "s", .nothing⟩, ⟨"show-nonprinting", "v", .nothing⟩,
    ⟨"show-ends", "E", .nothing⟩, ⟨"show-tabs", "T", .nothing⟩, ⟨"show-all", "A", .nothing⟩]
  anywhere := true

def cat : Program := fun c => withOptions catGrammar c fun o => do
  if (c.descriptors.lookup 1).isNone then
    refuse c (text "standard output: Bad file descriptor")
  else
    let names := if o.operands = [] then [['-']] else o.operands
    let _ ← names.foldlM (showOne c o) ⟨1, true, 0⟩
    if names.contains ['-'] && (c.descriptors.lookup 0).isNone then
      refuse c (text "closing standard input: Bad file descriptor")

end PoolCheck.Script.Program
