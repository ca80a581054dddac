import PoolCheck.Script.Program.Named

/-!
# Executables

What a path starts: a program, a shell, or the interpreter that the first line of a file asks for.
-/

set_option autoImplicit false

namespace PoolCheck.Script

inductive Executable where
  | shell
  | program (p : Program)
  | environment
  | text (content : ByteArray)

inductive ExecutionFault where
  | missing
  | denied
  | unknownForm
  | looped
  deriving DecidableEq

namespace ExecutionFault

def status : ExecutionFault → Nat
  | denied => 126
  | _ => 127

def text : ExecutionFault → String
  | missing => "not found"
  | denied => "Permission denied"
  | unknownForm => "Exec format error"
  | looped => "Too many levels of symbolic links"

end ExecutionFault

inductive Action where
  | shell
  | program (p : Program)

/-- What is to be started: something, the name it is called by, and what it gets. -/
structure Start where
  action : Action
  name : Chars
  arguments : List Chars
  environment : List (String × Chars)

abbrev Installed := List (Location × Program)

namespace Executable

def mark : List UInt8 := [127, 69, 76, 70]

def image (name : String) : ByteArray := ⟨mark.toArray⟩ ++ name.toUTF8

def ofContent (content : ByteArray) : Executable :=
  match String.fromUTF8? (content.extract mark.length content.size) with
  | some name =>
    if content.data ≠ (image name).data then .text content
    else if Program.shells.contains name then .shell
    else if name = "env" then .environment
    else ((Program.named? name).map .program).getD (.text content)
  | none => .text content

/-- The files of the programs that are kept. -/
def kept : List (Location × Node) :=
  let names := Program.shells ++ "env" :: Program.all.map (·.1)
  Program.homes.flatMap fun home => names.map fun n => (home ++ [n], .file (image n) true)

def atPlace (installed : Installed) (fs : FileSystem) (place : Location) :
    Except ExecutionFault Executable :=
  match installed.lookup place, fs.node? place with
  | some p, _ => .ok (.program p)
  | none, none => .error .missing
  | none, some (.file content true) => .ok (ofContent content)
  | none, some _ => .error .denied

def atPath (installed : Installed) (fs : FileSystem) (path : Chars) :
    Except ExecutionFault Executable :=
  match fs.locate (Chars.text path) with
  | .ok place => atPlace installed fs place
  | .error _ => .error .missing

end Executable

def searchPath (installed : Installed) (fs : FileSystem) (dirs name : Chars) :
    Except ExecutionFault Chars :=
  let paths := (Text.split ':' dirs).map fun d => if d = [] then name else d ++ '/' :: name
  let outcome (path : Chars) : Except ExecutionFault Chars :=
    (Executable.atPath installed fs path).map fun _ => path
  match paths.findSome? fun path => (outcome path).toOption with
  | some path => .ok path
  | none =>
    let isDenied (path : Chars) : Bool :=
      match outcome path with
      | .error .denied => true
      | _ => false
    .error (if paths.any isDenied then .denied else .missing)

/-! ## First lines -/

def isGap (c : Char) : Bool := c = ' ' || c = '\t'

def trimGaps (cs : Chars) : Chars := ((cs.dropWhile isGap).reverse.dropWhile isGap).reverse

def frontSize : Nat := 255

def interpreter? (content : ByteArray) : Option (Chars × Option Chars) :=
  match Chars.ofBytes (content.extract 0 frontSize) with
  | '#' :: '!' :: front =>
    let line := front.takeWhile (· ≠ '\n')
    let isWhole := line.length < front.length || front.length + 2 < frontSize
    let shown := trimGaps line
    let path := shown.takeWhile fun c => !isGap c && c ≠ '\x00'
    let isCut := !isWhole && path.length = (line.dropWhile isGap).length
    if path = [] || isCut then none
    else
      match shown.drop path.length with
      | '\x00' :: _ => some (path, none)
      | rest =>
        let arg := (rest.dropWhile isGap).takeWhile (· ≠ '\x00')
        some (path, if arg = [] then none else some arg)
  | _ => none

/-! ## Environments -/

def Program.stoppedBy (cause : Chars) (status : Nat) : Program := fun c => do
  Program.complain (c.name ++ ": ".toList ++ cause ++ ['\n'])
  Program.setStatus status

def Program.endless : Program := fun _ => modify fun e => { e with endless := true }

def environmentGrammar : Program.Grammar where
  flags := "i0v"
  valued := "uS"
  long := [⟨"ignore-environment", "i", .nothing⟩, ⟨"null", "0", .nothing⟩, ⟨"unset", "u", .value⟩,
    ⟨"debug", "v", .nothing⟩, ⟨"split-string", "S", .value⟩]
  anywhere := false

/-- The words of a text that blanks divide. Quotes keep blanks, and a backslash the character
behind it. `begun` is the word on its way, in reverse, and `quote` what it waits for. -/
def splitWords (begun : Option Chars) (quote : Option Char) : Chars → List Chars
  | [] => (begun.map List.reverse).toList
  | '\\' :: d :: cs => splitWords (some (d :: begun.getD [])) quote cs
  | c :: cs =>
    match quote with
    | some q =>
      if c = q then splitWords begun none cs
      else splitWords (some (c :: begun.getD [])) quote cs
    | none =>
      if Arithmetic.isSpace c then
        (begun.map List.reverse).toList ++ splitWords none none cs
      else if c = '\'' || c = '"' then splitWords (some (begun.getD [])) (some c) cs
      else splitWords (some (c :: begun.getD [])) none cs

def environmentOptions : Nat → List Chars → Program.Options
  | 0, args => ⟨[], args, none⟩
  | n + 1, args =>
    let o := Program.optionsFrom environmentGrammar .none args false
    match o.fault, o.value? "S" with
    | none, some words =>
      let inner := environmentOptions n (splitWords none none words ++ o.operands)
      { inner with given := o.given ++ inner.given }
    | _, _ => o

def assigned (env : List (String × Chars)) : List Chars → List (String × Chars) × List Chars
  | [] => (env, [])
  | arg :: rest =>
    if arg.contains '=' then
      let name := String.ofList (arg.takeWhile (· ≠ '='))
      let value := (arg.dropWhile (· ≠ '=')).drop 1
      let changed :=
        if (env.lookup name).isSome then env.map fun v => if v.1 = name then (name, value) else v
        else env ++ [(name, value)]
      assigned changed rest
    else (env, arg :: rest)

def changedEnvironment (env : List (String × Chars)) (o : Program.Options) :
    List (String × Chars) × List Chars :=
  let isCleared := o.has "i" || o.operands.head? = some ['-']
  let operands := if o.operands.head? = some ['-'] then o.operands.tail else o.operands
  let removed := o.given.filterMap fun (key, name) =>
    if key = "u" then name.map Chars.text else none
  assigned ((if isCleared then [] else env).filter fun v => !removed.contains v.1) operands

def standardPath : Chars := "/usr/local/sbin:/usr/local/bin:/usr/sbin:/usr/bin:/sbin:/bin".toList

/-- What starting a path comes to. Interpreters may need interpreters themselves. -/
def startOf (installed : Installed) (fs : FileSystem) (env : List (String × Chars)) :
    Nat → Chars → Chars → List Chars → Except ExecutionFault Start
  | 0, _, _, _ => .error .looped
  | n + 1, path, name, arguments => do
    match ← Executable.atPath installed fs path with
    | .shell => pure ⟨.shell, name, arguments, env⟩
    | .program p => pure ⟨.program p, name, arguments, env⟩
    | .text content =>
      match interpreter? content with
      | none => throw .unknownForm
      | some (interpreter, arg) =>
        startOf installed fs env n interpreter interpreter (arg.toList ++ path :: arguments)
    | .environment =>
      let o := environmentOptions arguments.length arguments
      match o.fault with
      | some cause =>
        pure ⟨.program fun c => do Program.misuse c cause; Program.setStatus 125, name, [], env⟩
      | none =>
        match changedEnvironment env o with
        | (env, []) => pure ⟨.program Program.printEnvironment, name, [], env⟩
        | (env, command :: rest) =>
          let found :=
            if command.contains '/' then .ok command
            else searchPath installed fs ((env.lookup "PATH").getD standardPath) command
          let failed (status : Nat) (cause : String) : Start :=
            ⟨.program (.stoppedBy (Program.quoted command ++ ": ".toList ++ cause.toList)
              status), name, [], env⟩
          match found.bind fun path => startOf installed fs env n path command rest with
          | .ok s => pure s
          | .error .denied => pure (failed 126 "Permission denied")
          | .error .unknownForm => pure ⟨.shell, "sh".toList, command :: rest, env⟩
          | .error .looped => pure ⟨.program Program.endless, name, [], env⟩
          | .error .missing => pure (failed 127 "No such file or directory")

def interpreterDepth : Nat := 6

def start (installed : Installed) (fs : FileSystem) (env : List (String × Chars))
    (path name : Chars) (arguments : List Chars) : Except ExecutionFault Start :=
  startOf installed fs env interpreterDepth path name arguments

end PoolCheck.Script
