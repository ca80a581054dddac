import PoolCheck.Script.Builtin.Variable

/-!
# Options and arguments of a shell

Setting options and arguments, and reading options out of arguments one by one.
-/

set_option autoImplicit false

namespace PoolCheck.Script.Builtin

open Run

def optionNames : List (Char × String) :=
  [('e', "errexit"), ('f', "noglob"), ('I', "ignoreeof"), ('i', "interactive"), ('m', "monitor"),
    ('n', "noexec"), ('s', "stdin"), ('x', "xtrace"), ('v', "verbose"), ('V', "vi"),
    ('E', "emacs"), ('C', "noclobber"), ('a', "allexport"), ('b', "notify"), ('u', "nounset"),
    ('p', "privileged")]

def idleOptions : List String := ["nolog", "debug"]

/-- Sets an option. Jobs cannot be controlled, except that a subshell does not find out. -/
def setOption (c : Char) (value : Bool) : Run Unit := do
  if (optionNames.lookup c).isNone then faultText ("Illegal option -" ++ String.singleton c)
  let sh ← shell
  let fails := c = 'm' && value && sh.process = sh.root
  if fails then complain (chars "can't access tty; job control turned off")
  let value := value && !fails
  changeShell fun sh => { sh with
    options := optionNames.reverse.filterMap fun (d, _) =>
      if d = c then if value then some d else none
      else if sh.options.contains d then some d else none }

def setNamed (name : Chars) (value : Bool) : Run Unit := do
  match optionNames.find? fun o => o.2.toList = name with
  | some (c, _) => setOption c value
  | none => if !idleOptions.any fun o => o.toList = name then
      fault (chars "Illegal option -o " ++ name)

def listOptions (forPeople : Bool) : Run Unit := do
  let sh ← shell
  let states := optionNames.map (fun (c, name) => (name, sh.hasOption c)) ++
    idleOptions.map fun name => (name, false)
  let line (name : String) (on : Bool) : Chars :=
    if forPeople then
      chars name ++ List.replicate (16 - name.length) ' ' ++ chars (if on then "on\n" else "off\n")
    else chars (if on then "set -o " else "set +o ") ++ chars name ++ ['\n']
  give ((if forPeople then chars "Current option settings\n" else []) ++
    states.flatMap fun (name, on) => line name on) 0

/-- Sets the options of one argument. An `o` takes its name from the arguments behind. Letters in
`more` are no options, but they are told of in the result, before the arguments that are left. -/
def setLetters (more : Chars) (value : Bool) (found : Chars) : Chars → List Chars →
    Run (Chars × List Chars)
  | [], rest => pure (found, rest)
  | c :: cs, rest => do
    if more.contains c then setLetters more value (c :: found) cs rest
    else if c = 'o' then
      match rest with
      | name :: rest =>
        setNamed name value
        setLetters more value found cs rest
      | [] =>
        listOptions value
        setLetters more value found cs []
    else
      setOption c value
      setLetters more value found cs rest

inductive OptionsEnd where
  | operand
  | dash
  | dashes
  deriving DecidableEq

def setOptions (more found : Chars) : Nat → List Chars → Run (Chars × List Chars × OptionsEnd)
  | n + 1, arg :: rest =>
    match arg with
    | ['-'] => pure (found, rest, .dash)
    | ['-', '-'] => pure (found, rest, .dashes)
    | '-' :: cs => do
      let (found, rest) ← setLetters more true found cs rest
      setOptions more found n rest
    | '+' :: cs => do
      let (found, rest) ← setLetters more false found cs rest
      setOptions more found n rest
    | _ => pure (found, arg :: rest, .operand)
  | _, rest => pure (found, rest, .operand)

def setArguments (args : List Chars) : Run Unit :=
  changeShell fun sh => { sh with arguments := args, optionCursor := .start }

def set : Behaviour := fun args => do
  if args = [] then listVariables "" fun v => v.value.isSome
  else
    setStatus 0
    let (_, rest, ended) ← setOptions [] [] (args.length + 1) args
    if ended = .dash then
      setOption 'x' false
      setOption 'v' false
    if rest ≠ [] || ended = .dashes then setArguments rest

def shift : Behaviour := fun args => do
  let n ← match args with
    | [] => pure 1
    | arg :: _ => number arg
  let sh ← shell
  if sh.arguments.length < n then faultText "can't shift that many"
  setArguments (sh.arguments.drop n)
  setStatus 0

def wantedOption? (c : Char) : Chars → Option Bool
  | [] => none
  | d :: ':' :: rest => if d = c then some true else wantedOption? c rest
  | d :: rest => if d = c then some false else wantedOption? c rest

/-- The part of an option argument that is not read yet, and the number of the argument behind it.
Nothing is left when the arguments behind are no options. -/
def optionLetters? (args : List Chars) (cursor : OptionCursor) : Option Chars × Nat :=
  let begun := (cursor.offset.bind fun n => (args[cursor.next - 2]?).map (List.drop n)).getD []
  if 1 < cursor.next && begun ≠ [] then (some begun, cursor.next)
  else
    match args[cursor.next - 1]? with
    | some ['-', '-'] => (none, cursor.next + 1)
    | some ('-' :: c :: cs) => (some (c :: cs), cursor.next + 1)
    | _ => (none, cursor.next)

def nextOption (wanted : Chars) (args : List Chars) (cursor : OptionCursor) :
    Run (Option Char × OptionCursor) := do
  let silent := wanted.head? = some ':'
  let say (cs : Chars) (c : Char) : Run Unit := do
    if silent then assign "OPTARG" [c] false
    else
      let _ ← writeChars 2 cs
      unsetVariable "OPTARG"
  match optionLetters? args cursor with
  | (none, next) | (some [], next) => pure (none, ⟨next, none⟩)
  | (some (c :: cs), next) =>
    let offset := ((args[next - 2]?).getD []).length - cs.length
    match wantedOption? c (if silent then wanted.tail else wanted) with
    | none =>
      say (chars "Illegal option -" ++ [c, '\n']) c
      pure (some '?', ⟨next, some offset⟩)
    | some false =>
      assign "OPTARG" [] false
      pure (some c, ⟨next, some offset⟩)
    | some true =>
      match cs, args[next - 1]? with
      | [], none =>
        say (chars "No arg for -" ++ c :: chars " option\n") c
        pure (some (if silent then ':' else '?'), ⟨next, none⟩)
      | [], some value =>
        assign "OPTARG" value false
        pure (some c, ⟨next + 1, none⟩)
      | cs, _ =>
        assign "OPTARG" cs false
        pure (some c, ⟨next, none⟩)

def getopts : Behaviour := fun args => do
  match args with
  | wanted :: name :: rest =>
    let sh ← shell
    let args := if rest = [] then sh.arguments else rest
    let cursor := if args.length + 1 < sh.optionCursor.next then .start else sh.optionCursor
    changeShell fun sh => { sh with optionCursor := .start }
    let (found, cursor) ← nextOption wanted args cursor
    assign "OPTIND" (numberChars cursor.next) false
    changeShell fun sh => { sh with optionCursor := .start }
    setChecked name [found.getD '?'] false
    changeShell fun sh => { sh with optionCursor := cursor }
    setStatus (if found.isNone then 1 else 0)
  | _ => faultText "Usage: getopts optstring var [arg...]"

end PoolCheck.Script.Builtin
