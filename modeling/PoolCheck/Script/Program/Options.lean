import PoolCheck.Script.Program

/-!
# Options

Options are letters behind one dash or names behind two, and a beginning of a name will do that no
other option shares. A double dash ends them. Each option is known by a key: its letter, or its
name if it has no letter.
-/

set_option autoImplicit false

namespace PoolCheck.Script.Program

/-- Whether an option takes a value. One that may be missing has to stand behind an equals sign. -/
inductive Taking where
  | nothing
  | value
  | perhaps
  deriving DecidableEq

structure LongOption where
  name : String
  key : String
  taking : Taking

/-- The letters of options without and with a value, and the options with names. -/
structure Grammar where
  flags : String
  valued : String
  long : List LongOption
  anywhere : Bool

/-- The options in their order, what is left, and what is wrong with the first one that is not as
it should be. Nothing behind it is looked at. -/
structure Options where
  given : List (String × Option Chars)
  operands : List Chars
  fault : Option Chars

namespace Options

def none : Options := ⟨[], [], .none⟩

def has (o : Options) (key : String) : Bool := o.given.any fun g => g.1 = key

def value? (o : Options) (key : String) : Option Chars := (o.given.reverse.lookup key).join

def add (o : Options) (key : String) (value : Option Chars) : Options :=
  { o with given := o.given ++ [(key, value)] }

def withOperands (o : Options) (operands : List Chars) : Options :=
  { o with operands := o.operands ++ operands }

end Options

def commonOptions : List LongOption :=
  [⟨"help", "help", .nothing⟩, ⟨"version", "version", .nothing⟩]

def letters (g : Grammar) (next : Option Chars) (o : Options) : Chars → Options × Bool
  | [] => (o, false)
  | c :: rest =>
    let key := String.singleton c
    if g.valued.toList.contains c then
      match rest, next with
      | [], none =>
        ({ o with fault := some ("option requires an argument -- '".toList ++ [c, '\'']) }, false)
      | [], some value => (o.add key (some value), true)
      | value, _ => (o.add key (some value), false)
    else if g.flags.toList.contains c then letters g next (o.add key none) rest
    else ({ o with fault := some ("invalid option -- '".toList ++ [c, '\'']) }, false)

inductive Lookup where
  | found (l : LongOption)
  | missing
  | ambiguous (ls : List LongOption)

def lookUpOption (all : List LongOption) (name : Chars) : Lookup :=
  match all.find? (fun l => l.name.toList = name),
    all.filter (fun l => name.isPrefixOf l.name.toList) with
  | some l, _ => .found l
  | none, [] => .missing
  | none, l :: ls =>
    if ls.all fun k => k.key = l.key && k.taking = l.taking then .found l else .ambiguous (l :: ls)

def longOption (g : Grammar) (next : Option Chars) (o : Options) (arg : Chars) : Options × Bool :=
  let name := arg.takeWhile (· ≠ '=')
  let value := arg.drop (name.length + 1)
  let hasValue := name.length < arg.length
  let wrong (cs : Chars) : Options × Bool := ({ o with fault := some cs }, false)
  match lookUpOption (g.long ++ commonOptions) name with
  | .missing => wrong ("unrecognized option '--".toList ++ arg ++ ['\''])
  | .ambiguous ls =>
    wrong ("option '--".toList ++ arg ++ "' is ambiguous; possibilities:".toList ++
      ls.flatMap fun l => (" '--" ++ l.name ++ "'").toList)
  | .found l =>
    let wrong (cause : String) : Options × Bool :=
      wrong ("option '--" ++ l.name ++ "' " ++ cause).toList
    if hasValue then
      if l.taking = .nothing then wrong "doesn't allow an argument"
      else (o.add l.key (some value), false)
    else if l.taking = .value then
      match next with
      | none => wrong "requires an argument"
      | some value => (o.add l.key (some value), true)
    else (o.add l.key none, false)

def Options.isDecided (o : Options) : Bool := o.fault.isSome || o.has "help" || o.has "version"

def optionsFrom (g : Grammar) (o : Options) : List Chars → Bool → Options
  | [], _ => o
  | _ :: rest, true => optionsFrom g o rest false
  | arg :: rest, false =>
    if o.isDecided then o
    else
      match arg with
      | ['-', '-'] => o.withOperands rest
      | '-' :: '-' :: name =>
        let (o, taken) := longOption g rest.head? o name
        optionsFrom g o rest taken
      | '-' :: c :: cs =>
        let (o, taken) := letters g rest.head? o (c :: cs)
        optionsFrom g o rest taken
      | arg =>
        if g.anywhere then optionsFrom g (o.withOperands [arg]) rest false
        else o.withOperands (arg :: rest)

/-- Making settings of options. What is thrown ends the program, which has said why. -/
abbrev Settling := ExceptT Unit (StateM Effect)

def refusing {α : Type} (refusal : StateM Effect Unit) : Settling α := do
  liftM refusal
  throw ()

/-- Runs a program on its settings, to which its options are added one after the other. What a
program tells about itself is not printed. `advise` may say more about a wrong option. -/
def withAdvice {σ : Type} (advise : StateM Effect Unit) (g : Grammar) (start : σ)
    (add : σ → String × Option Chars → Settling σ) (c : Call)
    (run : σ → List Chars → StateM Effect Unit) : StateM Effect Unit := do
  let o := optionsFrom g .none c.arguments false
  match ← (o.given.foldlM add start).run, o.fault with
  | .error _, _ => pure ()
  | .ok _, some cause =>
    refuse c cause
    advise
    hint c
  | .ok settings, none => if o.isDecided then pure () else run settings o.operands

def withSettings {σ : Type} (g : Grammar) (start : σ)
    (add : σ → String × Option Chars → Settling σ) (c : Call)
    (run : σ → List Chars → StateM Effect Unit) : StateM Effect Unit :=
  withAdvice (pure ()) g start add c run

def withOptions (g : Grammar) (c : Call) (run : Options → StateM Effect Unit) :
    StateM Effect Unit :=
  withSettings g Options.none (fun o (key, value) => pure (o.add key value)) c
    fun o operands => run { o with operands := operands }

/-! ## Choices -/

/-- The value that an argument chooses by its name, or by the beginning of names that stand for no
other. Otherwise tells whether there is more than one. -/
def choice {α : Type} [DecidableEq α] (table : List (String × α)) (arg : Chars) :
    Except Bool α :=
  match table.find? (fun e => e.1.toList = arg),
    table.filter (fun e => arg.isPrefixOf e.1.toList) with
  | some e, _ => .ok e.2
  | none, [] => .error false
  | none, e :: es => if es.all fun f => f.2 = e.2 then .ok e.2 else .error true

def groups {α : Type} [DecidableEq α] : List (String × α) → List (List String)
  | [] => []
  | (name, a) :: rest =>
    match rest.head?, groups rest with
    | some (_, b), g :: gs => if a = b then (name :: g) :: gs else [name] :: g :: gs
    | _, gs => [name] :: gs

def refuseChoice {α : Type} [DecidableEq α] (c : Call) (purpose : String)
    (table : List (String × α)) (arg : Chars) (isAmbiguous : Bool) : StateM Effect Unit := do
  let kind := if isAmbiguous then "ambiguous" else "invalid"
  refuse c (text kind ++ text " argument " ++ quoted arg ++ text (" for '" ++ purpose ++ "'"))
  complain (text "Valid arguments are:\n")
  (groups table).forM fun g =>
    complain (text ("  - " ++ String.intercalate ", " (g.map fun n => "'" ++ n ++ "'") ++ "\n"))
  hint c

def choose {α : Type} [DecidableEq α] (c : Call) (purpose : String) (table : List (String × α))
    (arg : Chars) : Settling α :=
  match choice table arg with
  | .ok a => pure a
  | .error isAmbiguous => refusing (refuseChoice c purpose table arg isAmbiguous)

end PoolCheck.Script.Program
