import PoolCheck.Binary32.Reading
import PoolCheck.Exchange.Config
import PoolCheck.FileSystem

/-!
# Command-line options

Every option overrides one part of the configuration. A value stands behind an equals sign or is
the next argument; as the next argument it must not begin with a hyphen. Only the shape may be
given in several pieces, and nothing may stand alone.
-/

set_option autoImplicit false

namespace PoolCheck

structure Options where
  config : Option Path
  family : Option Family
  name : Option String
  converter : Option Path
  seed : Option Nat
  inputShape : Option Shape
  timeoutSeconds : Option Nat
  absTolerance : Option Binary32
  relTolerance : Option Binary32
  workDirectory : Option Path
  keepArtifacts : Bool
  logLevel : Option String
  deriving DecidableEq

inductive UsageFault where
  | unusable
  | information
  deriving DecidableEq

namespace Options

def none : Options :=
  ⟨.none, .none, .none, .none, .none, .none, .none, .none, .none, .none, false, .none⟩

/-! ## Values -/

def lower (cs : List Char) : List Char := cs.map Char.toLower

def exponent? : List Char → Option Int
  | [] => some 0
  | mark :: cs =>
    if mark = 'e' ∨ mark = 'E' then
      let digits := if cs.head? = some '-' ∨ cs.head? = some '+' then cs.tail else cs
      if digits = [] ∨ !digits.all Char.isDigit then .none
      else
        let n : Nat := Nat.ofDigitChars 10 digits 0
        some (if cs.head? = some '-' then -(n : Int) else n)
    else .none

def unsigned? (negative : Bool) (cs : List Char) : Option Binary32 :=
  let whole := cs.takeWhile Char.isDigit
  let rest := cs.dropWhile Char.isDigit
  let pointed := rest.head? = some '.'
  let fraction := if pointed then rest.tail.takeWhile Char.isDigit else []
  let rest := if pointed then rest.tail.dropWhile Char.isDigit else rest
  if whole = [] ∧ fraction = [] then .none
  else
    (exponent? rest).map fun e =>
      Literal.nearest ⟨negative, whole, fraction, some e⟩

def magnitude? (negative : Bool) (cs : List Char) : Option Binary32 :=
  let word := lower cs
  if word = "inf".toList ∨ word = "infinity".toList then
    some (if negative then .negInfinity else .infinity)
  else if word = "nan".toList then some .nan
  else unsigned? negative cs

def float? : List Char → Option Binary32
  | '-' :: cs => magnitude? true cs
  | '+' :: cs => magnitude? false cs
  | cs => magnitude? false cs

def path? (s : String) : Option Path := if s = "" then .none else some s

def counts? : List (List Char) → Option (List Nat)
  | [] => some []
  | w :: ws => do some ((← Text.count? w) :: (← counts? ws))

/-! ## Options -/

def fill {α : Type} (slot : Option α) (value : Option α) : Option (Option α) :=
  match slot, value with
  | .none, some x => some (some x)
  | _, _ => .none

/-- Takes one option with its value. Nothing comes back when the option is unknown, was there
before, or cannot have the value. -/
def set? (o : Options) (name value : String) : Option Options :=
  let cs := value.toList
  if name = "config" then (fill o.config (path? value)).map ({ o with config := · })
  else if name = "family" then
    (fill o.family (Family.ofText? value)).map ({ o with family := · })
  else if name = "name" then (fill o.name (some value)).map ({ o with name := · })
  else if name = "converter" then
    (fill o.converter (path? value)).map ({ o with converter := · })
  else if name = "seed" then (fill o.seed (Text.count? cs)).map ({ o with seed := · })
  else if name = "input-shape" then
    (counts? (Text.split ',' cs)).map fun s =>
      { o with inputShape := some (o.inputShape.getD [] ++ s) }
  else if name = "timeout-secs" then
    (fill o.timeoutSeconds (Text.count? cs)).map ({ o with timeoutSeconds := · })
  else if name = "abs-tol" then
    (fill o.absTolerance (float? cs)).map ({ o with absTolerance := · })
  else if name = "rel-tol" then
    (fill o.relTolerance (float? cs)).map ({ o with relTolerance := · })
  else if name = "work-dir" then
    (fill o.workDirectory (path? value)).map ({ o with workDirectory := · })
  else if name = "log-level" then (fill o.logLevel (some value)).map ({ o with logLevel := · })
  else .none

def setFlag? (o : Options) : Option Options :=
  if o.keepArtifacts then .none else some { o with keepArtifacts := true }

def longNames : List String :=
  ["config", "family", "name", "converter", "seed", "input-shape", "timeout-secs", "abs-tol",
    "rel-tol", "work-dir", "log-level"]

def shortName? (c : Char) : Option String :=
  if c = 'c' then some "config"
  else if c = 'f' then some "family"
  else if c = 'n' then some "name"
  else .none

inductive Form where
  | flag
  | information
  | withValue (name value : String)
  | needsValue (name : String)
  | separator
  | unusable
  deriving DecidableEq

def longForm (body : List Char) : Form :=
  let name := String.ofList (body.takeWhile (· ≠ '='))
  match body.dropWhile (· ≠ '=') with
  | [] =>
    if name = "" then .separator
    else if name = "keep-artifacts" then .flag
    else if name = "help" ∨ name = "version" then .information
    else if name ∈ longNames then .needsValue name
    else .unusable
  | _ :: value => if name ∈ longNames then .withValue name (String.ofList value) else .unusable

def shortForm (c : Char) (rest : List Char) : Form :=
  match shortName? c, rest with
  | some name, [] => .needsValue name
  | some name, '=' :: value => .withValue name (String.ofList value)
  | some name, value => .withValue name (String.ofList value)
  | .none, [] => if c = 'h' ∨ c = 'V' then .information else .unusable
  | .none, _ => if c = 'h' ∨ c = 'V' then .information else .unusable

def form (arg : String) : Form :=
  match arg.toList with
  | '-' :: '-' :: body => longForm body
  | '-' :: c :: rest => shortForm c rest
  | _ => .unusable

def isValue (arg : String) : Bool := arg = "-" || arg.toList.head? ≠ some '-'

def parseFrom (o : Options) : List String → Except UsageFault Options
  | [] => .ok o
  | arg :: rest =>
    match form arg with
    | .flag =>
      match o.setFlag? with
      | some o => parseFrom o rest
      | .none => .error .unusable
    | .information => .error .information
    | .withValue name value =>
      match o.set? name value with
      | some o => parseFrom o rest
      | .none => .error .unusable
    | .needsValue name =>
      match rest with
      | value :: rest =>
        if isValue value then
          match o.set? name value with
          | some o => parseFrom o rest
          | .none => .error .unusable
        else .error .unusable
      | [] => .error .unusable
    | .separator => if rest = [] then .ok o else .error .unusable
    | .unusable => .error .unusable

def parse (args : List String) : Except UsageFault Options := parseFrom none args

/-! ## The configuration -/

/-- The policy of a tolerance option: the other part is zero. -/
def policy? (o : Options) : Option Policy :=
  match o.absTolerance, o.relTolerance with
  | .none, .none => .none
  | abs, rel => some (.tolerance (abs.getD .zero) (rel.getD .zero))

/-- A family alone, without a file, also gives the name. -/
def nameFor? (o : Options) : Option String :=
  match o.name, o.family, o.config with
  | some name, _, _ => some name
  | .none, some family, .none => some ("test_" ++ family.text)
  | _, _, _ => .none

def override (o : Options) (c : Config) : Config where
  name := o.nameFor?.getD c.name
  family := o.family.getD c.family
  sequence := c.sequence
  seed := o.seed.getD c.seed
  inputShape := o.inputShape.getD c.inputShape
  converter := o.converter.getD c.converter
  timeoutSeconds := o.timeoutSeconds.or c.timeoutSeconds
  policy := o.policy?.getD c.policy
  workDirectory := o.workDirectory.or c.workDirectory
  keepArtifacts := c.keepArtifacts || o.keepArtifacts
  logLevel := o.logLevel.getD c.logLevel

def readConfig (fs : FileSystem) (p : Path) : Except ConfigFault Config :=
  match fs.readText? p with
  | some text => Config.ofText text
  | .none => .error (.unreadable p)

def toConfig (o : Options) (fs : FileSystem) (converter : Path) : Except ConfigFault Config :=
  match o.config with
  | some p => (readConfig fs p).map o.override
  | .none => .ok (o.override { Config.standard with converter := converter })

end Options

end PoolCheck
