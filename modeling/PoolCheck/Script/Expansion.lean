import PoolCheck.Script.Arithmetic
import PoolCheck.Script.Pattern
import PoolCheck.Script.Session

/-!
# Expansion

Words turn into fields: tildes, parameters, substituted output and arithmetic are put in place, the
unquoted results are cut at separators, and fields that are patterns are replaced by the paths that
they cover. What is quoted is neither cut nor taken for a pattern.
-/

set_option autoImplicit false

namespace PoolCheck.Script

/-- What a word turns into. Marks are left of quotations and are dropped in the end. -/
inductive Glyph where
  | plain (c : Char)
  | quoted (c : Char)
  | mark
  deriving DecidableEq

/-- Where a piece of an expanded word may be cut: nowhere, at separators, or only where one
argument ends. -/
inductive Cutting where
  | never
  | separators
  | arguments
  deriving DecidableEq

structure Chunk where
  glyphs : List Glyph
  cutting : Cutting

/-- `fields` tells that fields are made, `inner` that the text is an inner word and may be cut
itself. In values of assignments a tilde may also stand behind a colon. -/
structure Mode where
  fields : Bool
  quoted : Bool
  inner : Bool
  colons : Bool

namespace Mode

def forFields : Mode := ⟨true, false, false, false⟩

def forText : Mode := ⟨false, false, false, false⟩

def forValue : Mode := ⟨false, false, false, true⟩

end Mode

namespace Glyph

def char? : Glyph → Option Char
  | plain c => some c
  | quoted c => some c
  | mark => none

def chars (gs : List Glyph) : Chars := gs.filterMap char?

def pattern : List Glyph → Chars
  | [] => []
  | .plain c :: rest => c :: pattern rest
  | .quoted c :: rest => '\\' :: c :: pattern rest
  | .mark :: rest => pattern rest

end Glyph

namespace Chunk

def ofChars (quoted : Bool) (cs : Chars) (cutting : Cutting) : Chunk :=
  ⟨cs.map (if quoted then .quoted else .plain), cutting⟩

def glyphsOf (chunks : List Chunk) : List Glyph := chunks.flatMap Chunk.glyphs

end Chunk

/-! ## Cutting into fields -/

/-- Cutting on its way. `cut` tells that the last field ended at a blank separator. `left` is the
number of fields that may still be made, if it is limited; the last one keeps its separators, and
`ending` counts what stands behind all of its text, where what is never cut is no text. Glyphs come
in reverse. -/
structure Cutter where
  done : List (List Glyph)
  current : List Glyph
  cut : Bool
  left : Option Nat
  ending : Option Nat
  ofArguments : Bool

namespace Cutter

def start (limit : Option Nat) : Cutter := ⟨[], [], false, limit, none, false⟩

def isBlank (c : Char) : Bool := blanks.contains c || c = '\x00'

def isSeparator (separators : Chars) (c : Char) : Bool := separators.contains c || c = '\x00'

def finishField (k : Cutter) : Cutter :=
  { k with done := k.current.reverse :: k.done, current := [] }

def keep (k : Cutter) (g : Glyph) : Cutter :=
  { k with current := g :: k.current, cut := false }

def keepLast (separators : Chars) (k : Cutter) (g : Glyph) (c : Char) : Cutter :=
  let isSep := isSeparator separators c
  let k' := { k with current := g :: k.current }
  if isSep && isBlank c then { k' with ending := some (k.ending.getD 0 + 1) }
  else if isSep && k.cut then { k' with ending := k.ending.map (· + 1), cut := false }
  else { k' with ending := none, cut := false }

def step (separators : Chars) (afterArguments : Bool) (k : Cutter) (g : Glyph) : Cutter :=
  match g.char? with
  | none => k.keep g
  | some c =>
    let isSep := isSeparator separators c
    if k.left = some 0 then k.keepLast separators g c
    else if k.cut && isSep then if isBlank c then k else { k with cut := false }
    else if !isSep then k.keep g
    else
      let cut := isBlank c && !(afterArguments || k.ofArguments)
      if k.current = [] && cut then { k with cut := false }
      else
        match k.left with
        | some 1 =>
          { k with left := some 0, cut := cut, current := g :: k.current, ending := some 1 }
        | left => { k with cut := cut, left := left.map (· - 1) }.finishField

def add (separators : Chars) (k : Cutter) (chunk : Chunk) : Cutter :=
  match chunk.cutting with
  | .never => { k with
      current := chunk.glyphs.reverse ++ k.current
      ending := k.ending.map (· + chunk.glyphs.length) }
  | cutting =>
    let ofArguments := cutting = .arguments
    let after := k.ofArguments
    let k := { k with cut := false, ofArguments := ofArguments }
    chunk.glyphs.foldl (step (if ofArguments then [] else separators) after) k

def fields (k : Cutter) : List (List Glyph) :=
  let current := k.current.drop (k.ending.getD 0)
  let all := if current = [] && !k.ofArguments then k.done else current.reverse :: k.done
  all.reverse

end Cutter

def cutFields (separators : Chars) (limit : Option Nat) (chunks : List Chunk) :
    List (List Glyph) :=
  (chunks.foldl (Cutter.add separators) (Cutter.start limit)).fields

/-! ## Paths -/

def unescaped : Chars → Chars
  | '\\' :: c :: rest => c :: unescaped rest
  | c :: rest => c :: unescaped rest
  | [] => []

def isActivePattern : Chars → Bool
  | '\\' :: _ :: rest => isActivePattern rest
  | c :: rest => Pattern.isActive c || isActivePattern rest
  | [] => false

def coveredNames (fs : FileSystem) (dir pattern : Chars) : List Chars :=
  let path := if dir = [] then "." else Chars.text dir
  let dotted := pattern.head? = some '.' || pattern.take 2 = ['\\', '.']
  match fs.locate path with
  | .error _ => []
  | .ok place =>
    if fs.node? place = some .directory then
      let names := ['.'] :: ['.', '.'] :: (fs.names place).map Chars.ofString
      let p := Pattern.ofChars pattern
      names.filter fun name => (dotted || name.head? ≠ some '.') && p.covers name
    else []

def coveredPaths (fs : FileSystem) (front : Chars) : List Chars → List Chars
  | [] => []
  | [last] =>
    if isActivePattern last then (coveredNames fs front last).map (front ++ ·)
    else
      let path := front ++ unescaped last
      if (fs.find? (Chars.text path)).isSome then [path] else []
  | segment :: rest =>
    if isActivePattern segment then
      (coveredNames fs front segment).flatMap fun name =>
        coveredPaths fs (front ++ name ++ ['/']) rest
    else coveredPaths fs (front ++ unescaped segment ++ ['/']) rest

def spread (fs : FileSystem) (field : List Glyph) : List Chars :=
  let pattern := Glyph.pattern field
  if isActivePattern pattern then
    match coveredPaths fs [] (Text.split '/' pattern) with
    | [] => [Glyph.chars field]
    | found => Chars.sorted found
  else [Glyph.chars field]

/-! ## Tildes -/

def tildeName? (colons : Bool) : Word → Option (Chars × Word)
  | [] => some ([], [])
  | .char c :: rest =>
    if c = '/' || (colons && c = ':') then some ([], .char c :: rest)
    else (tildeName? colons rest).map fun (cs, rest) => (c :: cs, rest)
  | _ => none

def withHomes (home : Chars → Option Chars) (colons : Bool) : Nat → Bool → Word → Word
  | 0, _, w => w
  | _, _, [] => []
  | n + 1, front, .char c :: rest =>
    let other := .char c :: withHomes home colons n (colons && c = ':') rest
    if front && c = '~' then
      match tildeName? colons rest with
      | some (name, after) =>
        match home name with
        | some dir => dir.map .literal ++ withHomes home colons n false after
        | none => other
      | none => other
    else other
  | n + 1, _, p :: rest => p :: withHomes home colons n false rest

def Shell.home? (sh : Shell) (name : Chars) : Option Chars :=
  if name = [] then sh.value? "HOME"
  else if name = "root".toList then some "/root".toList
  else none

/-- Takes away the marks around all arguments, so that they make no field if there are none. -/
def withoutMarks : Word → Word
  | .mark :: .parameter true "@" .keep :: .mark :: rest =>
    .parameter true "@" .keep :: withoutMarks rest
  | p :: rest => p :: withoutMarks rest
  | [] => []

/-! ## Parameters -/

open Run

def joinArguments (separator : Chars) (arguments : List Chars) : Chars :=
  Text.join separator arguments

/-- The value of a parameter, if it has one. Arguments that are kept apart have a zero between
them. -/
def parameterValue (m : Mode) (quoted : Bool) (name : String) : Run (Option Chars) := do
  let sh ← shell
  if name = "@" || name = "*" then
    let separator :=
      if m.fields && !quoted then if (sh.value? "IFS").isSome then ['\x00'] else [' ']
      else if m.fields && name = "@" then ['\x00']
      else sh.joint
    pure (some (joinArguments separator sh.arguments))
  else pure (sh.parameter? name)

def valueChunk (quoted : Bool) (name : String) (cs : Chars) : Run Chunk := do
  let apart := name = "@" && !(← shell).arguments.isEmpty
  pure (.ofChars quoted cs
    (if !quoted then .separators else if apart then .arguments else .never))

/-- The value of a parameter where none would be a fault under some options. -/
def boundValue (m : Mode) (quoted : Bool) (name : String) : Run Chars := do
  match ← parameterValue m quoted name with
  | some cs => pure cs
  | none =>
    if (← shell).hasOption 'u' then faultText (name ++ ": parameter not set") else pure []

def isChar : Part → Bool
  | .char _ => true
  | _ => false

def charOf? : Part → Option Char
  | .char c => some c
  | _ => none

def sumFault (source : Chars) : Arithmetic.Fault → Run Int64
  | .noNumber value => fault ("Illegal number: ".toList ++ value)
  | .overflow => do throw (.killed (← shell).process 8)
  | e =>
    let cause := match e with
      | .noOperand => "expecting primary"
      | .noEnd => "expecting EOF"
      | .noColon => "expecting ':'"
      | .noBracket => "expecting ')'"
      | _ => "division by zero"
    fault (("arithmetic expression: " ++ cause ++ ": \"").toList ++ source ++ ['"'])

def sumVariables (source : Chars) : Arithmetic.Variables Run where
  value name := do
    let cs := ((← shell).parameter? name).getD []
    match Arithmetic.ofValue? cs with
    | some n => pure n
    | none => sumFault source (.noNumber cs)
  store name n := assign name (integerChars n.toInt) false
  refuse := sumFault source

def sumValue (source : Chars) : Run Int64 := do
  match Arithmetic.parse source with
  | .ok e => Arithmetic.evaluate (sumVariables source) e
  | .error e => sumFault source e

/-! ## Words -/

section Words

variable (output : Command → Run Chars)

def parameterChunks (inside : Mode → Word → Run (List Chunk)) (m : Mode) (quoted : Bool)
    (name : String) (change : Change) : Run (List Chunk) := do
  let innerText (w : Word) : Run Chars := do
    pure (Glyph.chars (Chunk.glyphsOf (← inside .forText w)))
  let isMissing (orEmpty : Bool) : Option Chars → Bool
    | none => true
    | some cs => orEmpty && cs.isEmpty
  let innerMode : Mode := { m with quoted := quoted, inner := true }
  match change with
  | .keep => do pure [← valueChunk quoted name (← boundValue m quoted name)]
  | .bad => faultText "Bad substitution"
  | .length => do
    let cs ← boundValue m quoted name
    pure [.ofChars quoted (numberChars cs.length) (if quoted then .never else .separators)]
  | .otherwise orEmpty w => do
    let value ← parameterValue m quoted name
    if isMissing orEmpty value then inside innerMode w
    else pure [← valueChunk quoted name (value.getD [])]
  | .replace orEmpty w => do
    let value ← parameterValue m quoted name
    if isMissing orEmpty value then pure [] else inside innerMode w
  | .assign orEmpty w => do
    let value ← parameterValue m quoted name
    if isMissing orEmpty value then
      let cs ← innerText w
      if !isName name.toList then faultText (name ++ ": bad variable name")
      assign name cs false
      pure [← valueChunk quoted name cs]
    else pure [← valueChunk quoted name (value.getD [])]
  | .demand orEmpty w => do
    let value ← parameterValue m quoted name
    if isMissing orEmpty value then
      let standard := if orEmpty then "parameter not set or null" else "parameter not set"
      let cause ← if w.isEmpty then pure standard.toList else innerText w
      fault (name.toList ++ ": ".toList ++ cause)
    else pure [← valueChunk quoted name (value.getD [])]
  | .cut fromBack longest w => do
    let cs ← boundValue m quoted name
    let p := Pattern.ofChars (Glyph.pattern (Chunk.glyphsOf (← inside .forText w)))
    let rest := if fromBack then p.cutBack longest cs else p.cutFront longest cs
    pure [← valueChunk quoted name rest]

/-- Parts that belong together: a run of plain characters, or one other part. -/
def partChunks (inside : Mode → Word → Run (List Chunk)) (m : Mode) : Word → Run (List Chunk)
  | [.literal c] => pure [⟨[.quoted c], .never⟩]
  | [.mark] => pure [⟨[.mark], .never⟩]
  | [.parameter quoted name change] =>
    parameterChunks inside m (m.quoted || quoted) name change
  | [.output quoted body] => do
    let quoted := m.quoted || quoted
    pure [.ofChars quoted (← output body) (if quoted then .never else .separators)]
  | [.sum quoted expression] => do
    let source := Glyph.chars (Chunk.glyphsOf (← inside .forText expression))
    let quoted := m.quoted || quoted
    pure [.ofChars quoted (integerChars (← sumValue source).toInt)
      (if quoted then .never else .separators)]
  | run =>
    pure [.ofChars m.quoted (run.filterMap charOf?)
      (if m.inner && !m.quoted then .separators else .never)]

def expand : Nat → Mode → Word → Run (List Chunk)
  | 0, _, _ => throw .expired
  | n + 1, m, w => do
    let sh ← shell
    let w := withoutMarks (withHomes sh.home? m.colons (w.length + 1) true w)
    let runs := w.splitBy fun a b => isChar a && isChar b
    runs.foldlM (fun chunks run => do pure (chunks ++ (← partChunks output (expand n) m run))) []

def wordNesting : Nat := 500

def wordFields (w : Word) : Run (List Chars) := do
  let chunks ← expand output wordNesting .forFields w
  let sh ← shell
  let fields := cutFields sh.separators none chunks
  if sh.hasOption 'f' then pure (fields.map Glyph.chars)
  else
    let fs := (← get).files
    pure (fields.flatMap (spread fs))

def wordText (w : Word) : Run Chars := do
  pure (Glyph.chars (Chunk.glyphsOf (← expand output wordNesting .forText w)))

def wordValue (w : Word) : Run Chars := do
  pure (Glyph.chars (Chunk.glyphsOf (← expand output wordNesting .forValue w)))

def wordPattern (w : Word) : Run Pattern := do
  pure (.ofChars (Glyph.pattern (Chunk.glyphsOf (← expand output wordNesting .forText w))))

end Words

end PoolCheck.Script
