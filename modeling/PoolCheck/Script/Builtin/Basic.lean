import PoolCheck.Script.Session

/-!
# Builtin commands

Commands that a shell carries out itself: how they print, and how they split their options from
their operands.
-/

set_option autoImplicit false

namespace PoolCheck.Script.Builtin

open Run

abbrev Behaviour := List Chars → Run Unit

def chars (s : String) : Chars := s.toList

def give (cs : Chars) (status : Nat) : Run Unit := do
  if ← writeChars 1 cs then setStatus status
  else
    let caller := (← shell).caller.getD []
    complain (caller ++ chars ": I/O error")
    setStatus (max status 1)

def giveLine (cs : Chars) : Run Unit := give (cs ++ ['\n']) 0

/-- The letters of one argument, and the letter among them that waits for a value. -/
def optionLetters (flags valued : String) (given : List (Char × Chars)) :
    Chars → Run (List (Char × Chars) × Option Char)
  | [] => pure (given, none)
  | c :: cs =>
    if valued.toList.contains c then
      pure (if cs = [] then (given, some c) else ((c, cs) :: given, none))
    else if flags.toList.contains c then optionLetters flags valued ((c, []) :: given) cs
    else faultText ("Illegal option -" ++ String.singleton c)

def optionsFrom (flags valued : String) (given : List (Char × Chars)) (wanted : Option Char) :
    List Chars → Run (List (Char × Chars) × List Chars)
  | [] =>
    match wanted with
    | none => pure (given, [])
    | some c => faultText ("No arg for -" ++ String.singleton c ++ " option")
  | arg :: rest =>
    match wanted, arg with
    | some c, value => optionsFrom flags valued ((c, value) :: given) none rest
    | none, ['-', '-'] => pure (given, rest)
    | none, '-' :: c :: cs => do
      let (given, wanted) ← optionLetters flags valued given (c :: cs)
      optionsFrom flags valued given wanted rest
    | none, _ => pure (given, arg :: rest)

def options (flags valued : String) (args : List Chars) :
    Run (List (Char × Chars) × List Chars) := optionsFrom flags valued [] none args

def firstOption (flags : String) (args : List Chars) : Run (Option Char × List Chars) := do
  match args with
  | ('-' :: c :: cs) :: rest =>
    if c = '-' && cs = [] then pure (none, rest)
    else if flags.toList.contains c then pure (some c, [])
    else faultText ("Illegal option -" ++ String.singleton c)
  | _ => pure (none, args)

def operands (args : List Chars) : Run (List Chars) := do
  pure (← options "" "" args).2

/-- A text as a word. Single quotes in it stand in double quotes. -/
def quotedPieces (inDouble : Bool) : Chars → Chars
  | [] => [if inDouble then '"' else '\'']
  | c :: cs =>
    if c = '\'' then (if inDouble then [] else ['\'', '"']) ++ c :: quotedPieces true cs
    else (if inDouble then ['"', '\''] else []) ++ c :: quotedPieces false cs

def quoted (cs : Chars) : Chars := '\'' :: quotedPieces false cs

/-- The order in which a table of so many buckets is listed, from its latest entry on. -/
def listed {α : Type} (buckets : Nat) (table : List (String × α)) : List (String × α) :=
  let bucket (name : String) : Nat :=
    let codes := name.toList.map Char.toNat
    (codes.foldl (· + ·) (16 * codes.head?.getD 0)) % buckets
  (List.range buckets).flatMap fun n => table.reverse.filter fun entry => bucket entry.1 = n

end PoolCheck.Script.Builtin
