import PoolCheck.Text

/-!
# Paths

A path is text. Slashes separate its segments; an empty segment or a lone dot has no effect except
at the front, where the first stands for the root and the second for the current directory. All
operations work on the text and do not look at any file.
-/

set_option autoImplicit false

namespace PoolCheck

abbrev Path := String

namespace Path

abbrev Segments := List (List Char)

def segments (p : Path) : Segments := Text.split '/' p.toList

def ofSegments (s : Segments) : Path := String.ofList (Text.join ['/'] s)

def isIdle (segment : List Char) : Bool := segment = [] || segment = ['.']

def isAbsolute (p : Path) : Bool := p.toList.head? = some '/'

/-- Drops idle segments at the end, but never the first segment. -/
def trimSegments : Segments → Segments
  | [] => []
  | first :: rest => first :: (rest.reverse.dropWhile isIdle).reverse

def trimmed (p : Path) : Segments := trimSegments p.segments

def withoutSlashes (p : Path) : Path :=
  match (p.toList.reverse.dropWhile (· = '/')).reverse with
  | [] => if p.isAbsolute then "/" else p
  | cs => String.ofList cs

def fileName? (p : Path) : Option (List Char) :=
  p.trimmed.getLast?.filter fun s => !isIdle s && s ≠ ['.', '.']

/-- The path without its last segment. The root and the empty path have none. -/
def parent? (p : Path) : Option Path :=
  match p.trimmed with
  | [] => none
  | [[]] => none
  | [_] => some ""
  | s =>
    match trimSegments s.dropLast with
    | [[]] => some "/"
    | front => some (ofSegments front)

def parent (p : Path) : Path := (parent? p).getD ""

/-- What stands before the last dot of a name, unless the name begins with that dot. -/
def stemOf (name : List Char) : List Char :=
  match (Text.split '.' name).dropLast with
  | [] => name
  | [[]] => name
  | front => Text.join ['.'] front

def fileStem? (p : Path) : Option (List Char) := p.fileName?.map stemOf

/-- The path with another extension. Where a name ends the path and has nothing but a dot before
its extension, that dot and the one of the extension are left, which no longer are a name. -/
def withExtension (p : Path) (extension : String) : Path :=
  match p.fileStem? with
  | none => p
  | some stem =>
    let name :=
      if stem = ['.'] ∧ p.segments.getLast? = p.fileName? then ['.', '.']
      else stem ++ '.' :: extension.toList
    ofSegments (p.trimmed.dropLast ++ [name])

/-- A path below a directory. An absolute path stays as it is. -/
def join (dir p : Path) : Path :=
  if p.isAbsolute then p
  else if dir = "" ∨ dir.toList.getLast? = some '/' then dir ++ p
  else dir ++ "/" ++ p

def componentCount (p : Path) : Nat :=
  match p.segments with
  | [] => 0
  | first :: rest =>
    (if first = [] && !p.isAbsolute then 0 else 1) + (rest.filter fun s => !isIdle s).length

end Path

end PoolCheck
