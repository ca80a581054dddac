import PoolCheck.Tensor
import PoolCheck.Tensor.Npy.Value

/-!
# Tensors as npy files

A file is a magic string, a version, the length of a header, the header and the elements. The
header is a dictionary that names the element type, the order and the shape; it is padded so that
the elements start at a multiple of 64 bytes. Files are written in version 1 (version 2 when the
header is too long for it), row-major, least significant byte first. There is no file for a shape
whose header is too long for version 2 as well. Every version, both byte orders and both element
orders are read.
-/

set_option autoImplicit false

namespace PoolCheck.Npy

abbrev Bytes := List UInt8

def magic : Bytes := [0x93, 0x4e, 0x55, 0x4d, 0x50, 0x59]

inductive ByteOrder where
  | little
  | big
  deriving DecidableEq

structure Header where
  byteOrder : ByteOrder
  columnMajor : Bool
  shape : Shape
  deriving DecidableEq

def littleBytes : Nat → Nat → Bytes
  | 0, _ => []
  | n + 1, x => UInt8.ofNat (x % 256) :: littleBytes n (x / 256)

def littleValue : Bytes → Nat
  | [] => 0
  | b :: bs => b.toNat + 256 * littleValue bs

def encodeElement (x : Binary32) : Bytes := littleBytes 4 x.bits.toNat

def decodeElement : ByteOrder → Bytes → Binary32
  | .little, bs => ⟨UInt32.ofNat (littleValue bs)⟩
  | .big, bs => ⟨UInt32.ofNat (littleValue bs.reverse)⟩

def shapeTuple : Shape → String
  | [] => "()"
  | [d] => s!"({d},)"
  | s => "(" ++ String.intercalate ", " (s.map fun d => toString d) ++ ")"

def dictionary (s : Shape) : String :=
  "\x7b'descr': '<f4', 'fortran_order': False, 'shape': " ++ shapeTuple s ++ "\x7d"

def asciiBytes (s : String) : Bytes := s.toList.map fun c => UInt8.ofNat c.toNat

/-- The dictionary, at least one blank and a line end, such that `front` bytes and the result
together fill blocks of 64. -/
def paddedHeader (front : Nat) (s : Shape) : Bytes :=
  let body := asciiBytes (dictionary s)
  let used := front + body.length + 1
  body ++ List.replicate (64 - used % 64) 0x20 ++ [0x0a]

/-- Whether the length field of version 2 holds the length of the header. -/
def isDescribable (s : Shape) : Bool := (paddedHeader 12 s).length < halfWordLimit

def encode (x : Tensor) : Bytes :=
  let short := paddedHeader 10 x.shape
  let front :=
    if short.length < 65536 then magic ++ [1, 0] ++ littleBytes 2 short.length ++ short
    else
      let long := paddedHeader 12 x.shape
      magic ++ [2, 0] ++ littleBytes 4 long.length ++ long
  front ++ x.data.toList.flatMap encodeElement

/-- The fields met so far. Of a repeated field the last one counts, but each has to be of its
kind. -/
structure Draft where
  element : Option Value
  columnMajor : Option Bool
  shape : Option Shape

def extent? : Value → Option Nat
  | .number (some n) => if 0 ≤ n ∧ n < wordLimit then some n.toNat else none
  | _ => none

def Draft.field? (d : Draft) : Value × Value → Option Draft
  | (.text "descr", v) => some { d with element := some v }
  | (.text "fortran_order", .flag b) => some { d with columnMajor := some b }
  | (.text "shape", .tuple vs) => (vs.mapM extent?).map fun s => { d with shape := some s }
  | _ => none

def byteOrder? : Value → Option ByteOrder
  | .text "<f4" => some .little
  | .text ">f4" => some .big
  | _ => none

def headerOfValue? : Value → Option Header
  | .dictionary entries => do
    let d ← entries.foldlM Draft.field? ⟨none, none, none⟩
    some ⟨← byteOrder? (← d.element), ← d.columnMajor, ← d.shape⟩
  | _ => none

/-- The characters of a header. Only headers of version three go beyond ASCII. -/
def characters? (ascii : Bool) (bs : Bytes) : Option (List Char) :=
  if ascii && bs.any (128 ≤ ·) then none
  else (String.fromUTF8? ⟨bs.toArray⟩).map String.toList

def header? (ascii : Bool) (bs : Bytes) : Option Header := do
  if bs.getLast? = some 0x0a then
    headerOfValue? (← Value.ofText? (← characters? ascii bs.dropLast))
  else none

def element (order : ByteOrder) (bytes : Array UInt8) (k : Nat) : Binary32 :=
  decodeElement order ((List.range 4).map fun i => bytes.getD (4 * k + i) 0)

/-- The place of row-major position `k` among elements stored column by column. -/
def columnMajorPlace (s : Shape) (k : Nat) : Nat := ravel s.reverse (unravelInner s.reverse k)

inductive DecodeFault where
  | malformed
  | tooLarge
  deriving DecidableEq

def tensor (h : Header) (body : Bytes) : Except DecodeFault Tensor :=
  if !countable h.shape || body.length ≠ 4 * volume h.shape then .error .malformed
  else if !addressable h.shape then .error .tooLarge
  else
    let bytes := body.toArray
    .ok ⟨h.shape, Array.ofFn (n := volume h.shape) fun k =>
      element h.byteOrder bytes (if h.columnMajor then columnMajorPlace h.shape k else k), by simp⟩

/-- The header and the elements after a length field of `n` bytes. -/
def content (ascii : Bool) (n : Nat) (bs : Bytes) : Except DecodeFault Tensor :=
  let size := littleValue (bs.take n)
  let rest := bs.drop n
  if bs.length < n || rest.length < size then .error .malformed
  else
    match header? ascii (rest.take size) with
    | some h => tensor h (rest.drop size)
    | none => .error .malformed

def decode (bs : Bytes) : Except DecodeFault Tensor :=
  if bs.take 6 = magic then
    match bs.drop 6 with
    | 1 :: 0 :: rest => content true 2 rest
    | 2 :: 0 :: rest => content true 4 rest
    | 3 :: 0 :: rest => content false 4 rest
    | _ => .error .malformed
  else .error .malformed

end PoolCheck.Npy
