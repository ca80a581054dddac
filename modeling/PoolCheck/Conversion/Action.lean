import PoolCheck.FileSystem
import PoolCheck.Fault
import PoolCheck.Tensor.Npy

/-!
# Actions on files

An action changes the file system and may fail. What it changed before it failed stays changed.
-/

set_option autoImplicit false

namespace PoolCheck

abbrev Action (ε α : Type) := ExceptT ε (StateM FileSystem) α

namespace Action

def ask {ε α : Type} (f : FileSystem → Except ε α) : Action ε α := fun fs => (f fs, fs)

def change {ε : Type} (f : FileSystem → Option FileSystem) (fault : ε) : Action ε Unit := fun fs =>
  match f fs with
  | some fs' => (.ok (), fs')
  | none => (.error fault, fs)

def mapFault {ε ε' α : Type} (f : ε → ε') (a : Action ε α) : Action ε' α := fun fs =>
  let (r, fs') := a fs
  (r.mapError f, fs')

def endingWith {ε α : Type} (a : Action ε α) (last : FileSystem → FileSystem) : Action ε α :=
  fun fs =>
    let (r, fs') := a fs
    (r, last fs')

end Action

namespace FileSystem

def readTensor (fs : FileSystem) (p : Path) : Except TensorFault Tensor :=
  match fs.read? p with
  | none => .error (.unreadableFile p)
  | some content =>
    (Npy.decode content.data.toList).mapError fun
      | .malformed => .unreadableFile p
      | .tooLarge => .tooLarge

def writeTensor? (fs : FileSystem) (p : Path) (x : Tensor) : Option FileSystem :=
  if Npy.isDescribable x.shape then fs.write? p ⟨(Npy.encode x).toArray⟩ else none

end FileSystem

end PoolCheck
