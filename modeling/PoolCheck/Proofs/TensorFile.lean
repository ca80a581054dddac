import PoolCheck.Proofs.Conversion
import PoolCheck.Proofs.Directory
import PoolCheck.Proofs.Npy.Loading

/-!
# Tensors that are kept in files

Writing a tensor and reading it back gives the same tensor, and reading a file that somebody else
wrote gives the tensor that the file describes.
-/

set_option autoImplicit false

namespace PoolCheck

namespace FileSystem

variable {fs fs' : FileSystem} {p : Path} {x : Tensor}

theorem readTensor_eq_ok : fs.readTensor p = .ok x ↔
    ∃ content, fs.read? p = some content ∧ Npy.decode content.data.toList = .ok x := by
  unfold readTensor
  cases fs.read? p with
  | none => simp
  | some content => simp [mapError_eq_ok]

theorem readTensor_of_write (h : fs.writeTensor? p x = some fs') (hv : fs.find? p ≠ some .void)
    (ha : addressable x.shape = true) : fs'.readTensor p = .ok x := by
  obtain ⟨hd, h⟩ := writeTensor?_eq_some.1 h
  obtain ⟨place, hw⟩ := exists_wrote h
  have hheld := hw.content fun hn => hv (find?_eq_some.2 ⟨place, hw.located, hn⟩)
  exact readTensor_of_holds (hw.locate.2 hw.located) hheld ha hd

end FileSystem

/-- Nothing is lost in a tensor file, which the null device is not. A tensor of any shape that can
be addressed is read back as it was written, to the last bit. And a file that is accepted is laid
out as one of the versions says, its tensor has at each multi-index the element that is stored
there, and that tensor is written and read back again. -/
theorem tensor_files_keep :
    (∀ (fs fs' : FileSystem) (p : Path) (x : Tensor), addressable x.shape = true →
      fs.find? p ≠ some .void → fs.writeTensor? p x = some fs' → fs'.readTensor p = .ok x) ∧
    ∀ (fs : FileSystem) (p : Path) (x : Tensor), fs.readTensor p = .ok x →
      (∃ content h body, fs.read? p = some content ∧ Npy.Layout h body content.data.toList ∧
        body.length = 4 * volume h.shape ∧ x.shape = h.shape ∧
        ∀ i, inRange x.shape i = true → x.index i = .ok (h.stored body i)) ∧
      ∀ (mid fs' : FileSystem) (q : Path), mid.find? q ≠ some .void →
        mid.writeTensor? q x = some fs' → fs'.readTensor q = .ok x := by
  refine ⟨fun fs fs' p x ha hv hw => FileSystem.readTensor_of_write hw hv ha, ?_⟩
  intro fs p x hr
  obtain ⟨content, hc, hdecode⟩ := FileSystem.readTensor_eq_ok.1 hr
  obtain ⟨h, body, hlayout, hstores⟩ := Npy.layout_of_decode hdecode
  have hshape := hstores.shape
  refine ⟨⟨content, h, body, hc, hlayout, hstores.length, hshape, ?_⟩, ?_⟩
  · intro i hi
    rw [hshape] at hi
    exact hstores.index i hi
  · intro mid fs' q hv hw
    have ha : addressable x.shape = true := by
      rw [hshape]
      exact hstores.addressable
    exact FileSystem.readTensor_of_write hw hv ha

def payloadScalar : Tensor := ⟨[], #[⟨0xffc00001⟩], rfl⟩

/-- A file with its entries in another order, stored column by column and with the most significant
byte first. -/
def Npy.swapped : Bytes :=
  magic ++ [1, 0] ++ littleBytes 2 52 ++
    asciiBytes "\x7b'shape':(2,2),'descr':'>f4','fortran_order':True\x7d \n" ++
    [0, 0, 0, 1, 0, 0, 0, 2, 0, 0, 0, 3, 0, 0, 0, 4]

def swappedFiles : FileSystem :=
  { entries := [(["s.npy"], .file ⟨Npy.swapped.toArray⟩ false)], current := "/" }

theorem tensor_files_keep_swapped :
    (∃ fs', swappedFiles.writeTensor? "x.npy" payloadScalar = some fs' ∧
      fs'.readTensor "x.npy" = .ok payloadScalar) ∧
    ∃ x, swappedFiles.readTensor "s.npy" = .ok x ∧ x.shape = [2, 2] ∧
      x.data.toList.map (·.bits) = [1, 3, 2, 4] ∧
      ∃ fs', swappedFiles.writeTensor? "x.npy" x = some fs' ∧ fs'.readTensor "x.npy" = .ok x := by
  have hlocate : ∀ name ∈ ["s.npy", "x.npy"], swappedFiles.locate name = .ok [name] := by
    simp only [List.forall_mem_cons, FileSystem.locate, String.contains_char_eq]
    exact ⟨rfl, rfl, List.forall_mem_nil _⟩
  have hx := hlocate "x.npy" (by decide)
  have hopen : swappedFiles.Open ["x.npy"] := ⟨by decide, by decide⟩
  have hfind : swappedFiles.find? "x.npy" ≠ some .void := by
    rw [FileSystem.find?, hx]
    exact hopen.2
  have hwrite : ∀ y : Tensor, Npy.isDescribable y.shape = true →
      ∃ fs', swappedFiles.writeTensor? "x.npy" y = some fs' := fun y hd =>
    (FileSystem.exists_write hx hopen _).imp fun _ h => FileSystem.writeTensor?_eq_some.2 ⟨hd, h.1⟩
  constructor
  · obtain ⟨fs', hw⟩ := hwrite payloadScalar (Npy.isDescribable_of_rank rfl (by decide))
    exact ⟨fs', hw, tensor_files_keep.1 _ _ _ _ rfl hfind hw⟩
  have hread : ∃ x, Npy.decode Npy.swapped = .ok x ∧ x.shape = [2, 2] ∧
      x.data.toList.map (·.bits) = [1, 3, 2, 4] := by
    have h : (Npy.decode Npy.swapped).toOption.map
        (fun x => (x.shape, x.data.toList.map (·.bits))) =
        some ([2, 2], [1, 3, 2, 4]) := by decide +kernel
    obtain ⟨x, hx, h⟩ := Option.map_eq_some_iff.1 h
    exact ⟨x, toOption_eq_some.1 hx, Prod.mk.inj h⟩
  obtain ⟨x, hdecode, hshape, hbits⟩ := hread
  have hr : swappedFiles.readTensor "s.npy" = .ok x := FileSystem.readTensor_eq_ok.2
    ⟨_, FileSystem.read?_of_holds (hlocate "s.npy" (by decide)) ⟨false, rfl⟩, hdecode⟩
  have hsquare := @Npy.isDescribable_of_rank [2, 2] rfl (by decide)
  obtain ⟨fs', hw⟩ := hwrite x (hshape ▸ hsquare)
  exact ⟨x, hr, hshape, hbits, fs', hw, (tensor_files_keep.2 _ _ _ hr).2 _ _ _ hfind hw⟩

end PoolCheck
