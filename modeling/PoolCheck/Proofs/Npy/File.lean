import PoolCheck.Proofs.Npy.Value
import PoolCheck.Proofs.Tensor.Size

/-!
# Tensors in npy files are read back

The header of a written file is cut out and read, and behind it each element has its four bytes. So
a file that was written for a tensor holds that tensor, to the last bit.
-/

set_option autoImplicit false

namespace PoolCheck

theorem fromUTF8?_toUTF8 (s : String) : String.fromUTF8? s.toUTF8 = some s :=
  dif_pos s.isValidUTF8

namespace Npy

/-! ## ASCII -/

def IsAscii (cs : List Char) : Prop := ∀ c ∈ cs, c.toNat < 128

instance (cs : List Char) : Decidable (IsAscii cs) :=
  List.decidableBAll _ cs

variable {cs ds : List Char}

theorem IsAscii.append (hc : IsAscii cs) (hd : IsAscii ds) : IsAscii (cs ++ ds) := by
  intro c h
  rcases List.mem_append.1 h with h | h
  · exact hc c h
  · exact hd c h

theorem IsAscii.cons {c : Char} (h : c.toNat < 128) (hc : IsAscii cs) : IsAscii (c :: cs) :=
  List.forall_mem_cons.2 ⟨h, hc⟩

theorem isAscii_toDigits (n : Nat) : IsAscii (Nat.toDigits 10 n) := by
  intro c h
  have hc := (Char.isDigit_iff_toNat.1 (isDigit_of_mem_toDigits h)).2
  exact Nat.lt_of_le_of_lt hc (by decide)

theorem utf8Encode_ascii (h : IsAscii cs) :
    (⟨(cs.map fun c => UInt8.ofNat c.toNat).toArray⟩ : ByteArray) = cs.utf8Encode := by
  have hchar : cs.flatMap String.utf8EncodeChar = cs.map fun c => UInt8.ofNat c.toNat := by
    induction cs with
    | nil => rfl
    | cons c cs ih =>
      obtain ⟨hc, hcs⟩ := List.forall_mem_cons.1 h
      have hone : String.utf8EncodeChar c = [UInt8.ofNat c.toNat] := by
        rw [String.utf8EncodeChar_eq_singleton]
        · rfl
        · rw [Char.utf8Size_eq_one_iff, UInt32.le_iff_toNat_le]
          show c.toNat ≤ 127
          omega
      rw [List.flatMap_cons, hone, ih hcs]
      rfl
  rw [List.utf8Encode, hchar]
  apply ByteArray.ext
  rw [List.data_toByteArray]

theorem characters?_ascii (h : IsAscii cs) :
    characters? true (cs.map fun c => UInt8.ofNat c.toNat) = some cs := by
  have hany : (cs.map fun c => UInt8.ofNat c.toNat).any (128 ≤ ·) = false := by
    rw [List.any_eq_false]
    intro b hb
    obtain ⟨c, hc, rfl⟩ := List.mem_map.1 hb
    have hlt := h c hc
    rw [decide_eq_true_eq, UInt8.le_iff_toNat_le, UInt8.toNat_ofNat']
    have : (128 : UInt8).toNat = 128 := rfl
    omega
  have hs : cs.utf8Encode = (String.ofList cs).toUTF8 := (String.toByteArray_ofList).symm
  rw [characters?, hany, utf8Encode_ascii h, hs, fromUTF8?_toUTF8]
  simp

theorem isAscii_dictionary (s : Shape) : IsAscii (dictionary s).toList := by
  have hitems : ∀ ds : List Nat, IsAscii ([',', ' '].intercalate (ds.map (Nat.toDigits 10))) := by
    intro ds
    induction ds with
    | nil => decide
    | cons d ds ih =>
      cases ds with
      | nil =>
        rw [List.map_singleton, List.intercalate_singleton]
        exact isAscii_toDigits d
      | cons e es =>
        rw [List.map_cons, List.map_cons, List.intercalate_cons_cons]
        exact ((isAscii_toDigits d).append (by decide)).append ih
  have htuple : IsAscii (shapeTuple s).toList := by
    match s with
    | [] => decide
    | [d] =>
      rw [Value.shapeTuple_singleton]
      exact .cons (by decide) ((isAscii_toDigits d).append (by decide))
    | d :: e :: es =>
      rw [Value.shapeTuple_cons_cons]
      exact .cons (by decide) ((hitems _).append (by decide))
  rw [Value.dictionary_toList]
  refine .cons (by decide) (.append (by decide) (.cons (by decide) (.cons (by decide) ?_)))
  refine .append (by decide) (.cons (by decide) (.cons (by decide) ?_))
  refine .append (by decide) (.cons (by decide) (.cons (by decide) ?_))
  refine .append (by decide) (.cons (by decide) (.cons (by decide) ?_))
  exact .append (by decide) (.cons (by decide) (.cons (by decide) (htuple.append (by decide))))

/-! ## Headers -/

theorem mapM_extent? {s : Shape} (h : ∀ d ∈ s, d < wordLimit) :
    (s.map Value.ofExtent).mapM extent? = some s := by
  induction s with
  | nil => rfl
  | cons d s ih =>
    obtain ⟨hd, hs⟩ := List.forall_mem_cons.1 h
    have hextent : extent? (Value.ofExtent d) = some d := by
      rw [Value.ofExtent, extent?, if_pos (by omega)]
      rfl
    rw [List.map_cons, List.mapM_cons, hextent, ih hs]
    rfl

theorem headerOfValue?_described {s : Shape} (h : ∀ d ∈ s, d < wordLimit) :
    headerOfValue? (Value.described s) = some ⟨.little, false, s⟩ := by
  have hm := mapM_extent? h
  simp [headerOfValue?, Value.described, Draft.field?, byteOrder?, hm]

theorem header?_paddedHeader (front : Nat) {s : Shape} (h : ∀ d ∈ s, d < wordLimit) :
    header? true (paddedHeader front s) = some ⟨.little, false, s⟩ := by
  have hbytes : ∀ n, asciiBytes (dictionary s) ++ List.replicate n 0x20 =
      ((dictionary s).toList ++ List.replicate n ' ').map fun c => UInt8.ofNat c.toNat := by
    intro n
    rw [List.map_append, List.map_replicate]
    rfl
  have hascii : ∀ n, IsAscii ((dictionary s).toList ++ List.replicate n ' ') := by
    intro n
    refine (isAscii_dictionary s).append fun c hc => ?_
    rw [List.eq_of_mem_replicate hc]
    decide
  unfold header? paddedHeader
  simp only
  rw [List.getLast?_concat, List.dropLast_concat, if_pos rfl, hbytes, characters?_ascii (hascii _)]
  show (do headerOfValue? (← Value.ofText? _)) = _
  rw [Value.ofText?_dictionary]
  exact headerOfValue?_described h

/-! ## Elements -/

theorem length_littleBytes (n x : Nat) : (littleBytes n x).length = n := by
  induction n generalizing x with
  | zero => rfl
  | succ n ih => rw [littleBytes, List.length_cons, ih]

theorem littleValue_littleBytes (n : Nat) {x : Nat} (h : x < 256 ^ n) :
    littleValue (littleBytes n x) = x := by
  induction n generalizing x with
  | zero =>
    rw [Nat.pow_zero] at h
    rw [littleBytes, littleValue]
    omega
  | succ n ih =>
    have hb : (UInt8.ofNat (x % 256)).toNat = x % 256 :=
      UInt8.toNat_ofNat_of_lt' (Nat.mod_lt _ (by decide))
    rw [littleBytes, littleValue, hb, ih (by rw [Nat.pow_succ] at h; omega)]
    omega

theorem decodeElement_encodeElement (x : Binary32) :
    decodeElement .little (encodeElement x) = x := by
  rw [decodeElement, encodeElement, littleValue_littleBytes 4 x.bits.toNat_lt, UInt32.ofNat_toNat]

theorem length_elements (xs : List Binary32) :
    (xs.flatMap encodeElement).length = 4 * xs.length := by
  induction xs with
  | nil => rfl
  | cons x xs ih =>
    rw [List.flatMap_cons, List.length_append, ih, encodeElement, length_littleBytes,
      List.length_cons]
    omega

theorem drop_elements (xs : List Binary32) {k : Nat} (hk : k < xs.length) :
    ((xs.flatMap encodeElement).drop (4 * k)).take 4 = encodeElement xs[k] := by
  have hlength : ∀ x, (encodeElement x).length = 4 := fun x => length_littleBytes 4 _
  induction xs generalizing k with
  | nil => exact absurd hk (Nat.not_lt_zero _)
  | cons x xs ih =>
    rw [List.flatMap_cons]
    cases k with
    | zero => exact List.take_left' (hlength x)
    | succ k =>
      rw [List.length_cons] at hk
      rw [show 4 * (k + 1) = 4 + 4 * k by omega, ← List.drop_drop, List.drop_left' (hlength x),
        List.getElem_cons_succ]
      exact ih (by omega)

theorem element_eq (order : ByteOrder) {body : Bytes} {k : Nat} (h : 4 * k + 4 ≤ body.length) :
    element order body.toArray k = decodeElement order ((body.drop (4 * k)).take 4) := by
  have hbytes : ((List.range 4).map fun i => body.toArray.getD (4 * k + i) 0) =
      (body.drop (4 * k)).take 4 := by
    refine List.ext_getElem ?_ fun i h1 h2 => ?_
    · rw [List.length_map, List.length_range, List.length_take, List.length_drop]
      omega
    · rw [List.length_map, List.length_range] at h1
      rw [List.getElem_map, List.getElem_range, List.getElem_take, List.getElem_drop,
        ← Array.getElem_eq_getD (h := by rw [List.size_toArray]; omega), List.getElem_toArray]
  rw [element, hbytes]

theorem element_elements (xs : List Binary32) {k : Nat} (hk : k < xs.length) :
    element .little (xs.flatMap encodeElement).toArray k = xs[k] := by
  have hl := length_elements xs
  rw [element_eq .little (by omega), drop_elements xs hk, decodeElement_encodeElement]

/-! ## Files -/

theorem tensor_elements {x : Tensor} (hc : countable x.shape = true)
    (ha : addressable x.shape = true) :
    tensor ⟨.little, false, x.shape⟩ (x.data.toList.flatMap encodeElement) = .ok x := by
  obtain ⟨shape, data, hsize⟩ := x
  have hl : (data.toList.flatMap encodeElement).length = 4 * volume shape := by
    rw [length_elements, Array.length_toList, hsize]
  unfold tensor
  simp only at hc ha ⊢
  rw [if_neg (by simp [hc, hl]), if_neg (by simp [ha])]
  simp only [Bool.false_eq_true, if_false, Except.ok.injEq, Tensor.mk.injEq, true_and]
  refine Array.ext (by rw [Array.size_ofFn, hsize]) fun k h1 h2 => ?_
  rw [Array.getElem_ofFn, element_elements _ (by rw [Array.length_toList]; exact h2),
    Array.getElem_toList]

theorem length_paddedHeader (front : Nat) {s : Shape} (h : ∀ d ∈ s, d < wordLimit) :
    (paddedHeader front s).length ≤ 22 * s.length + 119 := by
  have hdigits : ∀ d ∈ s, (Nat.toDigits 10 d).length ≤ 20 := fun d hd =>
    (Nat.length_toDigits_le_iff (by decide) (by decide)).2 (Nat.lt_trans (h d hd) (by decide))
  have h1 := Value.length_intercalate_le s hdigits
  have h2 := (Value.length_shapeTuple s).2
  have h3 := Value.length_dictionary s
  simp only [paddedHeader, asciiBytes, List.length_append, List.length_map, List.length_replicate,
    List.length_cons, List.length_nil]
  omega

theorem isDescribable_of_rank {s : Shape} (h : addressable s = true) (hr : s.length < 2 ^ 24) :
    isDescribable s = true := by
  have hl := length_paddedHeader 12 fun d (hd : d ∈ s) => lt_of_addressable h hd
  have hlt : (paddedHeader 12 s).length < halfWordLimit := by rw [halfWordLimit]; omega
  exact decide_eq_true hlt

theorem content_eq {n : Nat} {header : Bytes} {x : Tensor} (hn : header.length < 256 ^ n)
    (hh : header? true header = some ⟨.little, false, x.shape⟩)
    (ha : addressable x.shape = true) :
    content true n
        (littleBytes n header.length ++ (header ++ x.data.toList.flatMap encodeElement)) =
      .ok x := by
  have hl := length_littleBytes n header.length
  unfold content
  simp only
  rw [List.take_left' hl, List.drop_left' hl, littleValue_littleBytes n hn, List.take_left,
    List.drop_left, hh]
  rw [if_neg (by simp [hl])]
  exact tensor_elements (countable_of_addressable ha) ha

/-- The file of a tensor is read as that tensor. -/
theorem decode_encode {x : Tensor} (ha : addressable x.shape = true)
    (hd : isDescribable x.shape = true) : decode (encode x) = .ok x := by
  have hs : ∀ d ∈ x.shape, d < wordLimit := fun d => lt_of_addressable ha
  unfold encode
  simp only
  split_ifs with hshort
  · simp only [List.append_assoc]
    exact content_eq hshort (header?_paddedHeader 10 hs) ha
  · simp only [List.append_assoc]
    exact content_eq (of_decide_eq_true hd) (header?_paddedHeader 12 hs) ha

end Npy

end PoolCheck
