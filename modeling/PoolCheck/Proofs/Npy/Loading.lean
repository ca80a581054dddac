import PoolCheck.Proofs.Npy.File
import PoolCheck.Proofs.Tensor.Position

/-!
# Tensors in files of any layout

A file that is accepted may be of any version, with its header in any spelling, its elements in
either byte order and row by row or column by column. Whatever it is, the tensor has at each
multi-index the element that the file stores for it, so writing the tensor and reading it again
loses nothing.
-/

set_option autoImplicit false

namespace PoolCheck

namespace Npy

/-! ## The layout of a file -/

def ByteOrder.code : ByteOrder → String
  | little => "<f4"
  | big => ">f4"

def lastUnder (key : String) : List (Value × Value) → Option Value
  | [] => none
  | (.text k, v) :: rest => (lastUnder key rest).or (if k = key then some v else none)
  | _ :: rest => lastUnder key rest

/-- The entries of a header describe the elements, in any order. -/
structure Header.DescribedBy (h : Header) (entries : List (Value × Value)) : Prop where
  element : lastUnder "descr" entries = some (.text h.byteOrder.code)
  order : lastUnder "fortran_order" entries = some (.flag h.columnMajor)
  shape : lastUnder "shape" entries = some (.tuple (h.shape.map Value.ofExtent))

def Header.place (h : Header) (i : List Nat) : Nat :=
  if h.columnMajor then ravel h.shape.reverse i.reverse else ravel h.shape i

def Header.stored (h : Header) (body : Bytes) (i : List Nat) : Binary32 :=
  decodeElement h.byteOrder ((body.drop (4 * h.place i)).take 4)

/-- Each version with the size of its length field, and whether its header is ASCII. -/
def versions : List (UInt8 × Nat × Bool) := [(1, 2, true), (2, 4, true), (3, 4, false)]

/-- A file that consists of the magic string, its version, the length of its header, the header,
which is a dictionary and a line end, and the bytes of the elements. -/
inductive Layout (h : Header) (body bs : Bytes) : Prop where
  | intro (version : UInt8) (field : Nat) (ascii : Bool) (size header : Bytes) (line : String)
      (entries : List (Value × Value)) (known : (version, field, ascii) ∈ versions)
      (bytes : bs = magic ++ version :: 0 :: (size ++ (header ++ body)))
      (size_length : size.length = field) (header_length : header.length = littleValue size)
      (header_eq : header = line.toUTF8.data.toList ++ [0x0a])
      (plain : ascii = true → ∀ b ∈ header, b < 128)
      (dictionary : Value.ofText? line.toList = some (.dictionary entries))
      (described : h.DescribedBy entries)

/-! ## Entries of a header -/

theorem extent?_eq_some {v : Value} {n : Nat} : extent? v = some n ↔
    v = Value.ofExtent n ∧ n < wordLimit := by
  unfold extent?
  split
  · next m =>
    rw [Value.ofExtent, Value.number.injEq, Option.some.injEq]
    split_ifs with hm
    · rw [Option.some.injEq]
      omega
    · constructor
      · exact False.elim
      · omega
  · next hv =>
    refine iff_of_false (by simp) ?_
    rintro ⟨rfl, -⟩
    exact hv n rfl

theorem mapM_extent?_eq_some {vs : List Value} {s : Shape} (h : vs.mapM extent? = some s) :
    vs = s.map Value.ofExtent := by
  induction vs generalizing s with
  | nil =>
    cases h
    rfl
  | cons v vs ih =>
    simp only [List.mapM_cons, Option.bind_eq_bind, Option.bind_eq_some_iff, Option.pure_def,
      Option.some.injEq] at h
    obtain ⟨n, hn, s, hs, rfl⟩ := h
    rw [(extent?_eq_some.1 hn).1, ih hs, List.map_cons]

def Draft.under (d : Draft) (key : String) : Option Value :=
  if key = "descr" then d.element
  else if key = "fortran_order" then d.columnMajor.map .flag
  else if key = "shape" then d.shape.map fun s => .tuple (s.map Value.ofExtent)
  else none

theorem lastUnder_cons (key : String) (e : Value × Value) (rest : List (Value × Value)) :
    lastUnder key (e :: rest) = (lastUnder key rest).or (lastUnder key [e]) := by
  obtain ⟨k, v⟩ := e
  cases k <;> simp [lastUnder]

theorem Draft.under_field? {d d' : Draft} {e : Value × Value} (h : d.field? e = some d')
    (key : String) : d'.under key = (lastUnder key [e]).or (d.under key) := by
  unfold field? at h
  split at h
  · cases h
    by_cases hk : "descr" = key
    · simp [under, lastUnder, ← hk]
    · simp [under, lastUnder, hk, Ne.symm hk]
  · cases h
    by_cases hk : "fortran_order" = key
    · simp [under, lastUnder, ← hk]
    · simp [under, lastUnder, hk, Ne.symm hk]
  · obtain ⟨s, hs, rfl⟩ := Option.map_eq_some_iff.1 h
    by_cases hk : "shape" = key
    · simp [under, lastUnder, ← hk, mapM_extent?_eq_some hs]
    · simp [under, lastUnder, hk, Ne.symm hk]
  · cases h

theorem Draft.under_foldlM {d d' : Draft} {entries : List (Value × Value)}
    (h : entries.foldlM field? d = some d') (key : String) :
    d'.under key = (lastUnder key entries).or (d.under key) := by
  induction entries generalizing d with
  | nil =>
    cases h
    rfl
  | cons e rest ih =>
    rw [List.foldlM_cons] at h
    obtain ⟨mid, hm, h⟩ := Option.bind_eq_some_iff.1 h
    rw [ih h, under_field? hm, lastUnder_cons key e rest, Option.or_assoc]

theorem byteOrder?_eq_some {v : Value} {o : ByteOrder} (h : byteOrder? v = some o) :
    v = .text o.code := by
  unfold byteOrder? at h
  split at h <;> cases h <;> rfl

theorem headerOfValue?_eq_some {v : Value} {h : Header} (hv : headerOfValue? v = some h) :
    ∃ entries, v = .dictionary entries ∧ h.DescribedBy entries := by
  unfold headerOfValue? at hv
  split at hv
  · next entries =>
    simp only [Option.bind_eq_bind, Option.bind_eq_some_iff, Option.some.injEq] at hv
    obtain ⟨d, hd, element, he, order, ho, columnMajor, hc, shape, hs, rfl⟩ := hv
    have hunder : ∀ key, d.under key = lastUnder key entries := by
      intro key
      have hk := Draft.under_foldlM hd key
      simpa [Draft.under] using hk
    refine ⟨entries, rfl, ?_, ?_, ?_⟩
    · rw [← hunder]
      simp [Draft.under, he, byteOrder?_eq_some ho]
    · rw [← hunder]
      simp [Draft.under, hc]
    · rw [← hunder]
      simp [Draft.under, hs]
  · cases hv

/-! ## Headers and elements -/

theorem toUTF8_of_fromUTF8? {bs : Bytes} {s : String} (h : String.fromUTF8? ⟨bs.toArray⟩ = some s) :
    bs = s.toUTF8.data.toList := by
  unfold String.fromUTF8? at h
  split_ifs at h
  cases h
  rfl

theorem header?_eq_some {ascii : Bool} {bs : Bytes} {h : Header} (hh : header? ascii bs = some h) :
    ∃ line : String, bs = line.toUTF8.data.toList ++ [0x0a] ∧
      (ascii = true → ∀ b ∈ bs, b < 128) ∧
      ∃ entries, Value.ofText? line.toList = some (.dictionary entries) ∧
        h.DescribedBy entries := by
  unfold header? at hh
  split_ifs at hh with hlast
  obtain ⟨front, rfl⟩ := List.getLast?_eq_some_iff.1 hlast
  simp only [List.dropLast_concat, Option.bind_eq_bind, Option.bind_eq_some_iff] at hh
  obtain ⟨cs, hcs, v, hv, hh⟩ := hh
  unfold characters? at hcs
  split_ifs at hcs with hplain
  obtain ⟨line, hline, rfl⟩ := Option.map_eq_some_iff.1 hcs
  obtain ⟨entries, rfl, hentries⟩ := headerOfValue?_eq_some hh
  refine ⟨line, by rw [toUTF8_of_fromUTF8? hline], ?_, entries, hv, hentries⟩
  rintro rfl b hb
  rcases List.mem_append.1 hb with hb | hb
  · rw [Bool.true_and, List.any_eq_true] at hplain
    by_contra hlarge
    exact hplain ⟨b, hb, decide_eq_true (UInt8.not_lt.1 hlarge)⟩
  · rw [List.mem_singleton.1 hb]
    decide

theorem columnMajorPlace_ravel {s : Shape} {i : List Nat} (h : inRange s i = true) :
    columnMajorPlace s (ravel s i) = ravel s.reverse i.reverse := by
  have hi := unravel_ravel h
  rw [unravel, List.reverse_eq_iff] at hi
  rw [columnMajorPlace, hi]

theorem Header.place_lt {h : Header} {i : List Nat} (hi : inRange h.shape i = true) :
    h.place i < volume h.shape := by
  rw [Header.place]
  split_ifs
  · rw [← volume_reverse]
    exact ravel_lt (inRange_reverse hi)
  · exact ravel_lt hi

/-- The tensor has the shape that the header describes and the elements that the file stores. -/
structure Stores (h : Header) (body : Bytes) (x : Tensor) : Prop where
  length : body.length = 4 * volume h.shape
  addressable : addressable h.shape = true
  shape : x.shape = h.shape
  index : ∀ i, inRange h.shape i = true → x.index i = .ok (h.stored body i)

theorem stores_of_tensor {h : Header} {body : Bytes} {x : Tensor} (ht : tensor h body = .ok x) :
    Stores h body x := by
  unfold tensor at ht
  split at ht
  · cases ht
  split at ht
  · cases ht
  next hfault ha =>
    simp only [Bool.or_eq_true, decide_eq_true_eq, not_or, not_not] at hfault
    simp only [Bool.not_eq_true, Bool.not_eq_false'] at ha
    have hlength : body.length = 4 * volume h.shape := hfault.2
    cases ht
    refine ⟨hlength, ha, rfl, fun i hi => ?_⟩
    have hlt := ravel_lt hi
    have hplace := Header.place_lt hi
    rw [Tensor.index, if_neg (by simp [Tensor.rank, length_of_inRange hi]), if_pos hi,
      ← Array.getElem_eq_getD (h := by simpa using hlt), Array.getElem_ofFn]
    rw [Header.stored, ← element_eq h.byteOrder (by omega), Header.place]
    simp only [columnMajorPlace_ravel hi]

/-! ## Files that are accepted -/

theorem content_eq_ok {ascii : Bool} {n : Nat} {bs : Bytes} {x : Tensor}
    (h : content ascii n bs = .ok x) : ∃ size header body hd, bs = size ++ (header ++ body) ∧
      size.length = n ∧ header.length = littleValue size ∧ header? ascii header = some hd ∧
      tensor hd body = .ok x := by
  unfold content at h
  simp only at h
  split at h
  · cases h
  next hlong =>
    simp only [Bool.or_eq_true, decide_eq_true_eq, not_or, not_lt] at hlong
    obtain ⟨hsize, hheader⟩ := hlong
    split at h
    · next hd hh =>
      refine ⟨bs.take n, _, _, hd, ?_, ?_, ?_, hh, h⟩
      · rw [List.take_append_drop, List.take_append_drop]
      · rw [List.length_take, Nat.min_eq_left hsize]
      · rw [List.length_take, Nat.min_eq_left hheader]
    · cases h

theorem layout_of_decode {bs : Bytes} {x : Tensor} (h : decode bs = .ok x) :
    ∃ hd body, Layout hd body bs ∧ Stores hd body x := by
  have hlayout : ∀ version field ascii rest, (version, field, ascii) ∈ versions →
      bs = magic ++ version :: 0 :: rest → content ascii field rest = .ok x →
      ∃ hd body, Layout hd body bs ∧ Stores hd body x := by
    intro version field ascii rest hknown hbs hc
    obtain ⟨size, header, body, hd, rfl, hsize, hlength, hh, ht⟩ := content_eq_ok hc
    obtain ⟨line, hline, hplain, entries, hdictionary, hdescribed⟩ := header?_eq_some hh
    exact ⟨hd, body, .intro version field ascii size header line entries hknown hbs hsize hlength
      hline hplain hdictionary hdescribed, stores_of_tensor ht⟩
  unfold decode at h
  split_ifs at h with hmagic
  have hbs := List.take_append_drop 6 bs
  rw [hmagic] at hbs
  split at h
  · next rest hrest => exact hlayout 1 2 true rest (by decide) (by rw [← hbs, hrest]) h
  · next rest hrest => exact hlayout 2 4 true rest (by decide) (by rw [← hbs, hrest]) h
  · next rest hrest => exact hlayout 3 4 false rest (by decide) (by rw [← hbs, hrest]) h
  · cases h

end Npy

end PoolCheck
