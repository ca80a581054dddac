import PoolCheck.Proofs.Sequence

/-!
# Parameters that are left out

An operator is made in two ways: from its kernel, with other parameters set one by one, or from a
record in which the same parameters are written. A record may write them in any order, with members
of other names between them, and may leave out each of them but the kernel. Both ways lead to the
same operator, and a record is refused exactly when that operator does not pass its check.
-/

set_option autoImplicit false

namespace PoolCheck

/-! ## Written parameters -/

inductive PairText where
  | one (k : Nat)
  | two (h w : Nat)

namespace PairText

def pair : PairText → Pair
  | one k => .square k
  | two h w => ⟨h, w⟩

def toJson : PairText → Json
  | one k => .ofNat k
  | two h w => .list [.ofNat h, .ofNat w]

end PairText

/-- A parameter that may be left out. To write that there is none is the same. -/
inductive Slot (α : Type) where
  | absent
  | null
  | given (x : α)

namespace Slot

variable {α : Type}

def value : Slot α → Option α
  | given x => some x
  | _ => none

def toJson? (f : α → Json) : Slot α → Option Json
  | absent => none
  | null => some .null
  | given x => some (f x)

end Slot

def Members.optional (name : String) (v : Option Json) : List (String × Json) :=
  (v.map (Prod.mk name)).toList

structure GeometryText where
  kernel : PairText
  stride : Slot PairText
  padding : Slot PairText
  ceilMode : Option Bool

namespace GeometryText

def members (g : GeometryText) : List (String × Json) :=
  Members.optional "kernel_size" (some g.kernel.toJson) ++
    Members.optional "stride" (g.stride.toJson? PairText.toJson) ++
    Members.optional "padding" (g.padding.toJson? PairText.toJson) ++
    Members.optional "ceil_mode" (g.ceilMode.map .bool)

def settings (g : GeometryText) : List Geometry.Setting :=
  (g.stride.value.map fun p => .stride p.pair).toList ++
    (g.padding.value.map fun p => .padding p.pair).toList ++ (g.ceilMode.map .ceilMode).toList

end GeometryText

/-- An operator as it is written. -/
inductive OperatorText where
  | avg (g : GeometryText) (countIncludePad : Option Bool) (divisorOverride : Slot Nat)
  | max (g : GeometryText)

namespace OperatorText

def geometry : OperatorText → GeometryText
  | avg g _ _ => g
  | max g => g

def kind : OperatorText → String
  | avg .. => "AvgPool2d"
  | max _ => "MaxPool2d"

def fieldNames : OperatorText → List String
  | avg .. => AvgPool.fieldNames
  | max _ => Geometry.fieldNames

def members : OperatorText → List (String × Json)
  | avg g countIncludePad divisorOverride =>
    g.members ++ Members.optional "count_include_pad" (countIncludePad.map .bool) ++
      Members.optional "divisor_override" (divisorOverride.toJson? .ofNat)
  | max g => g.members

def built : OperatorText → Operator
  | avg g countIncludePad divisorOverride =>
    let settings : List AvgPool.Setting :=
      g.settings.map .geometry ++ (countIncludePad.map .countIncludePad).toList ++
        (divisorOverride.value.map .divisorOverride).toList
    .avg (settings.foldl AvgPool.set (.ofKernel g.kernel.pair))
  | max g => .max (g.settings.foldl MaxPool.set (.ofKernel g.kernel.pair))

/-- The members of a record that writes the operator, in any order. The others have other names, and
strings as their values. -/
def WrittenAs (w : OperatorText) (ms : List (String × Json)) : Prop :=
  ∃ others, ms.Perm (("type", .string w.kind) :: w.members ++ others) ∧
    ∀ m ∈ others, m.1 ∉ "type" :: w.fieldNames ∧ ∃ s, m.2 = .string s

end OperatorText

/-! ## Looking up members -/

namespace Members

variable {name other : String} {v : Option Json} {ms known others : List (String × Json)}

theorem filter_optional_self (name : String) (v : Option Json) :
    (optional name v).filter (fun p => p.1 = name) = optional name v := by
  cases v <;> simp [optional]

theorem filter_optional_of_ne (h : other ≠ name) (v : Option Json) :
    (optional other v).filter (fun p => p.1 = name) = [] := by
  cases v <;> simp [optional, h]

theorem find_of_perm (hp : ms.Perm (known ++ others)) (ho : ∀ m ∈ others, m.1 ≠ name)
    (hk : known.filter (fun p => p.1 = name) = optional name v) :
    Members.find ⟨ms, true⟩ name = .ok v := by
  have hnone : others.filter (fun p => p.1 = name) = [] := by
    rw [List.filter_eq_nil_iff]
    intro m hm
    simpa using ho m hm
  have hf := hp.filter fun p => p.1 = name
  rw [List.filter_append, hk, hnone, List.append_nil] at hf
  rw [Members.find]
  cases v with
  | none => rw [List.perm_nil.1 hf]
  | some v => rw [List.perm_singleton.1 hf]

variable {α β : Type} {m : Members} {d : Decoder β}

theorem withDefault_slot {slot : Slot α} {f : α → Json} {g : α → β}
    (hm : m.find name = .ok (slot.toJson? f)) (hnull : ∀ x, f x ≠ .null)
    (hd : ∀ x, slot = .given x → d (f x) = .ok (g x)) :
    m.withDefault name none (Decoder.optional d) = .ok (slot.value.map g) := by
  rw [withDefault, hm]
  cases slot with
  | absent => rfl
  | null => rfl
  | given x =>
    show Decoder.optional d (f x) = _
    rw [Decoder.optional, hd x rfl]
    · rfl
    · exact hnull x

theorem withDefault_bool {b : Option Bool} (hm : m.find name = .ok (b.map .bool)) (other : Bool) :
    m.withDefault name other Decoder.bool = .ok (b.getD other) := by
  rw [withDefault, hm]
  cases b <;> rfl

end Members

/-! ## Decoding what is written -/

namespace PairText

variable {p : PairText}

theorem toJson_ne_null (p : PairText) : p.toJson ≠ .null := by
  cases p <;> exact nofun

theorem ofJson_toJson (h : p.pair.IsWords) : Pair.ofJson p.toJson = .ok p.pair := by
  cases p with
  | one k =>
    have hk : Decoder.word (.ofNat k) = .ok k := Decoder.word_ofNat h.1
    show (Decoder.word (.ofNat k)).map Pair.square = _
    rw [hk]
    rfl
  | two h w => exact Pair.ofJson_toJson h

theorem printable (h : p.pair.IsWords) {room : Nat} : p.toJson.Printable (room + 1) := by
  cases p with
  | one k => exact Json.printable_ofNat h.1
  | two h w => exact Pair.printable h

end PairText

structure GeometryText.IsWords (g : GeometryText) : Prop where
  kernel : g.kernel.pair.IsWords
  stride : ∀ p, g.stride = .given p → p.pair.IsWords
  padding : ∀ p, g.padding = .given p → p.pair.IsWords

structure OperatorText.IsWords (w : OperatorText) : Prop where
  geometry : w.geometry.IsWords
  divisor : ∀ g b d, w = .avg g b (.given d) → d < halfWordLimit

namespace GeometryText

variable {g : GeometryText} {m : Members}

theorem ofMembers_eq (hw : g.IsWords) (hk : m.find "kernel_size" = .ok (some g.kernel.toJson))
    (hs : m.find "stride" = .ok (g.stride.toJson? PairText.toJson))
    (hp : m.find "padding" = .ok (g.padding.toJson? PairText.toJson))
    (hc : m.find "ceil_mode" = .ok (g.ceilMode.map .bool)) :
    Geometry.ofMembers m = .ok (g.settings.foldl Geometry.set (.ofKernel g.kernel.pair)) := by
  have hkernel : m.required "kernel_size" Pair.ofJson = .ok g.kernel.pair := by
    rw [Members.required, hk]
    exact PairText.ofJson_toJson hw.kernel
  have hstride := Members.withDefault_slot hs PairText.toJson_ne_null
    fun p h => PairText.ofJson_toJson (hw.stride p h)
  have hpadding := Members.withDefault_slot hp PairText.toJson_ne_null
    fun p h => PairText.ofJson_toJson (hw.padding p h)
  have hceil := Members.withDefault_bool hc false
  rw [Geometry.ofMembers, hkernel, hstride, hpadding, hceil]
  obtain ⟨kernel, stride, padding, ceilMode⟩ := g
  cases stride <;> cases padding <;> cases ceilMode <;> rfl

theorem foldl_max (settings : List Geometry.Setting) (g : Geometry) :
    settings.foldl MaxPool.set ⟨g⟩ = ⟨settings.foldl Geometry.set g⟩ := by
  induction settings generalizing g with
  | nil => rfl
  | cons s rest ih => exact ih (g.set s)

theorem foldl_avg (settings : List Geometry.Setting) (p : AvgPool) :
    (settings.map .geometry).foldl AvgPool.set p =
      { p with geometry := settings.foldl Geometry.set p.geometry } := by
  induction settings generalizing p with
  | nil => rfl
  | cons s rest ih => exact ih (p.set (.geometry s))

theorem printable (hw : g.IsWords) {room : Nat} :
    ∀ m ∈ g.members, m.2.Printable (room + 1) := by
  obtain ⟨kernel, stride, padding, ceilMode⟩ := g
  have hslot : ∀ (name : String) (slot : Slot PairText),
      (∀ p, slot = .given p → p.pair.IsWords) →
      ∀ m ∈ Members.optional name (slot.toJson? PairText.toJson), m.2.Printable (room + 1) := by
    intro name slot hs m hm
    cases slot with
    | absent => cases hm
    | null =>
      rw [List.mem_singleton.1 hm]
      trivial
    | given p =>
      rw [List.mem_singleton.1 hm]
      exact PairText.printable (hs p rfl)
  simp only [members, List.mem_append]
  rintro m (((hm | hm) | hm) | hm)
  · rw [List.mem_singleton.1 hm]
    exact PairText.printable hw.kernel
  · exact hslot _ _ hw.stride m hm
  · exact hslot _ _ hw.padding m hm
  · cases ceilMode with
    | none => cases hm
    | some b =>
      rw [List.mem_singleton.1 hm]
      trivial

end GeometryText

namespace OperatorText

variable {w : OperatorText} {ms : List (String × Json)} {name : String} {v : Option Json}

theorem name_mem_fieldNames (w : OperatorText) : ∀ m ∈ w.members, m.1 ∈ w.fieldNames := by
  have hname : ∀ (name : String) (v : Option Json), ∀ m ∈ Members.optional name v, m.1 = name := by
    intro name v m hm
    cases v with
    | none => cases hm
    | some v => rw [List.mem_singleton.1 hm]
  intro m hm
  cases w with
  | max g =>
    simp only [members, GeometryText.members, List.mem_append] at hm
    rcases hm with ((hm | hm) | hm) | hm <;>
      simp [fieldNames, Geometry.fieldNames, hname _ _ m hm]
  | avg g b d =>
    simp only [members, GeometryText.members, List.mem_append] at hm
    rcases hm with ((((hm | hm) | hm) | hm) | hm) | hm <;>
      simp [fieldNames, AvgPool.fieldNames, Geometry.fieldNames, hname _ _ m hm]

theorem name_ne_type (w : OperatorText) {others : List (String × Json)}
    (ho : ∀ m ∈ others, m.1 ∉ "type" :: w.fieldNames) :
    ∀ m ∈ w.members ++ others, m.1 ≠ "type" := by
  have htype : "type" ∉ w.fieldNames := by
    cases w <;> simp [fieldNames, AvgPool.fieldNames, Geometry.fieldNames]
  intro m hm hname
  rcases List.mem_append.1 hm with hm | hm
  · exact htype (hname ▸ name_mem_fieldNames w m hm)
  · exact ho m hm (hname ▸ List.mem_cons_self)

theorem printable_members (hw : w.IsWords) {room : Nat} :
    ∀ m ∈ w.members, m.2.Printable (room + 1) := by
  cases w with
  | max g => exact GeometryText.printable hw.geometry
  | avg g b d =>
    simp only [members, List.mem_append]
    rintro m ((hm | hm) | hm)
    · exact GeometryText.printable hw.geometry m hm
    · cases b with
      | none => cases hm
      | some b =>
        rw [List.mem_singleton.1 hm]
        trivial
    · cases d with
      | absent => cases hm
      | null =>
        rw [List.mem_singleton.1 hm]
        trivial
      | given d =>
        rw [List.mem_singleton.1 hm]
        exact Json.printable_ofNat (Nat.lt_trans (hw.divisor g b d rfl) (by decide))

namespace WrittenAs

theorem printable (h : w.WrittenAs ms) (hw : w.IsWords) {room : Nat} :
    (Json.record ms).Printable (room + 2) := by
  obtain ⟨others, hp, ho⟩ := h
  refine Json.printable_record fun m hm => ?_
  rcases List.mem_append.1 (hp.subset hm) with hm | hm
  · rcases List.mem_cons.1 hm with rfl | hm
    · trivial
    · exact printable_members hw m hm
  · obtain ⟨-, s, hs⟩ := ho m hm
    rw [hs]
    trivial

theorem tagged (h : w.WrittenAs ms) (hw : w.IsWords) : (Json.record ms).tagged "type" =
    .ok (w.kind, .record (ms.filter fun p => p.1 ≠ "type")) := by
  have hwhole := Json.isWhole_of_printable _ (@printable _ _ h hw 0)
  obtain ⟨others, hp, ho⟩ := h
  have htag : ms.filter (fun p => p.1 = "type") = [("type", .string w.kind)] := by
    have hmembers : (w.members ++ others).filter (fun p => p.1 = "type") = [] := by
      rw [List.filter_eq_nil_iff]
      intro m hm
      rw [decide_eq_true_eq]
      exact name_ne_type w (fun m hm => (ho m hm).1) m hm
    have hf := hp.filter fun p => p.1 = "type"
    rw [List.cons_append, List.filter_cons_of_pos (by simp), hmembers] at hf
    exact List.perm_singleton.1 hf
  rw [Json.record] at hwhole ⊢
  rw [Json.tagged]
  · simp only [htag]
  · exact hwhole

theorem find (h : w.WrittenAs ms) (hn : name ∈ w.fieldNames)
    (hk : w.members.filter (fun p => p.1 = name) = Members.optional name v) :
    Members.find ⟨ms.filter fun p => p.1 ≠ "type", true⟩ name = .ok v := by
  obtain ⟨others, hp, ho⟩ := h
  have hkeep : (w.members ++ others).filter (fun p => p.1 ≠ "type") = w.members ++ others := by
    rw [List.filter_eq_self]
    intro m hm
    rw [decide_eq_true_eq]
    exact name_ne_type w (fun m hm => (ho m hm).1) m hm
  have hf := hp.filter fun p => p.1 ≠ "type"
  rw [List.cons_append, List.filter_cons_of_neg (by simp), hkeep] at hf
  refine Members.find_of_perm hf (fun m hm => ?_) hk
  rintro rfl
  exact (ho m hm).1 (List.mem_cons_of_mem _ hn)

theorem geometry_eq (h : w.WrittenAs ms) (hw : w.IsWords) :
    Geometry.ofMembers ⟨ms.filter fun p => p.1 ≠ "type", true⟩ =
      .ok (w.geometry.settings.foldl Geometry.set (.ofKernel w.geometry.kernel.pair)) := by
  apply GeometryText.ofMembers_eq hw.geometry <;>
  · refine h.find ?_ ?_
    · cases w <;> simp [fieldNames, AvgPool.fieldNames, Geometry.fieldNames]
    · cases w <;>
        simp [members, geometry, GeometryText.members, List.filter_append,
          Members.filter_optional_self, Members.filter_optional_of_ne]

theorem parameters_eq (h : w.WrittenAs ms) (hw : w.IsWords) :
    Operator.parametersOfJson (.record ms) = .ok w.built := by
  have hgeometry := h.geometry_eq hw
  rw [Operator.parametersOfJson, h.tagged hw]
  cases w with
  | max g =>
    have hbuilt := GeometryText.foldl_max g.settings (.ofKernel g.kernel.pair)
    simp only [geometry] at hgeometry
    simp only [bind, Except.bind, kind, MaxPool.ofJson, Operator.ofParameters_record, hgeometry]
    rw [built, MaxPool.ofKernel, hbuilt]
    rfl
  | avg g countIncludePad divisorOverride =>
    have hpad := @find _ _ "count_include_pad" (countIncludePad.map .bool) h
      (by simp [fieldNames, AvgPool.fieldNames])
      (by simp [members, GeometryText.members, List.filter_append,
        Members.filter_optional_self, Members.filter_optional_of_ne])
    have hdivisor := @find _ _ "divisor_override" (divisorOverride.toJson? .ofNat) h
      (by simp [fieldNames, AvgPool.fieldNames])
      (by simp [members, GeometryText.members, List.filter_append,
        Members.filter_optional_self, Members.filter_optional_of_ne])
    have hpad' := Members.withDefault_bool hpad true
    have hdivisor' := Members.withDefault_slot (g := id) (d := Decoder.halfWord) hdivisor
      (fun d => PairText.toJson_ne_null (.one d))
      fun d hd => Decoder.nat_ofNat (hw.divisor _ _ d (by rw [hd]))
    simp only [geometry] at hgeometry
    simp only [bind, Except.bind, kind, AvgPool.ofJson, Operator.ofParameters_record, hgeometry,
      hpad', hdivisor']
    rw [built, List.foldl_append, List.foldl_append, GeometryText.foldl_avg]
    cases countIncludePad <;> cases divisorOverride <;> rfl

end WrittenAs

/-- A text of such a record is read as the operator that is built from the kernel and the other
given parameters, if that operator passes its check. Otherwise the text is refused, and for the
same fault. -/
theorem written_as_built (hw : w.IsWords) (h : w.WrittenAs ms) {text : String}
    (ht : Json.read text = ⟨some (.record ms), true⟩) :
    (∀ op, Decoder.text Operator.ofJson text = .ok op ↔ w.built.check = .ok () ∧ op = w.built) ∧
      ∀ fault, Decoder.text Operator.ofJson text = .error fault ↔
        ∃ cause, w.built.check = .error cause ∧ fault = .refused cause := by
  have hdecode : Decoder.text Operator.ofJson text =
      (w.built.check.mapError .refused).map fun _ => w.built := by
    rw [Decoder.text, ht]
    simp only [Operator.ofJson, h.parameters_eq hw, bind, Except.bind]
    cases w.built.check <;> rfl
  rw [hdecode]
  cases w.built.check with
  | ok _ => simp [Except.map, Except.mapError, eq_comm]
  | error cause => simp [Except.map, Except.mapError, eq_comm]

/-- An average whose stride is null, with nothing said on whether its padding counts. -/
def shuffled : OperatorText :=
  .avg ⟨.one 2, .null, .given (.two 0 1), some true⟩ none (.given 3)

def shuffledRecord : List (String × Json) :=
  [("divisor_override", .ofNat 3), ("note", .string "odd"), ("padding", .list [.ofNat 0, .ofNat 1]),
    ("ceil_mode", .bool true), ("type", .string "AvgPool2d"), ("stride", .null),
    ("kernel_size", .ofNat 2)]

theorem shuffled_as_built : shuffled.IsWords ∧ shuffled.WrittenAs shuffledRecord ∧
    Json.read (Json.record shuffledRecord).pretty = ⟨some (.record shuffledRecord), true⟩ ∧
    Decoder.text Operator.ofJson (Json.record shuffledRecord).pretty =
      .ok (.avg ⟨⟨.square 2, .square 2, ⟨0, 1⟩, true⟩, true, some 3⟩) := by
  have hw : shuffled.IsWords := by
    refine ⟨⟨by decide, nofun, ?_⟩, ?_⟩
    · rintro p ⟨⟩
      decide
    · rintro g b d ⟨⟩
      decide
  have hr : shuffled.WrittenAs shuffledRecord := by
    -- values have no decidable equality, so the order is settled on the places of the members
    have hperm : [5, 6, 3, 4, 0, 2, 1].Perm (List.range 7) := by decide
    refine ⟨[("note", .string "odd")], ?_, ?_⟩
    · exact hperm.map fun i => (("type", Json.string shuffled.kind) :: shuffled.members ++
        [("note", Json.string "odd")]).getD i ("", Json.null)
    · intro m hm
      rw [List.mem_singleton.1 hm]
      exact ⟨by decide, "odd", rfl⟩
  have ht : Json.read (Json.record shuffledRecord).pretty =
      ⟨some (.record shuffledRecord), true⟩ :=
    Json.read_pretty (@WrittenAs.printable _ _ hr hw 125)
  exact ⟨hw, hr, ht, ((written_as_built hw hr ht).1 _).2 ⟨by decide, rfl⟩⟩

end OperatorText

end PoolCheck
