import PoolCheck.Exchange.Module
import PoolCheck.Proofs.Json.Reading

/-!
# Exchanged documents are read back

What is written as a document is decoded as the same thing again: every number fits its kind, every
member is found under its name, and an operator that passes its check is not refused.
-/

set_option autoImplicit false

namespace PoolCheck

/-! ## Whole values -/

namespace Json

mutual

theorem isWhole_of_printable {room : Nat} (v : Json) (hv : v.Printable room) : v.isWhole = true :=
  match v with
  | .null | .bool _ | .number _ | .string _ => rfl
  | .array items _ => by
    obtain ⟨rfl, -, h⟩ := hv
    rw [isWhole, areWhole_of_printable items h]
    rfl
  | .object members _ => by
    obtain ⟨rfl, -, h⟩ := hv
    rw [isWhole, membersAreWhole_of_printable members h]
    rfl
  | .valueless => absurd hv id

theorem areWhole_of_printable {room : Nat} (vs : List Json) (hv : ItemsPrintable room vs) :
    areWhole vs = true :=
  match vs with
  | [] => rfl
  | v :: rest => by
    rw [areWhole, isWhole_of_printable v hv.1, areWhole_of_printable rest hv.2]
    rfl

theorem membersAreWhole_of_printable {room : Nat} (ms : List (String × Json))
    (hv : MembersPrintable room ms) : membersAreWhole ms = true :=
  match ms with
  | [] => rfl
  | (_, v) :: rest => by
    rw [membersAreWhole, isWhole_of_printable v hv.1, membersAreWhole_of_printable rest hv.2]
    rfl

end

variable {room : Nat}

theorem itemsPrintable_iff {vs : List Json} :
    ItemsPrintable room vs ↔ ∀ v ∈ vs, v.Printable room := by
  induction vs with
  | nil => simp [ItemsPrintable]
  | cons v rest ih => rw [ItemsPrintable, ih, List.forall_mem_cons]

theorem membersPrintable_iff {ms : List (String × Json)} :
    MembersPrintable room ms ↔ ∀ m ∈ ms, m.2.Printable room := by
  induction ms with
  | nil => simp [MembersPrintable]
  | cons m rest ih => rw [MembersPrintable, ih, List.forall_mem_cons]

theorem printable_list {α : Type} {f : α → Json} {xs : List α}
    (h : ∀ x ∈ xs, (f x).Printable room) : (list (xs.map f)).Printable (room + 1) := by
  refine ⟨rfl, Nat.succ_pos _, ?_⟩
  rw [itemsPrintable_iff]
  intro v hv
  obtain ⟨x, hx, rfl⟩ := List.mem_map.1 hv
  exact h x hx

theorem printable_record {ms : List (String × Json)} (h : ∀ m ∈ ms, m.2.Printable room) :
    (record ms).Printable (room + 1) :=
  ⟨rfl, Nat.succ_pos _, membersPrintable_iff.2 h⟩

/-! ## Numbers -/

theorem printable_ofNat {n : Nat} (h : n < wordLimit) : (ofNat n).Printable room := by
  refine ⟨Literal.plain_ofNat n, ?_⟩
  have hv : (Literal.ofNat n).value? = some (.ofCount n) := by
    simp [Literal.value?, Literal.ofNat, Literal.isWhole, Literal.wholeValue, h]
  rw [hv]
  rfl

theorem printable_ofShape {s : Shape} (h : ∀ d ∈ s, d < wordLimit) :
    (ofShape s).Printable (room + 1) :=
  printable_list fun d hd => printable_ofNat (h d hd)

end Json

namespace Decoder

theorem nat_ofNat {limit n : Nat} (h : n < limit) : nat limit (.ofNat n) = .ok n := by
  have hn : (Literal.ofNat n).nat? = some n := by
    simp [Literal.nat?, Literal.isWhole, Literal.wholeValue, Literal.ofNat]
  rw [Json.ofNat, nat, hn]
  exact if_pos h

theorem word_ofNat {n : Nat} (h : n < wordLimit) : word (.ofNat n) = .ok n := nat_ofNat h

theorem items_map {α : Type} {d : Decoder α} {f : α → Json} {xs : List α}
    (h : ∀ x ∈ xs, d (f x) = .ok x) : items d (xs.map f) = .ok xs := by
  induction xs with
  | nil => rfl
  | cons x xs ih =>
    rw [List.map_cons, items, h x List.mem_cons_self,
      ih fun y hy => h y (List.mem_cons_of_mem _ hy)]
    rfl

theorem list_map {α : Type} {d : Decoder α} {f : α → Json} {xs : List α}
    (h : ∀ x ∈ xs, d (f x) = .ok x) : list d (.list (xs.map f)) = .ok xs := by
  rw [Json.list, list, items_map h]
  rfl

theorem shape_ofShape {s : Shape} (h : ∀ d ∈ s, d < wordLimit) : shape (.ofShape s) = .ok s :=
  list_map fun d hd => word_ofNat (h d hd)

theorem text_pretty {α : Type} {d : Decoder α} {v : Json} {x : α}
    (hp : v.Printable Json.maxOpen) (h : d v = .ok x) : text d v.pretty = .ok x := by
  rw [text, Json.read_pretty hp]
  simp only [h, bind, Except.bind, if_true, pure, Except.pure]

end Decoder

/-! ## Operators -/

def Pair.IsWords (p : Pair) : Prop := p.h < wordLimit ∧ p.w < wordLimit

instance (p : Pair) : Decidable p.IsWords := inferInstanceAs (Decidable (_ ∧ _))

theorem Pair.ofJson_toJson {p : Pair} (h : p.IsWords) : Pair.ofJson p.toJson = .ok p := by
  rw [toJson, Json.list, ofJson, Decoder.word_ofNat h.1, Decoder.word_ofNat h.2]
  rfl

theorem Pair.printable {p : Pair} (h : p.IsWords) {room : Nat} :
    p.toJson.Printable (room + 1) := by
  refine ⟨rfl, Nat.succ_pos _, Json.printable_ofNat h.1, Json.printable_ofNat h.2, trivial⟩

structure Operator.IsWords (op : Operator) : Prop where
  kernel : op.geometry.kernel.IsWords
  stride : op.geometry.stride.IsWords
  padding : op.geometry.padding.IsWords
  divisor : ∀ p d, op = .avg p → p.divisorOverride = some d → d < halfWordLimit

namespace Operator

variable {op : Operator}

theorem printable (h : op.IsWords) {room : Nat} : op.toJson.Printable (room + 2) := by
  refine Json.printable_record ?_
  have hg : ∀ m ∈ op.geometry.members, m.2.Printable (room + 1) := by
    simp only [Geometry.members, List.mem_cons, List.not_mem_nil, or_false]
    rintro m (rfl | rfl | rfl | rfl)
    · exact Pair.printable h.kernel
    · exact Pair.printable h.stride
    · exact Pair.printable h.padding
    · trivial
  intro m hm
  rcases List.mem_cons.1 hm with rfl | hm
  · trivial
  cases op with
  | max p => exact hg m hm
  | avg p =>
    simp only [members, AvgPool.members, List.mem_append, List.mem_singleton, Option.mem_toList,
      Option.map_eq_some_iff] at hm
    rcases hm with (hm | rfl) | ⟨d, hd, rfl⟩
    · exact hg m hm
    · trivial
    · have hl := h.divisor p d rfl hd
      exact Json.printable_ofNat (Nat.lt_trans hl (by decide))

theorem optional_pair {p : Pair} (h : p.IsWords) :
    Decoder.optional Pair.ofJson p.toJson = .ok (some p) := by
  have hp := Pair.ofJson_toJson h
  rw [Pair.toJson, Json.list] at hp ⊢
  rw [Decoder.optional, hp]
  · rfl
  · nofun

theorem ofMembers_eq {g : Geometry} (hk : g.kernel.IsWords) (hs : g.stride.IsWords)
    (hp : g.padding.IsWords) (others : List (String × Json))
    (ho : ∀ name ∈ Geometry.fieldNames, ∀ m ∈ others, m.1 ≠ name) :
    Geometry.ofMembers ⟨g.members ++ others, true⟩ = .ok g := by
  have hfind : ∀ name ∈ Geometry.fieldNames,
      Members.find ⟨g.members ++ others, true⟩ name = Members.find ⟨g.members, true⟩ name := by
    intro name hn
    have hf : others.filter (fun p => p.1 = name) = [] := by
      rw [List.filter_eq_nil_iff]
      intro m hm
      simpa using ho name hn m hm
    rw [Members.find, Members.find, List.filter_append, hf, List.append_nil]
  unfold Geometry.ofMembers Members.required Members.withDefault
  rw [hfind "kernel_size" (by decide), hfind "stride" (by decide), hfind "padding" (by decide),
    hfind "ceil_mode" (by decide)]
  have h1 : Members.find ⟨g.members, true⟩ "kernel_size" = .ok (some g.kernel.toJson) := by
    simp [Members.find, Geometry.members]
  have h2 : Members.find ⟨g.members, true⟩ "stride" = .ok (some g.stride.toJson) := by
    simp [Members.find, Geometry.members]
  have h3 : Members.find ⟨g.members, true⟩ "padding" = .ok (some g.padding.toJson) := by
    simp [Members.find, Geometry.members]
  have h4 : Members.find ⟨g.members, true⟩ "ceil_mode" = .ok (some (.bool g.ceilMode)) := by
    simp [Members.find, Geometry.members]
  simp only [h1, h2, h3, h4, Pair.ofJson_toJson hk, optional_pair hs, optional_pair hp,
    Decoder.bool, bind, Except.bind, pure, Except.pure, Option.getD_some]

theorem tagged_record {tag kind : String} {ms : List (String × Json)}
    (hw : (Json.record ((tag, .string kind) :: ms)).isWhole = true)
    (hms : ∀ m ∈ ms, m.1 ≠ tag) :
    (Json.record ((tag, .string kind) :: ms)).tagged tag = .ok (kind, .record ms) := by
  have hf : ms.filter (fun p => p.1 = tag) = [] := by
    rw [List.filter_eq_nil_iff]
    intro m hm
    simpa using hms m hm
  have hg : ms.filter (fun p => p.1 ≠ tag) = ms := by
    rw [List.filter_eq_self]
    intro m hm
    simpa using hms m hm
  rw [Json.record] at hw ⊢
  rw [Json.tagged]
  · simp only [List.filter_cons, hf, hg, decide_true, if_true, ne_eq, not_true_eq_false,
      decide_false, Bool.false_eq_true, if_false]
  · exact hw

theorem ofParameters_record (names : List String) (ms : List (String × Json)) :
    Members.ofParameters names (.record ms) = .ok ⟨ms, true⟩ := rfl

theorem ofJson_max {p : MaxPool} (h : (max p).IsWords) :
    MaxPool.ofJson (.record p.geometry.members) = .ok p := by
  have hg := ofMembers_eq h.kernel h.stride h.padding [] (by simp)
  rw [List.append_nil] at hg
  rw [MaxPool.ofJson, ofParameters_record]
  simp only [bind, Except.bind, pure, Except.pure]
  rw [show p.geometry = (max p).geometry from rfl, hg]
  rfl

theorem ofJson_avg {p : AvgPool} (h : (avg p).IsWords) :
    AvgPool.ofJson (.record p.members) = .ok p := by
  obtain ⟨g, countIncludePad, divisorOverride⟩ := p
  have hg := ofMembers_eq h.kernel h.stride h.padding
    (("count_include_pad", .bool countIncludePad) ::
      (divisorOverride.map fun d => ("divisor_override", Json.ofNat d)).toList) (by
        cases divisorOverride <;> simp [Geometry.fieldNames])
  simp only [geometry] at hg
  rw [AvgPool.ofJson, AvgPool.members, ofParameters_record, List.append_assoc,
    List.singleton_append]
  simp only [bind, Except.bind, hg]
  have hpad : Members.find ⟨g.members ++ ("count_include_pad", Json.bool countIncludePad) ::
      (divisorOverride.map fun d => ("divisor_override", Json.ofNat d)).toList, true⟩
      "count_include_pad" = .ok (some (.bool countIncludePad)) := by
    cases divisorOverride <;> simp [Members.find, Geometry.members]
  have hdiv : Members.find ⟨g.members ++ ("count_include_pad", Json.bool countIncludePad) ::
      (divisorOverride.map fun d => ("divisor_override", Json.ofNat d)).toList, true⟩
      "divisor_override" = .ok (divisorOverride.map Json.ofNat) := by
    cases divisorOverride <;> simp [Members.find, Geometry.members]
  simp only [Members.withDefault, hpad, hdiv, bind, Except.bind, Decoder.bool]
  cases hd : divisorOverride with
  | none => rfl
  | some d =>
    have hn : Decoder.halfWord (.ofNat d) = .ok d :=
      Decoder.nat_ofNat (h.divisor _ d rfl hd)
    simp only [Option.map_some]
    rw [Json.ofNat] at hn ⊢
    rw [Decoder.optional, hn]
    · rfl
    · nofun

theorem parametersOfJson_toJson (h : op.IsWords) : parametersOfJson op.toJson = .ok op := by
  have hw := Json.isWhole_of_printable _ (@printable _ h 0)
  unfold parametersOfJson
  cases op with
  | max p =>
    have hk : (max p).kind ≠ "AvgPool2d" := by
      show "MaxPool2d" ≠ "AvgPool2d"
      decide
    rw [toJson, tagged_record hw (by simp [members, Geometry.members])]
    simp only [bind, Except.bind]
    rw [if_neg hk, if_pos (show (max p).kind = "MaxPool2d" from rfl), members, ofJson_max h]
    rfl
  | avg p =>
    rw [toJson, tagged_record hw]
    · simp only [bind, Except.bind]
      rw [if_pos (show (avg p).kind = "AvgPool2d" from rfl), members, ofJson_avg h]
      rfl
    · cases hd : p.divisorOverride <;> simp [members, AvgPool.members, Geometry.members, hd]

theorem ofJson_toJson (h : op.IsWords) (hc : op.check = .ok ()) : ofJson op.toJson = .ok op := by
  rw [ofJson, parametersOfJson_toJson h]
  simp only [bind, Except.bind, hc]
  rfl

end Operator

namespace OperatorSequence

theorem checkFrom_eq_ok {ops : List Operator} (h : ∀ op ∈ ops, op.check = .ok ()) (step : Nat) :
    checkFrom step ops = .ok () := by
  induction ops generalizing step with
  | nil => rfl
  | cons op rest ih =>
    rw [checkFrom, h op List.mem_cons_self]
    exact ih (fun o ho => h o (List.mem_cons_of_mem _ ho)) _

theorem ofList_operators (q : OperatorSequence) : ofList q.operators = .ok q := by
  unfold ofList
  rw [dif_neg q.nonempty]
  split
  · rfl
  · next cause h =>
    rw [checkFrom_eq_ok q.valid] at h
    cases h

theorem ofList_eq_ok {ops : List Operator} {q : OperatorSequence} :
    ofList ops = .ok q ↔ q.operators = ops := by
  constructor
  · intro h
    unfold ofList at h
    split at h
    · cases h
    · split at h
      · cases h
        rfl
      · cases h
  · rintro rfl
    exact ofList_operators q

theorem ofJson_toJson {q : OperatorSequence} (h : ∀ op ∈ q.operators, op.IsWords) :
    ofJson q.toJson = .ok q := by
  have hl : Decoder.list Operator.ofJson (.list (q.operators.map Operator.toJson)) =
      .ok q.operators :=
    Decoder.list_map fun op ho => Operator.ofJson_toJson (h op ho) (q.valid op ho)
  rw [ofJson, toJson, hl]
  simp only [bind, Except.bind, ofList_operators]
  rfl

theorem printable {q : OperatorSequence} (h : ∀ op ∈ q.operators, op.IsWords) {room : Nat} :
    q.toJson.Printable (room + 3) :=
  Json.printable_list fun op ho => Operator.printable (h op ho)

end OperatorSequence

/-! ## Graphs -/

namespace Graph

structure IsWords (g : Graph) : Prop where
  version : g.version < halfWordLimit
  inputShape : ∀ d ∈ g.inputShape, d < wordLimit
  operators : ∀ op ∈ g.operators.operators, op.IsWords

variable {g : Graph}

theorem ofJson_toJson (h : g.IsWords) : ofJson g.toJson = .ok g := by
  have hv : Decoder.halfWord (.ofNat g.version) = .ok g.version := Decoder.nat_ofNat h.version
  have hs := Decoder.shape_ofShape h.inputShape
  have hq := OperatorSequence.ofJson_toJson h.operators
  rw [ofJson, toJson, Json.record, Members.ofJson]
  simp [Members.fold, GraphDraft.set, hv, hs, hq, Decoder.string, GraphDraft.empty,
    GraphDraft.finish?, fieldNames, bind, Except.bind, pure, Except.pure]

theorem printable (h : g.IsWords) : g.toJson.Printable Json.maxOpen := by
  refine @Json.printable_record 126 _ ?_
  simp only [List.mem_cons, List.not_mem_nil, or_false]
  rintro m (rfl | rfl | rfl | rfl | rfl)
  · exact Json.printable_ofNat (Nat.lt_trans h.version (by decide))
  · trivial
  · exact Json.printable_ofShape h.inputShape
  · trivial
  · exact OperatorSequence.printable h.operators

theorem ofText_text (h : g.IsWords) : ofText g.text = .ok g :=
  Decoder.text_pretty (printable h) (ofJson_toJson h)

end Graph

/-! ## Modules -/

/-- A value whose text in an exchanged document is read as that value. -/
structure Binary32.Exchangeable (x : Binary32) : Prop where
  finite : x.isFinite = true
  plain : (x.literal .exchange).Plain
  value : (x.literal .exchange).value? = some x

namespace Binary32.Exchangeable

variable {x : Binary32}

theorem printable (h : Exchangeable x) {room : Nat} : (Json.ofFloat x).Printable room := by
  rw [Json.ofFloat, if_pos h.finite]
  exact ⟨h.plain, by rw [h.value]; rfl⟩

theorem float_ofFloat (h : Exchangeable x) : Decoder.float (.ofFloat x) = .ok x := by
  rw [Json.ofFloat, if_pos h.finite, Decoder.float, h.value]

end Binary32.Exchangeable

namespace Primitive

/-- The numbers of a primitive are words, and the values in it are exchangeable. -/
def Written : Primitive → Prop
  | pad top bottom left right _ =>
    top < wordLimit ∧ bottom < wordLimit ∧ left < wordLimit ∧ right < wordLimit
  | windowSum kernel stride | windowMax kernel stride => kernel.IsWords ∧ stride.IsWords
  | divideByMap height width divisors =>
    height < wordLimit ∧ width < wordLimit ∧ ∀ x ∈ divisors.toList, x.Exchangeable
  | divideByScalar divisor => divisor.Exchangeable

variable {p : Primitive}

theorem printable (h : p.Written) {room : Nat} : p.toJson.Printable (room + 2) := by
  cases p with
  | pad top bottom left right value =>
    obtain ⟨h1, h2, h3, h4⟩ := h
    refine Json.printable_record ?_
    simp only [List.mem_cons, List.not_mem_nil, or_false]
    rintro m (rfl | rfl | rfl | rfl | rfl | rfl)
    · trivial
    · exact Json.printable_ofNat h1
    · exact Json.printable_ofNat h2
    · exact Json.printable_ofNat h3
    · exact Json.printable_ofNat h4
    · trivial
  | windowSum kernel stride | windowMax kernel stride =>
    refine Json.printable_record ?_
    simp only [List.mem_cons, List.not_mem_nil, or_false]
    rintro m (rfl | rfl | rfl)
    · trivial
    · exact Pair.printable h.1
    · exact Pair.printable h.2
  | divideByMap height width divisors =>
    obtain ⟨h1, h2, h3⟩ := h
    refine Json.printable_record ?_
    simp only [List.mem_cons, List.not_mem_nil, or_false]
    rintro m (rfl | rfl | rfl | rfl)
    · trivial
    · exact Json.printable_ofNat h1
    · exact Json.printable_ofNat h2
    · exact Json.printable_list fun x hx => (h3 x hx).printable
  | divideByScalar divisor =>
    refine Json.printable_record ?_
    simp only [List.mem_cons, List.not_mem_nil, or_false]
    rintro m (rfl | rfl)
    · trivial
    · exact h.printable

theorem innerChoice_text (v : PadValue) :
    Decoder.innerChoice PadValue.ofText? (.string v.text) = .ok v := by
  cases v <;> rfl

theorem ofJson_toJson (h : p.Written) : ofJson p.toJson = .ok p := by
  have hw := Json.isWhole_of_printable _ (@printable _ h 0)
  unfold ofJson
  cases p with
  | pad top bottom left right value =>
    obtain ⟨h1, h2, h3, h4⟩ := h
    rw [toJson, Operator.tagged_record hw (by simp)]
    simp [bind, Except.bind, fields, Members.ofJson, Json.record, pure, Except.pure,
      Members.required, Members.find, Decoder.word_ofNat h1, Decoder.word_ofNat h2,
      Decoder.word_ofNat h3, Decoder.word_ofNat h4, innerChoice_text]
  | windowSum kernel stride | windowMax kernel stride =>
    rw [toJson, Operator.tagged_record hw (by simp)]
    simp [bind, Except.bind, fields, Members.ofJson, Json.record, pure, Except.pure,
      Members.required, Members.find, Pair.ofJson_toJson h.1, Pair.ofJson_toJson h.2]
  | divideByMap height width divisors =>
    obtain ⟨h1, h2, h3⟩ := h
    have hl : Decoder.list Decoder.float (.list (divisors.toList.map .ofFloat)) =
        .ok divisors.toList := Decoder.list_map fun x hx => (h3 x hx).float_ofFloat
    rw [toJson, Operator.tagged_record hw (by simp)]
    simp [bind, Except.bind, fields, Members.ofJson, Json.record, pure, Except.pure,
      Members.required, Members.find, Decoder.word_ofNat h1, Decoder.word_ofNat h2, hl]
  | divideByScalar divisor =>
    rw [toJson, Operator.tagged_record hw (by simp)]
    simp [bind, Except.bind, fields, Members.ofJson, Json.record, pure, Except.pure,
      Members.required, Members.find, h.float_ofFloat]

end Primitive

structure Stage.Written (s : Stage) : Prop where
  outputShape : ∀ d ∈ s.outputShape, d < wordLimit
  primitives : ∀ p ∈ s.primitives, p.Written

namespace Stage

variable {s : Stage}

theorem printable (h : s.Written) {room : Nat} : s.toJson.Printable (room + 4) := by
  refine Json.printable_record ?_
  simp only [List.mem_cons, List.not_mem_nil, or_false]
  rintro m (rfl | rfl | rfl)
  · trivial
  · exact Json.printable_ofShape h.outputShape
  · exact Json.printable_list fun p hp => Primitive.printable (h.primitives p hp)

theorem ofJson_toJson (h : s.Written) : ofJson s.toJson = .ok s := by
  have hp : Decoder.list Primitive.ofJson (.list (s.primitives.map Primitive.toJson)) =
      .ok s.primitives := Decoder.list_map fun p hp => Primitive.ofJson_toJson (h.primitives p hp)
  rw [ofJson, toJson]
  simp [bind, Except.bind, Primitive.fields, Members.ofJson, Json.record, pure, Except.pure,
    Members.required, Members.find, Decoder.string, Decoder.shape_ofShape h.outputShape, hp]

end Stage

namespace Module

/-- The numbers of a module fit their machine types, and its stages can be written. -/
structure Written (m : Module) : Prop where
  version : m.version < halfWordLimit
  inputShape : ∀ d ∈ m.inputShape, d < wordLimit
  outputShape : ∀ d ∈ m.outputShape, d < wordLimit
  stages : ∀ s ∈ m.stages, s.Written

variable {m : Module}

theorem printable (h : m.Written) : m.toJson.Printable Json.maxOpen := by
  refine @Json.printable_record 126 _ ?_
  simp only [List.mem_cons, List.not_mem_nil, or_false]
  rintro x (rfl | rfl | rfl | rfl | rfl | rfl)
  · exact Json.printable_ofNat (Nat.lt_trans h.version (by decide))
  · trivial
  · exact Json.printable_ofShape h.inputShape
  · exact Json.printable_ofShape h.outputShape
  · trivial
  · exact Json.printable_list fun s hs => Stage.printable (h.stages s hs)

theorem ofJson_toJson (h : m.Written) : ofJson m.toJson = .ok m := by
  have hv : Decoder.halfWord (.ofNat m.version) = .ok m.version := Decoder.nat_ofNat h.version
  have hs : Decoder.list Stage.ofJson (.list (m.stages.map Stage.toJson)) = .ok m.stages :=
    Decoder.list_map fun s hs => Stage.ofJson_toJson (h.stages s hs)
  rw [ofJson, toJson]
  simp [bind, Except.bind, Primitive.fields, Members.ofJson, Json.record, pure, Except.pure,
    Members.required, Members.find, Decoder.string, hv, hs,
    Decoder.shape_ofShape h.inputShape, Decoder.shape_ofShape h.outputShape]

theorem ofText_text (h : m.Written) : ofText m.text = .ok m :=
  Decoder.text_pretty (printable h) (ofJson_toJson h)

end Module

end PoolCheck
