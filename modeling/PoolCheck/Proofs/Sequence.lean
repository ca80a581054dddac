import PoolCheck.Exchange.Config
import PoolCheck.Proofs.Acceptance
import PoolCheck.Proofs.Exchange
import PoolCheck.Proofs.Shape

/-!
# Sequences that can be made

A sequence comes from a list of operators, from the text of a graph, or from the text of a
configuration. Whichever way it comes, its operators are the ones that were given or written, there
is at least one, and a plane can be pooled with the parameters of each. So neither the trusted
pooling nor the lowering ever finds a fault in the parameters of an operator of a sequence.
-/

set_option autoImplicit false

namespace PoolCheck

/-! ## Faults in parameters -/

/-- The faults in parameters that no plane is needed to find. -/
def ConfigFault.isOfParameters : ConfigFault → Bool
  | kernelNotPositive .. | strideNotPositive .. | paddingTooLarge .. | divisorNotPositive => true
  | _ => false

theorem Axis.check_error {op : String} {along : Dimension} {a : Axis} {cause : ConfigFault}
    (h : a.check op along = .error cause) : cause.isOfParameters = true := by
  unfold check at h
  split_ifs at h
  all_goals
    cases h
    rfl

theorem Geometry.check_error {op : String} {g : Geometry} {cause : ConfigFault}
    (h : g.check op = .error cause) : cause.isOfParameters = true := by
  rcases Except.bind_eq_error.1 h with h | ⟨-, -, h⟩
  · exact Axis.check_error h
  · exact Axis.check_error h

namespace Operator

variable {op : Operator} {cause : ConfigFault}

theorem check_error (h : op.check = .error cause) : cause.isOfParameters = true := by
  cases op with
  | max p => exact Geometry.check_error h
  | avg p =>
    rcases Except.bind_eq_error.1 h with h | ⟨-, -, h⟩
    · exact Geometry.check_error h
    · split_ifs at h
      cases h
      rfl

/-! ## Operators that are checked again -/

theorem forOperator_error_isOfParameters {kind : String} {s : Shape}
    (h : MapShape.forOperator kind s = .error cause) : cause.isOfParameters = false := by
  unfold MapShape.forOperator at h
  split at h
  · split_ifs at h
    cases h
    rfl
  · cases h
    rfl

theorem extent_error_isOfParameters {a : Axis} {ceilMode : Bool} {input : Nat}
    (h : a.extent ceilMode input = .error cause) : cause.isOfParameters = false := by
  unfold Axis.extent at h
  split_ifs at h
  all_goals
    cases h
    rfl

theorem output_error_isOfParameters {g : Geometry} {s : MapShape}
    (h : g.output s = .error cause) : cause.isOfParameters = false := by
  rcases Except.bind_eq_error.1 h with h | ⟨_, -, h⟩
  · exact extent_error_isOfParameters h
  rcases Except.bind_eq_error.1 h with h | ⟨_, -, h⟩
  · exact extent_error_isOfParameters h
  · cases h

theorem configuration_bind_error {α β : Type} {x : Except ConfigFault α}
    {f : α → Except Fault β} : x.mapError .configuration >>= f = .error (.configuration cause) ↔
      x = .error cause ∨ ∃ y, x = .ok y ∧ f y = .error (.configuration cause) := by
  rw [Except.bind_eq_error, mapError_eq_error]
  simp only [mapError_eq_ok, Fault.configuration.injEq, exists_eq_right]

theorem forward_error_of_parameters {x : Tensor} :
    (op.forward x = .error (.configuration cause) ∧ cause.isOfParameters = true) ↔
      op.check = .error cause := by
  constructor
  · rintro ⟨h, hp⟩
    rcases configuration_bind_error.1 h with h | ⟨-, -, h⟩
    · exact h
    rcases configuration_bind_error.1 h with h | ⟨plane, -, h⟩
    · rw [forOperator_error_isOfParameters h] at hp
      cases hp
    rcases configuration_bind_error.1 h with h | ⟨out, -, h⟩
    · rw [output_error_isOfParameters h] at hp
      cases hp
    -- From here on the faults are those of memory, and of a rank that was looked at before.
    split_ifs at h
    · cases h
    · cases h
    · cases h
    · dsimp only at h
      split at h
      · cases h
      · cases h
        cases hp
  · intro h
    refine ⟨?_, check_error h⟩
    rw [forward, h]
    rfl

theorem lower_error_of_parameters {s : Shape} :
    (op.lower s = .error cause ∧ cause.isOfParameters = true) ↔ op.check = .error cause := by
  constructor
  · rintro ⟨h, hp⟩
    rcases Except.bind_eq_error.1 h with h | ⟨-, -, h⟩
    · exact h
    rcases Except.bind_eq_error.1 h with h | ⟨plane, -, h⟩
    · rw [forOperator_error_isOfParameters h] at hp
      cases hp
    rcases Except.bind_eq_error.1 h with h | ⟨out, -, h⟩
    · rw [output_error_isOfParameters h] at hp
      cases hp
    split_ifs at h
    · cases h
      cases hp
    · cases h
  · intro h
    refine ⟨?_, check_error h⟩
    rw [lower, h]
    rfl

end Operator

/-! ## Lists of operators -/

namespace OperatorSequence

variable {ops : List Operator} {fault : ConfigFault}

theorem checkFrom_eq_error {step : Nat} : checkFrom step ops = .error fault ↔
    ∃ before op after cause, ops = before ++ op :: after ∧ (∀ o ∈ before, o.Sound) ∧
      op.check = .error cause ∧ fault = .atStep (step + before.length) op cause := by
  induction ops generalizing step with
  | nil => simp [checkFrom]
  | cons first rest ih =>
    rw [checkFrom]
    cases hf : first.check with
    | error cause =>
      simp only [Except.error.injEq]
      constructor
      · rintro rfl
        exact ⟨[], first, rest, cause, rfl, by simp, hf, rfl⟩
      · rintro ⟨before, op, after, cause', he, hb, hc, rfl⟩
        cases before with
        | nil =>
          cases he
          rw [hf] at hc
          cases hc
          rfl
        | cons o before =>
          cases he
          have ho := Operator.check_eq_ok.2 (hb first List.mem_cons_self)
          rw [hf] at ho
          cases ho
    | ok u =>
      simp only [ih]
      constructor
      · rintro ⟨before, op, after, cause, rfl, hb, hc, rfl⟩
        refine ⟨first :: before, op, after, cause, rfl, ?_, hc, ?_⟩
        · exact List.forall_mem_cons.2 ⟨Operator.check_eq_ok.1 hf, hb⟩
        · rw [List.length_cons, Nat.add_assoc, Nat.add_comm 1]
      · rintro ⟨before, op, after, cause, he, hb, hc, rfl⟩
        cases before with
        | nil =>
          cases he
          rw [hf] at hc
          cases hc
        | cons o before =>
          cases he
          refine ⟨before, op, after, cause, rfl, (List.forall_mem_cons.1 hb).2, hc, ?_⟩
          rw [List.length_cons, Nat.add_assoc, Nat.add_comm 1]

theorem ofList_eq_error : ofList ops = .error fault ↔ ops = [] ∧ fault = .emptySequence ∨
    ∃ before op after cause, ops = before ++ op :: after ∧ (∀ o ∈ before, o.Sound) ∧
      op.check = .error cause ∧ fault = .atStep before.length op cause := by
  have hcheck := @checkFrom_eq_error ops fault 0
  simp only [Nat.zero_add] at hcheck
  rw [← hcheck, ofList]
  split_ifs with hne
  · subst hne
    simp [checkFrom, eq_comm]
  · split
    · next h => simp [hne, h]
    · next h => simp [hne, h]

theorem sound (q : OperatorSequence) : q.operators ≠ [] ∧ ∀ op ∈ q.operators, op.Sound :=
  ⟨q.nonempty, fun op ho => Operator.check_eq_ok.1 (q.valid op ho)⟩

theorem exists_ofList : (∃ q, ofList ops = .ok q) ↔ ops ≠ [] ∧ ∀ op ∈ ops, op.Sound := by
  simp only [ofList_eq_ok]
  constructor
  · rintro ⟨q, rfl⟩
    exact q.sound
  · rintro ⟨hne, hs⟩
    exact ⟨⟨ops, hne, fun op ho => Operator.check_eq_ok.2 (hs op ho)⟩, rfl⟩

end OperatorSequence

/-! ## Written sequences -/

theorem Operator.ofJson_eq_ok {v : Json} {op : Operator} :
    ofJson v = .ok op ↔ parametersOfJson v = .ok op ∧ op.Sound := by
  rw [ofJson, Except.bind_eq_ok]
  constructor
  · rintro ⟨read, hp, h⟩
    obtain ⟨hc, h⟩ := Except.check_bind_eq_ok.1 h
    cases h
    exact ⟨hp, check_eq_ok.1 (mapError_eq_ok.1 hc)⟩
  · rintro ⟨hp, hs⟩
    refine ⟨op, hp, Except.check_bind_eq_ok.2 ⟨mapError_eq_ok.2 (check_eq_ok.2 hs), rfl⟩⟩

theorem items_ofJson {vs : List Json} {ops : List Operator} :
    Decoder.items Operator.ofJson vs = .ok ops ↔
      Decoder.items Operator.parametersOfJson vs = .ok ops ∧ ∀ op ∈ ops, op.Sound := by
  induction vs generalizing ops with
  | nil =>
    simp only [Decoder.items, Except.ok.injEq]
    exact ⟨fun h => ⟨h, by simp [← h]⟩, fun h => h.1⟩
  | cons v rest ih =>
    simp only [Decoder.items, Except.bind_eq_ok, Except.pure_eq_ok, Operator.ofJson_eq_ok, ih]
    constructor
    · rintro ⟨op, ⟨hp, hs⟩, others, ⟨ho, hall⟩, rfl⟩
      exact ⟨⟨op, hp, others, ho, rfl⟩, List.forall_mem_cons.2 ⟨hs, hall⟩⟩
    · rintro ⟨⟨op, hp, others, ho, rfl⟩, hall⟩
      obtain ⟨hs, hall⟩ := List.forall_mem_cons.1 hall
      exact ⟨op, ⟨hp, hs⟩, others, ⟨ho, hall⟩, rfl⟩

theorem list_ofJson {v : Json} {ops : List Operator} : Decoder.list Operator.ofJson v = .ok ops ↔
    Decoder.list Operator.parametersOfJson v = .ok ops ∧ ∀ op ∈ ops, op.Sound := by
  cases v with
  | array vs closed =>
    cases closed with
    | true =>
      simp only [Decoder.list, if_true, Except.bind_eq_ok, Except.pure_eq_ok, exists_eq_right,
        items_ofJson]
    | false => simp [Decoder.list, Except.bind_eq_ok]
  | _ => simp [Decoder.list]

theorem OperatorSequence.ofJson_eq_ok {v : Json} {q : OperatorSequence} :
    ofJson v = .ok q ↔ Decoder.list Operator.parametersOfJson v = .ok q.operators := by
  rw [ofJson, Except.bind_eq_ok]
  simp only [mapError_eq_ok, ofList_eq_ok, exists_eq_right', list_ofJson, and_iff_left_iff_imp]
  intro _ op ho
  exact Operator.check_eq_ok.1 (q.valid op ho)

/-! ## Members of a text -/

/-- What a fold over members reads into one part of its state was written as the member of one name,
if only that member changes this part. -/
theorem Members.fold_part {σ β : Type} {names : List String}
    {set : σ → String → Json → Except ReadFault σ} {part : σ → β} {field : String} {d : Decoder β}
    (hset : ∀ s name v s', set s name v = .ok s' →
      part s' = part s ∨ name = field ∧ d v = .ok (part s'))
    {seen : List String} {s s' : σ} {ms : List (String × Json)}
    (h : fold names set seen s ms = .ok s') :
    part s' = part s ∨ ∃ v, (field, v) ∈ ms ∧ d v = .ok (part s') := by
  induction ms generalizing seen s with
  | nil =>
    cases h
    exact .inl rfl
  | cons m rest ih =>
    obtain ⟨name, v⟩ := m
    rw [fold] at h
    split_ifs at h
    obtain ⟨mid, hm, h⟩ := Except.bind_eq_ok.1 h
    rcases ih h with he | ⟨w, hw, hd⟩
    · rcases hset s name v mid hm with he' | ⟨rfl, hd⟩
      · exact .inl (he.trans he')
      · exact .inr ⟨v, List.mem_cons_self, he ▸ hd⟩
    · exact .inr ⟨w, List.mem_cons_of_mem _ hw, hd⟩

/-- The value of a record's member. A record may also be an array of the values of its fields. -/
def Json.HasMember (document : Json) (names : List String) (name : String) (v : Json) : Prop :=
  match document with
  | .object members _ => (name, v) ∈ members
  | .array items _ => (name, v) ∈ names.zip items
  | _ => False

theorem Members.hasMember {names : List String} {required : Nat} {document v : Json} {m : Members}
    {name : String} (h : ofJson names required document = .ok m) (hv : (name, v) ∈ m.named) :
    document.HasMember names name v := by
  unfold ofJson at h
  split at h
  · cases h
    exact hv
  · cases h
    exact hv
  · cases h

theorem Decoder.text_eq_ok {α : Type} {d : Decoder α} {s : String} {x : α} :
    Decoder.text d s = .ok x ↔ ∃ v, Json.read s = ⟨some v, true⟩ ∧ d v = .ok x := by
  unfold Decoder.text
  split
  case h_1 v whole hr =>
    rw [hr, Except.bind_eq_ok]
    cases whole <;> simp [Except.pure_eq_ok]
  case h_2 hr => simp [hr]

theorem Decoder.of_optional {α : Type} {d : Decoder α} {v : Json} {x : α}
    (h : Decoder.optional d v = .ok (some x)) : d v = .ok x := by
  unfold Decoder.optional at h
  split at h
  · cases h
  · cases hd : d v with
    | error e =>
      rw [hd] at h
      cases h
    | ok y =>
      rw [hd] at h
      cases h
      rfl

theorem Decoder.kept {α σ β : Type} {d : Decoder α} {v : Json} {make : α → σ} {part : σ → β} {b : β}
    {s : σ} {p : Prop} [Decidable p] {others : Except ReadFault σ} (hk : ∀ x, part (make x) = b)
    (ho : others = .ok s → part s = b)
    (h : (if p then (do pure (make (← d v))) else others) = Except.ok s) : part s = b := by
  split_ifs at h
  · obtain ⟨x, -, hx⟩ := Except.bind_eq_ok.1 h
    cases hx
    exact hk x
  · exact ho h

theorem GraphDraft.set_operators (d : GraphDraft) (name : String) (v : Json) (d' : GraphDraft)
    (h : d.set name v = .ok d') : d'.operators = d.operators ∨
      name = "operators" ∧ (OperatorSequence.ofJson v).map some = .ok d'.operators := by
  by_cases hn : name = "operators"
  · subst hn
    obtain ⟨q, hq, hd⟩ := Except.bind_eq_ok.1 h
    cases hd
    exact .inr ⟨rfl, by rw [hq]; rfl⟩
  · left
    revert h
    unfold set
    iterate 4 refine Decoder.kept (fun _ => rfl) ?_
    rw [if_neg hn]
    intro h
    cases h
    rfl

theorem Config.set_sequence (c : Config) (name : String) (v : Json) (c' : Config)
    (h : c.set name v = .ok c') : c'.sequence = c.sequence ∨
      name = "sequence" ∧ Decoder.optional OperatorSequence.ofJson v = .ok c'.sequence := by
  by_cases hn : name = "sequence"
  · subst hn
    obtain ⟨q, hq, hc⟩ := Except.bind_eq_ok.1 h
    cases hc
    exact .inr ⟨rfl, hq⟩
  · left
    revert h
    unfold set
    iterate 2 refine Decoder.kept (fun _ => rfl) ?_
    rw [if_neg hn]
    iterate 8 refine Decoder.kept (fun _ => rfl) ?_
    nofun

theorem GraphDraft.operators_of_finish {d : GraphDraft} {g : Graph} (h : d.finish? = some g) :
    d.operators = some g.operators := by
  simp only [finish?, Option.bind_eq_bind, Option.bind_eq_some_iff, Option.some.injEq] at h
  obtain ⟨_, -, _, -, _, -, _, -, q, hq, rfl⟩ := h
  exact hq

theorem Graph.operators_of_ofJson {document : Json} {g : Graph} (h : ofJson document = .ok g) :
    ∃ v, document.HasMember fieldNames "operators" v ∧
      Decoder.list Operator.parametersOfJson v = .ok g.operators.operators := by
  obtain ⟨m, hm, h⟩ := Except.bind_eq_ok.1 h
  obtain ⟨d, hd, h⟩ := Except.bind_eq_ok.1 h
  split at h
  case h_2 => cases h
  case h_1 hf _ =>
    cases h
    have hg := GraphDraft.operators_of_finish hf
    rcases Members.fold_part GraphDraft.set_operators hd with hk | ⟨v, hv, hr⟩
    · rw [hg] at hk
      cases hk
    · rw [hg] at hr
      cases hq : OperatorSequence.ofJson v with
      | error e =>
        rw [hq] at hr
        cases hr
      | ok q =>
        rw [hq] at hr
        cases hr
        exact ⟨v, Members.hasMember hm hv, OperatorSequence.ofJson_eq_ok.1 hq⟩

theorem Config.ofText_eq_ok {text : String} {c : Config} :
    ofText text = .ok c ↔ Decoder.text ofJson text = .ok c := by
  unfold ofText
  split
  case h_1 h => rw [h, Except.ok.injEq, Except.ok.injEq]
  case h_2 h => simp [h]
  case h_3 h => simp [h]

theorem Config.sequence_of_ofJson {document : Json} {c : Config} {q : OperatorSequence}
    (h : ofJson document = .ok c) (hq : c.sequence = some q) :
    ∃ v, document.HasMember fieldNames "sequence" v ∧
      Decoder.list Operator.parametersOfJson v = .ok q.operators := by
  obtain ⟨m, hm, h⟩ := Except.bind_eq_ok.1 h
  obtain ⟨c', hc, h⟩ := Except.bind_eq_ok.1 h
  split_ifs at h
  cases h
  rcases Members.fold_part Config.set_sequence hc with hk | ⟨v, hv, hr⟩
  · rw [hq] at hk
    cases hk
  · rw [hq] at hr
    exact ⟨v, Members.hasMember hm hv,
      OperatorSequence.ofJson_eq_ok.1 (Decoder.of_optional hr)⟩

/-- A list is accepted exactly when it is not empty and all parameters in it are sound, and the
fault of any other list names its first operator that is not. The operators of a graph and of a
configuration that are read from texts are those that are written there, and they are such a list.
What the trusted pooling and the lowering refuse of them is never refused for its parameters. -/
theorem sequences_sound :
    (∀ ops, (∃ q, OperatorSequence.ofList ops = .ok q ∧ q.operators = ops) ↔
      ops ≠ [] ∧ ∀ op ∈ ops, op.Sound) ∧
    (∀ ops fault, OperatorSequence.ofList ops = .error fault ↔
      ops = [] ∧ fault = .emptySequence ∨
        ∃ before op after cause, ops = before ++ op :: after ∧ (∀ o ∈ before, o.Sound) ∧
          ¬op.Sound ∧ op.check = .error cause ∧ fault = .atStep before.length op cause) ∧
    (∀ text g, Graph.ofText text = .ok g → ∃ document v,
      (Json.read text).value = some document ∧
      document.HasMember Graph.fieldNames "operators" v ∧
      Decoder.list Operator.parametersOfJson v = .ok g.operators.operators ∧
      g.operators.operators ≠ [] ∧ ∀ op ∈ g.operators.operators, op.Sound) ∧
    (∀ text c q, Config.ofText text = .ok c → c.sequence = some q → ∃ document v,
      (Json.read text).value = some document ∧
      document.HasMember Config.fieldNames "sequence" v ∧
      Decoder.list Operator.parametersOfJson v = .ok q.operators ∧
      q.operators ≠ [] ∧ ∀ op ∈ q.operators, op.Sound) ∧
    (∀ (q : OperatorSequence), ∀ op ∈ q.operators,
      (∀ x cause, op.forward x = .error (.configuration cause) → cause.isOfParameters = false) ∧
      ∀ s cause, op.lower s = .error cause → cause.isOfParameters = false) := by
  refine ⟨fun ops => ?_, fun ops fault => ?_, fun text g h => ?_, fun text c q h hq => ?_,
    fun q op ho => ⟨fun x cause h => ?_, fun s cause h => ?_⟩⟩
  · rw [← OperatorSequence.exists_ofList]
    exact exists_congr fun q => and_iff_left_of_imp OperatorSequence.ofList_eq_ok.1
  · rw [OperatorSequence.ofList_eq_error]
    refine or_congr_right (exists_congr fun before => exists_congr fun op =>
      exists_congr fun after => exists_congr fun cause => and_congr_right fun _ =>
        and_congr_right fun _ => ?_)
    refine ⟨fun h => ⟨fun hs => ?_, h⟩, fun h => h.2⟩
    rw [Operator.check_eq_ok.2 hs] at h
    cases h.1
  · obtain ⟨document, hd, hg⟩ := Decoder.text_eq_ok.1 h
    obtain ⟨v, hm, hv⟩ := Graph.operators_of_ofJson hg
    exact ⟨document, v, by rw [hd], hm, hv, g.operators.sound⟩
  · obtain ⟨document, hd, hc⟩ := Decoder.text_eq_ok.1 (Config.ofText_eq_ok.1 h)
    obtain ⟨v, hm, hv⟩ := Config.sequence_of_ofJson hc hq
    exact ⟨document, v, by rw [hd], hm, hv, q.sound⟩
  · by_contra hp
    have hc := Operator.forward_error_of_parameters.1 ⟨h, Bool.not_eq_false _ ▸ hp⟩
    rw [q.valid op ho] at hc
    cases hc
  · by_contra hp
    have hc := Operator.lower_error_of_parameters.1 ⟨h, Bool.not_eq_false _ ▸ hp⟩
    rw [q.valid op ho] at hc
    cases hc

def sequenceText : String :=
  "\x7b\"sequence\": [\x7b\"type\": \"AvgPool2d\", \"kernel_size\": [3, 2], \"stride\": 2, " ++
    "\"padding\": [1, 0], \"ceil_mode\": true, \"count_include_pad\": false\x7d, " ++
    "[\"MaxPool2d\", 2, null]]\x7d"

theorem sequenceText_read : Config.ofText sequenceText =
    .ok { Config.standard with sequence := some sampleSequence } :=
  toOption_eq_some.1 (by decide +kernel)

def undivided : Operator := .avg ⟨.ofKernel (.square 2), true, some 0⟩

theorem sequences_sound_sample :
    (∃ q, OperatorSequence.ofList sampleSequence.operators = .ok q ∧
      q.operators = sampleSequence.operators) ∧
    OperatorSequence.ofList (sampleSequence.operators ++ [undivided, undivided]) =
      .error (.atStep 2 undivided .divisorNotPositive) ∧
    ∃ document v, (Json.read sequenceText).value = some document ∧
      document.HasMember Config.fieldNames "sequence" v ∧
      Decoder.list Operator.parametersOfJson v = .ok sampleSequence.operators ∧
      sampleSequence.operators ≠ [] ∧ ∀ op ∈ sampleSequence.operators, op.Sound := by
  have hsound := sampleSequence.sound
  obtain ⟨haccept, hrefuse, -, hconfig, -⟩ := sequences_sound
  refine ⟨(haccept _).2 hsound, (hrefuse _ _).2 (.inr ?_), hconfig _ _ _ sequenceText_read rfl⟩
  refine ⟨sampleSequence.operators, undivided, [undivided], .divisorNotPositive, rfl, hsound.2, ?_,
    rfl, rfl⟩
  intro h
  exact absurd (Operator.check_eq_ok.2 h) (by decide)

end PoolCheck
