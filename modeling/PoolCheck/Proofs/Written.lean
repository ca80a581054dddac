import PoolCheck.Proofs.Acceptance
import PoolCheck.Proofs.Binary32.Count
import PoolCheck.Proofs.Lowering
import PoolCheck.Proofs.Tensor.Size

/-!
# Lowered modules can be written

Lowering refuses what does not fit a word, so all that it puts into a module fits the words of its
text form. The only values that are not words are divisors. Each of them is a count, and so its text
is read as that value.
-/

set_option autoImplicit false

namespace PoolCheck

theorem word_lt (x : Int) : word x < wordLimit := by
  have hpos : (0 : Int) < wordLimit := by decide
  have hlt := Int.emod_lt_of_pos x hpos
  have hnn := Int.emod_nonneg x hpos.ne'
  unfold word
  omega

theorem Axis.extent_lt {a : Axis} {ceilMode : Bool} {input n : Nat}
    (h : a.extent ceilMode input = .ok n) : n < wordLimit := by
  unfold extent at h
  split_ifs at h
  cases h
  exact word_lt _

theorem Axis.trailing_lt {a : Axis} {input out : Nat} (h : a.trailingFits input out = true) :
    a.trailing input out < wordLimit := by
  simp only [trailingFits, Bool.and_eq_true, decide_eq_true_eq] at h
  unfold trailing
  omega

theorem Axis.NoWrap.words {a : Axis} {ceilMode : Bool} {input : Nat}
    (hn : a.NoWrap ceilMode input) (h : a.Sound) :
    a.kernel < wordLimit ∧ a.stride < wordLimit ∧ a.padding < wordLimit := by
  have hpad := h.padding_le
  have hkernel := hn.kernel_lt
  have hstride := hn.stride_lt
  have hw : signLimit + signLimit = wordLimit := rfl
  omega

namespace Geometry

variable {g : Geometry} {s out : MapShape}

theorem output_words (h : g.output s = .ok out) (hs : ∀ d ∈ s.toShape, d < wordLimit) :
    ∀ d ∈ out.toShape, d < wordLimit := by
  obtain ⟨n, m, hn, hm, rfl⟩ := output_eq_ok.1 h
  simp only [MapShape.toShape, MapShape.resize, List.forall_mem_cons] at hs ⊢
  exact ⟨hs.1, hs.2.1, Axis.extent_lt hn, Axis.extent_lt hm, hs.2.2.2.2⟩

end Geometry

namespace Operator

structure Sized (op : Operator) : Prop where
  kernel : op.geometry.kernel.IsWords
  stride : op.geometry.stride.IsWords
  padding : op.geometry.padding.IsWords
  divisor : ∀ p d, op = .avg p → p.divisorOverride = some d → d < wordLimit

variable {op : Operator} {s out : MapShape}

theorem IsWords.sized (h : op.IsWords) : op.Sized := by
  constructor
  · exact h.kernel
  · exact h.stride
  · exact h.padding
  · intro p d hp hd
    exact (h.divisor p d hp hd).trans (by decide)

theorem divisorTable_exchangeable {p : AvgPool} (h : (avg p).tableFits s out = true)
    (ho : p.divisorOverride = none) : ∀ x ∈ (p.divisorTable s out).toList, x.Exchangeable := by
  intro x hx
  simp only [tableFits, ho, Option.isSome_none, Bool.false_or, Bool.and_eq_true] at h
  have hx' : x ∈ (List.range out.height).flatMap fun i => (List.range out.width).map fun j =>
      Binary32.ofCount (p.divisor (p.geometry.rows.window s.height i)
        (p.geometry.cols.window s.width j)) := hx
  obtain ⟨i, hi, hx'⟩ := List.mem_flatMap.1 hx'
  obtain ⟨j, hj, rfl⟩ := List.mem_map.1 hx'
  apply Binary32.exchangeable_ofCount
  exact AvgPool.divisor_lt h.2 ho (List.mem_map_of_mem hi) (List.mem_map_of_mem hj)

theorem primitives_written (hw : op.Sized) (hp : paddingFits op.geometry s out = true)
    (ht : op.tableFits s out = true) (hout : ∀ d ∈ out.toShape, d < wordLimit) :
    ∀ p ∈ op.primitives s out, p.Written := by
  have hborder : ∀ v, (padding op.geometry s out v).Written := by
    intro v
    obtain ⟨hr, hc⟩ := Bool.and_eq_true_iff.1 hp
    exact ⟨hw.padding.1, Axis.trailing_lt hr, hw.padding.2, Axis.trailing_lt hc⟩
  cases op with
  | max q =>
    simp only [primitives, List.forall_mem_cons]
    exact ⟨hborder _, ⟨hw.kernel, hw.stride⟩, by simp⟩
  | avg q =>
    simp only [primitives, List.forall_mem_cons]
    refine ⟨hborder _, ⟨hw.kernel, hw.stride⟩, ?_, by simp⟩
    cases ho : q.divisorOverride with
    | some d => exact Binary32.exchangeable_ofCount (hw.divisor q d rfl ho)
    | none =>
      simp only [MapShape.toShape, List.forall_mem_cons] at hout
      exact ⟨hout.2.2.1, hout.2.2.2.1, divisorTable_exchangeable ht ho⟩

theorem stage_written {shape : Shape} {stage : Stage} (hw : op.Sized)
    (hs : ∀ d ∈ shape, d < wordLimit) (h : op.stage shape = .ok stage) : stage.Written := by
  unfold Operator.stage at h
  simp only [Except.bind_eq_ok, Except.pure_eq_ok] at h
  obtain ⟨ps, hl, shape', ho, rfl⟩ := h
  obtain ⟨-, s, out, hplane, hout, hp, ht, rfl⟩ := lower_eq_ok.1 hl
  obtain ⟨rfl, -, -⟩ := MapShape.forOperator_eq_ok.1 hplane
  have hwords := Geometry.output_words hout hs
  rw [outputShape, hplane] at ho
  simp only [bind, Except.bind, hout, Except.pure_eq_ok] at ho
  subst ho
  exact ⟨hwords, primitives_written hw hp ht hwords⟩

theorem stages_written {shape last : Shape} {ops : List Operator} {lowered : List Stage}
    (hw : ∀ op ∈ ops, op.Sized) (hs : ∀ d ∈ shape, d < wordLimit)
    (h : stages shape ops = .ok (lowered, last)) :
    (∀ stage ∈ lowered, stage.Written) ∧ ∀ d ∈ last, d < wordLimit := by
  induction ops generalizing shape lowered last with
  | nil =>
    cases h
    exact ⟨by simp, hs⟩
  | cons op rest ih =>
    rw [List.forall_mem_cons] at hw
    rw [stages] at h
    simp only [Except.bind_eq_ok, Except.pure_eq_ok, Prod.mk.injEq] at h
    obtain ⟨first, hfirst, ⟨others, end'⟩, hothers, rfl, rfl⟩ := h
    have hstage := stage_written hw.1 hs hfirst
    obtain ⟨hrest, hlast⟩ := ih hw.2 hstage.outputShape hothers
    exact ⟨List.forall_mem_cons.2 ⟨hstage, hrest⟩, hlast⟩

namespace Turns

theorem pairs (h : op.Turns s out) : op.geometry.kernel.IsWords ∧ op.geometry.stride.IsWords ∧
    op.geometry.padding.IsWords := by
  obtain ⟨k1, s1, p1⟩ := h.noWrap.rows.words h.rows
  obtain ⟨k2, s2, p2⟩ := h.noWrap.cols.words h.cols
  exact ⟨⟨k1, k2⟩, ⟨s1, s2⟩, ⟨p1, p2⟩⟩

theorem isWords (h : op.Turns s out)
    (hd : ∀ p d, op = .avg p → p.divisorOverride = some d → d < halfWordLimit) : op.IsWords := by
  obtain ⟨hk, hs, hp⟩ := h.pairs
  exact ⟨hk, hs, hp, hd⟩

theorem sized (h : op.Turns s out) : op.Sized := by
  obtain ⟨hk, hs, hp⟩ := h.pairs
  refine ⟨hk, hs, hp, ?_⟩
  rintro p d rfl hd
  have hlt := h.held.divisor p rfl 0 h.out_height_pos 0 h.out_width_pos
  rwa [AvgPool.divisor, hd] at hlt

end Turns

namespace Chain

variable {shape : Shape} {ops : List Operator} {shapes : List Shape}

theorem turns (h : Chain shape ops shapes) {op : Operator} (ho : op ∈ ops) :
    ∃ s out, op.Turns s out := by
  induction h with
  | nil s => cases ho
  | cons turns _ ih =>
    rcases List.mem_cons.1 ho with rfl | ho
    · exact ⟨_, _, turns⟩
    · exact ih ho

theorem isWords (h : Chain shape ops shapes) (hd : ∀ p d, Operator.avg p ∈ ops →
    p.divisorOverride = some d → d < halfWordLimit) {op : Operator} (ho : op ∈ ops) :
    op.IsWords := by
  obtain ⟨s, out, turns⟩ := h.turns ho
  exact turns.isWords fun p d he => hd p d (he ▸ ho)

theorem sized (h : Chain shape ops shapes) {op : Operator} (ho : op ∈ ops) : op.Sized := by
  obtain ⟨s, out, turns⟩ := h.turns ho
  exact turns.sized

end Chain

end Operator

theorem Graph.lower_written {g : Graph} {declared : Shape} {paramFile : String} {m : Module}
    (hg : g.IsWords) (h : g.lower declared paramFile = .ok m) : m.Written := by
  unfold Graph.lower at h
  split_ifs at h with hv hs
  rw [ne_eq, not_not] at hs
  subst hs
  simp only [Except.bind_eq_ok, mapError_eq_ok, Except.pure_eq_ok] at h
  obtain ⟨⟨lowered, last⟩, hl, rfl⟩ := h
  obtain ⟨hstages, hlast⟩ :=
    Operator.stages_written (fun op ho => (hg.operators op ho).sized) hg.inputShape hl
  exact ⟨show formatVersion < halfWordLimit by decide, hg.inputShape, hlast, hstages⟩

theorem sampleGraph_chain : Operator.Chain [1, 2, 5, 4] sampleGraph.operators.operators
    [[1, 2, 3, 2], [1, 2, 1, 1]] :=
  OperatorSequence.chain_of_shapes sampleSequence_noWrap sampleSequence_shapes

theorem sampleGraph_isWords : sampleGraph.IsWords := by
  constructor
  · decide
  · decide
  · intro op ho
    apply sampleGraph_chain.isWords _ ho
    intro p d hp hd
    simp only [sampleGraph, sampleSequence, List.mem_cons, Operator.avg.injEq, reduceCtorEq,
      List.not_mem_nil, or_false] at hp
    subst hp
    cases hd

theorem exists_sample_lowered (paramFile : String) :
    ∃ m, sampleGraph.lower [1, 2, 5, 4] paramFile = .ok m := by
  obtain ⟨lowered, hl, -⟩ := sampleGraph_chain.stages
  have hm := @Graph.lower_eq sampleGraph [1, 2, 5, 4] rfl rfl paramFile
  rw [hl] at hm
  exact ⟨_, hm⟩

end PoolCheck
