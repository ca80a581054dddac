import PoolCheck.Proofs.Written

/-!
# Documents that are read back

The two documents that a run leaves are read as what was written: the graph that is exported, and
the module that lowering makes of it. The texts of both may hold any characters, and the numbers
all that their machine types hold.
-/

set_option autoImplicit false

namespace PoolCheck

/-- A graph of operators that were accepted is read back from its text. -/
theorem graph_read_back (name file : String) {version : Nat} {shape : Shape}
    {ops : List Operator} {q : OperatorSequence} (hq : OperatorSequence.ofList ops = .ok q)
    (hv : version < halfWordLimit) (hs : ∀ d ∈ shape, d < wordLimit) (ho : ∀ op ∈ ops, op.IsWords) :
    Graph.ofText (Graph.text ⟨version, name, shape, file, q⟩) =
      .ok ⟨version, name, shape, file, q⟩ ∧ q.operators = ops := by
  have hops := OperatorSequence.ofList_eq_ok.1 hq
  constructor
  · apply Graph.ofText_text
    constructor
    · exact hv
    · exact hs
    · rw [hops]
      exact ho
  · exact hops

def largestSequence : OperatorSequence where
  operators :=
    [.avg ⟨⟨.square (2 ^ 64 - 1), .square (2 ^ 64 - 1), .square (2 ^ 63 - 1), true⟩, false,
      some (2 ^ 32 - 1)⟩, .max (.ofKernel ⟨1, 2⟩)]
  nonempty := by simp
  valid := OperatorSequence.check_of_checkFrom (show OperatorSequence.checkFrom 0 _ = _ from rfl)

theorem largestSequence_words : ∀ op ∈ largestSequence.operators, op.IsWords := by
  simp only [largestSequence, List.forall_mem_cons, List.not_mem_nil, false_imp_iff,
    implies_true, and_true]
  constructor
  · constructor
    · decide
    · decide
    · decide
    · rintro p d hp hd
      cases hp
      cases hd
      decide
  · constructor
    · decide
    · decide
    · decide
    · rintro p d hp
      cases hp

/-- The texts hold what has to be escaped: a quote, a backslash and a control character. -/
theorem graph_read_back_largest :
    let g : Graph :=
      ⟨2 ^ 32 - 1, "\"\\\x01池", [0, 2 ^ 64 - 1], "\n\t\x7f", largestSequence⟩
    Graph.ofText g.text = .ok g ∧ g.operators.operators = largestSequence.operators :=
  graph_read_back _ _ (OperatorSequence.ofList_eq_ok.2 rfl) (by decide) (by decide)
    largestSequence_words

/-- A module that lowering makes is read back from its text, every divisor as the same word. -/
theorem lowered_read_back {g : Graph} {declared : Shape} {paramFile : String} {m : Module}
    (hg : g.IsWords) (h : g.lower declared paramFile = .ok m) : Module.ofText m.text = .ok m := by
  apply Module.ofText_text
  exact Graph.lower_written hg h

theorem lowered_read_back_sample :
    ∃ m, sampleGraph.lower [1, 2, 5, 4] "sample_converted_params.npy" = .ok m ∧
      Module.ofText m.text = .ok m := by
  obtain ⟨m, hm⟩ := exists_sample_lowered "sample_converted_params.npy"
  exact ⟨m, hm, lowered_read_back sampleGraph_isWords hm⟩

end PoolCheck
