import PoolCheck.Proofs.Run.Completing
import PoolCheck.Proofs.Run.Passing

/-!
# What stops a run

A run that fails is stopped by one of its steps, and the kind of the fault tells which: the
configuration was refused, the conversion went wrong, what was converted cannot be used, or it
computes something else. Whatever a converter does and leaves, none of it is taken for a fault of
the configuration.
-/

set_option autoImplicit false

namespace PoolCheck

open PoolCheck.Action

variable {c : Config} {launcher : Launcher} {fs fs' : FileSystem} {fault : Fault}

/-! ## Before the conversion -/

namespace Config

/-- The input can be held, and no machine number wraps while the operators work on it. -/
structure Feasible (c : Config) : Prop where
  input : holdable c.inputShape = true
  operators : c.operators.NoWrap c.inputShape

theorem prepare_cases (hf : c.check = .ok () → c.Feasible) :
    (∃ cause, c.prepare = .error (.configuration cause) ∧
      (c.check = .error cause ∨ c.operators.inferShapes c.inputShape = .error cause)) ∨
    ∃ input reference shapes, c.prepare = .ok (input, reference) ∧
      c.operators.inferShapes input.shape = .ok shapes := by
  cases hc : c.check with
  | error cause => exact .inl ⟨cause, by rw [prepare, hc]; rfl, .inl rfl⟩
  | ok u =>
    obtain ⟨hheld, hnowrap⟩ := hf hc
    obtain ⟨x, hx, hs, -⟩ := Tensor.random_unit hheld c.seed
    rw [← hs] at hnowrap ⊢
    rcases Operator.chain_or_stop c.operators.valid hnowrap 0 with ⟨shapes, chain⟩ |
      ⟨k, op, t, cause, -, -, hi, -⟩
    · have hi : c.operators.inferShapes x.shape = .ok shapes := chain.shapesFrom 0
      obtain ⟨y, hy, -⟩ := chain.forwardAll rfl
      have hr := (OperatorSequence.run_of_shapes hi).trans hy
      exact .inr ⟨x, y, shapes, prepare_eq_ok.2 ⟨hc, hx, hr⟩, hi⟩
    · have hr := OperatorSequence.run_of_fault hi
      refine .inl ⟨_, ?_, .inr hi⟩
      rw [prepare, hc, input, hx]
      simp only [Except.mapError, hr, bind, Except.bind]

theorem provide_error (h : c.provide.exec fs = (.error fault, fs')) :
    ∃ cause, fault = .conversion cause := by
  unfold provide at h
  split at h
  · rcases bind_eq_error.1 h with hmake | ⟨_, _, -, hpure⟩
    · rw [exec_makeWorkDirectory] at hmake
      split_ifs at hmake
      · cases hmake
      · cases hmake
        exact ⟨_, rfl⟩
    · exact absurd hpure not_pure_eq_error
  · rw [exec_makeTemporary] at h
    split at h
    · cases h
    · cases h
      exact ⟨_, rfl⟩

end Config

theorem exec_exportGraph_of_name {name : String} (h : isGraphName name = false)
    (q : OperatorSequence) (input : Tensor) (dir : Path) (fs : FileSystem) :
    (exportGraph q input dir name).exec fs = (.error (.configuration (.graphName name)), fs) := by
  rw [exportGraph, h]
  rfl

theorem exportGraph_error {q : OperatorSequence} {input : Tensor} {dir : Path} {name : String}
    (h : (exportGraph q input dir name).exec fs = (.error fault, fs')) :
    (isGraphName name = false ∧ fault = .configuration (.graphName name) ∧ fs' = fs) ∨
    (∃ cause, q.inferShapes input.shape = .error cause ∧ fault = .configuration cause ∧ fs' = fs) ∨
    ∃ cause, fault = .conversion cause := by
  cases hn : isGraphName name with
  | false =>
    rw [exec_exportGraph_of_name hn] at h
    cases h
    exact .inl ⟨rfl, rfl, rfl⟩
  | true =>
    unfold exportGraph at h
    simp only [hn, Bool.not_true, Bool.false_eq_true, if_false] at h
    rcases bind_eq_error.1 h with hshapes | ⟨_, _, -, h⟩
    · obtain ⟨hmapped, rfl⟩ := ask_eq_error.1 hshapes
      obtain ⟨cause, hi, rfl⟩ := mapError_eq_error.1 hmapped
      exact .inr (.inl ⟨cause, hi, rfl, rfl⟩)
    rcases bind_eq_error.1 h with hinput | ⟨_, _, -, h⟩
    · obtain ⟨-, rfl, -⟩ := change_eq_error.1 hinput
      exact .inr (.inr ⟨_, rfl⟩)
    rcases bind_eq_error.1 h with hgraph | ⟨_, _, -, h⟩
    · obtain ⟨-, rfl, -⟩ := change_eq_error.1 hgraph
      exact .inr (.inr ⟨_, rfl⟩)
    · exact absurd h not_pure_eq_error

theorem separator_of_not_graphName {name : String} (h : isGraphName name = false)
    (hne : name ≠ "") : '/' ∈ name.toList ∨ '\\' ∈ name.toList := by
  rw [isGraphName, decide_eq_true hne, Bool.true_and, List.all_eq_false] at h
  obtain ⟨char, hm, hchar⟩ := h
  by_cases hs : char = '/'
  · exact .inl (hs ▸ hm)
  · have hb : char = '\\' := by simpa [hs] using hchar
    exact .inr (hb ▸ hm)

/-! ## The conversion and its result -/

theorem execute_eq_error {a : Artifact} {input : Tensor} {expected : Shape} :
    execute a input expected fs = .error fault ↔
      (∃ cause, loadModule fs a = .error cause ∧ .load cause = fault) ∨
      ∃ loaded, loadModule fs a = .ok loaded ∧
        (loaded.input.toTensor.equal input = false ∧ .load .otherInput = fault ∨
        loaded.input.toTensor.equal input = true ∧
          ((∃ cause, loaded.infer = .error cause ∧ .load cause = fault) ∨
          ∃ candidate, loaded.infer = .ok candidate ∧ candidate.shape ≠ expected ∧
            .shapeMismatch expected candidate.shape .candidate = fault)) := by
  have hlast : ∀ candidate : Tensor, (do
      if candidate.shape ≠ expected then
        throw (.shapeMismatch expected candidate.shape .candidate)
      pure candidate : Except Fault Tensor) = .error fault ↔
      candidate.shape ≠ expected ∧ .shapeMismatch expected candidate.shape .candidate = fault := by
    intro candidate
    by_cases hs : candidate.shape = expected
    · rw [if_neg (by simp [hs])]
      exact ⟨fun h => (nomatch h), fun h => absurd hs h.1⟩
    · rw [if_pos hs]
      exact ⟨fun h => ⟨hs, by cases h; rfl⟩, fun ⟨_, h⟩ => by rw [← h]; rfl⟩
  unfold execute
  rw [Except.bind_eq_error]
  simp only [mapError_eq_ok, mapError_eq_error]
  refine or_congr Iff.rfl (exists_congr fun loaded => and_congr_right fun _ => ?_)
  cases loaded.input.toTensor.equal input with
  | false =>
    show (Except.error (Fault.load .otherInput) : Except Fault Tensor) = .error fault ↔ _
    simp
  | true =>
    simp only [Bool.not_true, Bool.false_eq_true, if_false, Except.bind_eq_error, mapError_eq_ok,
      mapError_eq_error, hlast, reduceCtorEq, false_and, false_or, true_and]

namespace Config

theorem compareIn_eq_error {input reference : Tensor} {dir : Path} :
    (c.compareIn launcher input reference dir).exec fs = (.error fault, fs') ↔
      (c.deliver launcher input dir).exec fs = (.error fault, fs') ∨
      ∃ a, (c.deliver launcher input dir).exec fs = (.ok a, fs') ∧
        c.assess input reference a fs' = .error fault := by
  rw [compareIn_eq_deliver, bind_eq_error]
  simp only [ask_eq_error]
  constructor
  · rintro (h | ⟨a, _, h, ha, rfl⟩)
    · exact .inl h
    · exact .inr ⟨a, h, ha⟩
  · rintro (h | ⟨a, h, ha⟩)
    · exact .inl h
    · exact .inr ⟨a, fs', h, ha, rfl⟩

theorem assess_error {input reference : Tensor} {a : Artifact}
    (h : c.assess input reference a fs = .error fault) :
    execute a input reference.shape fs = .error fault ∨
    ∃ candidate d, execute a input reference.shape fs = .ok candidate ∧
      c.policy.judge reference candidate = ⟨false, some d⟩ ∧ fault = .valueMismatch d := by
  rcases Except.bind_eq_error.1 h with hx | ⟨candidate, hx, h⟩
  · exact .inl hx
  obtain ⟨-, -, -, -, hshape⟩ := execute_eq_ok.1 hx
  rw [Policy.compare, if_pos hshape.symm] at h
  change (c.policy.judge reference candidate).settle = _ at h
  unfold Verdict.settle at h
  split at h
  · next d hp hd =>
    cases h
    exact .inr ⟨candidate, d, hx, by rw [← hp, ← hd], rfl⟩
  · cases h

/-! ## Blame -/

/-- A run that came to have its directory. -/
structure Underway (c : Config) (fs : FileSystem) where
  input : Tensor
  reference : Tensor
  dir : Path
  made : FileSystem
  prepared : c.prepare = .ok (input, reference)
  provided : c.provide.exec fs = (.ok dir, made)

/-- A run to which the converted files were delivered. -/
structure Delivered (c : Config) (launcher : Launcher) (fs : FileSystem) extends
    Underway c fs where
  artifact : Artifact
  after : FileSystem
  delivered : (c.deliver launcher input dir).exec made = (.ok artifact, after)

/-- What has to be the case for a fault to be reported. Nothing that a converter does or leaves is a
fault of the configuration. -/
def Blamed (c : Config) (launcher : Launcher) (fs : FileSystem) : Fault → Prop
  | .configuration cause => c.check = .error cause ∨
      c.operators.inferShapes c.inputShape = .error cause ∨
      cause = .graphName c.name ∧ ('/' ∈ c.name.toList ∨ '\\' ∈ c.name.toList)
  | .conversion cause => (c.provide.exec fs).1 = .error (.conversion cause) ∨
      ∃ u : Underway c fs,
        ((exportGraph c.operators u.input u.dir c.name).exec u.made).1 =
          .error (.conversion cause) ∨
        ∃ exported mid,
          (exportGraph c.operators u.input u.dir c.name).exec u.made = (.ok exported, mid) ∧
          (((c.driver.ready exported.graphPath exported.inputShape).exec mid).1 = .error cause ∨
          ∃ i a before,
            (c.driver.ready exported.graphPath exported.inputShape).exec mid =
              (.ok (i, a), before) ∧
            Driver.collect i a (launcher i before).1 (launcher i before).2 = .error cause)
  | .load cause => ∃ d : Delivered c launcher fs,
      loadModule d.after d.artifact = .error cause ∨
      ∃ loaded, loadModule d.after d.artifact = .ok loaded ∧
        (¬loaded.input.toTensor.Agree Binary32.equal d.input ∧ cause = .otherInput ∨
          loaded.infer = .error cause)
  | .shapeMismatch expected actual stage => stage = .candidate ∧ expected ≠ actual ∧
      ∃ (d : Delivered c launcher fs) (loaded : LoadedModule) (candidate : Tensor),
        loadModule d.after d.artifact = .ok loaded ∧ loaded.infer = .ok candidate ∧
        d.reference.shape = expected ∧ candidate.shape = actual
  | .valueMismatch diagnostic =>
      ∃ (d : Delivered c launcher fs) (candidate : Tensor),
        execute d.artifact d.input d.reference.shape d.after = .ok candidate ∧
        c.policy.judge d.reference candidate = ⟨false, some diagnostic⟩
  | .tensor _ => False

theorem Underway.blamed (u : Underway c fs) (hc : c.check = .ok ()) {shapes : List Shape}
    (hi : c.operators.inferShapes u.input.shape = .ok shapes)
    (h : (c.deliver launcher u.input u.dir).exec u.made = (.error fault, fs')) :
    c.Blamed launcher fs fault := by
  rcases bind_eq_error.1 h with he | ⟨exported, mid, he, hd⟩
  · rcases exportGraph_error he with ⟨hn, rfl, -⟩ | ⟨_, hi', -⟩ | ⟨cause, rfl⟩
    · have hsep := separator_of_not_graphName hn (check_eq_ok.1 hc).1
      exact .inr (.inr ⟨rfl, hsep⟩)
    · rw [hi] at hi'
      cases hi'
    · exact .inr ⟨u, .inl (by rw [he])⟩
  · obtain ⟨cause, hdrive, rfl⟩ := mapFault_eq_error.1 hd
    rcases Driver.drive_eq_error.1 hdrive with hr | ⟨i, a, before, hr, rfl, hcollect⟩
    · exact .inr ⟨u, .inr ⟨exported, mid, he, .inl (by rw [hr])⟩⟩
    · exact .inr ⟨u, .inr ⟨exported, mid, he, .inr ⟨i, a, before, hr, hcollect⟩⟩⟩

theorem Delivered.blamed (d : Delivered c launcher fs)
    (h : c.assess d.input d.reference d.artifact d.after = .error fault) :
    c.Blamed launcher fs fault := by
  rcases assess_error h with hx | ⟨candidate, diagnostic, hx, hj, rfl⟩
  · rcases execute_eq_error.1 hx with ⟨cause, hl, rfl⟩ | ⟨loaded, hl, hrest⟩
    · exact ⟨d, .inl hl⟩
    rcases hrest with ⟨hinput, rfl⟩ | ⟨-, ⟨cause, hinfer, rfl⟩ | ⟨candidate, hinfer, hs, rfl⟩⟩
    · have hother : ¬loaded.input.toTensor.Agree Binary32.equal d.input := by
        rw [← Tensor.equal_iff, hinput]
        exact Bool.false_ne_true
      exact ⟨d, .inr ⟨loaded, hl, .inl ⟨hother, rfl⟩⟩⟩
    · exact ⟨d, .inr ⟨loaded, hl, .inr hinfer⟩⟩
    · exact ⟨rfl, Ne.symm hs, d, loaded, candidate, hl, hinfer, rfl, rfl⟩
  · exact ⟨d, candidate, hx, hj⟩

end Config

/-- Each fault is blamed on what caused it, whatever the converter does. -/
theorem fault_blamed (c : Config) (launcher : Launcher) (fs : FileSystem)
    (hf : c.check = .ok () → c.Feasible) {fault : Fault}
    (h : (c.run launcher fs).1 = .error fault) : c.Blamed launcher fs fault := by
  rcases Config.prepare_cases hf with ⟨cause, hp, hcause⟩ | ⟨input, reference, shapes, hp, hi⟩
  · rcases Config.run_eq_error.1 (Prod.ext h rfl) with ⟨hp', -⟩ | ⟨_, _, hp', -⟩
    · cases hp.symm.trans hp'
      exact hcause.imp_right .inl
    · cases hp.symm.trans hp'
  rcases Config.run_eq_error.1 (Prod.ext h rfl) with ⟨hp', -⟩ | ⟨_, _, hp', hw⟩
  · cases hp.symm.trans hp'
  cases hp.symm.trans hp'
  rcases Config.inWorkDirectory_eq_error.1 hw with hmake | ⟨dir, made, after, hmake, hbody, -⟩
  · obtain ⟨cause, rfl⟩ := Config.provide_error hmake
    exact .inl (by rw [hmake])
  let u : Config.Underway c fs := ⟨input, reference, dir, made, hp, hmake⟩
  rcases Config.compareIn_eq_error.1 hbody with hd | ⟨a, hd, ha⟩
  · exact u.blamed (Config.prepare_eq_ok.1 hp).1 hi hd
  · exact Config.Delivered.blamed ⟨u, a, after, hd⟩ ha

theorem fault_blamed_sample : ∃ fault,
    (sampleConfig.run idleLauncher sampleFiles).1 = .error fault ∧
      sampleConfig.Blamed idleLauncher sampleFiles fault := by
  obtain ⟨fault, hr⟩ := exists_idle_fault sampleConfig sampleFiles
  have hw := sampleConfig_noWrap
  exact ⟨fault, hr, fault_blamed sampleConfig idleLauncher sampleFiles
    (fun _ => ⟨hw.input, hw.operators⟩) hr⟩

end PoolCheck
