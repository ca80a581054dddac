import PoolCheck.Proofs.Comparison
import PoolCheck.Proofs.Path
import PoolCheck.Proofs.Run.Completing

/-!
# Runs that pass

A converter may do anything with the files and end in any way. Whatever it does, a run gives a
report only if the converted files were made by this converter, embed the input of the run, and
compute a result of which the policy accepts every element.
-/

set_option autoImplicit false

namespace PoolCheck

open PoolCheck.Action

variable {launcher : Launcher} {fs fs' : FileSystem}

/-- What is behind the report of a run. The converter was launched as `invocation` on the files
`before` and left the files `after`. -/
structure Passing (c : Config) (launcher : Launcher) (fs : FileSystem) (report : Report) where
  input : Tensor
  reference : Tensor
  graph : Path
  artifact : Artifact
  invocation : Invocation
  before : FileSystem
  after : FileSystem
  code : Module
  embedded : Tensor
  loaded : LoadedModule
  candidate : Tensor
  prepared : c.prepare = .ok (input, reference)
  arguments : invocation.arguments = [graph, ShapeArgument.format input.shape]
  paths : convertedPaths graph = .ok artifact
  launched : launcher invocation before = (.exited (.code 0), after)
  /-- A launcher that treats this one launch alike leads to the same outcome. -/
  decisive : ∀ other : Launcher, other invocation before = launcher invocation before →
    c.run other fs = c.run launcher fs
  module_absent : before.find? artifact.modulePath = none
  params_absent : before.find? artifact.paramPath = none
  module_made : after.isFile artifact.modulePath = true
  params_made : after.isFile artifact.paramPath = true
  module_read : ∃ text, after.readText? artifact.modulePath = some text ∧
    Module.ofText text = .ok code ∧ code.version = formatVersion
  params_read : after.readTensor artifact.paramPath = .ok embedded
  same_input : embedded.Agree Binary32.equal input
  load : code.load embedded = .ok loaded
  infer : loaded.infer = .ok candidate
  /-- Every element is equal to the trusted one or accepted by the policy. -/
  accepted : reference.Agree c.policy.tolerates candidate
  verdict : report.verdict = c.policy.judge reference candidate
  outputShape : report.outputShape = reference.shape

/-! ## Before the launch -/

theorem removeStale_eq_ok {p : Path} {u : Unit} (h : (removeStale p).exec fs = (.ok u, fs')) :
    fs.Covers fs' ∧ fs'.find? p = none ∧ ∀ q, fs'.node? q ≠ none → fs.node? q ≠ none := by
  unfold exec removeStale at h
  split at h
  case h_1 hr =>
    cases h
    exact FileSystem.find?_of_remove hr
  case h_2 hr =>
    cases h
    exact ⟨FileSystem.Covers.refl fs, FileSystem.find?_of_missing hr, fun _ hq => hq⟩
  case h_3 => cases h

theorem FileSystem.Covers.find?_eq_none (h : fs.Covers fs')
    (hn : ∀ q, fs'.node? q ≠ none → fs.node? q ≠ none) {p : Path} (hp : fs.find? p = none) :
    fs'.find? p = none := by
  rw [FileSystem.find?_eq_none] at hp ⊢
  intro q hq
  exact Classical.byContradiction fun hf => hn q hf (hp q (h.locate hq))

/-- The driver launches the converter on files among which neither converted file is. -/
theorem Driver.absent_of_ready {d : Driver} {graph : Path} {shape : Shape} {i : Invocation}
    {a : Artifact} (h : (d.ready graph shape).exec fs = (.ok (i, a), fs')) :
    fs'.find? a.modulePath = none ∧ fs'.find? a.paramPath = none := by
  obtain ⟨rfl, ha, first, second, hm, hp, hw⟩ := Driver.ready_eq_ok.1 h
  obtain ⟨-, hm, -⟩ := removeStale_eq_ok hm
  obtain ⟨hc, hp, hn⟩ := removeStale_eq_ok hp
  have hlog : ∀ p, p = a.modulePath ∨ p = a.paramPath → second.find? p = none →
      fs'.find? p = none := fun p hpath hf =>
    FileSystem.find?_of_write hw (fun r b hr hd hb => log_ne_artifact ha hr hd hpath hb) hf
  exact ⟨hlog _ (.inl rfl) (hc.find?_eq_none hn hm), hlog _ (.inr rfl) hp⟩

/-! ## The whole run -/

theorem Driver.drive_congr {d : Driver} {graph : Path} {shape : Shape} {i : Invocation}
    {a : Artifact} {before : FileSystem}
    (hr : (d.ready graph shape).exec fs = (.ok (i, a), before))
    (h : (d.drive launcher graph shape).exec fs = (.ok a, fs')) (other : Launcher)
    (ho : other i before = launcher i before) :
    (d.drive other graph shape).exec fs = (.ok a, fs') := by
  obtain ⟨j, mid, hr', hl, hm, hp⟩ := Driver.drive_eq_ok.1 h
  rw [hr] at hr'
  cases hr'
  exact Driver.drive_eq_ok.2 ⟨i, before, hr, ho.trans hl, hm, hp⟩

theorem passing_of_run {c : Config} {report : Report}
    (h : c.run launcher fs = (.ok report, fs')) :
    report.verdict.passed = true ∧ Nonempty (Passing c launcher fs report) := by
  obtain ⟨input, reference, verdict, artifacts, hprep, hw, rfl⟩ := Config.run_eq_ok.1 h
  obtain ⟨dir, made, after, hdir, hbody, hkept, hfs⟩ := Config.inWorkDirectory_eq_ok.1 hw
  obtain ⟨exported, mid, a, candidate, judged, he, hd, hx, hj, hs⟩ :=
    Config.compareIn_eq_ok.1 hbody
  obtain ⟨i, before, hr, hl, hm, hp⟩ := Driver.drive_eq_ok.1 hd
  obtain ⟨hi, ha, -⟩ := Driver.ready_eq_ok.1 hr
  obtain ⟨-, -, rfl, -⟩ := exportGraph_eq_ok.1 he
  obtain ⟨loaded, hload, heq, hinfer, hshape⟩ := execute_eq_ok.1 hx
  obtain ⟨code, embedded, hcode, hembedded, hl'⟩ := loadModule_eq_ok.1 hload
  obtain ⟨-, map, hmap, rfl⟩ := Module.load_eq_ok.1 hl'
  obtain ⟨haccepted, hpassed, hverdict⟩ := Policy.settle_of_compare hj hs
  obtain ⟨hmodule, hparams⟩ := Driver.absent_of_ready hr
  rw [Tensor.toTensor_toFeatureMap hmap] at heq
  refine ⟨hpassed, ⟨{
    input, reference, artifact := a, invocation := i, before, after, code, embedded, candidate
    graph := mid.absolute (dir.join (c.name ++ ".json"))
    loaded := ⟨code, map⟩
    prepared := hprep
    arguments := by rw [hi]; rfl
    paths := ha
    launched := hl
    decisive := ?_
    module_absent := hmodule
    params_absent := hparams
    module_made := hm
    params_made := hp
    module_read := readModule_eq_ok.1 hcode
    params_read := hembedded
    same_input := Tensor.equal_iff.1 heq
    load := hl'
    infer := hinfer
    accepted := haccepted
    verdict := hverdict.symm
    outputShape := rfl }⟩⟩
  intro other ho
  have hd' := Driver.drive_congr hr hd other ho
  have hbody' := Config.compareIn_eq_ok.2 ⟨_, mid, a, candidate, judged, he, hd', hx, hj, hs⟩
  have hw' := Config.inWorkDirectory_eq_ok.2 ⟨dir, made, after, hdir, hbody', hkept, hfs⟩
  rw [h]
  exact Config.run_eq_ok.2 ⟨input, reference, verdict, artifacts, hprep, hw', rfl⟩

/-- No converter makes a run pass wrongly, and the exit code is zero exactly when a run passes. -/
theorem no_false_pass (c : Config) (launcher : Launcher) (fs : FileSystem) :
    (∀ report, (c.run launcher fs).1 = .ok report →
      report.verdict.passed = true ∧ Nonempty (Passing c launcher fs report)) ∧
    (exitCode (c.run launcher fs).1 = 0 ↔ ∃ report, (c.run launcher fs).1 = .ok report) := by
  have hpass : ∀ report, (c.run launcher fs).1 = .ok report →
      report.verdict.passed = true ∧ Nonempty (Passing c launcher fs report) := by
    intro report h
    exact passing_of_run (Prod.ext h rfl)
  refine ⟨hpass, ?_⟩
  cases hr : (c.run launcher fs).1 with
  | error fault => simp [exitCode]
  | ok report =>
    have hp := (hpass report hr).1
    simp [exitCode, hp]

def idleLauncher : Launcher := fun _ fs => (.exited (.code 0), fs)

/-- No run passes with it, whatever earlier runs left. -/
theorem exists_idle_fault (c : Config) (fs : FileSystem) :
    ∃ fault, (c.run idleLauncher fs).1 = .error fault := by
  cases hr : (c.run idleLauncher fs).1 with
  | error fault => exact ⟨fault, rfl⟩
  | ok report =>
    obtain ⟨-, ⟨p⟩⟩ := passing_of_run (Prod.ext hr rfl)
    have hsame : p.before = p.after := congrArg Prod.snd p.launched
    have hmade := p.module_made
    rw [FileSystem.isFile, ← hsame, p.module_absent] at hmade
    cases hmade

/-- A run passes with a converter that converts. A converter that does nothing then fails, although
the converted files of the run before are there. -/
theorem no_false_pass_sample :
    ∃ report after, sampleConfig.run sampleLauncher sampleFiles = (.ok report, after) ∧
      report.verdict.passed = true ∧
      Nonempty (Passing sampleConfig sampleLauncher sampleFiles report) ∧
      exitCode (sampleConfig.run sampleLauncher sampleFiles).1 = 0 ∧
      exitCode (sampleConfig.run idleLauncher after).1 ≠ 0 := by
  obtain ⟨report, after, hrun, -, -⟩ := Config.run_of_usable (c := sampleConfig) rfl rfl
    sampleSequence_shapes sampleConfig_noWrap sampleConfig_provide sampleFiles_usable (by decide)
    fun i before _ => sampleLauncher_converts i before
  have hok : (sampleConfig.run sampleLauncher sampleFiles).1 = .ok report := by rw [hrun]
  obtain ⟨hpass, hcode⟩ := no_false_pass sampleConfig sampleLauncher sampleFiles
  obtain ⟨hpassed, hpassing⟩ := hpass report hok
  refine ⟨report, after, hrun, hpassed, hpassing, hcode.2 ⟨report, hok⟩, fun hidle => ?_⟩
  obtain ⟨report', hr⟩ := (no_false_pass sampleConfig idleLauncher after).2.1 hidle
  obtain ⟨fault, hf⟩ := exists_idle_fault sampleConfig after
  cases hr.symm.trans hf

end PoolCheck
