import PoolCheck.Proofs.Forward
import PoolCheck.Proofs.Run.Workspace
import PoolCheck.Proofs.Written

/-!
# Runs that have to pass

Where files can be kept and no number wraps, a run with a converter that converts gives a report,
and no policy finds a difference in it. The two results are made of the same words, and none of
these words is a NaN, so each element equals itself.
-/

set_option autoImplicit false

namespace PoolCheck

open PoolCheck.Action FileSystem

/-! ## Configurations -/

namespace Config

variable {c : Config}

theorem check_eq_ok : c.check = .ok () ↔ c.name ≠ "" ∧ c.inputShape.length = 4 ∧
    0 ∉ c.inputShape ∧ checkPolicy c.policy = .ok () ∧ c.timeoutSeconds ≠ some 0 := by
  unfold check
  by_cases hn : c.name = ""
  · simp [hn, bind, Except.bind, throw, throwThe, MonadExceptOf.throw]
  by_cases hs : c.inputShape.length ≠ 4 ∨ 0 ∈ c.inputShape
  · refine iff_of_false ?_ fun h => hs.elim (fun hl => hl h.2.1) h.2.2.1
    simp [hn, hs, bind, Except.bind, throw, throwThe, MonadExceptOf.throw]
  rw [not_or, not_not] at hs
  simp only [hn, hs.1, hs.2, if_false, ne_eq, not_true_eq_false, or_self, pure, Except.pure,
    bind, Except.bind, not_false_eq_true, true_and]
  cases checkPolicy c.policy with
  | error f => simp
  | ok u =>
    by_cases ht : c.timeoutSeconds = some 0
    · simp [ht, throw, throwThe, MonadExceptOf.throw]
    · simp [ht]

/-- No machine number wraps in a run. A divisor that is given is a number of 32 bits. -/
structure NoWrap (c : Config) : Prop where
  operators : c.operators.NoWrap c.inputShape
  padded : c.operators.Padded c.inputShape
  input : holdable c.inputShape = true
  divisors : ∀ p d, Operator.avg p ∈ c.operators.operators → p.divisorOverride = some d →
    d < halfWordLimit

theorem storable (hc : c.check = .ok ()) (hw : c.NoWrap) : Storable c.inputShape := by
  obtain ⟨-, hlen, hz, -, -⟩ := check_eq_ok.1 hc
  refine ⟨?_, hz, by rw [hlen]; decide, (Bool.and_eq_true_iff.1 hw.input).1⟩
  intro hnil
  rw [hnil] at hlen
  cases hlen

end Config

theorem not_mem_of_isGraphName {name : String} (h : isGraphName name = true) :
    '/' ∉ name.toList := by
  intro hm
  rw [isGraphName, Bool.and_eq_true, List.all_eq_true] at h
  simpa using h.2 '/' hm

theorem ne_empty_of_isGraphName {name : String} (h : isGraphName name = true) : name ≠ "" := by
  rintro rfl
  exact absurd h (by decide)

/-! ## Converters that convert -/

/-- A launch runs the converter's command on the arguments: it ends with the status of the command
and leaves what the command leaves, except for what is printed to the log. -/
def Converts (launcher : Launcher) (i : Invocation) (fs : FileSystem) : Prop :=
  ∃ cwd result files after,
    (ConvertCommand.run i.arguments).exec { fs with current := cwd } = (result, files) ∧
      launcher i fs = (.exited (.code (ConvertCommand.status result)), after) ∧
      after.current = fs.current ∧ ∀ place, after.node? place = files.node? place ∨
        fs.locate i.log = .ok place ∧ ∃ text, after.Holds place text

variable {launcher : Launcher} {made fs : FileSystem} {dir : Path} {name : String}
variable {folder : Location} {x : Tensor} {q : OperatorSequence} {m : Module}

theorem Workspace.drive (h : Workspace made dir name folder)
    (hp : Prepared made name folder x (exportedGraph q x.shape name) fs)
    (hc : fs.current = made.current) (hs : Storable x.shape)
    (hplain : '=' ∉ (made.graphPath dir name).toList)
    (hg : (exportedGraph q x.shape name).IsWords)
    (hm : (exportedGraph q x.shape name).lower x.shape (paramName (artifactOf made dir name)) =
      .ok m) {d : Driver}
    (hl : ∀ i before, i.program = resolveProgram before d.converter →
      Converts launcher i before) :
    ∃ after, (d.drive launcher (dir.join (name ++ ".json")) x.shape).exec fs =
        (.ok (artifactOf made dir name), after) ∧ Converted made name folder x m after := by
  obtain ⟨before, hr, hb, hcur⟩ := h.ready hp hc d x.shape
  have hprogram : resolveProgram fs d.converter = resolveProgram before d.converter := by
    rw [resolveProgram, resolveProgram, absolute, absolute, hc, hcur]
  obtain ⟨cwd, result, files, after, hrun, hlaunch, -, hafter⟩ :=
    hl (d.invocation fs (made.graphPath dir name) x.shape) before hprogram
  obtain ⟨files', hrun', hconv⟩ := h.convert (hb.withCurrent cwd) hs hplain hg hm
  cases hrun.symm.trans hrun'
  have hlog := hb.later.locate h.beside.rooted_log h.log
  have hconv' : Converted made name folder x m after := by
    refine hconv.log fun place => (hafter place).imp_right ?_
    rintro ⟨hplace, htext⟩
    exact ⟨Except.ok.inj (hplace.symm.trans hlog), htext⟩
  obtain ⟨hfm, hfp⟩ := hconv'.isFile h
  exact ⟨after, Driver.drive_eq_ok.2 ⟨_, before, hr, hlaunch, hfm, hfp⟩, hconv'⟩

theorem exists_module {shapes : List Shape} (hs : Storable x.shape)
    (hi : q.inferShapes x.shape = .ok shapes) (hn : q.NoWrap x.shape) (hp : q.Padded x.shape)
    (name paramFile : String) :
    ∃ m l y, (exportedGraph q x.shape name).lower x.shape paramFile = .ok m ∧ m.Written ∧
      m.version = formatVersion ∧ m.load x = .ok l ∧ l.infer = .ok y ∧ q.run x = .ok y ∧
      q.outputShape x.shape = .ok y.shape := by
  obtain ⟨lowered, map, y, hst, hmap, hrun, hinfer, hout⟩ :=
    OperatorSequence.exists_lowered hi hn hp
  have chain := OperatorSequence.chain_of_shapes hn hi
  obtain ⟨hstages, hlast⟩ := Operator.stages_written (fun _ ho => chain.sized ho) hs.words hst
  have hm := @Graph.lower_eq (exportedGraph q x.shape name) _ rfl rfl paramFile
  rw [exportedGraph, hst] at hm
  exact ⟨_, _, y, hm, ⟨show formatVersion < halfWordLimit by decide, hs.words, hlast, hstages⟩, rfl,
    Module.load_of_toFeatureMap? hmap rfl, hinfer, hrun, hout⟩

/-- A run with a converter that converts comes to its end. -/
theorem Config.run_of_usable {c : Config} {shapes : List Shape} (hc : c.check = .ok ())
    (hn : isGraphName c.name = true) (hi : c.operators.inferShapes c.inputShape = .ok shapes)
    (hw : c.NoWrap) (hd : c.provide.exec fs = (.ok dir, made)) (hu : Usable made dir c.name)
    (hplain : '=' ∉ (made.graphPath dir c.name).toList)
    (hl : ∀ i before, i.program = resolveProgram before c.converter → Converts launcher i before) :
    ∃ report after, c.run launcher fs = (.ok report, after) ∧ report.verdict = ⟨true, none⟩ ∧
      c.operators.outputShape c.inputShape = .ok report.outputShape := by
  have hs := Config.storable hc hw
  obtain ⟨x, hinput, hshape, hunsigned⟩ := Tensor.random_unit hw.input c.seed
  rw [← hshape] at hs hi
  have hnowrap := hshape ▸ hw.operators
  have hslash : '/' ∉ c.name.toList := not_mem_of_isGraphName hn
  obtain ⟨folder, hworkspace⟩ := hu.workspace hslash (Config.check_eq_ok.1 hc).1
  obtain ⟨m, l, y, hm, hwritten, hversion, hload, hinfer, hrun, hout⟩ :=
    exists_module hs hi hnowrap (hshape ▸ hw.padded) c.name
      (paramName (artifactOf made dir c.name))
  have hself := OperatorSequence.agree_of_run hnowrap hi hunsigned hrun
  have hprepare := Config.prepare_eq_ok.2 ⟨hc, hinput, hrun⟩
  obtain ⟨mid, hexport, hprepared, hcurrent⟩ := hworkspace.export hn hi hs.describable
  have hwords : (exportedGraph c.operators x.shape c.name).IsWords :=
    ⟨show formatVersion < halfWordLimit by decide, hs.words,
      fun op => (OperatorSequence.chain_of_shapes hnowrap hi).isWords hw.divisors⟩
  obtain ⟨after, hdrive, hconverted⟩ :=
    hworkspace.drive (d := c.driver) hprepared hcurrent hs hplain hwords hm hl
  have hexecute := hconverted.execute hworkspace hs hwritten hversion hload hinfer
    ⟨rfl, fun k _ => (hunsigned k).equal_self⟩
  have hjudge := @Policy.judge_of_equal c.policy _ _ hself
  have hbody := Config.compareIn_eq_ok.2 ⟨_, mid, _, y, ⟨true, none⟩, hexport, hdrive, hexecute,
    Policy.compare_eq_ok.2 ⟨rfl, hjudge⟩, rfl⟩
  have hwork := Config.inWorkDirectory_eq_ok.2 ⟨dir, made, after, hd, hbody, rfl, rfl⟩
  have hall := Config.run_eq_ok.2 ⟨x, y, _, _, hprepare, hwork, rfl⟩
  exact ⟨_, _, hall, rfl, hshape ▸ hout⟩

/-- A run with a converter that converts passes under every policy, in the shape inferred. -/
theorem no_false_fail (c : Config) (launcher : Launcher) (fs made : FileSystem) (dir : Path)
    {shapes : List Shape} (hc : c.check = .ok ()) (hn : isGraphName c.name = true)
    (hi : c.operators.inferShapes c.inputShape = .ok shapes) (hw : c.NoWrap)
    (hd : c.provide.exec fs = (.ok dir, made)) (hu : Usable made dir c.name)
    (hplain : '=' ∉ (made.graphPath dir c.name).toList)
    (hl : ∀ i before, i.program = resolveProgram before c.converter → Converts launcher i before) :
    ∃ report after, c.run launcher fs = (.ok report, after) ∧ report.verdict = ⟨true, none⟩ ∧
      c.operators.outputShape c.inputShape = .ok report.outputShape ∧
      exitCode (c.run launcher fs).1 = 0 := by
  obtain ⟨report, after, hrun, hverdict, hshape⟩ :=
    Config.run_of_usable hc hn hi hw hd hu hplain hl
  refine ⟨report, after, hrun, hverdict, hshape, ?_⟩
  rw [hrun]
  simp [exitCode, hverdict]

/-! ## A run -/

def sampleConfig : Config :=
  { Config.standard with
    name := "sample"
    sequence := some sampleSequence
    inputShape := [1, 2, 5, 4]
    workDirectory := some "/work" }

def sampleFiles : FileSystem := { entries := [(["work"], .directory)], current := "/" }

def sampleLauncher : Launcher := fun i fs =>
  let r := (ConvertCommand.run i.arguments).exec fs
  (.exited (.code (ConvertCommand.status r.1)), { r.2 with current := fs.current })

theorem sampleLauncher_converts (i : Invocation) (fs : FileSystem) :
    Converts sampleLauncher i fs :=
  ⟨fs.current, _, _, _, rfl, rfl, rfl, fun _ => .inl rfl⟩

theorem sampleConfig_provide :
    sampleConfig.provide.exec sampleFiles = (.ok "/work", sampleFiles) := by
  have hmake : sampleFiles.makeDirectories "/work" = (sampleFiles, true) := by
    simp only [makeDirectories, makeWithParents, makeDirectory, isDirectory, find?, locate,
      String.contains_char_eq]
    rfl
  refine bind_eq_ok.2 ⟨(), sampleFiles, ?_, rfl⟩
  show (((if (sampleFiles.makeDirectories "/work").2 then .ok ()
    else .error (.conversion (.noWorkDirectory "/work"))),
      (sampleFiles.makeDirectories "/work").1) : Except Fault Unit × FileSystem) = _
  rw [hmake]
  rfl

theorem sampleFiles_admits {p : Path} {name : String}
    (h : sampleFiles.locate p = .ok ["work", name]) : sampleFiles.Admits p := by
  have hn : sampleFiles.node? ["work", name] = none := rfl
  exact ⟨_, h, by rw [Open, hn]; simp⟩

theorem sampleFiles_locate : ∀ name ∈ ["sample.json", "sample.input.npy", "sample_converted.json",
    "sample_converted.npy", "sample.convert.log", "sample_converted.input.npy", "a=b.json",
    "a=b.input.npy"], sampleFiles.locate ("/work/" ++ name) = .ok ["work", name] := by
  simp only [List.forall_mem_cons, locate, String.contains_char_eq]
  exact ⟨rfl, rfl, rfl, rfl, rfl, rfl, rfl, rfl, List.forall_mem_nil _⟩

theorem sampleFiles_usable : Usable sampleFiles "/work" "sample" := by
  have hgraph := sampleFiles_admits (sampleFiles_locate "sample.json" (by simp))
  have hinput := sampleFiles_admits (sampleFiles_locate "sample.input.npy" (by simp))
  have hmodule := sampleFiles_admits (sampleFiles_locate "sample_converted.json" (by simp))
  have hparams := sampleFiles_admits (sampleFiles_locate "sample_converted.npy" (by simp))
  have hlog := sampleFiles_admits (sampleFiles_locate "sample.convert.log" (by simp))
  constructor
  · rfl
  · simp only [List.forall_mem_cons, List.not_mem_nil, false_imp_iff, implies_true, and_true]
    exact ⟨hgraph, hinput⟩
  · exact hgraph
  · simp only [List.forall_mem_cons, List.not_mem_nil, false_imp_iff, implies_true, and_true]
    exact ⟨hinput, hmodule, hparams⟩
  · exact hlog

theorem sampleConfig_noWrap : sampleConfig.NoWrap := by
  refine ⟨sampleSequence_noWrap, sampleSequence_padded, by decide, fun p d hp hd => ?_⟩
  simp only [sampleConfig, Config.operators, sampleSequence, Option.getD_some, List.mem_cons,
    Operator.avg.injEq, reduceCtorEq, List.not_mem_nil, or_false] at hp
  subst hp
  cases hd

theorem no_false_fail_sample :
    ∃ report after, sampleConfig.run sampleLauncher sampleFiles = (.ok report, after) ∧
      report.verdict = ⟨true, none⟩ ∧
      sampleConfig.operators.outputShape sampleConfig.inputShape = .ok report.outputShape ∧
      exitCode (sampleConfig.run sampleLauncher sampleFiles).1 = 0 :=
  no_false_fail sampleConfig sampleLauncher sampleFiles sampleFiles "/work" rfl rfl
    sampleSequence_shapes sampleConfig_noWrap sampleConfig_provide sampleFiles_usable (by decide)
    fun i before _ => sampleLauncher_converts i before

end PoolCheck
