import PoolCheck.Proofs.Directory
import PoolCheck.Proofs.Routine
import PoolCheck.Proofs.Run.Completing

/-!
# A run step by step

Each step of these courses looks at one file, removes one, empties one or fills one. Left alone with
the files, the parties of a run do what the actions of the same names do. The converter is a process
of its own, and its time may be over after any of its steps.
-/

set_option autoImplicit false

namespace PoolCheck

open PoolCheck.Course PoolCheck.Action

variable {ε : Type}

/-! ## Files -/

namespace FileSystem

theorem write?_of_emptied {fs mid : FileSystem} {p : Path} (h : fs.write? p .empty = some mid)
    (content : ByteArray) : mid.write? p content = fs.write? p content := by
  obtain ⟨place, hw⟩ := exists_wrote h
  have hl := hw.located
  have hmid := hw.locate.2 hl
  unfold write? at h ⊢
  rw [hl] at h ⊢
  rw [hmid]
  simp only at h ⊢
  split at h
  case h_1 => cases h
  case h_2 hn =>
    cases h
    rw [hn]
  case h_3 x hn =>
    cases h
    have hd : fs.node? place ≠ some .directory := by simp [hn]
    have hp := ne_root_of_not_directory hd
    rw [node?_set hp, if_pos rfl]
    exact congrArg some (set_set hp _ _ _ _)
  case h_4 hn =>
    cases h
    have hd : fs.node? place ≠ some .directory := by simp [hn]
    have hp := ne_root_of_not_directory hd
    rw [node?_set hp, if_pos rfl]
    exact congrArg some (set_set hp _ _ _ _)

theorem write?_eq_none {fs : FileSystem} {p : Path} {content : ByteArray}
    (h : fs.write? p content = none) (other : ByteArray) : fs.write? p other = none := by
  unfold write? at h ⊢
  cases hl : fs.locate p with
  | error e => rfl
  | ok place =>
    simp only [hl] at h ⊢
    split at h <;> first | rfl | cases h

end FileSystem

/-- Empties a file, or makes it, and then fills it. -/
def fillCourse (p : Path) (content : ByteArray) (fault : ε) : Course ε Unit := do
  atom (change (·.write? p .empty) fault)
  atom (change (·.write? p content) fault)

@[simp] theorem action_fillCourse (p : Path) (content : ByteArray) (fault : ε) :
    (fillCourse p content fault).action = change (·.write? p content) fault := by
  have hbind : (fillCourse p content fault).action = (change (·.write? p .empty) fault >>= fun _ =>
      change (·.write? p content) fault : Action ε Unit) := by simp [fillCourse]
  funext fs
  show (fillCourse p content fault).action.exec fs = (change (·.write? p content) fault).exec fs
  rw [hbind, exec_bind, exec_change, exec_change]
  cases h : fs.write? p .empty with
  | none => rw [FileSystem.write?_eq_none h content]
  | some mid =>
    dsimp only
    rw [exec_change, FileSystem.write?_of_emptied h]
    cases hc : fs.write? p content with
    | none => cases h.symm.trans (FileSystem.write?_eq_none hc .empty)
    | some after => rfl

def tensorCourse (p : Path) (x : Tensor) (fault : ε) : Course ε Unit := do
  if !Npy.isDescribable x.shape then throw fault
  fillCourse p ⟨(Npy.encode x).toArray⟩ fault

@[simp] theorem action_tensorCourse (p : Path) (x : Tensor) (fault : ε) :
    (tensorCourse p x fault).action = change (·.writeTensor? p x) fault := by
  unfold tensorCourse FileSystem.writeTensor?
  cases Npy.isDescribable x.shape
  · rfl
  · exact action_fillCourse p _ fault

/-! ## The export -/

def exportCourse (q : OperatorSequence) (input : Tensor) (dir : Path) (name : String) :
    Course Fault Exported := do
  if !isGraphName name then throw (.configuration (.graphName name))
  let _ ← settle ((q.inferShapes input.shape).mapError .configuration)
  let graphPath := dir.join (name ++ ".json")
  let inputPath := dir.join (name ++ ".input.npy")
  tensorCourse inputPath input
    (.conversion (.unwritableInput (.unwritableFile inputPath)))
  fillCourse graphPath (exportedGraph q input.shape name).text.toUTF8
    (.conversion .unwritableGraph)
  pure ⟨graphPath, inputPath, input.shape⟩

theorem action_exportCourse (q : OperatorSequence) (input : Tensor) (dir : Path) (name : String) :
    (exportCourse q input dir name).action = exportGraph q input dir name := by
  unfold exportCourse exportGraph
  cases isGraphName name
  · rfl
  · simp only [Bool.not_true, Bool.false_eq_true, if_false, action_bind, action_settle,
      action_tensorCourse, action_fillCourse, action_pure]
    rfl

/-! ## The converter -/

def planCourse (graph : Path) (declared : Shape) : Course ConversionFault ConversionPlan := do
  let g ← look fun fs => readGraph fs graph
  let artifact ← settle (convertedPaths graph)
  let code ← settle (g.lower declared (paramName artifact))
  let input ← look fun fs =>
    (fs.readTensor (graph.parent.join g.inputFile)).mapError .unreadableInput
  settle (if input.shape ≠ declared then .error (.storedShape input.shape declared)
    else pure ⟨artifact, input, code⟩)

theorem action_planCourse (graph : Path) (declared : Shape) :
    (planCourse graph declared).action = ask (planConversion graph declared) := by
  simp only [planCourse, action_bind, action_look, action_settle, ask_bind_ask]
  rfl

def convertCourse (graph : Path) (declared : Shape) : Course ConversionFault Artifact := do
  let plan ← planCourse graph declared
  let a := plan.artifact
  tensorCourse a.paramPath plan.params
    (.unwritableParams (.unwritableFile a.paramPath))
  fillCourse a.modulePath plan.code.text.toUTF8 .unwritableModule
  pure a

theorem action_convertCourse (graph : Path) (declared : Shape) :
    (convertCourse graph declared).action = convertGraphFile graph declared := by
  simp only [convertCourse, action_bind, action_planCourse, action_tensorCourse,
    action_fillCourse, action_pure]
  rfl

namespace ConvertCommand

def course (args : List String) : Course ConversionFault Artifact := do
  let (graph, shape) ← settle (parse args)
  convertCourse graph shape

theorem action_course (args : List String) : (course args).action = run args := by
  simp [course, run, action_convertCourse]

/-- The command as a process of its own. If it has a limit, its time may be over before it is
done. -/
def process (patience : Option Nat) (i : Invocation) : Routine Ending := do
  match ← (course i.arguments).cut (i.limit.bind fun _ => patience) with
  | some result => pure (.exited (.code (status result)))
  | none => pure .timedOut

end ConvertCommand

/-! ## The driver -/

/-- The launcher of a process that is left alone with the files. -/
def launcherOf (process : Invocation → Routine Ending) : Launcher := fun i => (process i).run

theorem process_converts (i : Invocation) (fs : FileSystem) :
    Converts (launcherOf (ConvertCommand.process none)) i fs := by
  have hcurrent : Keeps (fun now => now.current = fs.current) (ConvertCommand.run i.arguments) := by
    have hwrite : ∀ (p : Path) (content : ByteArray) (now later : FileSystem),
        now.current = fs.current → now.write? p content = some later →
          later.current = fs.current := by
      intro p content now later hn hw
      obtain ⟨_, hw⟩ := FileSystem.exists_wrote hw
      exact hw.current.trans hn
    refine Keeps.bind (keeps_ask _) fun _ _ _ _ _ => ?_
    refine Keeps.bind (keeps_ask _) fun _ _ _ _ _ => ?_
    refine Keeps.bind (keeps_change _ fun now later hc hw =>
      hwrite _ _ now later hc (FileSystem.writeTensor?_eq_some.1 hw).2) fun _ _ _ _ _ => ?_
    exact Keeps.bind (keeps_change _ (hwrite _ _)) fun _ _ _ _ _ => keeps_pure _
  have hrun : launcherOf (ConvertCommand.process none) i fs =
      (.exited (.code (ConvertCommand.status ((ConvertCommand.run i.arguments).exec fs).1)),
        ((ConvertCommand.run i.arguments).exec fs).2) := by
    have hnone : (i.limit.bind fun _ => none : Option Nat) = none := by cases i.limit <;> rfl
    have haction :
        Routine.run (ConvertCommand.course i.arguments) = ConvertCommand.run i.arguments :=
      ConvertCommand.action_course i.arguments
    rw [launcherOf, ConvertCommand.process, hnone, Routine.run_bind]
    have hcut := Routine.run_cut_none (ConvertCommand.course i.arguments) fs
    rw [haction] at hcut
    rw [hcut]
    rfl
  exact ⟨fs.current, _, _, _, rfl, hrun, hcurrent fs rfl, fun _ => .inl rfl⟩

namespace Driver

def readyCourse (d : Driver) (graph : Path) (shape : Shape) :
    Course ConversionFault (Invocation × Artifact) := do
  let graph ← look fun fs => .ok (fs.absolute graph)
  let i ← look fun fs => .ok (d.invocation fs graph shape)
  let a ← settle (convertedPaths graph)
  atom (removeStale a.modulePath)
  atom (removeStale a.paramPath)
  atom (change (·.write? i.log .empty) .noLog)
  pure (i, a)

theorem action_readyCourse (d : Driver) (graph : Path) (shape : Shape) :
    (d.readyCourse graph shape).action = d.ready graph shape := by
  simp only [readyCourse, action_bind, action_look, action_settle, action_atom, action_pure]
  rfl

def tailCourse (i : Invocation) : Course ConversionFault (Option String) :=
  look fun fs => .ok (logTail fs i.log)

def presentCourse (i : Invocation) (p : Path) : Course ConversionFault Unit := do
  if !(← look fun fs => .ok (fs.isFile p)) then throw (.missingArtifact p (← tailCourse i))

def collectCourse (i : Invocation) (a : Artifact) (ending : Ending) :
    Course ConversionFault Artifact :=
  match ending with
  | .notStarted => throw (.notStarted i.program)
  | .timedOut => do throw (.timedOut (i.limit.getD 0) (← tailCourse i))
  | .exited status =>
    if status ≠ .code 0 then do throw (.failed status (← tailCourse i))
    else do
      presentCourse i a.modulePath
      presentCourse i a.paramPath
      pure a

theorem exec_presentCourse (i : Invocation) (p : Path) (fs : FileSystem) :
    (presentCourse i p).action.exec fs = (if fs.isFile p then .ok ()
      else .error (.missingArtifact p (logTail fs i.log)), fs) := by
  simp only [presentCourse, action_bind, action_look, exec_bind, exec_ask]
  cases fs.isFile p <;> rfl

theorem action_collectCourse (i : Invocation) (a : Artifact) (ending : Ending) :
    (collectCourse i a ending).action = ask (collect i a ending) := by
  funext fs
  show (collectCourse i a ending).action.exec fs = (collect i a ending fs, fs)
  unfold collectCourse collect
  cases ending with
  | notStarted => rfl
  | timedOut => rfl
  | exited status =>
    dsimp only
    by_cases hs : status = .code 0
    · rw [if_neg (not_not.2 hs), if_neg (not_not.2 hs)]
      simp only [action_bind, action_pure, exec_bind, exec_presentCourse]
      cases fs.isFile a.modulePath <;> cases hp : fs.isFile a.paramPath <;> simp [exec_pure, hp]
    · rw [if_pos hs, if_pos hs]
      rfl

def course (d : Driver) (process : Invocation → Routine Ending) (graph : Path) (shape : Shape) :
    Course ConversionFault Artifact := do
  let (i, a) ← d.readyCourse graph shape
  let ending ← call (process i)
  collectCourse i a ending

theorem action_course (d : Driver) (process : Invocation → Routine Ending) (graph : Path)
    (shape : Shape) :
    (d.course process graph shape).action = d.drive (launcherOf process) graph shape := by
  rw [drive_eq_ready]
  simp only [course, action_bind, action_readyCourse, action_call, action_collectCourse]
  rfl

end Driver

/-! ## The execution -/

def loadCourse (a : Artifact) : Course LoadFault LoadedModule := do
  let code ← look fun fs => readModule fs a.modulePath
  let embedded ← look fun fs => (fs.readTensor a.paramPath).mapError .unreadableParams
  settle (code.load embedded)

theorem action_loadCourse (a : Artifact) : (loadCourse a).action = ask (loadModule · a) := by
  simp only [loadCourse, action_bind, action_look, action_settle, ask_bind_ask]
  rfl

def executeCourse (a : Artifact) (input : Tensor) (expected : Shape) : Course Fault Tensor := do
  let m ← (loadCourse a).mapFault .load
  settle do
    if !m.input.toTensor.equal input then throw (.load .otherInput)
    let candidate ← m.infer.mapError .load
    if candidate.shape ≠ expected then throw (.shapeMismatch expected candidate.shape .candidate)
    pure candidate

theorem action_executeCourse (a : Artifact) (input : Tensor) (expected : Shape) :
    (executeCourse a input expected).action = ask (execute a input expected) := by
  have hload : Action.mapFault Fault.load (ask (loadModule · a)) =
      ask fun fs => (loadModule fs a).mapError .load := rfl
  simp only [executeCourse, action_bind, action_mapFault, action_loadCourse, action_settle, hload,
    ask_bind_ask]
  rfl

/-! ## The run -/

namespace Config

def course (c : Config) (process : Invocation → Routine Ending) (input reference : Tensor)
    (dir : Path) : Course Fault Verdict := do
  let exported ← exportCourse c.operators input dir c.name
  let artifact ← (c.driver.course process exported.graphPath exported.inputShape).mapFault
    .conversion
  let candidate ← executeCourse artifact input reference.shape
  let verdict ← settle (c.policy.compare reference candidate)
  settle verdict.settle

theorem action_course (c : Config) (process : Invocation → Routine Ending)
    (input reference : Tensor) (dir : Path) : (c.course process input reference dir).action =
      c.compareIn (launcherOf process) input reference dir := by
  simp [course, compareIn, action_exportCourse, Driver.action_course, action_executeCourse]

end Config

end PoolCheck
