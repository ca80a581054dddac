import PoolCheck.Proofs.Directory
import PoolCheck.Proofs.Run.Blame

/-!
# What a refused configuration leaves

A fault of the configuration is found before the converter is launched and before any file is
written. All of them but one are found before the run has a directory. The name is looked at when
the graph is exported, so a directory that had to be made stays when the name has a separator in it.
-/

set_option autoImplicit false

namespace PoolCheck

open PoolCheck.Action FileSystem

variable {c : Config} {launcher : Launcher} {fs made : FileSystem} {dir : Path}
variable {cause : ConfigFault}

namespace Config

theorem compareIn_refused {input reference : Tensor} {after : FileSystem}
    (h : (c.compareIn launcher input reference dir).exec made =
      (.error (.configuration cause), after)) :
    (isGraphName c.name = false ∧ cause = .graphName c.name ∧ after = made) ∨
      c.operators.inferShapes input.shape = .error cause := by
  rcases compareIn_eq_error.1 h with hd | ⟨a, -, ha⟩
  · rcases bind_eq_error.1 hd with he | ⟨_, _, -, hdrive⟩
    · rcases exportGraph_error he with ⟨hn, hcause, hafter⟩ | ⟨_, hi, hcause, -⟩ | ⟨_, hcause⟩
      · cases hcause
        exact .inl ⟨hn, rfl, hafter⟩
      · cases hcause
        exact .inr hi
      · cases hcause
    · obtain ⟨_, -, hcause⟩ := mapFault_eq_error.1 hdrive
      cases hcause
  · rcases assess_error ha with hx | ⟨_, _, -, -, hcause⟩
    · rcases execute_eq_error.1 hx with ⟨_, -, hcause⟩ | ⟨_, -, hrest⟩
      · cases hcause
      · rcases hrest with ⟨-, hcause⟩ | ⟨-, ⟨_, -, hcause⟩ | ⟨_, -, -, hcause⟩⟩
        · cases hcause
        · cases hcause
        · cases hcause
    · cases hcause

theorem run_of_name {input reference : Tensor} (hn : isGraphName c.name = false)
    (hp : c.prepare = .ok (input, reference)) (hmake : c.provide.exec fs = (.ok dir, made))
    (launcher : Launcher) : c.run launcher fs = (.error (.configuration (.graphName c.name)),
      if c.keeps then made else eraseDirectory dir made) := by
  have hexport := exec_exportGraph_of_name hn c.operators input dir made
  have hbody : (c.compareIn launcher input reference dir).exec made =
      (.error (.configuration (.graphName c.name)), made) :=
    compareIn_eq_error.2 (.inl (bind_eq_error.2 (.inl hexport)))
  exact run_eq_error.2 (.inr ⟨input, reference, hp,
    inWorkDirectory_eq_error.2 (.inr ⟨dir, made, made, hmake, hbody, rfl⟩)⟩)

theorem run_of_prepare {fault : Fault} (hp : c.prepare = .error fault) (launcher : Launcher) :
    c.run launcher fs = (.error fault, fs) :=
  run_eq_error.2 (.inl ⟨hp, rfl⟩)

theorem refused_cases (h : (c.run launcher fs).1 = .error (.configuration cause)) :
    c.prepare = .error (.configuration cause) ∨
    isGraphName c.name = false ∧ ∃ input reference dir made,
      c.prepare = .ok (input, reference) ∧ c.provide.exec fs = (.ok dir, made) := by
  rcases run_eq_error.1 (Prod.ext h rfl) with ⟨hp, -⟩ | ⟨input, reference, hp, hw⟩
  · exact .inl hp
  rcases inWorkDirectory_eq_error.1 hw with hmake | ⟨dir, made, after, hmake, hbody, -⟩
  · obtain ⟨_, hcause⟩ := provide_error hmake
    cases hcause
  rcases compareIn_refused hbody with ⟨hn, -, -⟩ | hi
  · exact .inr ⟨hn, input, reference, dir, made, hp, hmake⟩
  · have hr := OperatorSequence.run_of_fault hi
    rw [(prepare_eq_ok.1 hp).2.2] at hr
    cases hr

end Config

/-- A configuration that is refused leaves all files as they were, unless it is refused for its
name. Then there may be new directories: those made for the directory that was given, or the
temporary one if it is to be kept. The converter is not asked. -/
theorem refusal_leaves (c : Config) (launcher : Launcher) (fs : FileSystem) {cause : ConfigFault}
    (h : (c.run launcher fs).1 = .error (.configuration cause)) :
    (∀ other, c.run other fs = c.run launcher fs) ∧
    (isGraphName c.name = true → (c.run launcher fs).2 = fs) ∧
    (c.workDirectory = none → c.keepArtifacts = false → fs.Same (c.run launcher fs).2) ∧
    (c.workDirectory = none → c.keepArtifacts = true → (c.run launcher fs).2 = fs ∨
      ∃ place, fs.node? place = none ∧ (c.run launcher fs).2 = fs.set place .directory) ∧
    ∀ dir, c.workDirectory = some dir → fs.Grown (fs.route dir) (c.run launcher fs).2 := by
  rcases Config.refused_cases h with hp | ⟨hn, input, reference, dir, made, hp, hmake⟩
  · have hrun : ∀ other, c.run other fs = (.error (.configuration cause), fs) :=
      Config.run_of_prepare hp
    rw [hrun launcher]
    exact ⟨hrun, fun _ => rfl, fun _ _ => .refl fs, fun _ _ => .inl rfl, fun dir _ => .refl fs _⟩
  have hrun := fun other => Config.run_of_name hn hp hmake other
  rw [hrun launcher]
  refine ⟨hrun, fun hn' => ?_, fun hw hk => ?_, fun hw hk => .inr ?_, fun given hw => ?_⟩
  · rw [hn] at hn'
    cases hn'
  · have hkeeps : c.keeps = false := by rw [Config.keeps, hw, hk]; rfl
    rw [Config.provide_of_none hw] at hmake
    rw [hkeeps]
    exact Config.temporary_erased hmake rfl fun _ _ => rfl
  · have hkeeps : c.keeps = true := by rw [Config.keeps, hk, Bool.or_true]
    rw [Config.provide_of_none hw] at hmake
    obtain ⟨-, place, -, hplace, rfl⟩ := Config.makeTemporary_ok hmake
    exact ⟨place, hplace, by rw [hkeeps, if_pos rfl]⟩
  · have hkeeps : c.keeps = true := by rw [Config.keeps, hw]; rfl
    rw [Config.exec_provide_of_some hw] at hmake
    obtain ⟨-, rfl⟩ := Prod.mk.inj hmake
    rw [hkeeps, if_pos rfl]
    exact makeDirectories_grown fs given

/-- A run with a separator in its name, in a directory that is not there yet. -/
def slashedConfig : Config :=
  { sampleConfig with
    name := "a/b"
    workDirectory := some "/work/new" }

theorem slashedConfig_provide : slashedConfig.provide.exec sampleFiles =
    (.ok "/work/new", sampleFiles.set ["work", "new"] .directory) := by
  have hmake : sampleFiles.makeDirectories "/work/new" =
      (sampleFiles.set ["work", "new"] .directory, true) := by
    simp only [makeDirectories, makeWithParents, makeDirectory, isDirectory, find?, locate,
      String.contains_char_eq]
    rfl
  rw [Config.exec_provide_of_some rfl, hmake]
  rfl

theorem slashedConfig_run (launcher : Launcher) : slashedConfig.run launcher sampleFiles =
    (.error (.configuration (.graphName "a/b")),
      sampleFiles.set ["work", "new"] .directory) := by
  have hw := sampleConfig_noWrap
  rcases @Config.prepare_cases slashedConfig fun _ => ⟨hw.input, hw.operators⟩ with
    ⟨cause, -, hc | hi⟩ | ⟨input, reference, -, hp, -⟩
  · cases hc
  · cases sampleSequence_shapes.symm.trans hi
  · exact Config.run_of_name rfl hp slashedConfig_provide launcher

theorem refusal_leaves_sample :
    (slashedConfig.run idleLauncher sampleFiles).1 = .error (.configuration (.graphName "a/b")) ∧
      sampleFiles.Grown (sampleFiles.route "/work/new")
        (slashedConfig.run idleLauncher sampleFiles).2 := by
  have h : (slashedConfig.run idleLauncher sampleFiles).1 =
      .error (.configuration (.graphName "a/b")) := by rw [slashedConfig_run]
  have hleft := refusal_leaves slashedConfig idleLauncher sampleFiles h
  exact ⟨h, hleft.2.2.2.2 "/work/new" rfl⟩

/-- The configuration is refused, and a directory that was not there before is left. -/
theorem refusal_leaves_directory : (∃ cause,
    (slashedConfig.run idleLauncher sampleFiles).1 = .error (.configuration cause)) ∧
      sampleFiles.node? ["work", "new"] = none ∧
      (slashedConfig.run idleLauncher sampleFiles).2.node? ["work", "new"] = some .directory := by
  rw [slashedConfig_run]
  exact ⟨⟨_, rfl⟩, rfl, rfl⟩

end PoolCheck
