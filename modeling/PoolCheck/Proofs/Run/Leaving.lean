import PoolCheck.Proofs.Run.Completing
import PoolCheck.Proofs.Run.Footprint

/-!
# What a run leaves

A converter that keeps to the directory of the run changes nothing outside it, and neither does the
run. A temporary directory is erased on every way out of a run; of a directory that was given, only
what had to be made for it stays.
-/

set_option autoImplicit false

namespace PoolCheck

open PoolCheck.Action FileSystem

variable {launcher : Launcher} {made fs fs' : FileSystem} {dir : Path} {name : String}
variable {q : Location} {S : Location → Prop}

/-! ## The launch -/

/-- However this driver starts the converter, that changes nothing but what is below the directory
in which it works, the one of the graph. -/
def Confined (d : Driver) (launcher : Launcher) : Prop :=
  ∀ (graph : Path) (shape : Shape) (now fs : FileSystem), graph.isAbsolute = true →
    let i := d.invocation now graph shape
    (launcher i fs).2.current = fs.current ∧
      ∀ q, ¬fs.Below i.directory q → (launcher i fs).2.seen q = fs.seen q

theorem Driver.below_directory {folder : Location} (hc : Path.isAbsolute made.current = true)
    (hn : '/' ∉ name.toList) (hf : made.walk [] (made.route dir) = .ok folder)
    (hd : made.node? folder = some .directory) (h : made.Inside S fs) {mid : FileSystem}
    (d : Driver) (shape : Shape)
    (hq : fs.Below (d.invocation mid (made.graphPath dir name) shape).directory q) :
    made.Below dir q := by
  obtain ⟨parent, hparent, -, hpar⟩ :=
    (pathIn_graph hc dir hn).parent (isAbsolute_absolute hc _) (lt_length_append (by decide))
  obtain ⟨folder', hf', hq⟩ := hq
  have hdirectory : (d.invocation mid (made.graphPath dir name) shape).directory = parent := by
    rw [invocation, hparent, Option.getD_some]
  rw [hdirectory, route_congr h.current, h.alike.walk] at hf'
  cases hf'.symm.trans (hpar.symm.walk hf hd)
  exact ⟨folder, hf, hq⟩

namespace Config

variable {c : Config}

theorem compareIn_outside (hc : Path.isAbsolute made.current = true)
    (hl : Confined c.driver launcher) (input reference : Tensor) (dir : Path) :
    ((c.compareIn launcher input reference dir).exec made).2.current = made.current ∧
      ∀ q, ¬made.Below dir q →
        ((c.compareIn launcher input reference dir).exec made).2.seen q = made.seen q := by
  have hbelow : ∀ endings : List String, ∀ ending ∈ endings, ∀ q,
      made.Named dir c.name ending q → made.Below dir q := fun _ _ _ _ => Named.below
  have hexport := exportGraph_keeps c.operators input (hbelow _) made (.start made _)
  rw [compareIn_files, exec_deliver]
  cases he : (exportGraph c.operators input dir c.name).exec made with
  | mk r mid =>
    rw [he] at hexport
    cases r with
    | error fault => exact ⟨hexport.current, hexport.other⟩
    | ok exported =>
      obtain ⟨hname, -, rfl, -⟩ := exportGraph_eq_ok.1 he
      have hn := not_mem_of_isGraphName hname
      have hready := Driver.keeps hc hn (ne_empty_of_isGraphName hname) c.driver input.shape
        (hbelow _) mid hexport
      dsimp only
      rw [Driver.exec_drive]
      cases hr : (c.driver.ready (dir.join (c.name ++ ".json")) input.shape).exec mid with
      | mk r before =>
        rw [hr] at hready
        cases r with
        | error cause => exact ⟨hready.current, hready.other⟩
        | ok ia =>
          obtain ⟨i, a⟩ := ia
          obtain ⟨folder, hf, hd⟩ := folder_of_export he
          obtain ⟨hi, -⟩ := Driver.ready_eq_ok.1 hr
          have hgraph : mid.absolute (dir.join (c.name ++ ".json")) =
              made.graphPath dir c.name := absolute_congr hexport.current _
          rw [hgraph] at hi
          obtain ⟨hcurrent, hother⟩ := hl _ input.shape mid before (isAbsolute_absolute hc _)
          rw [hi]
          refine ⟨hcurrent.trans hready.current, fun q hq => ?_⟩
          refine (hother q fun hb => hq ?_).trans (hready.other q hq)
          exact Driver.below_directory hc hn hf hd hready c.driver input.shape hb

/-! ## The whole run -/

/-- All that a run can leave in a directory that it was given: something below it, or a directory
made on the way to it. -/
def Trace (fs : FileSystem) (dir : Path) (fs' : FileSystem) (q : Location) : Prop :=
  (fs.makeDirectories dir).1.Below dir q ∨
    fs.node? q = none ∧ fs'.node? q = some .directory ∧
      ∃ front, front <+: fs.route dir ∧ (fs.makeDirectories dir).1.walk [] front = .ok q

theorem run_cleaned (hc : Path.isAbsolute fs.current = true) (hl : Confined c.driver launcher)
    (hw : c.workDirectory = none) (hk : c.keepArtifacts = false) :
    fs.Same (c.run launcher fs).2 := by
  have hkeeps : c.keeps = false := by rw [keeps, hw, hk]; rfl
  rcases run_files c launcher fs with ⟨_, -, h⟩ | ⟨input, reference, -, h⟩
  · rw [h]
    exact .refl fs
  rw [provide_of_none hw] at h
  rcases h with ⟨_, h⟩ | ⟨dir, made, hmake, h⟩
  · rw [makeTemporary_error h]
    exact .refl fs
  · have hcurrent : made.current = fs.current :=
      current_of_provide (by rw [provide_of_none hw]; exact hmake)
    obtain ⟨hcur, hout⟩ := compareIn_outside (c := c) (by rwa [hcurrent]) hl input reference dir
    rw [h, hkeeps]
    exact temporary_erased hmake hcur hout

theorem run_inside (hc : Path.isAbsolute fs.current = true) (hl : Confined c.driver launcher)
    (hw : c.workDirectory = some dir) (q : Location) :
    (c.run launcher fs).2.seen q = fs.seen q ∨ Trace fs dir (c.run launcher fs).2 q := by
  have hkeeps : c.keeps = true := by rw [keeps, hw]; rfl
  have hgrown := makeDirectories_grown fs dir
  -- Whatever follows, it is either below the directory or as it was when that was made.
  have hall : ∀ after : FileSystem, (¬(fs.makeDirectories dir).1.Below dir q →
      after.seen q = (fs.makeDirectories dir).1.seen q) →
      after.seen q = fs.seen q ∨ Trace fs dir after q := by
    intro after hafter
    by_cases hb : (fs.makeDirectories dir).1.Below dir q
    · exact .inr (.inl hb)
    · rcases hgrown.each q with he | ⟨hn, hd, hfront⟩
      · exact .inl ((hafter hb).trans he)
      · exact .inr (.inr ⟨hn, (node?_of_seen (hafter hb)).trans hd, hfront⟩)
  rcases run_files c launcher fs with ⟨_, -, h⟩ | ⟨input, reference, -, h⟩
  · rw [h]
    exact .inl rfl
  rw [exec_provide_of_some hw] at h
  rcases h with ⟨_, h⟩ | ⟨dir', made, hmake, h⟩
  · rw [← congrArg Prod.snd h]
    exact hall _ fun _ => rfl
  · obtain ⟨hdir, rfl⟩ := Prod.mk.inj hmake
    split_ifs at hdir
    cases hdir
    rw [h, hkeeps, if_pos rfl]
    exact hall _ ((compareIn_outside (by rwa [hgrown.current]) hl input reference dir).2 q)

/-- Once the graph is exported, it is left alone until the launch, and nothing changes after it. -/
theorem compareIn_retains {input : Tensor} {exported : Exported} {mid : FileSystem}
    (hc : Path.isAbsolute made.current = true)
    (h : (exportGraph c.operators input dir c.name).exec made = (.ok exported, mid))
    (launcher : Launcher) (reference : Tensor) :
    ∃ before, (∀ p ∈ [exported.graphPath, exported.inputPath],
        (mid.find? p).isSome = true ∧ before.find? p = mid.find? p) ∧
      (((c.compareIn launcher input reference dir).exec made).2 = before ∨
        ((c.compareIn launcher input reference dir).exec made).2 = (launcher
          (c.driver.invocation mid (mid.absolute exported.graphPath) input.shape) before).2) := by
  have hexport : made.Inside (made.Below dir) mid := by
    have hkeeps := exportGraph_keeps c.operators input
      (fun ending _ q (hq : made.Named dir c.name ending q) => hq.below) made (.start made _)
    rwa [h] at hkeeps
  rw [compareIn_files, exec_deliver, h]
  dsimp only
  rw [Driver.exec_drive]
  obtain ⟨hname, -, rfl, first, hinput, hgraph⟩ := exportGraph_eq_ok.1 h
  have hretained := Driver.retains (hexport.current ▸ hc) dir (not_mem_of_isGraphName hname)
    (ne_empty_of_isGraphName hname) c.driver input.shape
  have hinput := isSome_find?_of_write (writeTensor?_eq_some.1 hinput).2 (.inl rfl)
  refine ⟨((c.driver.ready (dir.join (c.name ++ ".json")) input.shape).exec mid).2, ?_, ?_⟩
  · simp only [List.forall_mem_cons, List.not_mem_nil, false_imp_iff, implies_true, and_true]
    exact ⟨⟨isSome_find?_of_write hgraph (.inl rfl), hretained ".json" (by simp)⟩,
      isSome_find?_of_write hgraph (.inr hinput), hretained ".input.npy" (by simp)⟩
  · cases hr : (c.driver.ready (dir.join (c.name ++ ".json")) input.shape).exec mid with
    | mk r before =>
      cases r with
      | error cause => exact .inl rfl
      | ok ia =>
        obtain ⟨i, a⟩ := ia
        obtain ⟨rfl, -⟩ := Driver.ready_eq_ok.1 hr
        exact .inr rfl

/-- What is left of a run, however it ends. -/
structure Tidy (c : Config) (launcher : Launcher) (fs : FileSystem) : Prop where
  /-- A directory of its own is gone with all in it. -/
  cleaned : c.workDirectory = none → c.keepArtifacts = false → fs.Same (c.run launcher fs).2
  inside : ∀ dir, c.workDirectory = some dir → ∀ q,
    (c.run launcher fs).2.seen q = fs.seen q ∨ Trace fs dir (c.run launcher fs).2 q
  /-- Whenever the paths of the files are followed, each leads to its own place in the directory. -/
  landing : isGraphName c.name = true → ∀ (now : FileSystem) (dir : Path),
    Path.isAbsolute now.current = true →
      convertedPaths (now.graphPath dir c.name) = .ok (artifactOf now dir c.name) ∧
      ∀ t ∈ now.texts dir c.name, now.Lands (now.Named dir c.name t.2) t.1
  /-- What was exported is there at the launch, after which only the converter changes files. -/
  retained : ∀ {input reference : Tensor} {dir : Path} {made mid : FileSystem} {e : Exported},
    c.prepare = .ok (input, reference) → c.provide.exec fs = (.ok dir, made) →
    (exportGraph c.operators input dir c.name).exec made = (.ok e, mid) →
    ∃ before after, (∀ p ∈ [e.graphPath, e.inputPath],
        (mid.find? p).isSome = true ∧ before.find? p = mid.find? p) ∧
      (after = before ∨ after = (launcher
        (c.driver.invocation mid (mid.absolute e.graphPath) input.shape) before).2) ∧
      (c.run launcher fs).2 = if c.keeps then after else eraseDirectory dir after

end Config

/-- A run with a converter that keeps to its directory cleans up after itself. -/
theorem run_tidy (c : Config) (launcher : Launcher) (fs : FileSystem)
    (hc : Path.isAbsolute fs.current = true) (hl : Confined c.driver launcher) :
    c.Tidy launcher fs where
  cleaned := Config.run_cleaned hc hl
  inside _ hw := Config.run_inside hc hl hw
  landing hname _ dir hnow :=
    have hn := not_mem_of_isGraphName hname
    have hne := ne_empty_of_isGraphName hname
    ⟨convertedPaths_graphPath hnow dir hn hne, texts_land hnow dir hn hne⟩
  retained := by
    intro input reference dir made mid e hp hmake hexport
    have hcurrent : Path.isAbsolute made.current = true := by
      rwa [Config.current_of_provide hmake]
    obtain ⟨before, hretained, hafter⟩ :=
      Config.compareIn_retains hcurrent hexport launcher reference
    refine ⟨before, _, hretained, hafter, ?_⟩
    rcases Config.run_files c launcher fs with ⟨_, hp', -⟩ | ⟨_, _, hp', hfiles⟩
    · cases hp.symm.trans hp'
    cases hp.symm.trans hp'
    rcases hfiles with ⟨_, hmake'⟩ | ⟨_, _, hmake', h⟩
    · cases hmake.symm.trans hmake'
    · cases hmake.symm.trans hmake'
      exact h

theorem sampleLauncher_confined (d : Driver) : Confined d sampleLauncher := by
  intro graph shape now fs _
  have hdirectory : ∀ a, convertedPaths graph = .ok a →
      fs.Lands (fs.Below (d.invocation now graph shape).directory) a.modulePath ∧
        fs.Lands (fs.Below (d.invocation now graph shape).directory) a.paramPath := by
    intro a ha
    obtain ⟨parent, hparent, hland⟩ := convertedPaths_land ha fs
    rwa [Driver.invocation, hparent, Option.getD_some]
  have hkeeps := ConvertCommand.run_keeps (ConvertCommand.isShapeArgument_format shape)
    hdirectory fs (.start fs _)
  exact ⟨rfl, hkeeps.other⟩

theorem run_tidy_sample : sampleConfig.Tidy sampleLauncher sampleFiles ∧
    Config.Tidy { sampleConfig with workDirectory := none } sampleLauncher
      { entries := [(["tmp"], .directory)], current := "/" } :=
  ⟨run_tidy _ _ _ rfl (sampleLauncher_confined _), run_tidy _ _ _ rfl (sampleLauncher_confined _)⟩

end PoolCheck
