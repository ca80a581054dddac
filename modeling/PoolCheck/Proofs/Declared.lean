import PoolCheck.Proofs.Composition
import PoolCheck.Proofs.Conversion
import PoolCheck.Proofs.Run.Steps

/-!
# Shapes that a module declares

A module declares the shape of its input, the shape that each stage leaves, and the shape of its
result. The first is compared when the module is loaded and the second after each stage, so a result
has the shape that was declared last before it. The shape declared for the result itself is compared
with nothing. It is the shape of the result just when it repeats the one before, as it does in every
module that is lowered from a graph.
-/

set_option autoImplicit false

namespace PoolCheck

variable {m : Module} {x y : FeatureMap}

/-! ## The shape that is declared last -/

def Module.lastShape (m : Module) : Shape :=
  (m.stages.map Stage.outputShape).getLastD m.inputShape

theorem Stage.last_of_runFrom {stages : List Stage} {index : Nat}
    (h : runFrom index stages x = .ok y) :
    y.shape.toShape = (stages.map Stage.outputShape).getLastD x.shape.toShape := by
  induction stages generalizing index x with
  | nil =>
    cases h
    rfl
  | cons stage rest ih =>
    obtain ⟨z, hz, h⟩ := Except.bind_eq_ok.1 h
    rw [ih h, (run_eq_ok.1 hz).2, List.map_cons, List.getLastD_cons]

theorem Operator.last_of_stages {s last : Shape} {ops : List Operator} {lowered : List Stage}
    (h : stages s ops = .ok (lowered, last)) :
    last = (lowered.map Stage.outputShape).getLastD s := by
  induction ops generalizing s lowered with
  | nil =>
    cases h
    rfl
  | cons op rest ih =>
    obtain ⟨stage, -, h⟩ := Except.bind_eq_ok.1 h
    obtain ⟨⟨others, end'⟩, hothers, h⟩ := Except.bind_eq_ok.1 h
    cases h
    rw [ih hothers, List.map_cons, List.getLastD_cons]

theorem Graph.lower_lastShape {g : Graph} {s : Shape} {paramFile : String}
    (h : g.lower s paramFile = .ok m) : m.outputShape = m.lastShape := by
  obtain ⟨hinput, hstages⟩ := stages_of_lower h
  rw [Module.lastShape, hinput]
  exact Operator.last_of_stages hstages

theorem Module.shape_of_load {input : Tensor} {loaded : LoadedModule}
    (h : m.load input = .ok loaded) :
    loaded.code = m ∧ loaded.input.shape.toShape = m.inputShape := by
  obtain ⟨hshape, map, hmap, rfl⟩ := load_eq_ok.1 h
  rw [← Tensor.toTensor_toFeatureMap hmap] at hshape
  exact ⟨rfl, hshape⟩

theorem LoadedModule.infer_eq_ok {loaded : LoadedModule} {t : Tensor} : loaded.infer = .ok t ↔
    ∃ y, Stage.runFrom 0 loaded.code.stages loaded.input = .ok y ∧ y.toTensor = t := by
  rw [infer]
  cases Stage.runFrom 0 loaded.code.stages loaded.input <;> simp [Except.map]

/-- Where a module that was loaded gives a result, each stage has left the shape that it declares,
and the result has the shape declared last. That is the shape declared for the result if the module
says the same twice, and then only. Modules that are lowered do. -/
theorem declared_shapes_left (fs : FileSystem) (a : Artifact) {loaded : LoadedModule} {t : Tensor}
    (hl : loadModule fs a = .ok loaded) (ht : loaded.infer = .ok t) :
    (∀ n stage, loaded.code.stages[n]? = some stage → ∃ z,
      Stage.runFrom 0 (loaded.code.stages.take (n + 1)) loaded.input = .ok z ∧
        z.shape.toShape = stage.outputShape) ∧
    t.shape = loaded.code.lastShape ∧
    (t.shape = loaded.code.outputShape ↔ loaded.code.outputShape = loaded.code.lastShape) ∧
    ∀ (g : Graph) (s : Shape) (paramFile : String), g.lower s paramFile = .ok loaded.code →
      t.shape = loaded.code.outputShape := by
  obtain ⟨code, embedded, -, -, hload⟩ := loadModule_eq_ok.1 hl
  obtain ⟨rfl, hinput⟩ := Module.shape_of_load hload
  obtain ⟨y, hrun, rfl⟩ := LoadedModule.infer_eq_ok.1 ht
  have hlast : y.toTensor.shape = loaded.code.lastShape := by
    rw [Module.lastShape, ← hinput]
    exact Stage.last_of_runFrom hrun
  refine ⟨fun n stage hn => Stage.shape_of_runFrom hrun hn, hlast, ?_, fun g s paramFile hg => ?_⟩
  · rw [hlast, eq_comm]
  · rw [hlast, Graph.lower_lastShape hg]

/-! ## Modules in files -/

def moduleFiles (m : Module) (x : Tensor) : FileSystem where
  entries := [(["work"], .directory), (["work", "m.json"], .file m.text.toUTF8 false),
    (["work", "m.npy"], .file ⟨(Npy.encode x).toArray⟩ false)]
  current := "/"
  fitting := by simp

def moduleArtifact : Artifact := ⟨"/work/m.json", "/work/m.npy"⟩

theorem loadModule_moduleFiles {input : Tensor} (hm : m.Written) (hv : m.version = formatVersion)
    (ha : addressable input.shape = true) (hr : input.shape.length < 2 ^ 24) :
    loadModule (moduleFiles m input) moduleArtifact = m.load input := by
  have hmodule : (moduleFiles m input).locate moduleArtifact.modulePath =
      .ok ["work", "m.json"] := by
    rw [FileSystem.locate, String.contains_char_eq]
    rfl
  have hparam : (moduleFiles m input).locate moduleArtifact.paramPath = .ok ["work", "m.npy"] := by
    rw [FileSystem.locate, String.contains_char_eq]
    rfl
  have hcode : (moduleFiles m input).readText? moduleArtifact.modulePath = some m.text :=
    FileSystem.readText?_of_holds hmodule ⟨false, rfl⟩
  have hparams : (moduleFiles m input).readTensor moduleArtifact.paramPath = .ok input :=
    FileSystem.readTensor_of_holds hparam ⟨false, rfl⟩ ha (Npy.isDescribable_of_rank ha hr)
  have hread : readModule (moduleFiles m input) moduleArtifact.modulePath = .ok m :=
    readModule_eq_ok.2 ⟨_, hcode, Module.ofText_text hm, hv⟩
  rw [loadModule, hread, hparams]
  rfl

/-- A maximum over four elements. The declared shape of its result is as given. -/
def maximumModule (outputShape : Shape) : Module where
  version := formatVersion
  source := "maximum"
  inputShape := [1, 1, 2, 2]
  outputShape := outputShape
  paramFile := "m.npy"
  stages := [⟨"maximum", [1, 1, 1, 1], [.windowMax ⟨2, 2⟩ ⟨1, 1⟩]⟩]

def fourOnes : Tensor := ⟨[1, 1, 2, 2], #[.one, .one, .one, .one], rfl⟩

theorem loadModule_maximum {s : Shape} (hs : ∀ d ∈ s, d < wordLimit) :
    loadModule (moduleFiles (maximumModule s) fourOnes) moduleArtifact =
      .ok ⟨maximumModule s, ⟨⟨1, 1, 2, 2⟩, #[.one, .one, .one, .one], rfl⟩⟩ := by
  have hw : (maximumModule s).Written := by
    refine ⟨show formatVersion < halfWordLimit by decide, ?_, hs, ?_⟩
    · show ∀ d ∈ [1, 1, 2, 2], d < wordLimit
      decide
    · simp only [maximumModule, List.mem_singleton, forall_eq]
      refine ⟨?_, ?_⟩
      · show ∀ d ∈ [1, 1, 1, 1], d < wordLimit
        decide
      · simp only [List.mem_singleton, forall_eq]
        show (_ ∧ _) ∧ (_ ∧ _)
        decide
  exact loadModule_moduleFiles hw rfl (by decide) (by decide)

theorem declared_shapes_left_maximum : ∃ loaded t,
    loadModule (moduleFiles (maximumModule [1, 1, 1, 1]) fourOnes) moduleArtifact = .ok loaded ∧
      loaded.infer = .ok t ∧ t.shape = loaded.code.outputShape := by
  have hl := @loadModule_maximum [1, 1, 1, 1] (by decide)
  obtain ⟨-, -, hiff, -⟩ := declared_shapes_left _ _ hl rfl
  exact ⟨_, _, hl, rfl, hiff.2 rfl⟩

/-- A module whose declarations do not agree is loaded and gives a result of another shape than it
declares. -/
theorem declared_shape_ignored : ∃ loaded t,
    loadModule (moduleFiles (maximumModule [1, 1, 2, 2]) fourOnes) moduleArtifact = .ok loaded ∧
      loaded.infer = .ok t ∧ t.shape = [1, 1, 1, 1] ∧ loaded.code.outputShape = [1, 1, 2, 2] :=
  ⟨_, _, loadModule_maximum (by decide), rfl, rfl, rfl⟩

end PoolCheck
