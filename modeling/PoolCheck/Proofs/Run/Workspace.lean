import PoolCheck.Proofs.Argument
import PoolCheck.Proofs.Comparison
import PoolCheck.Proofs.Conversion
import PoolCheck.Proofs.Run.Steps

/-!
# The files of a run

Five files take their names from the run: the graph, its input, the log, and the two converted
files. Where files can be kept under the texts that the parties use for them, every write of the
exporter, the driver and the converter succeeds, and what one of them wrote the others read.
-/

set_option autoImplicit false

namespace PoolCheck

open PoolCheck.Action FileSystem

def endings : List String :=
  [".json", ".input.npy", ".convert.log", "_converted.json", "_converted.npy"]

/-- A file can be kept under each text that is used for one of the five files. -/
structure Usable (fs : FileSystem) (dir : Path) (name : String) : Prop where
  rooted : Path.isAbsolute fs.current = true
  given : ∀ ending ∈ [".json", ".input.npy"], fs.Admits (dir.join (name ++ ending))
  graph : fs.Admits (fs.graphPath dir name)
  found : ∀ ending ∈ [".input.npy", "_converted.json", "_converted.npy"],
    fs.Admits ((fs.graphPath dir name).parent.join (name ++ ending))
  log : fs.Admits ((fs.graphPath dir name).withExtension "convert.log")

/-- The places that the texts lead to, as the run begins. -/
structure Workspace (fs : FileSystem) (dir : Path) (name : String) (folder : Location) : Prop where
  beside : fs.Beside dir name folder
  given : ∀ ending ∈ [".json", ".input.npy"],
    fs.locate (dir.join (name ++ ending)) = .ok (fileOf folder name ending)
  graph : fs.locate (fs.graphPath dir name) = .ok (fileOf folder name ".json")
  found : ∀ ending ∈ [".input.npy", "_converted.json", "_converted.npy"],
    fs.locate ((fs.graphPath dir name).parent.join (name ++ ending)) =
      .ok (fileOf folder name ending)
  log : fs.locate ((fs.graphPath dir name).withExtension "convert.log") =
    .ok (fileOf folder name ".convert.log")
  isOpen : ∀ ending ∈ endings, fs.Open (fileOf folder name ending)

theorem plain_of_mem_endings : ∀ ending ∈ endings, '/' ∉ ending.toList ∧ 2 < ending.length := by
  decide

theorem given_mem_endings : ∀ ending ∈ [".json", ".input.npy"], ending ∈ endings := by
  decide

theorem found_mem_endings :
    ∀ ending ∈ [".input.npy", "_converted.json", "_converted.npy"], ending ∈ endings := by
  decide

variable {made fs fs' : FileSystem} {dir p : Path} {name : String} {folder place : Location}

theorem Usable.workspace (h : Usable made dir name) (hn : '/' ∉ name.toList) (hne : name ≠ "") :
    ∃ folder, Workspace made dir name folder := by
  obtain ⟨g, hg, hgo⟩ := h.graph
  obtain ⟨folder, hb⟩ := exists_beside h.rooted hn hne hg
  obtain ⟨l, hl, hlo⟩ := h.log
  have hgraph := hb.graph g hg
  have hlog := hb.log l hl hlo.1
  have hgiven : ∀ ending ∈ [".json", ".input.npy"],
      made.locate (dir.join (name ++ ending)) = .ok (fileOf folder name ending) ∧
        made.Open (fileOf folder name ending) := by
    intro ending he
    obtain ⟨q, hq, ho⟩ := h.given ending he
    have hf := plain_of_mem_endings ending (given_mem_endings ending he)
    have hp := hb.given ending hf.1 hf.2 q hq
    exact hp ▸ ⟨hq, ho⟩
  have hfound : ∀ ending ∈ [".input.npy", "_converted.json", "_converted.npy"],
      made.locate ((made.graphPath dir name).parent.join (name ++ ending)) =
        .ok (fileOf folder name ending) ∧ made.Open (fileOf folder name ending) := by
    intro ending he
    obtain ⟨q, hq, ho⟩ := h.found ending he
    have hf := plain_of_mem_endings ending (found_mem_endings ending he)
    have hp := hb.found ending hf.1 hf.2 q hq
    exact hp ▸ ⟨hq, ho⟩
  refine ⟨folder, hb, fun e he => (hgiven e he).1, hgraph ▸ hg, fun e he => (hfound e he).1,
    hlog ▸ hl, ?_⟩
  simp only [endings, List.forall_mem_cons, List.not_mem_nil, false_imp_iff, implies_true, and_true]
  exact ⟨hgraph ▸ hgo, (hfound _ (by decide)).2, hlog ▸ hlo, (hfound _ (by decide)).2,
    (hfound _ (by decide)).2⟩

structure Later (made : FileSystem) (name : String) (folder : Location) (fs : FileSystem) :
    Prop where
  alike : made.Alike fs
  isOpen : ∀ ending ∈ endings, fs.Open (fileOf folder name ending)

namespace Later

theorem start (h : Workspace made dir name folder) : Later made name folder made :=
  ⟨fun _ => Iff.rfl, h.isOpen⟩

theorem frame (h : Later made name folder fs) (hf : fs.Frame fs' place) :
    Later made name folder fs' :=
  ⟨h.alike.trans hf.alike, fun e he => hf.isOpen (h.isOpen e he)⟩

theorem withCurrent (h : Later made name folder fs) (cwd : Path) :
    Later made name folder { fs with current := cwd } := ⟨h.alike, h.isOpen⟩

theorem locate (h : Later made name folder fs) (hp : p.isAbsolute = true)
    (hl : made.locate p = .ok place) : fs.locate p = .ok place :=
  (h.alike.locate (.inl hp)).2 hl

end Later

theorem fileOf_ne {e f : String} (h : e ≠ f) : fileOf folder name e ≠ fileOf folder name f :=
  fun he => h (fileOf_injective he)

/-! ## Before the launch -/

structure Prepared (made : FileSystem) (name : String) (folder : Location) (x : Tensor) (g : Graph)
    (fs : FileSystem) : Prop where
  later : Later made name folder fs
  input : fs.Holds (fileOf folder name ".input.npy") ⟨(Npy.encode x).toArray⟩
  graph : fs.Holds (fileOf folder name ".json") g.text.toUTF8

namespace Prepared

variable {x : Tensor} {g : Graph}

theorem frame {ending : String} (h : Prepared made name folder x g fs)
    (hf : fs.Frame fs' (fileOf folder name ending))
    (he : ending ∉ [".json", ".input.npy"]) : Prepared made name folder x g fs' := by
  rw [List.mem_cons, List.mem_singleton, not_or] at he
  exact ⟨h.later.frame hf, hf.holds h.input (fileOf_ne (Ne.symm he.2)),
    hf.holds h.graph (fileOf_ne (Ne.symm he.1))⟩

theorem withCurrent (h : Prepared made name folder x g fs) (cwd : Path) :
    Prepared made name folder x g { fs with current := cwd } :=
  ⟨h.later.withCurrent cwd, h.input, h.graph⟩

end Prepared

theorem Workspace.export (h : Workspace made dir name folder) {q : OperatorSequence} {x : Tensor}
    (hn : isGraphName name = true) {shapes : List Shape}
    (hi : q.inferShapes x.shape = .ok shapes) (hd : Npy.isDescribable x.shape = true) :
    ∃ fs, (exportGraph q x dir name).exec made =
        (.ok ⟨dir.join (name ++ ".json"), dir.join (name ++ ".input.npy"), x.shape⟩, fs) ∧
      Prepared made name folder x (exportedGraph q x.shape name) fs ∧
        fs.current = made.current := by
  obtain ⟨mid, hw, hf, hx⟩ := exists_write (h.given ".input.npy" (by decide))
    (h.isOpen ".input.npy" (by decide)) ⟨(Npy.encode x).toArray⟩
  have hmid := (Later.start h).frame hf
  have hl := (hmid.alike.locate (.inr hf.current)).2 (h.given ".json" (by decide))
  obtain ⟨fs, hw', hf', hg⟩ := exists_write hl (hmid.isOpen ".json" (by decide))
    (exportedGraph q x.shape name).text.toUTF8
  refine ⟨fs, exportGraph_eq_ok.2
    ⟨hn, ⟨shapes, hi⟩, rfl, mid, writeTensor?_eq_some.2 ⟨hd, hw⟩, hw'⟩, ?_,
    hf'.current.trans hf.current⟩
  exact ⟨hmid.frame hf', hf'.holds hx (fileOf_ne (by decide)), hg⟩

theorem removeStale_of_open (hl : fs.locate p = .ok place) (ho : fs.Open place) :
    ∃ fs', (removeStale p).exec fs = (.ok (), fs') ∧ fs.Frame fs' place := by
  unfold exec removeStale
  rcases remove_of_open hl ho with ⟨hr, hf⟩ | ⟨fs', hr, hf⟩
  · exact ⟨fs, by rw [hr], hf⟩
  · exact ⟨fs', by rw [hr], hf⟩

def artifactOf (made : FileSystem) (dir : Path) (name : String) : Artifact :=
  ⟨(made.graphPath dir name).parent.join (name ++ "_converted.json"),
    (made.graphPath dir name).parent.join (name ++ "_converted.npy")⟩

theorem Workspace.ready (h : Workspace made dir name folder) {x : Tensor} {g : Graph}
    (hp : Prepared made name folder x g fs) (hc : fs.current = made.current) (d : Driver)
    (s : Shape) :
    ∃ before, (d.ready (dir.join (name ++ ".json")) s).exec fs =
        (.ok (d.invocation fs (made.graphPath dir name) s, artifactOf made dir name), before) ∧
      Prepared made name folder x g before ∧ before.current = made.current := by
  have hgraph : fs.absolute (dir.join (name ++ ".json")) = made.graphPath dir name :=
    absolute_congr hc _
  have hmodule := h.beside.rooted_found "_converted.json" (by decide)
  have hparam := h.beside.rooted_found "_converted.npy" (by decide)
  obtain ⟨first, hr, hf⟩ := removeStale_of_open
    (hp.later.locate hmodule (h.found "_converted.json" (by decide)))
    (hp.later.isOpen _ (by decide))
  have hp1 := hp.frame hf (by decide)
  obtain ⟨second, hr', hf'⟩ := removeStale_of_open
    (hp1.later.locate hparam (h.found "_converted.npy" (by decide)))
    (hp1.later.isOpen _ (by decide))
  have hp2 := hp1.frame hf' (by decide)
  obtain ⟨before, hw, hf'', -⟩ := exists_write (hp2.later.locate h.beside.rooted_log h.log)
    (hp2.later.isOpen _ (by decide)) .empty
  refine ⟨before, Driver.ready_eq_ok.2 ⟨by rw [hgraph], ?_, first, second, hr, hr', hw⟩,
    hp2.frame hf'' (by decide), ?_⟩
  · rw [hgraph, convertedPaths_of_stem h.beside.stem]
    rfl
  · rw [hf''.current, hf'.current, hf.current, hc]

/-! ## The conversion -/

/-- A shape that can be written as an argument, and whose tensors can be stored. -/
structure Storable (s : Shape) : Prop where
  nonempty : s ≠ []
  positive : 0 ∉ s
  rank_lt : s.length < 2 ^ 24
  addressable : addressable s = true

theorem Storable.words {s : Shape} (h : Storable s) : ∀ d ∈ s, d < wordLimit :=
  fun _ => lt_of_addressable h.addressable

theorem Storable.describable {s : Shape} (h : Storable s) : Npy.isDescribable s = true :=
  Npy.isDescribable_of_rank h.addressable h.rank_lt

structure Converted (made : FileSystem) (name : String) (folder : Location) (x : Tensor)
    (m : Module) (fs : FileSystem) : Prop where
  later : Later made name folder fs
  params : fs.Holds (fileOf folder name "_converted.npy") ⟨(Npy.encode x).toArray⟩
  code : fs.Holds (fileOf folder name "_converted.json") m.text.toUTF8

variable {x y : Tensor} {q : OperatorSequence} {m : Module}

theorem Workspace.convert (h : Workspace made dir name folder)
    (hp : Prepared made name folder x (exportedGraph q x.shape name) fs) (hs : Storable x.shape)
    (hplain : '=' ∉ (made.graphPath dir name).toList)
    (hg : (exportedGraph q x.shape name).IsWords)
    (hm : (exportedGraph q x.shape name).lower x.shape (paramName (artifactOf made dir name)) =
      .ok m) :
    ∃ after, (ConvertCommand.run [made.graphPath dir name, ShapeArgument.format x.shape]).exec fs =
        (.ok (artifactOf made dir name), after) ∧ Converted made name folder x m after := by
  have hpaths : convertedPaths (made.graphPath dir name) = .ok (artifactOf made dir name) :=
    convertedPaths_of_stem h.beside.stem
  have hgraph : readGraph fs (made.graphPath dir name) = .ok (exportedGraph q x.shape name) :=
    readGraph_eq_ok.2 ⟨_, readText?_of_holds (hp.later.locate h.beside.rooted h.graph) hp.graph,
      Graph.ofText_text hg⟩
  have hinput : fs.readTensor ((made.graphPath dir name).parent.join
      (exportedGraph q x.shape name).inputFile) = .ok x := by
    have hroot := h.beside.rooted_found ".input.npy" (by decide)
    exact readTensor_of_holds (hp.later.locate hroot (h.found ".input.npy" List.mem_cons_self))
      hp.input hs.addressable hs.describable
  have hplan : planConversion (made.graphPath dir name) x.shape fs =
      .ok ⟨artifactOf made dir name, x, m⟩ :=
    planConversion_eq_ok.2 ⟨_, hgraph, hpaths, hm, hinput, rfl⟩
  have hroot := h.beside.rooted_found "_converted.npy" (by decide)
  have hparse := ConvertCommand.parse_arguments hplain hs.nonempty hs.words
  rw [if_neg hs.positive] at hparse
  obtain ⟨mid, hw, hf, hparams⟩ := exists_write
    (hp.later.locate hroot (h.found "_converted.npy" (by decide)))
    (hp.later.isOpen "_converted.npy" (by decide)) ⟨(Npy.encode x).toArray⟩
  have hmid := hp.later.frame hf
  have hroot := h.beside.rooted_found "_converted.json" (by decide)
  obtain ⟨after, hw', hf', hcode⟩ := exists_write
    (hmid.locate hroot (h.found "_converted.json" (by decide)))
    (hmid.isOpen "_converted.json" (by decide)) m.text.toUTF8
  refine ⟨after, ConvertCommand.run_eq_ok.2 ⟨_, _, hparse,
    convertGraphFile_eq_ok.2 ⟨_, mid, hplan, rfl,
      writeTensor?_eq_some.2 ⟨hs.describable, hw⟩, hw'⟩⟩, ?_⟩
  exact ⟨hmid.frame hf', hf'.holds hparams (fileOf_ne (by decide)), hcode⟩

namespace Converted

theorem log {after : FileSystem} (h : Converted made name folder x m fs)
    (ha : ∀ q, after.node? q = fs.node? q ∨
      q = fileOf folder name ".convert.log" ∧ ∃ text, after.Holds q text) :
    Converted made name folder x m after := by
  have hlater := h.later
  have hlog := hlater.isOpen ".convert.log" (by decide)
  have halike : fs.Alike after := by
    intro q
    rcases ha q with he | ⟨rfl, text, ht⟩
    · rw [he]
    · exact iff_of_false ht.isOpen.1 hlog.1
  have hopen : ∀ q, fs.Open q → after.Open q := by
    intro q ho
    rcases ha q with he | ⟨-, text, ht⟩
    · rw [Open, he]
      exact ho
    · exact ht.isOpen
  have hkeep : ∀ q content, q ≠ fileOf folder name ".convert.log" → fs.Holds q content →
      after.Holds q content := by
    intro q content hq hh
    rw [Holds, (ha q).resolve_right fun hr => hq hr.1]
    exact hh
  exact ⟨⟨hlater.alike.trans halike, fun e he => hopen _ (hlater.isOpen e he)⟩,
    hkeep _ _ (fileOf_ne (by decide)) h.params, hkeep _ _ (fileOf_ne (by decide)) h.code⟩

theorem isFile (h : Converted made name folder x m fs) (hw : Workspace made dir name folder) :
    fs.isFile (artifactOf made dir name).modulePath = true ∧
      fs.isFile (artifactOf made dir name).paramPath = true := by
  have hm := hw.beside.rooted_found "_converted.json" (by decide)
  have hp := hw.beside.rooted_found "_converted.npy" (by decide)
  exact ⟨isFile_of_holds (h.later.locate hm (hw.found "_converted.json" (by decide))) h.code,
    isFile_of_holds (h.later.locate hp (hw.found "_converted.npy" (by decide))) h.params⟩

theorem execute (h : Converted made name folder x m fs) (hw : Workspace made dir name folder)
    (hs : Storable x.shape) (hm : m.Written) (hv : m.version = formatVersion) {l : LoadedModule}
    (hl : m.load x = .ok l) (hy : l.infer = .ok y) (hx : x.Agree Binary32.equal x) :
    PoolCheck.execute (artifactOf made dir name) x y.shape fs = .ok y := by
  have hrm := hw.beside.rooted_found "_converted.json" (by decide)
  have hrp := hw.beside.rooted_found "_converted.npy" (by decide)
  have hcode : readModule fs (artifactOf made dir name).modulePath = .ok m :=
    readModule_eq_ok.2 ⟨_, readText?_of_holds
      (h.later.locate hrm (hw.found "_converted.json" (by decide))) h.code,
      Module.ofText_text hm, hv⟩
  have hparams : fs.readTensor (artifactOf made dir name).paramPath = .ok x :=
    readTensor_of_holds (h.later.locate hrp (hw.found "_converted.npy" (by decide))) h.params
      hs.addressable hs.describable
  refine execute_eq_ok.2 ⟨l, loadModule_eq_ok.2 ⟨m, x, hcode, hparams, hl⟩, ?_, hy, rfl⟩
  obtain ⟨-, map, hmap, rfl⟩ := Module.load_eq_ok.1 hl
  rw [Tensor.toTensor_toFeatureMap hmap, Tensor.equal_iff]
  exact hx

end Converted

end PoolCheck
