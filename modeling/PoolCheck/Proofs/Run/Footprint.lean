import PoolCheck.Proofs.Directory
import PoolCheck.Proofs.Run.Blame

/-!
# Where a run writes

Each step of a run before the launch writes or removes files whose names are made from the name of
the run, and all of these are in the directory of the run. So is what the converter of this library
writes, which takes its names from the graph.
-/

set_option autoImplicit false

namespace PoolCheck

open PoolCheck.Action

variable {made fs fs' : FileSystem} {dir graph p : Path} {name : String} {place q : Location}
variable {S : Location → Prop}

namespace FileSystem

/-! ## Changes inside -/

/-- A file that can be kept under this path would be at one of these locations. -/
def Lands (fs : FileSystem) (S : Location → Prop) (p : Path) : Prop :=
  ∀ q, fs.locate p = .ok q → fs.node? q ≠ some .directory → S q

/-- No directory was made or removed, and nothing changed but files at these locations. -/
structure Inside (made : FileSystem) (S : Location → Prop) (fs : FileSystem) : Prop where
  current : fs.current = made.current
  alike : made.Alike fs
  other : ∀ q, ¬S q → fs.seen q = made.seen q

namespace Inside

theorem start (made : FileSystem) (S : Location → Prop) : made.Inside S made :=
  ⟨rfl, fun _ => Iff.rfl, fun _ _ => rfl⟩

theorem trans (h : made.Inside S fs) (h' : fs.Inside S fs') : made.Inside S fs' :=
  ⟨h'.current.trans h.current, h.alike.trans h'.alike,
    fun q hq => (h'.other q hq).trans (h.other q hq)⟩

theorem mono {T : Location → Prop} (h : made.Inside S fs) (hT : ∀ q, S q → T q) :
    made.Inside T fs :=
  ⟨h.current, h.alike, fun q hq => h.other q fun hs => hq (hT q hs)⟩

theorem lands (h : made.Inside S fs) (hp : made.Lands S p) : fs.Lands S p := by
  intro q hq hd
  exact hp q ((h.alike.locate (.inr h.current)).1 hq) fun hd' => hd ((h.alike q).2 hd')

theorem change (h : made.Inside S fs) (hS : S place) (hc : fs'.current = fs.current)
    (hd : fs.node? place ≠ some .directory) (hd' : fs'.node? place ≠ some .directory)
    (ho : ∀ q, q ≠ place → fs'.seen q = fs.seen q) : made.Inside S fs' := by
  refine ⟨hc.trans h.current, h.alike.trans fun q => ?_, fun q hq => ?_⟩
  · by_cases he : q = place
    · rw [he]
      exact iff_of_false hd' hd
    · rw [node?_of_seen (ho q he)]
  · rw [ho q fun he => hq (he ▸ hS), h.other q hq]

theorem write {content : ByteArray} (h : made.Inside S fs) (hp : made.Lands S p)
    (hw : fs.write? p content = some fs') : made.Inside S fs' := by
  obtain ⟨place, hl, hd, ⟨-, rfl⟩ | ⟨executable, rfl⟩⟩ := write?_eq_some hw
  · exact h
  · have hroot := ne_root_of_not_directory hd
    exact h.change (h.lands hp place hl hd) rfl hd (by simp [node?_set hroot])
      fun q hq => seen_set hroot _ _ hq

theorem writeTensor {x : Tensor} (h : made.Inside S fs) (hp : made.Lands S p)
    (hw : fs.writeTensor? p x = some fs') : made.Inside S fs' :=
  h.write hp (writeTensor?_eq_some.1 hw).2

theorem remove (h : made.Inside S fs) (hp : made.Lands S p) (hr : fs.remove p = .ok fs') :
    made.Inside S fs' := by
  unfold FileSystem.remove at hr
  split at hr
  · cases hr
  · next place hl =>
    split at hr
    case h_4 content executable hn =>
      cases hr
      have hd : fs.node? place ≠ some .directory := by simp [hn]
      have hroot := ne_root_of_not_directory hd
      exact h.change (h.lands hp place hl hd) rfl hd (by simp [node?_erase hroot])
        fun q hq => seen_erase hroot hq
    all_goals cases hr

theorem find? (h : made.Inside S fs) (hp : ∀ q, made.locate p = .ok q → ¬S q) :
    fs.find? p = made.find? p := by
  have hloc : ∀ q, fs.locate p = .ok q ↔ made.locate p = .ok q := fun q =>
    h.alike.locate (.inr h.current)
  unfold FileSystem.find?
  cases hm : made.locate p with
  | ok q =>
    rw [(hloc q).2 hm]
    exact node?_of_seen (h.other q (hp q hm))
  | error e =>
    cases hf : fs.locate p with
    | error e => rfl
    | ok q =>
      rw [(hloc q).1 hf] at hm
      cases hm

end Inside

theorem Lands.mono {T : Location → Prop} (h : fs.Lands S p) (hT : ∀ q, S q → T q) :
    fs.Lands T p := fun q hq hd => hT q (h q hq hd)

/-! ## The files of a run -/

def Named (fs : FileSystem) (dir : Path) (name ending : String) (q : Location) : Prop :=
  ∃ folder, fs.walk [] (fs.route dir) = .ok folder ∧ q = fileOf folder name ending

theorem Named.below {ending : String} (h : fs.Named dir name ending q) : fs.Below dir q := by
  obtain ⟨folder, hf, rfl⟩ := h
  exact ⟨folder, hf, List.prefix_append _ _, by simp [fileOf]⟩

theorem Named.ne {e f : String} {r : Location} (hq : fs.Named dir name e q)
    (hr : fs.Named dir name f r) (h : e ≠ f) : q ≠ r := by
  obtain ⟨folder, hf, rfl⟩ := hq
  obtain ⟨other, ho, rfl⟩ := hr
  cases hf.symm.trans ho
  exact fileOf_ne h

theorem PathIn.named {ending : String} (h : fs.PathIn dir p (name ++ ending))
    (he : 2 < ending.length) (hq : fs.locate p = .ok q) : fs.Named dir name ending q := by
  obtain ⟨folder, hf, -, rfl⟩ := h.locate (lt_length_append he) hq
  exact ⟨folder, hf, rfl⟩

theorem PathIn.lands {ending : String} (h : fs.PathIn dir p (name ++ ending))
    (he : 2 < ending.length) : fs.Lands (fs.Named dir name ending) p :=
  fun _ hq _ => h.named he hq

def texts (fs : FileSystem) (dir : Path) (name : String) : List (Path × String) :=
  [(dir.join (name ++ ".json"), ".json"), (dir.join (name ++ ".input.npy"), ".input.npy"),
    (fs.graphPath dir name, ".json"),
    ((fs.graphPath dir name).withExtension "convert.log", ".convert.log"),
    ((artifactOf fs dir name).modulePath, "_converted.json"),
    ((artifactOf fs dir name).paramPath, "_converted.npy")]

/-- No name without slashes lets a file get out of the directory. -/
theorem texts_land (hc : Path.isAbsolute fs.current = true) (dir : Path) (hn : '/' ∉ name.toList)
    (hne : name ≠ "") : ∀ t ∈ fs.texts dir name, fs.Lands (fs.Named dir name t.2) t.1 := by
  have hgraph := pathIn_graph hc dir hn
  have hfound : ∀ ending : String, '/' ∉ ending.toList →
      fs.PathIn dir ((fs.graphPath dir name).parent.join (name ++ ending)) (name ++ ending) :=
    fun ending he => (hgraph.beside (isAbsolute_absolute hc _) (lt_length_append (by decide))
      (no_slash_append hn he)).2
  simp only [texts, List.forall_mem_cons, List.not_mem_nil, false_imp_iff, implies_true, and_true]
  refine ⟨(pathIn_join fs dir (no_slash_append hn (by decide))).lands (by decide),
    (pathIn_join fs dir (no_slash_append hn (by decide))).lands (by decide),
    hgraph.lands (by decide), ?_, (hfound _ (by decide)).lands (by decide),
    (hfound _ (by decide)).lands (by decide)⟩
  rcases (pathIn_log hc dir hn hne).2 with hlog | hback
  · exact hlog.lands (by decide)
  · exact fun q hq hd => absurd (hback q hq) hd

theorem convertedPaths_graphPath (hc : Path.isAbsolute fs.current = true) (dir : Path)
    (hn : '/' ∉ name.toList) (hne : name ≠ "") :
    convertedPaths (fs.graphPath dir name) = .ok (artifactOf fs dir name) :=
  convertedPaths_of_stem (stem_graphPath hc dir hn hne)

end FileSystem

open FileSystem

theorem exportGraph_keeps (seq : OperatorSequence) (x : Tensor)
    (hS : ∀ ending ∈ [".json", ".input.npy"], ∀ q, made.Named dir name ending q → S q) :
    Keeps (made.Inside S) (exportGraph seq x dir name) := by
  cases hname : isGraphName name with
  | false =>
    intro fs h
    rwa [exec_exportGraph_of_name hname]
  | true =>
    have hland : ∀ ending ∈ [".json", ".input.npy"], '/' ∉ ending.toList → 2 < ending.length →
        made.Lands S (dir.join (name ++ ending)) := fun ending he hs hl =>
      ((pathIn_join made dir (no_slash_append (not_mem_of_isGraphName hname) hs)).lands hl).mono
        (hS ending he)
    have hgraph := hland ".json" (by simp) (by decide) (by decide)
    have hinput := hland ".input.npy" (by simp) (by decide) (by decide)
    unfold exportGraph
    simp only [hname, Bool.not_true, Bool.false_eq_true, if_false]
    refine Keeps.bind (keeps_ask _) fun _ _ _ _ _ => ?_
    refine Keeps.bind (keeps_change _ fun _ _ h hw => h.writeTensor hinput hw) fun _ _ _ _ _ => ?_
    exact Keeps.bind (keeps_change _ fun _ _ h hw => h.write hgraph hw) fun _ _ _ _ _ =>
      keeps_pure _

theorem folder_of_export {seq : OperatorSequence} {x : Tensor} {e : Exported}
    (h : (exportGraph seq x dir name).exec made = (.ok e, fs)) : ∃ folder,
      made.walk [] (made.route dir) = .ok folder ∧ made.node? folder = some .directory := by
  obtain ⟨hname, -, rfl, mid, hw, -⟩ := exportGraph_eq_ok.1 h
  obtain ⟨place, hl, -⟩ := write?_eq_some (writeTensor?_eq_some.1 hw).2
  have hslash : '/' ∉ (name ++ ".input.npy").toList :=
    no_slash_append (not_mem_of_isGraphName hname) (by decide)
  have hpath := pathIn_join made dir hslash
  obtain ⟨folder, hf, hd, -⟩ := hpath.locate (lt_length_append (by decide)) hl
  exact ⟨folder, hf, hd⟩

theorem removeStale_keeps (hp : made.Lands S p) : Keeps (made.Inside S) (removeStale p) := by
  intro fs h
  unfold exec removeStale
  split
  · next hr => exact h.remove hp hr
  · exact h
  · exact h

namespace Driver

theorem ready_keeps {d : Driver} {shape : Shape}
    (ha : ∀ a, convertedPaths (made.absolute graph) = .ok a →
      made.Lands S a.modulePath ∧ made.Lands S a.paramPath)
    (hl : made.Lands S ((made.absolute graph).withExtension "convert.log")) :
    Keeps (made.Inside S) (d.ready graph shape) := by
  unfold ready
  refine Keeps.bind keeps_get fun now before _ hb he => ?_
  have hgraph : now.absolute graph = made.absolute graph := by
    obtain ⟨rfl, -⟩ := get_eq_ok.1 he
    exact absolute_congr hb.current graph
  rw [hgraph]
  refine Keeps.bind keeps_get fun _ _ _ _ _ => ?_
  refine Keeps.bind (keeps_ask _) fun a _ _ _ hpaths => ?_
  obtain ⟨hmodule, hparam⟩ := ha a (ask_eq_ok.1 hpaths).1
  refine Keeps.bind (removeStale_keeps hmodule) fun _ _ _ _ _ => ?_
  refine Keeps.bind (removeStale_keeps hparam) fun _ _ _ _ _ => ?_
  exact Keeps.bind (keeps_change _ fun _ _ h hw => h.write hl hw) fun _ _ _ _ _ => keeps_pure _

end Driver

theorem Driver.keeps (hc : Path.isAbsolute made.current = true) (hn : '/' ∉ name.toList)
    (hne : name ≠ "") (d : Driver) (shape : Shape)
    (hS : ∀ ending ∈ [".convert.log", "_converted.json", "_converted.npy"], ∀ q,
      made.Named dir name ending q → S q) :
    Keeps (made.Inside S) (d.ready (dir.join (name ++ ".json")) shape) := by
  have hland := texts_land hc dir hn hne
  simp only [texts, List.forall_mem_cons, List.not_mem_nil, false_imp_iff, implies_true,
    and_true] at hland hS
  obtain ⟨-, -, -, hlog, hmodule, hparam⟩ := hland
  refine ready_keeps (fun a ha => ?_) (hlog.mono hS.1)
  cases (convertedPaths_graphPath hc dir hn hne).symm.trans ha
  exact ⟨hmodule.mono hS.2.1, hparam.mono hS.2.2⟩

theorem Driver.retains (hc : Path.isAbsolute fs.current = true) (dir : Path)
    (hn : '/' ∉ name.toList) (hne : name ≠ "") (d : Driver) (shape : Shape) :
    ∀ ending ∈ [".json", ".input.npy"],
      ((d.ready (dir.join (name ++ ".json")) shape).exec fs).2.find? (dir.join (name ++ ending)) =
        fs.find? (dir.join (name ++ ending)) := by
  intro ending he
  have hown : Keeps (fs.Inside fun q => ∃ other ∈
      [".convert.log", "_converted.json", "_converted.npy"], fs.Named dir name other q)
      (d.ready (dir.join (name ++ ".json")) shape) :=
    keeps hc hn hne d shape fun other ho _ hq => ⟨other, ho, hq⟩
  refine (hown fs (.start fs _)).find? fun q hq => ?_
  rintro ⟨other, ho, hother⟩
  obtain ⟨hs, hl⟩ := plain_of_mem_endings ending (given_mem_endings ending he)
  have hdistinct : ∀ e ∈ [".json", ".input.npy"],
      ∀ o ∈ [".convert.log", "_converted.json", "_converted.npy"], e ≠ o := by decide
  have hq := (pathIn_join fs dir (no_slash_append hn hs)).named hl hq
  exact hq.ne hother (hdistinct ending he other ho) rfl

/-! ## The converter -/

theorem convertedPaths_land {a : Artifact} (ha : convertedPaths graph = .ok a) (fs : FileSystem) :
    ∃ parent, Path.parent? graph = some parent ∧ fs.Lands (fs.Below parent) a.modulePath ∧
      fs.Lands (fs.Below parent) a.paramPath := by
  obtain ⟨stem, hstem, rfl⟩ := convertedPaths_eq_ok ha
  obtain ⟨parent, hparent⟩ := Path.exists_parent_of_stem hstem
  have hland : ∀ ending : String, '/' ∉ ending.toList → fs.Lands (fs.Below parent)
      (graph.parent.join (String.ofList (convertedName stem ending))) := by
    intro ending he q hq _
    rw [Path.parent, hparent, Option.getD_some] at hq
    have hslash := no_slash_convertedName (Path.stem_no_slash hstem) he
    have hpath : fs.PathIn parent _ (String.ofList (convertedName stem ending)) :=
      pathIn_join fs parent (by rwa [String.toList_ofList])
    have hlong : 2 < (String.ofList (convertedName stem ending)).length := by
      rw [String.length_ofList]
      exact (by decide : 2 < 9).trans (length_convertedName stem ending)
    obtain ⟨folder, hf, -, rfl⟩ := hpath.locate hlong hq
    exact ⟨folder, hf, List.prefix_append _ _, by simp⟩
  exact ⟨parent, hparent, hland ".json" (by decide), hland ".npy" (by decide)⟩

theorem convertGraphFile_keeps (declared : Shape)
    (ha : ∀ a, convertedPaths graph = .ok a →
      made.Lands S a.modulePath ∧ made.Lands S a.paramPath) :
    Keeps (made.Inside S) (convertGraphFile graph declared) := by
  refine Keeps.bind (keeps_ask _) fun plan _ _ _ hplan => ?_
  obtain ⟨_, -, hpaths, -⟩ := planConversion_eq_ok.1 (ask_eq_ok.1 hplan).1
  obtain ⟨hmodule, hparam⟩ := ha _ hpaths
  refine Keeps.bind (keeps_change _ fun _ _ h hw => h.writeTensor hparam hw) fun _ _ _ _ _ => ?_
  exact Keeps.bind (keeps_change _ fun _ _ h hw => h.write hmodule hw) fun _ _ _ _ _ =>
    keeps_pure _

theorem ConvertCommand.run_keeps {arg : String} (harg : isShapeArgument arg = true)
    (ha : ∀ a, convertedPaths graph = .ok a →
      made.Lands S a.modulePath ∧ made.Lands S a.paramPath) :
    Keeps (made.Inside S) (ConvertCommand.run [graph, arg]) := by
  refine Keeps.bind (keeps_ask _) fun gs _ _ _ hgs => ?_
  obtain ⟨g, declared⟩ := gs
  cases graph_of_parse harg (ask_eq_ok.1 hgs).1
  exact convertGraphFile_keeps declared ha

end PoolCheck
