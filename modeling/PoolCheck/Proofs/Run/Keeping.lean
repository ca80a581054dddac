import PoolCheck.Proofs.Run.Sharing
import PoolCheck.Proofs.Run.Stepwise

/-!
# Each run keeps to its own files

A run that is taken step by step looks at its five files and changes no others. What it finds at
them depends on nothing but them and the directories, with one exception that has to be excluded:
why a path leads nowhere may depend on what is on the way. The converter takes the name of the input
from the graph, so it keeps to the files of the run because the graph is the one that was exported.
-/

set_option autoImplicit false

namespace PoolCheck

open PoolCheck.Action PoolCheck.Course FileSystem

variable {made fs now : FileSystem} {dir graph p : Path} {name : String} {folder q : Location}
variable {g : Graph}

namespace FileSystem

def Standing (fs : FileSystem) (dir : Path) : Prop :=
  ∃ folder, fs.walk [] (fs.route dir) = .ok folder ∧ fs.node? folder = some .directory

/-! ## The files of a run -/

/-- The five files of a run. -/
def Owned (fs : FileSystem) (dir : Path) (name : String) (q : Location) : Prop :=
  ∃ ending ∈ endings, fs.Named dir name ending q

theorem eq_of_suffix : ∀ e ∈ endings, ∀ f ∈ endings, f.toList <:+ e.toList →
    e = f ∨ e = "_converted" ++ f := by decide

theorem eq_of_longer {a b e f : String} {t : List Char} (he : e ∈ endings) (hf : f ∈ endings)
    (hb : b.toList = a.toList ++ t) (ht : e.toList = t ++ f.toList) :
    b = a ∨ b = a ++ "_converted" := by
  rw [← String.toList_inj, ← String.toList_inj, String.toList_append, hb]
  rcases eq_of_suffix e he f hf ⟨t, ht.symm⟩ with rfl | rfl
  · left
    rw [List.self_eq_append_left.1 ht, List.append_nil]
  · right
    rw [String.toList_append, List.append_left_inj] at ht
    rw [ht]

/-- Two names give the same file only when one is the other with the mark of what is converted. -/
theorem eq_of_append_eq {a b e f : String} (he : e ∈ endings) (hf : f ∈ endings)
    (h : a ++ e = b ++ f) : a = b ∨ a = b ++ "_converted" ∨ b = a ++ "_converted" := by
  rw [← String.toList_inj, String.toList_append, String.toList_append] at h
  rcases List.append_eq_append_iff.1 h with ⟨t, hb, ht⟩ | ⟨t, ha, ht⟩
  · exact (eq_of_longer he hf hb ht).imp Eq.symm .inr
  · exact (eq_of_longer hf he ha ht).imp_right .inl

theorem Owned.eq_of_common {other : String} (h : fs.Owned dir name q) (h' : fs.Owned dir other q) :
    name = other ∨ name = other ++ "_converted" ∨ other = name ++ "_converted" := by
  obtain ⟨e, he, folder, hf, rfl⟩ := h
  obtain ⟨e', he', folder', hf', heq⟩ := h'
  cases hf.symm.trans hf'
  rw [fileOf, fileOf, List.append_cancel_left_eq, List.cons.injEq] at heq
  exact eq_of_append_eq he he' heq.1

theorem owned_of_named {ending : String} (he : ending ∈ endings)
    (h : fs.Named dir name ending q) : fs.Owned dir name q := ⟨ending, he, h⟩

theorem PathIn.owned {ending : String} (h : fs.PathIn dir p (name ++ ending))
    (he : ending ∈ endings) : fs.Lands (fs.Owned dir name) p :=
  (h.lands (plain_of_mem_endings ending he).2).mono fun _ => owned_of_named he

end FileSystem

/-- As long as only files of the run change, its paths lead to its files. -/
theorem lands_of_inside (hc : Path.isAbsolute made.current = true) (hn : isGraphName name = true)
    (h : made.Inside (made.Owned dir name) now) :
    now.Lands (made.Owned dir name) (made.graphPath dir name) ∧
    now.Lands (made.Owned dir name) ((made.graphPath dir name).withExtension "convert.log") ∧
    now.Lands (made.Owned dir name) (artifactOf made dir name).modulePath ∧
    now.Lands (made.Owned dir name) (artifactOf made dir name).paramPath := by
  have hland := texts_land hc dir (not_mem_of_isGraphName hn) (ne_empty_of_isGraphName hn)
  simp only [texts, List.forall_mem_cons, List.not_mem_nil, false_imp_iff, implies_true,
    and_true] at hland
  obtain ⟨-, -, hgraph, hlog, hmodule, hparam⟩ := hland
  have howned : ∀ {p : Path} {ending : String}, ending ∈ endings →
      made.Lands (made.Named dir name ending) p → now.Lands (made.Owned dir name) p :=
    fun he hp => h.lands (hp.mono fun _ => owned_of_named he)
  exact ⟨howned (by decide) hgraph, howned (by decide) hlog, howned (by decide) hmodule,
    howned (by decide) hparam⟩

/-! ## The export -/

theorem fillCourse_keepsTo {ε : Type} {S : Location → Prop} (hp : fs.Lands S p)
    (content : ByteArray) (fault : ε) : (fillCourse p content fault).KeepsTo S fs := by
  refine (keepsTo_atom (local_write hp .empty fault)).bind fun _ mid _ hi => ?_
  exact keepsTo_atom (local_write (hi.lands hp) content fault)

theorem tensorCourse_keepsTo {ε : Type} {S : Location → Prop} (hp : fs.Lands S p) (x : Tensor)
    (fault : ε) : (tensorCourse p x fault).KeepsTo S fs := by
  unfold tensorCourse
  cases Npy.isDescribable x.shape with
  | false => exact keepsTo_throw _
  | true => exact fillCourse_keepsTo hp _ _

theorem exportCourse_keepsTo (s : OperatorSequence) (x : Tensor) (dir : Path) (name : String) :
    (exportCourse s x dir name).KeepsTo (made.Owned dir name) made := by
  unfold exportCourse
  cases hname : isGraphName name with
  | false => exact keepsTo_throw _
  | true =>
    have hn := not_mem_of_isGraphName hname
    have hland : ∀ ending ∈ [".json", ".input.npy"],
        made.Lands (made.Owned dir name) (dir.join (name ++ ending)) := by
      intro ending he
      have he' := given_mem_endings ending he
      have hslash := no_slash_append hn (plain_of_mem_endings ending he').1
      exact (pathIn_join made dir hslash).owned he'
    simp only [Bool.not_true, Bool.false_eq_true, if_false]
    refine KeepsTo.bind (keepsTo_settle _) fun _ _ _ hi => ?_
    refine KeepsTo.bind (tensorCourse_keepsTo (hi.lands (hland _ (by simp))) _ _)
      fun _ _ _ hi' => ?_
    refine KeepsTo.bind (fillCourse_keepsTo ((hi.trans hi').lands (hland _ (by simp))) _ _)
      fun _ _ _ _ => ?_
    exact keepsTo_pure _

/-- What an export leaves: its directory, and the graph in it. -/
structure AfterExport (made : FileSystem) (dir : Path) (name : String) (g : Graph)
    (now : FileSystem) : Prop where
  inside : made.Inside (made.Owned dir name) now
  standing : made.Standing dir
  graph : ∀ q, made.Named dir name ".json" q → now.Holds q g.text.toUTF8

theorem afterExport_of_exportGraph {s : OperatorSequence} {x : Tensor} {e : Exported}
    (h : (exportGraph s x dir name).exec made = (.ok e, now)) :
    AfterExport made dir name (exportedGraph s x.shape name) now := by
  have hi := (@exportCourse_keepsTo made s x dir name).inside
  rw [action_exportCourse, h] at hi
  refine ⟨hi, folder_of_export h, fun q hq => ?_⟩
  obtain ⟨hname, -, rfl, mid, hw, hw'⟩ := exportGraph_eq_ok.1 h
  obtain ⟨first, hfirst⟩ := exists_wrote (writeTensor?_eq_some.1 hw).2
  obtain ⟨place, hwrote⟩ := exists_wrote hw'
  have hpath := pathIn_join made dir (no_slash_append (not_mem_of_isGraphName hname)
    (show '/' ∉ ".json".toList by decide))
  obtain ⟨folder, hf, rfl⟩ := hpath.named (by decide) (hfirst.locate.1 hwrote.located)
  obtain ⟨folder', hf', rfl⟩ := hq
  cases hf.symm.trans hf'
  exact hwrote.written (ne_nullDevice_of_last List.getLast?_concat (by simp))

namespace AfterExport

variable {later : FileSystem}

theorem other (h : AfterExport made dir name g now) (hi : now.Inside (made.Owned dir name) later)
    (hg : ∀ q, made.Named dir name ".json" q → later.node? q = now.node? q) :
    AfterExport made dir name g later := by
  refine ⟨h.inside.trans hi, h.standing, fun q hq => ?_⟩
  rw [Holds, hg q hq]
  exact h.graph q hq

theorem readGraph_eq (h : AfterExport made dir name g now)
    (hc : Path.isAbsolute made.current = true) (hn : isGraphName name = true) (hg : g.IsWords) {g' : Graph}
    (hr : readGraph now (made.graphPath dir name) = .ok g') : g' = g := by
  obtain ⟨text, ht, hparse⟩ := readGraph_eq_ok.1 hr
  have hland : ∀ q, now.locate (made.graphPath dir name) = .ok q → made.Named dir name ".json" q :=
    fun q hq => (pathIn_graph hc dir (not_mem_of_isGraphName hn)).named (by decide)
      ((h.inside.alike.locate (.inr h.inside.current)).1 hq)
  cases hl : now.locate (made.graphPath dir name) with
  | error e => simp [readText?, read?, find?, hl] at ht
  | ok q =>
    cases (readText?_of_holds hl (h.graph q (hland q hl))).symm.trans ht
    exact Except.ok.inj (hparse.symm.trans (Graph.ofText_text hg))

end AfterExport

/-! ## What a run looks at -/

theorem SameOn.look_eq {S : Location → Prop} {later : FileSystem} (h : now.SameOn S later)
    (hp : now.Lands S p) : later.read? p = now.read? p := by
  rw [read?, read?, h.find? hp]

theorem absolute_graphPath {S : Location → Prop} (h : made.Inside S now) :
    now.absolute (dir.join (name ++ ".json")) = made.graphPath dir name :=
  absolute_congr h.current _

section Steps

variable (hc : Path.isAbsolute made.current = true) (hn : isGraphName name = true)

include hc hn

theorem artifactOf_eq {a : Artifact} (ha : convertedPaths (made.graphPath dir name) = .ok a) :
    artifactOf made dir name = a :=
  Except.ok.inj ((convertedPaths_graphPath hc dir (not_mem_of_isGraphName hn)
    (ne_empty_of_isGraphName hn)).symm.trans ha)

/-! ## The converter -/

theorem planCourse_keepsTo (h : AfterExport made dir name g now) (hg : g.IsWords)
    (hinput : g.inputFile = name ++ ".input.npy") (declared : Shape) :
    (planCourse (made.graphPath dir name) declared).KeepsTo (made.Owned dir name) now := by
  have hslash := not_mem_of_isGraphName hn
  obtain ⟨hgraph, -⟩ := lands_of_inside hc hn h.inside
  have hbeside := (pathIn_graph hc dir hslash).beside (isAbsolute_absolute hc _)
    (lt_length_append (by decide))
    (no_slash_append hslash (show '/' ∉ ".input.npy".toList by decide))
  have hfile := h.inside.lands (hbeside.2.owned (by decide))
  unfold planCourse
  refine KeepsTo.bind_look (fun later hs => ?_) fun g' hg' => ?_
  · rw [readGraph, readGraph, readText?, readText?, SameOn.look_eq hs hgraph]
  -- The graph says where the input is, so it has to be the graph that was exported.
  cases h.readGraph_eq hc hn hg hg'
  refine KeepsTo.bind_settle fun a _ => KeepsTo.bind_settle fun code _ => ?_
  refine KeepsTo.bind_look (fun later hs => ?_) fun x _ => keepsTo_settle _
  rw [hinput, readTensor, readTensor, SameOn.look_eq hs hfile]

theorem convertCourse_keepsTo (h : AfterExport made dir name g now) (hg : g.IsWords)
    (hinput : g.inputFile = name ++ ".input.npy") (declared : Shape) :
    (convertCourse (made.graphPath dir name) declared).KeepsTo (made.Owned dir name) now := by
  refine KeepsTo.bind (planCourse_keepsTo hc hn h hg hinput declared) fun plan mid hr _ => ?_
  rw [action_planCourse] at hr
  obtain ⟨hplan, rfl⟩ := ask_eq_ok.1 hr
  obtain ⟨_, -, hpaths, -⟩ := planConversion_eq_ok.1 hplan
  dsimp only
  rw [← artifactOf_eq hc hn hpaths]
  obtain ⟨-, -, -, hparam⟩ := lands_of_inside hc hn h.inside
  refine KeepsTo.bind (tensorCourse_keepsTo hparam _ _) fun _ mid _ hi => ?_
  obtain ⟨-, -, hmodule, -⟩ := lands_of_inside hc hn (h.inside.trans hi)
  exact KeepsTo.bind (fillCourse_keepsTo hmodule _ _) fun _ _ _ _ => keepsTo_pure _

theorem process_keepsTo (h : AfterExport made dir name g now) (hg : g.IsWords)
    (hinput : g.inputFile = name ++ ".input.npy") {i : Invocation} {shape : Shape}
    (hi : i.arguments = [made.graphPath dir name, ShapeArgument.format shape])
    (patience : Option Nat) :
    (ConvertCommand.process patience i).KeepsTo (made.Owned dir name) now := by
  have hcourse : (ConvertCommand.course i.arguments).KeepsTo (made.Owned dir name) now := by
    refine KeepsTo.bind_settle fun ⟨graph, declared⟩ hparse => ?_
    rw [hi] at hparse
    cases ConvertCommand.graph_of_parse (ConvertCommand.isShapeArgument_format shape) hparse
    exact convertCourse_keepsTo hc hn h hg hinput declared
  refine (hcourse.routine.cut _).bind ?_
  split <;> trivial

/-! ## The driver -/

namespace Driver

theorem removeStale_local (hd : made.Standing dir) (h : made.Inside (made.Owned dir name) now)
    {ending : String} (he : ending ∈ ["_converted.json", "_converted.npy"]) :
    Local (made.Owned dir name)
      (removeStale ((made.graphPath dir name).parent.join (name ++ ending))).exec now := by
  have hmem : ∀ e ∈ ["_converted.json", "_converted.npy"], e ∈ endings := by decide
  have hslash := not_mem_of_isGraphName hn
  obtain ⟨hs, hl⟩ := plain_of_mem_endings ending (hmem ending he)
  obtain ⟨folder, hf, hd⟩ := hd
  have hpath := ((pathIn_graph hc dir hslash).beside (isAbsolute_absolute hc _)
    (lt_length_append (by decide)) (no_slash_append hslash hs)).2
  have hsame : ∀ {later : FileSystem}, later.current = made.current → made.Alike later →
      later.locate ((made.graphPath dir name).parent.join (name ++ ending)) =
        made.locate ((made.graphPath dir name).parent.join (name ++ ending)) :=
    fun hcur ha => hpath.locate_same (lt_length_append hl) hf hd hcur ha
  refine local_remove (h.lands (hpath.owned (hmem ending he))) fun later hs => ?_
  -- Both paths are compared with the one in the files at the start, where the directory stands.
  rw [hsame h.current h.alike, hsame (hs.current.trans h.current) (h.alike.trans hs.alike)]

theorem readyCourse_keepsTo (hd : made.Standing dir)
    (h : made.Inside (made.Owned dir name) now) (d : Driver) (shape : Shape) :
    (d.readyCourse (dir.join (name ++ ".json")) shape).KeepsTo (made.Owned dir name) now := by
  unfold readyCourse
  refine KeepsTo.bind_look (fun later hs => ?_) fun graph hgraph => ?_
  · rw [absolute_congr hs.current]
  rw [absolute_graphPath h] at hgraph
  obtain rfl := Except.ok.inj hgraph
  refine KeepsTo.bind_look (fun later hs => ?_) fun i hi => ?_
  · rw [invocation, invocation, resolveProgram, resolveProgram, absolute_congr hs.current]
  obtain rfl := Except.ok.inj hi
  refine KeepsTo.bind_settle fun a ha => ?_
  obtain rfl := artifactOf_eq hc hn ha
  have hmodule := @removeStale_local made now dir name hc hn hd h "_converted.json" (by simp)
  refine (keepsTo_atom hmodule).bind fun _ mid _ hi => ?_
  have hparam := @removeStale_local made mid dir name hc hn hd (h.trans hi) "_converted.npy"
    (by simp)
  refine (keepsTo_atom hparam).bind fun _ mid' _ hi' => ?_
  obtain ⟨-, hlog, -⟩ := lands_of_inside hc hn ((h.trans hi).trans hi')
  exact (keepsTo_atom (local_write hlog .empty _)).bind fun _ _ _ _ => keepsTo_pure _

theorem afterExport_of_ready (h : AfterExport made dir name g now) (d : Driver) (shape : Shape) :
    AfterExport made dir name g ((d.ready (dir.join (name ++ ".json")) shape).exec now).2 := by
  have hrooted : Path.isAbsolute now.current = true := h.inside.current ▸ hc
  have hnamed : ∀ e q, now.Named dir name e q ↔ made.Named dir name e q := by
    intro e q
    simp only [Named, route_congr h.inside.current, h.inside.alike.walk]
  have hown : now.Inside (fun q => ∃ other ∈ [".convert.log", "_converted.json", "_converted.npy"],
      made.Named dir name other q) ((d.ready (dir.join (name ++ ".json")) shape).exec now).2 :=
    Driver.keeps hrooted (not_mem_of_isGraphName hn) (ne_empty_of_isGraphName hn) d shape
      (fun other ho q hq => ⟨other, ho, (hnamed other q).1 hq⟩) now (.start now _)
  have hmem : ∀ e ∈ [".convert.log", "_converted.json", "_converted.npy"],
      e ∈ endings ∧ e ≠ ".json" := by decide
  refine h.other (hown.mono fun q hq => ?_) fun q hq => node?_of_seen (hown.other q ?_)
  · obtain ⟨e, he, hq⟩ := hq
    exact owned_of_named (hmem e he).1 hq
  · rintro ⟨e, he, hq'⟩
    exact hq'.ne hq (hmem e he).2 rfl

section Collecting

variable {i : Invocation}

theorem tailCourse_keepsTo (h : made.Inside (made.Owned dir name) now)
    (hi : i.log = (made.graphPath dir name).withExtension "convert.log") :
    (tailCourse i).KeepsTo (made.Owned dir name) now := by
  obtain ⟨-, hlog, -⟩ := lands_of_inside hc hn h
  refine keepsTo_look fun later hs => ?_
  rw [hi, logTail, logTail, readText?, readText?, SameOn.look_eq hs hlog]

theorem presentCourse_keepsTo (h : made.Inside (made.Owned dir name) now)
    (hi : i.log = (made.graphPath dir name).withExtension "convert.log")
    (hp : now.Lands (made.Owned dir name) p) :
    (presentCourse i p).KeepsTo (made.Owned dir name) now := by
  refine KeepsTo.bind_look (fun later hs => ?_) fun _ _ => ?_
  · rw [isFile, isFile, hs.find? hp]
  · split
    · exact (tailCourse_keepsTo hc hn h hi).bind fun _ _ _ _ => keepsTo_throw _
    · exact keepsTo_pure _

theorem collectCourse_keepsTo (h : made.Inside (made.Owned dir name) now)
    (hi : i.log = (made.graphPath dir name).withExtension "convert.log") (ending : Ending) :
    (collectCourse i (artifactOf made dir name) ending).KeepsTo (made.Owned dir name) now := by
  have htail := tailCourse_keepsTo hc hn h hi
  cases ending with
  | notStarted => exact keepsTo_throw _
  | timedOut => exact htail.bind fun _ _ _ _ => keepsTo_throw _
  | exited status =>
    rw [collectCourse]
    split
    · exact htail.bind fun _ _ _ _ => keepsTo_throw _
    · obtain ⟨-, -, hmodule, -⟩ := lands_of_inside hc hn h
      refine (presentCourse_keepsTo hc hn h hi hmodule).bind fun _ mid _ hi' => ?_
      obtain ⟨-, -, -, hparam⟩ := lands_of_inside hc hn (h.trans hi')
      exact (presentCourse_keepsTo hc hn (h.trans hi') hi hparam).bind fun _ _ _ _ =>
        keepsTo_pure _

end Collecting

theorem course_keepsTo (h : AfterExport made dir name g now) (hg : g.IsWords)
    (hinput : g.inputFile = name ++ ".input.npy") (d : Driver) (patience : Option Nat)
    (shape : Shape) :
    (d.course (ConvertCommand.process patience) (dir.join (name ++ ".json")) shape).KeepsTo
      (made.Owned dir name) now := by
  refine (readyCourse_keepsTo hc hn h.standing h.inside d shape).bind fun r before hr _ => ?_
  obtain ⟨i, a⟩ := r
  rw [action_readyCourse] at hr
  have hexport := afterExport_of_ready hc hn h d shape
  rw [hr] at hexport
  obtain ⟨hi, ha, -⟩ := ready_eq_ok.1 hr
  rw [absolute_graphPath h.inside] at hi ha
  obtain rfl := artifactOf_eq hc hn ha
  have harguments : i.arguments = [made.graphPath dir name, ShapeArgument.format shape] := by
    rw [hi, invocation]
  have hlog : i.log = (made.graphPath dir name).withExtension "convert.log" := by
    rw [hi, invocation]
  have hprocess := process_keepsTo hc hn hexport hg hinput harguments patience
  refine (keepsTo_call hprocess).bind fun ending after _ hafter => ?_
  exact collectCourse_keepsTo hc hn (hexport.inside.trans hafter) hlog ending

end Driver

/-! ## The execution -/

theorem executeCourse_keepsTo (h : made.Inside (made.Owned dir name) now) (x : Tensor)
    (expected : Shape) :
    (executeCourse (artifactOf made dir name) x expected).KeepsTo (made.Owned dir name) now := by
  obtain ⟨-, -, hmodule, hparam⟩ := lands_of_inside hc hn h
  have hload : (loadCourse (artifactOf made dir name)).KeepsTo (made.Owned dir name) now := by
    refine KeepsTo.bind_look (fun later hs => ?_) fun _ _ =>
      KeepsTo.bind_look (fun later hs => ?_) fun _ _ => keepsTo_settle _
    · rw [readModule, readModule, readText?, readText?, SameOn.look_eq hs hmodule]
    · rw [readTensor, readTensor, SameOn.look_eq hs hparam]
  exact (hload.mapFault _).bind fun _ _ _ _ => keepsTo_settle _

end Steps

/-! ## The run -/

namespace Config

variable {c : Config} {input : Tensor}

theorem course_keepsTo (hc : Path.isAbsolute made.current = true) (c : Config)
    (patience : Option Nat) (input reference : Tensor) (dir : Path)
    (hw : (exportedGraph c.operators input.shape c.name).IsWords) :
    (c.course (ConvertCommand.process patience) input reference dir).KeepsTo
      (made.Owned dir c.name) made := by
  refine (exportCourse_keepsTo c.operators input dir c.name).bind fun e mid he _ => ?_
  rw [action_exportCourse] at he
  have hexport := afterExport_of_exportGraph he
  obtain ⟨hn, -, rfl, -⟩ := exportGraph_eq_ok.1 he
  refine ((Driver.course_keepsTo hc hn hexport hw rfl c.driver patience input.shape).mapFault
    _).bind fun a after ha hafter => ?_
  -- A driver that succeeds has got ready, so what it gives is named after the graph.
  rw [action_mapFault, Driver.action_course, mapFault_eq_ok] at ha
  obtain ⟨i, before, hr, -⟩ := Driver.drive_eq_ok.1 ha
  obtain ⟨-, ha, -⟩ := Driver.ready_eq_ok.1 hr
  rw [absolute_graphPath hexport.inside] at ha
  obtain rfl := artifactOf_eq hc hn ha
  refine (executeCourse_keepsTo hc hn (hexport.inside.trans hafter) input reference.shape).bind
    fun _ _ _ _ => ?_
  exact KeepsTo.bind_settle fun _ _ => keepsTo_settle _

end Config

end PoolCheck
