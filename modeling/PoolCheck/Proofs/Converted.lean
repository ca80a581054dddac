import PoolCheck.Proofs.Composition
import PoolCheck.Proofs.Decoded
import PoolCheck.Proofs.TensorFile
import PoolCheck.Proofs.Written

/-!
# Conversions are all or nothing

Whatever is wrong with a graph, its input or the declared shape stops a conversion before it writes,
and its fault says what is wrong. A conversion that succeeds wrote two files beside the graph, and
they are read back as the input and as the lowered graph.
-/

set_option autoImplicit false

namespace PoolCheck

open PoolCheck.Action FileSystem

variable {fs fs' : FileSystem} {graph : Path} {declared : Shape} {a : Artifact}
variable {e : ConversionFault} {plan : ConversionPlan} {q r : Location}

/-! ## What stops a conversion -/

/-- A conversion cannot be planned, and why. -/
inductive Unplanned (fs : FileSystem) (graph : Path) (declared : Shape) : ConversionFault → Prop
  | unreadable (h : fs.readText? graph = none) :
      Unplanned fs graph declared (.unreadableGraph graph)
  | malformed {text : String} (hr : fs.readText? graph = some text)
      (hg : Graph.ofText text = .error .malformed) : Unplanned fs graph declared .malformedGraph
  | refused {text : String} {cause : ConfigFault} (hr : fs.readText? graph = some text)
      (hg : Graph.ofText text = .error (.refused cause)) :
      Unplanned fs graph declared (.refusedGraph cause)
  | nameless {g : Graph} (hg : readGraph fs graph = .ok g) (hn : graph.fileStem? = none) :
      Unplanned fs graph declared (.noFileName graph)
  | lowering {g : Graph} {a : Artifact} {e : ConversionFault} (hg : readGraph fs graph = .ok g)
      (ha : convertedPaths graph = .ok a) (hl : g.lower declared (paramName a) = .error e) :
      Unplanned fs graph declared e
  | input {g : Graph} {cause : TensorFault} (hg : readGraph fs graph = .ok g)
      (hi : fs.readTensor (graph.parent.join g.inputFile) = .error cause) :
      Unplanned fs graph declared (.unreadableInput cause)
  | shape {g : Graph} {x : Tensor} (hg : readGraph fs graph = .ok g)
      (hi : fs.readTensor (graph.parent.join g.inputFile) = .ok x) (hs : x.shape ≠ declared) :
      Unplanned fs graph declared (.storedShape x.shape declared)

theorem unplanned_of_readGraph (h : readGraph fs graph = .error e) :
    Unplanned fs graph declared e := by
  unfold readGraph at h
  split at h
  · next hr =>
    cases h
    exact .unreadable hr
  · next text hr =>
    split at h
    · cases h
    · next hg =>
      cases h
      exact .malformed hr hg
    · next cause hg =>
      cases h
      exact .refused hr hg

theorem unplanned_of_plan (h : planConversion graph declared fs = .error e) :
    Unplanned fs graph declared e := by
  unfold planConversion at h
  rcases Except.bind_eq_error.1 h with h | ⟨g, hg, h⟩
  · exact unplanned_of_readGraph h
  rcases Except.bind_eq_error.1 h with h | ⟨a, ha, h⟩
  · unfold convertedPaths at h
    split at h
    · next hn =>
      cases h
      exact .nameless hg hn
    · cases h
  rcases Except.bind_eq_error.1 h with h | ⟨code, hc, h⟩
  · exact .lowering hg ha h
  rcases Except.bind_eq_error.1 h with h | ⟨x, hx, h⟩
  · obtain ⟨cause, hi, rfl⟩ := mapError_eq_error.1 h
    exact .input hg hi
  · rw [mapError_eq_ok] at hx
    split_ifs at h with hs
    · cases h
      exact .shape hg hx hs
    · cases h

/-- A conversion fails before it writes anything, or with one of its two writes. -/
theorem convertGraphFile_eq_error : (convertGraphFile graph declared).exec fs = (.error e, fs') ↔
    planConversion graph declared fs = .error e ∧ fs' = fs ∨
    ∃ plan, planConversion graph declared fs = .ok plan ∧
      (fs.writeTensor? plan.artifact.paramPath plan.params = none ∧
          e = .unwritableParams (.unwritableFile plan.artifact.paramPath) ∧ fs' = fs ∨
        fs.writeTensor? plan.artifact.paramPath plan.params = some fs' ∧
          fs'.writeText? plan.artifact.modulePath plan.code.text = none ∧
          e = .unwritableModule) := by
  unfold convertGraphFile
  simp only [bind_eq_error, ask_eq_error, ask_eq_ok, change_eq_error, change_eq_ok,
    not_pure_eq_error]
  constructor
  · rintro (⟨hp, rfl⟩ | ⟨plan, _, ⟨hp, rfl⟩, ⟨hw, rfl, rfl⟩ | ⟨_, mid, hw, h⟩⟩)
    · exact .inl ⟨hp, rfl⟩
    · exact .inr ⟨plan, hp, .inl ⟨hw, rfl, rfl⟩⟩
    · obtain ⟨hm, rfl, rfl⟩ | ⟨_, _, _, h⟩ := h
      · exact .inr ⟨plan, hp, .inr ⟨hw, hm, rfl⟩⟩
      · exact absurd h id
  · rintro (⟨hp, rfl⟩ | ⟨plan, hp, ⟨hw, rfl, rfl⟩ | ⟨hw, hm, rfl⟩⟩)
    · exact .inl ⟨hp, rfl⟩
    · exact .inr ⟨plan, fs', ⟨hp, rfl⟩, .inl ⟨hw, rfl, rfl⟩⟩
    · exact .inr ⟨plan, fs, ⟨hp, rfl⟩, .inr ⟨(), fs', hw, .inl ⟨hm, rfl, rfl⟩⟩⟩

/-! ## The two files -/

theorem Path.fileName_join (dir : Path) {name : List Char} (h : '/' ∉ name)
    (hl : 2 < name.length) : (dir.join (String.ofList name)).fileName? = some name := by
  have hs := segments_join dir h
  cases hf : front dir with
  | nil =>
    have hidle : isIdle name = false := isIdle_of_length (by omega)
    have hback := ne_back_of_length hl
    rw [hf, List.nil_append] at hs
    rw [fileName?, trimmed, hs]
    simp [trimSegments, hidle, hback]
  | cons first rest =>
    rw [hf] at hs
    exact fileName_of_named hs (List.cons_ne_nil first rest) hl

theorem names_of_paths (ha : convertedPaths graph = .ok a) : ∃ stem,
    graph.fileStem? = some stem ∧
      a.modulePath = graph.parent.join (String.ofList stem ++ "_converted.json") ∧
      a.paramPath = graph.parent.join (String.ofList stem ++ "_converted.npy") ∧
      paramName a = String.ofList stem ++ "_converted.npy" := by
  obtain ⟨stem, hstem, rfl⟩ := convertedPaths_eq_ok ha
  have hname : ∀ ending, String.ofList (convertedName stem ending) =
      String.ofList stem ++ ("_converted" ++ ending) := by
    intro ending
    rw [convertedName, String.ofList_append, String.ofList_toList]
  have hslash := @no_slash_convertedName stem ".npy" (Path.stem_no_slash hstem) (by decide)
  have hlong := length_convertedName stem ".npy"
  refine ⟨stem, hstem, ?_, ?_, ?_⟩
  · exact congrArg graph.parent.join (hname ".json")
  · exact congrArg graph.parent.join (hname ".npy")
  · rw [paramName, Path.fileName_join _ hslash (by omega), Option.getD_some, hname]
    rfl

theorem last_of_converted (fs : FileSystem) (ha : convertedPaths graph = .ok a) : ∃ stem,
    (∀ q, fs.locate a.modulePath = .ok q →
      q.getLast? = some (String.ofList (convertedName stem ".json"))) ∧
    ∀ q, fs.locate a.paramPath = .ok q →
      q.getLast? = some (String.ofList (convertedName stem ".npy")) := by
  obtain ⟨stem, hstem, rfl⟩ := convertedPaths_eq_ok ha
  have hlast : ∀ ending, '/' ∉ ending.toList → ∀ q,
      fs.locate (graph.parent.join (String.ofList (convertedName stem ending))) = .ok q →
      q.getLast? = some (String.ofList (convertedName stem ending)) := by
    intro ending he q hq
    have hslash := no_slash_convertedName (Path.stem_no_slash hstem) he
    have hlong := length_convertedName stem ending
    exact last_of_locate (Path.segments_join _ hslash) (by omega) hq
  exact ⟨stem, hlast ".json" (by decide), hlast ".npy" (by decide)⟩

theorem module_ne_params (ha : convertedPaths graph = .ok a) (hq : fs.locate a.modulePath = .ok q)
    (hr : fs.locate a.paramPath = .ok r) : q ≠ r := by
  obtain ⟨stem, hjson, hnpy⟩ := last_of_converted fs ha
  rintro rfl
  have h := (hjson q hq).symm.trans (hnpy q hr)
  rw [Option.some.injEq, String.ofList_inj, convertedName, convertedName,
    List.append_cancel_left_eq] at h
  exact absurd h (by decide)

theorem converted_ne_nullDevice (ha : convertedPaths graph = .ok a)
    (hq : fs.locate a.modulePath = .ok q ∨ fs.locate a.paramPath = .ok q) : q ≠ nullDevice := by
  obtain ⟨stem, hjson, hnpy⟩ := last_of_converted fs ha
  have hdot : ∀ ending, '.' ∈ ending.toList →
      '.' ∈ (String.ofList (convertedName stem ending)).toList := by
    intro ending he
    simp [convertedName, he]
  rcases hq with hq | hq
  · exact ne_nullDevice_of_last (hjson q hq) (hdot _ (by decide))
  · exact ne_nullDevice_of_last (hnpy q hq) (hdot _ (by decide))

/-! ## What a conversion leaves -/

/-- What a conversion leaves that succeeds. Its two files stand beside the graph, and nothing else
changed. The one holds the input that the graph named, as it was before, and the other the graph as
it is lowered. -/
structure Complete (fs : FileSystem) (graph : Path) (declared : Shape) (a : Artifact)
    (fs' : FileSystem) : Prop where
  names : ∃ stem, graph.fileStem? = some stem ∧
    a.modulePath = graph.parent.join (String.ofList stem ++ "_converted.json") ∧
    a.paramPath = graph.parent.join (String.ofList stem ++ "_converted.npy") ∧
    paramName a = String.ofList stem ++ "_converted.npy"
  current : fs'.current = fs.current
  other : ∀ q, fs'.seen q ≠ fs.seen q →
    fs.locate a.modulePath = .ok q ∨ fs.locate a.paramPath = .ok q
  content : ∃ text g x code, fs.readText? graph = some text ∧ Graph.ofText text = .ok g ∧
    fs.readTensor (graph.parent.join g.inputFile) = .ok x ∧ x.shape = declared ∧
    fs'.readTensor a.paramPath = .ok x ∧ g.lower declared (paramName a) = .ok code ∧
    ∃ written, fs'.readText? a.modulePath = some written ∧ Module.ofText written = .ok code

theorem addressable_of_read {p : Path} {x : Tensor} (h : fs.readTensor p = .ok x) :
    addressable x.shape = true := by
  obtain ⟨content, -, hd⟩ := readTensor_eq_ok.1 h
  obtain ⟨hd, body, -, hstores⟩ := Npy.layout_of_decode hd
  rw [hstores.shape]
  exact hstores.addressable

theorem complete_of_convert (h : (convertGraphFile graph declared).exec fs = (.ok a, fs')) :
    Complete fs graph declared a fs' := by
  obtain ⟨plan, mid, hplan, rfl, hwp, hwm⟩ := convertGraphFile_eq_ok.1 h
  obtain ⟨g, hg, ha, hlower, hinput, hshape⟩ := planConversion_eq_ok.1 hplan
  obtain ⟨text, htext, hgraph⟩ := readGraph_eq_ok.1 hg
  obtain ⟨hdescribable, hwp⟩ := writeTensor?_eq_some.1 hwp
  obtain ⟨place, hparam⟩ := exists_wrote hwp
  obtain ⟨place', hmodule⟩ := exists_wrote hwm
  have hlm := hparam.locate.1 hmodule.located
  have hne : place' ≠ place := module_ne_params ha hlm hparam.located
  refine ⟨names_of_paths ha, hmodule.current.trans hparam.current, ?_, text, g, plan.params,
    plan.code, htext, hgraph, hinput, hshape, ?_, hlower, ?_⟩
  · intro q hq
    by_cases hm : q = place'
    · exact .inl (hm ▸ hlm)
    · by_cases hp : q = place
      · exact .inr (hp ▸ hparam.located)
      · exact absurd ((hmodule.other q hm).trans (hparam.other q hp)) hq
  · have hheld := hparam.written (converted_ne_nullDevice ha (.inr hparam.located))
    have hkept := hmodule.holds hheld (Ne.symm hne)
    exact readTensor_of_holds (hmodule.locate.2 (hparam.locate.2 hparam.located)) hkept
      (addressable_of_read hinput) hdescribable
  · have hheld := hmodule.written (converted_ne_nullDevice ha (.inl hlm))
    have hwritten := Graph.lower_written (Graph.isWords_of_ofText hgraph) hlower
    exact ⟨_, readText?_of_holds (hmodule.locate.2 hmodule.located) hheld,
      Module.ofText_text hwritten⟩

theorem exists_convert (hplan : planConversion graph declared fs = .ok plan)
    (hd : Npy.isDescribable plan.params.shape = true) (hp : fs.Admits plan.artifact.paramPath)
    (hm : fs.Admits plan.artifact.modulePath) :
    ∃ fs', (convertGraphFile graph declared).exec fs = (.ok plan.artifact, fs') := by
  obtain ⟨place, hl, ho⟩ := hp
  obtain ⟨place', hl', ho'⟩ := hm
  obtain ⟨mid, hw, hf, -⟩ := exists_write hl ho ⟨(Npy.encode plan.params).toArray⟩
  obtain ⟨after, hw', -, -⟩ := exists_write ((hf.alike.locate (.inr hf.current)).2 hl')
    (hf.isOpen ho') plan.code.text.toUTF8
  exact ⟨after, convertGraphFile_eq_ok.2
    ⟨plan, mid, hplan, rfl, writeTensor?_eq_some.2 ⟨hd, hw⟩, hw'⟩⟩

/-- A conversion is all or nothing. If it fails for another reason than one of its two writes, then
nothing changed and the fault says what is wrong with the graph, its input or the declared shape. A
failed write of the parameters changes nothing either, and a failed write of the module leaves the
parameters. Each of these faults belongs to the conversion. If it succeeds, its two files are the
only ones that changed, and they are read back as the input and the lowered graph. -/
theorem conversion_all_or_nothing (fs : FileSystem) (graph : Path) (declared : Shape) :
    match (convertGraphFile graph declared).exec fs with
    | (.error e, fs') => (Fault.conversion e).stage = "conversion" ∧
      (Unplanned fs graph declared e ∧ fs' = fs ∨
        ∃ a, convertedPaths graph = .ok a ∧
          (e = .unwritableParams (.unwritableFile a.paramPath) ∧ fs' = fs ∨
            e = .unwritableModule ∧ ∀ q, fs'.seen q ≠ fs.seen q → fs.locate a.paramPath = .ok q))
    | (.ok a, fs') => Complete fs graph declared a fs' := by
  split
  · next e fs' h =>
    refine ⟨rfl, ?_⟩
    rcases convertGraphFile_eq_error.1 h with ⟨hp, rfl⟩ | ⟨plan, hp, h⟩
    · exact .inl ⟨unplanned_of_plan hp, rfl⟩
    obtain ⟨g, -, ha, -⟩ := planConversion_eq_ok.1 hp
    refine .inr ⟨plan.artifact, ha, ?_⟩
    rcases h with ⟨-, rfl, rfl⟩ | ⟨hw, -, rfl⟩
    · exact .inl ⟨rfl, rfl⟩
    · obtain ⟨place, hwrote⟩ := exists_wrote (writeTensor?_eq_some.1 hw).2
      refine .inr ⟨rfl, fun q hq => ?_⟩
      by_cases hp : q = place
      · exact hp ▸ hwrote.located
      · exact absurd (hwrote.other q hp) hq
  · next a fs' h => exact complete_of_convert h

def convertibleFiles : FileSystem :=
  { entries := [(["dev"], .directory), (nullDevice, .void), (["work"], .directory),
      (["work", "sample.json"], .file sampleGraph.text.toUTF8 false),
      (["work", "sample_input.npy"], .file ⟨(Npy.encode sampleTensor).toArray⟩ false)]
    current := "/" }

def convertibleArtifact : Artifact := ⟨"/work/sample_converted.json", "/work/sample_converted.npy"⟩

theorem convertibleFiles_locate : ∀ name ∈ ["sample.json", "sample_input.npy",
    "sample_converted.json", "sample_converted.npy"],
    convertibleFiles.locate ("/work/" ++ name) = .ok ["work", name] := by
  simp only [List.forall_mem_cons, locate, String.contains_char_eq]
  exact ⟨rfl, rfl, rfl, rfl, List.forall_mem_nil _⟩

theorem convertibleFiles_graph :
    readGraph convertibleFiles "/work/sample.json" = .ok sampleGraph :=
  readGraph_eq_ok.2 ⟨_,
    readText?_of_holds (convertibleFiles_locate "sample.json" (by simp)) ⟨false, rfl⟩,
    Graph.ofText_text sampleGraph_isWords⟩

theorem exists_sample_plan : ∃ plan,
    planConversion "/work/sample.json" [1, 2, 5, 4] convertibleFiles = .ok plan ∧
      plan.artifact = convertibleArtifact ∧ plan.params = sampleTensor := by
  obtain ⟨m, hm⟩ := exists_sample_lowered (paramName convertibleArtifact)
  have hinput : convertibleFiles.readTensor "/work/sample_input.npy" = .ok sampleTensor :=
    readTensor_of_holds (convertibleFiles_locate "sample_input.npy" (by simp)) ⟨false, rfl⟩ rfl
      (Npy.isDescribable_of_rank rfl (by decide))
  exact ⟨⟨convertibleArtifact, sampleTensor, m⟩,
    planConversion_eq_ok.2 ⟨sampleGraph, convertibleFiles_graph, rfl, hm, hinput, rfl⟩, rfl, rfl⟩

/-- The conversion of a graph succeeds with the shape that it declares and fails with another. -/
theorem conversion_all_or_nothing_sample :
    (∃ fs', (convertGraphFile "/work/sample.json" [1, 2, 5, 4]).exec convertibleFiles =
        (.ok convertibleArtifact, fs') ∧
      Complete convertibleFiles "/work/sample.json" [1, 2, 5, 4] convertibleArtifact fs') ∧
    ∃ e, (convertGraphFile "/work/sample.json" [1, 2, 4, 5]).exec convertibleFiles =
        (.error e, convertibleFiles) ∧ (Fault.conversion e).stage = "conversion" ∧
      Unplanned convertibleFiles "/work/sample.json" [1, 2, 4, 5] e := by
  constructor
  · obtain ⟨plan, hplan, ha, hx⟩ := exists_sample_plan
    have hmodule := convertibleFiles_locate "sample_converted.json" (by simp)
    have hparams := convertibleFiles_locate "sample_converted.npy" (by simp)
    obtain ⟨fs', hrun⟩ := exists_convert hplan (hx ▸ Npy.isDescribable_of_rank rfl (by decide))
      (ha ▸ ⟨_, hparams, by decide, by decide⟩) (ha ▸ ⟨_, hmodule, by decide, by decide⟩)
    rw [ha] at hrun
    have h := conversion_all_or_nothing convertibleFiles "/work/sample.json" [1, 2, 5, 4]
    rw [hrun] at h
    exact ⟨fs', hrun, h⟩
  · have hplan : planConversion "/work/sample.json" [1, 2, 4, 5] convertibleFiles =
        .error (.declaredShape [1, 2, 4, 5] [1, 2, 5, 4]) := by
      rw [planConversion, convertibleFiles_graph]
      rfl
    have hrun := convertGraphFile_eq_error.2 (.inl ⟨hplan, rfl⟩)
    have h := conversion_all_or_nothing convertibleFiles "/work/sample.json" [1, 2, 4, 5]
    rw [hrun] at h
    obtain ⟨hstage, ⟨hu, -⟩ | ⟨_, -, h | h⟩⟩ := h
    · exact ⟨_, hrun, hstage, hu⟩
    · cases h.1
    · cases h.1

end PoolCheck
