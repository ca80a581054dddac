import PoolCheck.Proofs.Run.Keeping

/-!
# Runs that share a directory

Runs in one directory have a file in common only if one of them is named like what the graph of the
other is converted to. If not, then they can take their steps in any order, and each of them goes as
if it were alone.
-/

set_option autoImplicit false

namespace PoolCheck

open PoolCheck.Action FileSystem

variable {fs now : FileSystem} {dir : Path} {q : Location}

namespace Config

/-- A run with the command as its converter, taken step by step on files that others may change
too, goes as if it were alone. -/
structure AsAlone (c : Config) (patience : Option Nat) (input reference : Tensor) (dir : Path)
    (fs : FileSystem) (r : Routine (Except Fault Verdict)) (now : FileSystem) : Prop where
  /-- What it changes next are its own files. -/
  next : ∀ r' later, r.Moves now r' later → now.Inside (fs.Owned dir c.name) later
  /-- It has come where it comes alone, and its files are those that it then has. -/
  here : ∃ own, Routine.Leads (c.course (ConvertCommand.process patience) input reference dir) fs
    r own ∧ own.SameOn (fs.Owned dir c.name) now
  /-- When it is done, its outcome and its files are those that it has alone. -/
  outcome : ∀ v, r = .done v → ∃ own, (c.compareIn (launcherOf (ConvertCommand.process patience))
    input reference dir).exec fs = (v, own) ∧ own.SameOn (fs.Owned dir c.name) now

theorem asAlone_of_undisturbed {c : Config} {patience : Option Nat} {input reference : Tensor}
    {dir : Path} {r : Routine (Except Fault Verdict)} {own : FileSystem}
    (h : Routine.Undisturbed (fs.Owned dir c.name)
      (c.course (ConvertCommand.process patience) input reference dir) fs r own now) :
    c.AsAlone patience input reference dir fs r now := by
  refine ⟨fun _ _ => h.step_inside, ⟨own, h.alone, h.same⟩, fun v hv => ⟨own, ?_, h.same⟩⟩
  subst hv
  rw [← action_course]
  exact h.of_done

/-- Two runs in one directory, of which none is named like what the other one's graph is converted
to, have no file in common, and in whatever order they take their steps each goes as if it were
alone. -/
theorem runs_apart {c c' : Config} {patience patience' : Option Nat}
    {input reference input' reference' : Tensor} {dir : Path} {fs : FileSystem}
    (hc : Path.isAbsolute fs.current = true) (hne : c.name ≠ c'.name)
    (hfirst : c.name ≠ c'.name ++ "_converted") (hsecond : c'.name ≠ c.name ++ "_converted")
    (hw : (exportedGraph c.operators input.shape c.name).IsWords)
    (hw' : (exportedGraph c'.operators input'.shape c'.name).IsWords) :
    (∀ q, fs.Owned dir c.name q → ¬fs.Owned dir c'.name q) ∧
    ∀ r s now, Routine.Interleaved
      (c.course (ConvertCommand.process patience) input reference dir)
      (c'.course (ConvertCommand.process patience') input' reference' dir) fs r s now →
        c.AsAlone patience input reference dir fs r now ∧
        c'.AsAlone patience' input' reference' dir fs s now := by
  have hdisjoint : ∀ q, fs.Owned dir c.name q → ¬fs.Owned dir c'.name q := by
    intro q hq hq'
    rcases hq.eq_of_common hq' with he | he | he
    · exact hne he
    · exact hfirst he
    · exact hsecond he
  refine ⟨hdisjoint, fun r s now h => ?_⟩
  obtain ⟨⟨own, ho⟩, ⟨own', ho'⟩⟩ := h.undisturbed
    (course_keepsTo hc c patience input reference dir hw).routine
    (course_keepsTo hc c' patience' input' reference' dir hw').routine hdisjoint
  exact ⟨asAlone_of_undisturbed ho, asAlone_of_undisturbed ho'⟩

theorem sampleConfig_words {x : Tensor} (hx : x.shape = [1, 2, 5, 4]) (name : String) :
    (exportedGraph sampleConfig.operators x.shape name).IsWords := by
  have chain := OperatorSequence.chain_of_shapes sampleSequence_noWrap sampleSequence_shapes
  refine ⟨show formatVersion < halfWordLimit by decide, ?_, fun op => ?_⟩
  · show ∀ d ∈ x.shape, d < wordLimit
    rw [hx]
    decide
  · exact chain.isWords sampleConfig_noWrap.divisors

/-- The sample run passes, whatever a run of another name does beside it. -/
theorem runs_apart_sample : ∃ input reference, ∀ r s now, Routine.Interleaved
    (sampleConfig.course (ConvertCommand.process none) input reference "/work")
    (course { sampleConfig with name := "other" } (ConvertCommand.process none) input reference
      "/work") sampleFiles r s now →
    ∀ v, r = .done v → v = .ok ⟨true, none⟩ := by
  obtain ⟨report, after, hrun, hverdict, -⟩ := no_false_fail sampleConfig
    (launcherOf (ConvertCommand.process none)) sampleFiles sampleFiles "/work" rfl rfl
    sampleSequence_shapes sampleConfig_noWrap sampleConfig_provide sampleFiles_usable (by decide)
    fun i before _ => process_converts i before
  obtain ⟨input, reference, verdict, artifacts, hprepare, hwork, rfl⟩ := run_eq_ok.1 hrun
  obtain ⟨dir, made, left, hprovide, hbody, -⟩ := inWorkDirectory_eq_ok.1 hwork
  cases sampleConfig_provide.symm.trans hprovide
  obtain ⟨-, hinput, -⟩ := prepare_eq_ok.1 hprepare
  have hshape : input.shape = [1, 2, 5, 4] := by
    obtain ⟨x, hx, hshape, -⟩ := Tensor.random_unit sampleConfig_noWrap.input sampleConfig.seed
    rw [← Except.ok.inj (hx.symm.trans hinput), hshape]
    rfl
  refine ⟨input, reference, fun r s now h v hv => ?_⟩
  obtain ⟨-, hall⟩ := @runs_apart sampleConfig { sampleConfig with name := "other" } none none input
    reference input reference "/work" sampleFiles rfl (by decide) (by decide) (by decide)
    (sampleConfig_words hshape _) (sampleConfig_words hshape _)
  obtain ⟨own, hown, -⟩ := (hall r s now h).1.outcome v hv
  cases hown.symm.trans hbody
  rw [← hverdict]

end Config

/-! ## Runs that are not apart -/

structure Spare (fs : FileSystem) : Prop where
  current : fs.current = sampleFiles.current
  alike : sampleFiles.Alike fs
  isOpen : ∀ name, fs.Open ["work", name]

namespace Spare

variable {fs' : FileSystem} {p : Path}

theorem start : Spare sampleFiles := by
  refine ⟨rfl, fun _ => Iff.rfl, fun name => ?_⟩
  have hn : sampleFiles.node? ["work", name] = none := rfl
  rw [Open, hn]
  simp

theorem frame (h : Spare fs) (hf : fs.Frame fs' q) : Spare fs' :=
  ⟨hf.current.trans h.current, h.alike.trans hf.alike, fun name => hf.isOpen (h.isOpen name)⟩

theorem locate (h : Spare fs) (hl : sampleFiles.locate p = .ok q) : fs.locate p = .ok q :=
  (h.alike.locate (.inr h.current)).2 hl

theorem exists_export (h : Spare fs) (name : String) (hn : isGraphName name = true)
    (hgraph : sampleFiles.locate (Path.join "/work" (name ++ ".json")) =
      .ok ["work", name ++ ".json"])
    (hinput : sampleFiles.locate (Path.join "/work" (name ++ ".input.npy")) =
      .ok ["work", name ++ ".input.npy"]) :
    ∃ after, (exportGraph sampleSequence sampleTensor "/work" name).exec fs =
        (.ok ⟨Path.join "/work" (name ++ ".json"), Path.join "/work" (name ++ ".input.npy"),
          [1, 2, 5, 4]⟩, after) ∧
      Spare after ∧ after.isFile (Path.join "/work" (name ++ ".json")) = true := by
  obtain ⟨mid, hw, hf, -⟩ := exists_write (h.locate hinput) (h.isOpen _)
    ⟨(Npy.encode sampleTensor).toArray⟩
  have hmid := h.frame hf
  obtain ⟨after, hw', hf', hholds⟩ := exists_write (hmid.locate hgraph) (hmid.isOpen _)
    (exportedGraph sampleSequence sampleTensor.shape name).text.toUTF8
  have hafter := hmid.frame hf'
  exact ⟨after, exportGraph_eq_ok.2 ⟨hn, ⟨_, sampleSequence_shapes⟩, rfl, mid,
    writeTensor?_eq_some.2 ⟨Npy.isDescribable_of_rank rfl (by decide), hw⟩, hw'⟩, hafter,
    isFile_of_holds (hafter.locate hgraph) hholds⟩

end Spare

/-- Of two graphs that were exported, the driver of one removes the other, which is named like what
the first is converted to. -/
theorem graph_removed_by_other : isGraphName "sample" = true ∧
    isGraphName "sample_converted" = true ∧ ∃ e f mid exported r before,
      (exportGraph sampleSequence sampleTensor "/work" "sample").exec sampleFiles = (.ok e, mid) ∧
      (exportGraph sampleSequence sampleTensor "/work" "sample_converted").exec mid =
        (.ok f, exported) ∧
      exported.isFile f.graphPath = true ∧
      (sampleConfig.driver.ready e.graphPath e.inputShape).exec exported = (.ok r, before) ∧
      before.find? f.graphPath = none := by
  have hgraph := sampleFiles_locate "sample.json" (by simp)
  have hinput := sampleFiles_locate "sample.input.npy" (by simp)
  have hmodule := sampleFiles_locate "sample_converted.json" (by simp)
  have hother := sampleFiles_locate "sample_converted.input.npy" (by simp)
  have hparam := sampleFiles_locate "sample_converted.npy" (by simp)
  have hlog := sampleFiles_locate "sample.convert.log" (by simp)
  obtain ⟨mid, he, hmid, -⟩ := Spare.start.exists_export "sample" (by decide) hgraph hinput
  obtain ⟨exported, he', hexported, hfile⟩ :=
    hmid.exists_export "sample_converted" (by decide) hmodule hother
  -- Getting ready for the first graph removes the second one and then makes the log.
  obtain ⟨one, hr, hf⟩ := removeStale_of_open (hexported.locate hmodule) (hexported.isOpen _)
  have hone := hexported.frame hf
  obtain ⟨two, hr', hf'⟩ := removeStale_of_open (hone.locate hparam) (hone.isOpen _)
  have htwo := hone.frame hf'
  obtain ⟨before, hw, -⟩ := exists_write (htwo.locate hlog) (htwo.isOpen _) .empty
  have hsame : exported.absolute "/work/sample.json" = "/work/sample.json" := by
    rw [absolute, if_pos (by decide)]
  have hready := (@Driver.ready_eq_ok exported before sampleConfig.driver "/work/sample.json"
    [1, 2, 5, 4] _ ⟨"/work/sample_converted.json", "/work/sample_converted.npy"⟩).2
    ⟨rfl, by rw [hsame]; rfl, one, two, hr, hr', by rw [hsame]; exact hw⟩
  exact ⟨by decide, by decide, _, _, mid, exported, _, before, he, he', hfile, hready,
    (Driver.absent_of_ready hready).1⟩

end PoolCheck
