import PoolCheck.Proofs.Run.Completing

/-!
# What a driver tells a converter

A driver names the exported graph and writes its shape, and the converter's command line takes the
two apart again. It passes over arguments with an equals sign, and refuses shapes with an empty
extent, which the export lets pass.
-/

set_option autoImplicit false

namespace PoolCheck

open PoolCheck.Action FileSystem

variable {fs fs' : FileSystem} {q : OperatorSequence} {x : Tensor} {dir : Path} {name : String}

theorem exists_export {shapes : List Shape} (hn : isGraphName name = true)
    (hi : q.inferShapes x.shape = .ok shapes) (hd : Npy.isDescribable x.shape = true)
    (hinput : fs.Admits (dir.join (name ++ ".input.npy")))
    (hgraph : fs.Admits (dir.join (name ++ ".json"))) :
    ∃ fs', (exportGraph q x dir name).exec fs =
      (.ok ⟨dir.join (name ++ ".json"), dir.join (name ++ ".input.npy"), x.shape⟩, fs') := by
  obtain ⟨place, hl, ho⟩ := hinput
  obtain ⟨place', hl', ho'⟩ := hgraph
  obtain ⟨mid, hw, hf, -⟩ := exists_write hl ho ⟨(Npy.encode x).toArray⟩
  obtain ⟨after, hw', -, -⟩ := exists_write ((hf.alike.locate (.inr hf.current)).2 hl')
    (hf.isOpen ho') (exportedGraph q x.shape name).text.toUTF8
  exact ⟨after, exportGraph_eq_ok.2
    ⟨hn, ⟨shapes, hi⟩, rfl, mid, writeTensor?_eq_some.2 ⟨hd, hw⟩, hw'⟩⟩

theorem exists_sample_export (name : String) (hn : isGraphName name = true) {shapes : List Shape}
    (hi : sampleSequence.inferShapes x.shape = .ok shapes) (hd : Npy.isDescribable x.shape = true)
    (hinput : sampleFiles.locate (Path.join "/work" (name ++ ".input.npy")) =
      .ok ["work", name ++ ".input.npy"])
    (hgraph : sampleFiles.locate (Path.join "/work" (name ++ ".json")) =
      .ok ["work", name ++ ".json"]) :
    ∃ after, (exportGraph sampleSequence x "/work" name).exec sampleFiles =
      (.ok ⟨Path.join "/work" (name ++ ".json"), Path.join "/work" (name ++ ".input.npy"), x.shape⟩,
        after) := by
  apply exists_export hn hi hd
  · exact sampleFiles_admits hinput
  · exact sampleFiles_admits hgraph

/-- The converter takes from its arguments the path of the exported graph and the exported shape, if
no extent is empty. A shape with an empty extent is refused as such. -/
theorem arguments_understood {e : Exported} (h : (exportGraph q x dir name).exec fs = (.ok e, fs'))
    (hw : ∀ d ∈ x.shape, d < wordLimit) (d : Driver) (now : FileSystem)
    (hplain : '=' ∉ (now.absolute e.graphPath).toList) :
    ConvertCommand.parse (d.invocation now (now.absolute e.graphPath) e.inputShape).arguments =
      if 0 ∈ x.shape then .error (.emptyExtent x.shape)
      else .ok (now.absolute e.graphPath, x.shape) := by
  obtain ⟨-, ⟨shapes, hs⟩, rfl, -⟩ := exportGraph_eq_ok.1 h
  obtain ⟨plane, hplane⟩ := OperatorSequence.exists_plane hs
  apply ConvertCommand.parse_arguments hplain _ hw
  simp [hplane, MapShape.toShape]

theorem arguments_understood_sample : ∃ e after,
    (exportGraph sampleSequence sampleTensor "/work" "sample").exec sampleFiles = (.ok e, after) ∧
      ConvertCommand.parse (sampleConfig.driver.invocation sampleFiles
        (sampleFiles.absolute e.graphPath) e.inputShape).arguments =
          .ok ("/work/sample.json", [1, 2, 5, 4]) := by
  obtain ⟨after, h⟩ := exists_sample_export "sample" rfl sampleSequence_shapes
    (Npy.isDescribable_of_rank rfl (by decide))
    (sampleFiles_locate "sample.input.npy" (by simp)) (sampleFiles_locate "sample.json" (by simp))
  refine ⟨_, after, h, ?_⟩
  rw [arguments_understood h (by decide) _ _ (by decide +kernel)]
  rfl

def noImages : Tensor := ⟨[0, 2, 5, 4], #[], rfl⟩

theorem noImages_shapes :
    sampleSequence.inferShapes noImages.shape = .ok [[0, 2, 3, 2], [0, 2, 1, 1]] := rfl

/-- An export of no images succeeds and its shape is refused. A name with an equals sign can be
exported, and its path is passed over. -/
theorem arguments_lost :
    (∃ e after, (exportGraph sampleSequence noImages "/work" "sample").exec sampleFiles =
        (.ok e, after) ∧
      ConvertCommand.parse (sampleConfig.driver.invocation sampleFiles
        (sampleFiles.absolute e.graphPath) e.inputShape).arguments =
          .error (.emptyExtent [0, 2, 5, 4])) ∧
    ∃ e after, (exportGraph sampleSequence sampleTensor "/work" "a=b").exec sampleFiles =
        (.ok e, after) ∧
      ConvertCommand.parse (sampleConfig.driver.invocation sampleFiles
        (sampleFiles.absolute e.graphPath) e.inputShape).arguments = .error .noGraphArgument := by
  constructor
  · obtain ⟨after, h⟩ := exists_sample_export "sample" rfl noImages_shapes
      (Npy.isDescribable_of_rank rfl (by decide))
      (sampleFiles_locate "sample.input.npy" (by simp)) (sampleFiles_locate "sample.json" (by simp))
    exact ⟨_, after, h, by decide +kernel⟩
  · obtain ⟨after, h⟩ := exists_sample_export "a=b" rfl sampleSequence_shapes
      (Npy.isDescribable_of_rank rfl (by decide))
      (sampleFiles_locate "a=b.input.npy" (by simp)) (sampleFiles_locate "a=b.json" (by simp))
    exact ⟨_, after, h, by decide +kernel⟩

end PoolCheck
