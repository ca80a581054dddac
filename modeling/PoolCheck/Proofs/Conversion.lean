import PoolCheck.Command.Convert
import PoolCheck.Proofs.Action
import PoolCheck.Proofs.Exchange
import PoolCheck.Proofs.Location
import PoolCheck.Proofs.Npy.File

/-!
# Conversions that succeed

A conversion reads a graph and its input, plans all that it writes, and then writes two files.
-/

set_option autoImplicit false

namespace PoolCheck

open PoolCheck.Action

variable {fs fs' : FileSystem} {graph p : Path} {declared : Shape} {place : Location}

/-! ## Files with known content -/

namespace FileSystem

theorem readText?_of_holds {text : String} (hl : fs.locate p = .ok place)
    (h : fs.Holds place text.toUTF8) : fs.readText? p = some text := by
  rw [readText?, read?_of_holds hl h, Option.bind_some, fromUTF8?_toUTF8]

theorem writeTensor?_eq_some {x : Tensor} : fs.writeTensor? p x = some fs' ↔
    Npy.isDescribable x.shape = true ∧ fs.write? p ⟨(Npy.encode x).toArray⟩ = some fs' := by
  unfold writeTensor?
  split_ifs with h <;> simp [h]

theorem readTensor_of_holds {x : Tensor} (hl : fs.locate p = .ok place)
    (h : fs.Holds place ⟨(Npy.encode x).toArray⟩) (ha : addressable x.shape = true)
    (hd : Npy.isDescribable x.shape = true) : fs.readTensor p = .ok x := by
  rw [readTensor, read?_of_holds hl h]
  simp only [Npy.decode_encode ha hd]
  rfl

end FileSystem

/-! ## The steps of a conversion -/

theorem convertedPaths_of_stem {name : String} (h : graph.fileStem? = some name.toList) :
    convertedPaths graph = .ok ⟨graph.parent.join (name ++ "_converted.json"),
      graph.parent.join (name ++ "_converted.npy")⟩ := by
  rw [convertedPaths, h]
  simp only [String.ofList_toList, String.append_assoc]
  rfl

theorem readGraph_eq_ok {g : Graph} : readGraph fs graph = .ok g ↔
    ∃ text, fs.readText? graph = some text ∧ Graph.ofText text = .ok g := by
  unfold readGraph
  cases fs.readText? graph with
  | none => simp
  | some text =>
    cases ht : Graph.ofText text with
    | error e => cases e <;> simp [ht]
    | ok h => simp [ht]

theorem planConversion_eq_ok {plan : ConversionPlan} :
    planConversion graph declared fs = .ok plan ↔ ∃ g, readGraph fs graph = .ok g ∧
      convertedPaths graph = .ok plan.artifact ∧
      g.lower declared (paramName plan.artifact) = .ok plan.code ∧
      fs.readTensor (graph.parent.join g.inputFile) = .ok plan.params ∧
      plan.params.shape = declared := by
  unfold planConversion
  simp only [Except.bind_eq_ok, mapError_eq_ok]
  constructor
  · rintro ⟨g, hg, a, ha, code, hc, input, hi, h⟩
    by_cases hs : input.shape = declared
    · rw [if_neg (by simp [hs])] at h
      cases h
      exact ⟨g, hg, ha, hc, hi, hs⟩
    · rw [if_pos hs] at h
      cases h
  · rintro ⟨g, hg, ha, hc, hi, hs⟩
    refine ⟨g, hg, plan.artifact, ha, plan.code, hc, plan.params, hi, ?_⟩
    rw [if_neg (by simp [hs])]
    rfl

theorem convertGraphFile_eq_ok {a : Artifact} :
    (convertGraphFile graph declared).exec fs = (.ok a, fs') ↔
      ∃ plan mid, planConversion graph declared fs = .ok plan ∧ plan.artifact = a ∧
        fs.writeTensor? a.paramPath plan.params = some mid ∧
        mid.writeText? a.modulePath plan.code.text = some fs' := by
  unfold convertGraphFile
  simp only [bind_eq_ok, ask_eq_ok, change_eq_ok, pure_eq_ok]
  constructor
  · rintro ⟨plan, _, ⟨hp, rfl⟩, _, mid, hw, _, _, hm, rfl, rfl⟩
    exact ⟨plan, mid, hp, rfl, hw, hm⟩
  · rintro ⟨plan, mid, hp, rfl, hw, hm⟩
    exact ⟨plan, fs, ⟨hp, rfl⟩, (), mid, hw, (), fs', hm, rfl, rfl⟩

theorem ConvertCommand.run_eq_ok {args : List String} {a : Artifact} :
    (ConvertCommand.run args).exec fs = (.ok a, fs') ↔ ∃ graph declared,
      ConvertCommand.parse args = .ok (graph, declared) ∧
      (convertGraphFile graph declared).exec fs = (.ok a, fs') := by
  unfold ConvertCommand.run
  simp only [bind_eq_ok, ask_eq_ok]
  constructor
  · rintro ⟨⟨graph, declared⟩, _, ⟨hp, rfl⟩, hc⟩
    exact ⟨graph, declared, hp, hc⟩
  · rintro ⟨graph, declared, hp, hc⟩
    exact ⟨(graph, declared), fs, ⟨hp, rfl⟩, hc⟩

end PoolCheck
