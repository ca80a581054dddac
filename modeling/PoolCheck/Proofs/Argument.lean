import PoolCheck.Command.Convert
import PoolCheck.Proofs.Action
import PoolCheck.Proofs.Spelling

/-!
# The arguments of a converter

A command line made of a path and a written shape without empty extents is read as these two, as
long as the path has no equals sign.
-/

set_option autoImplicit false

namespace PoolCheck

namespace ConvertCommand

theorem isShapeArgument_format (s : Shape) : isShapeArgument (ShapeArgument.format s) = true := by
  rw [isShapeArgument, ShapeArgument.format, String.toList_ofList, List.append_assoc,
    Text.stripFront?_append]
  rfl

theorem not_isShapeArgument {arg : String} (h : '=' ∉ arg.toList) :
    isShapeArgument arg = false := by
  rw [isShapeArgument]
  cases hs : Text.stripFront? ShapeArgument.key arg.toList with
  | none => rfl
  | some rest =>
    rw [Text.stripFront?_eq_some.1 hs, List.mem_append] at h
    exact absurd (.inl (by decide)) h

theorem take_graph {d d' : Draft} {arg : String} (h : take d arg = .ok d') :
    d'.graph = d.graph ∨ isShapeArgument arg = false ∧ d'.graph = some arg := by
  unfold take at h
  split_ifs at h with hs he
  · cases hp : ShapeArgument.parse arg with
    | error fault =>
      rw [hp] at h
      cases h
    | ok s =>
      rw [hp] at h
      cases h
      exact .inl rfl
  · cases h
    exact .inl rfl
  · split at h
    · cases h
      exact .inr ⟨Bool.eq_false_iff.2 hs, rfl⟩
    · cases h

theorem graph_of_parse {graph g : Path} {arg : String} {s : Shape} (ha : isShapeArgument arg = true)
    (h : parse [graph, arg] = .ok (g, s)) : g = graph := by
  obtain ⟨d, hd, hm⟩ := Except.bind_eq_ok.1 h
  obtain ⟨first, hfirst, hd⟩ := Except.bind_eq_ok.1 hd
  obtain ⟨second, hsecond, hd⟩ := Except.bind_eq_ok.1 hd
  cases hd
  have hkept : d.graph = first.graph := by
    refine (take_graph hsecond).resolve_right fun hr => ?_
    rw [ha] at hr
    cases hr.1
  split at hm
  · cases hm
  · cases hm
  · next hg _ =>
    cases hm
    rw [hkept] at hg
    rcases take_graph hfirst with hf | ⟨-, hf⟩
    · cases hf.symm.trans hg
    · exact Option.some.inj (hg.symm.trans hf)

theorem parse_arguments {graph : Path} {s : Shape} (hg : '=' ∉ graph.toList) (hne : s ≠ [])
    (h : ∀ d ∈ s, d < wordLimit) :
    parse [graph, ShapeArgument.format s] =
      if 0 ∈ s then .error (.emptyExtent s) else .ok (graph, s) := by
  have hfirst : take ⟨none, none⟩ graph = .ok ⟨some graph, none⟩ := by
    rw [take, not_isShapeArgument hg, if_neg Bool.false_ne_true, if_neg hg]
  have hsecond : take ⟨some graph, none⟩ (ShapeArgument.format s) =
      if 0 ∈ s then .error (.emptyExtent s) else .ok ⟨some graph, some s⟩ := by
    rw [take, isShapeArgument_format, if_pos rfl, ShapeArgument.parse_format hne h]
    split <;> rfl
  by_cases hz : 0 ∈ s <;>
    simp only [parse, takeAll, hfirst, hsecond, hz, if_true, if_false, bind, Except.bind]

end ConvertCommand

end PoolCheck
