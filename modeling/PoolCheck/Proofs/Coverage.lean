import Mathlib.Logic.ExistsUnique
import PoolCheck.Proofs.Acceptance

/-!
# Windows that cover the line

Windows that are no further apart than they are long leave no gap between them. Rounding up leaves
none behind the last one either: it drops a window only if the one before it reaches the end of the
line. Windows that are no longer than they are apart do not meet. So where the stride is the kernel
and the number of windows is rounded up, they part the plane.
-/

set_option autoImplicit false

namespace PoolCheck

namespace Axis

variable {a : Axis} {ceilMode : Bool} {input out i o o' : Nat}

/-- The last window ends behind the line, unless it was followed by one that was dropped. That one
starts behind the line, and no later than where the last one ends. -/
theorem line_le_last (h : a.Sound) (hle : a.stride ≤ a.kernel) (hk : a.kernel ≤ a.padded input) :
    input + a.padding ≤ (a.count true input - 1) * a.stride + a.kernel := by
  have hm := moves_spec a input h.stride_pos
  unfold padded at hm hk
  rw [count, if_pos rfl]
  split_ifs with hdropped
  · rw [Nat.sub_mul, Nat.one_mul]
    omega
  · rw [Nat.add_sub_cancel]
    omega

/-- A position that no window starts behind lies in the last one, every other in the last one of
those that start before it. -/
theorem exists_window (h : a.Sound) (hle : a.stride ≤ a.kernel) (hn : a.NoWrap true input)
    (hk : a.kernel ≤ a.padded input) (hi : i < input) :
    ∃ o < a.count true input, i ∈ (a.window input o).positions := by
  have hs := h.stride_pos
  have hcount := count_pos a true (Nat.zero_lt_of_lt hi)
  have hlast := line_le_last h hle hk
  have hstart : (i + a.padding) / a.stride * a.stride ≤ i + a.padding :=
    Nat.div_mul_le_self _ _
  have hnext : i + a.padding < (i + a.padding) / a.stride * a.stride + a.stride :=
    Nat.lt_div_mul_add hs
  by_cases hq : (i + a.padding) / a.stride < a.count true input
  · exact ⟨_, hq, (mem_positions hn h hk hq).2 ⟨hi, hstart, by omega⟩⟩
  · have hbefore : (a.count true input - 1) * a.stride ≤ (i + a.padding) / a.stride * a.stride :=
      Nat.mul_le_mul_right _ (by omega)
    have ho : a.count true input - 1 < a.count true input := by omega
    exact ⟨_, ho, (mem_positions hn h hk ho).2 ⟨hi, by omega, by omega⟩⟩

theorem number_eq (h : a.Sound) (hle : a.kernel ≤ a.stride) (hn : a.NoWrap ceilMode input)
    (hk : a.kernel ≤ a.padded input) (ho : o < a.count ceilMode input)
    (hi : i ∈ (a.window input o).positions) : o = (i + a.padding) / a.stride := by
  obtain ⟨-, hstart, hstop⟩ := (mem_positions hn h hk ho).1 hi
  symm
  apply Nat.div_eq_of_lt_le hstart
  rw [Nat.add_mul, Nat.one_mul]
  omega

theorem window_unique (h : a.Sound) (hle : a.kernel ≤ a.stride) (hn : a.NoWrap ceilMode input)
    (hk : a.kernel ≤ a.padded input) (ho : o < a.count ceilMode input)
    (ho' : o' < a.count ceilMode input) (hi : i ∈ (a.window input o).positions)
    (hi' : i ∈ (a.window input o').positions) : o = o' :=
  (number_eq h hle hn hk ho hi).trans (number_eq h hle hn hk ho' hi').symm

end Axis

/-- The windows with a pair of numbers see the element in row `i` and column `j`. -/
def Geometry.Reaches (g : Geometry) (s : MapShape) (o : Nat × Nat) (i j : Nat) : Prop :=
  i ∈ (g.rows.window s.height o.1).positions ∧ j ∈ (g.cols.window s.width o.2).positions

/-- Where rounding up, each element of a plane is seen through a pair of windows if neither stride
is longer than the kernel, and through no other pair if the strides are the kernel. Whichever way
the number of windows is rounded, no two of them along one dimension see the same position if the
stride is not shorter than the kernel. -/
theorem windows_cover :
    (∀ (g : Geometry) (s out : MapShape) (name : String), g.check name = .ok () →
      g.ceilMode = true → g.stride.h ≤ g.kernel.h → g.stride.w ≤ g.kernel.w →
      g.rows.Small s.height → g.cols.Small s.width → g.output s = .ok out →
      ∀ i < s.height, ∀ j < s.width,
        (∃ o : Nat × Nat, o.1 < out.height ∧ o.2 < out.width ∧ g.Reaches s o i j) ∧
        (g.stride = g.kernel →
          ∃! o : Nat × Nat, o.1 < out.height ∧ o.2 < out.width ∧ g.Reaches s o i j)) ∧
    ∀ (a : Axis) (ceilMode : Bool) (input out : Nat) (name : String) (along : Dimension),
      a.check name along = .ok () → a.kernel ≤ a.stride → a.Small input →
      a.extent ceilMode input = .ok out → ∀ o < out, ∀ o' < out, ∀ i,
        i ∈ (a.window input o).positions → i ∈ (a.window input o').positions → o = o' := by
  constructor
  · intro g s out name hc hceil hh hw hrows hcols hout i hi j hj
    obtain ⟨hr, hk⟩ := Geometry.check_eq_ok.1 hc
    obtain ⟨h, w, heh, hew, rfl⟩ := Geometry.output_eq_ok.1 hout
    rw [hceil] at heh hew
    obtain ⟨-, hnr, hfr, rfl⟩ := Axis.of_extent hr hrows heh
    obtain ⟨-, hnc, hfc, rfl⟩ := Axis.of_extent hk hcols hew
    obtain ⟨oh, hoh, hih⟩ := Axis.exists_window hr hh hnr hfr hi
    obtain ⟨ow, how, hjw⟩ := Axis.exists_window hk hw hnc hfc hj
    refine ⟨⟨(oh, ow), hoh, how, hih, hjw⟩, fun he => ⟨(oh, ow), ⟨hoh, how, hih, hjw⟩, ?_⟩⟩
    rintro ⟨oh', ow'⟩ ⟨hoh', how', hih', hjw'⟩
    have hle : g.kernel.h ≤ g.stride.h ∧ g.kernel.w ≤ g.stride.w := by
      rw [he]
      exact ⟨le_rfl, le_rfl⟩
    exact Prod.ext (Axis.window_unique hr hle.1 hnr hfr hoh' hoh hih' hih)
      (Axis.window_unique hk hle.2 hnc hfc how' how hjw' hjw)
  · intro a ceilMode input out name along hc hle hs he o ho o' ho' i hi hi'
    have hsound := Axis.check_eq_ok.1 hc
    obtain ⟨-, hn, hk, rfl⟩ := Axis.of_extent hsound hs he
    exact Axis.window_unique hsound hle hn hk ho ho' hi hi'

/-- Of three windows of three elements, three apart, on five elements between two of padding, the
last one would start behind the line and is dropped. The other two part the line. -/
theorem windows_cover_dropped :
    let g : Geometry := ⟨.square 3, .square 3, .square 1, true⟩
    g.output ⟨1, 1, 5, 5⟩ = .ok ⟨1, 1, 2, 2⟩ ∧
      (∃! o : Nat × Nat, o.1 < 2 ∧ o.2 < 2 ∧ g.Reaches ⟨1, 1, 5, 5⟩ o 1 4) ∧
      ∀ i, i ∈ (g.rows.window 5 0).positions → i ∉ (g.rows.window 5 1).positions := by
  refine ⟨by decide, ?_, fun i hi hi' => ?_⟩
  · exact (windows_cover.1 ⟨.square 3, .square 3, .square 1, true⟩ ⟨1, 1, 5, 5⟩ ⟨1, 1, 2, 2⟩
      "MaxPool2d" (by decide) rfl (by decide) (by decide) ⟨by decide, by decide, by decide⟩
      ⟨by decide, by decide, by decide⟩ (by decide) 1 (by decide) 4 (by decide)).2 rfl
  · have h := windows_cover.2 ⟨3, 3, 1⟩ true 5 2 "MaxPool2d" .height (by decide) (by decide)
      ⟨by decide, by decide, by decide⟩ (by decide) 0 (by decide) 1 (by decide) i hi hi'
    cases h

end PoolCheck
