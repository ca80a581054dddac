import Mathlib.Algebra.Order.Ring.Nat
import Mathlib.Tactic.Ring
import PoolCheck.FeatureMap

/-!
# Feature maps by position

A map that was built from a function gives back the function's values, so two maps are equal as
soon as their functions agree inside the shape.
-/

set_option autoImplicit false

namespace PoolCheck

theorem row_major_lt {h w i j : Nat} (hi : i < h) (hj : j < w) : i * w + j < h * w := by
  calc i * w + j < (i + 1) * w := by rw [Nat.succ_mul]; omega
    _ ≤ h * w := Nat.mul_le_mul_right _ hi

namespace MapShape

variable {s : MapShape} {b c i j : Nat}

theorem volume_toShape (s : MapShape) :
    volume s.toShape = s.batch * s.channels * s.height * s.width := by
  simp only [toShape, volume]
  ring

theorem place_lt (hb : b < s.batch) (hc : c < s.channels) (hi : i < s.height)
    (hj : j < s.width) : s.place b c i j < volume s.toShape := by
  rw [volume_toShape, place]
  have hplane := row_major_lt hb hc
  have hrow := row_major_lt hplane hi
  exact row_major_lt hrow hj

theorem place_split {k : Nat} (hk : k < volume s.toShape) :
    k / s.width / s.height / s.channels < s.batch ∧
      k / s.width / s.height % s.channels < s.channels ∧
      k / s.width % s.height < s.height ∧ k % s.width < s.width := by
  rw [volume_toShape] at hk
  have hpos : 0 < s.batch * s.channels * s.height * s.width := by omega
  have hw : 0 < s.width := Nat.pos_of_mul_pos_left hpos
  have h1 : 0 < s.batch * s.channels * s.height := Nat.pos_of_mul_pos_right hpos
  have hh : 0 < s.height := Nat.pos_of_mul_pos_left h1
  have h2 : 0 < s.batch * s.channels := Nat.pos_of_mul_pos_right h1
  have hc : 0 < s.channels := Nat.pos_of_mul_pos_left h2
  refine ⟨?_, Nat.mod_lt _ hc, Nat.mod_lt _ hh, Nat.mod_lt _ hw⟩
  rw [Nat.div_lt_iff_lt_mul hc, Nat.div_lt_iff_lt_mul hh, Nat.div_lt_iff_lt_mul hw]
  exact hk

@[simp] theorem resize_batch (s : MapShape) (h w : Nat) : (s.resize h w).batch = s.batch := rfl

@[simp] theorem resize_channels (s : MapShape) (h w : Nat) :
    (s.resize h w).channels = s.channels := rfl

@[simp] theorem resize_height (s : MapShape) (h w : Nat) : (s.resize h w).height = h := rfl

@[simp] theorem resize_width (s : MapShape) (h w : Nat) : (s.resize h w).width = w := rfl

@[simp] theorem resize_resize (s : MapShape) (h w h' w' : Nat) :
    (s.resize h w).resize h' w' = s.resize h' w' := rfl

theorem toShape_injective {s t : MapShape} (h : s.toShape = t.toShape) : s = t := by
  cases s
  cases t
  simpa [toShape] using h

theorem forOperator_eq_ok {op : String} {shape : Shape} {s : MapShape} :
    forOperator op shape = .ok s ↔ shape = s.toShape ∧ 0 < s.height ∧ 0 < s.width := by
  constructor
  · intro h
    unfold forOperator at h
    split at h
    · split_ifs at h with hz
      cases h
      rw [not_or] at hz
      exact ⟨rfl, Nat.pos_of_ne_zero hz.1, Nat.pos_of_ne_zero hz.2⟩
    · cases h
  · rintro ⟨rfl, hh, hw⟩
    simp only [toShape, forOperator]
    rw [if_neg (by omega)]

end MapShape

namespace FeatureMap

variable {s : MapShape} {b c i j : Nat}

@[simp] theorem ofFn_shape (s : MapShape) (f : Nat → Nat → Nat → Nat → Binary32) :
    (ofFn s f).shape = s := rfl

@[ext] theorem ext {x y : FeatureMap} (hs : x.shape = y.shape) (hd : x.data = y.data) : x = y := by
  cases x
  cases y
  cases hs
  cases hd
  rfl

theorem entry_ofFn (f : Nat → Nat → Nat → Nat → Binary32) (hb : b < s.batch)
    (hc : c < s.channels) (hi : i < s.height) (hj : j < s.width) :
    (ofFn s f).entry b c i j = f b c i j := by
  have hk := MapShape.place_lt hb hc hi hj
  have e1 : s.place b c i j / s.width = (b * s.channels + c) * s.height + i := by
    rw [MapShape.place, Nat.mul_comm, Nat.mul_add_div (by omega), Nat.div_eq_of_lt hj, Nat.add_zero]
  have e2 : s.place b c i j % s.width = j := by
    rw [MapShape.place, Nat.mul_comm, Nat.mul_add_mod, Nat.mod_eq_of_lt hj]
  have e3 : ((b * s.channels + c) * s.height + i) / s.height = b * s.channels + c := by
    rw [Nat.mul_comm, Nat.mul_add_div (by omega), Nat.div_eq_of_lt hi, Nat.add_zero]
  have e4 : ((b * s.channels + c) * s.height + i) % s.height = i := by
    rw [Nat.mul_comm, Nat.mul_add_mod, Nat.mod_eq_of_lt hi]
  have e5 : (b * s.channels + c) / s.channels = b := by
    rw [Nat.mul_comm, Nat.mul_add_div (by omega), Nat.div_eq_of_lt hc, Nat.add_zero]
  have e6 : (b * s.channels + c) % s.channels = c := by
    rw [Nat.mul_comm, Nat.mul_add_mod, Nat.mod_eq_of_lt hc]
  rw [entry, ofFn_shape, ofFn, Array.getD_eq_getD_getElem?,
    Array.getElem?_eq_getElem (by simpa using hk), Option.getD_some, Array.getElem_ofFn]
  simp only [e1, e2, e3, e4, e5, e6]

theorem getElem?_place (x : FeatureMap) {b c i j : Nat} (hb : b < x.shape.batch)
    (hc : c < x.shape.channels) (hi : i < x.shape.height) (hj : j < x.shape.width) :
    x.data[x.shape.place b c i j]? = some (x.entry b c i j) := by
  have hk : x.shape.place b c i j < x.data.size := by
    rw [x.size_eq]
    exact MapShape.place_lt hb hc hi hj
  rw [entry, Array.getD_eq_getD_getElem?, Array.getElem?_eq_getElem hk, Option.getD_some]

theorem ofFn_congr {f g : Nat → Nat → Nat → Nat → Binary32}
    (h : ∀ b c i j, b < s.batch → c < s.channels → i < s.height → j < s.width →
      f b c i j = g b c i j) : ofFn s f = ofFn s g := by
  refine ext (show (ofFn s f).shape = (ofFn s g).shape from rfl) ?_
  apply Array.ext
  · simp [ofFn]
  · intro k hk _
    have hk' : k < volume s.toShape := by simpa [ofFn] using hk
    obtain ⟨hb, hc, hi, hj⟩ := MapShape.place_split hk'
    simpa [ofFn] using h _ _ _ _ hb hc hi hj

end FeatureMap

namespace Tensor

theorem exists_toFeatureMap? {x : Tensor} {s : MapShape} (h : x.shape = s.toShape) :
    ∃ m : FeatureMap, x.toFeatureMap? = some m ∧ m.shape = s ∧ m.toTensor = x := by
  obtain ⟨shape, data, size_eq⟩ := x
  cases h
  exact ⟨⟨s, data, size_eq⟩, rfl, rfl, rfl⟩

theorem toTensor_toFeatureMap {x : Tensor} {map : FeatureMap}
    (h : x.toFeatureMap? = some map) : map.toTensor = x := by
  unfold toFeatureMap? at h
  split at h
  case h_1 =>
    cases h
    rfl
  case h_2 => cases h

end Tensor

@[simp] theorem FeatureMap.toFeatureMap?_toTensor (m : FeatureMap) :
    m.toTensor.toFeatureMap? = some m := rfl

@[simp] theorem FeatureMap.toTensor_shape (m : FeatureMap) :
    m.toTensor.shape = m.shape.toShape := rfl

end PoolCheck
