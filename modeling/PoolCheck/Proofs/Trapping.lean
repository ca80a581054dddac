import PoolCheck.Proofs.Primitive

/-!
# Inference that cannot go astray

A module comes from a converter that nobody has to trust. Here its interpreter is written down once
more, with a watch on every step. A sum or a product that is no word, a difference below zero, a
quotient by zero, a range that does not lie in its axis, an element that is not there and a map that
no memory holds all end the watched run. It never ends like that as long as the maps that are padded
can be held, whatever the primitives are, and it gives what the interpreter gives.
-/

set_option autoImplicit false

namespace PoolCheck

/-- What ends a program that does it. -/
inductive Trap where
  | overflow
  | underflow
  | zeroDivisor
  | outside
  | unheld
  deriving DecidableEq

/-! ## The watched interpreter -/

namespace Watched

def add (a b : Nat) : Except Trap Nat := if a + b < wordLimit then .ok (a + b) else .error .overflow

def mul (a b : Nat) : Except Trap Nat := if a * b < wordLimit then .ok (a * b) else .error .overflow

def sub (a b : Nat) : Except Trap Nat := if b ≤ a then .ok (a - b) else .error .underflow

def quotient (a b : Nat) : Except Trap Nat := if b = 0 then .error .zeroDivisor else .ok (a / b)

def ratio (v d : Binary32) : Except Trap Binary32 :=
  if d.equal .zero then .error .zeroDivisor else .ok (v / d)

def range (start stop extent : Nat) : Except Trap (List Nat) :=
  if start ≤ stop ∧ stop ≤ extent then .ok (List.range' start (stop - start))
  else .error .outside

def item (xs : Array Binary32) (k : Nat) : Except Trap Binary32 :=
  match xs[k]? with
  | some v => .ok v
  | none => .error .outside

def read (x : FeatureMap) (b c i j : Nat) : Except Trap Binary32 :=
  if b < x.shape.batch ∧ c < x.shape.channels ∧ i < x.shape.height ∧ j < x.shape.width then
    item x.data (x.shape.place b c i j)
  else .error .outside

def slice (x : FeatureMap) (b c top bottom left right : Nat) : Except Trap (List Binary32) := do
  let rows ← range top bottom x.shape.height
  let cols ← range left right x.shape.width
  let lines ← rows.mapM fun i => cols.mapM (read x b c i)
  pure lines.flatten

def build (s : MapShape) (f : Nat → Nat → Nat → Nat → Except Trap Binary32) :
    Except Trap FeatureMap :=
  if holdable s.toShape then do
    let data ← Vector.ofFnM (n := volume s.toShape) fun k =>
      f (k / s.width / s.height / s.channels) (k / s.width / s.height % s.channels)
        (k / s.width % s.height) (k % s.width)
    pure ⟨s, data.toArray, data.size_toArray⟩
  else .error .unheld

def pad (top bottom left right : Nat) (v : Binary32) (x : FeatureMap) :
    Except Trap FeatureMap := do
  let rowsEnd ← add top x.shape.height
  let colsEnd ← add left x.shape.width
  let height ← add rowsEnd bottom
  let width ← add colsEnd right
  let rows ← range top rowsEnd height
  let cols ← range left colsEnd width
  build (x.shape.resize height width) fun b c i j => do
    if i ∈ rows ∧ j ∈ cols then read x b c (← sub i top) (← sub j left) else pure v

def windows (extent kernel stride : Nat) : Except Trap Nat := do
  add (← quotient (← sub extent kernel) stride) 1

def slide (kernel stride : Pair) (combine : List Binary32 → Binary32) (x : FeatureMap) :
    Except Trap (Except LoadFault FeatureMap) :=
  let h := x.shape.height
  let w := x.shape.width
  if kernel.h = 0 ∨ kernel.w = 0 ∨ stride.h = 0 ∨ stride.w = 0 then
    pure (.error (.badWindow kernel stride))
  else if h < kernel.h ∨ w < kernel.w then pure (.error (.windowTooLarge kernel h w))
  else do
    let height ← windows h kernel.h stride.h
    let width ← windows w kernel.w stride.w
    let y ← build (x.shape.resize height width) fun b c i j => do
      let top ← mul i stride.h
      let left ← mul j stride.w
      let bottom ← add top kernel.h
      let right ← add left kernel.w
      pure (combine (← slice x b c top bottom left right))
    pure (.ok y)

def divideByMap (height width : Nat) (divisors : Array Binary32) (x : FeatureMap) :
    Except Trap (Except LoadFault FeatureMap) := do
  let h := x.shape.height
  let w := x.shape.width
  let fault := .error (.tableSize height width divisors.size h w)
  if h = height ∧ w = width then
    let count ← mul height width
    if divisors.size = count then
      let y ← build x.shape fun b c i j => do
        let d ← item divisors (← add (← mul i width) j)
        let v ← read x b c i j
        if d.equal .zero then pure .zero else ratio v d
      pure (.ok y)
    else pure fault
  else pure fault

def divideByScalar (d : Binary32) (x : FeatureMap) :
    Except Trap (Except LoadFault FeatureMap) := do
  if d.equal .zero then pure (.error .zeroDivisor)
  else
    let y ← build x.shape fun b c i j => do ratio (← read x b c i j) d
    pure (.ok y)

def step : Primitive → FeatureMap → Except Trap (Except LoadFault FeatureMap)
  | .pad top bottom left right v, x => do
    let y ← pad top bottom left right v.value x
    pure (.ok y)
  | .windowSum kernel stride, x => slide kernel stride sum x
  | .windowMax kernel stride, x => slide kernel stride maximum x
  | .divideByMap height width divisors, x => divideByMap height width divisors x
  | .divideByScalar d, x => divideByScalar d x

def run : List Primitive → FeatureMap → Except Trap (Except LoadFault FeatureMap)
  | [], x => pure (.ok x)
  | p :: ps, x => do
    match ← step p x with
    | .ok y => run ps y
    | .error fault => pure (.error fault)

def runFrom (index : Nat) : List Stage → FeatureMap → Except Trap (Except LoadFault FeatureMap)
  | [], x => pure (.ok x)
  | stage :: rest, x => do
    match ← run stage.primitives x with
    | .ok y =>
      if y.shape.toShape = stage.outputShape then runFrom (index + 1) rest y
      else pure (.error (.stageShape index stage.source y.shape.toShape stage.outputShape))
    | .error fault => pure (.error fault)

def infer (m : LoadedModule) : Except Trap (Except LoadFault Tensor) := do
  let result ← runFrom 0 m.code.stages m.input
  pure (result.map FeatureMap.toTensor)

end Watched

/-! ## Padded maps that can be held -/

/-- The map that is made can be held, if the primitive pads. Nothing is asked of the others. -/
def Primitive.Fits (x : FeatureMap) : Primitive → Prop
  | pad top bottom left right _ =>
    holdable (x.shape.resize (top + x.shape.height + bottom)
      (left + x.shape.width + right)).toShape = true
  | _ => True

def Primitive.AllFit : List Primitive → FeatureMap → Prop
  | [], _ => True
  | p :: ps, x => p.Fits x ∧ ∀ y, p.step x = .ok y → AllFit ps y

def Stage.AllFit : List Stage → FeatureMap → Prop
  | [], _ => True
  | stage :: rest, x => Primitive.AllFit stage.primitives x ∧
      ∀ y, Primitive.run stage.primitives x = .ok y → y.shape.toShape = stage.outputShape →
        AllFit rest y

/-! ## Steps that are not stopped -/

theorem mapM_eq_map {ε α β : Type} {f : α → Except ε β} {g : α → β} {xs : List α}
    (h : ∀ x ∈ xs, f x = .ok (g x)) : xs.mapM f = .ok (xs.map g) := by
  induction xs with
  | nil => rfl
  | cons x xs ih =>
    rw [List.forall_mem_cons] at h
    rw [List.mapM_cons, h.1, ih h.2]
    rfl

namespace Watched

variable {x : FeatureMap}

theorem add_eq {a b : Nat} (h : a + b < wordLimit) : add a b = .ok (a + b) := if_pos h

theorem mul_eq {a b : Nat} (h : a * b < wordLimit) : mul a b = .ok (a * b) := if_pos h

theorem sub_eq {a b : Nat} (h : b ≤ a) : sub a b = .ok (a - b) := if_pos h

theorem quotient_eq {a b : Nat} (h : 0 < b) : quotient a b = .ok (a / b) :=
  if_neg (Nat.ne_of_gt h)

theorem ratio_eq {v d : Binary32} (h : ¬d.equal .zero = true) : ratio v d = .ok (v / d) := if_neg h

theorem range_eq {start stop extent : Nat} (hs : start ≤ stop) (he : stop ≤ extent) :
    range start stop extent = .ok (List.range' start (stop - start)) := if_pos ⟨hs, he⟩

theorem item_eq {xs : Array Binary32} {k : Nat} (h : k < xs.size) :
    item xs k = .ok (xs.getD k .zero) := by
  rw [item, Array.getElem?_eq_getElem h, Array.getD_eq_getD_getElem?,
    Array.getElem?_eq_getElem h, Option.getD_some]

theorem read_eq {b c i j : Nat} (hb : b < x.shape.batch) (hc : c < x.shape.channels)
    (hi : i < x.shape.height) (hj : j < x.shape.width) :
    read x b c i j = .ok (x.entry b c i j) := by
  rw [read, if_pos ⟨hb, hc, hi, hj⟩, item_eq]
  · rfl
  · rw [x.size_eq]
    exact MapShape.place_lt hb hc hi hj

theorem slice_eq {b c top bottom left right : Nat} (hb : b < x.shape.batch)
    (hc : c < x.shape.channels) (ht : top ≤ bottom) (hh : bottom ≤ x.shape.height)
    (hl : left ≤ right) (hw : right ≤ x.shape.width) (kh kw : Nat) :
    slice x b c top bottom left right =
      .ok (patch ⟨top, bottom, kh⟩ ⟨left, right, kw⟩ (x.entry b c)) := by
  have hlines : ((List.range' top (bottom - top)).mapM fun i =>
      (List.range' left (right - left)).mapM (read x b c i)) =
        .ok ((List.range' top (bottom - top)).map fun i =>
          (List.range' left (right - left)).map (x.entry b c i)) := by
    refine mapM_eq_map fun i hi => mapM_eq_map fun j hj => ?_
    rw [List.mem_range'_1] at hi hj
    exact read_eq hb hc (by omega) (by omega)
  rw [slice, range_eq ht hh, range_eq hl hw]
  simp only [Except.ok_bind, hlines]
  rfl

theorem build_eq {s : MapShape} {f : Nat → Nat → Nat → Nat → Except Trap Binary32}
    {g : Nat → Nat → Nat → Nat → Binary32} (hs : holdable s.toShape = true)
    (h : ∀ b c i j, b < s.batch → c < s.channels → i < s.height → j < s.width →
      f b c i j = .ok (g b c i j)) : build s f = .ok (.ofFn s g) := by
  have hf : (fun k : Fin (volume s.toShape) => f (k / s.width / s.height / s.channels)
      (k / s.width / s.height % s.channels) (k / s.width % s.height) (k % s.width)) =
        fun k : Fin _ => pure (g (k / s.width / s.height / s.channels)
          (k / s.width / s.height % s.channels) (k / s.width % s.height) (k % s.width)) := by
    -- Every number below the volume belongs to a place of the shape.
    funext k
    obtain ⟨hb, hc, hi, hj⟩ := MapShape.place_split k.isLt
    exact h _ _ _ _ hb hc hi hj
  rw [build, if_pos hs, hf, Vector.ofFnM_pure]
  simp only [pure_bind, Vector.toArray_ofFn]
  rfl

/-! ## Primitives that are not stopped -/

theorem pad_eq {top bottom left right : Nat} (v : PadValue)
    (h : (Primitive.pad top bottom left right v).Fits x) :
    step (.pad top bottom left right v) x =
      .ok ((Primitive.pad top bottom left right v).step x) := by
  have hh := MapShape.height_lt h
  have hw := MapShape.width_lt h
  have hlimit : signLimit < wordLimit := by decide
  simp only [MapShape.resize_height, MapShape.resize_width] at hh hw
  have hbuild : pad top bottom left right v.value x =
      .ok (.ofFn (x.shape.resize (top + x.shape.height + bottom) (left + x.shape.width + right))
        fun b c i j => if top ≤ i ∧ i < top + x.shape.height ∧ left ≤ j ∧
          j < left + x.shape.width then x.entry b c (i - top) (j - left) else v.value) := by
    rw [pad, add_eq (by omega), Except.ok_bind, add_eq (by omega), Except.ok_bind,
      add_eq (by omega), Except.ok_bind, add_eq (by omega), Except.ok_bind,
      range_eq (by omega) (by omega), Except.ok_bind, range_eq (by omega) (by omega),
      Except.ok_bind]
    refine build_eq h fun b c i j hb hc hi hj => ?_
    simp only [List.mem_range'_1]
    -- Inside the border the place moved back lies in the old map, and both conditions say inside.
    split_ifs with hin hin' hin'
    · rw [sub_eq hin.1.1, sub_eq hin.2.1]
      exact read_eq hb hc (by omega) (by omega)
    · omega
    · omega
    · rfl
  rw [step, hbuild, Primitive.step, FeatureMap.pad, if_pos (show holdable _ = true from h)]
  rfl

theorem windows_eq {extent kernel stride : Nat} (hk : 0 < kernel) (hs : 0 < stride)
    (hle : kernel ≤ extent) (hl : extent < signLimit) :
    windows extent kernel stride = .ok ((extent - kernel) / stride + 1) := by
  have hq := Nat.div_le_self (extent - kernel) stride
  have hlimit : signLimit < wordLimit := by decide
  rw [windows, sub_eq hle, Except.ok_bind, quotient_eq hs, Except.ok_bind]
  exact add_eq (by omega)

theorem window_end_le {extent kernel stride i : Nat} (hle : kernel ≤ extent)
    (hi : i < (extent - kernel) / stride + 1) : i * stride + kernel ≤ extent := by
  have hm : i * stride ≤ (extent - kernel) / stride * stride :=
    Nat.mul_le_mul_right _ (Nat.le_of_lt_succ hi)
  have hd := Nat.div_mul_le_self (extent - kernel) stride
  omega

theorem slide_eq (hx : holdable x.shape.toShape = true) (kernel stride : Pair)
    (combine : List Binary32 → Binary32) :
    slide kernel stride combine x = .ok (x.slide kernel stride combine) := by
  have hh := MapShape.height_lt hx
  have hw := MapShape.width_lt hx
  have hlimit : signLimit < wordLimit := by decide
  simp only [slide, FeatureMap.slide]
  split_ifs with hz hlong
  · rfl
  · rfl
  · have hqh := Nat.div_le_self (x.shape.height - kernel.h) stride.h
    have hqw := Nat.div_le_self (x.shape.width - kernel.w) stride.w
    -- There are no more windows than positions, so the new map takes no more room than the old one.
    rw [windows_eq (by omega) (by omega) (by omega) hh, Except.ok_bind,
      windows_eq (by omega) (by omega) (by omega) hw, Except.ok_bind,
      build_eq (MapShape.holdable_resize hx (by omega) (by omega))]
    · rfl
    · intro b c i j hb hc hi hj
      have hi' := window_end_le (by omega) hi
      have hj' := window_end_le (by omega) hj
      rw [mul_eq (by omega), Except.ok_bind, mul_eq (by omega), Except.ok_bind,
        add_eq (by omega), Except.ok_bind, add_eq (by omega), Except.ok_bind,
        slice_eq hb hc (by omega) hi' (by omega) hj' kernel.h kernel.w]
      rfl

theorem divideByMap_eq (hx : holdable x.shape.toShape = true) (height width : Nat)
    (divisors : Array Binary32) :
    divideByMap height width divisors x = .ok (x.divideByMap height width divisors) := by
  have hplane := MapShape.plane_lt hx
  have hlimit : signLimit < wordLimit := by decide
  simp only [divideByMap, FeatureMap.divideByMap]
  by_cases hs : x.shape.height = height ∧ x.shape.width = width
  · obtain ⟨rfl, rfl⟩ := hs
    rw [if_pos ⟨rfl, rfl⟩, mul_eq (by omega), Except.ok_bind]
    simp only [true_and]
    split_ifs with hsize
    · rw [build_eq hx]
      · rfl
      · intro b c i j hb hc hi hj
        have hk := row_major_lt hi hj
        rw [mul_eq (by omega), Except.ok_bind, add_eq (by omega), Except.ok_bind,
          item_eq (by omega), Except.ok_bind, read_eq hb hc hi hj, Except.ok_bind]
        split_ifs with hd
        · rfl
        · exact ratio_eq hd
    · rfl
  · rw [if_neg hs, if_neg (fun h => hs ⟨h.1, h.2.1⟩)]
    rfl

theorem divideByScalar_eq (hx : holdable x.shape.toShape = true) (d : Binary32) :
    divideByScalar d x = .ok (x.divideByScalar d) := by
  rw [divideByScalar, FeatureMap.divideByScalar]
  split_ifs with hd
  · rfl
  · rw [build_eq hx]
    · rfl
    · intro b c i j hb hc hi hj
      rw [read_eq hb hc hi hj, Except.ok_bind]
      exact ratio_eq hd

/-- One primitive is not stopped, whatever its numbers are. -/
theorem step_eq (hx : holdable x.shape.toShape = true) {p : Primitive} (h : p.Fits x) :
    step p x = .ok (p.step x) := by
  cases p with
  | pad top bottom left right v => exact pad_eq v h
  | windowSum kernel stride => exact slide_eq hx kernel stride sum
  | windowMax kernel stride => exact slide_eq hx kernel stride maximum
  | divideByMap height width divisors => exact divideByMap_eq hx height width divisors
  | divideByScalar d => exact divideByScalar_eq hx d

/-! ## Runs that are not stopped -/

/-- The watched computation is not stopped and gives the result, which is a map that can be held, or
a fault that does not abort. -/
structure Passes (watched : Except Trap (Except LoadFault FeatureMap))
    (result : Except LoadFault FeatureMap) : Prop where
  eq : watched = .ok result
  ordinary : ∀ cause, result = .error cause → cause.aborts = false
  held : ∀ y, result = .ok y → holdable y.shape.toShape = true

theorem passes_map (hx : holdable x.shape.toShape = true) : Passes (.ok (.ok x)) (.ok x) := by
  refine ⟨rfl, fun cause hc => ?_, fun y hy => ?_⟩
  · cases hc
  · cases hy
    exact hx

theorem passes_fault {fault : LoadFault} (h : fault.aborts = false) :
    Passes (.ok (.error fault)) (.error fault) := by
  refine ⟨rfl, fun cause hc => ?_, fun y hy => ?_⟩
  · cases hc
    exact h
  · cases hy

theorem step_ordinary {p : Primitive} (h : p.Fits x) {cause : LoadFault}
    (he : p.step x = .error cause) : cause.aborts = false := by
  cases p with
  | pad top bottom left right v =>
    rw [Primitive.step, FeatureMap.pad, if_pos (show holdable _ = true from h)] at he
    cases he
  | windowSum kernel stride | windowMax kernel stride =>
    dsimp only [Primitive.step, FeatureMap.slide] at he
    split_ifs at he
    all_goals
      cases he
      rfl
  | divideByMap height width divisors =>
    dsimp only [Primitive.step, FeatureMap.divideByMap] at he
    split_ifs at he
    cases he
    rfl
  | divideByScalar d =>
    dsimp only [Primitive.step, FeatureMap.divideByScalar] at he
    split_ifs at he
    cases he
    rfl

theorem step_held (hx : holdable x.shape.toShape = true) {p : Primitive} {y : FeatureMap}
    (h : p.step x = .ok y) : holdable y.shape.toShape = true := by
  cases p with
  | pad top bottom left right v => exact (FeatureMap.shape_of_pad h).2
  | windowSum kernel stride | windowMax kernel stride =>
    obtain ⟨hk, hle, hs⟩ := FeatureMap.shape_of_slide h
    have hqh := Nat.div_le_self (x.shape.height - kernel.h) stride.h
    have hqw := Nat.div_le_self (x.shape.width - kernel.w) stride.w
    rw [hs]
    exact MapShape.holdable_resize hx (by omega) (by omega)
  | divideByMap height width divisors =>
    rw [FeatureMap.shape_of_divideByMap h]
    exact hx
  | divideByScalar d =>
    rw [FeatureMap.shape_of_divideByScalar h]
    exact hx

theorem step_passes (hx : holdable x.shape.toShape = true) {p : Primitive} (h : p.Fits x) :
    Passes (step p x) (p.step x) :=
  ⟨step_eq hx h, fun _ => step_ordinary h, fun _ => step_held hx⟩

theorem run_passes {ps : List Primitive} (hx : holdable x.shape.toShape = true)
    (h : Primitive.AllFit ps x) : Passes (run ps x) (Primitive.run ps x) := by
  induction ps generalizing x with
  | nil => exact passes_map hx
  | cons p ps ih =>
    have hp := step_passes hx h.1
    rw [run, hp.eq, Except.ok_bind, Primitive.run]
    cases hs : p.step x with
    | error fault => exact passes_fault (hp.ordinary fault hs)
    | ok y => exact ih (hp.held y hs) (h.2 y hs)

theorem runFrom_passes {stages : List Stage} (hx : holdable x.shape.toShape = true)
    (h : Stage.AllFit stages x) (index : Nat) :
    Passes (runFrom index stages x) (Stage.runFrom index stages x) := by
  induction stages generalizing x index with
  | nil => exact passes_map hx
  | cons stage rest ih =>
    have hp := run_passes hx h.1
    rw [runFrom, hp.eq, Except.ok_bind, Stage.runFrom, Stage.run]
    cases hs : Primitive.run stage.primitives x with
    | error fault => exact passes_fault (hp.ordinary fault hs)
    | ok y =>
      simp only [Except.ok_bind]
      split_ifs with hshape
      · exact ih (hp.held y hs) (h.2 y hs hshape) (index + 1)
      · exact passes_fault rfl

end Watched

/-- A module may have any stages, each of any primitives with any numbers and tables, and its input
is any map that can be held, with extents that may be zero. As long as the padded maps can be held
too, no step of the inference leaves the words, the axes or what is stored, none divides by zero,
and the result is a tensor or a fault that does not abort. Where it is a tensor, each stage has left
the shape that it declares. -/
theorem inference_safe (m : LoadedModule) (hx : holdable m.input.shape.toShape = true)
    (hf : Stage.AllFit m.code.stages m.input) :
    Watched.infer m = .ok m.infer ∧ (∀ cause, m.infer = .error cause → cause.aborts = false) ∧
      ∀ y, m.infer = .ok y → ∀ n stage, m.code.stages[n]? = some stage →
        ∃ z, Stage.runFrom 0 (m.code.stages.take (n + 1)) m.input = .ok z ∧
          z.shape.toShape = stage.outputShape := by
  have hp := Watched.runFrom_passes hx hf 0
  rw [Watched.infer, hp.eq, Except.ok_bind, LoadedModule.infer]
  cases hr : Stage.runFrom 0 m.code.stages m.input with
  | error fault =>
    refine ⟨rfl, fun cause hc => ?_, fun y hy => ?_⟩
    · cases hc
      exact hp.ordinary fault hr
    · cases hy
  | ok z =>
    refine ⟨rfl, fun cause hc => ?_, fun y _ n stage hn => Stage.shape_of_runFrom hr hn⟩
    cases hc

/-- Primitives that no operator is lowered to in this order: a table with zeros, then windows a
stride apart that no plane has, then padding on one side. -/
def strangeModule : LoadedModule where
  code :=
    { version := formatVersion
      source := "strange"
      inputShape := [1, 1, 2, 3]
      outputShape := [1, 1, 2, 3]
      paramFile := "strange_params.npy"
      stages := [⟨"strange", [1, 1, 2, 3],
        [.divideByMap 2 3 #[.zero, .one, .one, .one, .one, .zero],
          .windowMax ⟨2, 1⟩ ⟨2 ^ 64 - 1, 1⟩, .pad 1 0 0 0 .negInfinity]⟩] }
  input := ⟨⟨1, 1, 2, 3⟩, Array.replicate 6 .one, by decide⟩

theorem inference_safe_strange : ∃ y, strangeModule.infer = .ok y ∧
    Watched.infer strangeModule = .ok (.ok y) ∧ y.shape = [1, 1, 2, 3] := by
  have hx : holdable strangeModule.input.shape.toShape = true := by decide
  have hf : Stage.AllFit strangeModule.code.stages strangeModule.input := by
    refine ⟨⟨trivial, fun y hy => ⟨trivial, fun z hz => ⟨?_, fun _ _ => trivial⟩⟩⟩,
      fun _ _ _ => trivial⟩
    cases hy
    cases hz
    show holdable [1, 1, 2, 3] = true
    decide
  exact ⟨_, rfl, (inference_safe strangeModule hx hf).1, rfl⟩

end PoolCheck
