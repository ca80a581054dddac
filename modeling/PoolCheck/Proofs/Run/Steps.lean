import PoolCheck.Proofs.Action
import PoolCheck.Proofs.FeatureMap
import PoolCheck.Run.Basic

/-!
# The steps of a run

A run that succeeds is one success after the other: a directory is provided, the graph is exported,
what an earlier run left is removed, the converter is launched, and what it made is executed and
compared. A run that fails is stopped by one of them. Only one of these steps asks the launcher.
-/

set_option autoImplicit false

namespace PoolCheck

open PoolCheck.Action

variable {launcher : Launcher} {fs fs' : FileSystem}

/-! ## The driver -/

namespace Driver

def ready (d : Driver) (graph : Path) (shape : Shape) :
    Action ConversionFault (Invocation × Artifact) := do
  let graph := (← get).absolute graph
  let i := d.invocation (← get) graph shape
  let a ← Action.ask fun _ => convertedPaths graph
  removeStale a.modulePath
  removeStale a.paramPath
  Action.change (·.write? i.log .empty) .noLog
  pure (i, a)

theorem drive_eq_ready (d : Driver) (launcher : Launcher) (graph : Path) (shape : Shape) :
    d.drive launcher graph shape = d.ready graph shape >>= fun r =>
      launch launcher r.1 >>= fun ending => Action.ask (collect r.1 r.2 ending) := by
  simp only [drive, ready, bind_assoc, pure_bind]

theorem exec_drive (d : Driver) (launcher : Launcher) (graph : Path) (shape : Shape)
    (fs : FileSystem) : (d.drive launcher graph shape).exec fs =
      match (d.ready graph shape).exec fs with
      | (.error e, before) => (.error e, before)
      | (.ok (i, a), before) =>
        (collect i a (launcher i before).1 (launcher i before).2, (launcher i before).2) := by
  rw [drive_eq_ready, exec_bind]
  cases (d.ready graph shape).exec fs with
  | mk r before => cases r <;> rfl

theorem ready_eq_ok {d : Driver} {graph : Path} {shape : Shape} {i : Invocation} {a : Artifact} :
    (d.ready graph shape).exec fs = (.ok (i, a), fs') ↔
      i = d.invocation fs (fs.absolute graph) shape ∧
      convertedPaths (fs.absolute graph) = .ok a ∧ ∃ first second,
        (removeStale a.modulePath).exec fs = (.ok (), first) ∧
        (removeStale a.paramPath).exec first = (.ok (), second) ∧
        second.write? i.log .empty = some fs' := by
  unfold ready
  simp only [bind_eq_ok, get_eq_ok, ask_eq_ok, change_eq_ok, pure_eq_ok]
  constructor
  · rintro ⟨_, _, ⟨rfl, rfl⟩, _, _, ⟨rfl, rfl⟩, b, _, ⟨hb, rfl⟩, _, first, hm, _, second, hp, _, _,
      hw, he, rfl⟩
    cases he
    exact ⟨rfl, hb, first, second, hm, hp, hw⟩
  · rintro ⟨rfl, ha, first, second, hm, hp, hw⟩
    exact ⟨fs, fs, ⟨rfl, rfl⟩, fs, fs, ⟨rfl, rfl⟩, a, fs, ⟨ha, rfl⟩, (), first, hm, (), second, hp,
      (), fs', hw, rfl, rfl⟩

theorem collect_eq_ok {i : Invocation} {a b : Artifact} {ending : Ending} :
    collect i a ending fs = .ok b ↔ ending = .exited (.code 0) ∧
      fs.isFile a.modulePath = true ∧ fs.isFile a.paramPath = true ∧ a = b := by
  unfold collect
  split
  case h_1 => simp
  case h_2 => simp
  case h_3 status =>
    by_cases hs : status = .code 0
    · subst hs
      cases fs.isFile a.modulePath <;> cases fs.isFile a.paramPath <;> simp
    · simp [hs]

theorem drive_eq_ok {d : Driver} {graph : Path} {shape : Shape} {a : Artifact} :
    (d.drive launcher graph shape).exec fs = (.ok a, fs') ↔
      ∃ i before, (d.ready graph shape).exec fs = (.ok (i, a), before) ∧
        launcher i before = (.exited (.code 0), fs') ∧
        fs'.isFile a.modulePath = true ∧ fs'.isFile a.paramPath = true := by
  rw [exec_drive]
  constructor
  · intro h
    split at h
    · cases h
    · next i b before hr =>
      obtain ⟨hc, rfl⟩ := Prod.mk.inj h
      obtain ⟨he, hm, hp, rfl⟩ := collect_eq_ok.1 hc
      exact ⟨i, before, hr, Prod.ext he rfl, hm, hp⟩
  · rintro ⟨i, before, hr, hl, hm, hp⟩
    rw [hr]
    dsimp only
    rw [hl]
    exact Prod.ext (collect_eq_ok.2 ⟨rfl, hm, hp, rfl⟩) rfl

theorem drive_eq_error {d : Driver} {graph : Path} {shape : Shape} {e : ConversionFault} :
    (d.drive launcher graph shape).exec fs = (.error e, fs') ↔
      (d.ready graph shape).exec fs = (.error e, fs') ∨
      ∃ i a before, (d.ready graph shape).exec fs = (.ok (i, a), before) ∧
        (launcher i before).2 = fs' ∧ collect i a (launcher i before).1 fs' = .error e := by
  rw [exec_drive]
  constructor
  · intro h
    split at h
    · next hr =>
      cases h
      exact .inl hr
    · next i a before hr =>
      obtain ⟨hc, rfl⟩ := Prod.mk.inj h
      exact .inr ⟨i, a, before, hr, rfl, hc⟩
  · rintro (hr | ⟨i, a, before, hr, rfl, hc⟩)
    · rw [hr]
    · rw [hr]
      exact Prod.ext hc rfl

end Driver

/-! ## The export -/

theorem exportGraph_eq_ok {q : OperatorSequence} {input : Tensor} {dir : Path} {name : String}
    {e : Exported} : (exportGraph q input dir name).exec fs = (.ok e, fs') ↔
      isGraphName name = true ∧ (∃ shapes, q.inferShapes input.shape = .ok shapes) ∧
      e = ⟨dir.join (name ++ ".json"), dir.join (name ++ ".input.npy"), input.shape⟩ ∧
      ∃ mid, fs.writeTensor? e.inputPath input = some mid ∧
        mid.writeText? e.graphPath (exportedGraph q input.shape name).text = some fs' := by
  unfold exportGraph
  cases hn : isGraphName name
  · simp [exec_throw]
  simp only [Bool.not_true, Bool.false_eq_true, if_false, bind_eq_ok, ask_eq_ok, change_eq_ok,
    pure_eq_ok, mapError_eq_ok, true_and]
  constructor
  · rintro ⟨shapes, _, ⟨hs, rfl⟩, _, mid, hi, _, last, hg, rfl, rfl⟩
    exact ⟨⟨shapes, hs⟩, rfl, mid, hi, hg⟩
  · rintro ⟨⟨shapes, hs⟩, rfl, mid, hi, hg⟩
    exact ⟨shapes, fs, ⟨hs, rfl⟩, (), mid, hi, (), fs', hg, rfl, rfl⟩

/-! ## The execution -/

theorem readModule_eq_ok {p : Path} {m : Module} : readModule fs p = .ok m ↔
    ∃ text, fs.readText? p = some text ∧ Module.ofText text = .ok m ∧
      m.version = formatVersion := by
  unfold readModule
  cases fs.readText? p with
  | none => simp
  | some text =>
    cases ht : Module.ofText text with
    | error e => simp [ht]
    | ok n =>
      by_cases hv : n.version = formatVersion
      · simp only [hv, if_true, Except.ok.injEq, Option.some.injEq, exists_eq_left', ht]
        exact ⟨fun h => ⟨h, h ▸ hv⟩, fun h => h.1⟩
      · simp only [hv, if_false, reduceCtorEq, Option.some.injEq, exists_eq_left', ht,
          Except.ok.injEq, false_iff, not_and]
        rintro rfl
        exact hv

theorem loadModule_eq_ok {a : Artifact} {loaded : LoadedModule} :
    loadModule fs a = .ok loaded ↔ ∃ code embedded, readModule fs a.modulePath = .ok code ∧
      fs.readTensor a.paramPath = .ok embedded ∧ code.load embedded = .ok loaded := by
  unfold loadModule
  simp only [Except.bind_eq_ok, mapError_eq_ok]
  constructor
  · rintro ⟨code, hc, embedded, he, hl⟩
    exact ⟨code, embedded, hc, he, hl⟩
  · rintro ⟨code, embedded, hc, he, hl⟩
    exact ⟨code, hc, embedded, he, hl⟩

theorem execute_eq_ok {a : Artifact} {input candidate : Tensor} {expected : Shape} :
    execute a input expected fs = .ok candidate ↔
      ∃ loaded, loadModule fs a = .ok loaded ∧ loaded.input.toTensor.equal input = true ∧
        loaded.infer = .ok candidate ∧ candidate.shape = expected := by
  have hrest : ∀ loaded : LoadedModule, (do
      if !loaded.input.toTensor.equal input then throw (.load .otherInput)
      let candidate ← loaded.infer.mapError Fault.load
      if candidate.shape ≠ expected then
        throw (.shapeMismatch expected candidate.shape .candidate)
      pure candidate : Except Fault Tensor) = .ok candidate ↔
      loaded.input.toTensor.equal input = true ∧ loaded.infer = .ok candidate ∧
        candidate.shape = expected := by
    intro loaded
    cases loaded.input.toTensor.equal input
    · exact ⟨fun h => (nomatch h), fun h => (nomatch h.1)⟩
    simp only [Bool.not_true, Bool.false_eq_true, if_false, Except.bind_eq_ok, mapError_eq_ok,
      true_and]
    constructor
    · rintro ⟨y, hy, h⟩
      by_cases hs : y.shape = expected
      · rw [if_neg (by simp [hs])] at h
        cases h
        exact ⟨hy, hs⟩
      · rw [if_pos hs] at h
        cases h
    · rintro ⟨hy, hs⟩
      exact ⟨candidate, hy, by rw [if_neg (by simp [hs])]; rfl⟩
  unfold execute
  rw [Except.bind_eq_ok]
  simp only [mapError_eq_ok]
  exact exists_congr fun loaded => and_congr_right fun _ => hrest loaded

theorem Module.load_eq_ok {m : Module} {x : Tensor} {loaded : LoadedModule} :
    m.load x = .ok loaded ↔ x.shape = m.inputShape ∧ ∃ map, x.toFeatureMap? = some map ∧
      loaded = ⟨m, map⟩ := by
  unfold load
  by_cases hs : x.shape = m.inputShape
  · rw [if_neg (by simp [hs])]
    cases hx : x.toFeatureMap? with
    | none => simp
    | some map => simp [hs, eq_comm]
  · rw [if_pos hs]
    simp [hs]

/-! ## The directory of a run -/

namespace Config

def provide (c : Config) : Action Fault Path :=
  match c.workDirectory with
  | some dir => do
    makeWorkDirectory dir
    pure dir
  | none => makeTemporary

def keeps (c : Config) : Bool := c.workDirectory.isSome || c.keepArtifacts

theorem exec_makeWorkDirectory (dir : Path) (fs : FileSystem) : (makeWorkDirectory dir).exec fs =
    (if (fs.makeDirectories dir).2 then .ok () else .error (.conversion (.noWorkDirectory dir)),
      (fs.makeDirectories dir).1) := rfl

theorem exec_makeTemporary (fs : FileSystem) : makeTemporary.exec fs =
    match fs.makeDirectory fs.temporary with
    | .ok made => (.ok fs.temporary, made)
    | .error _ => (.error (.conversion .noTemporaryDirectory), fs) := by
  have hget : makeTemporary.exec fs = (Action.change (fun fs' => (fs'.makeDirectory
      fs.temporary).toOption) (.conversion .noTemporaryDirectory) >>= fun _ =>
        pure fs.temporary : Action Fault Path).exec fs := rfl
  rw [hget, exec_bind, exec_change]
  cases fs.makeDirectory fs.temporary <;> rfl

theorem exec_provide_of_some {c : Config} {dir : Path} (h : c.workDirectory = some dir)
    (fs : FileSystem) : c.provide.exec fs = (if (fs.makeDirectories dir).2 then .ok dir
      else .error (.conversion (.noWorkDirectory dir)), (fs.makeDirectories dir).1) := by
  rw [provide, h]
  dsimp only
  rw [exec_bind, exec_makeWorkDirectory]
  cases (fs.makeDirectories dir).2 <;> rfl

theorem provide_of_none {c : Config} (h : c.workDirectory = none) : c.provide = makeTemporary := by
  rw [provide, h]

/-- Once the directory is provided, all that is left to tell apart is whether it stays. -/
theorem inWorkDirectory_eq_provide (c : Config) (body : Path → Action Fault Verdict) :
    c.inWorkDirectory body = c.provide >>= fun dir =>
      (if c.keeps then body dir else (body dir).endingWith (eraseDirectory dir)) >>= fun v =>
        pure (v, if c.keeps then some dir else none) := by
  unfold inWorkDirectory provide keeps
  cases c.workDirectory with
  | some dir => simp only [bind_assoc, pure_bind, Option.isSome_some, Bool.true_or, if_true]
  | none => cases c.keepArtifacts <;> rfl

theorem exec_inWorkDirectory (c : Config) (body : Path → Action Fault Verdict) (fs : FileSystem) :
    (c.inWorkDirectory body).exec fs =
      match c.provide.exec fs with
      | (.error fault, made) => (.error fault, made)
      | (.ok dir, made) =>
        (((body dir).exec made).1.map fun v => (v, if c.keeps then some dir else none),
          if c.keeps then ((body dir).exec made).2
          else eraseDirectory dir ((body dir).exec made).2) := by
  have hpure : ∀ (a : Action Fault Verdict) (kept : Option Path) (made : FileSystem),
      (a >>= fun v => pure (v, kept) : Action Fault (Verdict × Option Path)).exec made =
        ((a.exec made).1.map fun v => (v, kept), (a.exec made).2) := by
    intro a kept made
    rw [exec_bind]
    cases a.exec made with
    | mk r after => cases r <;> rfl
  rw [inWorkDirectory_eq_provide, exec_bind]
  cases c.provide.exec fs with
  | mk r made =>
    cases r with
    | error fault => rfl
    | ok dir =>
      dsimp only
      rw [hpure]
      cases c.keeps <;> rfl

theorem inWorkDirectory_eq_ok {c : Config} {body : Path → Action Fault Verdict} {v : Verdict}
    {kept : Option Path} : (c.inWorkDirectory body).exec fs = (.ok (v, kept), fs') ↔
      ∃ dir made after, c.provide.exec fs = (.ok dir, made) ∧
        (body dir).exec made = (.ok v, after) ∧
        kept = (if c.keeps then some dir else none) ∧
        fs' = if c.keeps then after else eraseDirectory dir after := by
  rw [exec_inWorkDirectory]
  cases c.provide.exec fs with
  | mk r made =>
    cases r with
    | error e => simp
    | ok dir =>
      dsimp only
      constructor
      · intro h
        cases hb : (body dir).exec made with
        | mk r after =>
          rw [hb] at h
          cases r <;> cases h
          exact ⟨dir, made, after, rfl, hb, rfl, rfl⟩
      · rintro ⟨_, _, after, he, hb, rfl, rfl⟩
        cases he
        rw [hb]
        rfl

theorem inWorkDirectory_eq_error {c : Config} {body : Path → Action Fault Verdict} {e : Fault} :
    (c.inWorkDirectory body).exec fs = (.error e, fs') ↔
      c.provide.exec fs = (.error e, fs') ∨
      ∃ dir made after, c.provide.exec fs = (.ok dir, made) ∧
        (body dir).exec made = (.error e, after) ∧
        fs' = if c.keeps then after else eraseDirectory dir after := by
  rw [exec_inWorkDirectory]
  cases c.provide.exec fs with
  | mk r made =>
    cases r with
    | error e' => simp
    | ok dir =>
      dsimp only
      constructor
      · intro h
        cases hb : (body dir).exec made with
        | mk r after =>
          rw [hb] at h
          cases r <;> cases h
          exact .inr ⟨dir, made, after, rfl, hb, rfl⟩
      · rintro (he | ⟨_, _, after, he, hb, rfl⟩)
        · cases he
        · cases he
          rw [hb]
          rfl

/-! ## The whole run -/

def deliver (c : Config) (launcher : Launcher) (input : Tensor) (dir : Path) :
    Action Fault Artifact := do
  let exported ← exportGraph c.operators input dir c.name
  (c.driver.drive launcher exported.graphPath exported.inputShape).mapFault .conversion

def assess (c : Config) (input reference : Tensor) (a : Artifact) (fs : FileSystem) :
    Except Fault Verdict := do
  let candidate ← execute a input reference.shape fs
  let verdict ← c.policy.compare reference candidate
  verdict.settle

theorem compareIn_eq_deliver (c : Config) (launcher : Launcher) (input reference : Tensor)
    (dir : Path) : c.compareIn launcher input reference dir =
      c.deliver launcher input dir >>= fun a => Action.ask (c.assess input reference a) := by
  simp only [compareIn, deliver, bind_assoc, ask_bind_ask]
  rfl

theorem exec_deliver (c : Config) (launcher : Launcher) (input : Tensor) (dir : Path)
    (fs : FileSystem) : (c.deliver launcher input dir).exec fs =
      match (exportGraph c.operators input dir c.name).exec fs with
      | (.error fault, after) => (.error fault, after)
      | (.ok e, mid) =>
        (((c.driver.drive launcher e.graphPath e.inputShape).exec mid).1.mapError .conversion,
          ((c.driver.drive launcher e.graphPath e.inputShape).exec mid).2) := by
  rw [deliver, exec_bind]
  cases (exportGraph c.operators input dir c.name).exec fs with
  | mk r mid => cases r <;> rfl

theorem compareIn_files (c : Config) (launcher : Launcher) (input reference : Tensor) (dir : Path)
    (fs : FileSystem) : ((c.compareIn launcher input reference dir).exec fs).2 =
      ((c.deliver launcher input dir).exec fs).2 := by
  rw [compareIn_eq_deliver, exec_bind]
  cases (c.deliver launcher input dir).exec fs with
  | mk r after => cases r <;> rfl

theorem compareIn_eq_ok {c : Config} {input reference : Tensor} {dir : Path} {v : Verdict} :
    (c.compareIn launcher input reference dir).exec fs = (.ok v, fs') ↔
      ∃ exported mid a candidate judged,
        (exportGraph c.operators input dir c.name).exec fs = (.ok exported, mid) ∧
        (c.driver.drive launcher exported.graphPath exported.inputShape).exec mid = (.ok a, fs') ∧
        execute a input reference.shape fs' = .ok candidate ∧
        c.policy.compare reference candidate = .ok judged ∧ judged.settle = .ok v := by
  unfold compareIn
  simp only [bind_eq_ok, ask_eq_ok, mapFault_eq_ok]
  constructor
  · rintro ⟨exported, mid, he, a, after, hd, candidate, _, ⟨hx, rfl⟩, judged, _, ⟨hj, rfl⟩, hs, rfl⟩
    exact ⟨exported, mid, a, candidate, judged, he, hd, hx, hj, hs⟩
  · rintro ⟨exported, mid, a, candidate, judged, he, hd, hx, hj, hs⟩
    exact ⟨exported, mid, he, a, fs', hd, candidate, fs', ⟨hx, rfl⟩, judged, fs', ⟨hj, rfl⟩, hs,
      rfl⟩

theorem prepare_eq_ok {c : Config} {input reference : Tensor} :
    c.prepare = .ok (input, reference) ↔ c.check = .ok () ∧ c.input = .ok input ∧
      c.operators.run input = .ok reference := by
  unfold prepare
  simp only [Except.bind_eq_ok, mapError_eq_ok, Except.pure_eq_ok, Prod.mk.injEq]
  constructor
  · rintro ⟨_, hc, _, hi, _, hr, rfl, rfl⟩
    exact ⟨hc, hi, hr⟩
  · rintro ⟨hc, hi, hr⟩
    exact ⟨(), hc, input, hi, reference, hr, rfl, rfl⟩

theorem run_eq_ok {c : Config} {report : Report} :
    (c.run launcher fs) = (.ok report, fs') ↔ ∃ input reference verdict artifacts,
      c.prepare = .ok (input, reference) ∧
      (c.inWorkDirectory (c.compareIn launcher input reference)).exec fs =
        (.ok (verdict, artifacts), fs') ∧
      report = ⟨c.name, c.operators.length, reference.shape, verdict, artifacts⟩ := by
  show (c.run launcher).exec fs = _ ↔ _
  unfold run
  simp only [bind_eq_ok, ask_eq_ok, pure_eq_ok]
  constructor
  · rintro ⟨⟨input, reference⟩, _, ⟨hp, rfl⟩, ⟨verdict, artifacts⟩, after, hw, rfl, rfl⟩
    exact ⟨input, reference, verdict, artifacts, hp, hw, rfl⟩
  · rintro ⟨input, reference, verdict, artifacts, hp, hw, rfl⟩
    exact ⟨(input, reference), fs, ⟨hp, rfl⟩, (verdict, artifacts), fs', hw, rfl, rfl⟩

theorem run_eq_error {c : Config} {fault : Fault} :
    c.run launcher fs = (.error fault, fs') ↔ (c.prepare = .error fault ∧ fs = fs') ∨
      ∃ input reference, c.prepare = .ok (input, reference) ∧
        (c.inWorkDirectory (c.compareIn launcher input reference)).exec fs =
          (.error fault, fs') := by
  show (c.run launcher).exec fs = _ ↔ _
  unfold run
  simp only [bind_eq_error, ask_eq_error, ask_eq_ok, not_pure_eq_error, and_false, exists_false,
    or_false]
  constructor
  · rintro (h | ⟨⟨input, reference⟩, _, ⟨hp, rfl⟩, hw⟩)
    · exact .inl h
    · exact .inr ⟨input, reference, hp, hw⟩
  · rintro (h | ⟨input, reference, hp, hw⟩)
    · exact .inl h
    · exact .inr ⟨(input, reference), fs, ⟨hp, rfl⟩, hw⟩

theorem run_files (c : Config) (launcher : Launcher) (fs : FileSystem) :
    (∃ fault, c.prepare = .error fault ∧ (c.run launcher fs).2 = fs) ∨
    ∃ input reference, c.prepare = .ok (input, reference) ∧
      ((∃ fault, c.provide.exec fs = (.error fault, (c.run launcher fs).2)) ∨
      ∃ dir made, c.provide.exec fs = (.ok dir, made) ∧ (c.run launcher fs).2 =
        if c.keeps then ((c.compareIn launcher input reference dir).exec made).2
        else eraseDirectory dir ((c.compareIn launcher input reference dir).exec made).2) := by
  have hrun : (c.run launcher fs).2 = ((c.run launcher).exec fs).2 := rfl
  rw [hrun, run, exec_bind, exec_ask]
  cases c.prepare with
  | error fault => exact .inl ⟨fault, rfl, rfl⟩
  | ok r =>
    obtain ⟨input, reference⟩ := r
    refine .inr ⟨input, reference, rfl, ?_⟩
    dsimp only
    rw [exec_bind, exec_inWorkDirectory]
    cases c.provide.exec fs with
    | mk r made =>
      cases r with
      | error fault => exact .inl ⟨fault, rfl⟩
      | ok dir =>
        refine .inr ⟨dir, made, rfl, ?_⟩
        dsimp only
        cases ((c.compareIn launcher input reference dir).exec made).1 <;> rfl

end Config

end PoolCheck
