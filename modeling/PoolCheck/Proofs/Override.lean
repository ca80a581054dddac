import PoolCheck.Command.Options
import PoolCheck.Proofs.Conversion

/-!
# What options override

A configuration is read from a file, and options override parts of it. What no argument names is
kept, with one exception: a policy has two tolerances, and an option for one of them makes the other
zero, whatever the file says of it.
-/

set_option autoImplicit false

namespace PoolCheck

/-! ## Components -/

/-- The parts of a configuration that have an option. -/
inductive Component where
  | name
  | family
  | seed
  | inputShape
  | converter
  | timeoutSeconds
  | absTolerance
  | relTolerance
  | workDirectory
  | keepArtifacts
  | logLevel
  deriving DecidableEq

def Policy.absTolerance? : Policy → Option Binary32
  | exact => none
  | tolerance abs _ => some abs

def Policy.relTolerance? : Policy → Option Binary32
  | exact => none
  | tolerance _ rel => some rel

namespace Component

def isTolerance (k : Component) : Bool := k = absTolerance || k = relTolerance

def option : Component → String
  | name => "name"
  | family => "family"
  | seed => "seed"
  | inputShape => "input-shape"
  | converter => "converter"
  | timeoutSeconds => "timeout-secs"
  | absTolerance => "abs-tol"
  | relTolerance => "rel-tol"
  | workDirectory => "work-dir"
  | keepArtifacts => "keep-artifacts"
  | logLevel => "log-level"

def Same (c c' : Config) : Component → Prop
  | name => c'.name = c.name
  | family => c'.family = c.family
  | seed => c'.seed = c.seed
  | inputShape => c'.inputShape = c.inputShape
  | converter => c'.converter = c.converter
  | timeoutSeconds => c'.timeoutSeconds = c.timeoutSeconds
  | absTolerance => c'.policy.absTolerance? = c.policy.absTolerance?
  | relTolerance => c'.policy.relTolerance? = c.policy.relTolerance?
  | workDirectory => c'.workDirectory = c.workDirectory
  | keepArtifacts => c'.keepArtifacts = c.keepArtifacts
  | logLevel => c'.logLevel = c.logLevel

end Component

namespace Options

variable {o o' : Options} {k : Component} {c : Config} {args : List String}

def gives (o : Options) : Component → Bool
  | .name => o.name.isSome
  | .family => o.family.isSome
  | .seed => o.seed.isSome
  | .inputShape => o.inputShape.isSome
  | .converter => o.converter.isSome
  | .timeoutSeconds => o.timeoutSeconds.isSome
  | .absTolerance => o.absTolerance.isSome
  | .relTolerance => o.relTolerance.isSome
  | .workDirectory => o.workDirectory.isSome
  | .keepArtifacts => o.keepArtifacts
  | .logLevel => o.logLevel.isSome

/-- A configuration has what the option of a component says. -/
def Shows (o : Options) (c : Config) : Component → Prop
  | .name => o.name = some c.name
  | .family => o.family = some c.family
  | .seed => o.seed = some c.seed
  | .inputShape => o.inputShape = some c.inputShape
  | .converter => o.converter = some c.converter
  | .timeoutSeconds => o.timeoutSeconds = c.timeoutSeconds
  | .absTolerance => o.absTolerance = c.policy.absTolerance?
  | .relTolerance => o.relTolerance = c.policy.relTolerance?
  | .workDirectory => o.workDirectory = c.workDirectory
  | .keepArtifacts => c.keepArtifacts = true
  | .logLevel => o.logLevel = some c.logLevel

/-- An argument is the option of a component, with its value or before it. -/
def Names (arg : String) (k : Component) : Prop :=
  if k = .keepArtifacts then form arg = .flag
  else form arg = .needsValue k.option ∨ ∃ value, form arg = .withValue k.option value

/-! ## Reading options -/

theorem branch {α β : Type} {p : Prop} [Decidable p] {slot : Option α} {make : α → β} {y : β}
    {others : Option β} (h : (if p then slot.map make else others) = some y) :
    (p ∧ ∃ x, make x = y) ∨ others = some y := by
  split_ifs at h with hp
  · obtain ⟨x, -, hx⟩ := Option.map_eq_some_iff.1 h
    exact .inl ⟨hp, x, hx⟩
  · exact .inr h

theorem gives_of_set? {name value : String} (h : o.set? name value = some o')
    (hk : o'.gives k = true) : o.gives k = true ∨ k ≠ .keepArtifacts ∧ name = k.option := by
  unfold set? at h
  iterate 11
    rcases branch h with ⟨hn, slot, rfl⟩ | h
    · cases k <;> first | exact .inl hk | exact .inr ⟨by decide, hn⟩
  cases h

theorem gives_of_setFlag? (h : o.setFlag? = some o') (hk : o'.gives k = true) :
    o.gives k = true ∨ k = .keepArtifacts := by
  unfold setFlag? at h
  split_ifs at h
  cases h
  cases k <;> first | exact .inl hk | exact .inr rfl

theorem gives_of_step {mid : Options} {arg : String} {rest behind : List String}
    (hstep : mid.gives k = true → o.gives k = true ∨ Names arg k)
    (hrest : mid.gives k = true ∨ ∃ a ∈ rest, Names a k) (hsub : rest ⊆ behind) :
    o.gives k = true ∨ ∃ a ∈ arg :: behind, Names a k := by
  rcases hrest with hmid | ⟨a, ha, hn⟩
  · exact (hstep hmid).imp_right fun hn => ⟨arg, List.mem_cons_self, hn⟩
  · exact .inr ⟨a, List.mem_cons_of_mem _ (hsub ha), hn⟩

theorem gives_of_parseFrom (h : parseFrom o args = .ok o') (hk : o'.gives k = true) :
    o.gives k = true ∨ ∃ arg ∈ args, Names arg k := by
  fun_induction parseFrom o args with
  | case1 =>
    cases h
    exact .inl hk
  | case2 o arg rest hform mid hset ih =>
    refine gives_of_step (fun hmid => ?_) (ih h) (List.Subset.refl _)
    refine (gives_of_setFlag? hset hmid).imp_right fun hflag => ?_
    rwa [Names, if_pos hflag]
  | case5 o arg rest name value hform mid hset ih =>
    refine gives_of_step (fun hmid => ?_) (ih h) (List.Subset.refl _)
    refine (gives_of_set? hset hmid).imp_right fun ⟨hflag, hname⟩ => ?_
    rw [Names, if_neg hflag]
    exact .inr ⟨value, hname ▸ hform⟩
  | case7 o arg name hform value rest _ mid hset ih =>
    refine gives_of_step (fun hmid => ?_) (ih h) (List.subset_cons_self value rest)
    refine (gives_of_set? hset hmid).imp_right fun ⟨hflag, hname⟩ => ?_
    rw [Names, if_neg hflag]
    exact .inl (hname ▸ hform)
  | case11 =>
    cases h
    exact .inl hk
  | case3 | case4 | case6 | case8 | case9 | case10 | case12 | case13 => cases h

theorem names_of_parse (h : parse args = .ok o) (hk : o.gives k = true) :
    ∃ arg ∈ args, Names arg k := by
  refine (gives_of_parseFrom h hk).resolve_left ?_
  cases k <;> decide

/-! ## Overriding -/

theorem policy?_of_gives (h : o.gives .absTolerance = true ∨ o.gives .relTolerance = true) :
    o.policy? = some (.tolerance (o.absTolerance.getD .zero) (o.relTolerance.getD .zero)) := by
  unfold policy?
  split
  · next habs hrel =>
    rcases h with h | h
    · simp [gives, habs] at h
    · simp [gives, hrel] at h
  · rfl

theorem shows_override (h : o.gives k = true) (c : Config) : o.Shows (o.override c) k := by
  cases k with
  | absTolerance =>
    obtain ⟨x, hx⟩ := Option.isSome_iff_exists.1 h
    simp [Shows, override, policy?_of_gives (.inl h), Policy.absTolerance?, hx]
  | relTolerance =>
    obtain ⟨x, hx⟩ := Option.isSome_iff_exists.1 h
    simp [Shows, override, policy?_of_gives (.inr h), Policy.relTolerance?, hx]
  | keepArtifacts =>
    rw [gives] at h
    simp [Shows, override, h]
  | name | family | seed | inputShape | converter | timeoutSeconds | workDirectory | logLevel =>
    obtain ⟨x, hx⟩ := Option.isSome_iff_exists.1 h
    simp [Shows, override, nameFor?, hx]

/-- What is not given is kept, unless it is a tolerance and the other one is given. -/
theorem same_override (hp : o.config.isSome = true) (h : o.gives k = false)
    (ht : k.isTolerance = true → o.policy? = .none) (c : Config) : k.Same c (o.override c) := by
  cases k with
  | absTolerance => simp [Component.Same, override, ht rfl]
  | relTolerance => simp [Component.Same, override, ht rfl]
  | keepArtifacts =>
    rw [gives] at h
    simp [Component.Same, override, h]
  | name =>
    obtain ⟨p, hp⟩ := Option.isSome_iff_exists.1 hp
    have hname : o.name = .none := by simpa [gives] using h
    simp [Component.Same, override, nameFor?, hname, hp]
  | family | seed | inputShape | converter | timeoutSeconds | workDirectory | logLevel =>
    simp [gives] at h
    simp [Component.Same, override, h]

end Options

/-- With a file, an option overrides its own component. What is given takes effect and is named by
an argument, and what is not given is as in the file. The tolerances are an exception: where one of
them is given and the other is not, the other is zero. -/
theorem options_override {args : List String} {o : Options} {fs : FileSystem} {p : Path}
    {text : String} {c : Config} (ho : Options.parse args = .ok o) (hp : o.config = some p)
    (hr : fs.readText? p = some text) (hc : Config.ofText text = .ok c) (converter : Path) :
    ∃ c', o.toConfig fs converter = .ok c' ∧ c'.sequence = c.sequence ∧
      (∀ k, o.gives k = true → (∃ arg ∈ args, Options.Names arg k) ∧ o.Shows c' k) ∧
      (∀ k, o.gives k = false →
        (k.isTolerance = true → ∀ j, j.isTolerance = true → o.gives j = false) → k.Same c c') ∧
      (o.gives .absTolerance = true → o.gives .relTolerance = false →
        c'.policy.relTolerance? = some .zero) ∧
      (o.gives .relTolerance = true → o.gives .absTolerance = false →
        c'.policy.absTolerance? = some .zero) := by
  have hconfig : o.toConfig fs converter = .ok (o.override c) := by
    rw [Options.toConfig, hp]
    simp only [Options.readConfig, hr, hc]
    rfl
  refine ⟨o.override c, hconfig, rfl, ?_, ?_, ?_, ?_⟩
  · intro k hk
    exact ⟨Options.names_of_parse ho hk, Options.shows_override hk c⟩
  · intro k hk htolerance
    refine Options.same_override (by rw [hp]; rfl) hk (fun h => ?_) c
    have habs : o.absTolerance = none := by
      simpa [Options.gives] using htolerance h .absTolerance rfl
    have hrel : o.relTolerance = none := by
      simpa [Options.gives] using htolerance h .relTolerance rfl
    rw [Options.policy?, habs, hrel]
  · intro habs hrel
    have hnone : o.relTolerance = none := by simpa [Options.gives] using hrel
    simp [Options.override, Options.policy?_of_gives (.inl habs), Policy.relTolerance?, hnone]
  · intro hrel habs
    have hnone : o.absTolerance = none := by simpa [Options.gives] using habs
    simp [Options.override, Options.policy?_of_gives (.inr hrel), Policy.absTolerance?, hnone]

/-! ## A tolerance that is lost -/

def tolerantText : String :=
  "\x7b\"policy\": \x7b\"mode\": \"tolerance\", \"abs\": 0, \"rel\": 0.5\x7d\x7d"

def tolerantConfig : Config := { Config.standard with policy := .tolerance .zero ⟨0x3f000000⟩ }

def tolerantFiles : FileSystem :=
  { entries := [(["c.json"], .file tolerantText.toUTF8 false)], current := "/" }

def tolerantOptions : Options :=
  { Options.none with config := some "c.json", absTolerance := some .zero }

theorem tolerantOptions_parse :
    Options.parse ["-c", "c.json", "--abs-tol", "0"] = .ok tolerantOptions :=
  toOption_eq_some.1 (by decide +kernel)

theorem tolerantFiles_read : tolerantFiles.readText? "c.json" = some tolerantText := by
  have hl : tolerantFiles.locate "c.json" = .ok ["c.json"] := by
    simp only [FileSystem.locate, String.contains_char_eq]
    rfl
  exact FileSystem.readText?_of_holds hl ⟨false, rfl⟩

theorem tolerantConfig_read : Config.ofText tolerantText = .ok tolerantConfig :=
  toOption_eq_some.1 (by decide +kernel)

theorem options_override_tolerance : ∃ c',
    tolerantOptions.toConfig tolerantFiles "op_convert" = .ok c' ∧
      Component.Same tolerantConfig c' .seed ∧ tolerantOptions.Shows c' .absTolerance ∧
      c'.policy.relTolerance? = some .zero := by
  obtain ⟨c', hc, -, hshows, hsame, hrel, -⟩ := options_override tolerantOptions_parse rfl
    tolerantFiles_read tolerantConfig_read "op_convert"
  exact ⟨c', hc, hsame .seed rfl nofun, (hshows .absTolerance rfl).2, hrel rfl rfl⟩

/-- The file asks for a relative tolerance of a half, no argument names that tolerance, and the
configuration of the run has none. -/
theorem tolerance_lost :
    Options.parse ["-c", "c.json", "--abs-tol", "0"] = .ok tolerantOptions ∧
    tolerantFiles.readText? "c.json" = some tolerantText ∧
    Config.ofText tolerantText = .ok tolerantConfig ∧
    tolerantOptions.gives .relTolerance = false ∧
    ∃ c', tolerantOptions.toConfig tolerantFiles "op_convert" = .ok c' ∧
      ¬Component.Same tolerantConfig c' .relTolerance := by
  refine ⟨tolerantOptions_parse, tolerantFiles_read, tolerantConfig_read, rfl,
    tolerantOptions.override tolerantConfig, ?_, ?_⟩
  · show (Options.readConfig tolerantFiles "c.json").map _ = _
    rw [Options.readConfig, tolerantFiles_read]
    simp only [tolerantConfig_read]
    rfl
  · show ¬(some Binary32.zero = some ⟨0x3f000000⟩)
    decide

end PoolCheck
