import PoolCheck.Proofs.Location
import PoolCheck.Proofs.Run.Steps

/-!
# Directories that are made and erased

Making a directory with all above it adds directories on the way along the path and changes nothing
else, however far it comes. Erasing a directory that was made afresh leaves all that can be reached
as it was.
-/

set_option autoImplicit false

namespace PoolCheck

namespace FileSystem

variable {fs mid fs' : FileSystem} {place q : Location} {p dir : Path} {way : Path.Segments}

/-! ## What is at a location -/

def seen (fs : FileSystem) (q : Location) : Option (Node × Nat) :=
  (fs.node? q).map fun n => (n, fs.mode q)

theorem seen_congr (hn : fs'.node? q = fs.node? q)
    (hm : fs'.modes.lookup q = fs.modes.lookup q) : fs'.seen q = fs.seen q := by
  unfold seen mode
  rw [hn, hm]

theorem node?_of_seen (h : fs'.seen q = fs.seen q) : fs'.node? q = fs.node? q := by
  have hfst := congrArg (Option.map Prod.fst) h
  simpa only [seen, Option.map_map, Function.comp_def, Option.map_id'] using hfst

theorem seen_eq_none : fs.seen q = none ↔ fs.node? q = none := Option.map_eq_none_iff

theorem seen_set (hp : place ≠ []) (n : Node) (hn : n.FitsAt place) (hq : q ≠ place) :
    (fs.set place n hn).seen q = fs.seen q :=
  seen_congr (by rw [node?_set hp, if_neg hq]) rfl

/-- The content was written at one place, and nothing else changed. -/
structure Wrote (fs : FileSystem) (p : Path) (content : ByteArray) (place : Location)
    (fs' : FileSystem) : Prop where
  located : fs.locate p = .ok place
  current : fs'.current = fs.current
  alike : fs.Alike fs'
  other : ∀ q, q ≠ place → fs'.seen q = fs.seen q
  content : fs.node? place ≠ some .void → fs'.Holds place content

theorem exists_wrote {content : ByteArray} (h : fs.write? p content = some fs') :
    ∃ place, fs.Wrote p content place fs' := by
  obtain ⟨place, hl, hd, ⟨hv, rfl⟩ | ⟨executable, rfl⟩⟩ := write?_eq_some h
  · exact ⟨place, hl, rfl, fun _ => Iff.rfl, fun _ _ => rfl, fun hn => absurd hv hn⟩
  · have hp := ne_root_of_not_directory hd
    refine ⟨place, hl, rfl, fun q => ?_, fun q hq => seen_set hp _ _ hq,
      fun _ => ⟨executable, by rw [node?_set hp, if_pos rfl]⟩⟩
    rw [node?_set hp]
    split_ifs with hq
    · exact iff_of_false (by simp) (hq ▸ hd)
    · exact Iff.rfl

namespace Wrote

variable {content : ByteArray} {other : Path}

theorem locate (h : fs.Wrote p content place fs') :
    fs'.locate other = .ok q ↔ fs.locate other = .ok q := h.alike.locate (.inr h.current)

theorem written (h : fs.Wrote p content place fs') (hp : place ≠ nullDevice) :
    fs'.Holds place content := h.content fun hv => hp (eq_nullDevice_of_void hv)

theorem holds {kept : ByteArray} (h : fs.Wrote p content place fs') (hh : fs.Holds q kept)
    (hne : q ≠ place) : fs'.Holds q kept := by
  rw [Holds, node?_of_seen (h.other q hne)]
  exact hh

end Wrote

theorem seen_erase (hp : place ≠ []) (hq : q ≠ place) : (fs.erase place).seen q = fs.seen q := by
  refine seen_congr (by rw [node?_erase hp, if_neg hq]) ?_
  have hf := lookup_filter (fun r => decide (r ≠ place)) q fs.modes
  rwa [if_pos (decide_eq_true hq)] at hf

theorem node?_eraseTree (hp : place ≠ []) (q : Location) :
    (fs.eraseTree place).node? q = if place <+: q then none else fs.node? q := by
  have hf := lookup_filter (fun r => !place.isPrefixOf r) q fs.entries
  unfold node? eraseTree
  by_cases hq : q = []
  · subst hq
    rw [if_pos rfl, if_pos rfl, if_neg (by simp [hp])]
  · rw [if_neg hq, if_neg hq]
    by_cases hpre : place <+: q
    · simpa [hpre, List.isPrefixOf_iff_prefix.2 hpre] using hf
    · have hk : place.isPrefixOf q = false :=
        Bool.eq_false_iff.2 fun h => hpre (List.isPrefixOf_iff_prefix.1 h)
      simpa [hpre, hk] using hf

theorem seen_eraseTree (hp : place ≠ []) (hq : ¬place <+: q) :
    (fs.eraseTree place).seen q = fs.seen q := by
  refine seen_congr (by rw [node?_eraseTree hp, if_neg hq]) ?_
  have hf := lookup_filter (fun r => !place.isPrefixOf r) q fs.modes
  have hk : place.isPrefixOf q = false :=
    Bool.eq_false_iff.2 fun h => hq (List.isPrefixOf_iff_prefix.1 h)
  rwa [hk] at hf

/-! ## Directories that are made -/

/-- Nothing changed but that directories were made on the way along these segments. -/
structure Grown (fs : FileSystem) (way : Path.Segments) (fs' : FileSystem) : Prop where
  current : fs'.current = fs.current
  each : ∀ q, fs'.seen q = fs.seen q ∨ fs.node? q = none ∧ fs'.node? q = some .directory ∧
    ∃ front, front <+: way ∧ fs'.walk [] front = .ok q

namespace Grown

theorem refl (fs : FileSystem) (way : Path.Segments) : fs.Grown way fs :=
  ⟨rfl, fun _ => .inl rfl⟩

theorem directory (h : fs.Grown way fs') (hq : fs.node? q = some .directory) :
    fs'.node? q = some .directory := by
  rcases h.each q with he | ⟨hn, -⟩
  · rw [node?_of_seen he, hq]
  · rw [hq] at hn
    cases hn

theorem route (h : fs.Grown way fs') (p : Path) : fs'.route p = fs.route p :=
  route_congr h.current p

theorem trans (h : fs.Grown way mid) (h' : mid.Grown way fs') : fs.Grown way fs' := by
  refine ⟨h'.current.trans h.current, fun q => ?_⟩
  rcases h'.each q with he | ⟨hn, hd, hw⟩
  · rcases h.each q with he' | ⟨hn, hd, front, hf, hw⟩
    · exact .inl (he.trans he')
    · exact .inr ⟨hn, (node?_of_seen he).trans hd, front, hf, walk_mono (fun r => h'.directory) hw⟩
  · rcases h.each q with he' | ⟨-, hd', -⟩
    · exact .inr ⟨(node?_of_seen he').symm.trans hn, hd, hw⟩
    · rw [hd'] at hn
      cases hn

theorem mono {front : Path.Segments} (h : fs.Grown front fs') (hf : front <+: way) :
    fs.Grown way fs' := by
  refine ⟨h.current, fun q => (h.each q).imp_right ?_⟩
  rintro ⟨hn, hd, front', hf', hw⟩
  exact ⟨hn, hd, front', hf'.trans hf, hw⟩

end Grown

theorem makeDirectory_eq_ok : fs.makeDirectory p = .ok fs' ↔
    ∃ place, fs.locate (Path.withoutSlashes p) = .ok place ∧ fs.node? place = none ∧
      fs' = fs.set place .directory := by
  unfold makeDirectory
  cases fs.locate (Path.withoutSlashes p) with
  | error e => simp
  | ok place =>
    cases hn : fs.node? place with
    | some n => simp [hn]
    | none => simp [hn, eq_comm]

theorem walk_root (fs : FileSystem) : fs.walk [] (fs.route "/") = .ok [] := rfl

theorem makeDirectory_grown (h : fs.makeDirectory p = .ok fs') : fs.Grown (fs.route p) fs' := by
  obtain ⟨place, hl, hn, rfl⟩ := makeDirectory_eq_ok.1 h
  have hp : place ≠ [] := ne_root_of_not_directory (by rw [hn]; simp)
  have hw := walk_route hl
  refine ⟨rfl, fun q => ?_⟩
  by_cases hq : q = place
  · subst hq
    have hmono : ∀ r, fs.node? r = some .directory →
        (fs.set q .directory).node? r = some .directory := by
      intro r hr
      rw [node?_set hp]
      split_ifs
      · rfl
      · exact hr
    refine .inr ⟨hn, by rw [node?_set hp, if_pos rfl], _, ?_, walk_mono hmono hw⟩
    rcases Path.withoutSlashes_cases p with hroot | ⟨hs, ha⟩
    · rw [hroot, walk_root] at hw
      exact absurd (Except.ok.inj hw).symm hp
    · exact route_above fs hs ha
  · exact .inl (seen_set hp _ _ hq)

theorem makeWithParents_end (fuel : Nat) (fs : FileSystem) (h : p = "" ∨ p = "/") :
    (makeWithParents fuel fs p).1 = fs := by
  cases fuel with
  | zero => rfl
  | succ fuel =>
    rcases h with rfl | rfl
    · rfl
    · have hblocked : fs.makeDirectory "/" = .error .blocked := by
        rw [makeDirectory, locate, String.contains_char_eq]
        rfl
      rw [makeWithParents, if_neg (by decide), hblocked]

theorem makeWithParents_grown (fuel : Nat) (fs : FileSystem) (p : Path) :
    fs.Grown (fs.route p) (makeWithParents fuel fs p).1 := by
  induction fuel generalizing fs p with
  | zero => exact .refl fs _
  | succ fuel ih =>
    rw [makeWithParents]
    split_ifs with hz
    · exact .refl fs _
    split
    · next hmake => exact makeDirectory_grown hmake
    · exact .refl fs _
    · exact .refl fs _
    · next above _ habove =>
      have hg : fs.Grown (fs.route p) (makeWithParents fuel fs above).1 := by
        rcases Path.parent?_cases habove with he | he | ⟨hs, ha⟩
        · rw [makeWithParents_end fuel fs (.inl he)]
          exact .refl fs _
        · rw [makeWithParents_end fuel fs (.inr he)]
          exact .refl fs _
        · exact (ih fs above).mono (route_above fs hs ha)
      split
      · next hm =>
        rw [hm] at hg
        exact hg
      · next fs' hm =>
        rw [hm] at hg
        split
        · next fs'' hmake =>
          have hg' := makeDirectory_grown hmake
          rw [hg.route] at hg'
          exact hg.trans hg'
        · exact hg

theorem makeDirectories_grown (fs : FileSystem) (p : Path) :
    fs.Grown (fs.route p) (fs.makeDirectories p).1 := makeWithParents_grown _ fs p

/-! ## Directories that are made afresh and erased again -/

/-- The locations below the directory to which a path leads. -/
def Below (fs : FileSystem) (p : Path) (q : Location) : Prop :=
  ∃ folder, fs.walk [] (fs.route p) = .ok folder ∧ folder <+: q ∧ q ≠ folder

/-- The same at every location that can be reached. -/
structure Same (fs fs' : FileSystem) : Prop where
  current : fs'.current = fs.current
  seen : ∀ q, fs.Reached q ∨ fs'.Reached q → fs'.seen q = fs.seen q

theorem Same.refl (fs : FileSystem) : fs.Same fs := ⟨rfl, fun _ _ => rfl⟩

theorem not_reached (hn : fs.node? place = none) (hp : place <+: q) (hq : q ≠ place) :
    ¬fs.Reached q := by
  intro hr
  have hlt : place.length < q.length :=
    Nat.lt_of_le_of_ne hp.length_le fun he => hq (hp.eq_of_length he).symm
  have hd := hr place.length hlt
  rw [← List.prefix_iff_eq_take.1 hp, hn] at hd
  cases hd

theorem same_of_erased {after : FileSystem} (hp : place ≠ []) (hn : fs.node? place = none)
    (hc : after.current = fs.current)
    (ha : ∀ q, ¬(place <+: q ∧ q ≠ place) → after.seen q = (fs.set place .directory).seen q) :
    fs.Same (after.eraseTree place) := by
  refine ⟨hc, fun q hq => ?_⟩
  by_cases hpre : place <+: q
  · have hgone : ∀ r, place <+: r → (after.eraseTree place).node? r = none := fun r hr => by
      rw [node?_eraseTree hp, if_pos hr]
    by_cases he : q = place
    · rw [he, seen_eq_none.2 hn, seen_eq_none.2 (hgone place List.prefix_rfl)]
    · rcases hq with hq | hq
      · exact absurd hq (not_reached hn hpre he)
      · exact absurd hq (not_reached (hgone place List.prefix_rfl) hpre he)
  · have he : q ≠ place := fun h => hpre (h ▸ List.prefix_rfl)
    rw [seen_eraseTree hp hpre, ha q fun h => hpre h.1, seen_set hp _ _ he]

/-! ## Temporary directories -/

def temporaryName (n : Nat) : String := "op_parity_" ++ toString n

def temporaryPath (n : Nat) : Path := "/tmp/" ++ temporaryName n

theorem exists_temporary (fs : FileSystem) : ∃ n, fs.temporary = temporaryPath n := by
  have hfresh : ∀ fuel n, ∃ m : Nat,
      fs.freshDirectory fuel n = "/tmp/op_parity_" ++ toString m := by
    intro fuel
    induction fuel with
    | zero => exact fun n => ⟨n, rfl⟩
    | succ fuel ih =>
      intro n
      rw [freshDirectory]
      split_ifs
      · exact ⟨n, rfl⟩
      · exact ih (n + 1)
  obtain ⟨n, hn⟩ := hfresh fs.entries.length 0
  exact ⟨n, by rw [temporary, hn, temporaryPath, temporaryName, ← String.append_assoc]; rfl⟩

theorem no_slash_temporaryName (n : Nat) : '/' ∉ (temporaryName n).toList := by
  rw [temporaryName, String.toList_append, List.mem_append, not_or]
  refine ⟨by decide, fun h => ?_⟩
  rw [Nat.toString_eq_repr, Nat.repr_eq_ofList_toDigits, String.toList_ofList] at h
  have hdigit := Nat.isDigit_of_mem_toDigits (by decide) (by decide) h
  exact absurd hdigit (by decide)

theorem lt_length_temporaryName (n : Nat) : 2 < (temporaryName n).toList.length := by
  rw [temporaryName, String.toList_append, List.length_append]
  exact Nat.lt_add_right _ (by decide)

theorem temporaryName_ne_empty (n : Nat) : temporaryName n ≠ "" := by
  intro h
  have hlong := lt_length_temporaryName n
  rw [h] at hlong
  exact absurd hlong (by decide)

theorem segments_temporaryPath (n : Nat) : Path.segments (temporaryPath n) =
    [[], "tmp".toList, (temporaryName n).toList] := by
  have hsplit := Text.split_append '/' "/tmp".toList (temporaryName n).toList
  rw [Text.split_of_not_mem (no_slash_temporaryName n)] at hsplit
  rw [Path.segments, temporaryPath, String.toList_append]
  exact hsplit

theorem locate_temporaryPath {n : Nat} (h : fs.locate (temporaryPath n) = .ok place) :
    place = ["tmp", temporaryName n] ∧ fs.node? ["tmp"] = some .directory ∧
      ∀ fs' : FileSystem, fs'.node? ["tmp"] = some .directory →
        fs'.locate (temporaryPath n) = .ok place := by
  have hs := segments_temporaryPath n
  have habs := Path.isAbsolute_of_segments hs (List.cons_ne_nil _ _)
  have hwalk : ∀ fs' : FileSystem, fs'.walk [] (Path.segments (temporaryPath n)) = .ok place ↔
      fs'.node? ["tmp"] = some .directory ∧ isName (temporaryName n).toList = true ∧
        ["tmp", temporaryName n] = place := by
    intro fs'
    have htmp : fs'.walk [] [[], "tmp".toList] = .ok ["tmp"] := rfl
    have hc := @walk_concat fs' place [[], "tmp".toList] _ [] (lt_length_temporaryName n)
    rw [htmp, String.ofList_toList] at hc
    rw [hs]
    exact hc.trans (by simp)
  obtain ⟨h1, h2, start, hstart, hw⟩ := locate_eq_ok.1 h
  rw [if_pos habs] at hstart
  cases hstart
  obtain ⟨hd, hname, hplace⟩ := (hwalk fs).1 hw
  refine ⟨hplace.symm, hd, fun fs' hd' => ?_⟩
  exact locate_eq_ok.2 ⟨h1, h2, [], by rw [if_pos habs], (hwalk fs').2 ⟨hd', hname, hplace⟩⟩

end FileSystem

namespace Config

open FileSystem

variable {c : Config} {fs fs' made : FileSystem} {dir : Path}

theorem makeTemporary_error {fault : Fault} (h : makeTemporary.exec fs = (.error fault, fs')) :
    fs' = fs := by
  rw [exec_makeTemporary] at h
  split at h
  · cases h
  · cases h
    rfl

theorem makeTemporary_ok (h : makeTemporary.exec fs = (.ok dir, made)) :
    dir = fs.temporary ∧ ∃ place, fs.locate (Path.withoutSlashes dir) = .ok place ∧
      fs.node? place = none ∧ made = fs.set place .directory := by
  rw [exec_makeTemporary] at h
  split at h
  · next hmake =>
    cases h
    exact ⟨rfl, makeDirectory_eq_ok.1 hmake⟩
  · cases h

theorem current_of_provide (h : c.provide.exec fs = (.ok dir, made)) :
    made.current = fs.current := by
  cases hw : c.workDirectory with
  | none =>
    rw [provide_of_none hw] at h
    obtain ⟨-, place, -, -, rfl⟩ := makeTemporary_ok h
    rfl
  | some given =>
    rw [exec_provide_of_some hw] at h
    obtain ⟨-, rfl⟩ := Prod.mk.inj h
    exact (makeDirectories_grown fs given).current

theorem temporary_erased {after : FileSystem} (h : makeTemporary.exec fs = (.ok dir, made))
    (hc : after.current = made.current)
    (ha : ∀ q, ¬made.Below dir q → after.seen q = made.seen q) :
    fs.Same (eraseDirectory dir after) := by
  obtain ⟨htemporary, place, hl, hn, rfl⟩ := makeTemporary_ok h
  obtain ⟨n, hdir⟩ := exists_temporary fs
  obtain rfl : dir = temporaryPath n := htemporary.trans hdir
  rw [temporaryPath, Path.withoutSlashes_append _ (no_slash_temporaryName n)
    (temporaryName_ne_empty n)] at hl
  obtain ⟨rfl, htmp, hagain⟩ := locate_temporaryPath hl
  have hp : ["tmp", temporaryName n] ≠ [] := List.cons_ne_nil _ _
  have hmade : (fs.set ["tmp", temporaryName n] .directory).node? ["tmp"] = some .directory := by
    rw [node?_set hp, if_neg (by simp), htmp]
  have hwalk := walk_route (hagain _ hmade)
  have hbelow : ∀ q, (fs.set ["tmp", temporaryName n] .directory).Below (temporaryPath n) q ↔
      ["tmp", temporaryName n] <+: q ∧ q ≠ ["tmp", temporaryName n] := by
    intro q
    constructor
    · rintro ⟨folder, hf, hq⟩
      cases hwalk.symm.trans hf
      exact hq
    · exact fun hq => ⟨_, hwalk, hq⟩
  simp only [hbelow] at ha
  have htmp' : after.node? ["tmp"] = some .directory := by
    rw [node?_of_seen (ha ["tmp"] (by simp)), hmade]
  rw [eraseDirectory, hagain after htmp']
  exact same_of_erased hp hn hc ha

end Config

end PoolCheck
