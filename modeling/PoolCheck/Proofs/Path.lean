import PoolCheck.Conversion.GraphFile
import PoolCheck.Proofs.FileSystem

/-!
# The files beside a graph

The converted files and the log take their names from the graph. A name without slashes is the last
segment of its path, and a path that leads somewhere leads to its last segment, so the three files
are at different locations.
-/

set_option autoImplicit false

namespace PoolCheck

namespace Path

variable {p dir : Path} {stem name : List Char}

theorem segments_ofSegments {s : Segments} (hne : s ≠ []) (h : ∀ w ∈ s, '/' ∉ w) :
    (ofSegments s).segments = s := by
  rw [segments, ofSegments, String.toList_ofList]
  exact Text.split_join hne h

theorem segments_ofList (h : '/' ∉ name) : segments (String.ofList name) = [name] := by
  rw [segments, String.toList_ofList]
  exact Text.split_of_not_mem h

theorem not_isAbsolute_ofList (h : '/' ∉ name) : isAbsolute (String.ofList name) = false := by
  rw [isAbsolute, String.toList_ofList, decide_eq_false_iff_not]
  intro hh
  exact h (List.mem_of_head? hh)

def front (dir : Path) : Segments :=
  if dir = "" then []
  else if dir.toList.getLast? = some '/' then dir.segments.dropLast
  else dir.segments

theorem segments_join_of_relative (dir : Path) (h : p.isAbsolute = false) :
    (dir.join p).segments = front dir ++ p.segments := by
  rw [join, h, front]
  simp only [Bool.false_eq_true, if_false]
  by_cases hz : dir = ""
  · rw [if_pos (.inl hz), if_pos hz, hz, String.empty_append]
    rfl
  rw [if_neg hz]
  by_cases hs : dir.toList.getLast? = some '/'
  · obtain ⟨a, ha⟩ := List.getLast?_eq_some_iff.1 hs
    rw [if_pos (.inr hs), if_pos hs]
    simp only [segments, String.toList_append, ha, List.append_assoc, List.singleton_append]
    rw [Text.split_append, Text.split_append]
    simp [Text.split]
  · rw [if_neg (by simp [hz, hs]), if_neg hs]
    simp only [segments, String.toList_append]
    rw [show "/".toList = ['/'] from rfl, List.append_assoc, List.singleton_append,
      Text.split_append]

theorem segments_join (dir : Path) (h : '/' ∉ name) :
    (dir.join (String.ofList name)).segments = front dir ++ [name] := by
  rw [segments_join_of_relative dir (not_isAbsolute_ofList h), segments_ofList h]

theorem isAbsolute_append (hne : p ≠ "") (q : String) : isAbsolute (p ++ q) = p.isAbsolute := by
  rw [isAbsolute, isAbsolute, String.toList_append]
  cases hp : p.toList with
  | nil => exact absurd (String.toList_eq_nil_iff.1 hp) hne
  | cons c cs => rfl

theorem isAbsolute_join (dir : Path) (h : p.isAbsolute = false) :
    (dir.join p).isAbsolute = dir.isAbsolute := by
  rw [join, h]
  simp only [Bool.false_eq_true, if_false]
  by_cases hz : dir = ""
  · rw [if_pos (.inl hz), hz, String.empty_append, h]
    rfl
  · split_ifs
    · exact isAbsolute_append hz p
    · rw [String.append_assoc, isAbsolute_append hz]

theorem isIdle_of_length {s : List Char} (h : 1 < s.length) : isIdle s = false := by
  rw [isIdle, Bool.or_eq_false_iff, decide_eq_false_iff_not, decide_eq_false_iff_not]
  constructor
  · rintro rfl
    exact absurd h (by decide)
  · rintro rfl
    exact absurd h (by decide)

theorem ne_back_of_length {s : List Char} (h : 2 < s.length) : s ≠ ['.', '.'] := by
  rintro rfl
  exact absurd h (by decide)

theorem trimSegments_front (s : Segments) : trimSegments s <+: s := by
  cases s with
  | nil => exact List.prefix_rfl
  | cons first rest =>
    rw [trimSegments, List.prefix_cons_inj]
    have hd := List.dropWhile_suffix (l := rest.reverse) isIdle
    rwa [← List.reverse_prefix, List.reverse_reverse] at hd

theorem mem_of_mem_trimSegments {s : Segments} {w : List Char} (h : w ∈ trimSegments s) :
    w ∈ s :=
  (trimSegments_front s).subset h

theorem not_mem_of_mem_trimmed {w : List Char} (h : w ∈ p.trimmed) : '/' ∉ w :=
  Text.not_mem_of_mem_split (mem_of_mem_trimSegments h)

theorem stemOf_front (name : List Char) : stemOf name <+: name := by
  have hj := Text.join_split '.' name
  have hne := Text.split_ne_nil '.' name
  obtain ⟨ws, w, hs⟩ : ∃ ws w, Text.split '.' name = ws ++ [w] :=
    ⟨_, _, (List.dropLast_concat_getLast hne).symm⟩
  rw [stemOf, hs, List.dropLast_concat]
  rw [hs] at hj
  split
  · exact List.prefix_rfl
  · exact List.prefix_rfl
  · next h1 h2 =>
    rw [Text.join_append _ h1 (by simp), List.append_assoc] at hj
    exact ⟨_, hj⟩

theorem stemOf_append {ending : List Char} (hne : name ≠ []) (he : '.' ∉ ending) :
    stemOf (name ++ '.' :: ending) = name := by
  have hj := Text.join_split '.' name
  rw [stemOf, Text.split_append, Text.split_of_not_mem he, List.dropLast_concat]
  split
  · next hs => exact absurd hs (Text.split_ne_nil '.' name)
  · next hs =>
    rw [hs] at hj
    exact absurd hj.symm hne
  · exact hj

theorem fileName_mem (h : p.fileName? = some name) : name ∈ p.trimmed := by
  rw [fileName?, Option.filter_eq_some_iff] at h
  exact List.mem_of_getLast? h.1

theorem stem_no_slash (h : p.fileStem? = some stem) : '/' ∉ stem := by
  rw [fileStem?, Option.map_eq_some_iff] at h
  obtain ⟨name, hn, rfl⟩ := h
  intro hm
  exact not_mem_of_mem_trimmed (fileName_mem hn) ((stemOf_front name).subset hm)

theorem segments_withExtension (h : p.fileStem? = some stem) {extension : String}
    (he : '/' ∉ extension.toList) : ∃ before,
      (p.withExtension extension).segments = before ++ [['.', '.']] ∨
      (p.withExtension extension).segments = before ++ [stem ++ '.' :: extension.toList] := by
  refine ⟨p.trimmed.dropLast, ?_⟩
  have hs := stem_no_slash h
  rw [withExtension, h]
  simp only
  rw [segments_ofSegments (by simp)]
  · split_ifs
    · exact .inl rfl
    · exact .inr rfl
  · intro w hw
    rcases List.mem_append.1 hw with hw | hw
    · exact not_mem_of_mem_trimmed (List.dropLast_subset _ hw)
    · rw [List.mem_singleton] at hw
      subst hw
      split_ifs
      · decide
      · simp [hs, he]

/-! ## Paths that end in a name -/

section Named

variable {init : Segments}

theorem trimmed_of_named (h : p.segments = init ++ [name]) (hi : init ≠ [])
    (hl : 2 < name.length) : p.trimmed = init ++ [name] := by
  have hidle : isIdle name = false := isIdle_of_length (by omega)
  rw [trimmed, h]
  cases init with
  | nil => exact absurd rfl hi
  | cons first rest =>
    rw [List.cons_append, trimSegments, List.reverse_append, List.reverse_singleton,
      List.singleton_append, List.dropWhile_cons_of_neg (by simp [hidle]), List.reverse_cons,
      List.reverse_reverse]

theorem fileName_of_named (h : p.segments = init ++ [name]) (hi : init ≠ [])
    (hl : 2 < name.length) : p.fileName? = some name := by
  have hidle : isIdle name = false := isIdle_of_length (by omega)
  have hback := ne_back_of_length hl
  rw [fileName?, trimmed_of_named h hi hl, List.getLast?_concat, Option.filter_some]
  simp [hidle, hback]

theorem parent?_of_named (h : p.segments = init ++ [name]) (hi : init ≠ [])
    (hl : 2 < name.length) : parent? p =
      if trimSegments init = [[]] then some "/" else some (ofSegments (trimSegments init)) := by
  have ht := trimmed_of_named h hi hl
  have hd : (init ++ [name]).dropLast = init := List.dropLast_concat
  obtain ⟨first, second, rest, he⟩ :
      ∃ first second rest, init ++ [name] = first :: second :: rest := by
    cases init with
    | nil => exact absurd rfl hi
    | cons a as => cases as <;> exact ⟨_, _, _, rfl⟩
  rw [he] at ht hd
  unfold parent?
  split
  · next hs => cases hs.symm.trans ht
  · next hs => cases hs.symm.trans ht
  · next hs => cases hs.symm.trans ht
  · rw [ht, hd]
    split
    · next hs => rw [if_pos hs]
    · next hs => rw [if_neg hs]

theorem withExtension_of_named (h : p.segments = init ++ [name]) (hi : init ≠ [])
    (hl : 2 < name.length) {extension : String} (he : '/' ∉ extension.toList) :
    (p.withExtension extension).segments = init ++
      [if stemOf name = ['.'] then ['.', '.'] else stemOf name ++ '.' :: extension.toList] := by
  have hf := fileName_of_named h hi hl
  have hs : p.fileStem? = some (stemOf name) := by rw [fileStem?, hf, Option.map_some]
  have hlast : p.segments.getLast? = p.fileName? := by rw [hf, h, List.getLast?_concat]
  have hslash := stem_no_slash hs
  rw [withExtension, hs]
  simp only [hlast, and_true, trimmed_of_named h hi hl, List.dropLast_concat]
  rw [segments_ofSegments (by simp)]
  intro w hw
  rcases List.mem_append.1 hw with hw | hw
  · exact Text.not_mem_of_mem_split (h ▸ List.mem_append_left _ hw : w ∈ p.segments)
  · rw [List.mem_singleton] at hw
    subst hw
    split_ifs
    · decide
    · simp [hslash, he]

theorem head_of_isAbsolute (h : p.isAbsolute = true) : ∃ rest, p.segments = [] :: rest := by
  rw [isAbsolute, decide_eq_true_eq] at h
  cases hp : p.toList with
  | nil =>
    rw [hp] at h
    cases h
  | cons c cs =>
    rw [hp] at h
    cases h
    exact ⟨Text.split '/' cs, by rw [segments, hp, Text.split, if_pos rfl]⟩

theorem init_of_isAbsolute (ha : p.isAbsolute = true) (h : p.segments = init ++ [name])
    (hl : 2 < name.length) : ∃ rest, init = [] :: rest := by
  obtain ⟨rest, hr⟩ := head_of_isAbsolute ha
  rw [h] at hr
  cases init with
  | nil =>
    rw [List.nil_append, List.cons.injEq] at hr
    rw [hr.1] at hl
    exact absurd hl (by decide)
  | cons first others =>
    rw [List.cons_append, List.cons.injEq] at hr
    exact ⟨others, by rw [hr.1]⟩

theorem isAbsolute_of_segments {s : Segments} (h : p.segments = [] :: s) (hs : s ≠ []) :
    p.isAbsolute = true := by
  have hj := Text.join_split '/' p.toList
  rw [segments] at h
  rw [h, Text.join_cons _ _ hs] at hj
  rw [isAbsolute, ← hj]
  rfl

end Named

/-! ## Shorter paths -/

theorem exists_parent_of_stem (h : p.fileStem? = some stem) :
    ∃ parent, p.parent? = some parent := by
  rw [fileStem?, Option.map_eq_some_iff] at h
  obtain ⟨name, hn, -⟩ := h
  rw [fileName?, Option.filter_eq_some_iff] at hn
  unfold parent?
  split
  · next ht =>
    rw [ht] at hn
    cases hn.1
  · next ht =>
    rw [ht] at hn
    cases hn.1
    exact absurd hn.2 (by decide)
  · exact ⟨_, rfl⟩
  · split <;> exact ⟨_, rfl⟩

theorem segments_of_front {front : Segments} (hf : front <+: p.segments) (hne : front ≠ [])
    (hroot : front ≠ [[]]) : (ofSegments front).segments = front ∧
      (ofSegments front).isAbsolute = p.isAbsolute := by
  have hs : (ofSegments front).segments = front :=
    segments_ofSegments hne fun w hw => Text.not_mem_of_mem_split (hf.subset hw)
  refine ⟨hs, ?_⟩
  obtain ⟨t, ht⟩ := hf
  cases front with
  | nil => exact absurd rfl hne
  | cons first rest =>
    by_cases hz : first = []
    · subst hz
      have hrest : rest ≠ [] := fun h => hroot (by rw [h])
      rw [isAbsolute_of_segments hs hrest,
        isAbsolute_of_segments ht.symm (List.append_ne_nil_of_left_ne_nil hrest t)]
    · have hrel : ∀ {r : Path} {v : Segments}, r.segments = first :: v → r.isAbsolute = false := by
        intro r v hr
        rw [Bool.eq_false_iff]
        intro ha
        obtain ⟨_, hh⟩ := head_of_isAbsolute ha
        rw [hr] at hh
        exact hz (List.cons.inj hh).1
      rw [hrel hs, hrel ht.symm]

theorem withoutSlashes_cases (p : Path) : p.withoutSlashes = "/" ∨
    (p.withoutSlashes.segments <+: p.segments ∧ p.withoutSlashes.isAbsolute = p.isAbsolute) := by
  obtain ⟨front, slashes, hfront, hsplit, hslash⟩ : ∃ front slashes : List Char,
      (p.toList.reverse.dropWhile (· = '/')).reverse = front ∧ front ++ slashes = p.toList ∧
        ∀ c ∈ slashes, c = '/' := by
    refine ⟨_, (p.toList.reverse.takeWhile (· = '/')).reverse, rfl, ?_, fun c hc => ?_⟩
    · rw [← List.reverse_append, List.takeWhile_append_dropWhile, List.reverse_reverse]
    · exact of_decide_eq_true (List.all_eq_true.1 List.all_takeWhile c (List.mem_reverse.1 hc))
  rw [withoutSlashes, hfront]
  split
  · split_ifs
    · exact .inl rfl
    · exact .inr ⟨List.prefix_rfl, rfl⟩
  · next hne =>
    refine .inr ⟨?_, ?_⟩
    · rw [segments, segments, String.toList_ofList, ← hsplit]
      cases slashes with
      | nil => simp
      | cons c rest =>
        rw [hslash c List.mem_cons_self, Text.split_append]
        exact List.prefix_append _ _
    · have hp := @isAbsolute_append (String.ofList front) (by simpa using hne)
        (String.ofList slashes)
      rw [← String.ofList_append, hsplit, String.ofList_toList] at hp
      exact hp.symm

theorem withoutSlashes_append (front : String) {name : String} (hn : '/' ∉ name.toList)
    (hne : name ≠ "") : withoutSlashes (front ++ name) = front ++ name := by
  have hlist : name.toList ≠ [] := fun h => hne (String.toList_eq_nil_iff.1 h)
  obtain ⟨start, c, hc⟩ : ∃ start c, name.toList = start ++ [c] :=
    ⟨_, _, (List.dropLast_concat_getLast hlist).symm⟩
  have hslash : c ≠ '/' := by
    rintro rfl
    exact hn (by simp [hc])
  have hp : (front ++ name).toList = (front.toList ++ start) ++ [c] := by
    rw [String.toList_append, hc, List.append_assoc]
  have hdrop : ((front ++ name).toList.reverse.dropWhile (· = '/')).reverse =
      (front.toList ++ start) ++ [c] := by
    rw [hp, List.reverse_append, List.reverse_singleton, List.singleton_append,
      List.dropWhile_cons_of_neg (by simp [hslash]), List.reverse_cons, List.reverse_reverse]
  rw [withoutSlashes, hdrop]
  split
  · next h => exact absurd h (by simp)
  · rw [← hp, String.ofList_toList]

theorem parent?_cases {above : Path} (h : p.parent? = some above) : above = "" ∨ above = "/" ∨
    (above.segments <+: p.segments ∧ above.isAbsolute = p.isAbsolute) := by
  unfold parent? at h
  split at h
  · cases h
  · cases h
  · cases h
    exact .inl rfl
  · next s h1 h2 h3 =>
    split at h
    · cases h
      exact .inr (.inl rfl)
    · next hroot =>
      cases h
      have hfront : trimSegments p.trimmed.dropLast <+: p.segments :=
        (trimSegments_front _).trans ((List.dropLast_prefix _).trans (trimSegments_front _))
      have hne : trimSegments p.trimmed.dropLast ≠ [] := by
        intro hz
        cases ht : p.trimmed with
        | nil => exact h1 ht
        | cons first rest =>
          cases rest with
          | nil => exact h3 first ht
          | cons second rest =>
            rw [ht] at hz
            cases hz
      obtain ⟨hs, ha⟩ := segments_of_front hfront hne hroot
      refine .inr (.inr ⟨?_, ha⟩)
      rw [hs]
      exact hfront

end Path

namespace FileSystem

variable {fs : FileSystem} {p : Path} {q : Location} {before : Path.Segments} {s : List Char}

theorem walk_concat {place : Location} (hs : 2 < s.length) :
    fs.walk place (before ++ [s]) = .ok q ↔ ∃ mid, fs.walk place before = .ok mid ∧
      fs.node? mid = some .directory ∧ isName s = true ∧ mid ++ [String.ofList s] = q := by
  rw [walk_append]
  cases fs.walk place before with
  | error e => exact ⟨fun h => (nomatch h), fun ⟨_, h, _⟩ => (nomatch h)⟩
  | ok mid =>
    refine (walk_name (Path.isIdle_of_length (by omega)) (Path.ne_back_of_length hs)).trans ?_
    simp

theorem last_of_locate (hp : p.segments = before ++ [s]) (hs : 2 < s.length)
    (h : fs.locate p = .ok q) : q.getLast? = some (String.ofList s) := by
  obtain ⟨-, -, start, -, hw⟩ := locate_eq_ok.1 h
  rw [hp, walk_concat hs] at hw
  obtain ⟨mid, -, -, -, rfl⟩ := hw
  rw [List.getLast?_concat]

theorem directory_of_locate (hp : p.segments = before ++ [['.', '.']]) (h : fs.locate p = .ok q) :
    fs.node? q = some .directory := by
  obtain ⟨-, -, start, hs, hw⟩ := locate_eq_ok.1 h
  rw [hp, walk_append] at hw
  cases hm : fs.walk start before with
  | error e =>
    rw [hm] at hw
    cases hw
  | ok mid =>
    rw [hm] at hw
    have hstart : fs.Reached start := by
      split_ifs at hs
      · cases hs
        exact reached_root fs
      · exact (reached_root fs).walk hs
    exact (hstart.walk hm).walk_back hw

end FileSystem

def convertedName (stem : List Char) (ending : String) : List Char :=
  stem ++ ("_converted" ++ ending).toList

theorem convertedPaths_eq_ok {graph : Path} {a : Artifact} (ha : convertedPaths graph = .ok a) :
    ∃ stem, graph.fileStem? = some stem ∧
      a = ⟨graph.parent.join (String.ofList (convertedName stem ".json")),
        graph.parent.join (String.ofList (convertedName stem ".npy"))⟩ := by
  unfold convertedPaths at ha
  split at ha
  case h_1 => cases ha
  case h_2 stem hstem =>
    cases ha
    refine ⟨stem, hstem, ?_⟩
    unfold convertedName
    simp only [String.ofList_append, String.ofList_toList, String.append_assoc]

theorem no_slash_convertedName {stem : List Char} {ending : String} (hs : '/' ∉ stem)
    (he : '/' ∉ ending.toList) : '/' ∉ convertedName stem ending := by
  rw [convertedName, String.toList_append, List.mem_append, List.mem_append, not_or, not_or]
  exact ⟨hs, by decide, he⟩

theorem length_convertedName (stem : List Char) (ending : String) :
    9 < (convertedName stem ending).length := by
  rw [convertedName, List.length_append, String.toList_append, List.length_append,
    show "_converted".toList.length = 10 from rfl]
  omega

/-- The log is at the location of neither converted file. -/
theorem log_ne_artifact {fs : FileSystem} {graph : Path} {a : Artifact} {r b : Location}
    (ha : convertedPaths graph = .ok a)
    (hr : fs.locate (graph.withExtension "convert.log") = .ok r)
    (hd : fs.node? r ≠ some .directory) {p : Path} (hp : p = a.modulePath ∨ p = a.paramPath)
    (hb : fs.locate p = .ok b) : r ≠ b := by
  obtain ⟨stem, hstem, rfl⟩ := convertedPaths_eq_ok ha
  have hs := Path.stem_no_slash hstem
  obtain ⟨before, hl | hl⟩ := @Path.segments_withExtension _ _ hstem "convert.log"
    (by decide)
  · exact absurd (FileSystem.directory_of_locate hl hr) hd
  obtain ⟨ending, he, rfl⟩ : ∃ ending : String, '/' ∉ ending.toList ∧
      p = graph.parent.join (String.ofList (convertedName stem ending)) := by
    rcases hp with rfl | rfl
    · exact ⟨".json", by decide, rfl⟩
    · exact ⟨".npy", by decide, rfl⟩
  have hslash := no_slash_convertedName hs he
  have hlong := length_convertedName stem ending
  have hlog : 2 < (stem ++ '.' :: "convert.log".toList).length := by
    rw [List.length_append, List.length_cons, show "convert.log".toList.length = 11 from rfl]
    omega
  have hlast := FileSystem.last_of_locate (Path.segments_join graph.parent hslash) (by omega) hb
  rintro rfl
  have hlog := FileSystem.last_of_locate hl hlog hr
  rw [hlast, Option.some.injEq, String.ofList_inj, convertedName, String.toList_append,
    List.append_cancel_left_eq] at hlog
  have hhead := congrArg List.head? hlog
  rw [List.head?_append, show "_converted".toList.head? = some '_' from rfl] at hhead
  simp at hhead

end PoolCheck
