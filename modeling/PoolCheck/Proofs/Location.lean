import PoolCheck.Proofs.Path

/-!
# Where the files of a run are

The same file goes by several texts: from the current directory or from the root, with the directory
as it was given or as it is found again in the path of the graph. All of them lead to one directory,
since a walk does not notice empty segments and lone dots that something follows.
-/

set_option autoImplicit false

namespace PoolCheck.FileSystem

open PoolCheck.Path (Segments isIdle front trimSegments)

variable {fs now : FileSystem} {place q : Location} {a b c d : Segments} {p dir : Path}
variable {name : List Char}

/-! ## Segments that lead to the same places -/

def Parallel (a b : Segments) : Prop :=
  ∀ (fs : FileSystem) (place : Location) (s : Segments), s ≠ [] →
    fs.walk place (a ++ s) = fs.walk place (b ++ s)

theorem Parallel.refl (a : Segments) : Parallel a a := fun _ _ _ _ => rfl

theorem Parallel.symm (h : Parallel a b) : Parallel b a :=
  fun fs place s hs => (h fs place s hs).symm

theorem Parallel.trans (h : Parallel a b) (h' : Parallel b c) : Parallel a c :=
  fun fs place s hs => (h fs place s hs).trans (h' fs place s hs)

theorem Parallel.append (h : Parallel a b) (h' : Parallel c d) : Parallel (a ++ c) (b ++ d) := by
  intro fs place s hs
  have hcs : c ++ s ≠ [] := by simp [hs]
  rw [List.append_assoc, List.append_assoc, h fs place (c ++ s) hcs, walk_append, walk_append]
  congr 1
  funext mid
  exact h' fs mid s hs

theorem parallel_idle {e : List Char} (h : isIdle e = true) : Parallel [e] [] := by
  intro fs place s hs
  cases s with
  | nil => exact absurd rfl hs
  | cons t rest =>
    rw [List.singleton_append, List.nil_append, walk, h]
    simp only [if_true]
    rw [walk]
    split <;> rfl

theorem parallel_of_idle (h : ∀ e ∈ a, isIdle e = true) : Parallel a [] := by
  induction a with
  | nil => exact .refl []
  | cons e a ih =>
    have hrest := ih fun e he => h e (List.mem_cons_of_mem _ he)
    exact (parallel_idle (h e List.mem_cons_self)).append hrest

theorem parallel_trimSegments (s : Segments) : Parallel (trimSegments s) s := by
  cases s with
  | nil => exact .refl []
  | cons first rest =>
    have hidle : ∀ e ∈ (rest.reverse.takeWhile isIdle).reverse, isIdle e = true :=
      fun e he => List.all_eq_true.1 List.all_takeWhile e (List.mem_reverse.1 he)
    have hrest : (rest.reverse.dropWhile isIdle).reverse ++
        (rest.reverse.takeWhile isIdle).reverse = rest := by
      rw [← List.reverse_append, List.takeWhile_append_dropWhile, List.reverse_reverse]
    have hp : Parallel (trimSegments (first :: rest) ++ (rest.reverse.takeWhile isIdle).reverse)
        (trimSegments (first :: rest) ++ []) := (Parallel.refl _).append (parallel_of_idle hidle)
    rw [List.append_nil, trimSegments, List.cons_append, hrest] at hp
    exact hp.symm

theorem Parallel.walk (h : Parallel a b) (hw : fs.walk place a = .ok q)
    (hd : fs.node? q = some .directory) : fs.walk place b = .ok q := by
  have hidle : ∀ r, fs.walk r [[]] = .ok q ↔ fs.node? r = some .directory ∧ r = q := by
    intro r
    rw [FileSystem.walk]
    cases fs.node? r with
    | none => simp
    | some n => cases n <;> simp [isIdle, FileSystem.walk]
  have hb : fs.walk place (b ++ [[]]) = .ok q := by
    rw [← h fs place [[]] (by simp), walk_append, hw]
    exact (hidle q).2 ⟨hd, rfl⟩
  rw [walk_append] at hb
  cases hr : fs.walk place b with
  | error e =>
    rw [hr] at hb
    cases hb
  | ok r =>
    rw [hr] at hb
    rw [((hidle r).1 hb).2]

theorem parallel_front (dir : Path) : Parallel (front dir) dir.segments := by
  rw [front]
  split_ifs with hz hs
  · subst hz
    exact (parallel_idle (e := []) rfl).symm
  · obtain ⟨ds, hd⟩ := List.getLast?_eq_some_iff.1 hs
    have hsplit : dir.segments = Text.split '/' ds ++ [[]] := by
      rw [Path.segments, hd, Text.split_append]
      rfl
    have hp := (Parallel.refl (Text.split '/' ds)).append (parallel_idle (e := []) rfl).symm
    rw [hsplit, List.dropLast_concat]
    rwa [List.append_nil] at hp
  · exact .refl _

/-! ## Paths from the root -/

/-- The segments of a path as seen from the root. -/
def route (fs : FileSystem) (p : Path) : Segments :=
  if p.isAbsolute then p.segments else Path.segments fs.current ++ p.segments

theorem route_congr (h : now.current = fs.current) (p : Path) : now.route p = fs.route p := by
  rw [route, route, h]

theorem absolute_congr (h : now.current = fs.current) (p : Path) :
    now.absolute p = fs.absolute p := by
  rw [absolute, absolute, h]

theorem route_above (fs : FileSystem) {above : Path} (hs : above.segments <+: p.segments)
    (ha : above.isAbsolute = p.isAbsolute) : fs.route above <+: fs.route p := by
  rw [route, route, ha]
  split_ifs
  · exact hs
  · exact (List.prefix_append_right_inj _).2 hs

theorem walk_route (h : fs.locate p = .ok q) : fs.walk [] (fs.route p) = .ok q := by
  obtain ⟨-, -, start, hs, hw⟩ := locate_eq_ok.1 h
  rw [route]
  split_ifs at hs ⊢
  · cases hs
    exact hw
  · rw [walk_append, hs]
    exact hw

/-- Locating a path is a single walk along its route. -/
theorem locate_eq_walk (fs : FileSystem) (p : Path) : fs.locate p =
    if p = "" then .error .missing
    else if pathLimit ≤ p.utf8ByteSize || p.contains '\x00' then .error .blocked
    else fs.walk [] (fs.route p) := by
  unfold locate route
  split_ifs
  · rfl
  · rfl
  · rfl
  · rw [walk_append]
    cases fs.walk [] (Path.segments fs.current) <;> rfl

theorem route_join (fs : FileSystem) (dir : Path) (h : '/' ∉ name) :
    ∃ init, fs.route (dir.join (String.ofList name)) = init ++ [name] ∧
      Parallel init (fs.route dir) := by
  rw [route, route, Path.isAbsolute_join dir (Path.not_isAbsolute_ofList h),
    Path.segments_join dir h]
  split_ifs
  · exact ⟨front dir, rfl, parallel_front dir⟩
  · exact ⟨Path.segments fs.current ++ front dir, by rw [List.append_assoc],
      (Parallel.refl _).append (parallel_front dir)⟩

theorem route_of_isAbsolute (fs : FileSystem) (h : p.isAbsolute = true) :
    fs.route p = p.segments := by
  rw [route, if_pos h]

theorem isAbsolute_absolute (h : Path.isAbsolute fs.current = true) (p : Path) :
    Path.isAbsolute (fs.absolute p) = true := by
  rw [absolute]
  split_ifs with hp
  · exact hp
  · rw [Path.isAbsolute_join _ (Bool.eq_false_iff.2 hp), h]

theorem segments_absolute (fs : FileSystem) (dir : Path) (h : '/' ∉ name) :
    ∃ init, Path.segments (fs.absolute (dir.join (String.ofList name))) = init ++ [name] ∧
      Parallel init (fs.route dir) := by
  obtain ⟨init, hr, hp⟩ := route_join fs dir h
  rw [absolute]
  split_ifs with ha
  · rw [route_of_isAbsolute fs ha] at hr
    exact ⟨init, hr, hp⟩
  · have hrel := Bool.eq_false_iff.2 ha
    have hd : dir.isAbsolute = false := by
      rwa [Path.isAbsolute_join dir (Path.not_isAbsolute_ofList h)] at hrel
    rw [Path.segments_join_of_relative _ hrel, Path.segments_join dir h, ← List.append_assoc]
    refine ⟨_, rfl, ?_⟩
    rw [route, hd]
    exact (parallel_front _).append (parallel_front dir)

/-! ## One directory -/

theorem exists_parent {init : Segments} (ha : p.isAbsolute = true)
    (h : p.segments = init ++ [name]) (hl : 2 < name.length) :
    ∃ parent, Path.parent? p = some parent ∧ Path.isAbsolute parent = true ∧
      Parallel (Path.segments parent) init := by
  obtain ⟨rest, rfl⟩ := Path.init_of_isAbsolute ha h hl
  have hp := Path.parent?_of_named h (by simp) hl
  have ht := parallel_trimSegments ([] :: rest)
  by_cases hs : trimSegments ([] :: rest) = [[]]
  · rw [if_pos hs] at hp
    rw [hs] at ht
    have hroot : Parallel (Path.segments "/") [[]] :=
      (Parallel.refl [[]]).append (parallel_idle (e := []) rfl)
    exact ⟨"/", hp, rfl, hroot.trans ht⟩
  rw [if_neg hs] at hp
  have hslash : ∀ v ∈ trimSegments ([] :: rest), '/' ∉ v := by
    intro v hv
    have hv' : v ∈ p.segments := h ▸ List.mem_append_left _ (Path.mem_of_mem_trimSegments hv)
    exact Text.not_mem_of_mem_split hv'
  have hseg := Path.segments_ofSegments (by simp [trimSegments]) hslash
  have hne : (rest.reverse.dropWhile isIdle).reverse ≠ [] := by
    intro hz
    exact hs (by rw [trimSegments, hz])
  exact ⟨_, hp, Path.isAbsolute_of_segments hseg hne, hseg.symm ▸ ht⟩

/-- The path of a file with this name in a directory. -/
def PathIn (fs : FileSystem) (dir p : Path) (name : String) : Prop :=
  ∃ init, fs.route p = init ++ [name.toList] ∧ Parallel init (fs.route dir)

theorem PathIn.locate {name : String} (h : fs.PathIn dir p name) (hl : 2 < name.length)
    (hq : fs.locate p = .ok q) : ∃ folder, fs.walk [] (fs.route dir) = .ok folder ∧
      fs.node? folder = some .directory ∧ q = folder ++ [name] := by
  obtain ⟨init, hr, hp⟩ := h
  have hw := walk_route hq
  rw [hr, walk_concat (by rwa [String.length_toList])] at hw
  obtain ⟨folder, hf, hd, -, rfl⟩ := hw
  exact ⟨folder, hp.walk hf hd, hd, by rw [String.ofList_toList]⟩

/-- Below a directory that is there, only the name and the length of the path matter. -/
theorem PathIn.walk_eq {folder : Location} {name : String} (h : fs.PathIn dir p name)
    (hl : 2 < name.length) (hf : fs.walk [] (fs.route dir) = .ok folder) (hd : fs.node? folder = some .directory) :
    fs.walk [] (fs.route p) =
      if isName name.toList then .ok (folder ++ [name]) else .error .blocked := by
  obtain ⟨init, hr, hp⟩ := h
  have hlong : 2 < name.toList.length := by rwa [String.length_toList]
  rw [hr, hp fs [] [name.toList] (List.cons_ne_nil _ _), walk_append, hf]
  show fs.walk folder [name.toList] = _
  rw [walk, hd]
  dsimp only
  rw [if_neg (by simp [Path.isIdle_of_length (show 1 < name.toList.length by omega)]),
    if_neg (Path.ne_back_of_length hlong), String.ofList_toList]
  rfl

/-- Whether a path in a directory that is there leads anywhere does not depend on the files. -/
theorem PathIn.locate_same {folder : Location} {name : String}
    (h : fs.PathIn dir p name) (hl : 2 < name.length)
    (hf : fs.walk [] (fs.route dir) = .ok folder) (hd : fs.node? folder = some .directory)
    (hc : now.current = fs.current) (ha : fs.Alike now) : now.locate p = fs.locate p := by
  have h' : now.PathIn dir p name := by
    obtain ⟨init, hr, hp⟩ := h
    exact ⟨init, (route_congr hc p).trans hr, (route_congr hc dir) ▸ hp⟩
  have hf' : now.walk [] (now.route dir) = .ok folder := by
    rw [route_congr hc]
    exact ha.walk.2 hf
  rw [locate_eq_walk, locate_eq_walk, h.walk_eq hl hf hd, h'.walk_eq hl hf' ((ha folder).2 hd)]

section Names

variable {name own : String}

theorem pathIn_join (fs : FileSystem) (dir : Path) (h : '/' ∉ name.toList) :
    fs.PathIn dir (dir.join name) name := by
  have hr := route_join fs dir h
  rwa [String.ofList_toList] at hr

theorem pathIn_absolute (hc : Path.isAbsolute fs.current = true) (dir : Path)
    (h : '/' ∉ name.toList) : fs.PathIn dir (fs.absolute (dir.join name)) name := by
  have hs := segments_absolute fs dir h
  rwa [String.ofList_toList, ← route_of_isAbsolute fs (isAbsolute_absolute hc _)] at hs

theorem PathIn.parent (h : fs.PathIn dir p own) (ha : p.isAbsolute = true) (hl : 2 < own.length) :
    ∃ parent, Path.parent? p = some parent ∧ Path.isAbsolute parent = true ∧
      Parallel (fs.route parent) (fs.route dir) := by
  obtain ⟨init, hr, hp⟩ := h
  rw [route_of_isAbsolute fs ha] at hr
  obtain ⟨parent, hparent, hroot, hpar⟩ := exists_parent ha hr (by rwa [String.length_toList])
  rw [← route_of_isAbsolute fs hroot] at hpar
  exact ⟨parent, hparent, hroot, hpar.trans hp⟩

theorem PathIn.beside (h : fs.PathIn dir p own) (ha : p.isAbsolute = true) (hl : 2 < own.length)
    (hn : '/' ∉ name.toList) : Path.isAbsolute (p.parent.join name) = true ∧
      fs.PathIn dir (p.parent.join name) name := by
  obtain ⟨parent, hparent, hroot, hpar⟩ := h.parent ha hl
  obtain ⟨init, hr, hp⟩ := pathIn_join fs parent hn
  have hrel : Path.isAbsolute name = false := by
    have hrel := Path.not_isAbsolute_ofList hn
    rwa [String.ofList_toList] at hrel
  rw [Path.parent, hparent, Option.getD_some]
  exact ⟨by rw [Path.isAbsolute_join parent hrel, hroot], init, hr, hp.trans hpar⟩

end Names

def fileOf (folder : Location) (name ending : String) : Location := folder ++ [name ++ ending]

theorem fileOf_injective {folder : Location} {name e f : String}
    (h : fileOf folder name e = fileOf folder name f) : e = f := by
  rw [fileOf, fileOf, List.append_cancel_left_eq, List.cons.injEq] at h
  exact (String.append_right_inj name).1 h.1

def graphPath (fs : FileSystem) (dir : Path) (name : String) : Path :=
  fs.absolute (dir.join (name ++ ".json"))

/-- All texts for the files of a run lead into one directory. -/
structure Beside (fs : FileSystem) (dir : Path) (name : String) (folder : Location) : Prop where
  stem : (fs.graphPath dir name).fileStem? = some name.toList
  rooted : Path.isAbsolute (fs.graphPath dir name) = true
  rooted_found : ∀ ending : String, '/' ∉ ending.toList →
    Path.isAbsolute ((fs.graphPath dir name).parent.join (name ++ ending)) = true
  rooted_log : Path.isAbsolute ((fs.graphPath dir name).withExtension "convert.log") = true
  given : ∀ ending : String, '/' ∉ ending.toList → 2 < ending.length → ∀ q,
    fs.locate (dir.join (name ++ ending)) = .ok q → q = fileOf folder name ending
  found : ∀ ending : String, '/' ∉ ending.toList → 2 < ending.length → ∀ q,
    fs.locate ((fs.graphPath dir name).parent.join (name ++ ending)) = .ok q →
      q = fileOf folder name ending
  graph : ∀ q, fs.locate (fs.graphPath dir name) = .ok q → q = fileOf folder name ".json"
  log : ∀ q, fs.locate ((fs.graphPath dir name).withExtension "convert.log") = .ok q →
    fs.node? q ≠ some .directory → q = fileOf folder name ".convert.log"

section Texts

variable {name ending : String}

theorem no_slash_append (hn : '/' ∉ name.toList) (he : '/' ∉ ending.toList) :
    '/' ∉ (name ++ ending).toList := by
  rw [String.toList_append, List.mem_append, not_or]
  exact ⟨hn, he⟩

theorem lt_length_append (he : 2 < ending.length) : 2 < (name ++ ending).length := by
  rw [String.length_append]
  omega

theorem pathIn_graph (hc : Path.isAbsolute fs.current = true) (dir : Path)
    (hn : '/' ∉ name.toList) : fs.PathIn dir (fs.graphPath dir name) (name ++ ".json") :=
  pathIn_absolute hc dir (no_slash_append hn (by decide))

theorem stemOf_graph (hne : name ≠ "") : Path.stemOf (name ++ ".json").toList = name.toList := by
  rw [String.toList_append]
  exact Path.stemOf_append (fun h => hne (String.toList_eq_nil_iff.1 h)) (by decide)

theorem lt_length_graph : 2 < (name ++ ".json").toList.length := by
  rw [String.length_toList]
  exact lt_length_append (by decide)

theorem segments_graphPath (hc : Path.isAbsolute fs.current = true) (dir : Path)
    (hn : '/' ∉ name.toList) : ∃ rest,
      Path.segments (fs.graphPath dir name) = ([] :: rest) ++ [(name ++ ".json").toList] ∧
      Parallel ([] :: rest) (fs.route dir) := by
  have hroot : Path.isAbsolute (fs.graphPath dir name) = true := isAbsolute_absolute hc _
  obtain ⟨init, hr, hp⟩ := pathIn_graph hc dir hn
  rw [route_of_isAbsolute fs hroot] at hr
  obtain ⟨rest, rfl⟩ := Path.init_of_isAbsolute hroot hr lt_length_graph
  exact ⟨rest, hr, hp⟩

theorem stem_graphPath (hc : Path.isAbsolute fs.current = true) (dir : Path)
    (hn : '/' ∉ name.toList) (hne : name ≠ "") :
    (fs.graphPath dir name).fileStem? = some name.toList := by
  obtain ⟨rest, hs, -⟩ := segments_graphPath hc dir hn
  rw [Path.fileStem?, Path.fileName_of_named hs (by simp) lt_length_graph, Option.map_some,
    stemOf_graph hne]

/-- The log of a name that is a lone dot would be the directory above. -/
theorem pathIn_log (hc : Path.isAbsolute fs.current = true) (dir : Path) (hn : '/' ∉ name.toList)
    (hne : name ≠ "") :
    Path.isAbsolute ((fs.graphPath dir name).withExtension "convert.log") = true ∧
    (fs.PathIn dir ((fs.graphPath dir name).withExtension "convert.log")
        (name ++ ".convert.log") ∨
      ∀ q, fs.locate ((fs.graphPath dir name).withExtension "convert.log") = .ok q →
        fs.node? q = some .directory) := by
  obtain ⟨rest, hs, hp⟩ := segments_graphPath hc dir hn
  have hlog := @Path.withExtension_of_named _ _ _ hs (by simp) lt_length_graph "convert.log"
    (by decide)
  rw [stemOf_graph hne] at hlog
  have hroot := Path.isAbsolute_of_segments (hlog.trans List.cons_append)
    (List.append_ne_nil_of_right_ne_nil _ (List.cons_ne_nil _ _))
  refine ⟨hroot, ?_⟩
  split_ifs at hlog with hdot
  · exact .inr fun q hq => directory_of_locate hlog hq
  · refine .inl ⟨[] :: rest, ?_, hp⟩
    rw [route_of_isAbsolute fs hroot, hlog, String.toList_append]
    rfl

theorem beside_of_walk {folder : Location} (hc : Path.isAbsolute fs.current = true)
    (hn : '/' ∉ name.toList) (hne : name ≠ "") (hf : fs.walk [] (fs.route dir) = .ok folder) :
    fs.Beside dir name folder := by
  have hroot : Path.isAbsolute (fs.graphPath dir name) = true := isAbsolute_absolute hc _
  have hgraph := pathIn_graph hc dir hn
  have hplace : ∀ {p : Path} {ending : String}, 2 < ending.length →
      fs.PathIn dir p (name ++ ending) → ∀ q, fs.locate p = .ok q →
        q = fileOf folder name ending := by
    intro p ending he hp q hq
    obtain ⟨other, ho, -, rfl⟩ := hp.locate (lt_length_append he) hq
    cases hf.symm.trans ho
    rfl
  have hbeside : ∀ ending : String, '/' ∉ ending.toList →
      Path.isAbsolute ((fs.graphPath dir name).parent.join (name ++ ending)) = true ∧
        fs.PathIn dir ((fs.graphPath dir name).parent.join (name ++ ending)) (name ++ ending) :=
    fun ending he =>
      hgraph.beside hroot (lt_length_append (by decide)) (no_slash_append hn he)
  obtain ⟨hlogroot, hlog⟩ := pathIn_log hc dir hn hne
  refine ⟨stem_graphPath hc dir hn hne, hroot, fun e he => (hbeside e he).1, hlogroot,
    fun e he hl => hplace hl (pathIn_join fs dir (no_slash_append hn he)),
    fun e he hl => hplace hl (hbeside e he).2, hplace (by decide) hgraph, fun q hq hd => ?_⟩
  rcases hlog with hlog | hback
  · exact hplace (by decide) hlog q hq
  · exact absurd (hback q hq) hd

theorem exists_beside (hc : Path.isAbsolute fs.current = true) (hn : '/' ∉ name.toList)
    (hne : name ≠ "") (hg : fs.locate (fs.graphPath dir name) = .ok q) :
    ∃ folder, fs.Beside dir name folder := by
  obtain ⟨folder, hf, -⟩ := (pathIn_graph hc dir hn).locate (lt_length_append (by decide)) hg
  exact ⟨folder, beside_of_walk hc hn hne hf⟩

end Texts

end PoolCheck.FileSystem
