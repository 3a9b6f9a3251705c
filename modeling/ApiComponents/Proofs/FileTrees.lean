import ApiComponents.Files.Tree
import ApiComponents.Proofs.Traversal

/-! # What writing changes in a file tree

Making a directory and all that must hold it adds directories where nothing stood, at places that
the path leads through. Writing a text changes what stands where its path leads. Directories stay
what they are under both, so a path that led somewhere still leads there. From one such step to the
next the changes add up.
-/

namespace ApiComponents.Files

namespace Path

/-! ## Paths that go on from others -/

/-- The path goes on where the other one ends. -/
def LeadsThrough (path ancestor : Path) : Prop :=
  ∃ further, further ≠ [] ∧ path.segments = ancestor.segments ++ further

theorem LeadsThrough.trans {path middle ancestor : Path} (first : path.LeadsThrough middle)
    (second : middle.LeadsThrough ancestor) : path.LeadsThrough ancestor := by
  obtain ⟨last, some, split⟩ := first
  obtain ⟨further, -, before⟩ := second
  refine ⟨further ++ last, List.append_ne_nil_of_right_ne_nil further some, ?_⟩
  rw [split, before, List.append_assoc]

theorem not_mem_of_mem_splitOn {text part : List Char} {separator : Char}
    (member : part ∈ text.splitOn separator) : separator ∉ part := by
  induction text generalizing part with
  | nil =>
      rw [List.splitOn_nil, List.mem_singleton] at member
      rw [member]
      exact List.not_mem_nil
  | cons c rest ih =>
      obtain ⟨head, tail, split⟩ := List.exists_cons_of_ne_nil (List.splitOn_ne_nil separator rest)
      rw [split] at ih
      rw [List.splitOn_cons_eq_if_modifyHead, split] at member
      by_cases same : c = separator
      · rw [if_pos (by simpa using same)] at member
        rcases List.mem_cons.mp member with rfl | later
        · exact List.not_mem_nil
        · exact ih later
      · rw [if_neg (by simpa using same), List.modifyHead_cons] at member
        rcases List.mem_cons.mp member with rfl | later
        · have clean : separator ∉ head := ih List.mem_cons_self
          rw [List.mem_cons, not_or]
          exact ⟨fun here => same here.symm, clean⟩
        · exact ih (List.mem_cons_of_mem head later)

theorem no_slash_of_mem_segments {path : Path} {name : String} (member : name ∈ path.segments) :
    '/' ∉ name.toList := by
  obtain ⟨part, inside, rfl⟩ := List.mem_map.mp member
  rw [String.toList_ofList]
  exact not_mem_of_mem_splitOn inside

/-- Names without slashes are the segments of the path made of them. -/
theorem segments_intercalate {names : List String} (some : names ≠ [])
    (noSlash : ∀ name ∈ names, '/' ∉ name.toList) :
    segments ("/".intercalate names) = names := by
  have split : (['/'].intercalate (names.map String.toList)).splitOn '/' =
      names.map String.toList := by
    refine List.splitOn_intercalate '/' ?_ (fun none => some (List.map_eq_nil_iff.mp none))
    intro part member
    obtain ⟨name, listed, rfl⟩ := List.mem_map.mp member
    exact noSlash name listed
  have slash : "/".toList = ['/'] := rfl
  rw [segments, String.toList_intercalate, slash, split, List.map_map]
  exact (List.map_congr_left fun name _ => String.ofList_toList).trans (List.map_id names)

theorem exists_dropIdle (names : List String) : ∃ idle, names = idle ++ dropIdle names := by
  fun_induction dropIdle names with
  | case1 => exact ⟨[], rfl⟩
  | case2 first => exact ⟨[], rfl⟩
  | case3 last before _ _ ih =>
      obtain ⟨idle, split⟩ := ih
      exact ⟨last :: idle, by rw [List.cons_append, ← split]⟩
  | case4 last before => exact ⟨[], rfl⟩

theorem dropIdle_ne_nil {names : List String} (some : names ≠ []) : dropIdle names ≠ [] := by
  fun_induction dropIdle names with
  | case1 => exact some
  | case2 first => exact some
  | case3 last before longer _ ih => exact ih longer
  | case4 last before => exact some

/-- A path leads through its parent, if that has names. -/
theorem leadsThrough_of_parent? {path parent : Path} (held : path.parent? = some parent)
    (named : parent ≠ "") (belowRoot : parent ≠ "/") : path.LeadsThrough parent := by
  obtain ⟨idle, split⟩ := exists_dropIdle path.segments.reverse
  unfold parent? at held
  split at held
  · cases held
  · split at held
    · cases held
    · cases held
      exact absurd rfl named
  · next last before several names =>
      obtain ⟨more, behind⟩ := exists_dropIdle before
      have kept : (dropIdle before).reverse ≠ [] :=
        fun none => dropIdle_ne_nil several (List.reverse_eq_nil_iff.mp none)
      have whole : path.segments =
          (dropIdle before).reverse ++ (more.reverse ++ [last] ++ idle.reverse) := by
        rw [namesReversed] at names
        rw [names, behind] at split
        rw [← List.reverse_reverse path.segments, split]
        simp only [List.reverse_append, List.reverse_cons, List.append_assoc]
      have noSlash : ∀ name ∈ (dropIdle before).reverse, '/' ∉ name.toList := by
        intro name member
        have inPath : name ∈ path.segments := whole ▸ List.mem_append_left _ member
        exact no_slash_of_mem_segments inPath
      simp only [Option.some.injEq] at held
      split at held
      · exact absurd held.symm belowRoot
      · rw [← held]
        refine ⟨more.reverse ++ [last] ++ idle.reverse, by simp, ?_⟩
        rw [segments_intercalate kept noSlash]
        exact whole

theorem ancestors_root (fuel : Nat) : ancestors fuel "/" = [] := by
  cases fuel <;> rfl

theorem leadsThrough_of_mem_ancestors {fuel : Nat} {path parent ancestor : Path}
    (held : path.parent? = some parent) (named : parent ≠ "")
    (member : ancestor ∈ ancestors fuel parent) : path.LeadsThrough ancestor := by
  induction fuel generalizing path parent with
  | zero => cases member
  | succ fuel ih =>
      have belowRoot : parent ≠ "/" := by
        rintro rfl
        rw [ancestors_root] at member
        cases member
      have direct := leadsThrough_of_parent? held named belowRoot
      unfold ancestors at member
      split at member
      · cases member
      · next further holds =>
          rcases List.mem_cons.mp member with rfl | outer
          · exact direct
          · split at outer
            · cases outer
            · next some => exact direct.trans (ih holds some outer)

end Path

namespace FileTree

/-! ## Places -/

theorem entry?_cons (tree : FileTree) (name : String) (outer : Location) :
    tree.entry? (name :: outer) = tree.entries.lookup (name :: outer) := rfl

theorem entry?_put (tree : FileTree) {location : Location} (below : location ≠ [])
    (entry : FileEntry) (other : Location) :
    entry? (tree.put location entry) other =
      if other = location then some entry else tree.entry? other := by
  cases other with
  | nil =>
      rw [if_neg below.symm]
      rfl
  | cons name outer =>
      rw [entry?_cons, entry?_cons, put, List.lookup_cons]
      by_cases same : name :: outer = location
      · rw [if_pos same, beq_iff_eq.mpr same]
      · rw [if_neg same, beq_eq_false_iff_ne.mpr same]

theorem requireDirectory_eq_ok_iff {tree : FileTree} {place : Location} :
    tree.requireDirectory place = .ok () ↔ tree.entry? place = some .directory := by
  unfold requireDirectory
  split <;> simp_all

/-- The trees have one home, and the directories of the first are directories of the second. -/
structure KeepsDirectories (tree after : FileTree) : Prop where
  home : after.home = tree.home
  directories : ∀ place, tree.entry? place = some .directory → after.entry? place = some .directory

theorem ne_nil_of_free {tree : FileTree} {place : Location}
    (free : tree.entry? place ≠ some .directory) : place ≠ [] := by
  rintro rfl
  exact free rfl

/-- What is put where no directory stands takes no directory away. -/
theorem KeepsDirectories.put {tree : FileTree} {place : Location}
    (free : tree.entry? place ≠ some .directory) (entry : FileEntry) :
    KeepsDirectories tree (tree.put place entry) := by
  refine ⟨rfl, fun other directory => ?_⟩
  have apart : other ≠ place := by
    rintro rfl
    exact free directory
  rw [entry?_put tree (ne_nil_of_free free), if_neg apart]
  exact directory

namespace KeepsDirectories

variable {tree after : FileTree} (keeps : KeepsDirectories tree after)
include keeps

theorem follow {here next : Location} {segment : String}
    (followed : tree.follow here segment = .ok next) : after.follow here segment = .ok next := by
  obtain ⟨⟨⟩, required, leads⟩ := bind_eq_ok_iff.mp followed
  have still := requireDirectory_eq_ok_iff.mpr
    (keeps.directories here (requireDirectory_eq_ok_iff.mp required))
  exact bind_eq_ok_iff.mpr ⟨(), still, leads⟩

theorem followAll {segments : List String} {here place : Location}
    (followed : segments.foldlM tree.follow here = .ok place) :
    segments.foldlM after.follow here = .ok place := by
  induction segments generalizing here with
  | nil => exact followed
  | cons segment segments ih =>
      rw [List.foldlM_cons] at followed ⊢
      obtain ⟨next, step, rest⟩ := bind_eq_ok_iff.mp followed
      exact bind_eq_ok_iff.mpr ⟨next, keeps.follow step, ih rest⟩

/-- A path that led somewhere still leads there. -/
theorem locate {path : Path} {place : Location} (found : tree.locate path = .ok place) :
    after.locate path = .ok place := by
  obtain ⟨segments, checked, followed⟩ := bind_eq_ok_iff.mp found
  have origin : after.origin path = tree.origin path := by
    rw [FileTree.origin, FileTree.origin, keeps.home]
  exact bind_eq_ok_iff.mpr ⟨segments, checked, origin ▸ keeps.followAll followed⟩

end KeepsDirectories

/-! ## Directories that are made -/

/-- All that has changed are places where nothing stood and where directories are now. Each of
    them is where a path of the given kind leads. -/
structure Grows (kind : Path → Prop) (tree after : FileTree) : Prop where
  home : after.home = tree.home
  entries : ∀ place, after.entry? place = tree.entry? place ∨
    tree.entry? place = none ∧ after.entry? place = some .directory ∧
      ∃ path, kind path ∧ after.locate path = .ok place

namespace Grows

variable {kind : Path → Prop} {tree middle after : FileTree}

theorem refl (kind : Path → Prop) (tree : FileTree) : Grows kind tree tree :=
  ⟨rfl, fun _ => .inl rfl⟩

theorem keepsDirectories (grows : Grows kind tree after) : KeepsDirectories tree after := by
  refine ⟨grows.home, fun place directory => ?_⟩
  rcases grows.entries place with same | ⟨nothing, -⟩
  · rw [same, directory]
  · rw [directory] at nothing
    cases nothing

theorem trans (first : Grows kind tree middle) (second : Grows kind middle after) :
    Grows kind tree after := by
  refine ⟨second.home.trans first.home, fun place => ?_⟩
  rcases second.entries place with same | ⟨nothing, made, leads⟩
  · rcases first.entries place with before | ⟨nothing, made, path, fits, leads⟩
    · exact .inl (same.trans before)
    · exact .inr ⟨nothing, same.trans made, path, fits, second.keepsDirectories.locate leads⟩
  · rcases first.entries place with before | ⟨missing, directory, -⟩
    · exact .inr ⟨before ▸ nothing, made, leads⟩
    · rw [directory] at nothing
      cases nothing

end Grows

theorem makeDirectory_eq_ok_iff {tree after : FileTree} {path : Path} :
    tree.makeDirectory path = .ok after ↔
      ∃ place, tree.locate path = .ok place ∧ tree.entry? place = none ∧
        after = tree.put place .directory := by
  refine bind_eq_ok_iff.trans (exists_congr fun place => and_congr_right fun _ => ?_)
  cases tree.entry? place with
  | some entry => simp
  | none => simp [eq_comm]

/-- One directory that is made. -/
theorem grows_of_makeDirectory {kind : Path → Prop} {tree after : FileTree} {path : Path}
    (made : tree.makeDirectory path = .ok after) (fits : kind path) : Grows kind tree after := by
  obtain ⟨place, found, nothing, rfl⟩ := makeDirectory_eq_ok_iff.mp made
  have free : tree.entry? place ≠ some .directory := by
    rw [nothing]
    exact nofun
  refine ⟨rfl, fun other => ?_⟩
  rw [entry?_put tree (ne_nil_of_free free)]
  by_cases here : other = place
  · rw [if_pos here, here]
    exact .inr ⟨nothing, rfl, path, fits, (KeepsDirectories.put free .directory).locate found⟩
  · rw [if_neg here]
    exact .inl rfl

/-- Directories that are made one after the other, also when one of them cannot be made. -/
theorem grows_makeEach {kind : Path → Prop} {paths : List Path}
    (fit : ∀ path ∈ paths, kind path) (tree : FileTree) :
    Grows kind tree (tree.makeEach paths).2 := by
  induction paths generalizing tree with
  | nil => exact .refl kind tree
  | cons path rest ih =>
      have later := ih fun other member => fit other (List.mem_cons_of_mem path member)
      unfold makeEach
      split
      · next grown made =>
          exact (grows_of_makeDirectory made (fit path List.mem_cons_self)).trans (later grown)
      · split
        · exact later tree
        · exact .refl kind tree

theorem mem_of_missingFrom {tree : FileTree} {outward paths : List Path}
    (tried : tree.missingFrom outward = .ok paths) {path : Path} (member : path ∈ paths) :
    path ∈ outward := by
  induction outward generalizing paths with
  | nil =>
      cases tried
      cases member
  | cons first outer ih =>
      unfold missingFrom at tried
      split at tried
      · cases tried
        rw [List.mem_singleton.mp member]
        exact List.mem_cons_self
      · obtain ⟨before, found, same⟩ := bind_eq_ok_iff.mp tried
        cases same
        rcases List.mem_append.mp member with earlier | last
        · exact List.mem_cons_of_mem first (ih found earlier)
        · rw [List.mem_singleton.mp last]
          exact List.mem_cons_self
      · split at tried
        · cases tried
          cases member
        · cases tried

theorem grows_makeAll {path parent : Path} (held : path.parent? = some parent) (named : parent ≠ "")
    (tree : FileTree) : Grows path.LeadsThrough tree (tree.makeAll parent).2 := by
  unfold makeAll
  split
  · next paths tried =>
      refine grows_makeEach (fun ancestor member => ?_) tree
      exact Path.leadsThrough_of_mem_ancestors held named (mem_of_missingFrom tried member)
  · exact .refl _ tree

/-! ## Texts that are written -/

theorem exists_of_writeText {tree after : FileTree} {path : Path} {text : String}
    (written : tree.writeText path text = .ok after) :
    ∃ place, tree.locate path = .ok place ∧ tree.entry? place ≠ some .directory ∧
      after = tree.put place (.file text.toUTF8) := by
  obtain ⟨segments, checked, written⟩ := bind_eq_ok_iff.mp written
  dsimp only at written
  split at written
  · -- a slash at the end: nothing is written
    obtain ⟨_, -, written⟩ := bind_eq_ok_iff.mp written
    obtain ⟨_, -, written⟩ := bind_eq_ok_iff.mp written
    cases written
  · obtain ⟨place, followed, written⟩ := bind_eq_ok_iff.mp written
    split at written
    · cases written
    · next free =>
        cases written
        exact ⟨place, bind_eq_ok_iff.mpr ⟨segments, checked, followed⟩, free, rfl⟩

/-- The tree receives a text at an output path. The path leads to a file with the text, at a place
    where no directory was. Everywhere else at most directories have come, where nothing stood and
    where a path leads that the output path leads through. -/
structure Receives (tree : FileTree) (path : Path) (text : String) (after : FileTree) : Prop where
  home : after.home = tree.home
  entries : ∃ place, after.locate path = .ok place ∧
    after.entry? place = some (.file text.toUTF8) ∧ tree.entry? place ≠ some .directory ∧
    ∀ other, other ≠ place → after.entry? other = tree.entry? other ∨
      tree.entry? other = none ∧ after.entry? other = some .directory ∧
        ∃ ancestor, path.LeadsThrough ancestor ∧ after.locate ancestor = .ok other

theorem receives_of_writeText {tree grown after : FileTree} {path : Path} {text : String}
    (grows : Grows path.LeadsThrough tree grown) (written : grown.writeText path text = .ok after) :
    tree.Receives path text after := by
  obtain ⟨place, found, free, rfl⟩ := exists_of_writeText written
  have keeps := KeepsDirectories.put free (.file text.toUTF8)
  have stands := entry?_put grown (ne_nil_of_free free) (.file text.toUTF8)
  refine ⟨grows.home, place, keeps.locate found, ?_, ?_, fun other apart => ?_⟩
  · rw [stands, if_pos rfl]
  · exact fun directory => free (grows.keepsDirectories.directories place directory)
  · rw [stands, if_neg apart]
    rcases grows.entries other with same | ⟨nothing, made, ancestor, through, leads⟩
    · exact .inl same
    · exact .inr ⟨nothing, made, ancestor, through, keeps.locate leads⟩

end FileTree

end ApiComponents.Files
