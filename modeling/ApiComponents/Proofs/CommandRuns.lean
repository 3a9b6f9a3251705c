import ApiComponents.CommandLine.Run
import ApiComponents.Proofs.FileTrees
import ApiComponents.Proofs.Traversal

/-! # What commands make of files

A command that converts looks for the settings, then for the description at its input path, then
for the fragment of the description under the policy of the settings. What it has to find is said
here without the command (`Supplies`). The looking leaves all files as they are; whether it finds
something is all that matters for how the commands go on.
-/

namespace ApiComponents

open Files (FileTree FileAccess Path)

namespace Files

/-- What comes of work on a tree: its result, and the tree as it is left. -/
def FileTree.running {α : Type} (tree : FileTree) (work : StateM FileTree α) : α × FileTree :=
  work.run tree

/-- The work leaves each tree as it is. -/
def ReadsOnly {α : Type} (work : StateM FileTree α) : Prop :=
  ∀ tree : FileTree, (tree.running work).2 = tree

variable {α β : Type} {work : StateM FileTree α} {next : α → StateM FileTree β}

theorem FileTree.running_bind (tree : FileTree) :
    tree.running (work >>= next) = (tree.running work).2.running (next (tree.running work).1) :=
  rfl

@[simp]
theorem FileTree.running_pure (tree : FileTree) (value : α) :
    tree.running (pure value) = (value, tree) := rfl

@[simp]
theorem FileTree.running_isThere (tree : FileTree) (path : Path) :
    tree.running (FileAccess.isThere path) = (tree.isThere path, tree) := rfl

@[simp]
theorem FileTree.running_readText (tree : FileTree) (path : Path) :
    tree.running (FileAccess.readText path) = (tree.readText path, tree) := rfl

theorem FileTree.running_makeDirectories (tree : FileTree) (path : Path) :
    tree.running (FileAccess.makeDirectories path) = tree.makeAll path := rfl

theorem FileTree.running_writeText (tree : FileTree) (path : Path) (text : String) :
    tree.running (FileAccess.writeText path text) =
      match tree.writeText path text with
      | .ok changed => (.ok (), changed)
      | .error fault => (.error fault, tree) := rfl

namespace ReadsOnly

theorem pure (value : α) : ReadsOnly (Pure.pure value) := fun _ => rfl

theorem isThere (path : Path) : ReadsOnly (FileAccess.isThere path) := fun _ => rfl

theorem readText (path : Path) : ReadsOnly (FileAccess.readText path) := fun _ => rfl

/-- What goes on after reading works on the same tree. -/
theorem running_bind (reads : ReadsOnly work) (tree : FileTree) :
    tree.running (work >>= next) = tree.running (next (tree.running work).1) := by
  rw [FileTree.running_bind, reads tree]

theorem bind (reads : ReadsOnly work) (further : ∀ value, ReadsOnly (next value)) :
    ReadsOnly (work >>= next) := by
  intro tree
  rw [reads.running_bind]
  exact further _ tree

end ReadsOnly

end Files

open Files (ReadsOnly)

/-! ## What there is to find -/

/-- The settings that hold in a tree: those of the settings file, or the defaults if there is
    none. -/
inductive Settings.HoldIn (tree : FileTree) : Settings → Prop where
  | defaults : tree.isThere fileName = false → HoldIn tree {}
  | written {text : String} {settings : Settings} : tree.isThere fileName = true →
      tree.readText fileName = .ok text → layout.fromYamlText text = .ok settings →
        HoldIn tree settings

/-- A path leads to a document of the description. -/
def ApiDescription.StandsAt (description : ApiDescription) (tree : FileTree) (path : Path) : Prop :=
  ∃ text, tree.readText path = .ok text ∧
    ApiDescription.layout.fromText (CommandLine.inputFormat path) text = .ok description

namespace CommandLine

/-- All that a conversion needs is in the tree: settings that hold, a description at the input path
    (that of the settings, if none is given), and its fragment under the policy of the settings. -/
structure Supplies (tree : FileTree) (input : Option Path) (settings : Settings)
    (description : ApiDescription) (fragment : Fragment) : Prop where
  holds : settings.HoldIn tree
  stands : description.StandsAt tree (input.getD settings.input)
  converts : (description.toFragment settings.collisions).2 = .ok fragment

/-! ## Looking for it -/

theorem readsOnly_loadSettings : ReadsOnly loadSettings := by
  refine .bind (.bind (.isThere _) fun there => ?_) fun found => ?_
  · split
    · refine .bind (.readText _) fun read => ?_
      split <;> exact .pure _
    · exact .pure _
  · split <;> exact .pure _

theorem loadSettings_eq_ok_iff {tree : FileTree} {settings : Settings} :
    (tree.running loadSettings).1 = .ok settings ↔ settings.HoldIn tree := by
  unfold loadSettings Settings.load
  constructor
  · intro found
    cases there : tree.isThere Settings.fileName with
    | false =>
        simp only [FileTree.running_bind, FileTree.running_isThere, there, Bool.false_eq_true,
          if_false, FileTree.running_pure] at found
        cases found
        exact .defaults there
    | true =>
        simp only [FileTree.running_bind, FileTree.running_isThere, there, if_true,
          FileTree.running_readText] at found
        cases read : tree.readText Settings.fileName with
        | error fault =>
            rw [read] at found
            cases found
        | ok text =>
            cases parsed : Settings.layout.fromYamlText text with
            | error failure =>
                simp only [read, parsed] at found
                cases found
            | ok written =>
                simp only [read, parsed] at found
                cases found
                exact .written there read parsed
  · rintro (absent | ⟨there, read, parsed⟩)
    · simp [FileTree.running_bind, absent]
    · simp only [FileTree.running_bind, FileTree.running_isThere, there, if_true,
        FileTree.running_readText, read, parsed]
      rfl

theorem readsOnly_loadDescription (path : Path) : ReadsOnly (loadDescription path) := by
  refine .bind (.readText _) fun read => ?_
  split <;> exact .pure _

theorem loadDescription_eq_ok_iff {tree : FileTree} {path : Path} {description : ApiDescription} :
    (tree.running (loadDescription path)).1 = .ok description ↔ description.StandsAt tree path := by
  unfold loadDescription ApiDescription.StandsAt
  rw [FileTree.running_bind, FileTree.running_readText]
  cases tree.readText path with
  | error fault => simp
  | ok text => simp [mapError_eq_ok_iff]

/-- How looking for a fragment ends: at the first thing that is not to be had, or with all of
    them. -/
inductive Search (tree : FileTree) (input : Option Path) : Prop where
  | unsettled {report : Report} : (tree.running loadSettings).1 = .error report → Search tree input
  | unread {settings : Settings} {report : Report} :
      (tree.running loadSettings).1 = .ok settings →
      (tree.running (loadDescription (input.getD settings.input))).1 = .error report →
        Search tree input
  | unconverted {settings : Settings} {description : ApiDescription} {error : AssemblyError} :
      (tree.running loadSettings).1 = .ok settings →
      (tree.running (loadDescription (input.getD settings.input))).1 = .ok description →
      (description.toFragment settings.collisions).2 = .error error → Search tree input
  | supplied {settings : Settings} {description : ApiDescription} {fragment : Fragment} :
      Supplies tree input settings description fragment → Search tree input

theorem search (tree : FileTree) (input : Option Path) : Search tree input := by
  cases holds : (tree.running loadSettings).1 with
  | error report => exact .unsettled holds
  | ok settings =>
      cases stands : (tree.running (loadDescription (input.getD settings.input))).1 with
      | error report => exact .unread holds stands
      | ok description =>
          cases converts : (description.toFragment settings.collisions).2 with
          | error error => exact .unconverted holds stands converts
          | ok fragment =>
              exact .supplied ⟨loadSettings_eq_ok_iff.mp holds,
                loadDescription_eq_ok_iff.mp stands, converts⟩

/-! ## Writing what was found -/

/-- What is written at the end of an output that succeeds. -/
theorem writeText_of_running {grown after : FileTree} {path : Path} {text : String}
    {report : Files.FileFault → Report}
    (wrote : grown.running (do return (← FileAccess.writeText path text).mapError report) =
      (.ok (), after)) :
    grown.writeText path text = .ok after := by
  rw [FileTree.running_bind, FileTree.running_writeText] at wrote
  cases written : grown.writeText path text with
  | error fault =>
      rw [written] at wrote
      cases wrote
  | ok changed =>
      rw [written] at wrote
      cases wrote
      rfl

/-- An output that is written is what its path leads to, in directories that were there or have
    been made for it. -/
theorem receives_of_writeOutput {tree after : FileTree} {path : Path} {text : String}
    (wrote : tree.running (writeOutput path text) = (.ok (), after)) :
    tree.Receives path text after := by
  unfold writeOutput at wrote
  dsimp only at wrote
  split at wrote
  · exact FileTree.receives_of_writeText (.refl _ tree) (writeText_of_running wrote)
  · next named =>
      cases held : path.parent? with
      | none =>
          rw [held] at named
          exact absurd rfl named
      | some parent =>
          rw [held, Option.getD_some] at named
          have grows := FileTree.grows_makeAll held named tree
          rw [held, FileTree.running_bind, FileTree.running_makeDirectories,
            Option.getD_some] at wrote
          cases made : (tree.makeAll parent).1 with
          | error fault =>
              rw [made] at wrote
              cases wrote
          | ok =>
              rw [made] at wrote
              exact FileTree.receives_of_writeText grows (writeText_of_running wrote)

/-! ## The commands that convert -/

section

variable {tree : FileTree} {settings : Settings} {description : ApiDescription}
  {fragment : Fragment}

/-- A conversion that finds all it needs goes on to its output. -/
theorem running_runConvert {input : Option Path}
    (found : Supplies tree input settings description fragment) (output : Option Path)
    (format : Option TextFormat) :
    tree.running (runConvert input output format) =
      let path := output.getD settings.output
      let text := (format.getD settings.format).render fragment.toJson
      if path = "-" then ({ output := text }, tree)
      else
        match tree.running (writeOutput path text) with
        | (.error report, after) => (.failed report, after)
        | (.ok (), after) => ({ messages := convertedMessage fragment path }, after) := by
  unfold runConvert
  rw [readsOnly_loadSettings.running_bind, loadSettings_eq_ok_iff.mpr found.holds]
  dsimp only
  rw [(readsOnly_loadDescription _).running_bind, loadDescription_eq_ok_iff.mpr found.stands]
  simp only [found.converts]
  split
  · rfl
  · rw [FileTree.running_bind]
    rcases tree.running (writeOutput _ _) with ⟨_ | _, after⟩ <;> rfl

/-- A conversion that does not find all it needs fails, says nothing and leaves all as it is. -/
theorem running_runConvert_of_lacking {input : Option Path}
    (lacks : ¬ ∃ settings description fragment,
      Supplies tree input settings description fragment)
    (output : Option Path) (format : Option TextFormat) :
    ∃ report, tree.running (runConvert input output format) = (.failed report, tree) := by
  unfold runConvert
  rw [readsOnly_loadSettings.running_bind]
  cases search tree input with
  | unsettled none =>
      rw [none]
      exact ⟨_, rfl⟩
  | unread holds none =>
      rw [holds]
      dsimp only
      rw [(readsOnly_loadDescription _).running_bind, none]
      exact ⟨_, rfl⟩
  | unconverted holds stands none =>
      rw [holds]
      dsimp only
      rw [(readsOnly_loadDescription _).running_bind, stands]
      simp only [none]
      exact ⟨_, rfl⟩
  | supplied found => exact absurd ⟨_, _, _, found⟩ lacks

theorem running_runValidate {input : Path}
    (found : Supplies tree (some input) settings description fragment) :
    tree.running (runValidate input) =
      ({ messages := loadedMessage input description ++ validMessage fragment }, tree) := by
  have stands := loadDescription_eq_ok_iff.mpr found.stands
  rw [Option.getD_some] at stands
  unfold runValidate
  rw [readsOnly_loadSettings.running_bind, loadSettings_eq_ok_iff.mpr found.holds]
  dsimp only
  rw [(readsOnly_loadDescription _).running_bind, stands]
  simp only [found.converts]
  rfl

/-- A validation that does not find all it needs fails; it may have counted the description. -/
theorem running_runValidate_of_lacking {input : Path}
    (lacks : ¬ ∃ settings description fragment,
      Supplies tree (some input) settings description fragment) :
    ∃ messages report, tree.running (runValidate input) = (.failedAfter messages report, tree) := by
  unfold runValidate
  rw [readsOnly_loadSettings.running_bind]
  cases search tree (some input) with
  | unsettled none =>
      rw [none]
      exact ⟨"", _, rfl⟩
  | unread holds none =>
      rw [Option.getD_some] at none
      rw [holds]
      dsimp only
      rw [(readsOnly_loadDescription _).running_bind, none]
      exact ⟨"", _, rfl⟩
  | unconverted holds stands none =>
      rw [Option.getD_some] at stands
      rw [holds]
      dsimp only
      rw [(readsOnly_loadDescription _).running_bind, stands]
      simp only [none]
      exact ⟨_, _, rfl⟩
  | supplied found => exact absurd ⟨_, _, _, found⟩ lacks

end

/-- A working directory with one document, which has nothing but a scheme for bearers. -/
def bearerTree : FileTree where
  home := ["work"]
  entries :=
    [(["work"], .directory),
      (["ir.json", "work"], .file
        "\x7b\"auth\": \x7b\"schemes\": [\x7b\"_type\": \"bearer\"\x7d]\x7d\x7d".toUTF8)]

end CommandLine

end ApiComponents
