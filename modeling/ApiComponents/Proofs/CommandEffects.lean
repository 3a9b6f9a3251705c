import ApiComponents.Proofs.Arguments
import ApiComponents.Proofs.CommandRuns

/-! # What commands change

Commands that only look leave all files as they are, and so does an initialization that would
replace settings without being forced to. A conversion changes nothing before it has found all it
needs. What it changes then is its output and the directories that must hold it.
-/

namespace ApiComponents.CommandLine

open Files (FileTree Path ReadsOnly)

/-! ## Commands that only look -/

theorem readsOnly_runValidate (input : Path) : ReadsOnly (runValidate input) := by
  refine .bind readsOnly_loadSettings fun loaded => ?_
  split
  · exact .pure _
  · refine .bind (readsOnly_loadDescription _) fun read => ?_
    split
    · exact .pure _
    · dsimp only
      split <;> exact .pure _

theorem readsOnly_runInspect (input : Path) (format : TextFormat) :
    ReadsOnly (runInspect input format) := by
  refine .bind (readsOnly_loadDescription _) fun read => ?_
  split
  · exact .pure _
  · split <;> exact .pure _

/-- Settings that are there stay, unless they are to be replaced. -/
theorem running_runInit {tree : FileTree} (there : tree.isThere Settings.fileName = true) :
    (tree.running (runInit false)).2 = tree := by
  unfold runInit
  rw [FileTree.running_bind, FileTree.running_isThere, there]
  rfl

/-- Arguments change no more than the command that they ask for. -/
theorem running_runProgram_of_idle {tree : FileTree} {arguments : List String}
    (idle : ∀ command, Invocation.ofArguments arguments = .run command →
      (tree.running command.run).2 = tree) :
    (tree.running (runProgram arguments)).2 = tree := by
  unfold runProgram
  cases asked : Invocation.ofArguments arguments with
  | run command => exact idle command asked
  | help | helpOn | version | misuse => rfl

/-! ## Conversions -/

/-- A conversion that succeeds has found all it needs. It writes the fragment in the format that
    is asked for or else that of the settings, unless it prints it. -/
theorem receives_of_runConvert {tree : FileTree} {input output : Option Path}
    {format : Option TextFormat}
    (succeeds : (tree.running (runConvert input output format)).1.code = 0) :
    ∃ settings description fragment, Supplies tree input settings description fragment ∧
      (output.getD settings.output ≠ "-" →
        tree.Receives (output.getD settings.output)
          ((format.getD settings.format).render fragment.toJson)
          (tree.running (runConvert input output format)).2) := by
  by_cases supplied : ∃ settings description fragment,
      Supplies tree input settings description fragment
  · obtain ⟨settings, description, fragment, found⟩ := supplied
    refine ⟨settings, description, fragment, found, fun filed => ?_⟩
    rw [running_runConvert found] at succeeds ⊢
    simp only [if_neg filed] at succeeds ⊢
    cases wrote : tree.running (writeOutput (output.getD settings.output)
        ((format.getD settings.format).render fragment.toJson)) with
    | mk result after =>
        cases result with
        | error report =>
            rw [wrote] at succeeds
            cases succeeds
        | ok => exact receives_of_writeOutput wrote
  · obtain ⟨report, failed⟩ := running_runConvert_of_lacking supplied output format
    rw [failed] at succeeds
    cases succeeds

/-- Commands change only what they must, in every tree and for all arguments. To validate and to
    inspect leaves the tree as it is; so does an initialization without force where there are
    settings. A conversion that does not find settings, description and fragment prints nothing
    and leaves the tree as it is; one that succeeds and has a file for its output puts the fragment
    there and changes nothing else but for directories on the way. -/
theorem commands_change_only_what_they_must (tree : FileTree) (arguments : List String) :
    (tree.running (runProgram ("validate" :: arguments))).2 = tree ∧
    (tree.running (runProgram ("inspect" :: arguments))).2 = tree ∧
    ("--force" ∉ arguments → tree.isThere Settings.fileName = true →
      (tree.running (runProgram ("init" :: arguments))).2 = tree) ∧
    ∀ input output format,
      Invocation.ofArguments ("convert" :: arguments) = .run (.convert input output format) →
      let ran := tree.running (runProgram ("convert" :: arguments))
      ((¬ ∃ settings description fragment, Supplies tree input settings description fragment) →
        ran.2 = tree ∧ ran.1.output = "") ∧
      (ran.1.code = 0 →
        ∃ settings description fragment, Supplies tree input settings description fragment ∧
          (output.getD settings.output ≠ "-" →
            tree.Receives (output.getD settings.output)
              ((format.getD settings.format).render fragment.toJson) ran.2)) := by
  refine ⟨?validate, ?inspect, ?init, ?convert⟩
  case validate =>
    refine running_runProgram_of_idle fun command asked => ?_
    obtain ⟨input, rfl⟩ := validate_of_asked asked
    exact readsOnly_runValidate input tree
  case inspect =>
    refine running_runProgram_of_idle fun command asked => ?_
    obtain ⟨input, format, rfl⟩ := inspect_of_asked asked
    exact readsOnly_runInspect input format tree
  case init =>
    intro unforced there
    refine running_runProgram_of_idle fun command asked => ?_
    obtain rfl := init_of_asked unforced asked
    exact running_runInit there
  case convert =>
    intro input output format asked ran
    have conversion : ran = tree.running (runConvert input output format) := by
      unfold ran runProgram
      rw [asked]
      rfl
    rw [conversion]
    constructor
    · intro lacks
      obtain ⟨report, failed⟩ := running_runConvert_of_lacking lacks output format
      rw [failed]
      exact ⟨rfl, rfl⟩
    · exact receives_of_runConvert

theorem bearer_is_written_into_a_new_directory :
    let ran := bearerTree.running (runProgram ["convert", "-o", "out/api.yaml"])
    ran.1.code = 0 ∧ ∃ settings description fragment,
      Supplies bearerTree none settings description fragment ∧
        bearerTree.Receives "out/api.yaml" (settings.format.render fragment.toJson) ran.2 := by
  have asked : Invocation.ofArguments ["convert", "-o", "out/api.yaml"] =
      .run (.convert none (some "out/api.yaml") none) := by with_unfolding_all rfl
  have succeeds : (bearerTree.running
      (runProgram ["convert", "-o", "out/api.yaml"])).1.code = 0 := by decide +kernel
  have named : "out/api.yaml" ≠ "-" := by decide
  obtain ⟨-, -, -, converts⟩ :=
    commands_change_only_what_they_must bearerTree ["-o", "out/api.yaml"]
  obtain ⟨settings, description, fragment, found, written⟩ := (converts _ _ _ asked).2 succeeds
  exact ⟨succeeds, settings, description, fragment, found, written named⟩

end ApiComponents.CommandLine
