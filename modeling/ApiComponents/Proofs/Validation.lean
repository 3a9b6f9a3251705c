import ApiComponents.Proofs.Arguments
import ApiComponents.Proofs.CommandRuns

/-! # Validation foretells conversion

To validate a document and to convert it take the same things from the files, so one of them
succeeds when the other does. What a validation counts is then what the conversion has read and
what it prints.
-/

namespace ApiComponents.CommandLine

open Files (FileTree)

/-- The messages of a validation that succeeds. -/
def validationReport (input : String) (types schemes schemas requirements : Nat) : String :=
  "Valid IR document: " ++ input ++
    "\n  Types: " ++ Nat.repr types ++
    "\n  Auth schemes: " ++ Nat.repr schemes ++
    "\n  Schemas: " ++ Nat.repr schemas ++
    "\n  Security requirements: " ++ Nat.repr requirements ++
    "\nValidation successful.\n"

theorem messages_eq_validationReport (input : String) (description : ApiDescription)
    (fragment : Fragment) :
    loadedMessage input description ++ validMessage fragment =
      validationReport input description.types.length description.auth.schemes.length
        fragment.components.schemas.length fragment.security.length := by
  have joined : "\n  Schemas: " = "\n" ++ "  Schemas: " := by decide
  unfold loadedMessage validMessage validationReport
  rw [joined]
  simp only [String.append_assoc]

section

variable {input : String}

theorem running_validation (tree : FileTree) (path : StandsForPath input) :
    tree.running (runProgram ["validate", "-i", input]) = tree.running (runValidate input) := by
  rw [runProgram, ofArguments_validate path]
  rfl

theorem running_validation_noPath (tree : FileTree) (noPath : ¬ StandsForPath input) :
    tree.running (runProgram ["validate", "-i", input]) = ({ code := 2 }, tree) := by
  rw [runProgram, ofArguments_validate_noPath noPath]
  rfl

theorem running_printing (tree : FileTree) (path : StandsForPath input)
    (format : Option TextFormat) :
    tree.running (runProgram (["convert", "-i", input, "-o", "-"] ++ formatArguments format)) =
      tree.running (runConvert (some input) (some "-") format) := by
  rw [runProgram, ofArguments_convert path]
  rfl

theorem running_printing_noPath (tree : FileTree) (noPath : ¬ StandsForPath input)
    (format : Option TextFormat) :
    tree.running (runProgram (["convert", "-i", input, "-o", "-"] ++ formatArguments format)) =
      ({ code := 2 }, tree) := by
  rw [runProgram, ofArguments_convert_noPath noPath]
  rfl

end

/-- For every tree and every input path a validation succeeds if and only if a conversion to the
    output of the program does, whatever format is asked for. Then the validation reports how many
    types and schemes the description has that the conversion reads, and how many schemas and
    security requirements the fragment has that the conversion prints. -/
theorem validate_predicts_convert (tree : FileTree) (input : String) (format : Option TextFormat) :
    let validated := (tree.running (runProgram ["validate", "-i", input])).1
    let converted := (tree.running
      (runProgram (["convert", "-i", input, "-o", "-"] ++ formatArguments format))).1
    (validated.code = 0 ↔ converted.code = 0) ∧
      (validated.code = 0 → ∃ settings description fragment,
        Supplies tree (some input) settings description fragment ∧
          validated.messages =
            validationReport input description.types.length description.auth.schemes.length
              fragment.components.schemas.length fragment.security.length ∧
          converted.output = (format.getD settings.format).render fragment.toJson) := by
  dsimp only
  by_cases path : StandsForPath input
  · rw [running_validation tree path, running_printing tree path format]
    by_cases supplied : ∃ settings description fragment,
        Supplies tree (some input) settings description fragment
    · obtain ⟨settings, description, fragment, found⟩ := supplied
      rw [running_runValidate found, running_runConvert found]
      refine ⟨Iff.rfl, fun _ => ⟨settings, description, fragment, found, ?_, rfl⟩⟩
      exact messages_eq_validationReport input description fragment
    · obtain ⟨messages, report, invalid⟩ := running_runValidate_of_lacking supplied
      obtain ⟨reason, failed⟩ := running_runConvert_of_lacking supplied (some "-") format
      rw [invalid, failed]
      exact ⟨Iff.rfl, fun valid => absurd valid Nat.one_ne_zero⟩
  · rw [running_validation_noPath tree path, running_printing_noPath tree path format]
    exact ⟨Iff.rfl, fun valid => absurd valid (Nat.succ_ne_zero 1)⟩

theorem bearer_validates_as_it_converts :
    let validated := (bearerTree.running (runProgram ["validate", "-i", "ir.json"])).1
    let converted := (bearerTree.running (runProgram
      (["convert", "-i", "ir.json", "-o", "-"] ++ formatArguments (some .json)))).1
    validated.code = 0 ∧ converted.code = 0 ∧ ∃ settings description fragment,
      Supplies bearerTree (some "ir.json") settings description fragment ∧
        validated.messages =
          validationReport "ir.json" description.types.length description.auth.schemes.length
            fragment.components.schemas.length fragment.security.length ∧
        converted.output = TextFormat.json.render fragment.toJson := by
  have agrees := validate_predicts_convert bearerTree "ir.json" (some .json)
  have valid : (bearerTree.running (runProgram ["validate", "-i", "ir.json"])).1.code = 0 := by
    decide +kernel
  exact ⟨valid, agrees.1.mp valid, agrees.2 valid⟩

end ApiComponents.CommandLine
