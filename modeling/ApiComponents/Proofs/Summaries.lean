import ApiComponents.Proofs.Collisions
import ApiComponents.Proofs.FirstFailure
import ApiComponents.Proofs.Security
import ApiComponents.Summary

/-! # Summaries and fragments

A summary goes over the declared types and the schemes by itself, without a fragment. As long as
the way in which the schemes combine is known, it fails when the lenient assembly does and with the
same failure, and the names that it lists are the keys of the fragment, with their repeats.
-/

namespace ApiComponents

/-- The item of a summary for a declared type. -/
def Declaration.summaryItem (declaration : Declaration) : Json :=
  .object
    [("declared", .text declaration.name.display),
      ("kind", .text declaration.shape.kind),
      ("schema", .text declaration.schemaName)]

theorem Declaration.summary_eq (declaration : Declaration) :
    declaration.summary = declaration.toSchema.map fun _ => declaration.summaryItem :=
  bind_ok_eq_map declaration.toSchema

/-- A traversal for the items fails as one for the schemas. -/
theorem failureOf_summaries (types : List Declaration) :
    failureOf (types.mapM Declaration.summary) = failureOf (types.mapM Declaration.toSchema) := by
  simp only [failureOf_mapM, Declaration.summary_eq, failureOf_map]

theorem items_of_summaries {types : List Declaration} {items : List Json}
    (listed : types.mapM Declaration.summary = .ok items) :
    items = types.map Declaration.summaryItem := by
  have related := mapM_eq_ok_iff.mp listed
  have each : ∀ (declaration : Declaration) (item : Json), declaration.summary = .ok item →
      declaration.summaryItem = id item := by
    intro declaration item made
    rw [Declaration.summary_eq] at made
    obtain ⟨_, -, same⟩ := map_eq_ok_iff.mp made
    exact same
  rw [map_eq_map_of_related related each, List.map_id]

namespace ApiDescription

variable {description : ApiDescription}

/-- Declared types are looked at before schemes. -/
theorem failureOf_summary (description : ApiDescription) :
    failureOf description.summary =
      (failureOf (description.types.mapM Declaration.toSchema)).or
        (failureOf (description.auth.schemes.mapM AuthScheme.schemeName)) := by
  rw [← failureOf_summaries, summary]
  cases description.types.mapM Declaration.summary with
  | error failure => rfl
  | ok items => cases description.auth.schemes.mapM AuthScheme.schemeName <;> rfl

theorem summary_parts {summary : Json} (made : description.summary = .ok summary) :
    ∃ schemes, description.auth.schemes.mapM AuthScheme.schemeName = .ok schemes ∧
      summary.member? "schemas" =
        some (.list (description.types.map Declaration.summaryItem)) ∧
      (summary.member? "auth").bind (Json.member? "schemes") =
        some (.list (schemes.map .text)) := by
  obtain ⟨items, listed, made⟩ := bind_eq_ok_iff.mp made
  obtain ⟨schemes, named, made⟩ := bind_eq_ok_iff.mp made
  cases made
  rw [items_of_summaries listed]
  exact ⟨schemes, named, rfl, rfl⟩

end ApiDescription

/-- With a way to combine that is known, only a scheme can fail. -/
theorem Auth.failureOf_conversions_of_recognized {auth : Auth}
    (recognized : ∀ word, auth.requirement ≠ .unrecognized word) :
    (failureOf auth.securitySchemes.2).or (failureOf auth.securityRequirements) =
      failureOf (auth.schemes.mapM AuthScheme.schemeName) := by
  have nothing : auth.requirement.unrecognizedParts = [] := by
    cases combined : auth.requirement with
    | all | any => rfl
    | unrecognized word => exact absurd combined (recognized word)
  rw [failureOf_conversions, unrecognizedParts, nothing, List.append_nil,
    AuthScheme.failureOf_schemeNames]

/-- What an item of a summary says of a declared type. -/
structure Json.Summarizes (item : Json) (declaration : Declaration) : Prop where
  declared : item.member? "declared" = some (.text declaration.name.display)
  kind : item.member? "kind" = some (.text declaration.shape.kind)
  schema : item.member? "schema" = some (.text declaration.schemaName)

theorem Declaration.summarizes_summaryItem (declaration : Declaration) :
    declaration.summaryItem.Summarizes declaration :=
  ⟨rfl, rfl, rfl⟩

/-- The text under a member. -/
def Json.textUnder? (name : String) (value : Json) : Option String :=
  (value.member? name).bind Json.text?

/-- What a summary lists: an item for each declared type, in order, and the names of the schemes.
    Without later repeats, the names are the keys of the fragment. -/
structure Json.ListsKeys (summary : Json) (types : List Declaration) (fragment : Fragment) :
    Prop where
  schemas : ∃ items names, summary.member? "schemas" = some (.list items) ∧
    List.Forall₂ (fun declaration item => item.Summarizes declaration) types items ∧
    items.mapM (Json.textUnder? "schema") = some names ∧
    names.eraseDups = fragment.components.schemas.keys
  schemes : ∃ names : List String,
    (summary.member? "auth").bind (member? "schemes") = some (.list (names.map .text)) ∧
    names.eraseDups = fragment.components.securitySchemes.keys

/-- With a way to combine that is known, a summary is made exactly when a fragment is assembled,
    and the failures are the same. What the summary then lists are the keys of the fragment. -/
theorem ApiDescription.summary_agrees {description : ApiDescription}
    (recognized : ∀ word, description.auth.requirement ≠ .unrecognized word) :
    (∀ failure, description.summary = .error failure ↔
        (description.toFragment .overwrite).2 = .error (.conversion failure)) ∧
      ((∃ summary, description.summary = .ok summary) ↔
        ∃ fragment, (description.toFragment .overwrite).2 = .ok fragment) ∧
      ∀ summary fragment, description.summary = .ok summary →
        (description.toFragment .overwrite).2 = .ok fragment →
          summary.ListsKeys description.types fragment := by
  have outcome : failureOf (description.toFragment .overwrite).2 =
      (failureOf description.summary).map .conversion := by
    rw [failureOf_toFragment, failureOf_convertDeclarations,
      Auth.failureOf_conversions_of_recognized recognized, failureOf_summary, Option.map_or]
  refine ⟨fun failure => ?_, ?_, fun summary fragment made built => ?_⟩
  · rw [← failureOf_eq_some_iff, ← failureOf_eq_some_iff, outcome]
    cases failureOf description.summary <;> simp
  · rw [← not_fails_iff, ← not_fails_iff, not_iff_not]
    simp only [← failureOf_eq_some_iff, outcome]
    cases failureOf description.summary <;> simp
  · obtain ⟨schemes, named, schemas, auth⟩ := summary_parts made
    refine ⟨⟨_, schemaNames description.types, schemas, ?_, ?_, ?_⟩, schemes, auth, ?_⟩
    · rw [List.forall₂_map_right_iff]
      exact List.forall₂_same.mpr fun declaration _ => declaration.summarizes_summaryItem
    · rw [mapM_eq_some_iff, schemaNames, List.forall₂_map_left_iff, List.forall₂_map_right_iff]
      exact List.forall₂_same.mpr fun declaration _ => rfl
    · obtain ⟨pairs, _, _, converted, -, -, -, rfl⟩ := toFragment_eq_ok_iff.mp built
      rw [Entries.keys_ofPairs, converted.names]
    · obtain ⟨pairs, entered, -, defined, -⟩ := Fragment.security_eq built
      rw [mapM_schemeName, mapM_eq_ok_iff.mpr entered] at named
      cases named
      rw [defined, Entries.keys_ofPairs]

/-- Two pairs of colliding declared types, and two schemes that share a name. -/
def repeatedNamesDescription : ApiDescription where
  types := interleavedDescription.types
  auth := (sharedNameDescription .any).auth

theorem ApiDescription.repeated_names_summary_agrees :
    (∀ word, repeatedNamesDescription.auth.requirement ≠ .unrecognized word) ∧
      ∃ summary fragment, repeatedNamesDescription.summary = .ok summary ∧
        (repeatedNamesDescription.toFragment .overwrite).2 = .ok fragment ∧
        summary.ListsKeys repeatedNamesDescription.types fragment := by
  have recognized : ∀ word, repeatedNamesDescription.auth.requirement ≠ .unrecognized word := by
    intro word same
    cases same
  obtain ⟨-, -, listed⟩ := ApiDescription.summary_agrees recognized
  exact ⟨recognized, _, _, rfl, rfl, listed _ _ rfl rfl⟩

end ApiComponents
