import ApiComponents.Conversion
import ApiComponents.Description.Types
import ApiComponents.Description.Writing

/-! # Fragments and summaries

All declared types and the authentication of a description become one fragment. Two declared
types may have the same schema name; a policy says what happens then. A summary only names the
schemas and security schemes that a description produces.
-/

namespace ApiComponents

/-! ## Assembling a fragment -/

/-- What happens when two declared types have the same schema name. -/
inductive CollisionPolicy where
  /-- The later one replaces the earlier one, with a warning. -/
  | overwrite
  | error
  deriving Repr, DecidableEq

/-- Why a description does not become a fragment. -/
inductive AssemblyError where
  | conversion (failure : ConversionError)
  | collision (schema first second : String)
  deriving Repr, DecidableEq

def AssemblyError.message : AssemblyError → String
  | conversion failure => "conversion failed: " ++ failure.message
  | collision schema first second =>
      "schema name `" ++ schema ++ "` produced by both `" ++ first ++ "` and `" ++ second ++ "`"

/-- Convert declarations one after the other. `owners` holds the last declared type of each
    schema name, `schemas` what has been converted so far. -/
def convertDeclarations (policy : CollisionPolicy) (owners : Entries DeclaredName)
    (schemas : Entries SchemaOrRef) :
    List Declaration → Log × Except AssemblyError (Entries SchemaOrRef)
  | [] => ([], .ok schemas)
  | declaration :: rest =>
      match declaration.toSchema with
      | .error failure => ([], .error (.conversion failure))
      | .ok schema =>
          let name := declaration.schemaName
          let declared := declaration.name.display
          let done := LogEntry.converted declaration.shape.kind declared name
          let (log, result) :=
            convertDeclarations policy (owners.insert name declaration.name)
              (schemas.insert name schema) rest
          match owners.lookup name, policy with
          | none, _ => (done :: log, result)
          | some previous, .overwrite =>
              (done :: .replaced name declared previous.display :: log, result)
          | some previous, .error =>
              ([done], .error (.collision name previous.display declared))

/-- The fragment of a description, and the log of its assembly. -/
def ApiDescription.toFragment (policy : CollisionPolicy) (description : ApiDescription) :
    Log × Except AssemblyError Fragment :=
  match convertDeclarations policy [] [] description.types with
  | (log, .error failure) => (log, .error failure)
  | (log, .ok schemas) =>
      match description.auth.securitySchemes with
      | (schemeLog, .error failure) => (log ++ schemeLog, .error (.conversion failure))
      | (schemeLog, .ok securitySchemes) =>
          match description.auth.securityRequirements with
          | .error failure => (log ++ schemeLog, .error (.conversion failure))
          | .ok requirements =>
              let security := if description.auth.schemes.isEmpty then [] else requirements
              (log ++ schemeLog, .ok { components := { schemas, securitySchemes }, security })

/-! ## Summaries -/

/-- What a declared type contributes to a summary, once it is known to convert. -/
def Declaration.summary (declaration : Declaration) : Except ConversionError Json := do
  let _ ← declaration.toSchema
  .ok (.object
    [("declared", .text declaration.name.display),
      ("kind", .text declaration.shape.kind),
      ("schema", .text declaration.schemaName)])

def ApiDescription.summary (description : ApiDescription) : Except ConversionError Json := do
  let schemas ← description.types.mapM Declaration.summary
  let schemes ← description.auth.schemes.mapM AuthScheme.schemeName
  .ok (.object
    [("auth", .object
        [("requirement", .text description.auth.requirement.word),
          ("schemes", .list (schemes.map .text))]),
      ("schemas", .list schemas)])

end ApiComponents
