import ApiComponents.Json.Value
import ApiComponents.OpenApi.Components

/-! # OpenAPI parts as JSON

Keywords that are not set, and empty maps and lists, are left out; `oneOf` and `enum` are
written whenever they are set.
-/

namespace ApiComponents

open Json (object text list)

def SchemaType.word : SchemaType → String
  | .string => "string"
  | .number => "number"
  | .integer => "integer"
  | .boolean => "boolean"
  | .array => "array"
  | .object => "object"

def memberIfSome (name : String) : Option Json → List (String × Json)
  | some value => [(name, value)]
  | none => []

/-- A member that holds an array, unless the array is empty. -/
def memberIfItems (name : String) : List Json → List (String × Json)
  | [] => []
  | items => [(name, list items)]

/-- A member that holds an object, unless the object is empty. -/
def memberIfMembers (name : String) : List (String × Json) → List (String × Json)
  | [] => []
  | members => [(name, object members)]

mutual
def SchemaOrRef.toJson : SchemaOrRef → Json
  | .ref path description =>
      object (("$ref", text path) :: memberIfSome "description" (description.map text))
  | .inline schema => schema.toJson

def Schema.toJson : Schema → Json
  | ⟨type, format, description, properties, required, additional, items, allOf, oneOf, values⟩ =>
      object
        (memberIfSome "type" (type.map fun word => text word.word) ++
          memberIfSome "format" (format.map text) ++
          memberIfSome "description" (description.map text) ++
          memberIfMembers "properties" (Schema.entriesJson properties) ++
          memberIfItems "required" (required.map text) ++
          memberIfSome "additionalProperties" (Schema.optionalJson additional) ++
          memberIfSome "items" (Schema.optionalJson items) ++
          memberIfItems "allOf" (Schema.listJson allOf) ++
          (match oneOf with
            | some schemas => [("oneOf", list (Schema.listJson schemas))]
            | none => []) ++
          memberIfSome "enum" (values.map fun words => list (words.map text)))

def Schema.entriesJson : List (String × SchemaOrRef) → List (String × Json)
  | [] => []
  | (key, schema) :: rest => (key, schema.toJson) :: Schema.entriesJson rest

def Schema.optionalJson : Option SchemaOrRef → Option Json
  | some schema => some schema.toJson
  | none => none

def Schema.listJson : List SchemaOrRef → List Json
  | [] => []
  | schema :: rest => schema.toJson :: Schema.listJson rest
end

def SecurityKind.word : SecurityKind → String
  | .apiKey => "apiKey"
  | .http => "http"

def KeyLocation.word : KeyLocation → String
  | .header => "header"

def SecurityScheme.toJson (scheme : SecurityScheme) : Json :=
  object
    (("type", text scheme.kind.word) ::
      (memberIfSome "name" (scheme.name.map text) ++
        memberIfSome "in" (scheme.location.map fun location => text location.word) ++
        memberIfSome "scheme" (scheme.scheme.map text)))

def SecurityRequirement.toJson (requirement : SecurityRequirement) : Json :=
  object (requirement.map fun (name, scopes) => (name, list (scopes.map text)))

def Components.toJson (components : Components) : Json :=
  object
    (memberIfMembers "schemas" (Schema.entriesJson components.schemas) ++
      memberIfMembers "securitySchemes"
        (components.securitySchemes.map fun (name, scheme) => (name, scheme.toJson)))

/-- A fragment as JSON; the components object is written even when empty. -/
def Fragment.toJson (fragment : Fragment) : Json :=
  object
    (("components", fragment.components.toJson) ::
      memberIfItems "security" (fragment.security.map SecurityRequirement.toJson))

end ApiComponents
