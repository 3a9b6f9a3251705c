import ApiComponents.Layout
import ApiComponents.OpenApi.Writing

/-! # Reading OpenAPI parts

The layouts of the OpenAPI parts. A schema is a reference when it has a string under `$ref`,
and otherwise a schema object.
-/

namespace ApiComponents

def SchemaType.words : List (String × SchemaType) :=
  [("string", .string), ("number", .number), ("integer", .integer), ("boolean", .boolean),
    ("array", .array), ("object", .object)]

/-- What a content means in the places where schemas stand. -/
structure SchemaReading where
  content : Content
  schema : Option SchemaOrRef := none
  list : Option (List SchemaOrRef) := none
  entries : Option (Entries SchemaOrRef) := none

def partValue? {α : Type} (isKeyed : Bool) (absence : Absence α)
    (read : SchemaReading → Option α) : Option SchemaReading → Option α
  | some part => read part
  | none => absence.value? isKeyed

/-- The value of a part for which null stands for nothing. -/
def nullable {α : Type} (read : SchemaReading → Option α) (part : SchemaReading) :
    Option (Option α) :=
  match part.content with
  | .null => some none
  | _ => (read part).map some

def plainPart {α : Type} (layout : Layout α) (part : SchemaReading) : Option α :=
  layout.fromContent? part.content

def SchemaOrRef.refOf? (parts : Body SchemaReading) : Option SchemaOrRef :=
  if parts.isKeyed then
    match parts.slots? ["$ref", "description"] with
    | some [some path, description] =>
        match plainPart .text path,
          partValue? true (.always none) (plainPart (.optional .text)) description with
        | some path, some description => some (ref path description)
        | _, _ => none
    | _ => none
  else none

def Schema.fieldNames : List String :=
  ["type", "format", "description", "properties", "required", "additionalProperties", "items",
    "allOf", "oneOf", "enum"]

def Schema.of? (parts : Body SchemaReading) : Option Schema :=
  let isKeyed := parts.isKeyed
  match parts.slots? fieldNames with
  | some [type, format, description, properties, required, additional, items, allOf, oneOf,
      values] => do
      let type ← partValue? isKeyed (.keyed none)
        (plainPart (.optional (.word SchemaType.words))) type
      let format ← partValue? isKeyed (.keyed none) (plainPart (.optional .text)) format
      let description ← partValue? isKeyed (.keyed none) (plainPart (.optional .text)) description
      let properties ← partValue? isKeyed (.always []) SchemaReading.entries properties
      let required ← partValue? isKeyed (.always []) (plainPart (.list .text)) required
      let additionalProperties ←
        partValue? isKeyed (.keyed none) (nullable SchemaReading.schema) additional
      let items ← partValue? isKeyed (.keyed none) (nullable SchemaReading.schema) items
      let allOf ← partValue? isKeyed (.always []) SchemaReading.list allOf
      let oneOf ← partValue? isKeyed (.always none) (nullable SchemaReading.list) oneOf
      let enumValues ← partValue? isKeyed (.always none)
        (plainPart (.optional (.list .text))) values
      some
        { type, format, description, properties, required, additionalProperties, items, allOf,
          oneOf, enumValues }
  | _ => none

def SchemaOrRef.of? (parts : Body SchemaReading) : Option SchemaOrRef :=
  (refOf? parts).or ((Schema.of? parts).map inline)

def SchemaReading.entriesOf? (entries : List (Content × SchemaReading)) :
    Option (Entries SchemaOrRef) :=
  (entries.mapM fun (entry : Content × SchemaReading) =>
    match entry.1, entry.2.schema with
    | .text key, some schema => some (key, schema)
    | _, _ => none).map Entries.ofPairs

mutual
def Content.schemaReading : Content → SchemaReading
  | .list items =>
      let readings := schemaReadings items
      { content := .list items
        schema := SchemaOrRef.of? (.positional readings)
        list := readings.mapM SchemaReading.schema }
  | .map entries =>
      let readings := entrySchemaReadings entries
      { content := .map entries
        schema := SchemaOrRef.of? (.keyed readings)
        entries := SchemaReading.entriesOf? readings }
  | content => { content }

def Content.schemaReadings : List Content → List SchemaReading
  | [] => []
  | item :: rest => item.schemaReading :: schemaReadings rest

def Content.entrySchemaReadings : List (Content × Content) → List (Content × SchemaReading)
  | [] => []
  | (key, item) :: rest => (key, item.schemaReading) :: entrySchemaReadings rest
end

def SchemaOrRef.ofContent? (content : Content) : Option SchemaOrRef :=
  content.schemaReading.schema

def SchemaOrRef.layout : Layout SchemaOrRef := .whole "SchemaOrRef" ofContent?

def SecurityScheme.layout : Layout SecurityScheme :=
  .record "SecurityScheme"
    (.field "type" .required (.word [("apiKey", SecurityKind.apiKey), ("http", .http)])
      (.field "name" (.keyed none) (.optional .text)
        (.field "in" (.keyed none) (.optional (.word [("header", KeyLocation.header)]))
          (.field "scheme" (.keyed none) (.optional .text) .done))))
    fun (kind, name, location, scheme, ()) => { kind, name, location, scheme }

def Components.layout : Layout Components :=
  .record "Components"
    (.field "schemas" (.always []) (.entries SchemaOrRef.layout)
      (.field "securitySchemes" (.always []) (.entries SecurityScheme.layout) .done))
    fun (schemas, securitySchemes, ()) => { schemas, securitySchemes }

def Fragment.layout : Layout Fragment :=
  .record "OpenApiFragment"
    (.field "components" (.always {}) Components.layout
      (.field "security" (.always []) (.list (.entries (.list .text))) .done))
    fun (components, security, ()) => { components, security }

end ApiComponents
