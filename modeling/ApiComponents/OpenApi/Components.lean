import ApiComponents.Entries

/-! # Schemas and components

What a description is converted into: the component schemas, in the part of the OpenAPI schema
language that is needed for them, the security schemes and the security requirements of an OpenAPI
document.
-/

namespace ApiComponents

/-! ## Schemas -/

/-- The value of the keyword `type`. -/
inductive SchemaType where
  | string
  | number
  | integer
  | boolean
  | array
  | object
  deriving Repr, DecidableEq

mutual
/-- A schema, by reference or written out. -/
inductive SchemaOrRef where
  /-- A pointer to a schema, with a description of its own. -/
  | ref (path : String) (description : Option String)
  | inline (schema : Schema)

/-- A schema object. Keywords that are not there do not restrict anything. -/
structure Schema where
  type : Option SchemaType := none
  format : Option String := none
  description : Option String := none
  properties : List (String × SchemaOrRef) := []
  /-- The properties that must be there. -/
  required : List String := []
  additionalProperties : Option SchemaOrRef := none
  items : Option SchemaOrRef := none
  allOf : List SchemaOrRef := []
  /-- Schemas of which exactly one must hold; an empty list holds for nothing. -/
  oneOf : Option (List SchemaOrRef) := none
  enumValues : Option (List String) := none
end

namespace Schema

def typed (type : SchemaType) : Schema := { type := some type }

def formatted (type : SchemaType) (format : String) : Schema :=
  { type := some type, format := some format }

end Schema

namespace SchemaOrRef

def reference (path : String) : SchemaOrRef := ref path none

def withDescription (description : Option String) : SchemaOrRef → SchemaOrRef
  | ref path _ => ref path description
  | inline schema => inline { schema with description }

def refPath? : SchemaOrRef → Option String
  | ref path _ => some path
  | inline _ => none

def schema? : SchemaOrRef → Option Schema
  | ref _ _ => none
  | inline schema => some schema

end SchemaOrRef

mutual
def SchemaOrRef.same : SchemaOrRef → SchemaOrRef → Bool
  | .ref path description, .ref path' description' =>
      path == path' && description == description'
  | .inline schema, .inline schema' => schema.same schema'
  | _, _ => false
termination_by structural schema => schema

/-- Equality of schema objects; the order of properties counts for nothing. -/
def Schema.same : Schema → Schema → Bool
  | ⟨type, format, description, properties, required, additional, items, allOf, oneOf, values⟩,
    other =>
      type == other.type && format == other.format && description == other.description &&
      properties.length == other.properties.length &&
      Schema.sameEntries properties other.properties && required == other.required &&
      Schema.sameOptional additional other.additionalProperties &&
      Schema.sameOptional items other.items && Schema.sameList allOf other.allOf &&
      (match oneOf, other.oneOf with
        | none, none => true
        | some xs, some ys => Schema.sameList xs ys
        | _, _ => false) &&
      values == other.enumValues
termination_by structural schema => schema

/-- Whether all entries stand in the other map with the same schema. -/
def Schema.sameEntries : List (String × SchemaOrRef) → Entries SchemaOrRef → Bool
  | [], _ => true
  | (key, schema) :: rest, others =>
      (match others.lookup key with
        | some other => schema.same other
        | none => false) && Schema.sameEntries rest others
termination_by structural entries => entries

def Schema.sameOptional : Option SchemaOrRef → Option SchemaOrRef → Bool
  | none, none => true
  | some x, some y => x.same y
  | _, _ => false
termination_by structural schema => schema

def Schema.sameList : List SchemaOrRef → List SchemaOrRef → Bool
  | [], [] => true
  | x :: xs, y :: ys => x.same y && Schema.sameList xs ys
  | _, _ => false
termination_by structural schemas => schemas
end

/-! ## Components and security -/

inductive SecurityKind where
  | apiKey
  | http
  deriving Repr, DecidableEq

inductive KeyLocation where
  | header
  deriving Repr, DecidableEq

structure SecurityScheme where
  kind : SecurityKind
  /-- The name of the header that holds the key. -/
  name : Option String := none
  location : Option KeyLocation := none
  scheme : Option String := none
  deriving Repr, DecidableEq

namespace SecurityScheme

def httpScheme (scheme : String) : SecurityScheme := { kind := .http, scheme := some scheme }

def headerKey (header : String) : SecurityScheme :=
  { kind := .apiKey, name := some header, location := some .header }

end SecurityScheme

/-- Names of security schemes that must all be satisfied, each with its scopes. -/
abbrev SecurityRequirement := Entries (List String)

structure Components where
  schemas : Entries SchemaOrRef := []
  securitySchemes : Entries SecurityScheme := []

/-- The parts of an OpenAPI document that come from one description. -/
structure Fragment where
  components : Components := {}
  /-- The security requirements, one of which must be met. -/
  security : List SecurityRequirement := []

end ApiComponents
