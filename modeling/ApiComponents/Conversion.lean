import ApiComponents.Description.Types
import ApiComponents.Json.Value
import ApiComponents.Naming
import ApiComponents.OpenApi.Components

/-! # From descriptions to OpenAPI

Every declared type becomes one schema. A use of a declared type becomes a pointer and is never
followed, so types may refer to each other in circles. Every authentication scheme becomes a
security scheme under a name of its own; the requirements name all schemes together, or each
scheme alone.
-/

namespace ApiComponents

/-! ## Failures

A description holds something that has no counterpart in OpenAPI. A part with a known tag is
malformed; any other part that was kept whole is unrecognized.
-/

/-- The kinds of parts that a tag tells apart. -/
inductive TaggedPart where
  | shape
  | reference
  | container
  | scheme
  deriving Repr, DecidableEq

def TaggedPart.title : TaggedPart → String
  | shape => "type shape"
  | reference => "type reference"
  | container => "container type"
  | scheme => "auth scheme"

/-- Why a part of a description cannot be converted. -/
inductive ConversionError where
  | unrecognized (part : TaggedPart) (label : String)
  | unrecognizedPrimitive (name : String)
  | unrecognizedRequirement (name : String)
  /-- A part with a known tag and the wrong fields. -/
  | malformed (part : TaggedPart) (tag : String)
  deriving Repr, DecidableEq

namespace ConversionError

def message : ConversionError → String
  | unrecognized part label => "unrecognized " ++ part.title ++ ": " ++ label
  | unrecognizedPrimitive name => "unrecognized primitive type: " ++ name
  | unrecognizedRequirement name => "unrecognized auth requirement: " ++ name
  | malformed part tag =>
      "malformed " ++ part.title ++ " `" ++ tag ++
        "`: payload does not match the expected fields"

/-- What a value that was kept whole is called: its tag if that is a string, else its text. -/
def label (value : Json) : String :=
  match (value.member? "_type").bind Json.text? with
  | some tag => tag
  | none => value.compact

/-- The failure of a part that was kept whole, given the tags known for its kind. -/
def ofValue (part : TaggedPart) (tags : List String) (value : Json) : ConversionError :=
  if label value ∈ tags then malformed part (label value)
  else unrecognized part (label value)

end ConversionError

/-! ## The log

What the library reports about its work, entry by entry.
-/

inductive LogEntry where
  /-- A declared type of some kind has become a schema. -/
  | converted (kind declared schema : String)
  /-- A schema takes the place of an earlier one of the same name. -/
  | replaced (schema new previous : String)
  | schemeDefined (name : String)
  /-- A security scheme takes the place of an earlier one of the same name. -/
  | schemeRepeated (name : String)
  deriving Repr, DecidableEq

abbrev Log := List LogEntry

def LogEntry.line : LogEntry → String
  | converted kind declared schema =>
      "DEBUG converted " ++ kind ++ " `" ++ declared ++ "` → " ++ schema
  | replaced schema new previous =>
      "WARN schema `" ++ schema ++ "` from `" ++ new ++ "` replaces the one from `" ++
        previous ++ "`"
  | schemeDefined name => "DEBUG security scheme " ++ name
  | schemeRepeated name =>
      "WARN security scheme `" ++ name ++ "` declared more than once; keeping the last"

/-! ## From declared types to schemas -/

def Primitive.toSchema : Primitive → Except ConversionError Schema
  | boolean => .ok (.typed .boolean)
  | text => .ok (.typed .string)
  | dateTime => .ok (.formatted .string "date-time")
  | double => .ok (.formatted .number "double")
  | integer => .ok (.typed .integer)
  | long => .ok (.formatted .integer "int64")
  | uuid => .ok (.formatted .string "uuid")
  | unrecognized name => .error (.unrecognizedPrimitive name)

def Schema.arrayOf (items : SchemaOrRef) : SchemaOrRef :=
  .inline { type := some .array, items := some items }

/-- The schema of an object that maps any name to a given schema. -/
def Schema.mapOf (values : SchemaOrRef) : SchemaOrRef :=
  .inline { type := some .object, additionalProperties := some values }

mutual
def TypeReference.toSchema : TypeReference → Except ConversionError SchemaOrRef
  | .primitive primitive => primitive.toSchema.map .inline
  | .container container => container.toSchema
  | .named name => .ok (.reference name.reference)
  | .unknown | .void => .ok (.inline {})
  | .unrecognized value => .error (.ofValue .reference TypeReference.tags value)

/-- The schema of a container: lists and sets are arrays, the key type of a map is left aside, and
    an optional value has the schema of the value. -/
def ContainerType.toSchema : ContainerType → Except ConversionError SchemaOrRef
  | .list element | .set element => element.toSchema.map Schema.arrayOf
  | .map _ value => value.toSchema.map Schema.mapOf
  | .optional content => content.toSchema
  | .unrecognized value => .error (.ofValue .container ContainerType.tags value)
end

def enumerationSchema (values : List EnumValue) : Schema :=
  { type := some .string, enumValues := some (values.map EnumValue.value) }

def Property.toSchema (property : Property) : Except ConversionError SchemaOrRef :=
  property.type.toSchema.map (·.withDescription property.docs)

/-- The keys of the properties that must be there: all whose type is not optional. -/
def requiredKeys (properties : List Property) : List String :=
  (properties.filter fun property => !property.type.isOptional).map Property.key

/-- The schema of an object: pointers to the parents and schemas of its own properties. -/
def objectSchema (parents : List DeclaredName) (properties : List Property) :
    Except ConversionError Schema := do
  let pairs ← properties.mapM fun property => do
    let schema ← property.toSchema
    .ok (property.key, schema)
  .ok
    { type := some .object
      properties := Entries.ofPairs pairs
      required := requiredKeys properties
      allOf := parents.map fun parent => .reference parent.reference }

def singleProperty (key : String) (schema : SchemaOrRef) : Schema :=
  { type := some .object, properties := [(key, schema)] }

/-- The schema of a union variant. A variant of a declared type joins that type with an object
    that holds the tag; any other stands under the discriminant itself. -/
def UnionVariant.toSchema (discriminant : String) (variant : UnionVariant) :
    Except ConversionError SchemaOrRef :=
  match variant.type with
  | .named name =>
      let tag : Schema := { type := some .string, enumValues := some [variant.tag] }
      let tagged := singleProperty discriminant (.inline tag)
      .ok (.inline
        { type := some .object, allOf := [.reference name.reference, .inline tagged] })
  | other => do
      let schema ← other.toSchema
      .ok (.inline (singleProperty discriminant schema))

def TypeShape.toSchema : TypeShape → Except ConversionError SchemaOrRef
  | aliasOf target => target.toSchema
  | enumeration values => .ok (.inline (enumerationSchema values))
  | object parents properties => (objectSchema parents properties).map .inline
  | union discriminant variants => do
      let schemas ← variants.mapM (UnionVariant.toSchema discriminant)
      .ok (.inline { oneOf := some schemas })
  | unrecognized value => .error (.ofValue .shape tags value)

def Declaration.toSchema (declaration : Declaration) : Except ConversionError SchemaOrRef :=
  declaration.shape.toSchema.map (·.withDescription declaration.docs)

/-- The name under which the schema of a declared type is kept. -/
def Declaration.schemaName (declaration : Declaration) : String :=
  declaration.name.schemaName

/-! ## From authentication to security -/

namespace AuthScheme

/-- The name that a scheme is kept under. -/
def schemeName : AuthScheme → Except ConversionError String
  | bearer => .ok "BearerAuth"
  | basic => .ok "BasicAuth"
  | header _ name =>
      .ok (String.ofList (Naming.upperCamel (Naming.words name.toList)) ++ "Auth")
  | unrecognized value => .error (.ofValue .scheme tags value)

def toSecurityScheme : AuthScheme → Except ConversionError SecurityScheme
  | bearer => .ok (.httpScheme "bearer")
  | basic => .ok (.httpScheme "basic")
  | header wire _ => .ok (.headerKey wire)
  | unrecognized value => .error (.ofValue .scheme tags value)

end AuthScheme

/-- Define schemes one after the other, on top of those already defined. -/
def defineSchemes (defined : Entries SecurityScheme) :
    List AuthScheme → Log × Except ConversionError (Entries SecurityScheme)
  | [] => ([], .ok defined)
  | scheme :: rest =>
      match scheme.schemeName, scheme.toSecurityScheme with
      | .error failure, _ | _, .error failure => ([], .error failure)
      | .ok name, .ok definition =>
          let repeated : Log := if name ∈ defined.keys then [.schemeRepeated name] else []
          let (log, result) := defineSchemes (defined.insert name definition) rest
          (.schemeDefined name :: (repeated ++ log), result)

namespace Auth

/-- The security schemes in the order of their first names; the last of several with one name
    is kept. -/
def securitySchemes (auth : Auth) : Log × Except ConversionError (Entries SecurityScheme) :=
  defineSchemes [] auth.schemes

/-- The security requirements: one that names every scheme, or one for each scheme. -/
def securityRequirements (auth : Auth) : Except ConversionError (List SecurityRequirement) :=
  match auth.requirement with
  | .all => do
      let names ← auth.schemes.mapM AuthScheme.schemeName
      .ok [Entries.ofPairs (names.map fun name => (name, []))]
  | .any => do
      let names ← auth.schemes.mapM AuthScheme.schemeName
      .ok (names.map fun name => [(name, [])])
  | .unrecognized name => .error (.unrecognizedRequirement name)

end Auth

end ApiComponents
