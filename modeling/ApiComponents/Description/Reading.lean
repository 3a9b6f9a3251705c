import ApiComponents.Description.Writing
import ApiComponents.Layout

/-! # Reading descriptions

The layouts of all parts of a description. A part that says by a tag what it is, is read as
content first; when it is no known variant with the right parts, its value is kept whole.
-/

namespace ApiComponents

/-- The value that a content spells, if it is a word of the vocabulary. -/
def spelledValue? {α : Type} (words : List (String × α)) (content : Content) : Option α :=
  ((content.word? (words.map Prod.fst)).bind (words[·]?)).map Prod.snd

/-- A scalar type from content: a known one, or any other string. -/
def Primitive.ofContent? (content : Content) : Option Primitive :=
  match spelledValue? words content, content with
  | some primitive, _ => some primitive
  | none, .text name => some (unrecognized name)
  | none, _ => none

/-- A requirement from content: a known one, or any other string. -/
def AuthRequirement.ofContent? (content : Content) : Option AuthRequirement :=
  match spelledValue? words content, content with
  | some requirement, _ => some requirement
  | none, .text name => some (unrecognized name)
  | none, _ => none

def Content.payload (content : Content) : Body Content :=
  match Body.of? content with
  | some body => body.untagged
  | none => .positional []

/-! ## Names -/

def DeclaredName.fields :
    Fields (Option (List String) × Option String × Unit) (List String × String × Unit) :=
  .field "fernFilepath" (.always []) (.list .text) (.field "name" .required .text .done)

def DeclaredName.ofFields : List String × String × Unit → DeclaredName
  | (path, leaf, ()) => ⟨path, leaf⟩

def DeclaredName.layout : Layout DeclaredName :=
  .record "DeclaredTypeName" fields ofFields

/-! ## References -/

/-- What a content means as a reference and as a container. Neither is there for a value that
    must be kept whole and cannot, because it has keys that are no strings. -/
structure TypeReading where
  reference : Option TypeReference
  container : Option ContainerType

def TypeReference.known? (content : Content) (parts : Body TypeReading) : Option TypeReference :=
  match content.variant? tags with
  | some 0 =>
      match content.payload.slots? ["primitive"] with
      | some [some part] => (Primitive.ofContent? part).map primitive
      | _ => none
  | some 1 =>
      match parts.slots? ["container"] with
      | some [some part] => part.container.map container
      | _ => none
  | some 2 => (DeclaredName.fields.fromBody? content.payload).map (named ∘ DeclaredName.ofFields)
  | some 3 => if content.payload.isBare then some unknown else none
  | some 4 => if content.payload.isBare then some void else none
  | _ => none

def ContainerType.known? (content : Content) (parts : Body TypeReading) : Option ContainerType :=
  match content.variant? tags with
  | some 0 =>
      match parts.slots? ["list"] with
      | some [some part] => part.reference.map list
      | _ => none
  | some 1 =>
      match parts.slots? ["set"] with
      | some [some part] => part.reference.map set
      | _ => none
  | some 2 =>
      match parts.slots? ["keyType", "valueType"] with
      | some [some key, some value] =>
          match key.reference, value.reference with
          | some key, some value => some (map key value)
          | _, _ => none
      | _ => none
  | some 3 =>
      match parts.slots? ["optional"] with
      | some [some part] => part.reference.map optional
      | _ => none
  | _ => none

def TypeReading.of (content : Content) (parts : Body TypeReading) : TypeReading where
  reference := (TypeReference.known? content parts).or (content.json?.map .unrecognized)
  container := (ContainerType.known? content parts).or (content.json?.map .unrecognized)

mutual
def Content.typeReading : Content → TypeReading
  | .list items => .of (.list items) (Body.positional (typeReadings items)).untagged
  | .map entries => .of (.map entries) (Body.keyed (entryReadings entries)).untagged
  | content => .of content (.positional [])

def Content.typeReadings : List Content → List TypeReading
  | [] => []
  | item :: rest => item.typeReading :: typeReadings rest

def Content.entryReadings : List (Content × Content) → List (Content × TypeReading)
  | [] => []
  | (key, item) :: rest => (key, item.typeReading) :: entryReadings rest
end

def TypeReference.ofContent? (content : Content) : Option TypeReference :=
  content.typeReading.reference

def ContainerType.ofContent? (content : Content) : Option ContainerType :=
  content.typeReading.container

def TypeReference.layout : Layout TypeReference := .whole "TypeReference" ofContent?

/-! ## Shapes and declarations -/

def docsLayout : Layout (Option String) := .optional .text

def EnumValue.fields :
    Fields (Option String × Option (Option String) × Unit) (String × Option String × Unit) :=
  .field "value" .required .text (.field "docs" (.always none) docsLayout .done)

def EnumValue.layout : Layout EnumValue :=
  .record "EnumValue" fields fun (value, docs, ()) => ⟨value, docs⟩

def Property.layout : Layout Property :=
  .record "ObjectProperty"
    (.field "key" .required .text
      (.field "valueType" .required TypeReference.layout
        (.field "docs" (.always none) docsLayout .done)))
    fun (key, type, docs, ()) => ⟨key, type, docs⟩

def UnionVariant.layout : Layout UnionVariant :=
  .record "SingleUnionType"
    (.field "discriminantValue" .required .text
      (.field "valueType" .required TypeReference.layout
        (.field "docs" (.always none) docsLayout .done)))
    fun (tag, type, docs, ()) => ⟨tag, type, docs⟩

namespace TypeShape

def aliasFields : Fields (Option TypeReference × Unit) (TypeReference × Unit) :=
  .field "aliasOf" .required TypeReference.layout .done

def enumerationFields : Fields (Option (List EnumValue) × Unit) (List EnumValue × Unit) :=
  .field "values" (.always []) (.list EnumValue.layout) .done

def objectFields :
    Fields (Option (List DeclaredName) × Option (List Property) × Unit)
      (List DeclaredName × List Property × Unit) :=
  .field "extends" (.always []) (.list DeclaredName.layout)
    (.field "properties" (.always []) (.list Property.layout) .done)

def unionFields :
    Fields (Option String × Option (List UnionVariant) × Unit)
      (String × List UnionVariant × Unit) :=
  .field "discriminant" .required .text
    (.field "types" (.always []) (.list UnionVariant.layout) .done)

def known? (content : Content) : Option TypeShape :=
  match content.variant? tags with
  | some 0 => (aliasFields.fromBody? content.payload).map fun (target, ()) => aliasOf target
  | some 1 =>
      (enumerationFields.fromBody? content.payload).map fun (values, ()) => enumeration values
  | some 2 =>
      (objectFields.fromBody? content.payload).map fun (parents, properties, ()) =>
        object parents properties
  | some 3 =>
      (unionFields.fromBody? content.payload).map fun (discriminant, variants, ()) =>
        union discriminant variants
  | _ => none

def ofContent? (content : Content) : Option TypeShape :=
  (known? content).or (content.json?.map unrecognized)

def layout : Layout TypeShape := .whole "TypeShape" ofContent?

end TypeShape

def Declaration.layout : Layout Declaration :=
  .record "TypeDeclaration"
    (.field "name" .required DeclaredName.layout
      (.field "docs" (.always none) docsLayout
        (.field "shape" .required TypeShape.layout .done)))
    fun (name, docs, shape, ()) => ⟨name, docs, shape⟩

/-! ## Authentication -/

namespace AuthScheme

def headerFields : Fields (Option String × Option String × Unit) (String × String × Unit) :=
  .field "header" .required .text (.field "name" .required .text .done)

def known? (content : Content) : Option AuthScheme :=
  match content.variant? tags with
  | some 0 => if content.payload.isBare then some bearer else none
  | some 1 => if content.payload.isBare then some basic else none
  | some 2 =>
      (headerFields.fromBody? content.payload).map fun (wire, name, ()) => header wire name
  | _ => none

def ofContent? (content : Content) : Option AuthScheme :=
  (known? content).or (content.json?.map unrecognized)

def layout : Layout AuthScheme := .whole "AuthScheme" ofContent?

end AuthScheme

def AuthRequirement.layout : Layout AuthRequirement := .whole "AuthRequirement" ofContent?

def Auth.layout : Layout Auth :=
  .record "ApiAuth"
    (.field "requirement" (.always .all) AuthRequirement.layout
      (.field "schemes" (.always []) (.list AuthScheme.layout) .done))
    fun (requirement, schemes, ()) => ⟨requirement, schemes⟩

/-! ## Whole descriptions -/

def ApiDescription.layout : Layout ApiDescription :=
  .record "IrDocument"
    (.field "types" (.always []) (.list Declaration.layout)
      (.field "auth" (.always .none) Auth.layout .done))
    fun (types, auth, ()) => ⟨types, auth⟩

end ApiComponents
