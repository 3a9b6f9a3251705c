import ApiComponents.Description.Types

/-! # Descriptions as JSON

Every part of a description as a JSON value. Lists are written even when empty; missing
documentation is left out.
-/

namespace ApiComponents

open Json (object text list)

def docsMember : Option String → List (String × Json)
  | some docs => [("docs", text docs)]
  | none => []

def DeclaredName.members (name : DeclaredName) : List (String × Json) :=
  [("fernFilepath", list (name.path.map text)), ("name", text name.leaf)]

def DeclaredName.toJson (name : DeclaredName) : Json := object name.members

def Primitive.words : List (String × Primitive) :=
  [("INTEGER", .integer), ("DOUBLE", .double), ("STRING", .text), ("BOOLEAN", .boolean),
    ("LONG", .long), ("DATE_TIME", .dateTime), ("UUID", .uuid)]

def Primitive.word : Primitive → String
  | .integer => "INTEGER"
  | .double => "DOUBLE"
  | .text => "STRING"
  | .boolean => "BOOLEAN"
  | .long => "LONG"
  | .dateTime => "DATE_TIME"
  | .uuid => "UUID"
  | .unrecognized name => name

def taggedObject (tag : String) (members : List (String × Json)) : Json :=
  object (("_type", text tag) :: members)

mutual
def TypeReference.toJson : TypeReference → Json
  | .primitive primitive => taggedObject "primitive" [("primitive", text primitive.word)]
  | .container container => taggedObject "container" [("container", container.toJson)]
  | .named name => taggedObject "named" name.members
  | .unknown => taggedObject "unknown" []
  | .void => taggedObject "void" []
  | .unrecognized value => value

def ContainerType.toJson : ContainerType → Json
  | .list element => taggedObject "list" [("list", element.toJson)]
  | .set element => taggedObject "set" [("set", element.toJson)]
  | .map key value =>
      taggedObject "map" [("keyType", key.toJson), ("valueType", value.toJson)]
  | .optional content => taggedObject "optional" [("optional", content.toJson)]
  | .unrecognized value => value
end

def EnumValue.toJson (value : EnumValue) : Json :=
  object (("value", text value.value) :: docsMember value.docs)

def Property.toJson (property : Property) : Json :=
  object
    (("key", text property.key) :: ("valueType", property.type.toJson) ::
      docsMember property.docs)

def UnionVariant.toJson (variant : UnionVariant) : Json :=
  object
    (("discriminantValue", text variant.tag) :: ("valueType", variant.type.toJson) ::
      docsMember variant.docs)

def TypeShape.toJson : TypeShape → Json
  | .aliasOf target => taggedObject "alias" [("aliasOf", target.toJson)]
  | .enumeration values => taggedObject "enum" [("values", list (values.map EnumValue.toJson))]
  | .object parents properties =>
      taggedObject "object"
        [("extends", list (parents.map DeclaredName.toJson)),
          ("properties", list (properties.map Property.toJson))]
  | .union discriminant variants =>
      taggedObject "union"
        [("discriminant", text discriminant),
          ("types", list (variants.map UnionVariant.toJson))]
  | .unrecognized value => value

def Declaration.toJson (declaration : Declaration) : Json :=
  object
    (("name", declaration.name.toJson) ::
      (docsMember declaration.docs ++ [("shape", declaration.shape.toJson)]))

def AuthRequirement.words : List (String × AuthRequirement) := [("ALL", .all), ("ANY", .any)]

def AuthRequirement.word : AuthRequirement → String
  | .all => "ALL"
  | .any => "ANY"
  | .unrecognized name => name

def AuthScheme.toJson : AuthScheme → Json
  | .bearer => taggedObject "bearer" []
  | .basic => taggedObject "basic" []
  | .header wire name => taggedObject "header" [("header", text wire), ("name", text name)]
  | .unrecognized value => value

def Auth.toJson (auth : Auth) : Json :=
  object
    [("requirement", text auth.requirement.word),
      ("schemes", list (auth.schemes.map AuthScheme.toJson))]

def ApiDescription.toJson (description : ApiDescription) : Json :=
  object
    [("types", list (description.types.map Declaration.toJson)),
      ("auth", description.auth.toJson)]

end ApiComponents
