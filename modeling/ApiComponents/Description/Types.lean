import ApiComponents.Json.Value

/-! # API descriptions

A description lists the declared types of an API and its authentication. Whatever the library
does not know is kept as the JSON value that stood there, so that it can be reported and written
back.
-/

namespace ApiComponents

/-! ## Declared names

A type is declared under a path of namespaces and a leaf.
-/

structure DeclaredName where
  path : List String
  leaf : String
  deriving Repr, DecidableEq

namespace DeclaredName

/-- The name as messages show it: path and leaf, separated by dots. -/
def display (name : DeclaredName) : String :=
  String.join (name.path.map (· ++ ".")) ++ name.leaf

end DeclaredName

/-! ## Declared types -/

inductive Primitive where
  | integer
  | double
  | text
  | boolean
  | long
  | dateTime
  | uuid
  /-- A scalar type the library does not know. -/
  | unrecognized (name : String)
  deriving Repr, DecidableEq

mutual
inductive TypeReference where
  | primitive (primitive : Primitive)
  | container (container : ContainerType)
  | named (name : DeclaredName)
  | unknown
  | void
  /-- A kind of reference the library does not know, or one with faulty parts. -/
  | unrecognized (value : Json)

inductive ContainerType where
  | list (element : TypeReference)
  | set (element : TypeReference)
  | map (key value : TypeReference)
  | optional (content : TypeReference)
  /-- A kind of container the library does not know, or one with faulty parts. -/
  | unrecognized (value : Json)
end

structure EnumValue where
  value : String
  docs : Option String
  deriving Repr, DecidableEq

structure Property where
  key : String
  type : TypeReference
  docs : Option String

structure UnionVariant where
  /-- The value of the discriminant that selects the variant. -/
  tag : String
  type : TypeReference
  docs : Option String

inductive TypeShape where
  | aliasOf (target : TypeReference)
  | enumeration (values : List EnumValue)
  | object (parents : List DeclaredName) (properties : List Property)
  /-- A choice of variants, told apart by a discriminant. -/
  | union (discriminant : String) (variants : List UnionVariant)
  /-- A shape the library does not know, or one with faulty parts. -/
  | unrecognized (value : Json)

structure Declaration where
  name : DeclaredName
  docs : Option String
  shape : TypeShape

namespace TypeReference

def tags : List String := ["primitive", "container", "named", "unknown", "void"]

def list (element : TypeReference) : TypeReference := container (.list element)

def set (element : TypeReference) : TypeReference := container (.set element)

def map (key value : TypeReference) : TypeReference := container (.map key value)

def optional (content : TypeReference) : TypeReference := container (.optional content)

/-- Whether the outermost layer of a type says that its value may be missing. -/
def isOptional : TypeReference → Bool
  | container (.optional _) => true
  | _ => false

end TypeReference

def ContainerType.tags : List String := ["list", "set", "map", "optional"]

namespace TypeShape

def tags : List String := ["alias", "enum", "object", "union"]

/-- The word for a shape, which is its tag if it is known. -/
def kind : TypeShape → String
  | aliasOf _ => "alias"
  | enumeration _ => "enum"
  | object _ _ => "object"
  | union _ _ => "union"
  | unrecognized _ => "unrecognized"

end TypeShape

mutual
def TypeReference.same : TypeReference → TypeReference → Bool
  | .primitive x, .primitive y => x == y
  | .container x, .container y => x.same y
  | .named x, .named y => x == y
  | .unknown, .unknown => true
  | .void, .void => true
  | .unrecognized x, .unrecognized y => x.same y
  | _, _ => false

def ContainerType.same : ContainerType → ContainerType → Bool
  | .list x, .list y => x.same y
  | .set x, .set y => x.same y
  | .map x y, .map u v => x.same u && y.same v
  | .optional x, .optional y => x.same y
  | .unrecognized x, .unrecognized y => x.same y
  | _, _ => false
end

/-! ## Authentication

How callers of an API prove who they are: a list of schemes and how they combine.
-/

inductive AuthRequirement where
  | all
  | any
  /-- A way the library does not know. -/
  | unrecognized (name : String)
  deriving Repr, DecidableEq

inductive AuthScheme where
  | bearer
  | basic
  /-- A key in a request header: the header on the wire and the name of the scheme. -/
  | header (wire name : String)
  /-- A scheme the library does not know, or one with faulty parts. -/
  | unrecognized (value : Json)

structure Auth where
  requirement : AuthRequirement
  schemes : List AuthScheme

def AuthScheme.tags : List String := ["bearer", "basic", "header"]

def Auth.none : Auth := ⟨.all, []⟩

/-! ## Descriptions -/

structure ApiDescription where
  types : List Declaration
  auth : Auth

def ApiDescription.empty : ApiDescription := ⟨[], .none⟩

end ApiComponents
