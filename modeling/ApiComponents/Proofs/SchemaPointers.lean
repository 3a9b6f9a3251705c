import ApiComponents.Proofs.DeclarationRuns
import ApiComponents.Proofs.JsonPointers
import ApiComponents.Proofs.SchemaNames

/-! # Pointers lead somewhere

`pointers` collects the pointers of a schema at every depth, `mentions` the declared types that a
description refers to. A conversion brings in no pointer but those of the mentioned types. Where
every mentioned type is declared, each pointer of a fragment therefore leads to a schema of it.
-/

namespace ApiComponents

mutual
/-- The declared types that a reference mentions. Key types of maps do not count. -/
def TypeReference.mentions : TypeReference → List DeclaredName
  | .named name => [name]
  | .container container => container.mentions
  | .primitive _ | .unknown | .void | .unrecognized _ => []

def ContainerType.mentions : ContainerType → List DeclaredName
  | .list element | .set element => element.mentions
  | .map _ value => value.mentions
  | .optional content => content.mentions
  | .unrecognized _ => []
end

/-- The declared types that a shape mentions, its parents included. -/
def TypeShape.mentions : TypeShape → List DeclaredName
  | .aliasOf target => target.mentions
  | .object parents properties =>
      parents ++ properties.flatMap fun property => property.type.mentions
  | .union _ variants => variants.flatMap fun variant => variant.type.mentions
  | .enumeration _ | .unrecognized _ => []

def ApiDescription.mentions (description : ApiDescription) : List DeclaredName :=
  description.types.flatMap fun declaration => declaration.shape.mentions

mutual
/-- All pointers of a schema, at every depth. -/
def SchemaOrRef.pointers : SchemaOrRef → List String
  | .ref path _ => [path]
  | .inline schema => schema.pointers
termination_by structural schema => schema

def Schema.pointers : Schema → List String
  | ⟨_, _, _, properties, _, additional, items, allOf, oneOf, _⟩ =>
      Schema.entriesPointers properties ++ Schema.optionalPointers additional ++
        Schema.optionalPointers items ++ Schema.listPointers allOf ++
        (match oneOf with
          | some schemas => Schema.listPointers schemas
          | none => [])
termination_by structural schema => schema

def Schema.entriesPointers : List (String × SchemaOrRef) → List String
  | [] => []
  | (_, schema) :: rest => schema.pointers ++ Schema.entriesPointers rest
termination_by structural entries => entries

def Schema.optionalPointers : Option SchemaOrRef → List String
  | some schema => schema.pointers
  | none => []
termination_by structural schema => schema

def Schema.listPointers : List SchemaOrRef → List String
  | [] => []
  | schema :: rest => schema.pointers ++ Schema.listPointers rest
termination_by structural schemas => schemas
end

namespace Schema

theorem mem_entriesPointers {path : String} {entries : List (String × SchemaOrRef)} :
    path ∈ entriesPointers entries ↔ ∃ entry ∈ entries, path ∈ entry.2.pointers := by
  induction entries with
  | nil => simp [entriesPointers]
  | cons entry rest ih =>
      simp only [entriesPointers, List.mem_append, ih, List.mem_cons, exists_eq_or_imp]

theorem mem_listPointers {path : String} {schemas : List SchemaOrRef} :
    path ∈ listPointers schemas ↔ ∃ schema ∈ schemas, path ∈ schema.pointers := by
  induction schemas with
  | nil => simp [listPointers]
  | cons schema rest ih =>
      simp only [listPointers, List.mem_append, ih, List.mem_cons, exists_eq_or_imp]

end Schema

theorem SchemaOrRef.pointers_withDescription (description : Option String) (schema : SchemaOrRef) :
    (schema.withDescription description).pointers = schema.pointers := by
  cases schema with
  | ref => rfl
  | inline schema =>
      cases schema
      rfl

namespace Schema

theorem pointers_arrayOf (items : SchemaOrRef) : (arrayOf items).pointers = items.pointers := by
  simp [arrayOf, SchemaOrRef.pointers, pointers, entriesPointers, optionalPointers, listPointers]

theorem pointers_mapOf (values : SchemaOrRef) : (mapOf values).pointers = values.pointers := by
  simp [mapOf, SchemaOrRef.pointers, pointers, entriesPointers, optionalPointers, listPointers]

theorem pointers_singleProperty (key : String) (schema : SchemaOrRef) :
    (singleProperty key schema).pointers = schema.pointers := by
  simp [singleProperty, pointers, entriesPointers, optionalPointers, listPointers]

end Schema

mutual
/-- The pointers of a converted reference are those of the types that it mentions. -/
theorem TypeReference.pointers_toSchema {reference : TypeReference} {schema : SchemaOrRef}
    (converts : reference.toSchema = .ok schema) :
    schema.pointers = reference.mentions.map DeclaredName.reference := by
  cases reference with
  | primitive primitive =>
      obtain ⟨inner, made, rfl⟩ := map_eq_ok_iff.mp converts
      cases primitive <;> cases made <;> rfl
  | container container => exact ContainerType.pointers_toSchema converts
  | named | unknown | void =>
      cases converts
      rfl
  | unrecognized => cases converts

theorem ContainerType.pointers_toSchema {container : ContainerType} {schema : SchemaOrRef}
    (converts : container.toSchema = .ok schema) :
    schema.pointers = container.mentions.map DeclaredName.reference := by
  cases container with
  | list element | set element =>
      obtain ⟨inner, made, rfl⟩ := map_eq_ok_iff.mp converts
      rw [Schema.pointers_arrayOf, TypeReference.pointers_toSchema made]
      rfl
  | map key value =>
      obtain ⟨inner, made, rfl⟩ := map_eq_ok_iff.mp converts
      rw [Schema.pointers_mapOf, TypeReference.pointers_toSchema made]
      rfl
  | optional content => exact TypeReference.pointers_toSchema converts
  | unrecognized => cases converts
end

theorem Property.pointers_entry {property : Property} {pair : String × SchemaOrRef}
    (converts : property.entry = .ok pair) :
    pair.2.pointers = property.type.mentions.map DeclaredName.reference := by
  rw [Property.entry_eq] at converts
  obtain ⟨schema, made, rfl⟩ := map_eq_ok_iff.mp converts
  rw [SchemaOrRef.pointers_withDescription, TypeReference.pointers_toSchema made]

theorem UnionVariant.pointers_toSchema {variant : UnionVariant} {discriminant : String}
    {schema : SchemaOrRef} (converts : variant.toSchema discriminant = .ok schema) :
    schema.pointers = variant.type.mentions.map DeclaredName.reference := by
  by_cases named : ∃ name, variant.type = .named name
  · obtain ⟨name, named⟩ := named
    rw [toSchema_of_named named] at converts
    cases converts
    rw [named]
    simp [SchemaOrRef.pointers, Schema.pointers, Schema.entriesPointers, Schema.optionalPointers,
      Schema.listPointers, SchemaOrRef.reference, singleProperty, TypeReference.mentions]
  · rw [toSchema_of_other (not_exists.mp named)] at converts
    obtain ⟨inner, made, rfl⟩ := map_eq_ok_iff.mp converts
    rw [SchemaOrRef.pointers, Schema.pointers_singleProperty, TypeReference.pointers_toSchema made]

/-- A converted shape points to nothing but the types that it mentions. A property that is
    replaced by a later one of its key may be mentioned without being pointed to. -/
theorem TypeShape.pointers_toSchema {shape : TypeShape} {schema : SchemaOrRef}
    (converts : shape.toSchema = .ok schema) {path : String} (member : path ∈ schema.pointers) :
    ∃ name ∈ shape.mentions, path = name.reference := by
  cases shape with
  | aliasOf target =>
      rw [TypeReference.pointers_toSchema converts] at member
      obtain ⟨name, inside, rfl⟩ := List.mem_map.mp member
      exact ⟨name, inside, rfl⟩
  | enumeration values =>
      cases converts
      cases member
  | object parents properties =>
      obtain ⟨made, built, rfl⟩ := map_eq_ok_iff.mp converts
      rw [objectSchema_eq] at built
      obtain ⟨pairs, traversed, rfl⟩ := map_eq_ok_iff.mp built
      simp only [SchemaOrRef.pointers, Schema.pointers, Schema.optionalPointers,
        List.append_nil, List.mem_append, Schema.mem_entriesPointers, Schema.mem_listPointers]
        at member
      rcases member with ⟨pair, inside, below⟩ | ⟨pointer, inside, below⟩
      · obtain ⟨property, listed, converted⟩ :=
          exists_left_of_mem (mapM_eq_ok_iff.mp traversed) (Entries.mem_of_mem_ofPairs inside)
        rw [Property.pointers_entry converted] at below
        obtain ⟨name, mentioned, rfl⟩ := List.mem_map.mp below
        exact ⟨name, List.mem_append_right _ (List.mem_flatMap.mpr ⟨property, listed, mentioned⟩),
          rfl⟩
      · obtain ⟨parent, listed, rfl⟩ := List.mem_map.mp inside
        exact ⟨parent, List.mem_append_left _ listed, List.mem_singleton.mp below⟩
  | union discriminant variants =>
      rw [toSchema_union] at converts
      obtain ⟨schemas, traversed, rfl⟩ := map_eq_ok_iff.mp converts
      simp only [SchemaOrRef.pointers, Schema.pointers, Schema.entriesPointers,
        Schema.optionalPointers, List.nil_append, Schema.listPointers, Schema.mem_listPointers]
        at member
      obtain ⟨schema, inside, below⟩ := member
      obtain ⟨variant, listed, converted⟩ :=
        exists_left_of_mem (mapM_eq_ok_iff.mp traversed) inside
      rw [UnionVariant.pointers_toSchema converted] at below
      obtain ⟨name, mentioned, rfl⟩ := List.mem_map.mp below
      exact ⟨name, List.mem_flatMap.mpr ⟨variant, listed, mentioned⟩, rfl⟩
  | unrecognized => cases converts

theorem Declaration.pointers_toSchema {declaration : Declaration} {schema : SchemaOrRef}
    (converts : declaration.toSchema = .ok schema) {path : String}
    (member : path ∈ schema.pointers) :
    ∃ name ∈ declaration.shape.mentions, path = name.reference := by
  obtain ⟨inner, made, rfl⟩ := map_eq_ok_iff.mp converts
  rw [SchemaOrRef.pointers_withDescription] at member
  exact TypeShape.pointers_toSchema made member

/-- All pointers among the component schemas of a fragment, at every depth. -/
def Fragment.pointers (fragment : Fragment) : List String :=
  Schema.entriesPointers fragment.components.schemas

/-- Every type that the description mentions is declared in it. -/
def ApiDescription.MentionsDeclared (description : ApiDescription) : Prop :=
  ∀ name ∈ description.mentions, ∃ declaration ∈ description.types, declaration.name = name

section Fragments

variable {policy : CollisionPolicy} {description : ApiDescription} {fragment : Fragment}
  (built : (description.toFragment policy).2 = .ok fragment)
include built

theorem Fragment.pointers_mentioned {path : String} (member : path ∈ fragment.pointers) :
    ∃ name ∈ description.mentions, path = name.reference := by
  obtain ⟨pairs, _, _, converted, _, _, _, rfl⟩ := toFragment_eq_ok_iff.mp built
  obtain ⟨pair, inside, below⟩ := Schema.mem_entriesPointers.mp member
  obtain ⟨declaration, listed, -, converts⟩ :=
    exists_left_of_mem converted (Entries.mem_of_mem_ofPairs inside)
  obtain ⟨name, mentioned, same⟩ := declaration.pointers_toSchema converts below
  exact ⟨name, List.mem_flatMap.mpr ⟨declaration, listed, mentioned⟩, same⟩

theorem Fragment.distinct_schemas : fragment.components.schemas.Distinct := by
  obtain ⟨pairs, _, _, _, _, _, _, rfl⟩ := toFragment_eq_ok_iff.mp built
  exact Entries.distinct_ofPairs pairs

/-- The schema of a declared type has its place among the component schemas. -/
theorem Fragment.lookup_schemaName {declaration : Declaration}
    (listed : declaration ∈ description.types) :
    ∃ schema, fragment.components.schemas.lookup declaration.schemaName = some schema := by
  obtain ⟨pairs, _, _, converted, _, _, _, rfl⟩ := toFragment_eq_ok_iff.mp built
  have known : declaration.schemaName ∈ (Entries.ofPairs pairs).keys := by
    rw [Entries.mem_keys_ofPairs, converted.names]
    exact mem_schemaNames.mpr ⟨declaration, listed, rfl⟩
  cases found : (Entries.ofPairs pairs).lookup declaration.schemaName with
  | none => exact absurd known (Entries.lookup_eq_none_iff.mp found)
  | some schema => exact ⟨schema, rfl⟩

end Fragments

theorem DeclaredName.no_slash (name : DeclaredName) : '/' ∉ name.schemaName.toList :=
  fun member => (name.unpunctuated_schemaName _ member).ne_slash rfl

theorem DeclaredName.no_tilde (name : DeclaredName) : '~' ∉ name.schemaName.toList :=
  fun member => (name.unpunctuated_schemaName _ member).ne_tilde rfl

/-- No pointer dangles: where every mentioned type is declared, each pointer at any depth of the
    component schemas is the root of component schemas followed by the key of one of them, needs
    no escapes, and leads to that very schema in the written fragment. -/
theorem Fragment.pointers_lead_to_schemas {policy : CollisionPolicy} {description : ApiDescription}
    {fragment : Fragment} (built : (description.toFragment policy).2 = .ok fragment)
    (declared : description.MentionsDeclared) {path : String} (member : path ∈ fragment.pointers) :
    ∃ key schema, path = DeclaredName.schemaRoot ++ key ∧ key ∈ fragment.components.schemas.keys ∧
      '/' ∉ key.toList ∧ '~' ∉ key.toList ∧
      fragment.components.schemas.Distinct ∧
      fragment.components.schemas.lookup key = some schema ∧
      fragment.toJson.follow? path = some schema.toJson := by
  obtain ⟨name, mentioned, rfl⟩ := Fragment.pointers_mentioned built member
  obtain ⟨declaration, listed, rfl⟩ := declared name mentioned
  obtain ⟨schema, found⟩ := Fragment.lookup_schemaName built listed
  have known : declaration.schemaName ∈ fragment.components.schemas.keys :=
    List.mem_map_of_mem (Entries.mem_of_lookup found)
  exact ⟨declaration.schemaName, schema, rfl, known, declaration.name.no_slash,
    declaration.name.no_tilde, Fragment.distinct_schemas built, found,
    Fragment.follow?_schemaRoot declaration.name.no_slash declaration.name.no_tilde found⟩

/-- Nodes that hold lists of nodes and extend a type of another namespace. -/
def treeDescription : ApiDescription where
  types :=
    [{ name := ⟨[], "node"⟩
       docs := none
       shape := .object [⟨["shared"], "base"⟩]
         [⟨"children", .list (.named ⟨[], "node"⟩), none⟩] },
     { name := ⟨["shared"], "base"⟩, docs := none, shape := .enumeration [] }]
  auth := .none

def treeFragment : Fragment where
  components :=
    { schemas :=
        [("Node", .inline
            { type := some .object
              properties := [("children", .inline
                { type := some .array, items := some (.reference "#/components/schemas/Node") })]
              required := ["children"]
              allOf := [.reference "#/components/schemas/SharedBase"] }),
          ("SharedBase", .inline { type := some .string, enumValues := some [] })]
      securitySchemes := [] }
  security := []

theorem Fragment.tree_pointers_lead_to_schemas :
    (treeDescription.toFragment .error).2 = .ok treeFragment ∧
      treeDescription.MentionsDeclared ∧
      "#/components/schemas/SharedBase" ∈ treeFragment.pointers ∧
      ∃ key schema, "#/components/schemas/SharedBase" = DeclaredName.schemaRoot ++ key ∧
        key ∈ treeFragment.components.schemas.keys ∧ '/' ∉ key.toList ∧ '~' ∉ key.toList ∧
        treeFragment.components.schemas.Distinct ∧
        treeFragment.components.schemas.lookup key = some schema ∧
        treeFragment.toJson.follow? "#/components/schemas/SharedBase" = some schema.toJson := by
  have built : (treeDescription.toFragment .error).2 = .ok treeFragment := rfl
  have declared : treeDescription.MentionsDeclared := by
    unfold ApiDescription.MentionsDeclared
    decide
  have member : "#/components/schemas/SharedBase" ∈ treeFragment.pointers := by decide
  exact ⟨built, declared, member, Fragment.pointers_lead_to_schemas built declared member⟩

end ApiComponents
