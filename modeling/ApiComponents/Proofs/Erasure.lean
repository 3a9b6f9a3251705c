import ApiComponents.Proofs.DeclarationRuns
import ApiComponents.Proofs.Entries

/-! # What a conversion forgets

The erasure of a declaration drops what its schema does not show: optional wrappers inside types,
whether an array is a set, the key types of maps, and all of a declared name but its schema name.
Nothing else is lost. An erased declaration and its schema determine each other, so two
declarations have the same schema exactly if they have the same docs and the same erasure.
-/

namespace ApiComponents

/-- What is left of a type. -/
inductive ErasedType where
  | primitive (primitive : Primitive)
  /-- A list or a set. -/
  | list (element : ErasedType)
  | map (value : ErasedType)
  | named (schemaName : String)
  /-- An unknown value, or none at all. -/
  | anything
  | unrecognized (part : TaggedPart) (value : Json)

mutual
def TypeReference.erased : TypeReference → ErasedType
  | .primitive primitive => .primitive primitive
  | .container container => container.erased
  | .named name => .named name.schemaName
  | .unknown | .void => .anything
  | .unrecognized value => .unrecognized .reference value

def ContainerType.erased : ContainerType → ErasedType
  | .list element | .set element => .list element.erased
  | .map _ value => .map value.erased
  | .optional content => content.erased
  | .unrecognized value => .unrecognized .container value
end

/-- What is left of a property: whether it is optional is still known at the top. -/
@[ext]
structure ErasedProperty where
  key : String
  docs : Option String
  isOptional : Bool
  type : ErasedType

def Property.erased (property : Property) : ErasedProperty where
  key := property.key
  docs := property.docs
  isOptional := property.type.isOptional
  type := property.type.erased

inductive ErasedVariant where
  /-- A variant of a declared type, which keeps its tag. -/
  | tagged (discriminant tag schemaName : String)
  | untagged (discriminant : String) (type : ErasedType)

def UnionVariant.erased (discriminant : String) (variant : UnionVariant) : ErasedVariant :=
  match variant.type with
  | .named name => .tagged discriminant variant.tag name.schemaName
  | other => .untagged discriminant other.erased

inductive ErasedShape where
  | aliasOf (target : ErasedType)
  | enumeration (values : List String)
  | object (parents : List String) (properties : List ErasedProperty)
  | union (variants : List ErasedVariant)
  | unrecognized (value : Json)

def TypeShape.erased : TypeShape → ErasedShape
  | .aliasOf target => .aliasOf target.erased
  | .enumeration values => .enumeration (values.map EnumValue.value)
  | .object parents properties =>
      .object (parents.map DeclaredName.schemaName) (properties.map Property.erased)
  | .union discriminant variants => .union (variants.map (UnionVariant.erased discriminant))
  | .unrecognized value => .unrecognized value

theorem TypeShape.kind_of_erased {first second : TypeShape} (same : first.erased = second.erased) :
    first.kind = second.kind := by
  cases first <;> cases second <;> simp_all [erased, kind]

/-- No two properties of an object have the same key. -/
def TypeShape.DistinctKeys : TypeShape → Prop
  | .object _ properties => (properties.map Property.key).Nodup
  | .aliasOf _ | .enumeration _ | .union _ _ | .unrecognized _ => True

instance : (shape : TypeShape) → Decidable shape.DistinctKeys
  | .object _ properties => inferInstanceAs (Decidable (properties.map Property.key).Nodup)
  | .aliasOf _ | .enumeration _ | .union _ _ | .unrecognized _ => inferInstanceAs (Decidable True)

/-! ## Schemas of erased types -/

/-- The schema of an erased type. An unrecognized part has none. -/
inductive ErasedType.HasSchema : ErasedType → SchemaOrRef → Prop where
  | primitive {primitive schema} :
      primitive.toSchema = .ok schema → HasSchema (.primitive primitive) (.inline schema)
  | list {element schema} :
      HasSchema element schema → HasSchema (.list element) (Schema.arrayOf schema)
  | map {value schema} : HasSchema value schema → HasSchema (.map value) (Schema.mapOf schema)
  | named (schemaName : String) :
      HasSchema (.named schemaName) (.reference (DeclaredName.schemaRoot ++ schemaName))
  | anything : HasSchema .anything (.inline {})

mutual
theorem TypeReference.hasSchema_erased {reference : TypeReference} {schema : SchemaOrRef}
    (converts : reference.toSchema = .ok schema) : reference.erased.HasSchema schema := by
  cases reference with
  | primitive primitive =>
      obtain ⟨inner, made, rfl⟩ := map_eq_ok_iff.mp converts
      exact .primitive made
  | container container => exact ContainerType.hasSchema_erased converts
  | named name =>
      cases converts
      exact .named name.schemaName
  | unknown | void =>
      cases converts
      exact .anything
  | unrecognized => cases converts

theorem ContainerType.hasSchema_erased {container : ContainerType} {schema : SchemaOrRef}
    (converts : container.toSchema = .ok schema) : container.erased.HasSchema schema := by
  cases container with
  | list element | set element =>
      obtain ⟨inner, made, rfl⟩ := map_eq_ok_iff.mp converts
      exact .list (TypeReference.hasSchema_erased made)
  | map key value =>
      obtain ⟨inner, made, rfl⟩ := map_eq_ok_iff.mp converts
      exact .map (TypeReference.hasSchema_erased made)
  | optional content => exact TypeReference.hasSchema_erased converts
  | unrecognized => cases converts
end

/-- The entry of a property among those of an object that requires some keys. -/
def ErasedProperty.HasEntry (required : List String) (property : ErasedProperty)
    (entry : String × SchemaOrRef) : Prop :=
  entry.1 = property.key ∧ (property.isOptional = true ↔ property.key ∉ required) ∧
    ∃ schema, property.type.HasSchema schema ∧ entry.2 = schema.withDescription property.docs

def ErasedVariant.HasSchema : ErasedVariant → SchemaOrRef → Prop
  | .tagged discriminant tag schemaName, schema =>
      schema = .inline
        { type := some .object
          allOf := [.reference (DeclaredName.schemaRoot ++ schemaName), .inline
            (singleProperty discriminant
              (.inline { type := some .string, enumValues := some [tag] }))] }
  | .untagged discriminant type, schema =>
      ∃ inner, type.HasSchema inner ∧ schema = .inline (singleProperty discriminant inner)

/-- The schema of an erased shape, before the docs of its declaration come in. -/
def ErasedShape.HasSchema : ErasedShape → SchemaOrRef → Prop
  | .aliasOf target, schema => target.HasSchema schema
  | .enumeration values, schema =>
      schema = .inline { type := some .string, enumValues := some values }
  | .object parents properties, schema =>
      ∃ entries required, List.Forall₂ (ErasedProperty.HasEntry required) properties entries ∧
        required = (properties.filter fun property => !property.isOptional).map
          ErasedProperty.key ∧
        schema = .inline
          { type := some .object
            properties := entries
            required
            allOf := parents.map fun parent => .reference (DeclaredName.schemaRoot ++ parent) }
  | .union variants, schema =>
      ∃ schemas, List.Forall₂ ErasedVariant.HasSchema variants schemas ∧
        schema = .inline { oneOf := some schemas }
  | .unrecognized _, _ => False

theorem requiredKeys_eq (properties : List Property) :
    requiredKeys properties =
      ((properties.map Property.erased).filter fun property => !property.isOptional).map
        ErasedProperty.key := by
  rw [List.filter_map, List.map_map]
  rfl

/-- Among properties with distinct keys, those whose key is required are the ones that are not
    optional. -/
theorem isOptional_iff_of_distinct {properties : List Property}
    (distinct : (properties.map Property.key).Nodup) {property : Property}
    (member : property ∈ properties) :
    property.type.isOptional = true ↔ property.key ∉ requiredKeys properties := by
  constructor
  · intro optional required
    obtain ⟨other, listed, same⟩ := List.mem_map.mp required
    obtain ⟨inside, needed⟩ := List.mem_filter.mp listed
    rw [List.inj_on_of_nodup_map distinct inside member same, optional] at needed
    cases needed
  · intro absent
    by_contra needed
    exact absent (List.mem_map_of_mem (List.mem_filter.mpr ⟨member, by simpa using needed⟩))

theorem Property.key_of_entry {property : Property} {entry : String × SchemaOrRef}
    (converts : property.entry = .ok entry) : property.key = entry.1 := by
  rw [entry_eq] at converts
  obtain ⟨schema, -, rfl⟩ := map_eq_ok_iff.mp converts
  rfl

theorem Property.hasEntry_erased {properties : List Property}
    (distinct : (properties.map Property.key).Nodup) {property : Property}
    (member : property ∈ properties) {entry : String × SchemaOrRef}
    (converts : property.entry = .ok entry) :
    property.erased.HasEntry (requiredKeys properties) entry := by
  rw [entry_eq] at converts
  obtain ⟨schema, made, rfl⟩ := map_eq_ok_iff.mp converts
  exact ⟨rfl, isOptional_iff_of_distinct distinct member, schema,
    TypeReference.hasSchema_erased made, rfl⟩

theorem UnionVariant.hasSchema_erased {discriminant : String} {variant : UnionVariant}
    {schema : SchemaOrRef} (converts : variant.toSchema discriminant = .ok schema) :
    (variant.erased discriminant).HasSchema schema := by
  unfold erased
  split
  · next name named =>
      rw [toSchema_of_named named] at converts
      cases converts
      rfl
  · next other =>
      rw [toSchema_of_other other] at converts
      obtain ⟨inner, made, rfl⟩ := map_eq_ok_iff.mp converts
      exact ⟨inner, TypeReference.hasSchema_erased made, rfl⟩

/-- What is left of a shape after erasure still determines the schema that the shape has. -/
theorem TypeShape.hasSchema_erased {shape : TypeShape} (distinct : shape.DistinctKeys)
    {schema : SchemaOrRef} (converts : shape.toSchema = .ok schema) :
    shape.erased.HasSchema schema := by
  cases shape with
  | aliasOf target => exact TypeReference.hasSchema_erased converts
  | enumeration values =>
      cases converts
      rfl
  | object parents properties =>
      obtain ⟨made, built, rfl⟩ := map_eq_ok_iff.mp converts
      rw [objectSchema_eq] at built
      obtain ⟨pairs, traversed, rfl⟩ := map_eq_ok_iff.mp built
      have paired := mapM_eq_ok_iff.mp traversed
      have keys := map_eq_map_of_related paired fun _ _ => Property.key_of_entry
      -- without repeated keys, the entries of the object are the pairs themselves
      refine ⟨pairs, requiredKeys properties, ?_, requiredKeys_eq properties, ?_⟩
      · rw [List.forall₂_map_left_iff]
        exact ((List.forall₂_and_left properties pairs).mpr ⟨fun _ listed => listed, paired⟩).imp
          fun _ _ facts => Property.hasEntry_erased distinct facts.1 facts.2
      · rw [Entries.ofPairs_of_distinct (keys ▸ distinct), List.map_map]
        rfl
  | union discriminant variants =>
      rw [toSchema_union] at converts
      obtain ⟨schemas, traversed, rfl⟩ := map_eq_ok_iff.mp converts
      refine ⟨schemas, ?_, rfl⟩
      rw [List.forall₂_map_left_iff]
      exact (mapM_eq_ok_iff.mp traversed).imp fun _ _ => UnionVariant.hasSchema_erased
  | unrecognized => cases converts

end ApiComponents
