import ApiComponents.Proofs.SchemaIdentity

/-! # From docs to descriptions

Docs come into a schema as descriptions and in no other way. Without its descriptions the schema of
a declaration does not tell the docs of it. With them it shows the docs of the declaration itself
and those of the properties of an object, each at its place; all other docs are left out.
-/

namespace ApiComponents

/-! ## Declarations without docs -/

def EnumValue.undocumented (value : EnumValue) : EnumValue := { value with docs := none }

def Property.undocumented (property : Property) : Property := { property with docs := none }

def UnionVariant.undocumented (variant : UnionVariant) : UnionVariant :=
  { variant with docs := none }

def TypeShape.undocumented : TypeShape → TypeShape
  | .aliasOf target => .aliasOf target
  | .enumeration values => .enumeration (values.map EnumValue.undocumented)
  | .object parents properties => .object parents (properties.map Property.undocumented)
  | .union discriminant variants => .union discriminant (variants.map UnionVariant.undocumented)
  | .unrecognized value => .unrecognized value

/-- The declaration without any docs, its own and those of its parts. -/
def Declaration.undocumented (declaration : Declaration) : Declaration where
  name := declaration.name
  docs := none
  shape := declaration.shape.undocumented

/-! ## Schemas without descriptions -/

mutual
/-- The schema without any description, at every depth. -/
def SchemaOrRef.undescribed : SchemaOrRef → SchemaOrRef
  | .ref path _ => .ref path none
  | .inline schema => .inline schema.undescribed
termination_by structural schema => schema

def Schema.undescribed : Schema → Schema
  | ⟨type, format, _, properties, required, additional, items, allOf, oneOf, values⟩ =>
      { type, format, required
        description := none
        properties := Schema.undescribedEntries properties
        additionalProperties := Schema.undescribedOptional additional
        items := Schema.undescribedOptional items
        allOf := Schema.undescribedList allOf
        oneOf := Schema.undescribedChoice oneOf
        enumValues := values }
termination_by structural schema => schema

def Schema.undescribedEntries : List (String × SchemaOrRef) → List (String × SchemaOrRef)
  | [] => []
  | (key, schema) :: rest => (key, schema.undescribed) :: Schema.undescribedEntries rest
termination_by structural entries => entries

def Schema.undescribedOptional : Option SchemaOrRef → Option SchemaOrRef
  | some schema => some schema.undescribed
  | none => none
termination_by structural schema => schema

def Schema.undescribedChoice : Option (List SchemaOrRef) → Option (List SchemaOrRef)
  | some schemas => some (Schema.undescribedList schemas)
  | none => none
termination_by structural choice => choice

def Schema.undescribedList : List SchemaOrRef → List SchemaOrRef
  | [] => []
  | schema :: rest => schema.undescribed :: Schema.undescribedList rest
termination_by structural schemas => schemas
end

/-- A step from a schema to one that it holds. -/
inductive SchemaStep where
  | property (key : String)
  | additionalProperties
  | items
  | allOf (index : Nat)
  | oneOf (index : Nat)
  deriving Repr, DecidableEq

/-- Descriptions, each with the way to the schema or reference that carries it. -/
abbrev PlacedDescriptions := List (List SchemaStep × String)

namespace PlacedDescriptions

/-- At most one description, at a given place. -/
def single (way : List SchemaStep) (description : Option String) : PlacedDescriptions :=
  description.toList.map (way, ·)

/-- The descriptions of a schema as they are seen from the one that holds it. -/
def behind (step : SchemaStep) (descriptions : PlacedDescriptions) : PlacedDescriptions :=
  descriptions.map fun placed => (step :: placed.1, placed.2)

/-- The descriptions of the schemas in a list, with the index of each in front. -/
def numbered (step : Nat → SchemaStep) (parts : List PlacedDescriptions) : PlacedDescriptions :=
  (parts.mapIdx fun index => behind (step index)).flatten

end PlacedDescriptions

open PlacedDescriptions (single behind numbered)

mutual
/-- All descriptions of a schema, at every depth. -/
def SchemaOrRef.descriptions : SchemaOrRef → PlacedDescriptions
  | .ref _ description => single [] description
  | .inline schema => schema.descriptions
termination_by structural schema => schema

def Schema.descriptions : Schema → PlacedDescriptions
  | ⟨_, _, description, properties, _, additional, items, allOf, oneOf, _⟩ =>
      single [] description ++ Schema.entriesDescriptions properties ++
        behind .additionalProperties (Schema.optionalDescriptions additional) ++
        behind .items (Schema.optionalDescriptions items) ++
        numbered .allOf (Schema.listDescriptions allOf) ++
        numbered .oneOf (Schema.choiceDescriptions oneOf)
termination_by structural schema => schema

def Schema.entriesDescriptions : List (String × SchemaOrRef) → PlacedDescriptions
  | [] => []
  | (key, schema) :: rest =>
      behind (.property key) schema.descriptions ++ Schema.entriesDescriptions rest
termination_by structural entries => entries

def Schema.optionalDescriptions : Option SchemaOrRef → PlacedDescriptions
  | some schema => schema.descriptions
  | none => []
termination_by structural schema => schema

def Schema.choiceDescriptions : Option (List SchemaOrRef) → List PlacedDescriptions
  | some schemas => Schema.listDescriptions schemas
  | none => []
termination_by structural choice => choice

def Schema.listDescriptions : List SchemaOrRef → List PlacedDescriptions
  | [] => []
  | schema :: rest => schema.descriptions :: Schema.listDescriptions rest
termination_by structural schemas => schemas
end

theorem SchemaOrRef.undescribed_withDescription (schema : SchemaOrRef)
    (description : Option String) :
    (schema.withDescription description).undescribed = schema.undescribed := by
  cases schema with
  | ref => rfl
  | inline schema =>
      cases schema
      rfl

/-- A description that is put on a schema without one is the first that it shows. -/
theorem SchemaOrRef.descriptions_withDescription {schema : SchemaOrRef}
    (plain : schema.description? = none) (description : Option String) :
    (schema.withDescription description).descriptions =
      single [] description ++ schema.descriptions := by
  cases schema with
  | ref path other =>
      cases plain
      exact (List.append_nil _).symm
  | inline schema =>
      cases schema
      cases plain
      simp only [withDescription, descriptions, Schema.descriptions, single, Option.toList_none,
        List.map_nil, List.nil_append, List.append_assoc]

/-! ## Where descriptions stand -/

namespace Schema

theorem descriptions_arrayOf (items : SchemaOrRef) :
    (arrayOf items).descriptions = behind .items items.descriptions := by
  simp [arrayOf, SchemaOrRef.descriptions, descriptions, entriesDescriptions,
    optionalDescriptions, listDescriptions, choiceDescriptions, single, behind, numbered]

theorem descriptions_mapOf (values : SchemaOrRef) :
    (mapOf values).descriptions = behind .additionalProperties values.descriptions := by
  simp [mapOf, SchemaOrRef.descriptions, descriptions, entriesDescriptions,
    optionalDescriptions, listDescriptions, choiceDescriptions, single, behind, numbered]

theorem descriptions_singleProperty (key : String) (schema : SchemaOrRef) :
    (singleProperty key schema).descriptions = behind (.property key) schema.descriptions := by
  simp [singleProperty, descriptions, entriesDescriptions, optionalDescriptions,
    listDescriptions, choiceDescriptions, single, behind, numbered]

theorem listDescriptions_eq_map (schemas : List SchemaOrRef) :
    listDescriptions schemas = schemas.map SchemaOrRef.descriptions := by
  induction schemas with
  | nil => rfl
  | cons schema rest ih => rw [listDescriptions, ih, List.map_cons]

theorem undescribedEntries_eq_map (entries : List (String × SchemaOrRef)) :
    undescribedEntries entries = entries.map (Prod.map id SchemaOrRef.undescribed) := by
  induction entries with
  | nil => rfl
  | cons entry rest ih =>
      rw [undescribedEntries, ih]
      rfl

/-- Where no schema of a list is described, the list has no descriptions. -/
theorem numbered_listDescriptions {schemas : List SchemaOrRef}
    (plain : ∀ schema ∈ schemas, schema.descriptions = []) (step : Nat → SchemaStep) :
    numbered step (listDescriptions schemas) = [] := by
  rw [numbered, listDescriptions_eq_map, List.flatten_eq_nil_iff]
  intro part member
  obtain ⟨index, inside, rfl⟩ := List.mem_mapIdx.mp member
  obtain ⟨schema, listed, same⟩ := List.mem_map.mp (List.getElem_mem inside)
  rw [← same, plain schema listed]
  rfl

end Schema

/-- The schema of a type has no description at any depth. -/
theorem ErasedType.HasSchema.descriptions_eq_nil {erased : ErasedType} {schema : SchemaOrRef}
    (has : erased.HasSchema schema) : schema.descriptions = [] := by
  induction has with
  | primitive converts =>
      obtain ⟨_, _, rfl, -⟩ := Primitive.scalar_of_toSchema converts
      rfl
  | list _ ih =>
      rw [Schema.descriptions_arrayOf, ih]
      rfl
  | map _ ih =>
      rw [Schema.descriptions_mapOf, ih]
      rfl
  | named | anything => rfl

theorem ErasedVariant.HasSchema.descriptions_eq_nil {variant : ErasedVariant}
    {schema : SchemaOrRef} (has : variant.HasSchema schema) : schema.descriptions = [] := by
  cases variant with
  | tagged =>
      cases has
      rfl
  | untagged discriminant type =>
      obtain ⟨inner, has, rfl⟩ := has
      rw [SchemaOrRef.descriptions, Schema.descriptions_singleProperty, has.descriptions_eq_nil]
      rfl

/-- The entry of a property is described by the docs of the property and nowhere below. -/
theorem ErasedProperty.HasEntry.descriptions {required : List String} {property : ErasedProperty}
    {entry : String × SchemaOrRef} (has : property.HasEntry required entry) :
    behind (.property entry.1) entry.2.descriptions =
      single [.property property.key] property.docs := by
  obtain ⟨key, -, schema, converted, value⟩ := has
  rw [key, value, SchemaOrRef.descriptions_withDescription converted.undescribed,
    converted.descriptions_eq_nil]
  simp [behind, single]

/-- The docs of properties, at the places of the properties. -/
def TypeShape.placedDocs : TypeShape → PlacedDescriptions
  | .object _ properties =>
      properties.flatMap fun property => single [.property property.key] property.docs
  | .aliasOf _ | .enumeration _ | .union _ _ | .unrecognized _ => []

/-- The docs of a declaration that its schema shows: its own and those of the properties. -/
def Declaration.placedDocs (declaration : Declaration) : PlacedDescriptions :=
  single [] declaration.docs ++ declaration.shape.placedDocs

theorem entriesDescriptions_of_hasEntry {required : List String} {properties : List Property}
    {entries : List (String × SchemaOrRef)}
    (has : List.Forall₂ (ErasedProperty.HasEntry required) (properties.map Property.erased)
      entries) :
    Schema.entriesDescriptions entries =
      properties.flatMap fun property => single [.property property.key] property.docs := by
  rw [List.forall₂_map_left_iff] at has
  induction has with
  | nil => rfl
  | cons head _ ih =>
      rw [Schema.entriesDescriptions, head.descriptions, ih, List.flatMap_cons]
      rfl

theorem TypeShape.descriptions_toSchema {shape : TypeShape} (distinct : shape.DistinctKeys)
    {schema : SchemaOrRef} (converts : shape.toSchema = .ok schema) :
    schema.descriptions = shape.placedDocs := by
  have has := hasSchema_erased distinct converts
  cases shape with
  | aliasOf target => exact ErasedType.HasSchema.descriptions_eq_nil has
  | enumeration values =>
      cases has
      rfl
  | object parents properties =>
      obtain ⟨entries, required, paired, -, rfl⟩ := has
      have pointers : numbered .allOf (Schema.listDescriptions
          ((parents.map DeclaredName.schemaName).map fun parent =>
            .reference (DeclaredName.schemaRoot ++ parent))) = [] := by
        refine Schema.numbered_listDescriptions ?_ _
        intro pointer member
        obtain ⟨parent, -, rfl⟩ := List.mem_map.mp member
        rfl
      simp only [SchemaOrRef.descriptions, Schema.descriptions, pointers,
        entriesDescriptions_of_hasEntry paired, placedDocs]
      simp [single, behind, numbered, Schema.optionalDescriptions, Schema.choiceDescriptions]
  | union discriminant variants =>
      obtain ⟨schemas, paired, rfl⟩ := has
      have variants : numbered .oneOf (Schema.listDescriptions schemas) = [] := by
        refine Schema.numbered_listDescriptions ?_ _
        intro schema member
        obtain ⟨variant, -, has⟩ := exists_left_of_mem paired member
        exact has.descriptions_eq_nil
      simp only [SchemaOrRef.descriptions, Schema.descriptions, Schema.choiceDescriptions, variants,
        placedDocs]
      rfl
  | unrecognized => cases has

/-- The docs of a declaration come into its schema at their places, and nothing else describes the
    schema or anything that it holds. -/
theorem Declaration.descriptions_toSchema {declaration : Declaration}
    (distinct : declaration.shape.DistinctKeys) {schema : SchemaOrRef}
    (converts : declaration.toSchema = .ok schema) :
    schema.descriptions = declaration.placedDocs := by
  obtain ⟨inner, made, rfl⟩ := map_eq_ok_iff.mp converts
  have plain := ErasedShape.undescribed (TypeShape.hasSchema_erased distinct made)
  rw [SchemaOrRef.descriptions_withDescription plain, TypeShape.descriptions_toSchema distinct made,
    placedDocs]

/-! ## Docs in two declarations -/

theorem Property.undescribed_entry (property : Property) :
    property.undocumented.entry.map (Prod.map id SchemaOrRef.undescribed) =
      property.entry.map (Prod.map id SchemaOrRef.undescribed) := by
  simp only [entry_eq, map_map_eq, Prod.map, SchemaOrRef.undescribed_withDescription]
  rfl

theorem requiredKeys_undocumented (properties : List Property) :
    requiredKeys (properties.map Property.undocumented) = requiredKeys properties := by
  rw [requiredKeys, requiredKeys, List.filter_map, List.map_map]
  rfl

/-- The schema of an object with given parents, required keys and converted properties. -/
def pairsSchema (parents : List DeclaredName) (required : List String)
    (pairs : List (String × SchemaOrRef)) : Schema where
  type := some .object
  properties := Entries.ofPairs pairs
  required := required
  allOf := parents.map fun parent => .reference parent.reference

theorem objectSchema_eq_pairsSchema (parents : List DeclaredName) (properties : List Property) :
    objectSchema parents properties =
      (properties.mapM Property.entry).map (pairsSchema parents (requiredKeys properties)) :=
  objectSchema_eq parents properties

theorem Schema.undescribedList_references (parents : List DeclaredName) :
    Schema.undescribedList (parents.map fun parent => .reference parent.reference) =
      parents.map fun parent => .reference parent.reference := by
  induction parents with
  | nil => rfl
  | cons parent rest ih =>
      rw [List.map_cons, Schema.undescribedList, ih]
      rfl

theorem undescribed_pairsSchema (parents : List DeclaredName) (required : List String)
    (pairs : List (String × SchemaOrRef)) :
    (pairsSchema parents required pairs).undescribed =
      pairsSchema parents required (pairs.map (Prod.map id SchemaOrRef.undescribed)) := by
  simp only [pairsSchema, Schema.undescribed, Schema.undescribedEntries_eq_map,
    Entries.map_ofPairs, Schema.undescribedList_references, Schema.undescribedOptional,
    Schema.undescribedChoice]

/-- The schema of an object without its descriptions does not show the docs of the properties. -/
theorem undescribed_objectSchema (parents : List DeclaredName) (properties : List Property) :
    (objectSchema parents (properties.map Property.undocumented)).map Schema.undescribed =
      (objectSchema parents properties).map Schema.undescribed := by
  have entries :
      ((properties.map Property.undocumented).mapM Property.entry).map
          (List.map (Prod.map id SchemaOrRef.undescribed)) =
        (properties.mapM Property.entry).map
          (List.map (Prod.map id SchemaOrRef.undescribed)) := by
    rw [← mapM_map_right, ← mapM_map_right, List.mapM_map]
    exact mapM_congr fun property _ => property.undescribed_entry
  have build (outcome : Except ConversionError (List (String × SchemaOrRef))) :
      (outcome.map (pairsSchema parents (requiredKeys properties))).map Schema.undescribed =
        (outcome.map (List.map (Prod.map id SchemaOrRef.undescribed))).map
          (pairsSchema parents (requiredKeys properties)) := by
    simp only [map_map_eq, undescribed_pairsSchema]
  rw [objectSchema_eq_pairsSchema, objectSchema_eq_pairsSchema, requiredKeys_undocumented, build,
    build, entries]

namespace TypeShape

/-- But for objects, no docs inside a shape come into its schema. -/
theorem toSchema_undocumented {shape : TypeShape}
    (other : ∀ parents properties, shape ≠ .object parents properties) :
    shape.undocumented.toSchema = shape.toSchema := by
  cases shape with
  | aliasOf | unrecognized => rfl
  | enumeration values =>
      simp only [undocumented, toSchema, enumerationSchema, List.map_map]
      rfl
  | object parents properties => exact absurd rfl (other parents properties)
  | union discriminant variants =>
      rw [undocumented, toSchema_union, toSchema_union, List.mapM_map]
      rfl

theorem undescribed_toSchema (shape : TypeShape) :
    shape.undocumented.toSchema.map SchemaOrRef.undescribed =
      shape.toSchema.map SchemaOrRef.undescribed := by
  by_cases object : ∃ parents properties, shape = .object parents properties
  · obtain ⟨parents, properties, rfl⟩ := object
    have inline (outcome : Except ConversionError Schema) :
        (outcome.map SchemaOrRef.inline).map SchemaOrRef.undescribed =
          (outcome.map Schema.undescribed).map SchemaOrRef.inline := by
      simp only [map_map_eq, SchemaOrRef.undescribed]
    rw [undocumented, toSchema, toSchema, inline, inline, undescribed_objectSchema]
  · rw [toSchema_undocumented fun parents properties same => object ⟨parents, properties, same⟩]

theorem object_of_undocumented {shape : TypeShape} {parents : List DeclaredName}
    {properties : List Property} (object : shape.undocumented = .object parents properties) :
    ∃ documented, shape = .object parents documented := by
  cases shape with
  | object others documented =>
      cases object
      exact ⟨documented, rfl⟩
  | aliasOf | enumeration | union | unrecognized => cases object

end TypeShape

namespace Declaration

theorem undescribed_toSchema (declaration : Declaration) :
    declaration.undocumented.toSchema.map SchemaOrRef.undescribed =
      declaration.toSchema.map SchemaOrRef.undescribed := by
  simp only [toSchema, map_map_eq, SchemaOrRef.undescribed_withDescription]
  exact declaration.shape.undescribed_toSchema

/-- Docs become descriptions and nothing else. Two declarations that differ in their docs alone fail
    alike or have schemas that differ in their descriptions alone. If no key is repeated, these are
    the docs of the declaration at the root and those of the properties on the properties. All
    other docs, those of enumerated values and of variants, are left out. -/
theorem docs_only_describe {first second : Declaration}
    (same : first.undocumented = second.undocumented) :
    first.schemaName = second.schemaName ∧
      ((∃ failure, first.toSchema = .error failure ∧ second.toSchema = .error failure) ∨
        ∃ schema other, first.toSchema = .ok schema ∧ second.toSchema = .ok other ∧
          schema.undescribed = other.undescribed) ∧
      (∀ schema, first.shape.DistinctKeys → first.toSchema = .ok schema →
        schema.descriptions = first.placedDocs) ∧
      ((∀ parents properties, first.shape ≠ .object parents properties) →
        first.docs = second.docs → first.toSchema = second.toSchema) := by
  have names : first.undocumented.name = second.undocumented.name := congrArg name same
  have shapes : first.undocumented.shape = second.undocumented.shape := congrArg shape same
  change first.name = second.name at names
  change first.shape.undocumented = second.shape.undocumented at shapes
  refine ⟨congrArg DeclaredName.schemaName names, ?_, ?_, ?_⟩
  · have alike : first.toSchema.map SchemaOrRef.undescribed =
        second.toSchema.map SchemaOrRef.undescribed := by
      rw [← first.undescribed_toSchema, same, second.undescribed_toSchema]
    cases converted : first.toSchema with
    | error failure =>
        rw [converted] at alike
        exact .inl ⟨failure, rfl, map_eq_error_iff.mp alike.symm⟩
    | ok schema =>
        rw [converted] at alike
        obtain ⟨other, convertedToo, undescribed⟩ := map_eq_ok_iff.mp alike.symm
        exact .inr ⟨schema, other, rfl, convertedToo, undescribed.symm⟩
  · exact fun schema distinct converts => descriptions_toSchema distinct converts
  · intro other docs
    have otherToo : ∀ parents properties, second.shape ≠ .object parents properties := by
      intro parents properties object
      rw [object] at shapes
      obtain ⟨documented, object⟩ := TypeShape.object_of_undocumented shapes
      exact other parents documented object
    rw [toSchema, toSchema, ← TypeShape.toSchema_undocumented other,
      ← TypeShape.toSchema_undocumented otherToo, shapes, docs]

/-- A parcel with docs of its own and on one of its properties. -/
def documentedParcel : Declaration where
  name := ⟨[], "parcel"⟩
  docs := some "What is sent."
  shape := .object [⟨["shared"], "base"⟩]
    [⟨"sender", .named ⟨[], "party"⟩, some "Who sends it."⟩,
     ⟨"labels", .list (.primitive .text), none⟩]

/-- The same parcel with docs on the other property alone. -/
def labelledParcel : Declaration where
  name := ⟨[], "parcel"⟩
  docs := none
  shape := .object [⟨["shared"], "base"⟩]
    [⟨"sender", .named ⟨[], "party"⟩, none⟩,
     ⟨"labels", .list (.primitive .text), some "What it says."⟩]

theorem parcel_docs_only_describe :
    documentedParcel.undocumented = labelledParcel.undocumented ∧
      documentedParcel.shape.DistinctKeys ∧
      ∃ schema other, documentedParcel.toSchema = .ok schema ∧
        labelledParcel.toSchema = .ok other ∧ schema.undescribed = other.undescribed ∧
        schema.descriptions = [([], "What is sent."), ([.property "sender"], "Who sends it.")] := by
  have same : documentedParcel.undocumented = labelledParcel.undocumented := rfl
  have distinct : documentedParcel.shape.DistinctKeys := by decide
  obtain ⟨-, outcome, places, -⟩ := docs_only_describe same
  refine ⟨same, distinct, ?_⟩
  rcases outcome with ⟨failure, fails, -⟩ | ⟨schema, other, converts, convertsToo, alike⟩
  · cases fails
  · exact ⟨schema, other, converts, convertsToo, alike, places schema distinct converts⟩

end Declaration

end ApiComponents
