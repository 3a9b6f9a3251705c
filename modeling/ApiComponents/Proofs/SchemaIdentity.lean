import Mathlib.Logic.Relator
import ApiComponents.Proofs.Erasure

/-! # Equal schemas

An erased declaration and its schema determine each other. The keywords of a schema tell which
kind of shape or type it comes from: no two kinds ever have the same schema. What stands below the
keywords is compared part by part.
-/

namespace ApiComponents

/-- The description of a schema, by reference or written out. -/
def SchemaOrRef.description? : SchemaOrRef → Option String
  | .ref _ description => description
  | .inline schema => schema.description

/-- Schemas without descriptions can be told apart, and so can descriptions put on them. -/
theorem SchemaOrRef.eq_of_withDescription {first second : SchemaOrRef}
    {docs others : Option String} (plain : first.description? = none)
    (bare : second.description? = none)
    (same : first.withDescription docs = second.withDescription others) :
    first = second ∧ docs = others := by
  cases first with
  | ref path description =>
      cases second with
      | ref other description' =>
          cases plain
          cases bare
          cases same
          exact ⟨rfl, rfl⟩
      | inline => cases same
  | inline schema =>
      cases second with
      | ref => cases same
      | inline other =>
          cases schema
          cases other
          cases plain
          cases bare
          cases same
          exact ⟨rfl, rfl⟩

/-! ## Types -/

/-- The table of primitives has no two equal lines. -/
theorem Primitive.toSchema_injective : Function.Injective Primitive.toSchema := by
  intro first second same
  cases first <;> cases second <;> simp_all [toSchema, Schema.typed, Schema.formatted]

/-- The schema of a primitive is a type of scalars, maybe with a format. -/
theorem Primitive.scalar_of_toSchema {primitive : Primitive} {schema : Schema}
    (converts : primitive.toSchema = .ok schema) :
    ∃ type format, schema = { type := some type, format } ∧ type ≠ .object := by
  cases primitive <;> cases converts
  all_goals exact ⟨_, _, rfl, nofun⟩

namespace ErasedType.HasSchema

theorem undescribed {erased : ErasedType} {schema : SchemaOrRef}
    (has : erased.HasSchema schema) : schema.description? = none := by
  cases has with
  | primitive converts =>
      obtain ⟨_, _, rfl, -⟩ := Primitive.scalar_of_toSchema converts
      rfl
  | list | map | named | anything => rfl

/-- A type never has the keywords of an enumeration or a union, nor those of an object without
    additional properties. -/
theorem keywords {erased : ErasedType} {schema : Schema} (has : erased.HasSchema (.inline schema)) :
    schema.enumValues = none ∧ schema.oneOf = none ∧
      (schema.type = some .object → schema.additionalProperties ≠ none) := by
  cases has with
  | primitive converts =>
      obtain ⟨type, _, rfl, scalar⟩ := Primitive.scalar_of_toSchema converts
      exact ⟨rfl, rfl, fun object => absurd (Option.some.inj object) scalar⟩
  | list | map | anything => exact ⟨rfl, rfl, nofun⟩

theorem named_of_reference {erased : ErasedType} {path : String}
    (has : erased.HasSchema (.reference path)) :
    ∃ name, erased = .named name ∧ path = DeclaredName.schemaRoot ++ name := by
  cases has with
  | named name => exact ⟨name, rfl, rfl⟩

theorem rightUnique : Relator.RightUnique ErasedType.HasSchema := by
  intro erased first second has other
  induction has generalizing second with
  | primitive converts =>
      cases other with
      | primitive same => rw [Except.ok.inj (converts.symm.trans same)]
  | list _ ih =>
      cases other with
      | list inner => rw [ih inner]
  | map _ ih =>
      cases other with
      | map inner => rw [ih inner]
  | named | anything =>
      cases other
      rfl

theorem leftUnique : Relator.LeftUnique ErasedType.HasSchema := by
  intro first second schema has other
  induction has generalizing second with
  | primitive converts =>
      obtain ⟨_, _, rfl, -⟩ := Primitive.scalar_of_toSchema converts
      cases other with
      | primitive same => rw [Primitive.toSchema_injective (converts.trans same.symm)]
  | list _ ih =>
      cases other with
      | primitive same =>
          obtain ⟨_, _, scalar, -⟩ := Primitive.scalar_of_toSchema same
          cases scalar
      | list inner => rw [ih inner]
  | map _ ih =>
      cases other with
      | primitive same =>
          obtain ⟨_, _, scalar, -⟩ := Primitive.scalar_of_toSchema same
          cases scalar
      | map inner => rw [ih inner]
  | named name =>
      obtain ⟨_, rfl, path⟩ := named_of_reference other
      rw [(String.append_right_inj _).mp path]
  | anything =>
      cases other with
      | primitive same =>
          obtain ⟨_, _, scalar, -⟩ := Primitive.scalar_of_toSchema same
          cases scalar
      | anything => rfl

end ErasedType.HasSchema

/-! ## Properties and variants -/

namespace ErasedProperty

variable (required : List String)

theorem rightUnique_hasEntry : Relator.RightUnique (HasEntry required) := by
  rintro property first second ⟨key, -, schema, has, value⟩ ⟨sameKey, -, other, same, sameValue⟩
  refine Prod.ext (key.trans sameKey.symm) ?_
  rw [value, sameValue, ErasedType.HasSchema.rightUnique has same]

theorem leftUnique_hasEntry : Relator.LeftUnique (HasEntry required) := by
  rintro first second entry ⟨key, optional, schema, has, value⟩
    ⟨sameKey, sameOptional, other, same, sameValue⟩
  have keys : first.key = second.key := key.symm.trans sameKey
  obtain ⟨rfl, docs⟩ := SchemaOrRef.eq_of_withDescription has.undescribed same.undescribed
    (value.symm.trans sameValue)
  have flags : first.isOptional = second.isOptional := by
    rw [Bool.eq_iff_iff, optional, sameOptional, keys]
  exact ErasedProperty.ext keys docs flags (ErasedType.HasSchema.leftUnique has same)

end ErasedProperty

namespace ErasedVariant

theorem rightUnique_hasSchema : Relator.RightUnique HasSchema := by
  intro variant first second has other
  cases variant with
  | tagged => exact has.trans other.symm
  | untagged discriminant type =>
      obtain ⟨_, inner, rfl⟩ := has
      obtain ⟨_, same, rfl⟩ := other
      rw [ErasedType.HasSchema.rightUnique inner same]

theorem leftUnique_hasSchema : Relator.LeftUnique HasSchema := by
  intro first second schema has other
  cases first with
  | tagged discriminant tag schemaName =>
      cases second with
      | tagged =>
          have same := has.symm.trans other
          simp only [SchemaOrRef.reference, singleProperty, SchemaOrRef.inline.injEq,
            Schema.mk.injEq, List.cons.injEq, SchemaOrRef.ref.injEq, String.append_right_inj,
            Prod.mk.injEq, Option.some.injEq, and_true, true_and, and_self] at same
          obtain ⟨rfl, rfl, rfl⟩ := same
          rfl
      | untagged =>
          obtain ⟨_, -, rfl⟩ := other
          cases has
  | untagged discriminant type =>
      obtain ⟨_, inner, rfl⟩ := has
      cases second with
      | tagged => cases other
      | untagged =>
          obtain ⟨_, same, equal⟩ := other
          cases equal
          rw [ErasedType.HasSchema.leftUnique inner same]

end ErasedVariant

/-! ## Shapes and declarations -/

namespace ErasedShape

/-- Only an alias has the schema of a type. -/
theorem alias_of_hasSchema {shape : ErasedShape} {target : ErasedType}
    {schema : SchemaOrRef} (has : target.HasSchema schema) (other : shape.HasSchema schema) :
    shape = .aliasOf target := by
  cases shape with
  | aliasOf same => rw [ErasedType.HasSchema.leftUnique has other]
  | enumeration values =>
      cases other
      cases has.keywords.1
  | object parents properties =>
      obtain ⟨entries, required, -, -, rfl⟩ := other
      exact absurd rfl (has.keywords.2.2 rfl)
  | union variants =>
      obtain ⟨schemas, -, rfl⟩ := other
      cases has.keywords.2.1
  | unrecognized => cases other

theorem reference_injective : Function.Injective fun schemaName =>
    SchemaOrRef.reference (DeclaredName.schemaRoot ++ schemaName) := by
  intro first second same
  exact (String.append_right_inj _).mp (SchemaOrRef.ref.inj same).1

theorem undescribed {shape : ErasedShape} {schema : SchemaOrRef} (has : shape.HasSchema schema) :
    schema.description? = none := by
  cases shape with
  | aliasOf target => exact ErasedType.HasSchema.undescribed has
  | enumeration =>
      cases has
      rfl
  | object =>
      obtain ⟨_, _, -, -, rfl⟩ := has
      rfl
  | union =>
      obtain ⟨_, -, rfl⟩ := has
      rfl
  | unrecognized => cases has

theorem rightUnique_hasSchema : Relator.RightUnique HasSchema := by
  intro shape first second has other
  cases shape with
  | aliasOf => exact ErasedType.HasSchema.rightUnique has other
  | enumeration => exact has.trans other.symm
  | object =>
      obtain ⟨entries, required, paired, known, rfl⟩ := has
      obtain ⟨_, _, same, sameKnown, rfl⟩ := other
      cases known
      cases sameKnown
      rw [(ErasedProperty.rightUnique_hasEntry _).forall₂ paired same]
  | union =>
      obtain ⟨schemas, paired, rfl⟩ := has
      obtain ⟨_, same, rfl⟩ := other
      rw [ErasedVariant.rightUnique_hasSchema.forall₂ paired same]
  | unrecognized => cases has

/-- The parents and the properties of an object are told by its schema. -/
theorem object_of_hasSchema {parents : List String} {properties : List ErasedProperty}
    {shape : ErasedShape} {schema : SchemaOrRef}
    (has : (ErasedShape.object parents properties).HasSchema schema)
    (other : shape.HasSchema schema) : shape = .object parents properties := by
  cases shape with
  | aliasOf target => exact (alias_of_hasSchema other has).symm
  | object =>
      obtain ⟨entries, required, paired, -, rfl⟩ := has
      obtain ⟨_, _, same, -, equal⟩ := other
      simp only [SchemaOrRef.inline.injEq, Schema.mk.injEq, true_and, and_true] at equal
      obtain ⟨rfl, rfl, pointers⟩ := equal
      rw [reference_injective.list_map pointers,
        (ErasedProperty.leftUnique_hasEntry _).forall₂ paired same]
  | enumeration =>
      obtain ⟨_, _, -, -, rfl⟩ := has
      cases other
  | union =>
      obtain ⟨_, _, -, -, rfl⟩ := has
      obtain ⟨_, -, equal⟩ := other
      cases equal
  | unrecognized => cases other

theorem leftUnique_hasSchema : Relator.LeftUnique HasSchema := by
  intro first second schema has other
  -- aliases and objects are settled on both sides by the lemmas above, so only the keywords `enum`
  -- and `oneOf` remain to be told apart
  cases first with
  | aliasOf target => rw [alias_of_hasSchema has other]
  | object parents properties => rw [object_of_hasSchema has other]
  | enumeration values =>
      cases second with
      | aliasOf => exact alias_of_hasSchema other has
      | object => exact object_of_hasSchema other has
      | enumeration =>
          cases has.symm.trans other
          rfl
      | union =>
          obtain ⟨_, -, rfl⟩ := other
          cases has
      | unrecognized => cases other
  | union variants =>
      cases second with
      | aliasOf => exact alias_of_hasSchema other has
      | object => exact object_of_hasSchema other has
      | enumeration =>
          obtain ⟨_, -, rfl⟩ := has
          cases other
      | union =>
          obtain ⟨schemas, paired, rfl⟩ := has
          obtain ⟨_, same, equal⟩ := other
          cases equal
          rw [ErasedVariant.leftUnique_hasSchema.forall₂ paired same]
      | unrecognized => cases other
  | unrecognized => cases has

end ErasedShape

/-- Conversion forgets nothing but what the erasure drops: two declarations that convert have the
    same schema, in the same order of properties, exactly if they have the same docs, the same kind
    of shape and the same erasure. -/
theorem Declaration.toSchema_eq_iff {first second : Declaration} {schema other : SchemaOrRef}
    (converts : first.toSchema = .ok schema) (convertsToo : second.toSchema = .ok other)
    (distinct : first.shape.DistinctKeys) (distinctToo : second.shape.DistinctKeys) :
    schema = other ↔ first.docs = second.docs ∧ first.shape.kind = second.shape.kind ∧
      first.shape.erased = second.shape.erased := by
  obtain ⟨inner, made, rfl⟩ := map_eq_ok_iff.mp converts
  obtain ⟨innerToo, madeToo, rfl⟩ := map_eq_ok_iff.mp convertsToo
  have has := TypeShape.hasSchema_erased distinct made
  have hasToo := TypeShape.hasSchema_erased distinctToo madeToo
  constructor
  · intro same
    obtain ⟨rfl, docs⟩ := SchemaOrRef.eq_of_withDescription (ErasedShape.undescribed has)
      (ErasedShape.undescribed hasToo) same
    have erased := ErasedShape.leftUnique_hasSchema has hasToo
    exact ⟨docs, TypeShape.kind_of_erased erased, erased⟩
  · rintro ⟨docs, -, erased⟩
    rw [← erased] at hasToo
    rw [docs, ErasedShape.rightUnique_hasSchema has hasToo]

/-- An object with tags and attributes. -/
def itemDeclaration : Declaration where
  name := ⟨[], "item"⟩
  docs := some "An item."
  shape := .object [⟨["shared"], "base"⟩]
    [⟨"tags", .optional (.set (.named ⟨["core"], "tag"⟩)), some "Its tags."⟩,
     ⟨"attributes", .map (.primitive .uuid) .unknown, none⟩]

/-- Another object, which differs only in what a schema does not show. -/
def articleDeclaration : Declaration where
  name := ⟨["shop"], "article"⟩
  docs := some "An item."
  shape := .object [⟨[], "shared_base"⟩]
    [⟨"tags", .optional (.list (.optional (.named ⟨[], "coreTag"⟩))), some "Its tags."⟩,
     ⟨"attributes", .map (.primitive .text) .void, none⟩]

def itemSchema : SchemaOrRef :=
  .inline
    { type := some .object
      description := some "An item."
      properties :=
        [("tags", .inline
            { type := some .array
              description := some "Its tags."
              items := some (.reference "#/components/schemas/CoreTag") }),
          ("attributes", Schema.mapOf (.inline {}))]
      required := ["attributes"]
      allOf := [.reference "#/components/schemas/SharedBase"] }

theorem Declaration.item_and_article_same_erasure :
    itemDeclaration.toSchema = .ok itemSchema ∧ articleDeclaration.toSchema = .ok itemSchema ∧
      itemDeclaration.shape.DistinctKeys ∧ articleDeclaration.shape.DistinctKeys ∧
      itemDeclaration.docs = articleDeclaration.docs ∧
      itemDeclaration.shape.kind = articleDeclaration.shape.kind ∧
      itemDeclaration.shape.erased = articleDeclaration.shape.erased := by
  have item : itemDeclaration.toSchema = .ok itemSchema := rfl
  have article : articleDeclaration.toSchema = .ok itemSchema := rfl
  have distinct : itemDeclaration.shape.DistinctKeys := by decide
  have distinctToo : articleDeclaration.shape.DistinctKeys := by decide
  exact ⟨item, article, distinct, distinctToo,
    (Declaration.toSchema_eq_iff item article distinct distinctToo).mp rfl⟩

end ApiComponents
