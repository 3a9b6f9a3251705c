import ApiComponents.OpenApi.Reading
import ApiComponents.Proofs.Entries
import ApiComponents.Proofs.Members

/-! # Fragments are read back as they were written

A written fragment leaves out what is empty or not set, and a schema may be written as a pointer.
Reading fills in exactly what was left out and tells pointers from schemas, at every depth: the
fragment that is read is the one that was written, with every map and list in its order.
-/

namespace ApiComponents

open Members

/-! ## Members that are written only sometimes -/

@[simp] theorem valuesOf_memberIfSome (name other : String) (value : Option Json) :
    valuesOf name (memberIfSome other value) = if name = other then value.toList else [] := by
  cases value <;> simp [memberIfSome]

/-- An array, unless it is empty. -/
def filledList : List Json → Option Json
  | [] => none
  | items => some (.list items)

/-- An object, unless it is empty. -/
def filledObject : List (String × Json) → Option Json
  | [] => none
  | members => some (.object members)

theorem memberIfItems_eq (name : String) (items : List Json) :
    memberIfItems name items = memberIfSome name (filledList items) := by
  cases items <;> rfl

theorem memberIfMembers_eq (name : String) (members : List (String × Json)) :
    memberIfMembers name members = memberIfSome name (filledObject members) := by
  cases members <;> rfl

/-- The members of a written schema object. -/
def Schema.members (schema : Schema) : List (String × Json) :=
  memberIfSome "type" (schema.type.map fun word => .text word.word) ++
    memberIfSome "format" (schema.format.map .text) ++
    memberIfSome "description" (schema.description.map .text) ++
    memberIfSome "properties" (filledObject (Schema.entriesJson schema.properties)) ++
    memberIfSome "required" (filledList (schema.required.map .text)) ++
    memberIfSome "additionalProperties" (Schema.optionalJson schema.additionalProperties) ++
    memberIfSome "items" (Schema.optionalJson schema.items) ++
    memberIfSome "allOf" (filledList (Schema.listJson schema.allOf)) ++
    memberIfSome "oneOf" (schema.oneOf.map fun schemas => .list (Schema.listJson schemas)) ++
    memberIfSome "enum" (schema.enumValues.map fun words => .list (words.map .text))

theorem Schema.toJson_eq (schema : Schema) : schema.toJson = .object schema.members := by
  obtain ⟨type, format, description, properties, required, additional, items, allOf, oneOf,
    values⟩ := schema
  cases oneOf <;> simp only [Schema.toJson, members, memberIfItems_eq, memberIfMembers_eq] <;> rfl

@[simp] theorem sole?_toList {β γ : Type} (f : β → γ) (slot : Option β) :
    sole? (slot.toList.map f) = some (slot.map f) := by
  cases slot <;> rfl

/-- What stands in the slots of the keywords of a written schema object. -/
theorem Schema.slots?_members {β : Type} (schema : Schema) (reading : Json → β) :
    (Body.ofMembers (schema.members.map fun member => (member.1, reading member.2))).slots?
        Schema.fieldNames =
      some
        [(schema.type.map fun word => .text word.word).map reading,
          (schema.format.map .text).map reading, (schema.description.map .text).map reading,
          (filledObject (Schema.entriesJson schema.properties)).map reading,
          (filledList (schema.required.map .text)).map reading,
          (Schema.optionalJson schema.additionalProperties).map reading,
          (Schema.optionalJson schema.items).map reading,
          (filledList (Schema.listJson schema.allOf)).map reading,
          (schema.oneOf.map fun schemas => .list (Schema.listJson schemas)).map reading,
          (schema.enumValues.map fun words => .list (words.map .text)).map reading] := by
  rw [Body.slots?_ofMembers (by decide), mapM_eq_some_iff]
  simp only [valuesOf_map, fieldNames, members, valuesOf_append, valuesOf_memberIfSome]
  simp

/-! ## Parts of schemas -/

/-- What a tree means in the places where schemas stand. -/
def Json.schemaReading (tree : Json) : SchemaReading :=
  (Content.ofJson tree).schemaReading

@[simp] theorem Json.content_schemaReading (tree : Json) :
    tree.schemaReading.content = .ofJson tree := by
  cases tree <;> rfl

theorem Content.schemaReadings_eq_map (items : List Content) :
    schemaReadings items = items.map schemaReading := by
  induction items with
  | nil => rfl
  | cons item items ih => rw [schemaReadings, ih, List.map_cons]

theorem Content.entrySchemaReadings_eq_map (entries : List (Content × Content)) :
    entrySchemaReadings entries = entries.map fun entry => (entry.1, entry.2.schemaReading) := by
  induction entries with
  | nil => rfl
  | cons entry entries ih => rw [entrySchemaReadings, ih, List.map_cons]

theorem Json.schema_schemaReading_object (members : List (String × Json)) :
    (Json.object members).schemaReading.schema =
      SchemaOrRef.of?
        (.ofMembers (members.map fun member => (member.1, member.2.schemaReading))) := by
  simp only [schemaReading, Content.ofJson, Content.schemaReading,
    Content.entrySchemaReadings_eq_map, Content.ofMembers_eq_map, Body.ofMembers, List.map_map,
    Function.comp_def]

theorem Json.list_schemaReading_list (items : List Json) :
    (Json.list items).schemaReading.list = items.mapM fun item => item.schemaReading.schema := by
  simp only [schemaReading, Content.ofJson, Content.schemaReading, Content.schemaReadings_eq_map,
    Content.ofItems_eq_map, List.map_map, List.mapM_map, Function.comp_def]

theorem Json.entries_schemaReading_object (members : List (String × Json)) :
    (Json.object members).schemaReading.entries =
      (members.mapM fun (member : String × Json) =>
        member.2.schemaReading.schema.map (member.1, ·)).map Entries.ofPairs := by
  simp only [schemaReading, Content.ofJson, Content.schemaReading, SchemaReading.entriesOf?,
    Content.entrySchemaReadings_eq_map, Content.ofMembers_eq_map, List.map_map, List.mapM_map,
    Function.comp_def]
  congr 2
  funext member
  cases (Content.ofJson member.2).schemaReading.schema <;> rfl

section Parts

theorem fromContent?_texts (texts : List String) :
    (Layout.list .text).fromContent? (.ofJson (.list (texts.map .text))) = some texts := by
  simp only [Content.ofJson, Layout.fromContent?, Content.ofItems_eq_map, List.map_map,
    List.mapM_map]
  exact (List.mapM_pure (m := Option)).trans (congrArg some (List.map_id texts))

theorem partValue?_text (slot : Option String) :
    partValue? true (.keyed none) (plainPart (.optional .text))
      ((slot.map .text).map Json.schemaReading) = some slot := by
  cases slot <;> rfl

theorem partValue?_type (slot : Option SchemaType) :
    partValue? true (.keyed none) (plainPart (.optional (.word SchemaType.words)))
      ((slot.map fun type => .text type.word).map Json.schemaReading) = some slot := by
  cases slot with
  | none => rfl
  | some type => cases type <;> rfl

theorem partValue?_texts (texts : List String) :
    partValue? true (.always []) (plainPart (.list .text))
      ((filledList (texts.map .text)).map Json.schemaReading) = some texts := by
  cases texts with
  | nil => rfl
  | cons first rest => exact fromContent?_texts (first :: rest)

theorem partValue?_optionalTexts (slot : Option (List String)) :
    partValue? true (.always none) (plainPart (.optional (.list .text)))
      ((slot.map fun texts => .list (texts.map .text)).map Json.schemaReading) = some slot := by
  cases slot with
  | none => rfl
  | some texts => exact congrArg (Option.map some) (fromContent?_texts texts)

end Parts

/-! ## Schemas -/

mutual
/-- In every map of the schema, at every depth, each key stands once. -/
def SchemaOrRef.KeysDistinct : SchemaOrRef → Prop
  | .ref _ _ => True
  | .inline schema => schema.KeysDistinct
termination_by structural schema => schema

def Schema.KeysDistinct : Schema → Prop
  | ⟨_, _, _, properties, _, additional, items, allOf, oneOf, _⟩ =>
      Entries.Distinct properties ∧ Schema.entriesKeysDistinct properties ∧
        Schema.optionalKeysDistinct additional ∧ Schema.optionalKeysDistinct items ∧
        Schema.listKeysDistinct allOf ∧ Schema.choiceKeysDistinct oneOf
termination_by structural schema => schema

def Schema.entriesKeysDistinct : List (String × SchemaOrRef) → Prop
  | [] => True
  | (_, schema) :: rest => schema.KeysDistinct ∧ Schema.entriesKeysDistinct rest
termination_by structural entries => entries

def Schema.optionalKeysDistinct : Option SchemaOrRef → Prop
  | some schema => schema.KeysDistinct
  | none => True
termination_by structural schema => schema

def Schema.listKeysDistinct : List SchemaOrRef → Prop
  | [] => True
  | schema :: rest => schema.KeysDistinct ∧ Schema.listKeysDistinct rest
termination_by structural schemas => schemas

def Schema.choiceKeysDistinct : Option (List SchemaOrRef) → Prop
  | some schemas => Schema.listKeysDistinct schemas
  | none => True
termination_by structural schemas => schemas
end

/-- A written schema object has no member that makes it a pointer. -/
theorem SchemaOrRef.refOf?_members (schema : Schema) :
    refOf? (.ofMembers (schema.members.map fun member => (member.1, member.2.schemaReading))) =
      none := by
  have slots : (Body.ofMembers (schema.members.map fun member =>
      (member.1, member.2.schemaReading))).slots? ["$ref", "description"] =
        some [none, (schema.description.map .text).map Json.schemaReading] := by
    rw [Body.slots?_ofMembers (by decide), mapM_eq_some_iff]
    simp only [valuesOf_map, Schema.members, valuesOf_append, valuesOf_memberIfSome]
    simp
  unfold refOf?
  rw [slots]
  split
  · rfl
  · rfl

/-- A written schema object is read field by field. -/
theorem Schema.of?_members {schema : Schema}
    (properties : partValue? true (.always []) SchemaReading.entries
      ((filledObject (Schema.entriesJson schema.properties)).map Json.schemaReading) =
        some schema.properties)
    (additional : partValue? true (.keyed none) (nullable SchemaReading.schema)
      ((Schema.optionalJson schema.additionalProperties).map Json.schemaReading) =
        some schema.additionalProperties)
    (items : partValue? true (.keyed none) (nullable SchemaReading.schema)
      ((Schema.optionalJson schema.items).map Json.schemaReading) = some schema.items)
    (allOf : partValue? true (.always []) SchemaReading.list
      ((filledList (Schema.listJson schema.allOf)).map Json.schemaReading) = some schema.allOf)
    (oneOf : partValue? true (.always none) (nullable SchemaReading.list)
      ((schema.oneOf.map fun schemas => .list (Schema.listJson schemas)).map
        Json.schemaReading) = some schema.oneOf) :
    Schema.of? (.ofMembers (schema.members.map fun member => (member.1, member.2.schemaReading))) =
      some schema := by
  unfold of?
  rw [schema.slots?_members Json.schemaReading]
  have keyed : (Body.ofMembers (schema.members.map fun member =>
    (member.1, member.2.schemaReading))).isKeyed = true := rfl
  simp only [keyed, partValue?_type, partValue?_text, properties, partValue?_texts, additional,
    items, allOf, oneOf, partValue?_optionalTexts, Option.bind_eq_bind, Option.bind_some]
  cases schema
  rfl

theorem SchemaOrRef.toJson_ne_null (schema : SchemaOrRef) : schema.toJson ≠ .null := by
  cases schema with
  | ref path description => simp [toJson]
  | inline schema => simp [toJson, Schema.toJson_eq]

theorem SchemaOrRef.read_inline {schema : Schema}
    (fields : Schema.of? (.ofMembers (schema.members.map fun member =>
      (member.1, member.2.schemaReading))) = some schema) :
    (SchemaOrRef.inline schema).toJson.schemaReading.schema = some (.inline schema) := by
  rw [toJson, Schema.toJson_eq, Json.schema_schemaReading_object, of?, refOf?_members, fields]
  rfl

/-- Null stands for nothing; any other tree is read. -/
theorem nullable_schemaReading {α : Type} (read : SchemaReading → Option α) {tree : Json}
    (notNull : tree ≠ .null) :
    nullable read tree.schemaReading = (read tree.schemaReading).map some := by
  unfold nullable
  rw [Json.content_schemaReading]
  cases tree with
  | null => exact absurd rfl notNull
  | bool | number | text | list | object => rfl

theorem Schema.read_entries {entries : List (String × SchemaOrRef)}
    (distinct : Entries.Distinct entries)
    (read : (Schema.entriesJson entries).mapM (fun (member : String × Json) =>
      member.2.schemaReading.schema.map (member.1, ·)) = some entries) :
    partValue? true (.always []) SchemaReading.entries
      ((filledObject (Schema.entriesJson entries)).map Json.schemaReading) = some entries := by
  cases entries with
  | nil => rfl
  | cons entry entries =>
      have whole := Json.entries_schemaReading_object (Schema.entriesJson (entry :: entries))
      rw [read, Option.map_some, Entries.ofPairs_of_distinct distinct] at whole
      exact whole

theorem Schema.read_list {schemas : List SchemaOrRef}
    (read : (Schema.listJson schemas).mapM (fun item => item.schemaReading.schema) =
      some schemas) :
    (Json.list (Schema.listJson schemas)).schemaReading.list = some schemas := by
  rw [Json.list_schemaReading_list, read]

mutual
/-- A written schema is read back, as a pointer if it was one and as a schema object if not. -/
theorem SchemaOrRef.read_toJson (schema : SchemaOrRef) (distinct : schema.KeysDistinct) :
    schema.toJson.schemaReading.schema = some schema := by
  match schema with
  | .ref path description => cases description <;> rfl
  | .inline ⟨type, format, description, properties, required, additional, items, allOf, oneOf,
      values⟩ =>
      obtain ⟨keys, below, additionalKeys, itemsKeys, allOfKeys, oneOfKeys⟩ := distinct
      refine SchemaOrRef.read_inline (Schema.of?_members ?_ ?_ ?_ ?_ ?_)
      · exact Schema.read_entries keys (Schema.read_entriesJson properties below)
      · exact Schema.read_optionalJson additional additionalKeys
      · exact Schema.read_optionalJson items itemsKeys
      · have read := Schema.read_list (Schema.read_listJson allOf allOfKeys)
        cases allOf with
        | nil => rfl
        | cons schema schemas => exact read
      · exact Schema.read_choice oneOf oneOfKeys
termination_by sizeOf schema

theorem Schema.read_entriesJson (entries : List (String × SchemaOrRef))
    (distinct : Schema.entriesKeysDistinct entries) :
    (Schema.entriesJson entries).mapM (fun (member : String × Json) =>
      member.2.schemaReading.schema.map (member.1, ·)) = some entries := by
  match entries with
  | [] => rfl
  | (key, schema) :: entries =>
      have first := SchemaOrRef.read_toJson schema distinct.1
      have rest := Schema.read_entriesJson entries distinct.2
      rw [Schema.entriesJson, List.mapM_cons, rest, first]
      rfl
termination_by sizeOf entries

theorem Schema.read_optionalJson (schema : Option SchemaOrRef)
    (distinct : Schema.optionalKeysDistinct schema) :
    partValue? true (.keyed none) (nullable SchemaReading.schema)
      ((Schema.optionalJson schema).map Json.schemaReading) = some schema := by
  match schema with
  | none => rfl
  | some schema =>
      have read := SchemaOrRef.read_toJson schema distinct
      simp only [Schema.optionalJson, Option.map_some, partValue?]
      rw [nullable_schemaReading _ schema.toJson_ne_null, read]
      rfl
termination_by sizeOf schema

theorem Schema.read_listJson (schemas : List SchemaOrRef)
    (distinct : Schema.listKeysDistinct schemas) :
    (Schema.listJson schemas).mapM (fun item => item.schemaReading.schema) = some schemas := by
  match schemas with
  | [] => rfl
  | schema :: schemas =>
      have first := SchemaOrRef.read_toJson schema distinct.1
      have rest := Schema.read_listJson schemas distinct.2
      rw [Schema.listJson, List.mapM_cons, rest, first]
      rfl
termination_by sizeOf schemas

theorem Schema.read_choice (schemas : Option (List SchemaOrRef))
    (distinct : Schema.choiceKeysDistinct schemas) :
    partValue? true (.always none) (nullable SchemaReading.list)
      ((schemas.map fun schemas => .list (Schema.listJson schemas)).map Json.schemaReading) =
        some schemas := by
  match schemas with
  | none => rfl
  | some schemas =>
      have read := Schema.read_list (Schema.read_listJson schemas distinct)
      simp only [Option.map_some, partValue?]
      rw [nullable_schemaReading _ (by simp), read]
      rfl
termination_by sizeOf schemas
end

theorem SchemaOrRef.reads_toJson {schema : SchemaOrRef} (distinct : schema.KeysDistinct) :
    SchemaOrRef.layout.Reads schema.toJson schema :=
  Layout.reads_iff.mpr (SchemaOrRef.read_toJson schema distinct)

theorem Schema.reads_entriesJson {entries : List (String × SchemaOrRef)}
    (distinct : Schema.entriesKeysDistinct entries) :
    List.Forall₂ (fun member entry => member.1 = entry.1 ∧
      SchemaOrRef.layout.Reads member.2 entry.2) (Schema.entriesJson entries) entries := by
  induction entries with
  | nil => exact .nil
  | cons entry entries ih =>
      exact .cons ⟨rfl, SchemaOrRef.reads_toJson distinct.1⟩ (ih distinct.2)

/-! ## Fragments -/

section WrittenFields

variable {α : Type}

theorem Layout.fieldReads_optional {value : Layout α} {absence : Absence (Option α)}
    (missing : absence.value? true = some none) {write : α → Json}
    (notNull : ∀ item, write item ≠ .null) (reads : ∀ item, value.Reads (write item) item)
    (slot : Option α) :
    (Layout.optional value).FieldReads absence (slot.map write).toList slot := by
  cases slot with
  | none => exact .inl ⟨rfl, missing⟩
  | some item => exact .inr ⟨_, rfl, reads_optional_of_reads (notNull item) (reads item)⟩

theorem Layout.fieldReads_filledList {item : Layout α} {trees : List Json} {results : List α}
    (reads : List.Forall₂ item.Reads trees results) :
    (Layout.list item).FieldReads (.always []) (filledList trees).toList results := by
  cases reads with
  | nil => exact .inl ⟨rfl, rfl⟩
  | cons head rest => exact .inr ⟨_, rfl, reads_list_iff.mpr (.cons head rest)⟩

theorem Layout.fieldReads_filledObject {value : Layout α} {members : List (String × Json)}
    {results : List (String × α)} (distinct : Entries.Distinct results)
    (reads : List.Forall₂ (fun member result => member.1 = result.1 ∧
      value.Reads member.2 result.2) members results) :
    (Layout.entries value).FieldReads (.always []) (filledObject members).toList results := by
  cases reads with
  | nil => exact .inl ⟨rfl, rfl⟩
  | cons head rest => exact .inr ⟨_, rfl, reads_entries distinct (.cons head rest)⟩

end WrittenFields

theorem SecurityScheme.reads_toJson (scheme : SecurityScheme) :
    SecurityScheme.layout.Reads scheme.toJson scheme := by
  refine (Layout.reads_record_iff (by decide)).mpr
    ⟨(scheme.kind, scheme.name, scheme.location, scheme.scheme, ()), ?_, rfl⟩
  simp only [Fields.GivenBy, valuesOf_cons, valuesOf_append, valuesOf_memberIfSome]
  refine ⟨.inr ⟨_, rfl, ?_⟩, ?_, ?_, ?_, trivial⟩
  · cases scheme.kind <;> exact Layout.reads_word rfl
  · simpa using Layout.fieldReads_optional rfl (by simp)
      (fun _ => Layout.reads_text_iff.mpr rfl) scheme.name
  · have reads : ∀ location : KeyLocation,
        (Layout.word [("header", KeyLocation.header)]).Reads (.text location.word) location := by
      intro location
      cases location
      exact Layout.reads_word rfl
    simpa using Layout.fieldReads_optional rfl (by simp) reads scheme.location
  · simpa using Layout.fieldReads_optional rfl (by simp)
      (fun _ => Layout.reads_text_iff.mpr rfl) scheme.scheme

theorem SecurityRequirement.reads_toJson {requirement : SecurityRequirement}
    (distinct : requirement.Distinct) :
    (Layout.entries (.list .text)).Reads requirement.toJson requirement := by
  refine Layout.reads_entries distinct (List.forall₂_map_left_iff.mpr ?_)
  exact List.forall₂_same.mpr fun entry _ => ⟨rfl, Layout.reads_texts entry.2⟩

/-- In every map of the components, at every depth, each key stands once. -/
def Components.KeysDistinct (components : Components) : Prop :=
  components.schemas.Distinct ∧ Schema.entriesKeysDistinct components.schemas ∧
    components.securitySchemes.Distinct

theorem Components.reads_toJson {components : Components} (distinct : components.KeysDistinct) :
    Components.layout.Reads components.toJson components := by
  obtain ⟨schemas, below, schemes⟩ := distinct
  refine (Layout.reads_record_iff (by decide)).mpr
    ⟨(components.schemas, components.securitySchemes, ()), ?_, rfl⟩
  simp only [Fields.GivenBy, memberIfMembers_eq, valuesOf_append, valuesOf_memberIfSome]
  refine ⟨?_, ?_, trivial⟩
  · simpa using Layout.fieldReads_filledObject schemas (Schema.reads_entriesJson below)
  · have each : List.Forall₂ (fun (member : String × Json) (entry : String × SecurityScheme) =>
        member.1 = entry.1 ∧ SecurityScheme.layout.Reads member.2 entry.2)
        (components.securitySchemes.map fun entry => (entry.1, entry.2.toJson))
        components.securitySchemes :=
      List.forall₂_map_left_iff.mpr
        (List.forall₂_same.mpr fun entry _ => ⟨rfl, entry.2.reads_toJson⟩)
    simpa using Layout.fieldReads_filledObject schemes each

/-- In every map of the fragment, at every depth, each key stands once. -/
def Fragment.KeysDistinct (fragment : Fragment) : Prop :=
  fragment.components.KeysDistinct ∧ ∀ requirement ∈ fragment.security, requirement.Distinct

/-- A written fragment is read back as it was: no section that was left out, no map or list, no
    pointer and no schema object comes back as another. -/
theorem Fragment.read_as_written {fragment : Fragment} (distinct : fragment.KeysDistinct) :
    Fragment.layout.Reads fragment.toJson fragment := by
  obtain ⟨components, requirements⟩ := distinct
  refine (Layout.reads_record_iff (by decide)).mpr
    ⟨(fragment.components, fragment.security, ()), ?_, rfl⟩
  simp only [Fields.GivenBy, memberIfItems_eq, valuesOf_cons, valuesOf_memberIfSome]
  refine ⟨.inr ⟨_, by simp, Components.reads_toJson components⟩, ?_, trivial⟩
  have each : List.Forall₂ (Layout.entries (.list .text)).Reads
      (fragment.security.map SecurityRequirement.toJson) fragment.security :=
    List.forall₂_map_left_iff.mpr (List.forall₂_same.mpr fun requirement member =>
      SecurityRequirement.reads_toJson (requirements requirement member))
  simpa using Layout.fieldReads_filledList each

/-- Schemas and properties that are named like keywords, a choice of nothing, an enumeration
    without values, and pointers beside schema objects. -/
def keywordFragment : Fragment where
  components :=
    { schemas :=
        [("$ref", .inline
            { type := some .object
              properties :=
                [("$ref", .ref "#/components/schemas/type" (some "A pointer.")),
                  ("type", .inline (.typed .string)), ("oneOf", .inline { oneOf := some [] })]
              required := ["$ref"] }),
          ("type", .inline
            { allOf := [.reference "#/components/schemas/$ref", .inline { enumValues := some [] }]
              additionalProperties := some (.inline {}) })]
      securitySchemes := [("key", .headerKey "X-Key"), ("bearer", .httpScheme "bearer")] }
  security := [[("bearer", []), ("key", ["read"])], []]

theorem keywordFragment_reads :
    keywordFragment.KeysDistinct ∧
      Fragment.layout.Reads keywordFragment.toJson keywordFragment := by
  have distinct : keywordFragment.KeysDistinct := by
    simp [keywordFragment, Fragment.KeysDistinct, Components.KeysDistinct,
      Schema.entriesKeysDistinct, SchemaOrRef.KeysDistinct, Schema.KeysDistinct,
      Schema.optionalKeysDistinct, Schema.listKeysDistinct, Schema.choiceKeysDistinct,
      Schema.typed, SchemaOrRef.reference, Entries.Distinct]
  exact ⟨distinct, Fragment.read_as_written distinct⟩

end ApiComponents
