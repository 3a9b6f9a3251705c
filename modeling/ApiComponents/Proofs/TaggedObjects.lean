import ApiComponents.Proofs.TypeNodes

/-! # Tagged objects

A tree that is written as an object is read as a known variant when its one tag member names the
variant and each field of the variant is given as it should be. Other members count for nothing.
-/

namespace ApiComponents

open Members

/-- The one tag member names a variant, by its word or by its place. -/
def Tagged (variants : List String) (place : Nat) (members : List (String × Json)) : Prop :=
  ∃ tag, valuesOf Content.tagKey members = [tag] ∧
    Content.choice? variants (.ofJson tag) = some place

/-- Exactly one member has the name, and its value is as it should be. -/
def Given (name : String) (members : List (String × Json)) (fits : Json → Prop) : Prop :=
  ∃ tree, valuesOf name members = [tree] ∧ fits tree

theorem variant?_object_iff {variants : List String} {place : Nat}
    {members : List (String × Json)} :
    (Content.ofJson (.object members)).variant? variants = some place ↔
      Tagged variants place members := by
  rw [Content.variant?_object, Tagged]
  match valuesOf Content.tagKey members with
  | [] | [_] | _ :: _ :: _ => simp

theorem slots?_object_iff {β : Type} {names : List String} (distinct : names.Nodup)
    (fresh : Content.tagKey ∉ names) {members : List (String × Json)} (reading : Json → β)
    (parts : List β) :
    ((Json.object members).payload.map reading).slots? names = some (parts.map some) ↔
      List.Forall₂ (fun name part => Given name members fun tree => reading tree = part) names
        parts := by
  rw [Json.payload, Json.body?, ← Body.untagged_map, Body.map_ofMembers,
    Body.slots?_untagged distinct fresh, mapM_eq_some_iff, List.forall₂_map_right_iff]
  refine iff_of_eq (congrArg (List.Forall₂ · names parts) ?_)
  funext name part
  rw [sole?_eq_some_iff, valuesOf_map, List.map_eq_singleton_iff, Given]

theorem Fields.fromBody?_payload_iff {σ ρ : Type} {fields : Fields σ ρ}
    (distinct : fields.names.Nodup) (fresh : Content.tagKey ∉ fields.names)
    {members : List (String × Json)} {values : ρ} :
    fields.fromBody? (Content.ofJson (.object members)).payload = some values ↔
      fields.GivenBy members values := by
  rw [← fields.bind_fromSlots?_iff, Content.payload_ofJson, Json.payload, Json.body?,
    ← Body.untagged_map, Body.map_ofMembers, fromBody?, Body.slots?_untagged distinct fresh]
  rfl

theorem slot?_object_iff {β : Type} {name : String} (fresh : Content.tagKey ≠ name)
    {members : List (String × Json)} (reading : Json → β) {part : β} :
    ((Json.object members).payload.map reading).slots? [name] = some [some part] ↔
      Given name members fun tree => reading tree = part := by
  have slot := @slots?_object_iff _ _ (List.nodup_singleton name) (by simpa using fresh) members
    reading [part]
  simpa using slot

theorem TypeReference.reads_primitive_iff {members : List (String × Json)} {inner : Primitive} :
    TypeReference.layout.Reads (.object members) (.primitive inner) ↔
      Tagged tags 0 members ∧ Given "primitive" members (Primitive.layout.Reads · inner) := by
  rw [reads_iff]
  constructor
  · rintro (recognized | ⟨-, kept, -, same⟩)
    · cases recognized with
      | primitive tag slot read =>
          rw [Content.payload_ofJson] at slot
          obtain ⟨tree, only, rfl⟩ := (slot?_object_iff (by decide) _).mp slot
          exact ⟨variant?_object_iff.mp tag, tree, only, Layout.reads_whole_iff.mpr read⟩
    · cases same
  · rintro ⟨tag, tree, only, reads⟩
    have slot : (Content.ofJson (.object members)).payload.slots? ["primitive"] =
        some [some (.ofJson tree)] := by
      rw [Content.payload_ofJson]
      exact (slot?_object_iff (by decide) _).mpr ⟨tree, only, rfl⟩
    exact .inl (.primitive (variant?_object_iff.mpr tag) slot (Layout.reads_whole_iff.mp reads))

theorem TypeReference.reads_container_iff {members : List (String × Json)}
    {inner : ContainerType} :
    TypeReference.layout.Reads (.object members) (.container inner) ↔
      Tagged tags 1 members ∧ Given "container" members (ContainerType.layout.Reads · inner) := by
  rw [reads_iff]
  constructor
  · rintro (recognized | ⟨-, kept, -, same⟩)
    · cases recognized with
      | container tag slot read =>
          obtain ⟨tree, only, rfl⟩ := (slot?_object_iff (by decide) _).mp slot
          exact ⟨variant?_object_iff.mp tag, tree, only, Layout.reads_whole_iff.mpr read⟩
    · cases same
  · rintro ⟨tag, tree, only, reads⟩
    exact .inl (.container (variant?_object_iff.mpr tag)
      ((slot?_object_iff (by decide) _).mpr ⟨tree, only, rfl⟩) (Layout.reads_whole_iff.mp reads))

theorem TypeReference.reads_named_iff {members : List (String × Json)} {inner : DeclaredName} :
    TypeReference.layout.Reads (.object members) (.named inner) ↔
      Tagged tags 2 members ∧ DeclaredName.fields.GivenBy members (inner.path, inner.leaf, ()) := by
  rw [reads_iff]
  constructor
  · rintro (recognized | ⟨-, kept, -, same⟩)
    · cases recognized with
      | named tag read =>
          exact ⟨variant?_object_iff.mp tag,
            (Fields.fromBody?_payload_iff (by decide) (by decide)).mp read⟩
    · cases same
  · rintro ⟨tag, given⟩
    exact .inl (.named (variant?_object_iff.mpr tag)
      ((Fields.fromBody?_payload_iff (by decide) (by decide)).mpr given))

theorem isBare_object (members : List (String × Json)) :
    (Content.ofJson (.object members)).payload.isBare = true := by
  rw [Content.payload_ofJson, Body.isBare_map]
  rfl

theorem TypeReference.reads_unknown {members : List (String × Json)} (tag : Tagged tags 3 members) :
    TypeReference.layout.Reads (.object members) .unknown :=
  reads_iff.mpr (.inl (.unknown (variant?_object_iff.mpr tag) (isBare_object members)))

theorem TypeReference.reads_void {members : List (String × Json)} (tag : Tagged tags 4 members) :
    TypeReference.layout.Reads (.object members) .void :=
  reads_iff.mpr (.inl (.void (variant?_object_iff.mpr tag) (isBare_object members)))

theorem typeSlot_iff {name : String} (fresh : Content.tagKey ≠ name)
    {members : List (String × Json)} {inner : TypeReference} :
    (∃ part, (Json.object members).typeParts.slots? [name] = some [some part] ∧
      part.reference = some inner) ↔
      Given name members (TypeReference.layout.Reads · inner) := by
  constructor
  · rintro ⟨part, slot, read⟩
    obtain ⟨tree, only, rfl⟩ := (slot?_object_iff fresh _).mp slot
    exact ⟨tree, only, Layout.reads_whole_iff.mpr read⟩
  · rintro ⟨tree, only, reads⟩
    exact ⟨_, (slot?_object_iff fresh _).mpr ⟨tree, only, rfl⟩, Layout.reads_whole_iff.mp reads⟩

namespace ContainerType

variable {members : List (String × Json)}

theorem reads_list_iff {element : TypeReference} :
    layout.Reads (.object members) (.list element) ↔
      Tagged tags 0 members ∧ Given "list" members (TypeReference.layout.Reads · element) := by
  rw [reads_iff]
  constructor
  · rintro (recognized | ⟨-, kept, -, same⟩)
    · cases recognized with
      | list tag slot read =>
          exact ⟨variant?_object_iff.mp tag, (typeSlot_iff (by decide)).mp ⟨_, slot, read⟩⟩
    · cases same
  · rintro ⟨tag, given⟩
    obtain ⟨part, slot, read⟩ := (typeSlot_iff (by decide)).mpr given
    exact .inl (.list (variant?_object_iff.mpr tag) slot read)

theorem reads_set_iff {element : TypeReference} :
    layout.Reads (.object members) (.set element) ↔
      Tagged tags 1 members ∧ Given "set" members (TypeReference.layout.Reads · element) := by
  rw [reads_iff]
  constructor
  · rintro (recognized | ⟨-, kept, -, same⟩)
    · cases recognized with
      | set tag slot read =>
          exact ⟨variant?_object_iff.mp tag, (typeSlot_iff (by decide)).mp ⟨_, slot, read⟩⟩
    · cases same
  · rintro ⟨tag, given⟩
    obtain ⟨part, slot, read⟩ := (typeSlot_iff (by decide)).mpr given
    exact .inl (.set (variant?_object_iff.mpr tag) slot read)

theorem reads_map_iff {key value : TypeReference} :
    layout.Reads (.object members) (.map key value) ↔
      Tagged tags 2 members ∧ Given "keyType" members (TypeReference.layout.Reads · key) ∧
        Given "valueType" members (TypeReference.layout.Reads · value) := by
  rw [reads_iff]
  have slots := @slots?_object_iff _ ["keyType", "valueType"] (by decide) (by decide) members
    fun tree => (Content.ofJson tree).typeReading
  constructor
  · rintro (recognized | ⟨-, kept, -, same⟩)
    · cases recognized with
      | @map first second _ _ tag found readKey readValue =>
          obtain ⟨⟨left, leftOnly, rfl⟩, ⟨right, rightOnly, rfl⟩⟩ :
              Given "keyType" members _ ∧ Given "valueType" members _ := by
            simpa using (slots [first, second]).mp found
          exact ⟨variant?_object_iff.mp tag,
            ⟨left, leftOnly, Layout.reads_whole_iff.mpr readKey⟩,
            ⟨right, rightOnly, Layout.reads_whole_iff.mpr readValue⟩⟩
    · cases same
  · rintro ⟨tag, ⟨left, leftOnly, readKey⟩, ⟨right, rightOnly, readValue⟩⟩
    have found := (slots [_, _]).mpr
      (.cons ⟨left, leftOnly, rfl⟩ (.cons ⟨right, rightOnly, rfl⟩ .nil))
    exact .inl (.map (variant?_object_iff.mpr tag) found (Layout.reads_whole_iff.mp readKey)
      (Layout.reads_whole_iff.mp readValue))

theorem reads_optional_iff {inner : TypeReference} :
    layout.Reads (.object members) (.optional inner) ↔
      Tagged tags 3 members ∧ Given "optional" members (TypeReference.layout.Reads · inner) := by
  rw [reads_iff]
  constructor
  · rintro (recognized | ⟨-, kept, -, same⟩)
    · cases recognized with
      | optional tag slot read =>
          exact ⟨variant?_object_iff.mp tag, (typeSlot_iff (by decide)).mp ⟨_, slot, read⟩⟩
    · cases same
  · rintro ⟨tag, given⟩
    obtain ⟨part, slot, read⟩ := (typeSlot_iff (by decide)).mpr given
    exact .inl (.optional (variant?_object_iff.mpr tag) slot read)

end ContainerType

namespace TypeShape

variable {members : List (String × Json)}

theorem reads_aliasOf_iff {target : TypeReference} :
    layout.Reads (.object members) (.aliasOf target) ↔
      Tagged tags 0 members ∧ aliasFields.GivenBy members (target, ()) := by
  rw [reads_iff]
  constructor
  · rintro (recognized | ⟨-, kept, -, same⟩)
    · cases recognized with
      | aliasOf tag read =>
          exact ⟨variant?_object_iff.mp tag,
            (Fields.fromBody?_payload_iff (by decide) (by decide)).mp read⟩
    · cases same
  · rintro ⟨tag, given⟩
    exact .inl (.aliasOf (variant?_object_iff.mpr tag)
      ((Fields.fromBody?_payload_iff (by decide) (by decide)).mpr given))

theorem reads_enumeration_iff {values : List EnumValue} :
    layout.Reads (.object members) (.enumeration values) ↔
      Tagged tags 1 members ∧ enumerationFields.GivenBy members (values, ()) := by
  rw [reads_iff]
  constructor
  · rintro (recognized | ⟨-, kept, -, same⟩)
    · cases recognized with
      | enumeration tag read =>
          exact ⟨variant?_object_iff.mp tag,
            (Fields.fromBody?_payload_iff (by decide) (by decide)).mp read⟩
    · cases same
  · rintro ⟨tag, given⟩
    exact .inl (.enumeration (variant?_object_iff.mpr tag)
      ((Fields.fromBody?_payload_iff (by decide) (by decide)).mpr given))

theorem reads_object_iff {parents : List DeclaredName} {properties : List Property} :
    layout.Reads (.object members) (.object parents properties) ↔
      Tagged tags 2 members ∧ objectFields.GivenBy members (parents, properties, ()) := by
  rw [reads_iff]
  constructor
  · rintro (recognized | ⟨-, kept, -, same⟩)
    · cases recognized with
      | object tag read =>
          exact ⟨variant?_object_iff.mp tag,
            (Fields.fromBody?_payload_iff (by decide) (by decide)).mp read⟩
    · cases same
  · rintro ⟨tag, given⟩
    exact .inl (.object (variant?_object_iff.mpr tag)
      ((Fields.fromBody?_payload_iff (by decide) (by decide)).mpr given))

theorem reads_union_iff {discriminant : String} {variants : List UnionVariant} :
    layout.Reads (.object members) (.union discriminant variants) ↔
      Tagged tags 3 members ∧ unionFields.GivenBy members (discriminant, variants, ()) := by
  rw [reads_iff]
  constructor
  · rintro (recognized | ⟨-, kept, -, same⟩)
    · cases recognized with
      | union tag read =>
          exact ⟨variant?_object_iff.mp tag,
            (Fields.fromBody?_payload_iff (by decide) (by decide)).mp read⟩
    · cases same
  · rintro ⟨tag, given⟩
    exact .inl (.union (variant?_object_iff.mpr tag)
      ((Fields.fromBody?_payload_iff (by decide) (by decide)).mpr given))

end TypeShape

namespace AuthScheme

variable {members : List (String × Json)}

theorem reads_bearer (tag : Tagged tags 0 members) : layout.Reads (.object members) .bearer :=
  reads_iff.mpr (.inl (.bearer (variant?_object_iff.mpr tag) (isBare_object members)))

theorem reads_basic (tag : Tagged tags 1 members) : layout.Reads (.object members) .basic :=
  reads_iff.mpr (.inl (.basic (variant?_object_iff.mpr tag) (isBare_object members)))

theorem reads_header {wire name : String} (tag : Tagged tags 2 members)
    (given : headerFields.GivenBy members (wire, name, ())) :
    layout.Reads (.object members) (.header wire name) :=
  reads_iff.mpr (.inl (.header (variant?_object_iff.mpr tag)
    ((Fields.fromBody?_payload_iff (by decide) (by decide)).mpr given)))

end AuthScheme

end ApiComponents
