import ApiComponents.Proofs.KeptValues
import ApiComponents.Proofs.TreeBounds

/-! # The trees of saved descriptions

What is saved of a loaded description repeats no member, and it is hardly deeper than the tree from
which the description was loaded: what was left out there and is written here takes one level.
-/

namespace ApiComponents

/-! ## What is saved is regular -/

namespace Json

theorem regular_list {items : List Json} (each : ∀ item ∈ items, item.Regular) :
    (list items).Regular :=
  itemsRegular_iff.mpr each

theorem regular_map {α : Type} {write : α → Json} {items : List α}
    (each : ∀ item ∈ items, (write item).Regular) : (list (items.map write)).Regular :=
  regular_list (List.forall_mem_map.mpr each)

theorem regular_texts (texts : List String) : (list (texts.map text)).Regular :=
  regular_map fun _ _ => trivial

end Json

theorem DeclaredName.regular_toJson (name : DeclaredName) : name.toJson.Regular :=
  ⟨by simp [members], Json.regular_texts name.path, trivial, trivial⟩

mutual
/-- A type that keeps values in normal form is saved as a regular tree. -/
theorem TypeReference.regular_toJson {reference : TypeReference}
    (normal : reference.Meets .normal) : reference.toJson.Regular := by
  cases reference with
  | primitive primitive => exact ⟨by simp, trivial, trivial, trivial⟩
  | container container =>
      exact ⟨by simp, trivial, ContainerType.regular_toJson normal, trivial⟩
  | named name =>
      exact ⟨by simp [DeclaredName.members], trivial, Json.regular_texts name.path, trivial,
        trivial⟩
  | unknown | void => exact ⟨by simp, trivial, trivial⟩
  | unrecognized value => exact Json.Normal.regular normal

theorem ContainerType.regular_toJson {container : ContainerType}
    (normal : container.Meets .normal) : container.toJson.Regular := by
  cases container with
  | list element => exact ⟨by simp, trivial, TypeReference.regular_toJson normal, trivial⟩
  | set element => exact ⟨by simp, trivial, TypeReference.regular_toJson normal, trivial⟩
  | map key value =>
      exact ⟨by simp, trivial, TypeReference.regular_toJson normal.1,
        TypeReference.regular_toJson normal.2, trivial⟩
  | optional inner => exact ⟨by simp, trivial, TypeReference.regular_toJson normal, trivial⟩
  | unrecognized value => exact Json.Normal.regular normal
end

theorem EnumValue.regular_toJson (value : EnumValue) : value.toJson.Regular := by
  obtain ⟨word, docs⟩ := value
  cases docs with
  | none => exact ⟨by simp [docsMember], trivial, trivial⟩
  | some docs => exact ⟨by simp [docsMember], trivial, trivial, trivial⟩

theorem Property.regular_toJson {property : Property} (normal : property.type.Meets .normal) :
    property.toJson.Regular := by
  have type := TypeReference.regular_toJson normal
  obtain ⟨key, reference, docs⟩ := property
  cases docs with
  | none => exact ⟨by simp [docsMember], trivial, type, trivial⟩
  | some docs => exact ⟨by simp [docsMember], trivial, type, trivial, trivial⟩

theorem UnionVariant.regular_toJson {variant : UnionVariant}
    (normal : variant.type.Meets .normal) : variant.toJson.Regular := by
  have type := TypeReference.regular_toJson normal
  obtain ⟨tag, reference, docs⟩ := variant
  cases docs with
  | none => exact ⟨by simp [docsMember], trivial, type, trivial⟩
  | some docs => exact ⟨by simp [docsMember], trivial, type, trivial, trivial⟩

theorem TypeShape.regular_toJson {shape : TypeShape} (normal : shape.Meets .normal) :
    shape.toJson.Regular := by
  cases shape with
  | aliasOf target => exact ⟨by simp, trivial, TypeReference.regular_toJson normal, trivial⟩
  | enumeration values =>
      exact ⟨by simp, trivial, Json.regular_map fun value _ => value.regular_toJson, trivial⟩
  | object parents properties =>
      exact ⟨by simp, trivial, Json.regular_map fun parent _ => parent.regular_toJson,
        Json.regular_map fun property inside => Property.regular_toJson (normal property inside),
        trivial⟩
  | union discriminant variants =>
      exact ⟨by simp, trivial, trivial,
        Json.regular_map fun variant inside => UnionVariant.regular_toJson (normal variant inside),
        trivial⟩
  | unrecognized value => exact Json.Normal.regular normal

theorem Declaration.regular_toJson {declaration : Declaration}
    (normal : declaration.shape.Meets .normal) : declaration.toJson.Regular := by
  have regular := TypeShape.regular_toJson normal
  obtain ⟨name, docs, shape⟩ := declaration
  cases docs with
  | none => exact ⟨by simp [docsMember], name.regular_toJson, regular, trivial⟩
  | some docs => exact ⟨by simp [docsMember], name.regular_toJson, trivial, regular, trivial⟩

theorem AuthScheme.regular_toJson {scheme : AuthScheme} (normal : scheme.Meets .normal) :
    scheme.toJson.Regular := by
  cases scheme with
  | bearer | basic => exact ⟨by simp, trivial, trivial⟩
  | header wire name => exact ⟨by simp, trivial, trivial, trivial, trivial⟩
  | unrecognized value => exact Json.Normal.regular normal

theorem Auth.regular_toJson {auth : Auth} (normal : auth.Meets .normal) :
    auth.toJson.Regular :=
  ⟨by simp, trivial,
    Json.regular_map fun scheme inside => AuthScheme.regular_toJson (normal.2 scheme inside),
    trivial⟩

/-- A description that keeps values in normal form is saved as a regular tree. -/
theorem ApiDescription.regular_toJson {description : ApiDescription}
    (normal : description.Meets .normal) : description.toJson.Regular :=
  ⟨by simp, Json.regular_map fun declaration inside =>
      Declaration.regular_toJson (normal.1 declaration inside),
    Auth.regular_toJson normal.2, trivial⟩

/-! ## What is saved is bounded -/

section Bounds

variable {fit : Json.Number → Prop}

namespace Json

/-- Whatever has parts has a level for them. -/
theorem Within.inner {tree part : Json} {bound : Nat} (within : tree.Within fit bound)
    (inside : part ∈ tree.parts) : ∃ inner, inner + 1 = bound ∧ part.Within fit inner := by
  cases bound with
  | zero =>
      cases tree with
      | list | object => cases within
      | null | bool | number | text => cases inside
  | succ inner => exact ⟨inner, rfl, within.part inside⟩

/-- So has whatever is read as a record or says by a tag what it is. -/
theorem Within.exists_of_body? {tree : Json} {bound : Nat} {body : Body Json}
    (within : tree.Within fit bound) (record : tree.body? = some body) :
    ∃ inner, inner + 1 = bound := by
  cases bound with
  | zero =>
      cases tree with
      | list | object => cases within
      | null | bool | number | text => cases record
  | succ inner => exact ⟨inner, rfl⟩

theorem Within.exists_of_variant? {tree : Json} {bound : Nat} {variants : List String}
    {place : Nat} (within : tree.Within fit bound)
    (tagged : (Content.ofJson tree).variant? variants = some place) :
    ∃ inner, inner + 1 = bound := by
  cases tree with
  | list items => exact within.exists_of_body? rfl
  | object members => exact within.exists_of_body? rfl
  | null | bool | number | text => cases tagged

end Json

theorem Json.Within.exists_of_record {σ ρ α : Type} {name : String} {fields : Fields σ ρ}
    {build : ρ → α} {tree : Json} {value : α} {bound : Nat} (within : tree.Within fit bound)
    (reads : (Layout.record name fields build).Reads tree value) : ∃ inner, inner + 1 = bound := by
  rw [Layout.reads_iff, Layout.fromContent?_record, Body.of?_ofJson] at reads
  obtain ⟨values, read, -⟩ := Option.map_eq_some_iff.mp reads
  obtain ⟨content, found, -⟩ := Option.bind_eq_some_iff.mp read
  obtain ⟨body, record, -⟩ := Option.map_eq_some_iff.mp found
  exact within.exists_of_body? record

theorem within_docsMember (bound : Nat) (docs : Option String) :
    ∀ member ∈ docsMember docs, member.2.Within fit bound := by
  cases docs <;> simp [docsMember]

theorem DeclaredName.within_members (bound : Nat) (name : DeclaredName) :
    ∀ member ∈ name.members, member.2.Within fit (bound + 1) := by
  simp [members]

/-- A name is written in two levels, and it is read from at least one. -/
theorem DeclaredName.within_toJson {tree : Json} {name : DeclaredName} {bound : Nat}
    (within : tree.Within fit bound) (reads : DeclaredName.layout.Reads tree name) :
    name.toJson.Within fit (bound + 1) := by
  obtain ⟨values, ⟨-, given, -⟩, rfl⟩ := Layout.fromParts_of_reads reads
  rcases given with ⟨isKeyed, missing⟩ | ⟨part, inside, -⟩
  · cases missing
  · obtain ⟨inner, rfl, -⟩ := within.inner inside
    exact within_members inner _

theorem within_taggedObject {tag : String} {members : List (String × Json)} {bound : Nat}
    (each : ∀ member ∈ members, member.2.Within fit bound) :
    (taggedObject tag members).Within fit (bound + 1) :=
  List.forall_mem_cons.mpr ⟨by simp, each⟩

mutual
/-- What is saved of a type takes at most one level more than the tree that it was read from. -/
theorem TypeReference.within_toJson {tree : Json} {reference : TypeReference} {bound : Nat}
    (within : tree.Within fit bound) (reads : TypeReference.layout.Reads tree reference) :
    reference.toJson.Within fit (bound + 1) := by
  rcases TypeReference.reads_iff.mp reads with recognized | ⟨-, kept, whole, rfl⟩
  · cases recognized with
    | primitive => exact within_taggedObject (by simp)
    | unknown | void => exact within_taggedObject nofun
    | container tag slot read =>
        obtain ⟨child, inside, rfl⟩ := typePart_of_slots? slot List.mem_cons_self
        obtain ⟨inner, rfl, childWithin⟩ := within.inner inside
        exact within_taggedObject (List.forall_mem_singleton.mpr
          (ContainerType.within_toJson childWithin (Layout.reads_whole_iff.mpr read)))
    | named tag read =>
        obtain ⟨-, given, -⟩ := Fields.fromParts_of_payload read
        rcases given with ⟨isKeyed, missing⟩ | ⟨part, inside, -⟩
        · cases missing
        · obtain ⟨inner, rfl, -⟩ := within.inner inside
          exact within_taggedObject (DeclaredName.within_members inner _)
  · exact (within.kept whole).mono (Nat.le_succ bound)
termination_by bound

theorem ContainerType.within_toJson {tree : Json} {container : ContainerType} {bound : Nat}
    (within : tree.Within fit bound) (reads : ContainerType.layout.Reads tree container) :
    container.toJson.Within fit (bound + 1) := by
  rcases ContainerType.reads_iff.mp reads with recognized | ⟨-, kept, whole, rfl⟩
  · cases recognized with
    | list tag slot read | set tag slot read | optional tag slot read =>
        obtain ⟨child, inside, rfl⟩ := typePart_of_slots? slot List.mem_cons_self
        obtain ⟨inner, rfl, childWithin⟩ := within.inner inside
        exact within_taggedObject (List.forall_mem_singleton.mpr
          (TypeReference.within_toJson childWithin (Layout.reads_whole_iff.mpr read)))
    | map tag slots readKey readValue =>
        obtain ⟨key, keyInside, rfl⟩ := typePart_of_slots? slots List.mem_cons_self
        obtain ⟨value, valueInside, rfl⟩ :=
          typePart_of_slots? slots (List.mem_cons_of_mem _ List.mem_cons_self)
        obtain ⟨inner, rfl, keyWithin⟩ := within.inner keyInside
        have savedKey := TypeReference.within_toJson keyWithin (Layout.reads_whole_iff.mpr readKey)
        have savedValue := TypeReference.within_toJson (within.part valueInside)
          (Layout.reads_whole_iff.mpr readValue)
        exact within_taggedObject
          (List.forall_mem_cons.mpr ⟨savedKey, List.forall_mem_singleton.mpr savedValue⟩)
  · exact (within.kept whole).mono (Nat.le_succ bound)
termination_by bound
end

theorem EnumValue.within_toJson (bound : Nat) (value : EnumValue) :
    value.toJson.Within fit (bound + 1) :=
  List.forall_mem_cons.mpr ⟨by simp, within_docsMember bound _⟩

theorem Property.within_toJson {tree : Json} {property : Property} {bound : Nat}
    (within : tree.Within fit bound) (reads : Property.layout.Reads tree property) :
    property.toJson.Within fit (bound + 1) := by
  obtain ⟨⟨key, type, docs, ⟨⟩⟩, ⟨-, given, -⟩, rfl⟩ := Layout.fromParts_of_reads reads
  rcases given with ⟨isKeyed, missing⟩ | ⟨part, inside, reads⟩
  · cases missing
  · obtain ⟨inner, rfl, partWithin⟩ := within.inner inside
    exact List.forall_mem_cons.mpr ⟨by simp, List.forall_mem_cons.mpr
      ⟨TypeReference.within_toJson partWithin reads, within_docsMember _ _⟩⟩

theorem UnionVariant.within_toJson {tree : Json} {variant : UnionVariant} {bound : Nat}
    (within : tree.Within fit bound) (reads : UnionVariant.layout.Reads tree variant) :
    variant.toJson.Within fit (bound + 1) := by
  obtain ⟨⟨tag, type, docs, ⟨⟩⟩, ⟨-, given, -⟩, rfl⟩ := Layout.fromParts_of_reads reads
  rcases given with ⟨isKeyed, missing⟩ | ⟨part, inside, reads⟩
  · cases missing
  · obtain ⟨inner, rfl, partWithin⟩ := within.inner inside
    exact List.forall_mem_cons.mpr ⟨by simp, List.forall_mem_cons.mpr
      ⟨TypeReference.within_toJson partWithin reads, within_docsMember _ _⟩⟩

/-- A list that may be left out is written within the bound of the record that it stands in. -/
theorem within_listGiven {α : Type} {item : Layout α} {write : α → Json} {parts : List Json}
    {values : List α} {bound : Nat} (within : ∀ part ∈ parts, part.Within fit bound)
    (each : ∀ {tree value inner}, tree.Within fit inner → item.Reads tree value →
      (write value).Within fit (inner + 1))
    (given : (∃ isKeyed, (Absence.always []).value? isKeyed = some values) ∨
      ∃ part ∈ parts, (Layout.list item).Reads part values) :
    (Json.list (values.map write)).Within fit (bound + 1) := by
  refine List.forall_mem_map.mpr fun value listed => ?_
  rcases given with ⟨isKeyed, empty⟩ | ⟨part, inside, reads⟩
  · cases empty
    cases listed
  · obtain ⟨tree, deep, readsItem⟩ := Layout.exists_part_of_reads_list reads listed
    obtain ⟨inner, rfl, treeWithin⟩ := (within part inside).inner deep
    exact each treeWithin readsItem

theorem TypeShape.within_toJson {tree : Json} {shape : TypeShape} {bound : Nat}
    (within : tree.Within fit bound) (reads : TypeShape.layout.Reads tree shape) :
    shape.toJson.Within fit (bound + 1) := by
  rcases reads_iff.mp reads with recognized | ⟨-, kept, whole, rfl⟩
  · cases recognized with
    | aliasOf tag read =>
        obtain ⟨given, -⟩ := Fields.fromParts_of_payload read
        rcases given with ⟨isKeyed, missing⟩ | ⟨part, inside, reads⟩
        · cases missing
        · obtain ⟨inner, rfl, partWithin⟩ := within.inner inside
          exact within_taggedObject
            (List.forall_mem_singleton.mpr (TypeReference.within_toJson partWithin reads))
    | enumeration tag read =>
        obtain ⟨given, -⟩ := Fields.fromParts_of_payload read
        obtain ⟨inner, rfl⟩ := within.exists_of_variant? tag
        exact within_taggedObject (List.forall_mem_singleton.mpr
          (within_listGiven (fun _ => within.part) (fun _ _ => EnumValue.within_toJson _ _) given))
    | object tag read =>
        obtain ⟨parentsGiven, given, -⟩ := Fields.fromParts_of_payload read
        obtain ⟨inner, rfl⟩ := within.exists_of_variant? tag
        refine within_taggedObject (List.forall_mem_cons.mpr ⟨?_, List.forall_mem_singleton.mpr ?_⟩)
        · exact within_listGiven (fun _ => within.part) DeclaredName.within_toJson parentsGiven
        · exact within_listGiven (fun _ => within.part) Property.within_toJson given
    | union tag read =>
        obtain ⟨-, given, -⟩ := Fields.fromParts_of_payload read
        obtain ⟨inner, rfl⟩ := within.exists_of_variant? tag
        refine within_taggedObject (List.forall_mem_cons.mpr
          ⟨by simp, List.forall_mem_singleton.mpr ?_⟩)
        exact within_listGiven (fun _ => within.part) UnionVariant.within_toJson given
  · exact (within.kept whole).mono (Nat.le_succ bound)

theorem Declaration.within_toJson {tree : Json} {declaration : Declaration} {bound : Nat}
    (within : tree.Within fit bound) (reads : Declaration.layout.Reads tree declaration) :
    declaration.toJson.Within fit (bound + 1) := by
  obtain ⟨⟨name, docs, shape, ⟨⟩⟩, ⟨nameGiven, -, shapeGiven, -⟩, rfl⟩ :=
    Layout.fromParts_of_reads reads
  rcases nameGiven with ⟨isKeyed, missing⟩ | ⟨namePart, nameInside, nameReads⟩
  · cases missing
  rcases shapeGiven with ⟨isKeyed, missing⟩ | ⟨shapePart, shapeInside, shapeReads⟩
  · cases missing
  obtain ⟨inner, rfl, nameWithin⟩ := within.inner nameInside
  have savedShape := TypeShape.within_toJson (within.part shapeInside) shapeReads
  refine List.forall_mem_cons.mpr ⟨DeclaredName.within_toJson nameWithin nameReads, ?_⟩
  exact List.forall_mem_append.mpr
    ⟨within_docsMember _ _, List.forall_mem_singleton.mpr savedShape⟩

theorem AuthScheme.within_toJson {tree : Json} {scheme : AuthScheme} {bound : Nat}
    (within : tree.Within fit bound) (reads : AuthScheme.layout.Reads tree scheme) :
    scheme.toJson.Within fit (bound + 1) := by
  rcases reads_iff.mp reads with recognized | ⟨-, kept, whole, rfl⟩
  · cases recognized with
    | bearer | basic => exact within_taggedObject nofun
    | header => exact within_taggedObject (by simp)
  · exact (within.kept whole).mono (Nat.le_succ bound)

theorem Auth.within_toJson {tree : Json} {auth : Auth} {bound : Nat}
    (within : tree.Within fit bound) (reads : Auth.layout.Reads tree auth) :
    auth.toJson.Within fit (bound + 1) := by
  obtain ⟨⟨requirement, schemes, ⟨⟩⟩, ⟨-, given, -⟩, rfl⟩ := Layout.fromParts_of_reads reads
  obtain ⟨inner, rfl⟩ := within.exists_of_record reads
  exact List.forall_mem_cons.mpr ⟨by simp, List.forall_mem_singleton.mpr
    (within_listGiven (fun _ => within.part) AuthScheme.within_toJson given)⟩

/-- What is saved of a description takes at most one level more than the tree that it was loaded
    from, and at least the three levels of an authentication without schemes. -/
theorem ApiDescription.within_toJson {tree : Json} {description : ApiDescription} {bound : Nat}
    (within : tree.Within fit bound) (some : 2 ≤ bound)
    (reads : ApiDescription.layout.Reads tree description) :
    description.toJson.Within fit (bound + 1) := by
  obtain ⟨⟨types, auth, ⟨⟩⟩, ⟨given, authGiven, -⟩, rfl⟩ := Layout.fromParts_of_reads reads
  obtain ⟨inner, rfl⟩ := Nat.exists_eq_add_of_le' some
  have savedTypes := within_listGiven (fun _ => within.part) Declaration.within_toJson given
  refine List.forall_mem_cons.mpr ⟨savedTypes, List.forall_mem_singleton.mpr ?_⟩
  rcases authGiven with ⟨isKeyed, none⟩ | ⟨part, inside, reads⟩
  · cases none
    simp [Auth.toJson, Auth.none]
  · exact Auth.within_toJson (within.part inside) reads

end Bounds

end ApiComponents
