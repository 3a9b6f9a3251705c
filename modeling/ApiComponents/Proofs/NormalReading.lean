import ApiComponents.Proofs.TypeNodes

/-! # Reading normal forms

A regular tree means the same as its normal form: as long as no name is repeated and every number
is finite, neither the order of members nor what else a normal form changes tells on what is read.
-/

namespace ApiComponents

open Members

/-! ## Slots -/

namespace Json

/-- The value of a regular tree is that of its normal form. -/
def Steady {β : Type} (read : Json → β) : Prop :=
  ∀ ⦃tree : Json⦄, tree.Regular → read tree.normalized = read tree

theorem Regular.part {tree part : Json} (regular : tree.Regular) (inside : part ∈ tree.parts) :
    part.Regular := by
  cases tree with
  | null | bool | number | text => cases inside
  | list items => exact itemsRegular_iff.mp regular part inside
  | object members =>
      obtain ⟨member, listed, rfl⟩ := List.mem_map.mp inside
      exact membersRegular_iff.mp regular.2 member listed

theorem slots?_members_normalized {members : List (String × Json)}
    (distinct : (members.map Prod.fst).Nodup) {names : List String} (fields : names.Nodup) :
    (Body.ofMembers (sortMembers (normalizedMembers members))).slots? names =
      ((Body.ofMembers members).slots? names).map (List.map (Option.map normalized)) := by
  rw [← Body.slots?_map, Body.map_ofMembers]
  simp only [Body.slots?_ofMembers fields, valuesOf_normalized distinct, valuesOf_map]

/-- The slots of the normal form hold the normal forms of what is in the slots. -/
theorem slots?_payload_normalized {tree : Json} (regular : tree.Regular) {names : List String}
    (distinct : names.Nodup) (fresh : Content.tagKey ∉ names) :
    tree.normalized.payload.slots? names =
      (tree.payload.slots? names).map (List.map (Option.map normalized)) := by
  rw [← Body.slots?_map]
  cases tree with
  | null | bool | number | text => rfl
  | list items =>
      simp only [normalized, normalizedItems_eq_map, payload, body?, Body.untagged, Body.map,
        List.map_tail]
  | object members =>
      simp only [normalized, payload, body?, ← Body.untagged_map, Body.map_ofMembers,
        Body.slots?_untagged distinct fresh, valuesOf_normalized regular.1, valuesOf_map]

theorem isKeyed_payload_normalized (tree : Json) :
    tree.normalized.payload.isKeyed = tree.payload.isKeyed := by
  cases tree <;> rfl

theorem isBare_payload_normalized (tree : Json) :
    tree.normalized.payload.isBare = tree.payload.isBare := by
  cases tree with
  | null | bool | number | text | object => rfl
  | list items => cases items with
    | nil => rfl
    | cons item items => cases items <;> rfl

end Json

/-! ## Layouts -/

/-- The layout reads regular trees as it reads their normal forms. -/
def Layout.Steady {α : Type} (layout : Layout α) : Prop :=
  Json.Steady fun tree => layout.fromContent? (.ofJson tree)

/-- All fields have steady layouts. -/
def Fields.Steady {σ ρ : Type} : Fields σ ρ → Prop
  | .done => True
  | .field _ _ value rest => value.Steady ∧ rest.Steady

namespace Fields

theorem fromSlots?_normalized {σ ρ : Type} {fields : Fields σ ρ} (steady : fields.Steady)
    {isKeyed : Bool} {slots : List (Option Json)}
    (regular : ∀ part, some part ∈ slots → part.Regular) :
    fields.fromSlots? isKeyed
        ((slots.map (Option.map Json.normalized)).map (Option.map Content.ofJson)) =
      fields.fromSlots? isKeyed (slots.map (Option.map Content.ofJson)) := by
  cases fields with
  | done => rfl
  | field name absence value rest =>
      cases slots with
      | nil => rfl
      | cons slot slots =>
          have others := @fromSlots?_normalized _ _ rest steady.2 isKeyed slots
            fun part inside => regular part (List.mem_cons_of_mem _ inside)
          cases slot with
          | none =>
              simp only [fromSlots?, List.map_cons, List.head?_cons, List.tail_cons, others,
                Option.map_none, Option.join_some]
          | some part =>
              have same := steady.1 (regular part List.mem_cons_self)
              simp only [fromSlots?, List.map_cons, List.head?_cons, List.tail_cons, others,
                Option.map_some, Option.join_some, same]

theorem fromBody?_normalized {σ ρ : Type} {fields : Fields σ ρ} (steady : fields.Steady)
    {body other : Body Json} (regular : ∀ part ∈ body.parts, part.Regular)
    (keyed : other.isKeyed = body.isKeyed)
    (slots : other.slots? fields.names =
      (body.slots? fields.names).map (List.map (Option.map Json.normalized))) :
    fields.fromBody? (other.map Content.ofJson) = fields.fromBody? (body.map Content.ofJson) := by
  simp only [fromBody?, Body.slots?_map, Body.isKeyed_map, slots, keyed]
  cases found : body.slots? fields.names with
  | none => rfl
  | some slots =>
      exact fromSlots?_normalized steady fun part inside =>
        regular part (Body.mem_parts_of_slots? found inside)

theorem fromBody?_payload_normalized {σ ρ : Type} {fields : Fields σ ρ} (steady : fields.Steady)
    (distinct : fields.names.Nodup) (fresh : Content.tagKey ∉ fields.names) :
    Json.Steady fun tree => fields.fromBody? (Content.ofJson tree).payload := by
  intro tree regular
  simp only [Content.payload_ofJson]
  exact fromBody?_normalized steady
    (fun _ inside => regular.part (Json.mem_parts_of_mem_payload inside))
    (Json.isKeyed_payload_normalized tree)
    (Json.slots?_payload_normalized regular distinct fresh)

end Fields

namespace Layout

variable {α : Type}

theorem steady_text : Layout.text.Steady := by
  intro tree _
  cases tree <;> rfl

theorem steady_optional {value : Layout α} (steady : value.Steady) :
    (Layout.optional value).Steady := by
  intro tree regular
  have inner := congrArg (Option.map some) (steady regular)
  cases tree with
  | null => rfl
  | bool | number | text | list | object => exact inner

theorem steady_list {item : Layout α} (steady : item.Steady) : (Layout.list item).Steady := by
  intro tree regular
  cases tree with
  | null | bool | number | text | object => rfl
  | list items =>
      simp only [Json.normalized, Json.normalizedItems_eq_map, Content.ofJson,
        Content.ofItems_eq_map, fromContent?, List.mapM_map]
      exact mapM_congr fun part inside => steady (Json.itemsRegular_iff.mp regular part inside)

theorem steady_record {σ ρ : Type} {name : String} {fields : Fields σ ρ} (steady : fields.Steady)
    (distinct : fields.names.Nodup) (build : ρ → α) :
    (Layout.record name fields build).Steady := by
  intro tree regular
  simp only [fromContent?_record, Body.of?_ofJson]
  cases tree with
  | null | bool | number | text => rfl
  | list items =>
      refine congrArg (Option.map build) (Fields.fromBody?_normalized steady
        (fun _ => regular.part) rfl ?_)
      rw [← Body.slots?_map, Json.normalizedItems_eq_map]
      rfl
  | object members =>
      have parts : (Body.ofMembers members).parts = (Json.object members).parts :=
        Json.parts_of_body? rfl
      exact congrArg (Option.map build) (Fields.fromBody?_normalized steady
        (fun _ inside => regular.part (parts ▸ inside)) rfl
        (Json.slots?_members_normalized regular.1 distinct))

end Layout

/-! ## Words and tags -/

namespace Content

theorem steady_choice? (words : List String) :
    Json.Steady fun tree => choice? words (.ofJson tree) := by
  intro tree _
  cases tree <;> rfl

theorem word?_of_two_le (words : List String) {entries : List (Content × Content)}
    (many : 2 ≤ entries.length) : word? words (.map entries) = none := by
  match entries, many with
  | (key, .null) :: _ :: _, _ => rfl
  | (key, .bool _) :: _ :: _, _ | (key, .number _) :: _ :: _, _ | (key, .text _) :: _ :: _, _
  | (key, .list _) :: _ :: _, _ | (key, .map _) :: _ :: _, _ => rfl

theorem steady_word? (words : List String) :
    Json.Steady fun tree => word? words (.ofJson tree) := by
  intro tree regular
  cases tree with
  | null | bool | number | text | list => rfl
  | object members =>
      match members with
      | [] => rfl
      | [(name, value)] => cases value <;> rfl
      | first :: second :: rest =>
          have sorted := Json.perm_sortMembers
            ((Json.map_fst_normalizedMembers (first :: second :: rest)).symm ▸ regular.1)
          have length :
              (Json.sortMembers (Json.normalizedMembers (first :: second :: rest))).length =
                rest.length + 2 := by
            rw [sorted.length_eq, Json.normalizedMembers_eq_map, List.length_map]
            rfl
          simp only [Json.normalized, ofJson, ofMembers_eq_map]
          rw [word?_of_two_le words (by simp [length]), word?_of_two_le words (by simp)]

theorem steady_variant? (variants : List String) :
    Json.Steady fun tree => (ofJson tree).variant? variants := by
  intro tree regular
  cases tree with
  | null | bool | number | text => rfl
  | list items =>
      cases items with
      | nil => rfl
      | cons tag items => exact steady_choice? variants regular.1
  | object members =>
      simp only [Json.normalized, variant?_object, Json.valuesOf_normalized regular.1]
      match found : valuesOf tagKey members with
      | [] => rfl
      | [tag] =>
          have inside : (tagKey, tag) ∈ members := mem_valuesOf.mp (found ▸ List.mem_cons_self)
          exact steady_choice? variants (Json.membersRegular_iff.mp regular.2 _ inside)
      | _ :: _ :: _ => rfl

end Content

theorem Primitive.steady_ofContent? :
    Json.Steady fun tree => Primitive.ofContent? (.ofJson tree) := by
  intro tree regular
  have word : spelledValue? words (.ofJson tree.normalized) = spelledValue? words (.ofJson tree) :=
    congrArg (fun place => (place.bind (words[·]?)).map Prod.snd)
      (Content.steady_word? (words.map Prod.fst) regular)
  simp only [ofContent?, word]
  generalize spelledValue? words (.ofJson tree) = known
  cases known <;> cases tree <;> rfl

/-! ## Types -/

theorem Json.steady_json? : Json.Steady fun tree => (Content.ofJson tree).json? := by
  intro tree regular
  simp only [json?_of_regular regular.normal.regular, json?_of_regular regular,
    regular.normal.fixed]

theorem DeclaredName.steady_fields : DeclaredName.fields.Steady :=
  ⟨Layout.steady_list Layout.steady_text, Layout.steady_text, trivial⟩

/-- Slots for types hold the same meanings when all parts mean what their normal forms mean. -/
theorem slots?_typeParts_normalized {tree : Json} (regular : tree.Regular)
    (same : ∀ part ∈ tree.payload.parts,
      (Content.ofJson part.normalized).typeReading = (Content.ofJson part).typeReading)
    {names : List String} (distinct : names.Nodup) (fresh : Content.tagKey ∉ names) :
    tree.normalized.typeParts.slots? names = tree.typeParts.slots? names := by
  simp only [Json.typeParts, Body.slots?_map,
    Json.slots?_payload_normalized regular distinct fresh]
  cases found : tree.payload.slots? names with
  | none => rfl
  | some slots =>
      simp only [Option.map_some, List.map_map, Option.some.injEq]
      refine List.map_congr_left fun slot inside => ?_
      cases slot with
      | none => rfl
      | some part => exact congrArg some (same part (Body.mem_parts_of_slots? found inside))

theorem steady_isBare : Json.Steady fun tree => (Content.ofJson tree).payload.isBare := by
  intro tree _
  simp only [Content.payload_ofJson, Body.isBare_map, Json.isBare_payload_normalized]

/-- The scalar type in the slot of a payload. -/
def primitiveOf? (content : Content) : Option TypeReference :=
  match content.payload.slots? ["primitive"] with
  | some [some part] => (Primitive.ofContent? part).map .primitive
  | _ => none

theorem steady_primitiveOf? : Json.Steady fun tree => primitiveOf? (.ofJson tree) := by
  intro tree regular
  have slots :=
    Json.slots?_payload_normalized regular (List.nodup_singleton "primitive") (by decide)
  simp only [primitiveOf?, Content.payload_ofJson, Body.slots?_map, slots]
  match found : tree.payload.slots? ["primitive"] with
  | some [some part] =>
      have inside := Body.mem_parts_of_slots? found List.mem_cons_self
      have read := Primitive.steady_ofContent? (regular.part (Json.mem_parts_of_mem_payload inside))
      exact congrArg (Option.map TypeReference.primitive) read
  | none | some [] | some [none] | some (none :: _ :: _) | some (some _ :: _ :: _) => rfl

theorem TypeReference.known?_normalized {tree : Json} (regular : tree.Regular)
    (same : ∀ part ∈ tree.payload.parts,
      (Content.ofJson part.normalized).typeReading = (Content.ofJson part).typeReading) :
    known? (.ofJson tree.normalized) tree.normalized.typeParts =
      known? (.ofJson tree) tree.typeParts := by
  have tag : (Content.ofJson tree.normalized).variant? tags = (Content.ofJson tree).variant? tags :=
    Content.steady_variant? tags regular
  have primitive : primitiveOf? (.ofJson tree.normalized) = primitiveOf? (.ofJson tree) :=
    steady_primitiveOf? regular
  have container := slots?_typeParts_normalized regular same (List.nodup_singleton "container")
    (by decide)
  have named : DeclaredName.fields.fromBody? (Content.ofJson tree.normalized).payload =
      DeclaredName.fields.fromBody? (Content.ofJson tree).payload :=
    Fields.fromBody?_payload_normalized DeclaredName.steady_fields (by decide) (by decide) regular
  have bare : (Content.ofJson tree.normalized).payload.isBare =
      (Content.ofJson tree).payload.isBare := steady_isBare regular
  unfold known?
  rw [tag, container, named, bare]
  split
  · exact primitive
  all_goals rfl

theorem ContainerType.known?_normalized {tree : Json} (regular : tree.Regular)
    (same : ∀ part ∈ tree.payload.parts,
      (Content.ofJson part.normalized).typeReading = (Content.ofJson part).typeReading) :
    known? (.ofJson tree.normalized) tree.normalized.typeParts =
      known? (.ofJson tree) tree.typeParts := by
  have tag : (Content.ofJson tree.normalized).variant? tags = (Content.ofJson tree).variant? tags :=
    Content.steady_variant? tags regular
  have slots : ∀ {names : List String}, names.Nodup → Content.tagKey ∉ names →
      tree.normalized.typeParts.slots? names = tree.typeParts.slots? names :=
    slots?_typeParts_normalized regular same
  unfold known?
  rw [tag, slots (List.nodup_singleton "list") (by decide),
    slots (List.nodup_singleton "set") (by decide),
    @slots ["keyType", "valueType"] (by decide) (by decide),
    slots (List.nodup_singleton "optional") (by decide)]

/-- A regular tree means the same as its normal form where types stand. -/
theorem steady_typeReading {tree : Json} (regular : tree.Regular) :
    (Content.ofJson tree.normalized).typeReading = (Content.ofJson tree).typeReading := by
  have same : ∀ part ∈ tree.payload.parts,
      (Content.ofJson part.normalized).typeReading = (Content.ofJson part).typeReading :=
    fun part inside =>
      have := Json.sizeOf_lt_of_mem_parts (Json.mem_parts_of_mem_payload inside)
      steady_typeReading (regular.part (Json.mem_parts_of_mem_payload inside))
  have whole : (Content.ofJson tree.normalized).json? = (Content.ofJson tree).json? :=
    Json.steady_json? regular
  have reference := TypeReference.known?_normalized regular same
  have container := ContainerType.known?_normalized regular same
  rw [Content.typeReading_ofJson, Content.typeReading_ofJson tree]
  simp only [Json.typeParts] at reference container
  simp only [TypeReading.of, reference, container, whole]
termination_by sizeOf tree

theorem TypeReference.steady_layout : TypeReference.layout.Steady := by
  intro tree regular
  exact congrArg TypeReading.reference (steady_typeReading regular)

/-! ## Shapes and schemes -/

theorem EnumValue.steady_layout : EnumValue.layout.Steady :=
  have steady : EnumValue.fields.Steady :=
    ⟨Layout.steady_text, Layout.steady_optional Layout.steady_text, trivial⟩
  Layout.steady_record steady (by decide) _

theorem DeclaredName.steady_layout : DeclaredName.layout.Steady :=
  Layout.steady_record steady_fields (by decide) _

theorem Property.steady_layout : Property.layout.Steady := by
  refine Layout.steady_record ?_ (by decide) _
  exact ⟨Layout.steady_text, TypeReference.steady_layout,
    Layout.steady_optional Layout.steady_text, trivial⟩

theorem UnionVariant.steady_layout : UnionVariant.layout.Steady := by
  refine Layout.steady_record ?_ (by decide) _
  exact ⟨Layout.steady_text, TypeReference.steady_layout,
    Layout.steady_optional Layout.steady_text, trivial⟩

theorem TypeShape.steady_known? : Json.Steady fun tree => known? (.ofJson tree) := by
  intro tree regular
  have tag : (Content.ofJson tree.normalized).variant? tags = (Content.ofJson tree).variant? tags :=
    Content.steady_variant? tags regular
  have fields : ∀ {σ ρ : Type} {fields : Fields σ ρ}, fields.Steady → fields.names.Nodup →
      Content.tagKey ∉ fields.names →
      fields.fromBody? (Content.ofJson tree.normalized).payload =
        fields.fromBody? (Content.ofJson tree).payload :=
    fun steady distinct fresh => Fields.fromBody?_payload_normalized steady distinct fresh regular
  have target : aliasFields.Steady := ⟨TypeReference.steady_layout, trivial⟩
  have values : enumerationFields.Steady := ⟨Layout.steady_list EnumValue.steady_layout, trivial⟩
  have parts : objectFields.Steady :=
    ⟨Layout.steady_list DeclaredName.steady_layout, Layout.steady_list Property.steady_layout,
      trivial⟩
  have variants : unionFields.Steady :=
    ⟨Layout.steady_text, Layout.steady_list UnionVariant.steady_layout, trivial⟩
  simp only [known?, tag, fields target (by decide) (by decide),
    fields values (by decide) (by decide), fields parts (by decide) (by decide),
    fields variants (by decide) (by decide)]

theorem AuthScheme.steady_known? : Json.Steady fun tree => known? (.ofJson tree) := by
  intro tree regular
  have tag : (Content.ofJson tree.normalized).variant? tags = (Content.ofJson tree).variant? tags :=
    Content.steady_variant? tags regular
  have bare : (Content.ofJson tree.normalized).payload.isBare =
      (Content.ofJson tree).payload.isBare := steady_isBare regular
  have steady : headerFields.Steady := ⟨Layout.steady_text, Layout.steady_text, trivial⟩
  have header : headerFields.fromBody? (Content.ofJson tree.normalized).payload =
      headerFields.fromBody? (Content.ofJson tree).payload :=
    Fields.fromBody?_payload_normalized steady (by decide) (by decide) regular
  simp only [known?, tag, bare, header]

theorem ContainerType.steady_layout : ContainerType.layout.Steady := by
  intro tree regular
  exact congrArg TypeReading.container (steady_typeReading regular)

theorem TypeShape.steady_layout : TypeShape.layout.Steady := by
  intro tree regular
  exact congrArg₂ (fun known whole => Option.or known (Option.map unrecognized whole))
    (steady_known? regular) (Json.steady_json? regular)

theorem AuthScheme.steady_layout : AuthScheme.layout.Steady := by
  intro tree regular
  exact congrArg₂ (fun known whole => Option.or known (Option.map unrecognized whole))
    (steady_known? regular) (Json.steady_json? regular)

/-! ## Kept values -/

section Kept

variable {α : Type} {layout : Layout α} {tree other : Json} {value : α}

theorem Layout.Steady.reads_normalized_iff (steady : layout.Steady) (regular : tree.Regular) :
    layout.Reads tree.normalized value ↔ layout.Reads tree value := by
  have same : layout.fromContent? (.ofJson tree.normalized) = layout.fromContent? (.ofJson tree) :=
    steady regular
  rw [Layout.reads_iff, Layout.reads_iff, same]

/-- The order of members does not tell on what is read. -/
theorem Layout.Steady.reads_of_reordered (steady : layout.Steady) (regular : tree.Regular)
    (reordered : tree.Reordered other) (reads : layout.Reads tree value) :
    layout.Reads other value := by
  rw [← steady.reads_normalized_iff regular, reordered.normalized_eq regular] at reads
  exact (steady.reads_normalized_iff (reordered.regular regular)).mp reads

end Kept

/-- The layout makes the same of a regular tree and of its normal form, and what it keeps of a tree
    is the whole value of the tree. -/
structure Layout.Keeps {α : Type} (layout : Layout α) (keep : Json → α) : Prop where
  steady : layout.Steady
  whole : ∀ {tree kept : Json}, layout.Reads tree (keep kept) →
    (Content.ofJson tree).json? = some kept

namespace Layout.Keeps

variable {α : Type} {layout : Layout α} {keep : Json → α} {tree kept : Json}

theorem normal (keeps : layout.Keeps keep) (reads : layout.Reads tree (keep kept)) :
    kept.Normal := by
  obtain ⟨value, same, normal⟩ := Json.exists_normal_json tree
  cases (keeps.whole reads).symm.trans same
  exact normal

/-- What is kept of a regular tree is kept again. -/
theorem settled (keeps : layout.Keeps keep) (regular : tree.Regular)
    (reads : layout.Reads tree (keep kept)) : layout.Reads kept (keep kept) := by
  have same := (keeps.whole reads).symm.trans (Json.json?_of_regular regular)
  rw [Option.some.injEq] at same
  rw [same] at reads ⊢
  exact (keeps.steady.reads_normalized_iff regular).mpr reads

/-- A value that is kept as it is, is kept in whatever order its members are written. -/
theorem reordered (keeps : layout.Keeps keep) (reads : layout.Reads kept (keep kept))
    (order : kept.Reordered tree) : layout.Reads tree (keep kept) :=
  keeps.steady.reads_of_reordered (keeps.normal reads).regular order reads

end Layout.Keeps

/-- What is not recognized is kept whole. -/
theorem json?_of_kept {α : Type} {keep : Json → α} (injective : Function.Injective keep)
    {tree kept : Json} {recognized unknown : Prop}
    (read : recognized ∨ unknown ∧ ∃ other, (Content.ofJson tree).json? = some other ∧
      keep other = keep kept) (unlike : ¬ recognized) :
    (Content.ofJson tree).json? = some kept := by
  rcases read with known | ⟨-, other, whole, same⟩
  · exact absurd known unlike
  · rw [whole, injective same]

theorem TypeReference.keeps : TypeReference.layout.Keeps unrecognized where
  steady := steady_layout
  whole reads := json?_of_kept (fun _ _ => unrecognized.inj) (reads_iff.mp reads) nofun

theorem ContainerType.keeps : ContainerType.layout.Keeps unrecognized where
  steady := steady_layout
  whole reads := json?_of_kept (fun _ _ => unrecognized.inj) (reads_iff.mp reads) nofun

theorem TypeShape.keeps : TypeShape.layout.Keeps unrecognized where
  steady := steady_layout
  whole reads := json?_of_kept (fun _ _ => unrecognized.inj) (reads_iff.mp reads) nofun

theorem AuthScheme.keeps : AuthScheme.layout.Keeps unrecognized where
  steady := steady_layout
  whole reads := json?_of_kept (fun _ _ => unrecognized.inj) (reads_iff.mp reads) nofun

end ApiComponents
