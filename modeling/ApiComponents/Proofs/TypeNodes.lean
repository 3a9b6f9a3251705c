import ApiComponents.Proofs.NormalForms
import ApiComponents.Proofs.Parts

/-! # Nodes that say by a tag what they are

References, containers, shapes and authentication schemes are told apart by a tag. A tree in such a
place always has a meaning: it is one of the known variants when the tag says so and the payload
fits, and otherwise it is kept whole.
-/

namespace ApiComponents

def ContainerType.layout : Layout ContainerType := .whole "ContainerType" ContainerType.ofContent?

def Primitive.layout : Layout Primitive := .whole "PrimitiveType" Primitive.ofContent?

/-! ## Known variants -/

/-- How a content is recognized as a reference. -/
inductive TypeReference.Recognized (content : Content) (parts : Body TypeReading) :
    TypeReference → Prop where
  | primitive {part : Content} {primitive : Primitive} (tag : content.variant? tags = some 0)
      (slot : content.payload.slots? ["primitive"] = some [some part])
      (read : Primitive.ofContent? part = some primitive) :
      Recognized content parts (.primitive primitive)
  | container {part : TypeReading} {container : ContainerType}
      (tag : content.variant? tags = some 1)
      (slot : parts.slots? ["container"] = some [some part])
      (read : part.container = some container) : Recognized content parts (.container container)
  | named {values : List String × String × Unit} (tag : content.variant? tags = some 2)
      (read : DeclaredName.fields.fromBody? content.payload = some values) :
      Recognized content parts (.named (.ofFields values))
  | unknown (tag : content.variant? tags = some 3) (bare : content.payload.isBare = true) :
      Recognized content parts .unknown
  | void (tag : content.variant? tags = some 4) (bare : content.payload.isBare = true) :
      Recognized content parts .void

theorem TypeReference.known?_eq_some_iff {content : Content} {parts : Body TypeReading}
    {reference : TypeReference} :
    known? content parts = some reference ↔ Recognized content parts reference := by
  constructor
  · intro known
    unfold known? at known
    split at known
    · next tag =>
      split at known
      · next part slot =>
        obtain ⟨primitive, read, rfl⟩ := Option.map_eq_some_iff.mp known
        exact .primitive tag slot read
      · cases known
    · next tag =>
      split at known
      · next part slot =>
        obtain ⟨container, read, rfl⟩ := Option.map_eq_some_iff.mp known
        exact .container tag slot read
      · cases known
    · next tag =>
      obtain ⟨values, read, rfl⟩ := Option.map_eq_some_iff.mp known
      exact .named tag read
    · next tag =>
      split at known
      · next bare =>
        cases known
        exact .unknown tag bare
      · cases known
    · next tag =>
      split at known
      · next bare =>
        cases known
        exact .void tag bare
      · cases known
    · cases known
  · intro recognized
    cases recognized with
    | primitive tag slot read => simp only [known?, tag, slot, read, Option.map_some]
    | container tag slot read => simp only [known?, tag, slot, read, Option.map_some]
    | named tag read => simp only [known?, tag, read, Option.map_some, Function.comp_apply]
    | unknown tag bare => simp only [known?, tag, bare, if_true]
    | void tag bare => simp only [known?, tag, bare, if_true]

/-- How a content is recognized as a container. -/
inductive ContainerType.Recognized (content : Content) (parts : Body TypeReading) :
    ContainerType → Prop where
  | list {part : TypeReading} {element : TypeReference} (tag : content.variant? tags = some 0)
      (slot : parts.slots? ["list"] = some [some part]) (read : part.reference = some element) :
      Recognized content parts (.list element)
  | set {part : TypeReading} {element : TypeReference} (tag : content.variant? tags = some 1)
      (slot : parts.slots? ["set"] = some [some part]) (read : part.reference = some element) :
      Recognized content parts (.set element)
  | map {key value : TypeReading} {keyType valueType : TypeReference}
      (tag : content.variant? tags = some 2)
      (slots : parts.slots? ["keyType", "valueType"] = some [some key, some value])
      (readKey : key.reference = some keyType) (readValue : value.reference = some valueType) :
      Recognized content parts (.map keyType valueType)
  | optional {part : TypeReading} {inner : TypeReference} (tag : content.variant? tags = some 3)
      (slot : parts.slots? ["optional"] = some [some part]) (read : part.reference = some inner) :
      Recognized content parts (.optional inner)

theorem ContainerType.known?_eq_some_iff {content : Content} {parts : Body TypeReading}
    {container : ContainerType} :
    known? content parts = some container ↔ Recognized content parts container := by
  constructor
  · intro known
    unfold known? at known
    split at known
    · next tag =>
      split at known
      · next part slot =>
        obtain ⟨element, read, rfl⟩ := Option.map_eq_some_iff.mp known
        exact .list tag slot read
      · cases known
    · next tag =>
      split at known
      · next part slot =>
        obtain ⟨element, read, rfl⟩ := Option.map_eq_some_iff.mp known
        exact .set tag slot read
      · cases known
    · next tag =>
      split at known
      · next key value slots =>
        split at known
        · next keyType valueType readKey readValue =>
          cases known
          exact .map tag slots readKey readValue
        · cases known
      · cases known
    · next tag =>
      split at known
      · next part slot =>
        obtain ⟨inner, read, rfl⟩ := Option.map_eq_some_iff.mp known
        exact .optional tag slot read
      · cases known
    · cases known
  · intro recognized
    cases recognized with
    | list tag slot read => simp only [known?, tag, slot, read, Option.map_some]
    | set tag slot read => simp only [known?, tag, slot, read, Option.map_some]
    | map tag slots readKey readValue => simp only [known?, tag, slots, readKey, readValue]
    | optional tag slot read => simp only [known?, tag, slot, read, Option.map_some]

/-- How a content is recognized as a shape. -/
inductive TypeShape.Recognized (content : Content) : TypeShape → Prop where
  | aliasOf {target : TypeReference} (tag : content.variant? tags = some 0)
      (read : aliasFields.fromBody? content.payload = some (target, ())) :
      Recognized content (.aliasOf target)
  | enumeration {values : List EnumValue} (tag : content.variant? tags = some 1)
      (read : enumerationFields.fromBody? content.payload = some (values, ())) :
      Recognized content (.enumeration values)
  | object {parents : List DeclaredName} {properties : List Property}
      (tag : content.variant? tags = some 2)
      (read : objectFields.fromBody? content.payload = some (parents, properties, ())) :
      Recognized content (.object parents properties)
  | union {discriminant : String} {variants : List UnionVariant}
      (tag : content.variant? tags = some 3)
      (read : unionFields.fromBody? content.payload = some (discriminant, variants, ())) :
      Recognized content (.union discriminant variants)

theorem TypeShape.known?_eq_some_iff {content : Content} {shape : TypeShape} :
    known? content = some shape ↔ Recognized content shape := by
  constructor
  · intro known
    unfold known? at known
    split at known
    · next tag =>
      obtain ⟨⟨target, ⟨⟩⟩, read, rfl⟩ := Option.map_eq_some_iff.mp known
      exact .aliasOf tag read
    · next tag =>
      obtain ⟨⟨values, ⟨⟩⟩, read, rfl⟩ := Option.map_eq_some_iff.mp known
      exact .enumeration tag read
    · next tag =>
      obtain ⟨⟨parents, properties, ⟨⟩⟩, read, rfl⟩ := Option.map_eq_some_iff.mp known
      exact .object tag read
    · next tag =>
      obtain ⟨⟨discriminant, variants, ⟨⟩⟩, read, rfl⟩ := Option.map_eq_some_iff.mp known
      exact .union tag read
    · cases known
  · intro recognized
    cases recognized with
    | aliasOf tag read => simp only [known?, tag, read, Option.map_some]
    | enumeration tag read => simp only [known?, tag, read, Option.map_some]
    | object tag read => simp only [known?, tag, read, Option.map_some]
    | union tag read => simp only [known?, tag, read, Option.map_some]

/-- How a content is recognized as an authentication scheme. -/
inductive AuthScheme.Recognized (content : Content) : AuthScheme → Prop where
  | bearer (tag : content.variant? tags = some 0) (bare : content.payload.isBare = true) :
      Recognized content .bearer
  | basic (tag : content.variant? tags = some 1) (bare : content.payload.isBare = true) :
      Recognized content .basic
  | header {wire name : String} (tag : content.variant? tags = some 2)
      (read : headerFields.fromBody? content.payload = some (wire, name, ())) :
      Recognized content (.header wire name)

theorem AuthScheme.known?_eq_some_iff {content : Content} {scheme : AuthScheme} :
    known? content = some scheme ↔ Recognized content scheme := by
  constructor
  · intro known
    unfold known? at known
    split at known
    · next tag =>
      split at known
      · next bare =>
        cases known
        exact .bearer tag bare
      · cases known
    · next tag =>
      split at known
      · next bare =>
        cases known
        exact .basic tag bare
      · cases known
    · next tag =>
      obtain ⟨⟨wire, name, ⟨⟩⟩, read, rfl⟩ := Option.map_eq_some_iff.mp known
      exact .header tag read
    · cases known
  · intro recognized
    cases recognized with
    | bearer tag bare => simp only [known?, tag, bare, if_true]
    | basic tag bare => simp only [known?, tag, bare, if_true]
    | header tag read => simp only [known?, tag, read, Option.map_some]

/-! ## Known or kept -/

/-- What the parts behind the tag mean where types stand. -/
def Json.typeParts (tree : Json) : Body TypeReading :=
  tree.payload.map fun part => (Content.ofJson part).typeReading

theorem or_map_eq_some_iff {α : Type} {known : Option α} {value : Option Json} {keep : Json → α}
    {result : α} :
    known.or (value.map keep) = some result ↔
      known = some result ∨ known = none ∧ ∃ kept, value = some kept ∧ keep kept = result := by
  cases known <;> simp

theorem TypeReference.reads_iff {tree : Json} {reference : TypeReference} :
    TypeReference.layout.Reads tree reference ↔
      Recognized (.ofJson tree) tree.typeParts reference ∨
        known? (.ofJson tree) tree.typeParts = none ∧
          ∃ kept, (Content.ofJson tree).json? = some kept ∧ unrecognized kept = reference := by
  rw [layout, Layout.reads_whole_iff, ofContent?, Content.typeReading_ofJson, TypeReading.of,
    or_map_eq_some_iff, known?_eq_some_iff, Json.typeParts]

theorem ContainerType.reads_iff {tree : Json} {container : ContainerType} :
    ContainerType.layout.Reads tree container ↔
      Recognized (.ofJson tree) tree.typeParts container ∨
        known? (.ofJson tree) tree.typeParts = none ∧
          ∃ kept, (Content.ofJson tree).json? = some kept ∧ unrecognized kept = container := by
  rw [layout, Layout.reads_whole_iff, ofContent?, Content.typeReading_ofJson, TypeReading.of,
    or_map_eq_some_iff, known?_eq_some_iff, Json.typeParts]

theorem TypeShape.reads_iff {tree : Json} {shape : TypeShape} :
    TypeShape.layout.Reads tree shape ↔
      Recognized (.ofJson tree) shape ∨
        known? (.ofJson tree) = none ∧
          ∃ kept, (Content.ofJson tree).json? = some kept ∧ unrecognized kept = shape := by
  rw [layout, Layout.reads_whole_iff, ofContent?, or_map_eq_some_iff, known?_eq_some_iff]

theorem AuthScheme.reads_iff {tree : Json} {scheme : AuthScheme} :
    AuthScheme.layout.Reads tree scheme ↔
      Recognized (.ofJson tree) scheme ∨
        known? (.ofJson tree) = none ∧
          ∃ kept, (Content.ofJson tree).json? = some kept ∧ unrecognized kept = scheme := by
  rw [layout, Layout.reads_whole_iff, ofContent?, or_map_eq_some_iff, known?_eq_some_iff]

section Totality

variable {α : Type}

theorem exists_or_map (known : Option α) (tree : Json) (keep : Json → α) :
    ∃ result, known.or ((Content.ofJson tree).json?.map keep) = some result := by
  obtain ⟨kept, whole, -⟩ := Json.exists_normal_json tree
  cases known with
  | none => exact ⟨keep kept, by rw [whole]; rfl⟩
  | some result => exact ⟨result, rfl⟩

/-- Every tree is read as a reference. -/
theorem TypeReference.exists_reads (tree : Json) :
    ∃ reference, TypeReference.layout.Reads tree reference := by
  obtain ⟨result, read⟩ := exists_or_map (known? (.ofJson tree) tree.typeParts) tree unrecognized
  refine ⟨result, Layout.reads_whole_iff.mpr ?_⟩
  rw [ofContent?, Content.typeReading_ofJson]
  exact read

/-- Every tree is read as a container. -/
theorem ContainerType.exists_reads (tree : Json) :
    ∃ container, ContainerType.layout.Reads tree container := by
  obtain ⟨result, read⟩ := exists_or_map (known? (.ofJson tree) tree.typeParts) tree unrecognized
  refine ⟨result, Layout.reads_whole_iff.mpr ?_⟩
  rw [ofContent?, Content.typeReading_ofJson]
  exact read

/-- Every tree is read as a shape. -/
theorem TypeShape.exists_reads (tree : Json) : ∃ shape, TypeShape.layout.Reads tree shape := by
  simp only [layout, Layout.reads_whole_iff, ofContent?]
  exact exists_or_map _ tree unrecognized

/-- Every tree is read as an authentication scheme. -/
theorem AuthScheme.exists_reads (tree : Json) :
    ∃ scheme, AuthScheme.layout.Reads tree scheme := by
  simp only [layout, Layout.reads_whole_iff, ofContent?]
  exact exists_or_map _ tree unrecognized

end Totality

end ApiComponents
