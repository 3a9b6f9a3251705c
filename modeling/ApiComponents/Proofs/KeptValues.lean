import ApiComponents.Proofs.NormalReading

/-! # What descriptions keep

A description keeps the words and the values that nobody knows. What holds of everything that is
kept, is shown for one place at a time: a description that is read from a tree keeps nothing but
what was kept of some part of the tree.
-/

namespace ApiComponents

/-! ## Words -/

theorem mem_of_spelledValue? {α : Type} {words : List (String × α)} {content : Content} {value : α}
    (spelled : spelledValue? words content = some value) : value ∈ words.map Prod.snd := by
  obtain ⟨pair, found, rfl⟩ := Option.map_eq_some_iff.mp spelled
  obtain ⟨place, -, listed⟩ := Option.bind_eq_some_iff.mp found
  exact List.mem_map_of_mem (List.mem_of_getElem? listed)

theorem spelledValue?_text_eq_none_iff {α : Type} {words : List (String × α)} {name : String} :
    spelledValue? words (.text name) = none ↔ name ∉ words.map Prod.fst := by
  have looked : spelledValue? words (.text name) = Entries.lookup name words :=
    Layout.lookup_words words name
  rw [looked]
  exact Entries.lookup_eq_none_iff

theorem Primitive.not_known {content : Content} {name : String}
    (kept : ofContent? content = some (.unrecognized name)) :
    name ∉ words.map Prod.fst := by
  unfold ofContent? at kept
  split at kept
  · next spelled =>
    cases kept
    have listed := mem_of_spelledValue? spelled
    simp [words] at listed
  · next unknown =>
    cases kept
    exact spelledValue?_text_eq_none_iff.mp unknown
  · cases kept

theorem AuthRequirement.not_known {content : Content} {name : String}
    (kept : ofContent? content = some (.unrecognized name)) :
    name ∉ words.map Prod.fst := by
  unfold ofContent? at kept
  split at kept
  · next spelled =>
    cases kept
    have listed := mem_of_spelledValue? spelled
    simp [words] at listed
  · next unknown =>
    cases kept
    exact spelledValue?_text_eq_none_iff.mp unknown
  · cases kept

/-! ## Conditions -/

/-- What is demanded of the words and the values that are kept, by the place where they stand. -/
structure Condition where
  primitive : String → Prop
  reference : Json → Prop
  container : Json → Prop
  shape : Json → Prop
  requirement : String → Prop
  scheme : Json → Prop

def Primitive.Meets (condition : Condition) : Primitive → Prop
  | .unrecognized name => condition.primitive name
  | _ => True

mutual
/-- Everything that is kept in the type meets the condition. -/
def TypeReference.Meets (condition : Condition) : TypeReference → Prop
  | .primitive primitive => primitive.Meets condition
  | .container container => container.Meets condition
  | .named _ | .unknown | .void => True
  | .unrecognized value => condition.reference value

def ContainerType.Meets (condition : Condition) : ContainerType → Prop
  | .list element => element.Meets condition
  | .set element => element.Meets condition
  | .map key value => key.Meets condition ∧ value.Meets condition
  | .optional inner => inner.Meets condition
  | .unrecognized value => condition.container value
end

def TypeShape.Meets (condition : Condition) : TypeShape → Prop
  | .aliasOf target => target.Meets condition
  | .enumeration _ => True
  | .object _ properties => ∀ property ∈ properties, property.type.Meets condition
  | .union _ variants => ∀ variant ∈ variants, variant.type.Meets condition
  | .unrecognized value => condition.shape value

def AuthRequirement.Meets (condition : Condition) : AuthRequirement → Prop
  | .unrecognized name => condition.requirement name
  | _ => True

def AuthScheme.Meets (condition : Condition) : AuthScheme → Prop
  | .unrecognized value => condition.scheme value
  | _ => True

def Auth.Meets (condition : Condition) (auth : Auth) : Prop :=
  auth.requirement.Meets condition ∧ ∀ scheme ∈ auth.schemes, scheme.Meets condition

/-- Everything that is kept in the description meets the condition. -/
def ApiDescription.Meets (condition : Condition) (description : ApiDescription) : Prop :=
  (∀ declaration ∈ description.types, declaration.shape.Meets condition) ∧
    description.auth.Meets condition

namespace Condition

/-- What is kept is no known word, and a value that would be kept again, as it is, where it
    stands. -/
def keptAgain : Condition where
  primitive name := name ∉ Primitive.words.map Prod.fst
  reference value := TypeReference.layout.Reads value (.unrecognized value)
  container value := ContainerType.layout.Reads value (.unrecognized value)
  shape value := TypeShape.layout.Reads value (.unrecognized value)
  requirement name := name ∉ AuthRequirement.words.map Prod.fst
  scheme value := AuthScheme.layout.Reads value (.unrecognized value)

/-- Values are kept in normal form. -/
def normal : Condition where
  primitive _ := True
  reference := Json.Normal
  container := Json.Normal
  shape := Json.Normal
  requirement _ := True
  scheme := Json.Normal

/-- Whatever is kept of a good tree meets the condition, and the parts of good trees are good. -/
structure Granted (condition : Condition) (good : Json → Prop) : Prop where
  part : ∀ {tree part : Json}, good tree → part ∈ tree.parts → good part
  primitive : ∀ {content : Content} {name : String},
    Primitive.ofContent? content = some (.unrecognized name) → condition.primitive name
  reference : ∀ {tree value : Json}, good tree →
    TypeReference.layout.Reads tree (.unrecognized value) → condition.reference value
  container : ∀ {tree value : Json}, good tree →
    ContainerType.layout.Reads tree (.unrecognized value) → condition.container value
  shape : ∀ {tree value : Json}, good tree →
    TypeShape.layout.Reads tree (.unrecognized value) → condition.shape value
  requirement : ∀ {content : Content} {name : String},
    AuthRequirement.ofContent? content = some (.unrecognized name) → condition.requirement name
  scheme : ∀ {tree value : Json}, good tree →
    AuthScheme.layout.Reads tree (.unrecognized value) → condition.scheme value

theorem keptAgain_granted : keptAgain.Granted Json.Regular where
  part := Json.Regular.part
  primitive := Primitive.not_known
  reference := TypeReference.keeps.settled
  container := ContainerType.keeps.settled
  shape := TypeShape.keeps.settled
  requirement := AuthRequirement.not_known
  scheme := AuthScheme.keeps.settled

theorem normal_granted : normal.Granted fun _ => True where
  part _ _ := trivial
  primitive _ := trivial
  reference _ := TypeReference.keeps.normal
  container _ := ContainerType.keeps.normal
  shape _ := TypeShape.keeps.normal
  requirement _ := trivial
  scheme _ := AuthScheme.keeps.normal

end Condition

/-! ## From parts of the tree -/

/-- Every field has its value from one of the parts, or it has the value of a field that is not
    there. -/
def Fields.FromParts {σ ρ : Type} : Fields σ ρ → List Json → ρ → Prop
  | .done, _, _ => True
  | .field _ absence value rest, parts, (first, others) =>
      ((∃ isKeyed, absence.value? isKeyed = some first) ∨
        ∃ part ∈ parts, value.Reads part first) ∧ rest.FromParts parts others

theorem Fields.fromParts_of_fromSlots? {σ ρ : Type} {fields : Fields σ ρ} {isKeyed : Bool}
    {slots : List (Option Json)} {parts : List Json}
    (known : ∀ part, some part ∈ slots → part ∈ parts) {values : ρ}
    (read : fields.fromSlots? isKeyed (slots.map (Option.map Content.ofJson)) = some values) :
    fields.FromParts parts values := by
  cases fields with
  | done => trivial
  | field name absence value rest =>
      obtain ⟨first, others⟩ := values
      have later : ∀ part, some part ∈ slots.tail → part ∈ parts :=
        fun part inside => known part (List.mem_of_mem_tail inside)
      simp only [fromSlots?, List.head?_map, ← List.map_tail] at read
      split at read
      · next given behind =>
        cases read
        refine ⟨?_, fromParts_of_fromSlots? later behind⟩
        cases slots with
        | nil => exact .inl ⟨isKeyed, given⟩
        | cons slot slots =>
            cases slot with
            | none => exact .inl ⟨isKeyed, given⟩
            | some part =>
                exact .inr ⟨part, known part List.mem_cons_self, Layout.reads_iff.mpr given⟩
      · cases read

theorem Fields.fromParts_of_fromBody? {σ ρ : Type} {fields : Fields σ ρ} {body : Body Json}
    {parts : List Json} (known : ∀ part ∈ body.parts, part ∈ parts) {values : ρ}
    (read : fields.fromBody? (body.map Content.ofJson) = some values) :
    fields.FromParts parts values := by
  rw [fromBody?, Body.slots?_map, Option.bind_map] at read
  obtain ⟨slots, found, read⟩ := Option.bind_eq_some_iff.mp read
  exact fromParts_of_fromSlots?
    (fun part inside => known part (Body.mem_parts_of_slots? found inside)) read

theorem Fields.fromParts_of_payload {σ ρ : Type} {fields : Fields σ ρ} {tree : Json} {values : ρ}
    (read : fields.fromBody? (Content.ofJson tree).payload = some values) :
    fields.FromParts tree.parts values := by
  rw [Content.payload_ofJson] at read
  exact fromParts_of_fromBody? (fun _ => Json.mem_parts_of_mem_payload) read

theorem Layout.fromParts_of_reads {σ ρ α : Type} {name : String} {fields : Fields σ ρ}
    {build : ρ → α} {tree : Json} {value : α}
    (reads : (Layout.record name fields build).Reads tree value) :
    ∃ values, fields.FromParts tree.parts values ∧ build values = value := by
  rw [reads_iff, fromContent?_record, Body.of?_ofJson] at reads
  obtain ⟨values, read, built⟩ := Option.map_eq_some_iff.mp reads
  obtain ⟨content, found, read⟩ := Option.bind_eq_some_iff.mp read
  obtain ⟨body, known, rfl⟩ := Option.map_eq_some_iff.mp found
  exact ⟨values, Fields.fromParts_of_fromBody?
    (fun _ inside => Json.parts_of_body? known ▸ inside) read, built⟩

/-- Every item of a list is read from a part of the tree. -/
theorem Layout.exists_part_of_reads_list {α : Type} {item : Layout α} {tree : Json}
    {values : List α} (reads : (Layout.list item).Reads tree values) {value : α}
    (listed : value ∈ values) : ∃ part ∈ tree.parts, item.Reads part value := by
  cases tree with
  | null | bool | number | text | object => cases reads_iff.mp reads
  | list trees =>
      have each := reads_list_iff.mp reads
      clear reads
      induction each with
      | nil => cases listed
      | @cons part first trees rest head _ ih =>
          rcases List.mem_cons.mp listed with rfl | listed
          · exact ⟨part, List.mem_cons_self, head⟩
          · obtain ⟨part, inside, reads⟩ := ih listed
            exact ⟨part, List.mem_cons_of_mem _ inside, reads⟩

theorem typePart_of_slots? {tree : Json} {names : List String} {slots : List (Option TypeReading)}
    (found : tree.typeParts.slots? names = some slots) {part : TypeReading}
    (inside : some part ∈ slots) :
    ∃ child ∈ tree.parts, (Content.ofJson child).typeReading = part := by
  have known := Body.mem_parts_of_slots? found inside
  rw [Json.typeParts, Body.parts_map] at known
  obtain ⟨child, listed, meaning⟩ := List.mem_map.mp known
  exact ⟨child, Json.mem_parts_of_mem_payload listed, meaning⟩

section Meeting

variable {condition : Condition} {good : Json → Prop} (granted : condition.Granted good)

include granted

mutual
/-- What a type keeps that is read from a good tree, meets the condition. -/
theorem TypeReference.meets_of_reads {tree : Json} {reference : TypeReference} (fine : good tree)
    (reads : TypeReference.layout.Reads tree reference) : reference.Meets condition := by
  rcases TypeReference.reads_iff.mp reads with recognized | ⟨-, kept, -, rfl⟩
  · cases recognized with
    | @primitive part primitive tag slot read =>
        cases primitive with
        | unrecognized name => exact granted.primitive read
        | _ => trivial
    | container tag slot read =>
        obtain ⟨child, inside, rfl⟩ := typePart_of_slots? slot List.mem_cons_self
        have smaller := Json.sizeOf_lt_of_mem_parts inside
        exact ContainerType.meets_of_reads (granted.part fine inside)
          (Layout.reads_whole_iff.mpr read)
    | named | unknown | void => trivial
  · exact granted.reference fine reads
termination_by sizeOf tree

theorem ContainerType.meets_of_reads {tree : Json} {container : ContainerType} (fine : good tree)
    (reads : ContainerType.layout.Reads tree container) : container.Meets condition := by
  rcases ContainerType.reads_iff.mp reads with recognized | ⟨-, kept, -, rfl⟩
  · cases recognized with
    | list tag slot read | set tag slot read | optional tag slot read =>
        obtain ⟨child, inside, rfl⟩ := typePart_of_slots? slot List.mem_cons_self
        have smaller := Json.sizeOf_lt_of_mem_parts inside
        exact TypeReference.meets_of_reads (granted.part fine inside)
          (Layout.reads_whole_iff.mpr read)
    | map tag slots readKey readValue =>
        obtain ⟨key, keyInside, rfl⟩ := typePart_of_slots? slots List.mem_cons_self
        obtain ⟨value, valueInside, rfl⟩ :=
          typePart_of_slots? slots (List.mem_cons_of_mem _ List.mem_cons_self)
        have keySmaller := Json.sizeOf_lt_of_mem_parts keyInside
        have valueSmaller := Json.sizeOf_lt_of_mem_parts valueInside
        exact ⟨TypeReference.meets_of_reads (granted.part fine keyInside)
            (Layout.reads_whole_iff.mpr readKey),
          TypeReference.meets_of_reads (granted.part fine valueInside)
            (Layout.reads_whole_iff.mpr readValue)⟩
  · exact granted.container fine reads
termination_by sizeOf tree
end

theorem Property.meets_of_reads {tree : Json} {property : Property} (fine : good tree)
    (reads : Property.layout.Reads tree property) : property.type.Meets condition := by
  obtain ⟨⟨key, type, docs, ⟨⟩⟩, ⟨-, given, -⟩, rfl⟩ := Layout.fromParts_of_reads reads
  rcases given with ⟨isKeyed, missing⟩ | ⟨part, inside, reads⟩
  · cases missing
  · exact TypeReference.meets_of_reads granted (granted.part fine inside) reads

theorem UnionVariant.meets_of_reads {tree : Json} {variant : UnionVariant} (fine : good tree)
    (reads : UnionVariant.layout.Reads tree variant) : variant.type.Meets condition := by
  obtain ⟨⟨tag, type, docs, ⟨⟩⟩, ⟨-, given, -⟩, rfl⟩ := Layout.fromParts_of_reads reads
  rcases given with ⟨isKeyed, missing⟩ | ⟨part, inside, reads⟩
  · cases missing
  · exact TypeReference.meets_of_reads granted (granted.part fine inside) reads

/-- What holds of the items that are read from the parts of a good tree, holds of a field that
    lists them. -/
theorem forall_of_listGiven {α : Type} {item : Layout α} {parts : List Json} {values : List α}
    {holds : α → Prop} (fine : ∀ part ∈ parts, good part)
    (each : ∀ {tree value}, good tree → item.Reads tree value → holds value)
    (given : (∃ isKeyed, (Absence.always []).value? isKeyed = some values) ∨
      ∃ part ∈ parts, (Layout.list item).Reads part values) :
    ∀ value ∈ values, holds value := by
  rcases given with ⟨isKeyed, empty⟩ | ⟨part, inside, reads⟩
  · cases empty
    exact fun _ absurd => nomatch absurd
  · intro value listed
    obtain ⟨tree, within, readsItem⟩ := Layout.exists_part_of_reads_list reads listed
    exact each (granted.part (fine part inside) within) readsItem

theorem TypeShape.meets_of_reads {tree : Json} {shape : TypeShape} (fine : good tree)
    (reads : TypeShape.layout.Reads tree shape) : shape.Meets condition := by
  have fineParts : ∀ part ∈ tree.parts, good part := fun _ => granted.part fine
  rcases reads_iff.mp reads with recognized | ⟨-, kept, -, rfl⟩
  · cases recognized with
    | aliasOf tag read =>
        obtain ⟨given, -⟩ := Fields.fromParts_of_payload read
        rcases given with ⟨isKeyed, missing⟩ | ⟨part, inside, reads⟩
        · cases missing
        · exact TypeReference.meets_of_reads granted (fineParts part inside) reads
    | enumeration => trivial
    | object tag read =>
        obtain ⟨-, given, -⟩ := Fields.fromParts_of_payload read
        exact forall_of_listGiven granted fineParts (Property.meets_of_reads granted) given
    | union tag read =>
        obtain ⟨-, given, -⟩ := Fields.fromParts_of_payload read
        exact forall_of_listGiven granted fineParts (UnionVariant.meets_of_reads granted) given
  · exact granted.shape fine reads

theorem Declaration.meets_of_reads {tree : Json} {declaration : Declaration} (fine : good tree)
    (reads : Declaration.layout.Reads tree declaration) : declaration.shape.Meets condition := by
  obtain ⟨⟨name, docs, shape, ⟨⟩⟩, ⟨-, -, given, -⟩, rfl⟩ := Layout.fromParts_of_reads reads
  rcases given with ⟨isKeyed, missing⟩ | ⟨part, inside, reads⟩
  · cases missing
  · exact TypeShape.meets_of_reads granted (granted.part fine inside) reads

theorem AuthScheme.meets_of_reads {tree : Json} {scheme : AuthScheme} (fine : good tree)
    (reads : AuthScheme.layout.Reads tree scheme) : scheme.Meets condition := by
  cases scheme with
  | unrecognized value => exact granted.scheme fine reads
  | _ => trivial

theorem AuthRequirement.meets_of_reads {tree : Json} {requirement : AuthRequirement}
    (reads : AuthRequirement.layout.Reads tree requirement) : requirement.Meets condition := by
  cases requirement with
  | unrecognized name => exact granted.requirement (Layout.reads_whole_iff.mp reads)
  | _ => trivial

theorem Auth.meets_of_reads {tree : Json} {auth : Auth} (fine : good tree)
    (reads : Auth.layout.Reads tree auth) : auth.Meets condition := by
  obtain ⟨⟨requirement, schemes, ⟨⟩⟩, ⟨requirementGiven, given, -⟩, rfl⟩ :=
    Layout.fromParts_of_reads reads
  refine ⟨?_, forall_of_listGiven granted (fun _ => granted.part fine)
    (AuthScheme.meets_of_reads granted) given⟩
  rcases requirementGiven with ⟨isKeyed, all⟩ | ⟨part, inside, reads⟩
  · cases all
    trivial
  · exact AuthRequirement.meets_of_reads granted reads

/-- What a description keeps that is read from a good tree, meets the condition. -/
theorem ApiDescription.meets_of_reads {tree : Json} {description : ApiDescription}
    (fine : good tree) (reads : ApiDescription.layout.Reads tree description) :
    description.Meets condition := by
  obtain ⟨⟨types, auth, ⟨⟩⟩, ⟨given, authGiven, -⟩, rfl⟩ := Layout.fromParts_of_reads reads
  refine ⟨forall_of_listGiven granted (fun _ => granted.part fine)
    (Declaration.meets_of_reads granted) given, ?_⟩
  rcases authGiven with ⟨isKeyed, none⟩ | ⟨part, inside, reads⟩
  · cases none
    exact ⟨trivial, fun _ absurd => nomatch absurd⟩
  · exact Auth.meets_of_reads granted (granted.part fine inside) reads

end Meeting

end ApiComponents
