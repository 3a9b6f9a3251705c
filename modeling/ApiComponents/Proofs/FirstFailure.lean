import ApiComponents.Proofs.DeclarationRuns
import ApiComponents.Proofs.SchemeRuns

/-! # The first failure

A description shows an unrecognized part if a conversion comes to it: through elements, contents
and map values, but not through map keys. Listed in the order of the description, with the
authentication behind the declared types, the shown parts decide how a conversion fails: it fails
if there are any, and then with the first.
-/

namespace ApiComponents

/-- A part that the library does not recognize, with what was kept of it. -/
inductive UnrecognizedPart where
  | shape (value : Json)
  | reference (value : Json)
  | container (value : Json)
  | primitive (name : String)
  | scheme (value : Json)
  | requirement (name : String)

/-- How a conversion fails that comes to the part. -/
def UnrecognizedPart.failure : UnrecognizedPart → ConversionError
  | shape value => .ofValue .shape TypeShape.tags value
  | reference value => .ofValue .reference TypeReference.tags value
  | container value => .ofValue .container ContainerType.tags value
  | primitive name => .unrecognizedPrimitive name
  | scheme value => .ofValue .scheme AuthScheme.tags value
  | requirement name => .unrecognizedRequirement name

/-! ## Where the parts are shown -/

/-- A reference is unrecognized, or a part is reached in it by going into elements, optional
    contents and map values. -/
inductive TypeReference.Shows : TypeReference → UnrecognizedPart → Prop where
  | reference (value : Json) : Shows (.unrecognized value) (.reference value)
  | container (value : Json) : Shows (.container (.unrecognized value)) (.container value)
  | primitive (name : String) : Shows (.primitive (.unrecognized name)) (.primitive name)
  | list {element part} : Shows element part → Shows (.container (.list element)) part
  | set {element part} : Shows element part → Shows (.container (.set element)) part
  | mapValue {key value part} : Shows value part → Shows (.container (.map key value)) part
  | optional {content part} : Shows content part → Shows (.container (.optional content)) part

/-- A shape is unrecognized, or its target, the type of a property or that of a variant shows the
    part. Variants of declared types are not looked into. -/
inductive TypeShape.Shows : TypeShape → UnrecognizedPart → Prop where
  | shape (value : Json) : Shows (.unrecognized value) (.shape value)
  | target {target part} : target.Shows part → Shows (.aliasOf target) part
  | property {parents properties part} {property : Property} :
      property ∈ properties → property.type.Shows part → Shows (.object parents properties) part
  | variant {discriminant variants part} {variant : UnionVariant} :
      variant ∈ variants → (∀ name, variant.type ≠ .named name) → variant.type.Shows part →
        Shows (.union discriminant variants) part

/-- A declared type shows the part, or it belongs to the authentication. -/
inductive ApiDescription.Shows (description : ApiDescription) : UnrecognizedPart → Prop where
  | declared {declaration : Declaration} {part} :
      declaration ∈ description.types → declaration.shape.Shows part → Shows description part
  | scheme {value : Json} :
      .unrecognized value ∈ description.auth.schemes → Shows description (.scheme value)
  | requirement {name : String} :
      description.auth.requirement = .unrecognized name → Shows description (.requirement name)

/-! ## The parts in order -/

mutual
def TypeReference.unrecognizedParts : TypeReference → List UnrecognizedPart
  | .primitive (.unrecognized name) => [.primitive name]
  | .primitive _ | .named _ | .unknown | .void => []
  | .container container => container.unrecognizedParts
  | .unrecognized value => [.reference value]

def ContainerType.unrecognizedParts : ContainerType → List UnrecognizedPart
  | .list element | .set element => element.unrecognizedParts
  | .map _ value => value.unrecognizedParts
  | .optional content => content.unrecognizedParts
  | .unrecognized value => [.container value]
end

/-- The parts that a shape shows, in the order of its properties or variants. -/
def TypeShape.unrecognizedParts : TypeShape → List UnrecognizedPart
  | .aliasOf target => target.unrecognizedParts
  | .enumeration _ => []
  | .object _ properties => properties.flatMap fun property => property.type.unrecognizedParts
  | .union _ variants => variants.flatMap fun variant => variant.type.unrecognizedParts
  | .unrecognized value => [.shape value]

def AuthScheme.unrecognizedParts : AuthScheme → List UnrecognizedPart
  | .unrecognized value => [.scheme value]
  | .bearer | .basic | .header _ _ => []

def AuthRequirement.unrecognizedParts : AuthRequirement → List UnrecognizedPart
  | .unrecognized name => [.requirement name]
  | .all | .any => []

/-- The schemes come before the way in which they combine. -/
def Auth.unrecognizedParts (auth : Auth) : List UnrecognizedPart :=
  auth.schemes.flatMap AuthScheme.unrecognizedParts ++ auth.requirement.unrecognizedParts

/-- The parts that a description shows: those of the declared types, one type after the other, then
    those of the authentication. -/
def ApiDescription.unrecognizedParts (description : ApiDescription) : List UnrecognizedPart :=
  (description.types.flatMap fun declaration => declaration.shape.unrecognizedParts) ++
    description.auth.unrecognizedParts

mutual
theorem TypeReference.shows_of_mem {reference : TypeReference} {part : UnrecognizedPart}
    (member : part ∈ reference.unrecognizedParts) : reference.Shows part := by
  cases reference with
  | primitive primitive =>
      cases primitive with
      | unrecognized name =>
          rw [List.mem_singleton.mp member]
          exact .primitive name
      | integer | double | text | boolean | long | dateTime | uuid => cases member
  | container container => exact ContainerType.shows_of_mem member
  | named | unknown | void => cases member
  | unrecognized value =>
      rw [List.mem_singleton.mp member]
      exact .reference value

theorem ContainerType.shows_of_mem {container : ContainerType} {part : UnrecognizedPart}
    (member : part ∈ container.unrecognizedParts) :
    (TypeReference.container container).Shows part := by
  cases container with
  | list element => exact .list (TypeReference.shows_of_mem member)
  | set element => exact .set (TypeReference.shows_of_mem member)
  | map key value => exact .mapValue (TypeReference.shows_of_mem member)
  | optional content => exact .optional (TypeReference.shows_of_mem member)
  | unrecognized value =>
      rw [List.mem_singleton.mp member]
      exact .container value
end

theorem TypeReference.mem_unrecognizedParts_iff {reference : TypeReference}
    {part : UnrecognizedPart} : part ∈ reference.unrecognizedParts ↔ reference.Shows part := by
  refine ⟨shows_of_mem, fun shown => ?_⟩
  induction shown with
  | reference | container | primitive => exact List.mem_singleton_self _
  | list _ ih | set _ ih | mapValue _ ih | optional _ ih => exact ih

theorem TypeShape.mem_unrecognizedParts_iff {shape : TypeShape} {part : UnrecognizedPart} :
    part ∈ shape.unrecognizedParts ↔ shape.Shows part := by
  constructor
  · intro member
    cases shape with
    | aliasOf target => exact .target (TypeReference.shows_of_mem member)
    | enumeration => cases member
    | object parents properties =>
        obtain ⟨property, listed, inside⟩ := List.mem_flatMap.mp member
        exact .property listed (TypeReference.shows_of_mem inside)
    | union discriminant variants =>
        obtain ⟨variant, listed, inside⟩ := List.mem_flatMap.mp member
        refine .variant listed (fun name named => ?_) (TypeReference.shows_of_mem inside)
        rw [named] at inside
        cases inside
    | unrecognized value =>
        rw [List.mem_singleton.mp member]
        exact .shape value
  · intro shown
    cases shown with
    | shape value => exact List.mem_singleton_self _
    | target shown => exact TypeReference.mem_unrecognizedParts_iff.mpr shown
    | property listed shown =>
        exact List.mem_flatMap.mpr ⟨_, listed, TypeReference.mem_unrecognizedParts_iff.mpr shown⟩
    | variant listed _ shown =>
        exact List.mem_flatMap.mpr ⟨_, listed, TypeReference.mem_unrecognizedParts_iff.mpr shown⟩

theorem ApiDescription.mem_unrecognizedParts_iff {description : ApiDescription}
    {part : UnrecognizedPart} :
    part ∈ description.unrecognizedParts ↔ description.Shows part := by
  rw [unrecognizedParts, Auth.unrecognizedParts, List.mem_append, List.mem_append,
    List.mem_flatMap, List.mem_flatMap]
  constructor
  · rintro (⟨declaration, listed, inside⟩ | ⟨scheme, listed, inside⟩ | inside)
    · exact .declared listed (TypeShape.mem_unrecognizedParts_iff.mp inside)
    · cases scheme with
      | unrecognized value =>
          rw [List.mem_singleton.mp inside]
          exact .scheme listed
      | bearer | basic | header => cases inside
    · cases combined : description.auth.requirement with
      | unrecognized name =>
          rw [combined] at inside
          rw [List.mem_singleton.mp inside]
          exact .requirement combined
      | all | any =>
          rw [combined] at inside
          cases inside
  · rintro (⟨listed, shown⟩ | listed | combined)
    · exact .inl ⟨_, listed, TypeShape.mem_unrecognizedParts_iff.mpr shown⟩
    · exact .inr (.inl ⟨_, listed, List.mem_singleton_self _⟩)
    · rw [combined]
      exact .inr (.inr (List.mem_singleton_self _))

/-! ## The first part decides -/

/-- The failure that the first of some parts leads to. -/
def firstFailure (parts : List UnrecognizedPart) : Option ConversionError :=
  parts.head?.map UnrecognizedPart.failure

/-- What fails with the first of some parts fails if there are any. -/
theorem fails_iff_of_failureOf {α : Type} {outcome : Except ConversionError α}
    {parts : List UnrecognizedPart} (first : failureOf outcome = firstFailure parts) :
    (∃ failure, outcome = .error failure) ↔ parts ≠ [] := by
  simp only [← failureOf_eq_some_iff, first, firstFailure]
  cases parts <;> simp

theorem firstFailure_append (front back : List UnrecognizedPart) :
    firstFailure (front ++ back) = (firstFailure front).or (firstFailure back) := by
  rw [firstFailure, List.head?_append, Option.map_or]
  rfl

theorem firstFailure_flatMap {α : Type} (parts : α → List UnrecognizedPart) (items : List α) :
    firstFailure (items.flatMap parts) = items.findSome? fun item => firstFailure (parts item) := by
  rw [firstFailure, List.head?_flatMap, List.map_findSome?]
  rfl

/-- If each item fails with the first of its parts, so does a traversal of them all. -/
theorem failureOf_traversal {α β : Type} {f : α → Except ConversionError β}
    {parts : α → List UnrecognizedPart}
    (each : ∀ item, failureOf (f item) = firstFailure (parts item)) (items : List α) :
    failureOf (items.mapM f) = firstFailure (items.flatMap parts) := by
  simp only [failureOf_mapM, firstFailure_flatMap, each]

theorem Primitive.failureOf_toSchema (primitive : Primitive) :
    failureOf primitive.toSchema =
      firstFailure (TypeReference.primitive primitive).unrecognizedParts := by
  cases primitive <;> rfl

mutual
theorem TypeReference.failureOf_toSchema (reference : TypeReference) :
    failureOf reference.toSchema = firstFailure reference.unrecognizedParts := by
  cases reference with
  | primitive primitive => exact (failureOf_map _ _).trans primitive.failureOf_toSchema
  | container container => exact container.failureOf_toSchema
  | named | unknown | void | unrecognized => rfl

theorem ContainerType.failureOf_toSchema (container : ContainerType) :
    failureOf container.toSchema = firstFailure container.unrecognizedParts := by
  cases container with
  | list element | set element => exact (failureOf_map _ _).trans element.failureOf_toSchema
  | map key value => exact (failureOf_map _ _).trans value.failureOf_toSchema
  | optional content => exact content.failureOf_toSchema
  | unrecognized => rfl
end

theorem Property.failureOf_entry (property : Property) :
    failureOf property.entry = firstFailure property.type.unrecognizedParts := by
  rw [entry_eq, failureOf_map, TypeReference.failureOf_toSchema]

theorem UnionVariant.failureOf_toSchema (discriminant : String) (variant : UnionVariant) :
    failureOf (variant.toSchema discriminant) = firstFailure variant.type.unrecognizedParts := by
  by_cases named : ∃ name, variant.type = .named name
  · obtain ⟨name, named⟩ := named
    rw [toSchema_of_named named, named]
    rfl
  · rw [toSchema_of_other (not_exists.mp named), failureOf_map, TypeReference.failureOf_toSchema]

theorem TypeShape.failureOf_toSchema (shape : TypeShape) :
    failureOf shape.toSchema = firstFailure shape.unrecognizedParts := by
  cases shape with
  | aliasOf target => exact target.failureOf_toSchema
  | enumeration | unrecognized => rfl
  | object parents properties =>
      rw [toSchema, failureOf_map, objectSchema_eq, failureOf_map]
      exact failureOf_traversal Property.failureOf_entry properties
  | union discriminant variants =>
      rw [toSchema_union, failureOf_map]
      exact failureOf_traversal (UnionVariant.failureOf_toSchema discriminant) variants

theorem Declaration.failureOf_toSchema (declaration : Declaration) :
    failureOf declaration.toSchema = firstFailure declaration.shape.unrecognizedParts := by
  rw [toSchema, failureOf_map, TypeShape.failureOf_toSchema]

/-- Under the lenient policy, a run fails as a traversal that converts each declaration. -/
theorem failureOf_convertDeclarations (owners : Entries DeclaredName)
    (schemas : Entries SchemaOrRef) (types : List Declaration) :
    failureOf (convertDeclarations .overwrite owners schemas types).2 =
      (failureOf (types.mapM Declaration.toSchema)).map .conversion := by
  have lenient : CollisionPolicy.overwrite ≠ .error := by decide
  induction types generalizing owners schemas with
  | nil => rfl
  | cons declaration rest ih =>
      cases converts : declaration.toSchema with
      | error failure =>
          rw [convertDeclarations_failing rest converts, mapM_cons_error rest converts]
          rfl
      | ok schema =>
          rw [convertDeclarations_step rest converts (fun strict => absurd strict lenient),
            Prod.map_snd, id_eq, ih, mapM_cons_ok rest converts, failureOf_map]

theorem AuthScheme.failureOf_entry (scheme : AuthScheme) :
    failureOf scheme.entry = firstFailure scheme.unrecognizedParts := by
  cases scheme <;> rfl

theorem Auth.failureOf_securitySchemes (auth : Auth) :
    failureOf auth.securitySchemes.2 =
      firstFailure (auth.schemes.flatMap AuthScheme.unrecognizedParts) := by
  rw [securitySchemes_eq, failureOf_map]
  exact failureOf_traversal AuthScheme.failureOf_entry auth.schemes

theorem AuthScheme.failureOf_schemeNames (schemes : List AuthScheme) :
    failureOf (schemes.mapM AuthScheme.schemeName) =
      firstFailure (schemes.flatMap AuthScheme.unrecognizedParts) := by
  rw [mapM_schemeName, failureOf_map]
  exact failureOf_traversal AuthScheme.failureOf_entry schemes

/-- A failure of the schemes comes before one of the way in which they combine, although the
    requirements look at the latter first. -/
theorem Auth.failureOf_conversions (auth : Auth) :
    (failureOf auth.securitySchemes.2).or (failureOf auth.securityRequirements) =
      firstFailure auth.unrecognizedParts := by
  rw [failureOf_securitySchemes, unrecognizedParts, firstFailure_append, securityRequirements]
  cases auth.requirement with
  | all | any =>
      simp only [bind_ok_eq_map, failureOf_map, AuthScheme.failureOf_schemeNames, Option.or_self]
      exact (Option.or_none).symm
  | unrecognized => rfl

theorem failureOf_toFragment (policy : CollisionPolicy) (description : ApiDescription) :
    failureOf (description.toFragment policy).2 =
      (failureOf (convertDeclarations policy [] [] description.types).2).or
        (((failureOf description.auth.securitySchemes.2).or
          (failureOf description.auth.securityRequirements)).map .conversion) := by
  unfold ApiDescription.toFragment
  rcases convertDeclarations policy [] [] description.types with ⟨log, _ | schemas⟩
  · rfl
  · rcases description.auth.securitySchemes with ⟨schemeLog, _ | defined⟩
    · rfl
    · cases description.auth.securityRequirements <;> rfl

/-- Under the lenient policy, a description fails to become a fragment exactly if it shows an
    unrecognized part, and the failure is that of the first part in the order of the description:
    the declared types one after the other, then the schemes, then the way in which they combine. -/
theorem ApiDescription.toFragment_fails_first (description : ApiDescription) :
    ((∃ error, (description.toFragment .overwrite).2 = .error error) ↔
        ∃ part, description.Shows part) ∧
      (∀ part, part ∈ description.unrecognizedParts ↔ description.Shows part) ∧
      ∀ error, (description.toFragment .overwrite).2 = .error error ↔
        ∃ part, description.unrecognizedParts.head? = some part ∧
          error = .conversion part.failure := by
  have outcome : failureOf (description.toFragment .overwrite).2 =
      (firstFailure description.unrecognizedParts).map .conversion := by
    rw [failureOf_toFragment, failureOf_convertDeclarations, Auth.failureOf_conversions,
      failureOf_traversal Declaration.failureOf_toSchema, unrecognizedParts, firstFailure_append,
      Option.map_or]
  have exact : ∀ error, (description.toFragment .overwrite).2 = .error error ↔
      ∃ part, description.unrecognizedParts.head? = some part ∧
        error = .conversion part.failure := by
    intro error
    rw [← failureOf_eq_some_iff, outcome, firstFailure, Option.map_map, Option.map_eq_some_iff]
    simp only [Function.comp_apply, eq_comm]
  refine ⟨?_, fun part => mem_unrecognizedParts_iff, exact⟩
  simp only [exact, ← mem_unrecognizedParts_iff]
  cases description.unrecognizedParts <;> simp

/-- The scheme is reported, although the requirement is unrecognized as well. -/
example :
    (ApiDescription.toFragment .overwrite
      { types := [], auth := ⟨.unrecognized "SOME", [.bearer, .unrecognized .null]⟩ }).2 =
      .error (.conversion (.unrecognized .scheme "null")) := rfl

end ApiComponents
