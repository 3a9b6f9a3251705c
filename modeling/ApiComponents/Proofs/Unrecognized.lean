import ApiComponents.Proofs.DeclarationRuns
import ApiComponents.Proofs.FirstFailure
import ApiComponents.Proofs.SchemeRuns

/-! # Unrecognized parts

Where the unrecognized parts of a description are, and what becomes of a description that has some.
The conversion visits every part but the key types of maps, so these are told apart: `inKeys` says
whether a search goes into them. A conversion fails exactly when it visits an unrecognized part.
-/

namespace ApiComponents

def Primitive.isUnrecognized : Primitive → Bool
  | .unrecognized _ => true
  | _ => false

mutual
/-- A reference is unrecognized or has such a part. -/
def TypeReference.hasUnrecognized (inKeys : Bool) : TypeReference → Bool
  | .primitive primitive => primitive.isUnrecognized
  | .container container => container.hasUnrecognized inKeys
  | .named _ | .unknown | .void => false
  | .unrecognized _ => true

def ContainerType.hasUnrecognized (inKeys : Bool) : ContainerType → Bool
  | .list element | .set element => element.hasUnrecognized inKeys
  | .map key value =>
      (inKeys && key.hasUnrecognized inKeys) || value.hasUnrecognized inKeys
  | .optional content => content.hasUnrecognized inKeys
  | .unrecognized _ => true
end

def TypeShape.hasUnrecognized (inKeys : Bool) : TypeShape → Bool
  | .aliasOf target => target.hasUnrecognized inKeys
  | .enumeration _ => false
  | .object _ properties => properties.any fun property => property.type.hasUnrecognized inKeys
  | .union _ variants => variants.any fun variant => variant.type.hasUnrecognized inKeys
  | .unrecognized _ => true

def AuthRequirement.isUnrecognized : AuthRequirement → Bool
  | .unrecognized _ => true
  | .all | .any => false

def AuthScheme.isUnrecognized : AuthScheme → Bool
  | .unrecognized _ => true
  | _ => false

def Auth.hasUnrecognized (auth : Auth) : Bool :=
  auth.requirement.isUnrecognized || auth.schemes.any AuthScheme.isUnrecognized

/-- A description has an unrecognized part. -/
def ApiDescription.hasUnrecognized (inKeys : Bool) (description : ApiDescription) : Bool :=
  (description.types.any fun declaration => declaration.shape.hasUnrecognized inKeys) ||
    description.auth.hasUnrecognized

mutual
/-- A search outside of key types finds something if the reference shows a part. -/
theorem TypeReference.hasUnrecognized_iff (reference : TypeReference) :
    reference.hasUnrecognized false = true ↔ reference.unrecognizedParts ≠ [] := by
  cases reference with
  | primitive primitive =>
      cases primitive <;> simp [TypeReference.hasUnrecognized, Primitive.isUnrecognized,
        TypeReference.unrecognizedParts]
  | container container => exact container.hasUnrecognized_iff
  | named | unknown | void | unrecognized =>
      simp [TypeReference.hasUnrecognized, TypeReference.unrecognizedParts]

theorem ContainerType.hasUnrecognized_iff (container : ContainerType) :
    container.hasUnrecognized false = true ↔ container.unrecognizedParts ≠ [] := by
  cases container with
  | list element | set element => exact element.hasUnrecognized_iff
  | map key value =>
      rw [ContainerType.hasUnrecognized, Bool.false_and, Bool.false_or]
      exact value.hasUnrecognized_iff
  | optional content => exact content.hasUnrecognized_iff
  | unrecognized => simp [ContainerType.hasUnrecognized, ContainerType.unrecognizedParts]
end

theorem TypeShape.hasUnrecognized_iff (shape : TypeShape) :
    shape.hasUnrecognized false = true ↔ shape.unrecognizedParts ≠ [] := by
  cases shape with
  | aliasOf target => exact target.hasUnrecognized_iff
  | enumeration | unrecognized => simp [hasUnrecognized, unrecognizedParts]
  | object | union =>
      simp only [hasUnrecognized, unrecognizedParts, List.any_eq_true, Ne, List.flatMap_eq_nil_iff,
        TypeReference.hasUnrecognized_iff, not_forall, exists_prop]

theorem Declaration.toSchema_fails_iff (declaration : Declaration) :
    (∃ failure, declaration.toSchema = .error failure) ↔
      declaration.shape.hasUnrecognized false = true := by
  rw [fails_iff_of_failureOf declaration.failureOf_toSchema, TypeShape.hasUnrecognized_iff]

theorem AuthScheme.schemeName_fails_iff (scheme : AuthScheme) :
    (∃ failure, scheme.schemeName = .error failure) ↔ scheme.isUnrecognized = true := by
  cases scheme <;> simp [schemeName, isUnrecognized]

theorem AuthScheme.schemeNames_fail_iff (schemes : List AuthScheme) :
    (∃ failure, schemes.mapM schemeName = .error failure) ↔
      schemes.any isUnrecognized = true := by
  simp only [mapM_fails_iff, List.any_eq_true, schemeName_fails_iff]

theorem defineSchemes_fails_iff (schemes : List AuthScheme) :
    (∃ failure, (defineSchemes [] schemes).2 = .error failure) ↔
      schemes.any AuthScheme.isUnrecognized = true :=
  (exists_congr fun _ => Auth.securitySchemes_eq_error_iff ⟨.all, schemes⟩).trans
    (AuthScheme.schemeNames_fail_iff schemes)

theorem Auth.securityRequirements_fails_iff (auth : Auth) :
    (∃ failure, auth.securityRequirements = .error failure) ↔ auth.hasUnrecognized = true := by
  cases required : auth.requirement with
  | all | any =>
      simp only [securityRequirements, required, bind_ok_eq_map, map_fails_iff,
        AuthScheme.schemeNames_fail_iff, hasUnrecognized, AuthRequirement.isUnrecognized,
        Bool.false_or]
  | unrecognized => simp [securityRequirements, required, hasUnrecognized,
      AuthRequirement.isUnrecognized]

/-- A description becomes a fragment when each part converts and the names are permitted. -/
theorem ApiDescription.toFragment_succeeds_iff (policy : CollisionPolicy)
    (description : ApiDescription) :
    (∃ fragment, (description.toFragment policy).2 = .ok fragment) ↔
      (∀ declaration ∈ description.types, ∃ schema, declaration.toSchema = .ok schema) ∧
        policy.Permits description.types ∧
        (∃ securitySchemes, description.auth.securitySchemes.2 = .ok securitySchemes) ∧
        ∃ requirements, description.auth.securityRequirements = .ok requirements := by
  rw [← exists_converted_iff]
  constructor
  · rintro ⟨fragment, built⟩
    obtain ⟨pairs, securitySchemes, requirements, converted, permits, defined, required, -⟩ :=
      toFragment_eq_ok_iff.mp built
    exact ⟨⟨pairs, converted⟩, permits, ⟨securitySchemes, defined⟩, ⟨requirements, required⟩⟩
  · rintro ⟨⟨pairs, converted⟩, permits, ⟨securitySchemes, defined⟩, ⟨requirements, required⟩⟩
    exact ⟨_, toFragment_eq_ok_iff.mpr
      ⟨pairs, securitySchemes, requirements, converted, permits, defined, required, rfl⟩⟩

/-- No fragment comes of a description with an unrecognized part outside the key types of maps.
    Nothing else fails but repeated schema names under the strict policy. -/
theorem ApiDescription.toFragment_fails_iff (policy : CollisionPolicy)
    (description : ApiDescription) :
    (∃ failure, (description.toFragment policy).2 = .error failure) ↔
      description.hasUnrecognized false = true ∨
        policy = .error ∧ ¬ (schemaNames description.types).Nodup := by
  have types : (∀ declaration ∈ description.types, ∃ schema, declaration.toSchema = .ok schema) ↔
      ¬ (description.types.any fun declaration =>
        declaration.shape.hasUnrecognized false) = true := by
    simp only [← not_fails_iff, Declaration.toSchema_fails_iff, List.any_eq_true, not_exists,
      not_and]
  have schemes : (∃ securitySchemes, description.auth.securitySchemes.2 = .ok securitySchemes) ↔
      ¬ description.auth.schemes.any AuthScheme.isUnrecognized = true := by
    rw [← not_fails_iff, Auth.securitySchemes, defineSchemes_fails_iff]
  have requirements : (∃ requirements,
      description.auth.securityRequirements = .ok requirements) ↔
        ¬ description.auth.hasUnrecognized = true := by
    rw [← not_fails_iff, Auth.securityRequirements_fails_iff]
  rw [← not_iff_not, not_fails_iff, toFragment_succeeds_iff, types, schemes, requirements,
    hasUnrecognized, Auth.hasUnrecognized, CollisionPolicy.Permits]
  simp only [Bool.or_eq_true]
  tauto

/-- An alias for a map whose key type has an unknown tag. -/
def unknownKeyDescription : ApiDescription where
  types :=
    [{ name := ⟨[], "m"⟩
       docs := none
       shape := .aliasOf
         (.map (.unrecognized (.object [("_type", .text "mystery")])) .unknown) }]
  auth := .none

/-- An unrecognized key type goes unnoticed. -/
theorem unknown_key_skipped :
    unknownKeyDescription.hasUnrecognized true = true ∧
      (unknownKeyDescription.toFragment .overwrite).2 =
        .ok
          { components :=
              { schemas := [("M", Schema.mapOf (.inline {}))]
                securitySchemes := [] }
            security := [] } ∧
      (unknownKeyDescription.toFragment .error).2 =
        .ok
          { components :=
              { schemas := [("M", Schema.mapOf (.inline {}))]
                securitySchemes := [] }
            security := [] } :=
  ⟨rfl, rfl, rfl⟩

/-! ## How authentication fails

The security schemes and the security requirements are made by passes of their own over the schemes.
Both stop at the first scheme that the library does not recognize, and report it alike. Only the
requirements depend on the way in which the schemes combine: if it is unknown they fail with it
before they come to a scheme.
-/

namespace AuthScheme

/-- The scheme stands in the list, is unrecognized and has only recognized schemes before it. -/
structure FirstUnrecognized (schemes : List AuthScheme) (first : AuthScheme) : Prop where
  unrecognized : first.isUnrecognized = true
  split : ∃ before after, schemes = before ++ first :: after ∧
    ∀ earlier ∈ before, earlier.isUnrecognized = false

theorem exists_schemeName_iff (scheme : AuthScheme) :
    (∃ name, scheme.schemeName = .ok name) ↔ scheme.isUnrecognized = false := by
  rw [← not_fails_iff, schemeName_fails_iff, Bool.not_eq_true]

/-- The names fail with the first unrecognized scheme. -/
theorem schemeNames_eq_error_iff {schemes : List AuthScheme} {failure : ConversionError} :
    schemes.mapM schemeName = .error failure ↔
      ∃ first, FirstUnrecognized schemes first ∧ first.schemeName = .error failure := by
  simp only [mapM_eq_error_iff, exists_schemeName_iff]
  constructor
  · rintro ⟨before, first, after, split, recognized, fails⟩
    have unrecognized := first.schemeName_fails_iff.mp ⟨failure, fails⟩
    exact ⟨first, ⟨unrecognized, before, after, split, recognized⟩, fails⟩
  · rintro ⟨first, ⟨-, before, after, split, recognized⟩, fails⟩
    exact ⟨before, first, after, split, recognized, fails⟩

end AuthScheme

/-- With a way to combine that is known, the security schemes and the requirements fail together:
    when some scheme is unrecognized, and with the failure that the name of the first such scheme
    gives. An unknown way to combine makes the requirements fail with it, whatever the schemes are,
    and changes nothing about the security schemes. -/
theorem Auth.conversions_fail_together (auth : Auth) :
    ((∀ word, auth.requirement ≠ .unrecognized word) →
      ((∃ failure, auth.securitySchemes.2 = .error failure) ↔
        ∃ failure, auth.securityRequirements = .error failure) ∧
      ((∃ failure, auth.securityRequirements = .error failure) ↔
        ∃ scheme ∈ auth.schemes, scheme.isUnrecognized = true) ∧
      ∀ failure,
        (auth.securitySchemes.2 = .error failure ↔ ∃ first,
          AuthScheme.FirstUnrecognized auth.schemes first ∧ first.schemeName = .error failure) ∧
        (auth.securityRequirements = .error failure ↔ ∃ first,
          AuthScheme.FirstUnrecognized auth.schemes first ∧ first.schemeName = .error failure)) ∧
    (∀ word, ({ auth with requirement := .unrecognized word } : Auth).securityRequirements =
      .error (.unrecognizedRequirement word)) ∧
    ∀ requirement, ({ auth with requirement } : Auth).securitySchemes = auth.securitySchemes := by
  refine ⟨fun recognized => ⟨?_, ?_, fun failure => ⟨?_, ?_⟩⟩, fun word => rfl,
    fun requirement => rfl⟩
  · simp only [auth.securitySchemes_eq_error_iff, securityRequirements_eq_error_iff recognized]
  · simp only [securityRequirements_eq_error_iff recognized, AuthScheme.schemeNames_fail_iff,
      List.any_eq_true]
  · rw [auth.securitySchemes_eq_error_iff, AuthScheme.schemeNames_eq_error_iff]
  · rw [securityRequirements_eq_error_iff recognized, AuthScheme.schemeNames_eq_error_iff]

/-- An unknown kind of scheme behind a bearer token, and behind it a key without its header. -/
def oauthAuth : Auth where
  requirement := .any
  schemes :=
    [.bearer, .unrecognized (.object [("_type", .text "oauth")]),
      .unrecognized (.object [("_type", .text "header"), ("name", .text "apiKey")])]

/-- The unknown kind is reported, and the key without its header is not. -/
theorem Auth.oauth_conversions_fail_together :
    (∀ word, oauthAuth.requirement ≠ .unrecognized word) ∧
      oauthAuth.securitySchemes.2 = .error (.unrecognized .scheme "oauth") ∧
      oauthAuth.securityRequirements = .error (.unrecognized .scheme "oauth") := by
  have recognized : ∀ word, oauthAuth.requirement ≠ .unrecognized word := nofun
  have first : AuthScheme.FirstUnrecognized oauthAuth.schemes
      (.unrecognized (.object [("_type", .text "oauth")])) := ⟨rfl, [.bearer], _, rfl, by decide⟩
  obtain ⟨-, -, outcomes⟩ := (Auth.conversions_fail_together oauthAuth).1 recognized
  have reported := outcomes (.unrecognized .scheme "oauth")
  exact ⟨recognized, reported.1.mpr ⟨_, first, rfl⟩, reported.2.mpr ⟨_, first, rfl⟩⟩

end ApiComponents
