import Mathlib.Data.Set.Defs
import ApiComponents.Proofs.DeclarationRuns
import ApiComponents.Proofs.SchemeRuns

/-! # The security of a fragment

A caller who has passed some schemes is admitted when one of the security requirements names no
other scheme. All schemes must be passed, or any one of them, as the description says: names that
coincide change nothing about that. The names that the requirements use are the keys of the
security schemes.
-/

namespace ApiComponents

namespace SecurityRequirement

/-- Every scheme that the requirement names is among those passed. -/
def MetBy (requirement : SecurityRequirement) (passed : Set String) : Prop :=
  ∀ name ∈ requirement.keys, name ∈ passed

/-- The requirement that names the given schemes, without scopes. -/
def naming (names : List String) : SecurityRequirement :=
  Entries.ofPairs (names.map fun name => (name, []))

theorem keys_naming (names : List String) : (naming names).keys = names.eraseDups := by
  rw [naming, Entries.keys_ofPairs, List.map_map]
  exact congrArg List.eraseDups (List.map_id names)

theorem mem_keys_naming {names : List String} {name : String} :
    name ∈ (naming names).keys ↔ name ∈ names := by
  rw [keys_naming, List.mem_eraseDups]

theorem scopes_naming {names : List String} {pair : String × List String}
    (member : pair ∈ naming names) : pair.2 = [] := by
  obtain ⟨name, -, rfl⟩ := List.mem_map.mp (Entries.mem_of_mem_ofPairs member)
  rfl

theorem metBy_naming_iff {names : List String} {passed : Set String} :
    (naming names).MetBy passed ↔ ∀ name ∈ names, name ∈ passed := by
  simp only [MetBy, mem_keys_naming]

end SecurityRequirement

/-- A caller who has passed the schemes of these names meets one of the requirements. -/
def Fragment.Admits (fragment : Fragment) (passed : Set String) : Prop :=
  ∃ requirement ∈ fragment.security, requirement.MetBy passed

namespace AuthScheme

/-- The scheme has a name, and it is among those passed. -/
def NamedIn (scheme : AuthScheme) (passed : Set String) : Prop :=
  ∃ name, scheme.schemeName = .ok name ∧ name ∈ passed

/-- What a scheme means in OpenAPI. -/
inductive Defines : AuthScheme → SecurityScheme → Prop where
  | bearer : Defines .bearer { kind := .http, scheme := some "bearer" }
  | basic : Defines .basic { kind := .http, scheme := some "basic" }
  /-- A key in the header of the wire name. -/
  | header (wire name : String) :
      Defines (.header wire name)
        { kind := .apiKey, name := some wire, location := some .header }

theorem defines_of_toSecurityScheme {scheme : AuthScheme} {definition : SecurityScheme}
    (made : scheme.toSecurityScheme = .ok definition) : scheme.Defines definition := by
  cases scheme with
  | bearer =>
      cases made
      exact .bearer
  | basic =>
      cases made
      exact .basic
  | header wire name =>
      cases made
      exact .header wire name
  | unrecognized => cases made

/-- Schemes and their entries, one by one. -/
def Entered (schemes : List AuthScheme) (pairs : List (String × SecurityScheme)) : Prop :=
  List.Forall₂ (fun scheme pair => scheme.entry = .ok pair) schemes pairs

namespace Entered

variable {schemes : List AuthScheme} {pairs : List (String × SecurityScheme)}
  (entered : Entered schemes pairs)
include entered

theorem named : List.Forall₂ (fun scheme name => scheme.schemeName = .ok name) schemes
    (pairs.map Prod.fst) := by
  rw [List.forall₂_map_right_iff]
  exact entered.imp fun _ _ made => (entry_eq_ok_iff.mp made).1

theorem nil_iff : schemes = [] ↔ pairs.map Prod.fst = [] := by
  rw [← List.length_eq_zero_iff, ← List.length_eq_zero_iff, entered.named.length_eq]

theorem forall_namedIn_iff {passed : Set String} :
    (∀ scheme ∈ schemes, scheme.NamedIn passed) ↔ ∀ name ∈ pairs.map Prod.fst, name ∈ passed := by
  constructor
  · intro all name member
    obtain ⟨scheme, listed, known⟩ := exists_left_of_mem entered.named member
    obtain ⟨other, same, inside⟩ := all scheme listed
    rw [known] at same
    cases same
    exact inside
  · intro all scheme listed
    obtain ⟨name, member, known⟩ := exists_right_of_mem entered.named listed
    exact ⟨name, known, all name member⟩

theorem exists_namedIn_iff {passed : Set String} :
    (∃ scheme ∈ schemes, scheme.NamedIn passed) ↔ ∃ name ∈ pairs.map Prod.fst, name ∈ passed := by
  constructor
  · rintro ⟨scheme, listed, name, known, inside⟩
    obtain ⟨other, member, same⟩ := exists_right_of_mem entered.named listed
    rw [known] at same
    cases same
    exact ⟨name, member, inside⟩
  · rintro ⟨name, member, inside⟩
    obtain ⟨scheme, listed, known⟩ := exists_left_of_mem entered.named member
    exact ⟨scheme, listed, name, known, inside⟩

/-- The definition of a name is that of the last scheme with the name. -/
theorem last_of_mem {key : String} {definition : SecurityScheme}
    (member : (key, definition) ∈ Entries.ofPairs pairs) :
    ∃ before scheme after, schemes = before ++ scheme :: after ∧
      scheme.schemeName = .ok key ∧ scheme.Defines definition ∧
      ∀ later ∈ after, later.schemeName ≠ .ok key := by
  obtain ⟨front, back, rfl, absent⟩ := Entries.split_of_lookup_ofPairs
    (Entries.lookup_of_mem (Entries.distinct_ofPairs pairs) member)
  obtain ⟨before, scheme, after, split, -, made, behind⟩ := exists_split_left entered
  obtain ⟨known, meaning⟩ := entry_eq_ok_iff.mp made
  refine ⟨before, scheme, after, split, known, defines_of_toSecurityScheme meaning, ?_⟩
  intro later listed same
  obtain ⟨name, inside, other⟩ := exists_right_of_mem (named behind) listed
  rw [same] at other
  cases other
  exact absent inside

end Entered

end AuthScheme

/-- The groups of schemes that are asked for: one of them must be passed as a whole. -/
def AuthRequirement.groups (names : List String) : AuthRequirement → List (List String)
  | .all => if names = [] then [] else [names]
  | .any => names.map fun name => [name]
  | .unrecognized _ => []

theorem AuthRequirement.groups_nil (requirement : AuthRequirement) : requirement.groups [] = [] := by
  cases requirement <;> rfl

/-- Every scheme stands in some group, and nothing else does. -/
theorem AuthRequirement.mem_groups_iff {requirement : AuthRequirement}
    (recognized : ∀ word, requirement ≠ .unrecognized word) {names : List String} {name : String} :
    (∃ group ∈ requirement.groups names, name ∈ group) ↔ name ∈ names := by
  cases requirement with
  | all => by_cases none : names = [] <;> simp [groups, none]
  | any => simp [groups]
  | unrecognized word => exact absurd rfl (recognized word)

section Fragments

variable {policy : CollisionPolicy} {description : ApiDescription} {fragment : Fragment}
  (built : (description.toFragment policy).2 = .ok fragment)
include built

/-- The entries of the schemes are the security schemes, and their names make the requirements. -/
theorem Fragment.security_eq :
    ∃ pairs, AuthScheme.Entered description.auth.schemes pairs ∧
      (∀ word, description.auth.requirement ≠ .unrecognized word) ∧
      fragment.components.securitySchemes = Entries.ofPairs pairs ∧
      fragment.security = (description.auth.requirement.groups (pairs.map Prod.fst)).map
        SecurityRequirement.naming := by
  obtain ⟨_, securitySchemes, requirements, -, -, defined, required, rfl⟩ :=
    toFragment_eq_ok_iff.mp built
  rw [Auth.securitySchemes_eq] at defined
  obtain ⟨pairs, traversed, rfl⟩ := map_eq_ok_iff.mp defined
  have entered : AuthScheme.Entered description.auth.schemes pairs := mapM_eq_ok_iff.mp traversed
  have empty : description.auth.schemes.isEmpty = true ↔ pairs.map Prod.fst = [] :=
    List.isEmpty_iff.trans entered.nil_iff
  rw [Auth.securityRequirements, mapM_schemeName, traversed] at required
  refine ⟨pairs, entered, fun word unknown => ?_, rfl, ?_⟩
  · rw [unknown] at required
    cases required
  · simp only [empty]
    cases combined : description.auth.requirement with
    | all =>
        rw [combined] at required
        cases required
        simp only [AuthRequirement.groups]
        split <;> rfl
    | any =>
        rw [combined] at required
        cases required
        simp only [AuthRequirement.groups, List.map_map]
        split
        · next none => rw [List.map_eq_nil_iff.mp none, List.map_nil]
        · rfl
    | unrecognized word =>
        rw [combined] at required
        cases required

end Fragments

/-- With at least one scheme, a caller is admitted exactly if all schemes have been passed, or at
    least one of them, whichever the description asks for. No scopes are asked for, and without
    schemes there are no requirements. -/
theorem Fragment.admits_iff {policy : CollisionPolicy} {description : ApiDescription}
    {fragment : Fragment} (built : (description.toFragment policy).2 = .ok fragment) :
    (description.auth.schemes ≠ [] →
        (description.auth.requirement = .all → ∀ passed : Set String,
          fragment.Admits passed ↔
            ∀ scheme ∈ description.auth.schemes, scheme.NamedIn passed) ∧
        (description.auth.requirement = .any → ∀ passed : Set String,
          fragment.Admits passed ↔
            ∃ scheme ∈ description.auth.schemes, scheme.NamedIn passed)) ∧
      (∀ requirement ∈ fragment.security, ∀ pair ∈ requirement, pair.2 = []) ∧
      (description.auth.schemes = [] → fragment.security = []) := by
  obtain ⟨pairs, entered, -, -, security⟩ := Fragment.security_eq built
  have admits (passed : Set String) : fragment.Admits passed ↔
      ∃ group ∈ description.auth.requirement.groups (pairs.map Prod.fst),
        ∀ name ∈ group, name ∈ passed := by
    simp only [Admits, security, List.mem_map, exists_exists_and_eq_and,
      SecurityRequirement.metBy_naming_iff]
  refine ⟨fun some => ⟨fun all passed => ?_, fun any passed => ?_⟩, ?_, fun none => ?_⟩
  · rw [admits, all, AuthRequirement.groups, if_neg (entered.nil_iff.not.mp some),
      entered.forall_namedIn_iff]
    simp only [List.mem_singleton, exists_eq_left]
  · rw [admits, any, AuthRequirement.groups, entered.exists_namedIn_iff]
    simp
  · intro requirement listed pair member
    rw [security] at listed
    obtain ⟨group, -, rfl⟩ := List.mem_map.mp listed
    exact SecurityRequirement.scopes_naming member
  · rw [security, entered.nil_iff.mp none, AuthRequirement.groups_nil, List.map_nil]

/-- A bearer token, and two keys in headers of which one has the name of the bearer scheme. -/
def sharedNameDescription (requirement : AuthRequirement) : ApiDescription where
  types := []
  auth :=
    { requirement
      schemes := [.bearer, .header "X-API-Key" "api_key", .header "X-Token" "bearer"] }

def sharedNameFragment : Fragment where
  components :=
    { securitySchemes :=
        [("BearerAuth", .headerKey "X-Token"), ("ApiKeyAuth", .headerKey "X-API-Key")] }
  security := [[("BearerAuth", []), ("ApiKeyAuth", [])]]

theorem Fragment.shared_name_admits_iff :
    ((sharedNameDescription .all).toFragment .error).2 = .ok sharedNameFragment ∧
      ∀ passed : Set String, sharedNameFragment.Admits passed ↔
        ∀ scheme ∈ (sharedNameDescription .all).auth.schemes, scheme.NamedIn passed := by
  have built : ((sharedNameDescription .all).toFragment .error).2 = .ok sharedNameFragment := rfl
  exact ⟨built, ((Fragment.admits_iff built).1 (List.cons_ne_nil _ _)).1 rfl⟩

/-- Security schemes and requirements fit together. The keys are the names of the schemes in the
    order of their first occurrence, each with the definition of the last scheme of the name. The
    requirements use all keys and nothing else: together in one requirement, in the order of the
    keys, or one for each scheme, in the order of the schemes. -/
theorem Fragment.security_uses_schemes {policy : CollisionPolicy} {description : ApiDescription}
    {fragment : Fragment} (built : (description.toFragment policy).2 = .ok fragment) :
    (∃ names, List.Forall₂ (fun scheme name => scheme.schemeName = .ok name)
        description.auth.schemes names ∧
      fragment.components.securitySchemes.keys = names.eraseDups) ∧
    fragment.components.securitySchemes.Distinct ∧
    (∀ key definition, (key, definition) ∈ fragment.components.securitySchemes →
      ∃ before scheme after, description.auth.schemes = before ++ scheme :: after ∧
        scheme.schemeName = .ok key ∧ scheme.Defines definition ∧
        ∀ later ∈ after, later.schemeName ≠ .ok key) ∧
    (∀ name, (∃ requirement ∈ fragment.security, name ∈ requirement.keys) ↔
      name ∈ fragment.components.securitySchemes.keys) ∧
    (description.auth.requirement = .all → description.auth.schemes ≠ [] →
      ∃ single, fragment.security = [single] ∧
        single.keys = fragment.components.securitySchemes.keys) ∧
    (description.auth.requirement = .any →
      List.Forall₂ (fun scheme requirement =>
        ∃ name, scheme.schemeName = .ok name ∧ requirement = [(name, [])])
        description.auth.schemes fragment.security) := by
  obtain ⟨pairs, entered, recognized, schemes, security⟩ := Fragment.security_eq built
  rw [schemes, security]
  refine ⟨⟨_, entered.named, Entries.keys_ofPairs pairs⟩, Entries.distinct_ofPairs pairs,
    fun key definition member => entered.last_of_mem member, fun name => ?_, fun all some => ?_,
    fun any => ?_⟩
  · rw [Entries.mem_keys_ofPairs, ← AuthRequirement.mem_groups_iff recognized]
    simp only [List.mem_map, exists_exists_and_eq_and, SecurityRequirement.mem_keys_naming]
  · rw [all, AuthRequirement.groups, if_neg (entered.nil_iff.not.mp some)]
    exact ⟨_, rfl, by rw [SecurityRequirement.keys_naming, Entries.keys_ofPairs]⟩
  · rw [any, AuthRequirement.groups, List.map_map, List.forall₂_map_right_iff]
    exact entered.named.imp fun scheme name known => ⟨name, known, rfl⟩

theorem Fragment.shared_name_uses_schemes :
    ((sharedNameDescription .all).toFragment .error).2 = .ok sharedNameFragment ∧
      (∀ name, (∃ requirement ∈ sharedNameFragment.security, name ∈ requirement.keys) ↔
        name ∈ sharedNameFragment.components.securitySchemes.keys) ∧
      ∃ single, sharedNameFragment.security = [single] ∧
        single.keys = sharedNameFragment.components.securitySchemes.keys := by
  have built : ((sharedNameDescription .all).toFragment .error).2 = .ok sharedNameFragment := rfl
  obtain ⟨-, -, -, used, all, -⟩ := Fragment.security_uses_schemes built
  exact ⟨built, used, all rfl (List.cons_ne_nil _ _)⟩

end ApiComponents
