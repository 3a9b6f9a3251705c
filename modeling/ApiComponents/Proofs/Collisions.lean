import ApiComponents.Proofs.SchemaPointers

/-! # Colliding schema names

What exactly the two policies make of declarations. The strict one stops at the first fault, which
is a declaration that does not convert or that has the schema name of an earlier one; without a
fault, each declaration has its own entry. The lenient one keeps the place of the first declaration
of a schema name and the schema of the last.
-/

namespace ApiComponents

/-- The declaration at a place does not convert or has the schema name of an earlier one. -/
def FaultAt (types : List Declaration) (place : Nat) : Prop :=
  ∃ declaration, types[place]? = some declaration ∧
    ((∃ failure, declaration.toSchema = .error failure) ∨
      ∃ earlier ∈ types.take place, earlier.schemaName = declaration.schemaName)

def FirstFault (types : List Declaration) (place : Nat) : Prop :=
  FaultAt types place ∧ ∀ earlier < place, ¬ FaultAt types earlier

theorem faultAt_of_stops {before after : List Declaration} {declaration : Declaration}
    (stops : Stops .error before declaration) :
    FaultAt (before ++ declaration :: after) before.length := by
  refine ⟨declaration, List.getElem?_append_right (Nat.le_refl _) |>.trans (by simp), ?_⟩
  rw [List.take_left]
  exact stops.imp_right fun collides => mem_schemaNames.mp collides.2

/-- Declarations before the first fault go through. -/
theorem through_of_no_fault {types : List Declaration} (place : Nat)
    (faultless : ∀ earlier < place, ¬ FaultAt types earlier) :
    ∃ pairs, Converted (types.take place) pairs ∧ (schemaNames (types.take place)).Nodup := by
  rcases through_or_stops .error (types.take place) with ⟨pairs, converted, permits⟩ | stopped
  · exact ⟨pairs, converted, permits rfl⟩
  · obtain ⟨before, declaration, after, pairs, split, -, -, stops⟩ := stopped
    have whole : types = before ++ declaration :: (after ++ types.drop place) := by
      rw [← List.cons_append, ← List.append_assoc, ← split, List.take_append_drop]
    have inside : before.length < place := by
      have shorter := congrArg List.length split
      simp only [List.length_take, List.length_append, List.length_cons] at shorter
      omega
    have fault : FaultAt types before.length := by
      rw [whole]
      exact faultAt_of_stops stops
    exact absurd fault (faultless _ inside)

theorem take_append_of_getElem? {α : Type} {items : List α} {place : Nat} {item : α}
    (here : items[place]? = some item) :
    items.take place ++ item :: items.drop (place + 1) = items := by
  obtain ⟨inside, rfl⟩ := List.getElem?_eq_some_iff.mp here
  rw [← List.drop_eq_getElem_cons inside, List.take_append_drop]

/-- Among items with distinct images, each is the only one with its own. -/
theorem filter_of_distinct {α β : Type} [DecidableEq β] {f : α → β} {items : List α}
    (distinct : (items.map f).Nodup) {item : α} (member : item ∈ items) :
    items.filter (fun other => f other = f item) = [item] := by
  induction items with
  | nil => cases member
  | cons first rest ih =>
      obtain ⟨absent, restDistinct⟩ := List.nodup_cons.mp distinct
      rcases List.mem_cons.mp member with rfl | later
      · have nothing : rest.filter (fun other => f other = f item) = [] := by
          refine List.filter_eq_nil_iff.mpr fun other inside same => ?_
          exact absent (of_decide_eq_true same ▸ List.mem_map_of_mem inside)
        rw [List.filter_cons_of_pos (by simp), nothing]
      · have different : f first ≠ f item :=
          fun same => absent (same ▸ List.mem_map_of_mem later)
        rw [List.filter_cons_of_neg (by simpa using different), ih restDistinct later]

section Strict

variable {description : ApiDescription} {place : Nat} {declaration : Declaration}
  (first : FirstFault description.types place)
  (here : description.types[place]? = some declaration)
include first here

theorem toFragment_first_failure {failure} (fails : declaration.toSchema = .error failure) :
    (description.toFragment .error).2 = .error (.conversion failure) := by
  obtain ⟨pairs, converted, distinct⟩ := through_of_no_fault place first.2
  apply toFragment_stopped
  rw [← take_append_of_getElem? here]
  exact convertDeclarations_fails _ converted (fun _ => distinct) fails

theorem toFragment_first_collision {schema} (converts : declaration.toSchema = .ok schema) :
    ∃ earlier, (description.types.take place).filter
          (fun other => other.schemaName = declaration.schemaName) = [earlier] ∧
      (description.toFragment .error).2 =
        .error (.collision declaration.schemaName earlier.name.display
          declaration.name.display) := by
  obtain ⟨pairs, converted, distinct⟩ := through_of_no_fault place first.2
  obtain ⟨faulty, there, fault⟩ := first.1
  cases here.symm.trans there
  rcases fault with ⟨failure, fails⟩ | ⟨earlier, member, same⟩
  · rw [fails] at converts
    cases converts
  · refine ⟨earlier, same ▸ filter_of_distinct distinct member, ?_⟩
    apply toFragment_stopped
    rw [← take_append_of_getElem? here]
    exact convertDeclarations_collides _ converted distinct converts member same

end Strict

theorem through_of_faultless {types : List Declaration}
    (faultless : ∀ place, ¬ FaultAt types place) :
    ∃ pairs, Converted types pairs ∧ (schemaNames types).Nodup := by
  have through := through_of_no_fault types.length fun earlier _ => faultless earlier
  rw [List.take_length] at through
  exact through

/-- With distinct schema names, the pointer to a declared type leads to the schema of the one
    declaration of it. -/
theorem follow?_reference {types : List Declaration} {fragment : Fragment}
    (converted : Converted types fragment.components.schemas)
    (distinct : (schemaNames types).Nodup) {declaration : Declaration}
    (member : declaration ∈ types) :
    ∃ schema, types.filter (fun other => other.name = declaration.name) = [declaration] ∧
      declaration.toSchema = .ok schema ∧
      fragment.toJson.follow? declaration.name.reference = some schema.toJson := by
  obtain ⟨schema, converts, inside⟩ := converted.entry member
  have names : (types.map Declaration.name).Nodup := by
    refine List.Nodup.of_map DeclaredName.schemaName ?_
    rw [List.map_map]
    exact distinct
  have keys : fragment.components.schemas.Distinct := by
    rw [Entries.Distinct, Entries.keys, converted.names]
    exact distinct
  exact ⟨schema, filter_of_distinct names member, converts,
    Fragment.follow?_schemaRoot declaration.name.no_slash declaration.name.no_tilde
      (Entries.lookup_of_mem keys inside)⟩

/-- The strict policy reports the first fault: the failure of a declaration that does not convert,
    else the collision with the one earlier declaration of its schema name. Without a fault, each
    declaration has an entry of its own, in order, and each pointer leads to the schema of the one
    declaration with exactly that name. -/
theorem ApiDescription.toFragment_strict (description : ApiDescription) :
    (∀ place declaration, FirstFault description.types place →
      description.types[place]? = some declaration →
        (∀ failure, declaration.toSchema = .error failure →
          (description.toFragment .error).2 = .error (.conversion failure)) ∧
        (∀ schema, declaration.toSchema = .ok schema →
          ∃ earlier, (description.types.take place).filter
                (fun other => other.schemaName = declaration.schemaName) = [earlier] ∧
            (description.toFragment .error).2 =
              .error (.collision declaration.schemaName earlier.name.display
                declaration.name.display))) ∧
    ((∀ place, ¬ FaultAt description.types place) →
      ∀ securitySchemes requirements,
        description.auth.securitySchemes.2 = .ok securitySchemes →
        description.auth.securityRequirements = .ok requirements →
          ∃ fragment, (description.toFragment .error).2 = .ok fragment ∧
            Converted description.types fragment.components.schemas ∧
            (description.MentionsDeclared → ∀ name ∈ description.mentions,
              ∃ declaration schema,
                description.types.filter (fun other => other.name = name) = [declaration] ∧
                declaration.toSchema = .ok schema ∧
                fragment.toJson.follow? name.reference = some schema.toJson)) := by
  constructor
  · intro place declaration first here
    constructor
    · intro failure fails
      exact toFragment_first_failure first here fails
    · intro schema converts
      exact toFragment_first_collision first here converts
  · intro faultless securitySchemes requirements defined required
    obtain ⟨pairs, converted, distinct⟩ := through_of_faultless faultless
    have kept : Converted description.types (Entries.ofPairs pairs) := by
      rw [Entries.ofPairs_of_distinct (converted.names ▸ distinct)]
      exact converted
    refine ⟨_, toFragment_eq_ok_iff.mpr ⟨pairs, securitySchemes, requirements, converted,
      fun _ => distinct, defined, required, rfl⟩, kept, ?_⟩
    intro declared name mentioned
    obtain ⟨declaration, member, rfl⟩ := declared name mentioned
    exact ⟨declaration, follow?_reference kept distinct member⟩

/-- The lenient policy keeps the first places and the last schemas: the keys are the schema names
    in the order of their first declarations, and under each is the schema of its last one. -/
theorem ApiDescription.toFragment_overwrite {description : ApiDescription} {fragment : Fragment}
    (built : (description.toFragment .overwrite).2 = .ok fragment) :
    fragment.components.schemas.keys = (schemaNames description.types).eraseDups ∧
      fragment.components.schemas.Distinct ∧
      ∀ key schema, (key, schema) ∈ fragment.components.schemas →
        ∃ before declaration after, description.types = before ++ declaration :: after ∧
          declaration.schemaName = key ∧ declaration.toSchema = .ok schema ∧
          ∀ later ∈ after, later.schemaName ≠ key := by
  have distinct := Fragment.distinct_schemas built
  obtain ⟨pairs, _, _, converted, -, -, -, rfl⟩ := toFragment_eq_ok_iff.mp built
  refine ⟨?_, distinct, ?_⟩
  · rw [Entries.keys_ofPairs, converted.names]
  · intro key schema member
    obtain ⟨front, back, rfl, absent⟩ :=
      Entries.split_of_lookup_ofPairs (Entries.lookup_of_mem distinct member)
    obtain ⟨before, declaration, after, split, -, ⟨name, converts⟩, behind⟩ :=
      exists_split_left converted
    refine ⟨before, declaration, after, split, name.symm, converts, ?_⟩
    intro later listed same
    rw [Converted.names behind] at absent
    exact absent (mem_schemaNames.mpr ⟨later, listed, same⟩)

/-- Two pairs of colliding aliases, interleaved. -/
def interleavedDescription : ApiDescription where
  types :=
    [⟨⟨[], "node"⟩, none, .aliasOf (.primitive .text)⟩,
     ⟨⟨[], "user_id"⟩, none, .aliasOf (.primitive .text)⟩,
     ⟨⟨[], "Node"⟩, none, .aliasOf (.primitive .boolean)⟩,
     ⟨⟨["user"], "id"⟩, none, .aliasOf (.primitive .integer)⟩]
  auth := .none

def interleavedFragment : Fragment where
  components :=
    { schemas :=
        [("Node", .inline (.typed .boolean)), ("UserId", .inline (.typed .integer))]
      securitySchemes := [] }
  security := []

theorem ApiDescription.toFragment_interleaved :
    (interleavedDescription.toFragment .overwrite).2 = .ok interleavedFragment ∧
      interleavedFragment.components.schemas.keys =
        (schemaNames interleavedDescription.types).eraseDups ∧
      interleavedFragment.components.schemas.Distinct ∧
      ∀ key schema, (key, schema) ∈ interleavedFragment.components.schemas →
        ∃ before declaration after,
          interleavedDescription.types = before ++ declaration :: after ∧
          declaration.schemaName = key ∧ declaration.toSchema = .ok schema ∧
          ∀ later ∈ after, later.schemaName ≠ key := by
  have built : (interleavedDescription.toFragment .overwrite).2 = .ok interleavedFragment := rfl
  exact ⟨built, toFragment_overwrite built⟩

end ApiComponents
