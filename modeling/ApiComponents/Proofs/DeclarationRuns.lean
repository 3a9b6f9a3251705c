import ApiComponents.Conversion
import ApiComponents.Proofs.Entries
import ApiComponents.Proofs.Traversal
import ApiComponents.Summary

/-! # Conversions step by step

What the conversion of a reference, a property, a variant or a shape makes of the conversions of
its parts: whether it fails and what it builds follows from these equations alone.

A run converts declarations one after the other. Between two of them it has in hand the last owner
of each schema name (`ownersOf`) and the entries so far, inserted in order. Declarations that go
through take it from one such state to another; one that stops decides its result. Every list of
declarations either goes through as a whole or has a first declaration that stops.
-/

namespace ApiComponents

/-! ## Parts of declarations -/

/-- A property as an entry of its object. -/
def Property.entry (property : Property) : Except ConversionError (String × SchemaOrRef) :=
  property.toSchema.map (property.key, ·)

theorem Property.entry_eq (property : Property) :
    property.entry = property.type.toSchema.map fun schema =>
      (property.key, schema.withDescription property.docs) := by
  unfold entry toSchema
  cases property.type.toSchema <;> rfl

theorem objectSchema_eq (parents : List DeclaredName) (properties : List Property) :
    objectSchema parents properties = (properties.mapM Property.entry).map fun pairs =>
      { type := some .object
        properties := Entries.ofPairs pairs
        required := requiredKeys properties
        allOf := parents.map fun parent => .reference parent.reference } := by
  unfold objectSchema
  simp only [bind_ok_eq_map]
  rfl

namespace UnionVariant

/-- A variant of a declared type never fails. -/
theorem toSchema_of_named {variant : UnionVariant} {name : DeclaredName}
    (named : variant.type = .named name) (discriminant : String) :
    variant.toSchema discriminant =
      .ok (.inline
        { type := some .object
          allOf := [.reference name.reference, .inline (singleProperty discriminant
            (.inline { type := some .string, enumValues := some [variant.tag] }))] }) := by
  simp only [toSchema, named]

theorem toSchema_of_other {variant : UnionVariant} (other : ∀ name, variant.type ≠ .named name)
    (discriminant : String) :
    variant.toSchema discriminant = variant.type.toSchema.map fun schema =>
      .inline (singleProperty discriminant schema) := by
  unfold toSchema
  split
  · next name named => exact absurd named (other name)
  · rw [bind_ok_eq_map]

end UnionVariant

theorem TypeShape.toSchema_union (discriminant : String) (variants : List UnionVariant) :
    (TypeShape.union discriminant variants).toSchema =
      (variants.mapM (UnionVariant.toSchema discriminant)).map fun schemas =>
        .inline { oneOf := some schemas } := by
  simp only [toSchema, bind_ok_eq_map]

/-! ## Runs over declarations -/

def schemaNames (types : List Declaration) : List String :=
  types.map Declaration.schemaName

theorem schemaNames_append (front back : List Declaration) :
    schemaNames (front ++ back) = schemaNames front ++ schemaNames back :=
  List.map_append

theorem mem_schemaNames {types : List Declaration} {name : String} :
    name ∈ schemaNames types ↔ ∃ declaration ∈ types, declaration.schemaName = name :=
  List.mem_map

def Declaration.owner (declaration : Declaration) : String × DeclaredName :=
  (declaration.schemaName, declaration.name)

/-- The last declared type of each schema name. -/
def ownersOf (done : List Declaration) : Entries DeclaredName :=
  Entries.ofPairs (done.map Declaration.owner)

theorem ownersOf_append_single (done : List Declaration) (declaration : Declaration) :
    ownersOf (done ++ [declaration]) =
      (ownersOf done).insert declaration.schemaName declaration.name := by
  simp only [ownersOf, List.map_append, List.map_singleton, Entries.ofPairs_append_single]
  rfl

theorem lookup_ownersOf_of_new {done : List Declaration} {name : String}
    (new : name ∉ schemaNames done) : (ownersOf done).lookup name = none := by
  rw [Entries.lookup_eq_none_iff, ownersOf, Entries.mem_keys_ofPairs, List.map_map]
  exact new

/-- Where schema names are distinct, each is owned by the one declared type that has it. -/
theorem lookup_ownersOf {done : List Declaration} (distinct : (schemaNames done).Nodup)
    {declaration : Declaration} (member : declaration ∈ done) :
    (ownersOf done).lookup declaration.schemaName = some declaration.name := by
  have keys : ((done.map Declaration.owner).map Prod.fst).Nodup := by
    rw [List.map_map]
    exact distinct
  rw [ownersOf, Entries.ofPairs_of_distinct keys]
  exact Entries.lookup_of_mem keys (List.mem_map_of_mem member)

/-- Declared types and the entries they are converted into, one by one. -/
def Converted (types : List Declaration) (pairs : List (String × SchemaOrRef)) : Prop :=
  List.Forall₂ (fun declaration pair =>
    pair.1 = declaration.schemaName ∧ declaration.toSchema = .ok pair.2) types pairs

namespace Converted

theorem names {types pairs} (converted : Converted types pairs) :
    pairs.map Prod.fst = schemaNames types :=
  (map_eq_map_of_related converted fun _ _ entry => entry.1.symm).symm

theorem append_single {types pairs} (converted : Converted types pairs)
    {declaration : Declaration} {schema} (converts : declaration.toSchema = .ok schema) :
    Converted (types ++ [declaration]) (pairs ++ [(declaration.schemaName, schema)]) :=
  List.rel_append converted (.cons ⟨rfl, converts⟩ .nil)

theorem entry {types pairs} (converted : Converted types pairs) {declaration : Declaration}
    (member : declaration ∈ types) :
    ∃ schema, declaration.toSchema = .ok schema ∧ (declaration.schemaName, schema) ∈ pairs := by
  obtain ⟨pair, inside, name, converts⟩ := exists_right_of_mem converted member
  exact ⟨pair.2, converts, name ▸ inside⟩

end Converted

theorem exists_converted_iff {types : List Declaration} :
    (∃ pairs, Converted types pairs) ↔
      ∀ declaration ∈ types, ∃ schema, declaration.toSchema = .ok schema := by
  constructor
  · rintro ⟨pairs, converted⟩ declaration member
    obtain ⟨schema, converts, -⟩ := converted.entry member
    exact ⟨schema, converts⟩
  · intro convert
    induction types with
    | nil => exact ⟨[], .nil⟩
    | cons declaration rest ih =>
        obtain ⟨schema, converts⟩ := convert declaration List.mem_cons_self
        obtain ⟨pairs, converted⟩ :=
          ih fun later member => convert later (List.mem_cons_of_mem declaration member)
        exact ⟨(declaration.schemaName, schema) :: pairs, .cons ⟨rfl, converts⟩ converted⟩

/-- The policy lets declared types pass as far as their schema names are concerned. -/
def CollisionPolicy.Permits (policy : CollisionPolicy) (types : List Declaration) : Prop :=
  policy = .error → (schemaNames types).Nodup

theorem CollisionPolicy.Permits.left {policy : CollisionPolicy} {front back}
    (permits : policy.Permits (front ++ back)) : policy.Permits front := by
  intro strict
  have distinct := permits strict
  rw [schemaNames_append] at distinct
  exact (List.nodup_append.mp distinct).1

/-- A declaration ends a run that comes from the declarations before it. -/
def Stops (policy : CollisionPolicy) (before : List Declaration) (declaration : Declaration) :
    Prop :=
  (∃ failure, declaration.toSchema = .error failure) ∨
    policy = .error ∧ declaration.schemaName ∈ schemaNames before

/-- What the log says of a declared type that goes through. -/
def Declaration.logged (owners : Entries DeclaredName) (declaration : Declaration) : Log :=
  .converted declaration.shape.kind declaration.name.display declaration.schemaName ::
    match owners.lookup declaration.schemaName with
    | none => []
    | some previous =>
        [.replaced declaration.schemaName declaration.name.display previous.display]

/-- What the log says of declared types that all go through, behind those already done. -/
def runLog (done : List Declaration) : List Declaration → Log
  | [] => []
  | declaration :: rest =>
      declaration.logged (ownersOf done) ++ runLog (done ++ [declaration]) rest

section Steps

variable {policy : CollisionPolicy} {owners : Entries DeclaredName}
  {schemas : Entries SchemaOrRef} {declaration : Declaration} (rest : List Declaration)

theorem convertDeclarations_step {schema} (converts : declaration.toSchema = .ok schema)
    (free : policy = .error → owners.lookup declaration.schemaName = none) :
    convertDeclarations policy owners schemas (declaration :: rest) =
      (convertDeclarations policy (owners.insert declaration.schemaName declaration.name)
        (schemas.insert declaration.schemaName schema) rest).map
          (declaration.logged owners ++ ·) id := by
  cases owned : owners.lookup declaration.schemaName with
  | none => simp [convertDeclarations, converts, owned, Declaration.logged, Prod.map]
  | some previous =>
      cases policy with
      | overwrite => simp [convertDeclarations, converts, owned, Declaration.logged, Prod.map]
      | error =>
          rw [free rfl] at owned
          cases owned

theorem convertDeclarations_failing {failure} (fails : declaration.toSchema = .error failure) :
    convertDeclarations policy owners schemas (declaration :: rest) =
      ([], .error (.conversion failure)) := by
  simp [convertDeclarations, fails]

theorem convertDeclarations_colliding {schema previous}
    (converts : declaration.toSchema = .ok schema)
    (owned : owners.lookup declaration.schemaName = some previous) :
    convertDeclarations .error owners schemas (declaration :: rest) =
      ([.converted declaration.shape.kind declaration.name.display declaration.schemaName],
        .error
          (.collision declaration.schemaName previous.display declaration.name.display)) := by
  simp [convertDeclarations, converts, owned]

end Steps

/-- Declarations that convert and have permitted names take a run from one state to another,
    whatever comes behind them. -/
theorem convertDeclarations_append {policy : CollisionPolicy} {before pairs}
    (done : List Declaration) (first : List (String × SchemaOrRef)) (rest : List Declaration)
    (converted : Converted before pairs) (permits : policy.Permits (done ++ before)) :
    convertDeclarations policy (ownersOf done) (Entries.ofPairs first) (before ++ rest) =
      (convertDeclarations policy (ownersOf (done ++ before))
        (Entries.ofPairs (first ++ pairs)) rest).map (runLog done before ++ ·) id := by
  -- both states grow by one declaration a step, so they are generalized together
  induction converted generalizing done first with
  | nil => simp only [List.nil_append, List.append_nil, runLog, Prod.map, id_eq]
  | @cons declaration pair before pairs head _ ih =>
      have split : done ++ declaration :: before = (done ++ [declaration]) ++ before := by
        simp only [List.append_assoc, List.singleton_append]
      have free : policy = .error → (ownersOf done).lookup declaration.schemaName = none := by
        intro strict
        have distinct := (split ▸ permits).left strict
        rw [schemaNames_append] at distinct
        refine lookup_ownersOf_of_new (fun member => ?_)
        exact (List.nodup_append.mp distinct).2.2 _ member _ List.mem_cons_self rfl
      have joined : first ++ pair :: pairs = (first ++ [pair]) ++ pairs := by
        simp only [List.append_assoc, List.singleton_append]
      rw [List.cons_append, convertDeclarations_step (before ++ rest) head.2 free,
        ← ownersOf_append_single, ← head.1, ← Entries.ofPairs_append_single,
        ih _ _ (split ▸ permits), split, joined, Prod.map_map]
      simp only [Function.comp_def, id_eq, runLog, List.append_assoc]
      rfl

theorem convertDeclarations_behind {policy : CollisionPolicy} {before pairs}
    (rest : List Declaration) (converted : Converted before pairs) (permits : policy.Permits before) :
    (convertDeclarations policy [] [] (before ++ rest)).2 =
      (convertDeclarations policy (ownersOf before) (Entries.ofPairs pairs) rest).2 := by
  have result := congrArg Prod.snd (convertDeclarations_append [] [] rest converted permits)
  exact result

theorem convertDeclarations_through {policy : CollisionPolicy} {types pairs}
    (converted : Converted types pairs) (permits : policy.Permits types) :
    (convertDeclarations policy [] [] types).2 = .ok (Entries.ofPairs pairs) := by
  have run := convertDeclarations_behind [] converted permits
  rw [List.append_nil] at run
  exact run

/-- The first declaration that does not convert decides the result of a run. -/
theorem convertDeclarations_fails {policy : CollisionPolicy} {before pairs}
    {declaration : Declaration} {failure} (after : List Declaration)
    (converted : Converted before pairs) (permits : policy.Permits before)
    (fails : declaration.toSchema = .error failure) :
    (convertDeclarations policy [] [] (before ++ declaration :: after)).2 =
      .error (.conversion failure) := by
  rw [convertDeclarations_behind _ converted permits, convertDeclarations_failing after fails]

/-- Under the strict policy, the first declaration with the schema name of an earlier one
    decides the result of a run. -/
theorem convertDeclarations_collides {before : List Declaration} {pairs}
    {declaration earlier : Declaration} {schema} (after : List Declaration)
    (converted : Converted before pairs) (distinct : (schemaNames before).Nodup)
    (converts : declaration.toSchema = .ok schema) (member : earlier ∈ before)
    (same : earlier.schemaName = declaration.schemaName) :
    (convertDeclarations .error [] [] (before ++ declaration :: after)).2 =
      .error (.collision declaration.schemaName earlier.name.display
        declaration.name.display) := by
  have owned := lookup_ownersOf distinct member
  rw [same] at owned
  rw [convertDeclarations_behind _ converted (fun _ => distinct),
    convertDeclarations_colliding after converts owned]

/-- Either all declarations go through, or a first one stops the run. -/
theorem through_or_stops (policy : CollisionPolicy) (types : List Declaration) :
    (∃ pairs, Converted types pairs ∧ policy.Permits types) ∨
      ∃ before declaration after pairs, types = before ++ declaration :: after ∧
        Converted before pairs ∧ policy.Permits before ∧ Stops policy before declaration := by
  -- from the end, because a declaration stops because of those before it
  induction types using List.reverseRecOn with
  | nil => exact .inl ⟨[], .nil, fun _ => List.nodup_nil⟩
  | append_singleton types declaration ih =>
      rcases ih with ⟨pairs, converted, permits⟩ | stopped
      · by_cases stops : Stops policy types declaration
        · exact .inr ⟨types, declaration, [], pairs, rfl, converted, permits, stops⟩
        · obtain ⟨converts, apart⟩ := not_or.mp stops
          cases outcome : declaration.toSchema with
          | error failure => exact absurd ⟨failure, outcome⟩ converts
          | ok schema =>
              refine .inl ⟨_, converted.append_single outcome, fun strict => ?_⟩
              rw [schemaNames_append]
              refine List.nodup_append.mpr ⟨permits strict, List.nodup_singleton _, ?_⟩
              intro name member other single same
              rw [List.mem_singleton.mp single] at same
              exact apart ⟨strict, same ▸ member⟩
      · obtain ⟨before, found, after, pairs, rfl, facts⟩ := stopped
        refine .inr ⟨before, found, after ++ [declaration], pairs, ?_, facts⟩
        simp only [List.append_assoc, List.cons_append]

/-- A run never goes past a declaration that stops it. -/
theorem convertDeclarations_stops {policy : CollisionPolicy} {before pairs}
    {declaration : Declaration} (after : List Declaration) (converted : Converted before pairs)
    (permits : policy.Permits before) (stops : Stops policy before declaration) :
    ∃ failure,
      (convertDeclarations policy [] [] (before ++ declaration :: after)).2 = .error failure := by
  -- a failure to convert is noticed before a collision
  cases outcome : declaration.toSchema with
  | error failure => exact ⟨_, convertDeclarations_fails after converted permits outcome⟩
  | ok schema =>
      rcases stops with ⟨failure, fails⟩ | ⟨rfl, known⟩
      · rw [outcome] at fails
        cases fails
      · obtain ⟨earlier, member, same⟩ := mem_schemaNames.mp known
        exact ⟨_, convertDeclarations_collides after converted (permits rfl) outcome member same⟩

/-- A run succeeds when all declarations convert and the policy permits their names. -/
theorem convertDeclarations_eq_ok_iff {policy : CollisionPolicy} {types schemas} :
    (convertDeclarations policy [] [] types).2 = .ok schemas ↔
      ∃ pairs, Converted types pairs ∧ policy.Permits types ∧
        schemas = Entries.ofPairs pairs := by
  constructor
  · intro accepted
    rcases through_or_stops policy types with ⟨pairs, converted, permits⟩ | stopped
    · rw [convertDeclarations_through converted permits] at accepted
      cases accepted
      exact ⟨pairs, converted, permits, rfl⟩
    · obtain ⟨before, declaration, after, pairs, rfl, converted, permits, stops⟩ := stopped
      obtain ⟨failure, fails⟩ := convertDeclarations_stops after converted permits stops
      rw [fails] at accepted
      cases accepted
  · rintro ⟨pairs, converted, permits, rfl⟩
    exact convertDeclarations_through converted permits

section Fragments

variable {policy : CollisionPolicy} {description : ApiDescription}

theorem toFragment_stopped {failure}
    (stopped : (convertDeclarations policy [] [] description.types).2 = .error failure) :
    (description.toFragment policy).2 = .error failure := by
  rcases run : convertDeclarations policy [] [] description.types with ⟨log, result⟩
  rw [run] at stopped
  cases stopped
  simp only [ApiDescription.toFragment, run]

theorem toFragment_eq_ok {fragment} :
    (description.toFragment policy).2 = .ok fragment ↔
      ∃ schemas securitySchemes requirements,
        (convertDeclarations policy [] [] description.types).2 = .ok schemas ∧
        description.auth.securitySchemes.2 = .ok securitySchemes ∧
        description.auth.securityRequirements = .ok requirements ∧
        fragment =
          { components := { schemas, securitySchemes }
            security := if description.auth.schemes.isEmpty then [] else requirements } := by
  rcases run : convertDeclarations policy [] [] description.types with ⟨log, _ | schemas⟩
  · simp [ApiDescription.toFragment, run]
  · rcases schemes : description.auth.securitySchemes with ⟨schemeLog, _ | defined⟩
    · simp [ApiDescription.toFragment, run, schemes]
    · cases required : description.auth.securityRequirements with
      | error failure => simp [ApiDescription.toFragment, run, schemes, required]
      | ok requirements =>
          simp only [ApiDescription.toFragment, run, schemes, required, Except.ok.injEq,
            exists_and_left, exists_eq_left']
          exact eq_comm

/-- A fragment is assembled when all declarations go through and the authentication converts. -/
theorem toFragment_eq_ok_iff {fragment} :
    (description.toFragment policy).2 = .ok fragment ↔
      ∃ pairs securitySchemes requirements,
        Converted description.types pairs ∧ policy.Permits description.types ∧
        description.auth.securitySchemes.2 = .ok securitySchemes ∧
        description.auth.securityRequirements = .ok requirements ∧
        fragment =
          { components := { schemas := Entries.ofPairs pairs, securitySchemes }
            security := if description.auth.schemes.isEmpty then [] else requirements } := by
  rw [toFragment_eq_ok]
  constructor
  · rintro ⟨schemas, securitySchemes, requirements, run, facts⟩
    obtain ⟨pairs, converted, permits, rfl⟩ := convertDeclarations_eq_ok_iff.mp run
    exact ⟨pairs, securitySchemes, requirements, converted, permits, facts⟩
  · rintro ⟨pairs, securitySchemes, requirements, converted, permits, facts⟩
    exact ⟨_, securitySchemes, requirements, convertDeclarations_through converted permits, facts⟩

end Fragments

end ApiComponents
