import ApiComponents.Proofs.Collisions

/-! # Where the strict policy stops

A strict and a lenient run over the same declarations do the same, log the same and come to the
same end, unless a schema name comes again. The strict run then ends with a failure; the lenient
one warns of the same schema and the same two declared types, and goes on. The authentication,
which is converted behind the declared types, changes nothing about that.
-/

namespace ApiComponents

/-- The outcome of a strict run beside that of a lenient run: the same one, or an early stop. -/
inductive StopsEarlier {α : Type} :
    Log × Except AssemblyError α → Log × Except AssemblyError α → Prop where
  /-- Both come to the same end, which is no collision. -/
  | agrees {log : Log} {result : Except AssemblyError α} :
      (∀ schema first second, result ≠ .error (.collision schema first second)) →
        StopsEarlier (log, result) (log, result)
  /-- Where the strict run stops at a collision, the lenient one warns of it. -/
  | collides (log later : Log) (schema first second : String) (result : Except AssemblyError α) :
      StopsEarlier (log, .error (.collision schema first second))
        (log ++ .replaced schema second first :: later, result)

namespace StopsEarlier

variable {α : Type} {strict lenient : Log × Except AssemblyError α}

/-- What both runs have logged before makes no difference. -/
theorem behind (front : Log) (stops : StopsEarlier strict lenient) :
    StopsEarlier (strict.map (front ++ ·) id) (lenient.map (front ++ ·) id) := by
  cases stops with
  | agrees free => exact .agrees free
  | collides log later schema first second result =>
      simp only [Prod.map, id_eq, ← List.append_assoc]
      exact .collides (front ++ log) later schema first second result

end StopsEarlier

/-- Two runs that begin in the same state stay together up to the first collision. -/
theorem convertDeclarations_stopsEarlier (owners : Entries DeclaredName)
    (schemas : Entries SchemaOrRef) (types : List Declaration) :
    StopsEarlier (convertDeclarations .error owners schemas types)
      (convertDeclarations .overwrite owners schemas types) := by
  have lenient : CollisionPolicy.overwrite ≠ .error := by decide
  induction types generalizing owners schemas with
  | nil => exact .agrees fun _ _ _ same => by cases same
  | cons declaration rest ih =>
      cases converts : declaration.toSchema with
      | error failure =>
          rw [convertDeclarations_failing rest converts, convertDeclarations_failing rest converts]
          exact .agrees fun _ _ _ same => by cases same
      | ok schema =>
          rw [convertDeclarations_step rest converts fun strict => absurd strict lenient]
          cases owned : owners.lookup declaration.schemaName with
          | none =>
              rw [convertDeclarations_step rest converts fun _ => owned]
              exact (ih _ _).behind (declaration.logged owners)
          | some previous =>
              rw [convertDeclarations_colliding rest converts owned]
              simp only [Declaration.logged, owned, Prod.map]
              exact .collides [_] _ _ _ _ _

/-- What becomes of a run over the declared types when the authentication is converted behind
    them. -/
def ApiDescription.withSecurity (description : ApiDescription) :
    Log × Except AssemblyError (Entries SchemaOrRef) → Log × Except AssemblyError Fragment
  | (log, .error failure) => (log, .error failure)
  | (log, .ok schemas) =>
      match description.auth.securitySchemes, description.auth.securityRequirements with
      | (schemeLog, .error failure), _ | (schemeLog, .ok _), .error failure =>
          (log ++ schemeLog, .error (.conversion failure))
      | (schemeLog, .ok securitySchemes), .ok requirements =>
          (log ++ schemeLog, .ok
            { components := { schemas, securitySchemes }
              security := if description.auth.schemes.isEmpty then [] else requirements })

theorem ApiDescription.toFragment_eq (policy : CollisionPolicy) (description : ApiDescription) :
    description.toFragment policy =
      description.withSecurity (convertDeclarations policy [] [] description.types) := by
  unfold toFragment withSecurity
  rcases convertDeclarations policy [] [] description.types with ⟨log, _ | schemas⟩
  · rfl
  · rcases description.auth.securitySchemes with ⟨schemeLog, _ | defined⟩
    · rfl
    · cases description.auth.securityRequirements <;> rfl

/-- The log is only added to, and the authentication never brings a collision. -/
theorem ApiDescription.withSecurity_ok (description : ApiDescription) (log : Log)
    (schemas : Entries SchemaOrRef) :
    ∃ more result, description.withSecurity (log, .ok schemas) = (log ++ more, result) ∧
      ∀ schema first second, result ≠ .error (.collision schema first second) := by
  unfold withSecurity
  rcases description.auth.securitySchemes with ⟨schemeLog, failure | defined⟩
  · exact ⟨schemeLog, _, rfl, fun _ _ _ same => by cases same⟩
  · cases description.auth.securityRequirements with
    | error failure => exact ⟨schemeLog, _, rfl, fun _ _ _ same => by cases same⟩
    | ok requirements => exact ⟨schemeLog, _, rfl, fun _ _ _ same => by cases same⟩

theorem StopsEarlier.withSecurity {strict lenient : Log × Except AssemblyError (Entries SchemaOrRef)}
    (stops : StopsEarlier strict lenient) (description : ApiDescription) :
    StopsEarlier (description.withSecurity strict) (description.withSecurity lenient) := by
  cases stops with
  | @agrees log result free =>
      cases result with
      | error failure =>
          exact .agrees fun schema first second same => free schema first second (by cases same; rfl)
      | ok schemas =>
          obtain ⟨more, result, outcome, secured⟩ := description.withSecurity_ok log schemas
          rw [outcome]
          exact .agrees secured
  | collides log later schema first second result =>
      cases result with
      | error failure => exact .collides log later schema first second _
      | ok schemas =>
          obtain ⟨more, result, outcome, -⟩ := description.withSecurity_ok
            (log ++ .replaced schema second first :: later) schemas
          rw [outcome, List.append_assoc]
          exact .collides log (later ++ more) schema first second result

/-- The strict policy is the lenient one with an earlier stop. A fragment or a failure to convert is
    the same under both, with the same log. Where the strict policy fails for a collision, the
    lenient log goes on from the strict one with the warning of that collision. -/
theorem ApiDescription.strict_stops_earlier (description : ApiDescription) :
    (∀ log fragment, description.toFragment .error = (log, .ok fragment) →
        description.toFragment .overwrite = (log, .ok fragment)) ∧
      (∀ log failure, description.toFragment .error = (log, .error (.conversion failure)) →
        description.toFragment .overwrite = (log, .error (.conversion failure))) ∧
      ∀ log schema first second,
        description.toFragment .error = (log, .error (.collision schema first second)) →
          ∃ later, (description.toFragment .overwrite).1 =
            log ++ .replaced schema second first :: later := by
  have stops : StopsEarlier (description.toFragment .error) (description.toFragment .overwrite) := by
    rw [toFragment_eq, toFragment_eq]
    exact (convertDeclarations_stopsEarlier [] [] description.types).withSecurity description
  generalize description.toFragment .error = strict at stops ⊢
  generalize description.toFragment .overwrite = lenient at stops ⊢
  cases stops with
  | agrees free =>
      refine ⟨fun _ _ same => same, fun _ _ same => same, ?_⟩
      intro log schema first second same
      cases same
      exact absurd rfl (free schema first second)
  | collides log later schema first second result =>
      refine ⟨?_, ?_, ?_⟩
      · intro _ fragment same
        cases same
      · intro _ failure same
        cases same
      · intro _ _ _ _ same
        cases same
        exact ⟨later, rfl⟩

/-- The first of two interleaved collisions stops the strict run. -/
theorem ApiDescription.interleaved_stops_earlier :
    ∃ log, interleavedDescription.toFragment .error =
        (log, .error (.collision "Node" "node" "Node")) ∧
      ∃ later, (interleavedDescription.toFragment .overwrite).1 =
        log ++ .replaced "Node" "Node" "node" :: later := by
  obtain ⟨-, -, collides⟩ := interleavedDescription.strict_stops_earlier
  exact ⟨_, rfl, collides _ _ _ _ rfl⟩

end ApiComponents
