import ApiComponents.Proofs.DeclarationRuns
import ApiComponents.Proofs.SchemeRuns

/-! # What the log says of replacements

Nothing is replaced without a warning. Among the declared types of one schema name each but the
first replaces the one before it, and the warnings say so in order, whatever stands between them.
There are therefore as many warnings as there are more declared types than schemas, and the same
holds of the security schemes.
-/

namespace ApiComponents

/-! ## Warnings -/

namespace LogEntry

/-- The entry warns that a schema of this name is replaced. -/
def isReplacementOf (name : String) : LogEntry → Bool
  | replaced schema _ _ => schema == name
  | _ => false

def isReplacement : LogEntry → Bool
  | replaced _ _ _ => true
  | _ => false

def isSchemeRepeat : LogEntry → Bool
  | schemeRepeated _ => true
  | _ => false

/-- The entry is about a security scheme, not about a declared type. -/
def isOfScheme : LogEntry → Bool
  | schemeDefined _ | schemeRepeated _ => true
  | converted _ _ _ | replaced _ _ _ => false

theorem isReplacementOf_eq_false {entry : LogEntry} (scheme : entry.isOfScheme = true)
    (name : String) : entry.isReplacementOf name = false := by
  cases entry with
  | converted | replaced => cases scheme
  | schemeDefined | schemeRepeated => rfl

theorem isReplacement_eq_false {entry : LogEntry} (scheme : entry.isOfScheme = true) :
    entry.isReplacement = false := by
  cases entry with
  | converted | replaced => cases scheme
  | schemeDefined | schemeRepeated => rfl

theorem isSchemeRepeat_eq_false {entry : LogEntry} (type : entry.isOfScheme = false) :
    entry.isSchemeRepeat = false := by
  cases entry with
  | converted | replaced => rfl
  | schemeDefined | schemeRepeated => cases type

end LogEntry

/-- The warnings of a chain of declared types, each of which replaces the one before it. -/
def replacements (name : String) (chain : List Declaration) : Log :=
  List.zipWith (fun next previous => .replaced name next.name.display previous.name.display)
    chain.tail chain

/-- The declared types of a schema name, in order. -/
def declaredAs (name : String) (types : List Declaration) : List Declaration :=
  types.filter fun declaration => declaration.schemaName = name

theorem declaredAs_append (name : String) (front back : List Declaration) :
    declaredAs name (front ++ back) = declaredAs name front ++ declaredAs name back :=
  List.filter_append ..

/-- The owner of a schema name is the last declared type that has it. -/
theorem lookup_ownersOf_eq (done : List Declaration) (name : String) :
    (ownersOf done).lookup name = (declaredAs name done).getLast?.map Declaration.name := by
  induction done using List.reverseRecOn with
  | nil => rfl
  | append_singleton done declaration ih =>
      rw [ownersOf_append_single, Entries.lookup_insert, ih, declaredAs_append]
      by_cases same : name = declaration.schemaName
      · subst same
        simp [declaredAs]
      · have apart : ¬ declaration.schemaName = name := fun h => same h.symm
        simp [declaredAs, same, apart]

/-! ## Runs over declarations -/

/-- The log of an accepted run over declarations is that of declarations that all go through. -/
theorem convertDeclarations_logged {policy : CollisionPolicy} {types pairs}
    (converted : Converted types pairs) (permits : policy.Permits types) :
    (convertDeclarations policy [] [] types).1 = runLog [] types := by
  have run := congrArg Prod.fst (convertDeclarations_append [] [] [] converted permits)
  simp only [List.append_nil] at run
  refine run.trans ?_
  simp [convertDeclarations]

/-- The warnings for a schema name go on from the last declared type that has it. -/
theorem replacementsOf_runLog (name : String) (done rest : List Declaration) :
    (runLog done rest).filter (LogEntry.isReplacementOf name) =
      replacements name ((declaredAs name done).getLast?.toList ++ declaredAs name rest) := by
  induction rest generalizing done with
  | nil =>
      cases (declaredAs name done).getLast? <;> rfl
  | cons declaration rest ih =>
      rw [runLog, List.filter_append, ih, Declaration.logged, lookup_ownersOf_eq]
      by_cases same : declaration.schemaName = name
      · subst same
        have here : declaredAs declaration.schemaName [declaration] = [declaration] := by
          simp [declaredAs]
        have split : declaredAs declaration.schemaName (declaration :: rest) =
            declaration :: declaredAs declaration.schemaName rest := by
          simp [declaredAs]
        rw [declaredAs_append, here, split, List.getLast?_concat]
        cases (declaredAs declaration.schemaName done).getLast? with
        | none => rfl
        | some previous => simp [LogEntry.isReplacementOf, replacements]
      · have untouched : declaredAs name (done ++ [declaration]) = declaredAs name done := by
          simp [declaredAs, same]
        have skipped : declaredAs name (declaration :: rest) = declaredAs name rest := by
          simp [declaredAs, same]
        rw [untouched, skipped]
        cases (declaredAs declaration.schemaName done).getLast? <;>
          simp [LogEntry.isReplacementOf, same]

theorem not_isOfScheme_of_mem_runLog {done rest : List Declaration} {entry : LogEntry}
    (member : entry ∈ runLog done rest) : entry.isOfScheme = false := by
  induction rest generalizing done with
  | nil => cases member
  | cons declaration rest ih =>
      rcases List.mem_append.mp member with here | later
      · unfold Declaration.logged at here
        cases owned : (ownersOf done).lookup declaration.schemaName <;>
          simp only [owned, List.mem_cons, List.not_mem_nil, or_false] at here
        · rw [here, LogEntry.isOfScheme]
        · rcases here with rfl | rfl <;> rfl
      · exact ih later

/-- A further name adds to those without repeats unless it is among them. -/
theorem length_eraseDups_append_single (names : List String) (name : String) :
    (names ++ [name]).eraseDups.length =
      names.eraseDups.length + if name ∈ names then 0 else 1 := by
  rw [List.eraseDups_append, List.length_append]
  by_cases known : name ∈ names
  · simp [List.removeAll, known]
  · simp [List.removeAll, known, List.eraseDups_cons]

/-- A declared type is warned of exactly if its schema name is known. -/
theorem countP_logged (done : List Declaration) (declaration : Declaration) :
    (declaration.logged (ownersOf done)).countP LogEntry.isReplacement =
      if declaration.schemaName ∈ schemaNames done then 1 else 0 := by
  have owned : (ownersOf done).lookup declaration.schemaName = none ↔
      declaration.schemaName ∉ schemaNames done := by
    rw [Entries.lookup_eq_none_iff, ownersOf, Entries.mem_keys_ofPairs, List.map_map]
    rfl
  unfold Declaration.logged
  cases found : (ownersOf done).lookup declaration.schemaName with
  | none => simp [LogEntry.isReplacement, owned.mp found]
  | some previous =>
      have known : declaration.schemaName ∈ schemaNames done := by
        by_contra absent
        rw [owned.mpr absent] at found
        cases found
      simp [LogEntry.isReplacement, known]

/-- Every declared type of a run brings a new schema name or a warning. -/
theorem countP_runLog (done rest : List Declaration) :
    (runLog done rest).countP LogEntry.isReplacement +
        (schemaNames (done ++ rest)).eraseDups.length =
      (schemaNames done).eraseDups.length + rest.length := by
  induction rest generalizing done with
  | nil => simp [runLog]
  | cons declaration rest ih =>
      have later := ih (done ++ [declaration])
      have grown := length_eraseDups_append_single (schemaNames done) declaration.schemaName
      rw [List.append_assoc, List.singleton_append, schemaNames_append done [declaration]] at later
      rw [runLog, List.countP_append, countP_logged, List.length_cons]
      change _ = (schemaNames done ++ [declaration.schemaName]).eraseDups.length + _ at later
      by_cases known : declaration.schemaName ∈ schemaNames done <;>
        simp only [known, if_true, if_false] at grown ⊢ <;> omega

/-! ## Runs over schemes -/

/-- What the log says of schemes with these names, behind those already defined. -/
def namesLog (done : List String) : List String → Log
  | [] => []
  | name :: rest =>
      .schemeDefined name :: (if name ∈ done then [.schemeRepeated name] else []) ++
        namesLog (done ++ [name]) rest

theorem defineSchemes_logged (done : List (String × SecurityScheme)) {schemes : List AuthScheme}
    {pairs : List (String × SecurityScheme)}
    (entered : List.Forall₂ (fun scheme pair => scheme.entry = .ok pair) schemes pairs) :
    (defineSchemes (Entries.ofPairs done) schemes).1 =
      namesLog (done.map Prod.fst) (pairs.map Prod.fst) := by
  induction entered generalizing done with
  | nil => rfl
  | @cons scheme pair schemes pairs head _ ih =>
      rw [defineSchemes_step schemes head, Prod.map_fst, ← Entries.ofPairs_append_single, ih,
        List.map_append, List.map_singleton, List.map_cons, namesLog]
      simp only [schemeLogged, Entries.mem_keys_ofPairs]

theorem isOfScheme_of_mem_namesLog {done rest : List String} {entry : LogEntry}
    (member : entry ∈ namesLog done rest) : entry.isOfScheme = true := by
  induction rest generalizing done with
  | nil => cases member
  | cons name rest ih =>
      rcases List.mem_append.mp member with here | later
      · by_cases known : name ∈ done <;>
          simp only [known, if_true, if_false, List.mem_cons, List.not_mem_nil, or_false] at here
        · rcases here with rfl | rfl <;> rfl
        · rw [here, LogEntry.isOfScheme]
      · exact ih later

/-- All schemes of a name but the first are warned of. -/
theorem count_namesLog (name : String) (done rest : List String) :
    (namesLog done rest).count (.schemeRepeated name) =
      rest.count name - if name ∈ done then 0 else 1 := by
  induction rest generalizing done with
  | nil => simp [namesLog]
  | cons other rest ih =>
      rw [namesLog, List.count_append, ih]
      by_cases same : other = name
      · subst same
        by_cases known : other ∈ done <;> simp [known]
        omega
      · have apart : ¬ name = other := fun h => same h.symm
        by_cases known : other ∈ done <;> simp [known, same, apart]

theorem countP_namesLog (done rest : List String) :
    (namesLog done rest).countP LogEntry.isSchemeRepeat + (done ++ rest).eraseDups.length =
      done.eraseDups.length + rest.length := by
  induction rest generalizing done with
  | nil => simp [namesLog]
  | cons name rest ih =>
      have later := ih (done ++ [name])
      have grown := length_eraseDups_append_single done name
      rw [List.append_assoc, List.singleton_append] at later
      rw [namesLog, List.countP_append, List.length_cons]
      by_cases known : name ∈ done <;> simp [known, LogEntry.isSchemeRepeat] at grown ⊢ <;> omega

/-! ## Whole assemblies -/

/-- The log of an accepted description is that of its declared types and then of its schemes. -/
theorem toFragment_parts {policy : CollisionPolicy} {description : ApiDescription} {log : Log}
    {fragment : Fragment} (built : description.toFragment policy = (log, .ok fragment)) :
    ∃ front back,
      convertDeclarations policy [] [] description.types =
        (front, .ok fragment.components.schemas) ∧
      description.auth.securitySchemes = (back, .ok fragment.components.securitySchemes) ∧
      log = front ++ back := by
  unfold ApiDescription.toFragment at built
  rcases run : convertDeclarations policy [] [] description.types with ⟨front, failure | schemas⟩
  · rw [run] at built
    cases built
  · rcases defined : description.auth.securitySchemes with ⟨back, failure | securitySchemes⟩
    · simp only [run, defined] at built
      cases built
    · cases required : description.auth.securityRequirements with
      | error failure =>
          simp only [run, defined, required] at built
          cases built
      | ok requirements =>
          simp only [run, defined, required] at built
          cases built
          exact ⟨front, back, rfl, rfl, rfl⟩

/-- What an accepted description is converted into, and the log of that. -/
theorem toFragment_logged {policy : CollisionPolicy} {description : ApiDescription} {log : Log}
    {fragment : Fragment} (built : description.toFragment policy = (log, .ok fragment)) :
    ∃ pairs entries, Converted description.types pairs ∧
      description.auth.schemes.mapM AuthScheme.entry = .ok entries ∧
      fragment.components.schemas = Entries.ofPairs pairs ∧
      fragment.components.securitySchemes = Entries.ofPairs entries ∧
      log = runLog [] description.types ++ namesLog [] (entries.map Prod.fst) := by
  obtain ⟨front, back, run, defined, rfl⟩ := toFragment_parts built
  obtain ⟨pairs, converted, permits, schemas⟩ :=
    convertDeclarations_eq_ok_iff.mp (congrArg Prod.snd run)
  have definitions := Auth.securitySchemes_eq description.auth
  rw [defined] at definitions
  obtain ⟨entries, entered, securitySchemes⟩ := map_eq_ok_iff.mp definitions.symm
  have typesLog := convertDeclarations_logged converted permits
  have schemesLog := defineSchemes_logged [] (mapM_eq_ok_iff.mp entered)
  rw [run] at typesLog
  refine ⟨pairs, entries, converted, entered, schemas, securitySchemes.symm, ?_⟩
  exact congr_arg₂ (· ++ ·) typesLog ((congrArg Prod.fst defined).symm.trans schemesLog)

/-- Nothing is replaced silently. The warnings for a schema name say of each declared type that has
    it but the first that it replaces the one before it, in order; and all schemes of a name but
    the first are warned of. So warnings and entries together are as many as declared types, and as
    schemes. -/
theorem ApiDescription.replacements_are_logged {description : ApiDescription} {log : Log}
    {fragment : Fragment} (built : description.toFragment .overwrite = (log, .ok fragment)) :
    (∀ name, log.filter (LogEntry.isReplacementOf name) =
        replacements name (declaredAs name description.types)) ∧
      log.countP LogEntry.isReplacement + fragment.components.schemas.length =
        description.types.length ∧
      ∃ names, description.auth.schemes.mapM AuthScheme.schemeName = .ok names ∧
        (∀ name, log.count (.schemeRepeated name) = names.count name - 1) ∧
        log.countP LogEntry.isSchemeRepeat + fragment.components.securitySchemes.length =
          description.auth.schemes.length := by
  obtain ⟨pairs, entries, converted, entered, schemas, securitySchemes, rfl⟩ :=
    toFragment_logged built
  have schemaCount : fragment.components.schemas.length =
      (schemaNames description.types).eraseDups.length := by
    rw [schemas, ← converted.names, ← Entries.keys_ofPairs, Entries.keys, List.length_map]
  have schemeCount : fragment.components.securitySchemes.length =
      (entries.map Prod.fst).eraseDups.length := by
    rw [securitySchemes, ← Entries.keys_ofPairs, Entries.keys, List.length_map]
  have listed := (mapM_eq_ok_iff.mp entered).length_eq
  refine ⟨fun name => ?_, ?_, entries.map Prod.fst, ?_, fun name => ?_, ?_⟩
  · have none : (namesLog [] (entries.map Prod.fst)).filter (LogEntry.isReplacementOf name) = [] :=
      List.filter_eq_nil_iff.mpr fun entry member => by
        simp [LogEntry.isReplacementOf_eq_false (isOfScheme_of_mem_namesLog member)]
    rw [List.filter_append, replacementsOf_runLog, none, List.append_nil]
    rfl
  · have none : (namesLog [] (entries.map Prod.fst)).countP LogEntry.isReplacement = 0 :=
      List.countP_eq_zero.mpr fun entry member => by
        simp [LogEntry.isReplacement_eq_false (isOfScheme_of_mem_namesLog member)]
    have total := countP_runLog [] description.types
    rw [List.countP_append, schemaCount, none]
    simpa [schemaNames] using total
  · rw [mapM_schemeName, entered]
    rfl
  · have none : (runLog [] description.types).count (.schemeRepeated name) = 0 := by
      refine List.count_eq_zero.mpr fun member => ?_
      cases not_isOfScheme_of_mem_runLog member
    rw [List.count_append, none, count_namesLog, Nat.zero_add]
    simp
  · have none : (runLog [] description.types).countP LogEntry.isSchemeRepeat = 0 :=
      List.countP_eq_zero.mpr fun entry member => by
        simp [LogEntry.isSchemeRepeat_eq_false (not_isOfScheme_of_mem_runLog member)]
    have total := countP_namesLog [] (entries.map Prod.fst)
    rw [List.countP_append, none, schemeCount, listed]
    simpa using total

/-- Three declared types of one schema name with another one between them, and three schemes of
    which two share a name. -/
def tripledDescription : ApiDescription where
  types :=
    [⟨⟨[], "node"⟩, none, .aliasOf (.primitive .text)⟩,
     ⟨⟨[], "Node"⟩, none, .aliasOf (.primitive .boolean)⟩,
     ⟨⟨[], "user_id"⟩, none, .aliasOf (.primitive .text)⟩,
     ⟨⟨["no"], "de"⟩, none, .aliasOf (.primitive .text)⟩,
     ⟨⟨[], "NODE"⟩, none, .aliasOf (.primitive .integer)⟩]
  auth :=
    { requirement := .any
      schemes := [.bearer, .header "X-API-Key" "api_key", .header "X-Token" "bearer"] }

theorem ApiDescription.tripled_replacements_are_logged :
    ∃ log fragment, tripledDescription.toFragment .overwrite = (log, .ok fragment) ∧
      log.filter (LogEntry.isReplacementOf "Node") =
        [.replaced "Node" "Node" "node", .replaced "Node" "NODE" "Node"] ∧
      log.countP LogEntry.isReplacement + fragment.components.schemas.length = 5 ∧
      ∃ names : List String, names = ["BearerAuth", "ApiKeyAuth", "BearerAuth"] ∧
        log.count (.schemeRepeated "BearerAuth") = names.count "BearerAuth" - 1 ∧
        log.countP LogEntry.isSchemeRepeat + fragment.components.securitySchemes.length = 3 := by
  obtain ⟨chains, schemas, names, named, repeats, schemes⟩ :=
    @ApiDescription.replacements_are_logged tripledDescription _ _ rfl
  cases named
  exact ⟨_, _, rfl, chains "Node", schemas, _, rfl, repeats _, schemes⟩

end ApiComponents
