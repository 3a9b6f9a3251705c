import ApiComponents.Summary
import ApiComponents.Proofs.DeclarationRuns
import ApiComponents.Proofs.Entries

/-! # Runs over authentication schemes

Every recognized scheme has a name and a definition, which together are its entry. The security
schemes are the entries of all schemes, put in one after the other. The requirements are made of
the same names, so one list of entries decides both.
-/

namespace ApiComponents

namespace AuthScheme

/-- A scheme as an entry of the security schemes. -/
def entry (scheme : AuthScheme) : Except ConversionError (String × SecurityScheme) := do
  let name ← scheme.schemeName
  let definition ← scheme.toSecurityScheme
  .ok (name, definition)

theorem entry_eq_ok_iff {scheme : AuthScheme} {pair : String × SecurityScheme} :
    scheme.entry = .ok pair ↔
      scheme.schemeName = .ok pair.1 ∧ scheme.toSecurityScheme = .ok pair.2 := by
  obtain ⟨name, definition⟩ := pair
  simp only [entry, bind_eq_ok_iff, Except.ok.injEq, Prod.mk.injEq, exists_eq_right_right]

theorem map_fst_entry (scheme : AuthScheme) : scheme.entry.map Prod.fst = scheme.schemeName := by
  cases scheme <;> rfl

end AuthScheme

theorem mapM_schemeName (schemes : List AuthScheme) :
    schemes.mapM AuthScheme.schemeName =
      (schemes.mapM AuthScheme.entry).map (List.map Prod.fst) := by
  rw [← mapM_map_right]
  exact congrArg schemes.mapM (funext fun scheme => scheme.map_fst_entry.symm)

section Steps

variable {defined : Entries SecurityScheme} {scheme : AuthScheme} (rest : List AuthScheme)

/-- What the log says of a scheme that is defined on top of others. -/
def schemeLogged (defined : Entries SecurityScheme) (name : String) : Log :=
  .schemeDefined name :: if name ∈ defined.keys then [.schemeRepeated name] else []

theorem defineSchemes_step {pair} (converts : scheme.entry = .ok pair) :
    defineSchemes defined (scheme :: rest) =
      (defineSchemes (defined.insert pair.1 pair.2) rest).map
        (schemeLogged defined pair.1 ++ ·) id := by
  obtain ⟨name, definition⟩ := AuthScheme.entry_eq_ok_iff.mp converts
  simp [defineSchemes, name, definition, schemeLogged, Prod.map]

theorem defineSchemes_failing {failure} (fails : scheme.entry = .error failure) :
    (defineSchemes defined (scheme :: rest)).2 = .error failure := by
  cases scheme <;> cases fails
  rfl

end Steps

/-- A run defines the entries of its schemes on top of those already there, or fails with the
    first scheme that has none. -/
theorem defineSchemes_run (done : List (String × SecurityScheme)) (schemes : List AuthScheme) :
    (defineSchemes (Entries.ofPairs done) schemes).2 =
      (schemes.mapM AuthScheme.entry).map fun pairs => Entries.ofPairs (done ++ pairs) := by
  induction schemes generalizing done with
  | nil => simp [defineSchemes, Except.map, pure, Except.pure]
  | cons scheme rest ih =>
      cases converts : scheme.entry with
      | error failure =>
          rw [defineSchemes_failing rest converts, mapM_cons_error rest converts]
          rfl
      | ok pair =>
          rw [defineSchemes_step rest converts, Prod.map_snd, id_eq,
            ← Entries.ofPairs_append_single, ih, mapM_cons_ok rest converts]
          simp only [List.append_assoc, List.singleton_append]
          cases rest.mapM AuthScheme.entry <;> rfl

theorem Auth.securitySchemes_eq (auth : Auth) :
    auth.securitySchemes.2 = (auth.schemes.mapM AuthScheme.entry).map Entries.ofPairs :=
  defineSchemes_run [] auth.schemes

/-! ## Failures -/

/-- The security schemes fail as a traversal that asks each scheme for its name alone. -/
theorem Auth.securitySchemes_eq_error_iff (auth : Auth) {failure : ConversionError} :
    auth.securitySchemes.2 = .error failure ↔
      auth.schemes.mapM AuthScheme.schemeName = .error failure := by
  rw [securitySchemes_eq, mapM_schemeName, map_eq_error_iff, map_eq_error_iff]

/-- With a way to combine that is known, so do the requirements. -/
theorem Auth.securityRequirements_eq_error_iff {auth : Auth}
    (recognized : ∀ word, auth.requirement ≠ .unrecognized word) {failure : ConversionError} :
    auth.securityRequirements = .error failure ↔
      auth.schemes.mapM AuthScheme.schemeName = .error failure := by
  cases required : auth.requirement with
  | all | any => simp only [securityRequirements, required, bind_ok_eq_map, map_eq_error_iff]
  | unrecognized word => exact absurd required (recognized word)

end ApiComponents
