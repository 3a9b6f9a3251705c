import Mathlib.Data.List.Forall2

/-! # Traversals that may fail

A traversal of a list succeeds when every item does, and fails with the failure of the first item
that has one. Nothing behind that item counts.
-/

namespace ApiComponents

variable {α β γ ε : Type}

/-! ## Outcomes -/

@[simp] theorem ok_bind (value : α) (next : α → Except ε β) :
    (.ok value >>= next) = next value := rfl

@[simp] theorem error_bind (failure : ε) (next : α → Except ε β) :
    (.error failure >>= next) = .error failure := rfl

theorem bind_eq_ok_iff {outcome : Except ε α} {next : α → Except ε β} {result : β} :
    (outcome >>= next) = .ok result ↔ ∃ value, outcome = .ok value ∧ next value = .ok result := by
  cases outcome with
  | error reason => exact ⟨nofun, nofun⟩
  | ok found =>
      constructor
      · exact fun same => ⟨found, rfl, same⟩
      · rintro ⟨value, same, ends⟩
        cases same
        exact ends

theorem mapError_eq_ok_iff {report : ε → γ} {outcome : Except ε α} {value : α} :
    outcome.mapError report = .ok value ↔ outcome = .ok value := by
  cases outcome with
  | error reason => exact ⟨nofun, nofun⟩
  | ok found =>
      constructor
      all_goals
        intro same
        cases same
        rfl

theorem bind_ok_eq_map {f : α → β} (outcome : Except ε α) :
    (outcome >>= fun value => .ok (f value)) = outcome.map f := by
  cases outcome <;> rfl

theorem map_map_eq (f : α → β) (g : β → γ) (outcome : Except ε α) :
    (outcome.map f).map g = outcome.map fun value => g (f value) := by
  cases outcome <;> rfl

theorem map_eq_ok_iff {f : α → β} {outcome : Except ε α} {result : β} :
    outcome.map f = .ok result ↔ ∃ value, outcome = .ok value ∧ f value = result := by
  cases outcome <;> simp [Except.map]

theorem map_eq_error_iff {f : α → β} {outcome : Except ε α} {failure : ε} :
    outcome.map f = .error failure ↔ outcome = .error failure := by
  cases outcome <;> simp [Except.map]

theorem not_fails_iff {outcome : Except ε α} :
    (¬ ∃ failure, outcome = .error failure) ↔ ∃ value, outcome = .ok value := by
  cases outcome <;> simp

theorem map_fails_iff {f : α → β} {outcome : Except ε α} :
    (∃ failure, outcome.map f = .error failure) ↔ ∃ failure, outcome = .error failure :=
  exists_congr fun _ => map_eq_error_iff

/-- The failure of an outcome, if it is one. -/
def failureOf : Except ε α → Option ε
  | .error failure => some failure
  | .ok _ => none

theorem failureOf_eq_some_iff {outcome : Except ε α} {failure : ε} :
    failureOf outcome = some failure ↔ outcome = .error failure := by
  cases outcome <;> simp [failureOf]

theorem failureOf_eq_none_iff {outcome : Except ε α} :
    failureOf outcome = none ↔ ∃ value, outcome = .ok value := by
  cases outcome <;> simp [failureOf]

theorem failureOf_map (f : α → β) (outcome : Except ε α) :
    failureOf (outcome.map f) = failureOf outcome := by
  cases outcome <;> rfl

/-! ## Related lists -/

/-- Of two related lists, every item of the first has its partner in the second. -/
theorem exists_right_of_mem {R : α → β → Prop} {items : List α} {results : List β}
    (related : List.Forall₂ R items results) {item : α} (member : item ∈ items) :
    ∃ result ∈ results, R item result := by
  induction related with
  | nil => cases member
  | @cons first result _ _ head _ ih =>
      rcases List.mem_cons.mp member with rfl | later
      · exact ⟨result, List.mem_cons_self, head⟩
      · obtain ⟨partner, inside, holds⟩ := ih later
        exact ⟨partner, List.mem_cons_of_mem _ inside, holds⟩

theorem exists_left_of_mem {R : α → β → Prop} {items : List α} {results : List β}
    (related : List.Forall₂ R items results) {result : β} (member : result ∈ results) :
    ∃ item ∈ items, R item result :=
  exists_right_of_mem (R := flip R) related.flip member

/-- Lists that are related by an equality of images have the same images. -/
theorem map_eq_map_of_related {R : α → β → Prop} {f : α → γ} {g : β → γ} {items : List α}
    {results : List β} (related : List.Forall₂ R items results)
    (same : ∀ item result, R item result → f item = g result) : items.map f = results.map g := by
  induction related with
  | nil => rfl
  | cons head _ ih => rw [List.map_cons, List.map_cons, same _ _ head, ih]

/-- Where the second of two related lists is split, so is the first. -/
theorem exists_split_left {R : α → β → Prop} {items : List α} {front back : List β} {result : β}
    (related : List.Forall₂ R items (front ++ result :: back)) :
    ∃ before item after, items = before ++ item :: after ∧
      List.Forall₂ R before front ∧ R item result ∧ List.Forall₂ R after back := by
  induction front generalizing items with
  | nil =>
      obtain ⟨item, after, head, tail, rfl⟩ := List.forall₂_cons_right_iff.mp related
      exact ⟨[], item, after, rfl, .nil, head, tail⟩
  | cons first front ih =>
      obtain ⟨earlier, rest, head, tail, rfl⟩ := List.forall₂_cons_right_iff.mp related
      obtain ⟨before, item, after, rfl, facts, found⟩ := ih tail
      exact ⟨earlier :: before, item, after, rfl, .cons head facts, found⟩

/-! ## Traversals -/

theorem mapM_cons_ok {f : α → Except ε β} {item : α} {result : β} (items : List α)
    (head : f item = .ok result) :
    (item :: items).mapM f = (items.mapM f).map (result :: ·) := by
  rw [List.mapM_cons, head]
  cases items.mapM f <;> rfl

theorem mapM_cons_error {f : α → Except ε β} {item : α} {failure : ε} (items : List α)
    (head : f item = .error failure) : (item :: items).mapM f = .error failure := by
  rw [List.mapM_cons, head]
  rfl

/-- Results may be mapped item by item or all together in the end. -/
theorem mapM_map_right (f : α → Except ε β) (g : β → γ) (items : List α) :
    (items.mapM fun item => (f item).map g) = (items.mapM f).map (List.map g) := by
  induction items with
  | nil => rfl
  | cons item items ih =>
      cases head : f item with
      | error failure =>
          rw [mapM_cons_error items head, mapM_cons_error items (by rw [head]; rfl)]
          rfl
      | ok result =>
          rw [mapM_cons_ok items head, mapM_cons_ok items (by rw [head]; rfl), ih]
          cases items.mapM f <;> rfl

theorem mapM_eq_ok_iff {f : α → Except ε β} {items : List α} {results : List β} :
    items.mapM f = .ok results ↔
      List.Forall₂ (fun item result => f item = .ok result) items results := by
  induction items generalizing results with
  | nil =>
      rw [List.mapM_nil, List.forall₂_nil_left_iff]
      exact ⟨fun same => (Except.ok.inj same).symm, fun same => same ▸ rfl⟩
  | cons item items ih =>
      rw [List.forall₂_cons_left_iff]
      cases head : f item with
      | error failure =>
          rw [mapM_cons_error items head]
          simp
      | ok result =>
          rw [mapM_cons_ok items head]
          constructor
          · intro success
            cases tail : items.mapM f with
            | error failure =>
                rw [tail] at success
                cases success
            | ok rest =>
                rw [tail] at success
                cases success
                exact ⟨result, rest, rfl, ih.mp tail, rfl⟩
          · rintro ⟨first, rest, firstResult, tail, rfl⟩
            cases firstResult
            rw [ih.mpr tail]
            rfl

/-- A traversal fails as the first of its items that fails. -/
theorem failureOf_mapM (f : α → Except ε β) (items : List α) :
    failureOf (items.mapM f) = items.findSome? fun item => failureOf (f item) := by
  induction items with
  | nil => rfl
  | cons item items ih =>
      rw [List.findSome?_cons]
      cases head : f item with
      | error failure =>
          rw [mapM_cons_error items head]
          rfl
      | ok result =>
          rw [mapM_cons_ok items head, failureOf_map, ih]
          rfl

theorem mapM_eq_error_iff {f : α → Except ε β} {items : List α} {failure : ε} :
    items.mapM f = .error failure ↔
      ∃ before item after, items = before ++ item :: after ∧
        (∀ earlier ∈ before, ∃ result, f earlier = .ok result) ∧ f item = .error failure := by
  rw [← failureOf_eq_some_iff, failureOf_mapM, List.findSome?_eq_some_iff]
  simp only [failureOf_eq_some_iff, failureOf_eq_none_iff, and_comm]

theorem mapM_fails_iff {f : α → Except ε β} {items : List α} :
    (∃ failure, items.mapM f = .error failure) ↔
      ∃ item ∈ items, ∃ failure, f item = .error failure := by
  constructor
  · rintro ⟨failure, fails⟩
    obtain ⟨before, item, after, rfl, -, found⟩ := mapM_eq_error_iff.mp fails
    exact ⟨item, List.mem_append_right before List.mem_cons_self, failure, found⟩
  · rintro ⟨item, member, failure, found⟩
    cases outcome : items.mapM f with
    | error first => exact ⟨first, rfl⟩
    | ok results =>
        obtain ⟨result, -, succeeds⟩ := exists_right_of_mem (mapM_eq_ok_iff.mp outcome) member
        rw [found] at succeeds
        cases succeeds

/-! ## Traversals without a failure to report -/

theorem mapM_congr {m : Type → Type} [Monad m] [LawfulMonad m] {f g : α → m β} {items : List α}
    (same : ∀ item ∈ items, f item = g item) : items.mapM f = items.mapM g := by
  induction items with
  | nil => rfl
  | cons item items ih =>
      rw [List.mapM_cons, List.mapM_cons, same item List.mem_cons_self,
        ih fun other member => same other (List.mem_cons_of_mem item member)]

theorem mapM_eq_some_iff {f : α → Option β} {items : List α} {results : List β} :
    items.mapM f = some results ↔
      List.Forall₂ (fun item result => f item = some result) items results := by
  induction items generalizing results with
  | nil =>
      rw [List.mapM_nil, List.forall₂_nil_left_iff]
      exact ⟨fun same => (Option.some.inj same).symm, fun same => same ▸ rfl⟩
  | cons item items ih =>
      rw [List.forall₂_cons_left_iff, List.mapM_cons]
      cases head : f item with
      | none => simp
      | some result =>
          cases tail : items.mapM f with
          | none => simp [tail, ← ih]
          | some rest => simp [tail, ← ih, eq_comm]

end ApiComponents
