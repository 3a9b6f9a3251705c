import Mathlib.Data.List.Induction
import Mathlib.Data.List.Perm.Basic
import ApiComponents.Proofs.TreeReading

/-! # Members by name

What a record makes of the members of an object: each field takes the one value that stands under
its name, two of them are a fault, and members with other names count for nothing. The order of
the members does not matter.
-/

namespace ApiComponents

namespace Members

variable {β γ : Type}

/-- The values of all members with a name, in order. -/
def valuesOf (name : String) (members : List (String × β)) : List β :=
  (members.filter fun member => name = member.1).map Prod.snd

@[simp] theorem valuesOf_nil (name : String) : valuesOf name ([] : List (String × β)) = [] := rfl

@[simp] theorem valuesOf_cons (name : String) (member : String × β)
    (rest : List (String × β)) :
    valuesOf name (member :: rest) =
      if name = member.1 then member.2 :: valuesOf name rest else valuesOf name rest := by
  by_cases same : name = member.1 <;> simp [valuesOf, same]

@[simp] theorem valuesOf_append (name : String) (front back : List (String × β)) :
    valuesOf name (front ++ back) = valuesOf name front ++ valuesOf name back := by
  simp [valuesOf]

@[simp] theorem valuesOf_map (name : String) (f : β → γ) (members : List (String × β)) :
    valuesOf name (members.map fun member => (member.1, f member.2)) =
      (valuesOf name members).map f := by
  simp [valuesOf, List.filter_map, Function.comp_def]

/-- Members with other names may be dropped. -/
theorem valuesOf_filter {name : String} {keep : String → Bool} (kept : keep name = true)
    (members : List (String × β)) :
    valuesOf name (members.filter fun member => keep member.1) = valuesOf name members := by
  unfold valuesOf
  rw [List.filter_filter]
  congr 1
  refine List.filter_congr fun member _ => ?_
  by_cases same : name = member.1
  · simp [← same, kept]
  · simp [same]

theorem mem_valuesOf {name : String} {value : β} {members : List (String × β)} :
    value ∈ valuesOf name members ↔ (name, value) ∈ members := by
  simp only [valuesOf, List.mem_map, List.mem_filter, decide_eq_true_eq]
  constructor
  · rintro ⟨member, ⟨inside, rfl⟩, rfl⟩
    exact inside
  · intro inside
    exact ⟨_, ⟨inside, rfl⟩, rfl⟩

theorem valuesOf_eq_nil_iff {name : String} {members : List (String × β)} :
    valuesOf name members = [] ↔ name ∉ members.map Prod.fst := by
  rw [List.eq_nil_iff_forall_not_mem]
  simp only [mem_valuesOf, List.mem_map, not_exists, not_and]
  constructor
  · rintro absent ⟨other, value⟩ inside rfl
    exact absent value inside
  · intro absent value inside
    exact absent _ inside rfl

theorem valuesOf_perm {members others : List (String × β)} (reordered : members.Perm others)
    (name : String) : (valuesOf name members).Perm (valuesOf name others) :=
  (reordered.filter _).map _

/-- Where no name is repeated, a name has at most one value. -/
theorem length_valuesOf_le_one {members : List (String × β)}
    (distinct : (members.map Prod.fst).Nodup) (name : String) :
    (valuesOf name members).length ≤ 1 := by
  induction members with
  | nil => exact Nat.zero_le 1
  | cons member members ih =>
      obtain ⟨absent, rest⟩ := List.nodup_cons.mp distinct
      rw [valuesOf_cons]
      split
      · next same =>
        rw [valuesOf_eq_nil_iff.mpr (same ▸ absent)]
        exact Nat.le_refl 1
      · exact ih rest

/-- What is in the slot of a field to which these values belong: two values are too many. -/
def sole? : List β → Option (Option β)
  | [] => some none
  | [value] => some (some value)
  | _ => none

@[simp] theorem sole?_nil : sole? ([] : List β) = some none := rfl

theorem sole?_append_single (values : List β) (value : β) :
    sole? (values ++ [value]) = (sole? values).bind fun slot =>
      match slot with
      | none => some (some value)
      | some _ => none := by
  match values with
  | [] | [_] | _ :: _ :: _ => rfl

theorem sole?_eq_some_iff {values : List β} {value : β} :
    sole? values = some (some value) ↔ values = [value] := by
  match values with
  | [] | [_] | _ :: _ :: _ => simp [sole?]

end Members

open Members

namespace Body

variable {β : Type}

/-- The members of an object as parts of a record. -/
def ofMembers (members : List (String × β)) : Body β :=
  keyed (members.map fun member => (.text member.1, member.2))

/-- One more member goes to the values of its field. -/
theorem mapM_sole?_append {names : List String} (distinct : names.Nodup)
    (values : String → List β) (name : String) (part : β) :
    (names.mapM fun other => sole? (values other ++ valuesOf other [(name, part)])) =
      (names.mapM fun other => sole? (values other)).bind fun slots =>
        place? names slots (.text name, part) := by
  induction names with
  | nil => rfl
  | cons other names ih =>
      obtain ⟨absent, rest⟩ := List.nodup_cons.mp distinct
      simp only [List.mapM_cons, Option.bind_eq_bind, Option.pure_def]
      by_cases same : other = name
      · subst same
        have untouched : (names.mapM fun field => sole? (values field ++
            valuesOf field [(other, part)])) = names.mapM fun field => sole? (values field) := by
          refine mapM_congr fun field member => ?_
          have apart : ¬ field = other := fun same => absent (same ▸ member)
          rw [valuesOf_cons, if_neg apart, valuesOf_nil, List.append_nil]
        rw [untouched, valuesOf_cons, if_pos rfl, valuesOf_nil, sole?_append_single]
        cases sole? (values other) with
        | none => rfl
        | some slot =>
            cases names.mapM fun field => sole? (values field) with
            | none => cases slot <;> rfl
            | some slots => cases slot <;> simp [place?_cons]
      · have apart : ¬ name = other := fun h => same h.symm
        rw [ih rest, valuesOf_cons, if_neg same, valuesOf_nil, List.append_nil]
        cases sole? (values other) with
        | none => rfl
        | some slot =>
            cases names.mapM fun field => sole? (values field) with
            | none => rfl
            | some slots =>
                simp only [Option.bind_some, place?_cons, if_neg apart]
                cases place? names slots (.text name, part) <;> rfl

/-- Each slot holds the one value with the name of its field, or nothing. -/
theorem slots?_ofMembers {names : List String} (distinct : names.Nodup)
    (members : List (String × β)) :
    (ofMembers members).slots? names = names.mapM fun name => sole? (valuesOf name members) := by
  induction members using List.reverseRecOn with
  | nil =>
      simp only [ofMembers, slots?, List.map_nil, List.foldlM_nil, valuesOf_nil, sole?]
      exact List.mapM_pure.symm
  | append_singleton members member ih =>
      simp only [valuesOf_append]
      rw [mapM_sole?_append distinct, ← ih]
      simp [ofMembers, slots?]

end Body

/-! ## Records written with field names -/

/-- The value of a field is read from the one tree that is given for it; where none is given, it is
    the value of a field that is not there. -/
def Layout.FieldReads {α : Type} (value : Layout α) (absence : Absence α) (trees : List Json)
    (result : α) : Prop :=
  (trees = [] ∧ absence.value? true = some result) ∨
    ∃ tree, trees = [tree] ∧ value.Reads tree result

/-- Every field has its value from the members with its name. -/
def Fields.GivenBy {σ ρ : Type} : Fields σ ρ → List (String × Json) → ρ → Prop
  | .done, _, _ => True
  | .field name absence value rest, members, (first, others) =>
      value.FieldReads absence (valuesOf name members) first ∧ rest.GivenBy members others

/-- The contents of members. -/
def contentsOf (members : List (String × Json)) : List (String × Content) :=
  members.map fun member => (member.1, .ofJson member.2)

@[simp] theorem valuesOf_contentsOf (name : String) (members : List (String × Json)) :
    valuesOf name (contentsOf members) = (valuesOf name members).map Content.ofJson :=
  valuesOf_map name Content.ofJson members

namespace Fields

theorem bind_fromSlots?_iff {σ ρ : Type} (fields : Fields σ ρ) {members : List (String × Json)}
    {values : ρ} :
    (fields.names.mapM fun name => sole? (valuesOf name (contentsOf members))).bind
        (fields.fromSlots? true) = some values ↔ fields.GivenBy members values := by
  cases fields with
  | done => simp [names, fromSlots?, GivenBy]
  | field name absence value rest =>
      obtain ⟨first, others⟩ := values
      have later := @bind_fromSlots?_iff _ _ rest members others
      simp only [names, List.mapM_cons, Option.bind_eq_bind, Option.pure_def, GivenBy, ← later,
        valuesOf_contentsOf, Layout.FieldReads, Layout.reads_iff]
      generalize rest.names.mapM
        (fun name => sole? ((valuesOf name members).map Content.ofJson)) = slots
      rcases valuesOf name members with _ | ⟨tree, _ | ⟨_, _⟩⟩
      · cases slots with
        | none => simp [sole?]
        | some slots =>
            cases missing : absence.value? true <;> cases found : rest.fromSlots? true slots <;>
              simp [sole?, fromSlots?, missing, found]
      · cases slots with
        | none => simp [sole?]
        | some slots =>
            cases read : value.fromContent? (.ofJson tree) <;>
              cases found : rest.fromSlots? true slots <;>
              simp [sole?, fromSlots?, read, found]
      · simp [sole?]

theorem fromBody?_ofMembers {σ ρ : Type} (fields : Fields σ ρ) (distinct : fields.names.Nodup)
    {members : List (String × Json)} {values : ρ} :
    fields.fromBody? (.ofMembers (contentsOf members)) = some values ↔
      fields.GivenBy members values := by
  rw [← fields.bind_fromSlots?_iff, fromBody?, Body.slots?_ofMembers distinct]
  rfl

end Fields

theorem Layout.reads_record_iff {σ ρ α : Type} {name : String} {fields : Fields σ ρ}
    (distinct : fields.names.Nodup) {build : ρ → α} {members : List (String × Json)} {result : α} :
    (Layout.record name fields build).Reads (.object members) result ↔
      ∃ values, fields.GivenBy members values ∧ build values = result := by
  rw [reads_iff, fromContent?_record, Option.map_eq_some_iff]
  refine exists_congr fun values => and_congr_left' ?_
  rw [← fields.fromBody?_ofMembers distinct]
  simp only [Content.ofJson, Content.ofMembers_eq_map, Body.of?, Option.bind_some, Body.ofMembers,
    contentsOf, List.map_map, Function.comp_def]

end ApiComponents
