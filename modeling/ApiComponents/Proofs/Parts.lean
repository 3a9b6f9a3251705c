import ApiComponents.Description.Reading
import ApiComponents.Proofs.Members

/-! # Parts of trees

The parts of a tree stand under names or at positions. What is read from the content of a tree, as
a record, as a payload behind a tag or as a type, is read from the parts of the tree.
-/

namespace ApiComponents

open Members

namespace Body

variable {β γ : Type}

def map (f : β → γ) : Body β → Body γ
  | keyed entries => keyed (entries.map fun entry => (entry.1, f entry.2))
  | positional items => positional (items.map f)

/-- All parts, with or without a name. -/
def parts : Body β → List β
  | keyed entries => entries.map Prod.snd
  | positional items => items

@[simp] theorem isKeyed_map (f : β → γ) (body : Body β) : (body.map f).isKeyed = body.isKeyed := by
  cases body <;> rfl

@[simp] theorem isBare_map (f : β → γ) (body : Body β) : (body.map f).isBare = body.isBare := by
  cases body with
  | keyed entries => rfl
  | positional items => exact List.isEmpty_map

theorem untagged_map (f : β → γ) (body : Body β) : (body.map f).untagged = body.untagged.map f := by
  cases body with
  | keyed entries => simp only [map, untagged, List.filter_map, Function.comp_def]
  | positional items => simp only [map, untagged, List.map_tail]

theorem parts_map (f : β → γ) (body : Body β) : (body.map f).parts = body.parts.map f := by
  cases body with
  | keyed entries => simp only [map, parts, List.map_map, Function.comp_def]
  | positional items => rfl

theorem mem_parts_of_mem_untagged {body : Body β} {part : β} (inside : part ∈ body.untagged.parts) :
    part ∈ body.parts := by
  cases body with
  | positional items => exact List.mem_of_mem_tail inside
  | keyed entries =>
      obtain ⟨entry, kept, rfl⟩ := List.mem_map.mp inside
      exact List.mem_map_of_mem (List.mem_filter.mp kept).1

theorem place?_map (f : β → γ) (names : List String) (slots : List (Option β))
    (entry : Content × β) :
    place? names (slots.map (Option.map f)) (entry.1, f entry.2) =
      (place? names slots entry).map (List.map (Option.map f)) := by
  unfold place?
  cases fieldOf? names entry.1 with
  | none => rfl
  | some meant =>
      cases meant with
      | none => rfl
      | some place =>
          simp only [List.getElem?_map]
          match slots[place]? with
          | none => rfl
          | some (some part) => rfl
          | some none => simp

/-- The slots of changed parts are the changed slots. -/
theorem slots?_map (f : β → γ) (names : List String) (body : Body β) :
    (body.map f).slots? names = (body.slots? names).map (List.map (Option.map f)) := by
  cases body with
  | positional items =>
      simp only [map, slots?, List.length_map]
      split <;> simp
  | keyed entries =>
      have empty : (names.map fun _ => (none : Option γ)) =
          (names.map fun _ => (none : Option β)).map (Option.map f) := by
        simp
      simp only [map, slots?, empty]
      generalize (names.map fun _ => (none : Option β)) = slots
      induction entries generalizing slots with
      | nil => rfl
      | cons entry entries ih =>
          rw [List.map_cons, List.foldlM_cons, List.foldlM_cons, place?_map]
          cases place? names slots entry with
          | none => rfl
          | some placed => exact ih placed

theorem mem_of_place? {names : List String} {slots placed : List (Option β)}
    {entry : Content × β} (success : place? names slots entry = some placed) {part : β}
    (inside : some part ∈ placed) : some part ∈ slots ∨ part = entry.2 := by
  unfold place? at success
  split at success
  · cases success
  · cases success
    exact .inl inside
  · split at success
    · cases success
      rcases List.mem_or_eq_of_mem_set inside with inside | same
      · exact .inl inside
      · exact .inr (Option.some.inj same)
    · cases success

/-- Nothing but parts of the body comes into the slots. -/
theorem mem_parts_of_slots? {names : List String} {body : Body β} {slots : List (Option β)}
    (success : body.slots? names = some slots) {part : β} (inside : some part ∈ slots) :
    part ∈ body.parts := by
  cases body with
  | positional items =>
      simp only [slots?] at success
      split at success
      · cases success
        rcases List.mem_append.mp inside with inside | inside
        · obtain ⟨item, member, same⟩ := List.mem_map.mp inside
          exact Option.some.inj same ▸ member
        · cases List.eq_of_mem_replicate inside
      · cases success
  | keyed entries =>
      have general : ∀ (entries : List (Content × β)) (start : List (Option β)),
          entries.foldlM (place? names) start = some slots →
            some part ∈ start ∨ part ∈ entries.map Prod.snd := by
        intro entries
        induction entries with
        | nil =>
            intro start same
            cases same
            exact .inl inside
        | cons entry entries ih =>
            intro start success
            rw [List.foldlM_cons] at success
            obtain ⟨placed, step, rest⟩ := Option.bind_eq_some_iff.mp success
            rcases ih placed rest with early | later
            · rcases mem_of_place? step early with before | rfl
              · exact .inl before
              · exact .inr List.mem_cons_self
            · exact .inr (List.mem_cons_of_mem _ later)
      rcases general entries _ success with absent | inside
      · simp at absent
      · exact inside

theorem map_ofMembers (f : β → γ) (members : List (String × β)) :
    (ofMembers members).map f = ofMembers (members.map fun member => (member.1, f member.2)) := by
  simp only [ofMembers, map, List.map_map, Function.comp_def]

/-- Behind the tag, too, each slot holds the one value with the name of its field. -/
theorem slots?_untagged {names : List String} (distinct : names.Nodup)
    (fresh : Content.tagKey ∉ names) (members : List (String × β)) :
    (ofMembers members).untagged.slots? names =
      names.mapM fun name => sole? (valuesOf name members) := by
  have behind : (ofMembers members).untagged =
      ofMembers (members.filter fun member => !(member.1 == Content.tagKey)) := by
    simp only [ofMembers, untagged, List.filter_map, Function.comp_def, Content.isTagKey]
  rw [behind, slots?_ofMembers distinct]
  refine mapM_congr fun name inside => ?_
  have kept : (!(name == Content.tagKey)) = true := by
    have apart : name ≠ Content.tagKey := fun same => fresh (same ▸ inside)
    simpa using apart
  exact congrArg sole?
    (@valuesOf_filter _ name (fun other => !(other == Content.tagKey)) kept members)

end Body

namespace Json

/-- The parts of a tree that is read as a record. -/
def body? : Json → Option (Body Json)
  | .object members => some (.ofMembers members)
  | .list items => some (.positional items)
  | _ => none

/-- The items or the values of the members of a tree. -/
def parts : Json → List Json
  | .object members => members.map Prod.snd
  | .list items => items
  | _ => []

/-- The parts behind the tag. -/
def payload (tree : Json) : Body Json :=
  match tree.body? with
  | some body => body.untagged
  | none => .positional []

theorem parts_of_body? {tree : Json} {body : Body Json} (read : tree.body? = some body) :
    body.parts = tree.parts := by
  cases tree with
  | null | bool | number | text => cases read
  | list items =>
      cases read
      rfl
  | object members =>
      cases read
      simp only [Body.ofMembers, Body.parts, parts, List.map_map, Function.comp_def]

theorem mem_parts_of_mem_payload {tree part : Json} (inside : part ∈ tree.payload.parts) :
    part ∈ tree.parts := by
  unfold payload at inside
  split at inside
  · next body read => exact parts_of_body? read ▸ Body.mem_parts_of_mem_untagged inside
  · cases inside

theorem sizeOf_lt_of_mem_parts {tree part : Json} (inside : part ∈ tree.parts) :
    sizeOf part < sizeOf tree := by
  cases tree with
  | null | bool | number | text => cases inside
  | list items =>
      have listed : part ∈ items := inside
      have smaller := List.sizeOf_lt_of_mem listed
      simp only [Json.list.sizeOf_spec]
      omega
  | object members =>
      obtain ⟨⟨name, value⟩, listed, rfl⟩ := List.mem_map.mp inside
      have smaller := List.sizeOf_lt_of_mem listed
      simp only [Prod.mk.sizeOf_spec, Json.object.sizeOf_spec] at smaller ⊢
      omega

end Json

theorem Body.of?_ofJson (tree : Json) :
    Body.of? (.ofJson tree) = tree.body?.map (Body.map Content.ofJson) := by
  cases tree with
  | null | bool | number | text => rfl
  | list items => simp [Content.ofJson, of?, Json.body?, map, Content.ofItems_eq_map]
  | object members =>
      simp [Content.ofJson, of?, Json.body?, map, ofMembers, Content.ofMembers_eq_map]

namespace Content

theorem payload_ofJson (tree : Json) :
    (ofJson tree).payload = tree.payload.map ofJson := by
  unfold payload Json.payload
  rw [Body.of?_ofJson]
  cases tree.body? with
  | none => rfl
  | some body => exact body.untagged_map ofJson

theorem typeReadings_eq_map (items : List Content) :
    typeReadings items = items.map typeReading := by
  induction items with
  | nil => rfl
  | cons item items ih => rw [typeReadings, ih, List.map_cons]

theorem entryReadings_eq_map (entries : List (Content × Content)) :
    entryReadings entries = entries.map fun entry => (entry.1, entry.2.typeReading) := by
  induction entries with
  | nil => rfl
  | cons entry entries ih => rw [entryReadings, ih, List.map_cons]

/-- What a tree means where types stand is told by the tree and by what its parts mean. -/
theorem typeReading_ofJson (tree : Json) :
    (ofJson tree).typeReading =
      .of (ofJson tree) (tree.payload.map fun part => (ofJson part).typeReading) := by
  cases tree with
  | null | bool | number | text => rfl
  | list items =>
      rw [ofJson, typeReading, typeReadings_eq_map, ofItems_eq_map]
      simp only [Json.payload, Json.body?, Body.untagged, Body.map, List.map_map, List.map_tail,
        Function.comp_def]
  | object members =>
      simp only [Json.payload, Json.body?]
      rw [← Body.untagged_map, Body.map_ofMembers, ofJson, typeReading, entryReadings_eq_map,
        ofMembers_eq_map]
      simp only [Body.ofMembers, List.map_map, Function.comp_def]

/-- The tag of an object is the value of its one tag member. -/
theorem variant?_object (variants : List String) (members : List (String × Json)) :
    (ofJson (.object members)).variant? variants =
      match valuesOf tagKey members with
      | [tag] => choice? variants (ofJson tag)
      | _ => none := by
  have tags : ((members.map fun member => (text member.1, ofJson member.2)).filter
      (·.1.isTagKey)).map Prod.snd = (valuesOf tagKey members).map ofJson := by
    simp only [valuesOf, List.filter_map, List.map_map, Function.comp_def, isTagKey]
    congr 1
    refine List.filter_congr fun member _ => ?_
    by_cases same : tagKey = member.1
    · simp [same]
    · have apart : ¬ member.1 = tagKey := fun h => same h.symm
      simp [same, apart]
  simp only [ofJson, ofMembers_eq_map, variant?]
  generalize (members.map fun member => (text member.1, ofJson member.2)).filter
    (·.1.isTagKey) = found at tags ⊢
  generalize valuesOf tagKey members = values at tags ⊢
  rcases found with _ | ⟨⟨key, content⟩, _ | ⟨_, _⟩⟩ <;>
    rcases values with _ | ⟨tag, _ | ⟨_, _⟩⟩ <;> simp_all

end Content

end ApiComponents
