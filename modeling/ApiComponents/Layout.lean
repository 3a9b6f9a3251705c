import ApiComponents.Content
import ApiComponents.Entries

/-! # Layouts

A layout says how values of a type stand in a document. It is written once for each type and
read by every document format, so that the formats agree on names, order and defaults of the
fields.
-/

namespace ApiComponents

/-- What a field is when the document does not give it. -/
inductive Absence (α : Type) where
  | required
  /-- A record written with field names may leave it out. -/
  | keyed (value : α)
  /-- Every record may leave it out, one written as a list only at its end. -/
  | always (value : α)

/-- The value of a field that is not there. -/
def Absence.value? {α : Type} (isKeyed : Bool) : Absence α → Option α
  | required => none
  | keyed value => if isKeyed then some value else none
  | always value => some value

mutual
/-- How values of a type stand in a document. -/
inductive Layout : Type → Type 1 where
  | text : Layout String
  | word {α : Type} (words : List (String × α)) : Layout α
  | optional {α : Type} (value : Layout α) : Layout (Option α)
  | list {α : Type} (item : Layout α) : Layout (List α)
  /-- A mapping from strings; a repeated key keeps its first place and its last value. -/
  | entries {α : Type} (value : Layout α) : Layout (Entries α)
  /-- A value that is read as content and interpreted as one of the alternatives of a choice. -/
  | whole {α : Type} (choice : String) (interpret : Content → Option α) : Layout α
  | record {σ ρ α : Type} (name : String) (fields : Fields σ ρ) (build : ρ → α) : Layout α

/-- The fields of a record in order. The first type holds what was found so far, the second
    the values of all fields. -/
inductive Fields : Type → Type → Type 1 where
  | done : Fields Unit Unit
  | field {α σ ρ : Type} (name : String) (absence : Absence α) (value : Layout α)
      (rest : Fields σ ρ) : Fields (Option α × σ) (α × ρ)
end

namespace Fields

def names {σ ρ : Type} : Fields σ ρ → List String
  | done => []
  | field name _ _ rest => name :: rest.names

def noneFound {σ ρ : Type} : Fields σ ρ → σ
  | done => ()
  | field _ _ _ rest => (none, rest.noneFound)

def isFound {σ ρ : Type} (name : String) : Fields σ ρ → σ → Bool
  | done, _ => false
  | field other _ _ rest, (slot, slots) =>
      if name = other then slot.isSome else rest.isFound name slots

/-- The values of all fields, or the name and the place of the first one that is missing. -/
def finish {σ ρ : Type} (isKeyed : Bool) : Fields σ ρ → σ → Except (String × Nat) ρ
  | done, _ => .ok ()
  | field name absence _ rest, (slot, slots) =>
      match slot.or (absence.value? isKeyed) with
      | none => .error (name, 0)
      | some value =>
          match rest.finish isKeyed slots with
          | .ok values => .ok (value, values)
          | .error (missing, place) => .error (missing, place + 1)

end Fields

/-- What a record is called where it is wanted and something else found. -/
def recordTitle (name : String) : String := "struct " ++ name

/-- What a record is called when it is written as a list that is too short. -/
def recordExtent (name : String) (count : Nat) : String :=
  recordTitle name ++ " with " ++ Nat.repr count ++ (if count = 1 then " element" else " elements")

mutual
def Layout.fromContent? {α : Type} : Layout α → Content → Option α
  | .text, .text value => some value
  | .text, _ => none
  | .word words, content => ((content.word? (words.map Prod.fst)).bind (words[·]?)).map Prod.snd
  | .optional _, .null => some none
  | .optional value, content => (value.fromContent? content).map some
  | .list item, .list items => items.mapM item.fromContent?
  | .list _, _ => none
  | .entries value, .map pairs =>
      (pairs.mapM fun (pair : Content × Content) =>
        match pair with
        | (.text key, part) => (value.fromContent? part).map fun result => (key, result)
        | _ => none).map Entries.ofPairs
  | .entries _, _ => none
  | .whole _ interpret, content => interpret content
  | .record _ fields build, content =>
      match Body.of? content with
      | some body =>
          match body.slots? fields.names with
          | some slots => (fields.fromSlots? body.isKeyed slots).map build
          | none => none
      | none => none

/-- The fields of a record from the content in each slot. -/
def Fields.fromSlots? {σ ρ : Type} (isKeyed : Bool) :
    Fields σ ρ → List (Option Content) → Option ρ
  | .done, _ => some ()
  | .field _ absence value rest, slots =>
      let given :=
        match slots.head?.join with
        | some content => value.fromContent? content
        | none => absence.value? isKeyed
      match given, rest.fromSlots? isKeyed slots.tail with
      | some first, some others => some (first, others)
      | _, _ => none
end

def Fields.fromBody? {σ ρ : Type} (fields : Fields σ ρ) (body : Body Content) : Option ρ :=
  (body.slots? fields.names).bind (fields.fromSlots? body.isKeyed)

end ApiComponents
