import ApiComponents.Json.Value

/-! # Content

The content of a part of a document, apart from its format. Values that say by a tag what
they are, are read as content first and interpreted then. The keys of a mapping may be any
content, and a mapping may repeat them.
-/

namespace ApiComponents

/-- The content of a document or of a part of it. -/
inductive Content where
  | null
  | bool (value : Bool)
  /-- A number; a floating-point one may be infinite or not a number. -/
  | number (value : Json.Number)
  | text (value : String)
  | list (items : List Content)
  | map (entries : List (Content × Content))
  deriving Repr, Inhabited

namespace Content

mutual
def ofJson : Json → Content
  | .null => null
  | .bool value => bool value
  | .number value => number value
  | .text value => text value
  | .list items => list (ofItems items)
  | .object members => map (ofMembers members)

def ofItems : List Json → List Content
  | [] => []
  | item :: rest => ofJson item :: ofItems rest

def ofMembers : List (String × Json) → List (Content × Content)
  | [] => []
  | (name, value) :: rest => (text name, ofJson value) :: ofMembers rest
end

/-- A number as JSON can hold it: what is not finite becomes null. -/
def numberJson : Json.Number → Json
  | .float value => if value.isFinite then .number (.float value) else .null
  | value => .number value

mutual
/-- The content as a JSON value in normal form, if all keys are strings. -/
def json? : Content → Option Json
  | null => some .null
  | bool value => some (.bool value)
  | number value => some (numberJson value)
  | text value => some (.text value)
  | list items => (jsonItems? items).map .list
  | map entries => (jsonMembers? entries).map fun members => .object (Json.sortMembers members)

def jsonItems? : List Content → Option (List Json)
  | [] => some []
  | item :: rest =>
      match item.json?, jsonItems? rest with
      | some value, some values => some (value :: values)
      | _, _ => none

/-- The entries of a mapping as object members, if all keys are strings. -/
def jsonMembers? : List (Content × Content) → Option (List (String × Json))
  | [] => some []
  | (text name, item) :: rest =>
      match item.json?, jsonMembers? rest with
      | some value, some members => some ((name, value) :: members)
      | _, _ => none
  | _ => none
end

def wordIndex? (words : List String) (word : String) : Option Nat :=
  words.findIdx? (· == word)

/-- The member of a vocabulary that a content names, by its word or by its place. -/
def choice? (words : List String) : Content → Option Nat
  | text word => wordIndex? words word
  | number (.natural place) => if place < words.length then some place else none
  | _ => none

/-- The member of a vocabulary that a content spells: the word itself, or a mapping from the
    word or its place to null. -/
def word? (words : List String) : Content → Option Nat
  | text word => wordIndex? words word
  | map [(key, null)] => choice? words key
  | _ => none

def tagKey : String := "_type"

def isTagKey : Content → Bool
  | text key => key == tagKey
  | _ => false

/-- The variant that a value is tagged with: by the one tag entry of a mapping, or by the first
    item of a sequence. -/
def variant? (variants : List String) : Content → Option Nat
  | map entries =>
      match entries.filter (·.1.isTagKey) with
      | [(_, tag)] => choice? variants tag
      | _ => none
  | list (tag :: _) => choice? variants tag
  | _ => none

end Content

/-- The parts of a record, by name or by position. -/
inductive Body (β : Type u) where
  | keyed (entries : List (Content × β))
  | positional (items : List β)

namespace Body

variable {β : Type u}

/-- The parts of a content that is read as a record. -/
def of? : Content → Option (Body Content)
  | .map entries => some (keyed entries)
  | .list items => some (positional items)
  | _ => none

def untagged : Body β → Body β
  | keyed entries => keyed (entries.filter fun entry => !entry.1.isTagKey)
  | positional items => positional items.tail

/-- Which field a key means; a key that names no field means none. -/
def fieldOf? (names : List String) : Content → Option (Option Nat)
  | .text name => some (Content.wordIndex? names name)
  | .number (.natural place) => some (if place < names.length then some place else none)
  | _ => none

/-- Put one entry into the slots of the fields, each of which takes one. -/
def place? (names : List String) (slots : List (Option β)) (entry : Content × β) :
    Option (List (Option β)) :=
  match fieldOf? names entry.1 with
  | none => none
  | some none => some slots
  | some (some place) =>
      match slots[place]? with
      | some none => some (slots.set place (some entry.2))
      | _ => none

/-- The parts by field, or nothing when a field is given twice, a key cannot name a field or
    there are more parts than fields. -/
def slots? (names : List String) : Body β → Option (List (Option β))
  | keyed entries => entries.foldlM (place? names) (names.map fun _ => none)
  | positional items =>
      if items.length ≤ names.length then
        some (items.map some ++ List.replicate (names.length - items.length) none)
      else none

def isKeyed : Body β → Bool
  | keyed _ => true
  | positional _ => false

/-- Whether nothing stands after the tag, or the rest may be ignored because it is keyed. -/
def isBare : Body β → Bool
  | keyed _ => true
  | positional items => items.isEmpty

end Body

end ApiComponents
