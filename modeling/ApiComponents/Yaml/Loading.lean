import ApiComponents.Layout
import ApiComponents.Yaml.Node
import ApiComponents.Yaml.Scalar

/-! # Loading YAML

A tree of nodes is read by a layout. A complaint is reported with the path of the innermost
collection or scalar that was being read, and with the place where that starts. Nothing at all,
and an empty plain scalar, count as an empty list or record where one is wanted; a string may be
any scalar.
-/

namespace ApiComponents

namespace Yaml

def wording : Wording := ⟨"unit value", Decimal.plainFloatText⟩

/-- The way from the root of a document to a value, as messages show it. -/
inductive Path where
  | root
  | item (parent : Path) (index : Nat)
  | field (parent : Path) (key : String)
  /-- The value of a key that is no scalar. -/
  | unnamed (parent : Path)
  deriving Repr, DecidableEq

def Path.text : Path → String
  | root => "."
  | item parent index => parent.text ++ "[" ++ Nat.repr index ++ "]"
  | field root key => key
  | field parent key => parent.text ++ "." ++ key
  | unnamed root => "?"
  | unnamed parent => parent.text ++ ".?"

def Path.entry (parent : Path) (label : Option String) : Path :=
  match label with
  | some key => field parent key
  | none => unnamed parent

/-- Why a document does not load. -/
inductive Fault where
  /-- A complaint, with the place and the path it is reported at, if it has them. -/
  | complaint (complaint : Complaint) (place : Option (Path × Mark))
  | tooDeep (mark : Mark)
  | exhausted
  deriving Repr, DecidableEq

namespace Fault

def complain (complaint : Complaint) : Fault := .complaint complaint none

def placed (path : Path) (mark : Mark) : Fault → Fault
  | complaint what none => complaint what (some (path, mark))
  | fault => fault

/-- The text of a place; the very start of a document goes without. -/
def placeText (mark : Mark) : String :=
  if mark.line = 0 ∧ mark.column = 0 then ""
  else " at line " ++ Nat.repr (mark.line + 1) ++ " column " ++ Nat.repr (mark.column + 1)

def message : Fault → String
  | complaint what none => what.message wording
  | complaint what (some (path, mark)) =>
      let start := if path = .root then "" else path.text ++ ": "
      start ++ what.message wording ++ placeText mark
  | tooDeep mark => "recursion limit exceeded" ++ placeText mark
  | exhausted => "repetition limit exceeded"

end Fault

/-- Give a place to the complaint of a computation, if it has none. -/
def locate {α : Type} (path : Path) (mark : Mark) (result : Except Fault α) : Except Fault α :=
  result.mapError (·.placed path mark)

/-- Apply a step to the elements of a list and their places in it. -/
def mapIndexed {α β : Type} (step : Nat → α → Except Fault β) (index : Nat) :
    List α → Except Fault (List β)
  | [] => .ok []
  | element :: rest => do
      let first ← step index element
      let others ← mapIndexed step (index + 1) rest
      .ok (first :: others)

namespace Node

def mark : Node → Mark
  | nothing mark | scalar mark _ _ _ | list mark _ _ | map mark _ _ | tooDeep mark _ _ => mark
  | exhausted => .start

/-- The complaint about a node that stands where another kind is wanted. -/
def mismatch (wanted : String) : Node → Fault
  | nothing _ => .complain .nothing
  | scalar _ tag text isPlain =>
      match Yaml.meaning tag text isPlain with
      | .ok meaning => .complain (.wrongKind meaning.found wanted)
      | .error complaint => .complain complaint
  | list _ _ _ | tooDeep _ _ false => .complain (.wrongKind .list wanted)
  | map _ _ _ | tooDeep _ _ true => .complain (.wrongKind .map wanted)
  | exhausted => .exhausted

def reject {α : Type} (path : Path) (wanted : String) (node : Node) : Except Fault α :=
  locate path node.mark (.error (node.mismatch wanted))

def isEmpty : Node → Bool
  | nothing _ => true
  | scalar _ _ text isPlain => isPlain && text.isEmpty
  | _ => false

/-- The name of the node's tag, if it belongs to the document alone. -/
def ownTag : Node → Option String
  | scalar _ tag _ _ | list _ tag _ | map _ tag _ | tooDeep _ tag _ => ownTag? tag
  | _ => none

/-- Whether a node stands for no value where a value may be missing. -/
def isMissing : Node → Except Fault Bool
  | nothing _ => .ok true
  | scalar _ tag text isPlain =>
      if ¬ isPlain then .ok false
      else
        match tag with
        | some tag =>
            if tag = kindTag "null" then
              if isNullWord text then .ok true
              else .error (.complain (.wrongValue (.text text) "null"))
            else .ok false
        | none => .ok (text.isEmpty || isNullWord text)
  | _ => .ok false

def scalarContent (tag : Option String) (text : String) (isPlain : Bool) :
    Except Fault Content :=
  match Yaml.meaning tag text isPlain with
  | .error complaint => .error (.complain complaint)
  | .ok .null => .ok .null
  | .ok (.bool value) => .ok (.bool value)
  | .ok (.number value) => .ok (.number value)
  | .ok (.text value) => .ok (.text value)
  | .ok (.wide value) => .error (.complain (.wrongKind (.wide value) "any value"))

mutual
def content (path : Path) : Node → Except Fault Content
  | nothing _ => .ok .null
  | scalar mark tag text isPlain =>
      locate path mark
        (if (ownTag? tag).isSome then .error (.complain .ownTag)
          else scalarContent tag text isPlain)
  | list mark tag items =>
      locate path mark
        (if (ownTag? tag).isSome then .error (.complain .ownTag)
          else (itemContents path 0 items).map .list)
  | map mark tag entries =>
      locate path mark
        (if (ownTag? tag).isSome then .error (.complain .ownTag)
          else (entryContents path entries).map .map)
  | tooDeep mark tag _ =>
      locate path mark
        (if (ownTag? tag).isSome then .error (.complain .ownTag) else .error (.tooDeep mark))
  | exhausted => .error .exhausted

def itemContents (path : Path) (index : Nat) : List Node → Except Fault (List Content)
  | [] => .ok []
  | item :: rest => do
      let first ← item.content (.item path index)
      let others ← itemContents path (index + 1) rest
      .ok (first :: others)

def entryContents (path : Path) : List (Entry Node) → Except Fault (List (Content × Content))
  | [] => .ok []
  | ⟨label, key, value⟩ :: rest => do
      let key ← key.content path
      let value ← value.content (path.entry label)
      let others ← entryContents path rest
      .ok ((key, value) :: others)
end

def text (path : Path) (wanted : String) : Node → Except Fault String
  | scalar _ _ text _ => .ok text
  | node => node.reject path wanted

/-- Check that a node behind the tag of a word stands for nothing. -/
def isBare (path : Path) : Node → Except Fault Unit
  | scalar mark _ text isPlain =>
      if isPlain ∧ (text.isEmpty ∨ isNullWord text) then .ok ()
      else locate path mark (.error (.complain (.wrongValue (.text text) "null")))
  | node => node.reject path "unit"

/-- The value of a word, written as a scalar or as a tag. -/
def word {α : Type} (words : List (String × α)) (path : Path) (node : Node) : Except Fault α :=
  match node.ownTag with
  | some name =>
      match Entries.lookup name words with
      | none => .error (.complain (.unknownWord name (words.map Prod.fst)))
      | some value => do
          node.isBare path
          .ok value
  | none =>
      match node with
      | scalar mark _ text _ =>
          match Entries.lookup text words with
          | some value => .ok value
          | none => locate path mark (.error (.complain (.unknownWord text (words.map Prod.fst))))
      | node => node.reject path "a YAML tag starting with '!'"

end Node

end Yaml

open Yaml (Fault Path locate)

mutual
def Layout.fromYamlNode {α : Type} (path : Path) : Layout α → Yaml.Node → Except Fault α
  | .text, node => node.text path "a string"
  | .word words, node => node.word words path
  | .optional value, node => do
      if ← node.isMissing then .ok none
      else (value.fromYamlNode path node).map some
  | .list item, node =>
      match node with
      | .list mark _ items =>
          locate path mark
            (Yaml.mapIndexed (fun index part => item.fromYamlNode (.item path index) part) 0 items)
      | .tooDeep mark _ false => .error (.tooDeep mark)
      | node => if node.isEmpty then .ok [] else node.reject path "a sequence"
  | .entries value, node =>
      match node with
      | .map mark _ entries =>
          locate path mark
            ((entries.mapM fun (entry : Yaml.Entry Yaml.Node) => do
              let key ← entry.key.text path "a string"
              let result ← value.fromYamlNode (path.entry entry.label) entry.value
              .ok (key, result)).map Entries.ofPairs)
      | .tooDeep mark _ true => .error (.tooDeep mark)
      | node => if node.isEmpty then .ok [] else node.reject path "a map"
  | .whole choice interpret, node => do
      let content ← node.content path
      match interpret content with
      | some result => .ok result
      | none => .error (.complain (.noAlternative choice))
  | .record name fields build, node =>
      let finish (mark : Yaml.Mark) (slots : Except Fault _) : Except Fault _ :=
        locate path mark (do
          let slots ← slots
          match fields.finish true slots with
          | .ok values => .ok (build values)
          | .error (missing, _) => .error (.complain (.missingField missing)))
      match node with
      | .map mark _ entries =>
          finish mark
            (entries.foldlM (fun slots (entry : Yaml.Entry Yaml.Node) => do
              let key ← entry.key.text path "field identifier"
              if fields.isFound key slots then .error (.complain (.duplicateField key))
              else fields.putYaml path key entry.label entry.value slots) fields.noneFound)
      | .tooDeep mark _ true => .error (.tooDeep mark)
      | node =>
          if node.isEmpty then finish node.mark (.ok fields.noneFound)
          else node.reject path (recordTitle name)

/-- Put a value into the slot of its field; values without a field are ignored. -/
def Fields.putYaml {σ ρ : Type} (path : Path) (name : String) (label : Option String)
    (part : Yaml.Node) : Fields σ ρ → σ → Except Fault σ
  | .done, slots => .ok slots
  | .field other _ value rest, (slot, slots) =>
      if name = other then do
        let result ← value.fromYamlNode (path.entry label) part
        .ok (some result, slots)
      else do
        let slots ← rest.putYaml path name label part slots
        .ok (slot, slots)
end

/-- Why a YAML text does not load. -/
inductive YamlFailure where
  /-- The text is not one readable document. -/
  | unreadable
  /-- The document is not laid out as it should be. -/
  | faulty (message : String)
  deriving Repr, DecidableEq

def YamlFailure.message : YamlFailure → String
  | unreadable => "not one readable document"
  | faulty message => message

def Layout.fromYamlText {α : Type} (layout : Layout α) (text : String) : Except YamlFailure α :=
  match Yaml.Node.ofText? text with
  | none => .error .unreadable
  | some node => (layout.fromYamlNode .root node).mapError fun fault => .faulty fault.message

end ApiComponents
