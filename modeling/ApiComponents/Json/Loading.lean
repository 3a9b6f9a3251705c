import ApiComponents.Json.Reader
import ApiComponents.Layout

/-! # Loading JSON

A located tree is read by a layout. Items and members are read in the order of the text, so the
first fault is the one that is reported.
-/

namespace ApiComponents

open Json (Fault Node Item Member Ending)

namespace Json

def wording : Wording := ⟨"null", Decimal.floatText⟩

def Reason.message : Reason → String
  | endInList => "EOF while parsing a list"
  | endInObject => "EOF while parsing an object"
  | endInString => "EOF while parsing a string"
  | endInValue => "EOF while parsing a value"
  | noColon => "expected `:`"
  | noListComma => "expected `,` or `]`"
  | noObjectComma => "expected `,` or `\x7d`"
  | noLiteral => "expected ident"
  | noValue => "expected value"
  | badEscape => "invalid escape"
  | badNumber => "invalid number"
  | numberRange => "number out of range"
  | controlCharacter => "control character (\\u0000-\\u001F) found while parsing a string"
  | keyNotText => "key must be a string"
  | loneSurrogate => "lone leading surrogate in hex escape"
  | trailingComma => "trailing comma"
  | trailingCharacters => "trailing characters"
  | endInEscape => "unexpected end of hex escape"
  | tooDeep => "recursion limit exceeded"
  | .complaint what => what.message wording

/-- The line and the column of a place: both count from the last line break, columns in bytes. -/
def lineColumn (text : String) (place : Nat) : Nat × Nat :=
  (text.toUTF8.toList.take place).foldl
    (fun reached byte =>
      if byte = 10 then (reached.1 + 1, 0) else (reached.1, reached.2 + 1)) (1, 0)

def Fault.message (text : String) (fault : Fault) : String :=
  match fault.place with
  | none => fault.reason.message
  | some place =>
      let (line, column) := lineColumn text place
      fault.reason.message ++ " at line " ++ Nat.repr line ++ " column " ++ Nat.repr column

namespace Node

/-- Whether the value begins like the literal `null`. -/
def isNullish : Node → Bool
  | null _ => true
  | broken _ first _ => first == some 'n'
  | _ => false

/-- The fault of a value that is neither a string nor an object where a word is wanted. -/
def notWord : Node → Fault
  | null stop => .located .noValue (stop - 3)
  | bool true stop => .located .noValue (stop - 3)
  | bool false stop => .located .noValue (stop - 4)
  | number _ start _ => .located .noValue (start + 1)
  | list start _ _ => .located .noValue (start + 1)
  | broken start first parts =>
      if first == none || first == some '"' then parts.read else .located .noValue (start + 1)
  | deep _ node => node.notWord
  | text (.error fault) _ => fault
  | text (.ok _) stop | object stop _ _ => .located .noValue stop

end Node

/-- The value that a word stands for, for a word that ends at a place. -/
def wordValue {α : Type} (words : List (String × α)) (word : String) (stop : Nat) :
    Except Fault α :=
  match Entries.lookup word words with
  | some value => .ok value
  | none => .error (.located (.complaint (.unknownWord word (words.map Prod.fst))) stop)

/-- A word that is written as an object: its one member has the word as name and null as value. -/
def wordObject {α : Type} (words : List (String × α)) (members : List (Member Node))
    (ending : Ending) : Except Fault α :=
  match members, ending with
  | [], .closed stop => .error (.located .noValue stop)
  | [], .broken _ excess => .error excess
  | member :: others, ending => do
      let name ← member.name
      let value ← wordValue words name member.nameStop
      match member.node with
      | .null _ =>
          match others, ending with
          | [], .closed _ => .ok value
          | [], .broken parts _ =>
              if parts.read.reason = .endInObject then .error parts.read
              else .error (.located .noValue member.mark)
          | _ :: _, _ => .error (.located .noValue member.mark)
      | node => .error (node.mismatch "unit")

end Json

mutual
def Layout.fromNode {α : Type} : Layout α → Node → Except Fault α
  | .text, .text value _ => value
  | .text, node => .error (node.mismatch "a string")
  | .word words, node =>
      match node with
      | .text (.ok word) stop => Json.wordValue words word stop
      | .object _ members ending => Json.wordObject words members ending
      | .deep limit (.object _ _ _) => .error limit
      | node => .error node.notWord
  | .optional _, .null _ => .ok none
  | .optional value, node =>
      if node.isNullish then .error (node.mismatch "option") else (value.fromNode node).map some
  | .list item, .list _ items ending => do
      let values ← items.mapM fun found =>
        (item.fromNode found.node).mapError (·.placed found.mark)
      match ending with
      | .closed _ => .ok values
      | .broken parts _ => .error parts.read
  | .list _, .deep limit (.list _ _ _) => .error limit
  | .list _, node => .error (node.mismatch "a sequence")
  | .entries value, .object _ members ending => do
      let pairs ← members.mapM fun found => do
        let name ← found.name
        let result ← (value.fromNode found.node).mapError (·.placed found.mark)
        .ok (name, result)
      match ending with
      | .closed _ => .ok (Entries.ofPairs pairs)
      | .broken parts _ => .error parts.read
  | .entries _, .deep limit (.object _ _ _) => .error limit
  | .entries _, node => .error (node.mismatch "a map")
  | .whole choice interpret, node => do
      let value ← node.json
      match interpret (.ofJson value) with
      | some result => .ok result
      | none => .error (.complain (.noAlternative choice))
  | .record name fields build, node =>
      match node with
      | .list _ items ending =>
          (fields.fromItems (recordExtent name fields.names.length) 0 items ending).map build
      | .object _ members ending => do
          let slots ← members.foldlM (fun slots member => do
            let name ← member.name
            if fields.isFound name slots then
              .error (.located (.complaint (.duplicateField name)) member.nameMark)
            else fields.put name member slots) fields.noneFound
          match ending with
          | .broken parts _ => .error parts.read
          | .closed stop =>
              match fields.finish true slots with
              | .ok values => .ok (build values)
              | .error (missing, _) =>
                  .error (.located (.complaint (.missingField missing)) stop)
      | .deep limit (.list _ _ _) | .deep limit (.object _ _ _) => .error limit
      | node => .error (node.mismatch (recordTitle name))

/-- Put the value of a member into the slot of its field; members without a field are skipped. -/
def Fields.put {σ ρ : Type} (name : String) (member : Member Node) :
    Fields σ ρ → σ → Except Fault σ
  | .done, slots => do
      member.node.skip
      .ok slots
  | .field other _ value rest, (slot, slots) =>
      if name = other then do
        let result ← (value.fromNode member.node).mapError (·.placed member.mark)
        .ok (some result, slots)
      else do
        let slots ← rest.put name member slots
        .ok (slot, slots)

/-- The fields of a record that is written as an array, from a number of fields on. -/
def Fields.fromItems {σ ρ : Type} (extent : String) (place : Nat) :
    Fields σ ρ → List (Item Node) → Ending → Except Fault ρ
  | .done, [], .closed _ => .ok ()
  | .done, [], .broken _ excess => .error excess
  | .done, item :: _, _ => .error item.excess
  | .field _ _ value rest, item :: items, ending => do
      let first ← (value.fromNode item.node).mapError (·.placed item.mark)
      let others ← rest.fromItems extent (place + 1) items ending
      .ok (first, others)
  | .field _ absence _ rest, [], ending =>
      match ending, absence.value? false with
      | .broken parts _, _ => .error parts.read
      | .closed stop, none => .error (.located (.complaint (.wrongLength place extent)) stop)
      | .closed _, some first => do
          let others ← rest.fromItems extent (place + 1) [] ending
          .ok (first, others)
end

def Layout.fromDocument {α : Type} (layout : Layout α) (document : Json.Document) :
    Except Fault α := do
  let value ← layout.fromNode document.root
  match document.trailing with
  | some fault => .error fault
  | none => .ok value

/-- A value from a JSON text, or the message of the first fault. -/
def Layout.fromJsonText {α : Type} (layout : Layout α) (text : String) : Except String α :=
  (layout.fromDocument (.ofText text)).mapError (·.message text)

end ApiComponents
