import ApiComponents.Complaint
import ApiComponents.Json.Value

/-! # Located JSON documents

A JSON text as a tree that remembers places, counted in bytes from the start of the text.
The tree of a faulty text ends in a broken part. A reader that wants a value and one that only
skips it stumble at different places, so a broken part keeps both faults.
-/

namespace ApiComponents.Json

/-- Why a JSON text cannot be read or its value not loaded. -/
inductive Reason where
  | endInList
  | endInObject
  | endInString
  | endInValue
  | noColon
  | noListComma
  | noObjectComma
  /-- A letter that does not continue a literal name. -/
  | noLiteral
  | noValue
  | badEscape
  | badNumber
  | numberRange
  | controlCharacter
  | keyNotText
  | loneSurrogate
  | trailingComma
  | trailingCharacters
  /-- The first half of a surrogate pair without a second escape. -/
  | endInEscape
  | tooDeep
  /-- A well-formed value that does not load. -/
  | complaint (complaint : Complaint)
  deriving Repr, DecidableEq

/-- A reason with the place it is reported at, in bytes from the start, if it has one. -/
structure Fault where
  reason : Reason
  place : Option Nat
  deriving Repr, DecidableEq

namespace Fault

def located (reason : Reason) (place : Nat) : Fault := ⟨reason, some place⟩

def complain (complaint : Complaint) : Fault := ⟨.complaint complaint, none⟩

def placed (fault : Fault) (place : Nat) : Fault :=
  match fault.place with
  | some _ => fault
  | none => { fault with place := some place }

end Fault

/-- How a text goes wrong, for one who reads the value and for one who skips it. -/
structure Break where
  read : Fault
  skip : Fault
  deriving Repr, DecidableEq

inductive Ending where
  | closed (stop : Nat)
  /-- By a broken part. The last fault is the one of a reader with other wants: no more items in
      an array, or a word at the start of an object. -/
  | broken (parts : Break) (excess : Fault)
  deriving Repr, DecidableEq

structure Item (ν : Type) where
  node : ν
  /-- Where complaints about the value without a place are reported. -/
  mark : Nat
  /-- The fault of a reader that wants no more items. -/
  excess : Fault
  deriving Repr

structure Member (ν : Type) where
  /-- The name, unless its escapes are faulty. -/
  name : Except Fault String
  nameStop : Nat
  nameMark : Nat
  node : ν
  /-- Where complaints about the value without a place are reported. -/
  mark : Nat

/-- A value with its places: where a scalar ends and where an array or object starts. -/
inductive Node where
  /-- The value `null`. -/
  | null (stop : Nat)
  | bool (value : Bool) (stop : Nat)
  /-- A number, unless it is out of range. -/
  | number (value : Except Fault Number) (start stop : Nat)
  /-- A string, unless its escapes are faulty. -/
  | text (value : Except Fault String) (stop : Nat)
  | list (start : Nat) (items : List (Item Node)) (ending : Ending)
  | object (start : Nat) (members : List (Member Node)) (ending : Ending)
  /-- An array or object that stands too deep to be read; it can be skipped. -/
  | deep (limit : Fault) (node : Node)
  /-- A broken scalar or no value at all: where it starts, with which character if any, and how
      it breaks. -/
  | broken (start : Nat) (first : Option Char) (parts : Break)

namespace Node

/-- The complaint about a value that stands where another kind is wanted. -/
def mismatch (wanted : String) : Node → Fault
  | null stop => .located (.complaint (.wrongKind .null wanted)) stop
  | bool value stop => .located (.complaint (.wrongKind (.bool value) wanted)) stop
  | number (.ok value) _ stop => .located (.complaint (.wrongKind (.number value) wanted)) stop
  | number (.error fault) _ _ => fault
  | text (.ok value) stop => .located (.complaint (.wrongKind (.text value) wanted)) stop
  | text (.error fault) _ => fault
  | list start _ _ => .located (.complaint (.wrongKind .list wanted)) start
  | object start _ _ => .located (.complaint (.wrongKind .map wanted)) start
  | deep _ node => node.mismatch wanted
  | broken _ _ parts => parts.read

mutual
def skip : Node → Except Fault Unit
  | list _ items ending => do
      skipItems items
      match ending with
      | .closed _ => .ok ()
      | .broken parts _ => .error parts.skip
  | object _ members ending => do
      skipMembers members
      match ending with
      | .closed _ => .ok ()
      | .broken parts _ => .error parts.skip
  | deep _ node => node.skip
  | broken _ _ parts => .error parts.skip
  | _ => .ok ()

def skipItems : List (Item Node) → Except Fault Unit
  | [] => .ok ()
  | ⟨node, _, _⟩ :: rest => do
      node.skip
      skipItems rest

def skipMembers : List (Member Node) → Except Fault Unit
  | [] => .ok ()
  | ⟨_, _, _, node, _⟩ :: rest => do
      node.skip
      skipMembers rest
end

mutual
/-- Read a value whole: the value with all its members, or the first fault. -/
def json : Node → Except Fault Json
  | null _ => .ok .null
  | bool value _ => .ok (.bool value)
  | number value _ _ => value.map .number
  | text value _ => value.map .text
  | list _ items ending => do
      let values ← jsonItems items
      match ending with
      | .closed _ => .ok (.list values)
      | .broken parts _ => .error parts.read
  | object _ members ending => do
      let values ← jsonMembers members
      match ending with
      | .closed _ => .ok (.object values)
      | .broken parts _ => .error parts.read
  | deep limit _ => .error limit
  | broken _ _ parts => .error parts.read

def jsonItems : List (Item Node) → Except Fault (List Json)
  | [] => .ok []
  | ⟨node, _, _⟩ :: rest => do
      let value ← node.json
      let values ← jsonItems rest
      .ok (value :: values)

def jsonMembers : List (Member Node) → Except Fault (List (String × Json))
  | [] => .ok []
  | ⟨name, _, _, node, _⟩ :: rest => do
      let name ← name
      let value ← node.json
      let values ← jsonMembers rest
      .ok ((name, value) :: values)
end

end Node

/-- A whole JSON text: its value, and the fault of what stands behind the value. -/
structure Document where
  root : Node
  trailing : Option Fault

end ApiComponents.Json
