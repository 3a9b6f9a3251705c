import ApiComponents.Json.Node

/-! # Reading JSON text

One pass over the characters gives the located tree. Faults are reported either at the place
reached or, when the next character is to blame, behind that character's first byte.
-/

namespace ApiComponents.Json

open Number (NumberText ExponentText)

/-- The characters that are left, and how many bytes stand before them. -/
structure Cursor where
  place : Nat
  rest : List Char

namespace Cursor

def next (cursor : Cursor) : Cursor :=
  match cursor.rest with
  | [] => cursor
  | c :: rest => ⟨cursor.place + c.utf8Size, rest⟩

def fault (cursor : Cursor) (reason : Reason) : Fault := .located reason cursor.place

def blame (cursor : Cursor) (reason : Reason) : Fault :=
  .located reason (if cursor.rest.isEmpty then cursor.place else cursor.place + 1)

end Cursor

def isBlank (c : Char) : Bool := c == ' ' || c == '\n' || c == '\t' || c == '\r'

def skipBlanks (place : Nat) : List Char → Cursor
  | [] => ⟨place, []⟩
  | c :: rest => if isBlank c then skipBlanks (place + 1) rest else ⟨place, c :: rest⟩

def Cursor.blanks (cursor : Cursor) : Cursor := skipBlanks cursor.place cursor.rest

def Break.both (fault : Fault) : Break := ⟨fault, fault⟩

def literal (cursor : Cursor) : List Char → Except Fault Cursor
  | [] => .ok cursor
  | c :: letters =>
      match cursor.rest with
      | [] => .error (cursor.fault .endInValue)
      | d :: _ =>
          if c = d then literal cursor.next letters
          else .error (.located .noLiteral (cursor.place + 1))

/-! ## Numbers -/

def digitsAt (cursor : Cursor) : List Char × Cursor :=
  let digits := cursor.rest.takeWhile Char.isDigit
  (digits, ⟨cursor.place + digits.length, cursor.rest.drop digits.length⟩)

def Cursor.atExponent (cursor : Cursor) : Bool :=
  match cursor.rest with
  | c :: _ => c == 'e' || c == 'E'
  | [] => false

/-- The fault of a number that lacks a digit at the cursor, where the character there is read. -/
def missingDigit (cursor : Cursor) : Break :=
  match cursor.rest with
  | [] => ⟨cursor.fault .endInValue, cursor.fault .badNumber⟩
  | _ :: _ => .both (.located .badNumber (cursor.place + 1))

def wholeAt (cursor : Cursor) : Except Break (List Char × Cursor) :=
  match cursor.rest with
  | '0' :: c :: _ =>
      if c.isDigit then .error (.both (cursor.next.blame .badNumber))
      else .ok (['0'], cursor.next)
  | _ =>
      match digitsAt cursor with
      | ([], _) => .error (missingDigit cursor)
      | (digits, after) => .ok (digits, after)

def fractionAt (cursor : Cursor) : Except Break (Option (List Char) × Cursor) :=
  match cursor.rest with
  | '.' :: _ =>
      match digitsAt cursor.next with
      | ([], after) =>
          let skip := after.blame .badNumber
          .error ⟨if after.rest.isEmpty then after.fault .endInValue else skip, skip⟩
      | (digits, after) => .ok (some digits, after)
  | _ => .ok (none, cursor)

def exponentAt (cursor : Cursor) : Except Break (Option ExponentText × Cursor) :=
  if cursor.atExponent then
    let (isNegative, first) :=
      match cursor.next.rest with
      | '-' :: _ => (true, cursor.next.next)
      | '+' :: _ => (false, cursor.next.next)
      | _ => (false, cursor.next)
    match digitsAt first with
    | ([], after) => .error (missingDigit after)
    | (digits, after) => .ok (some ⟨isNegative, digits⟩, after)
  else .ok (none, cursor)

def numberText (isNegative : Bool) (cursor : Cursor) : Except Break (NumberText × Cursor) := do
  let (whole, cursor) ← wholeAt cursor
  let (fraction, cursor) ← fractionAt cursor
  let (exponent, cursor) ← exponentAt cursor
  .ok (⟨isNegative, whole, fraction, exponent⟩, cursor)

def brokenAt (cursor : Cursor) (parts : Break) : Node × Option Cursor :=
  (.broken cursor.place cursor.rest.head? parts, none)

def numberAt (cursor : Cursor) : Node × Option Cursor :=
  let isNegative := cursor.rest.head? == some '-'
  match numberText isNegative (if isNegative then cursor.next else cursor) with
  | .error parts => brokenAt cursor parts
  | .ok (parsed, after) =>
      let value := parsed.value.mapError fun unread =>
        Fault.located .numberRange (after.place - unread)
      (.number value cursor.place after.place, some after)

/-! ## Strings -/

inductive Piece where
  | plain (c : Char)
  /-- A character written with a backslash and one letter. -/
  | short (c : Char)
  /-- A code unit written with four hexadecimal digits, and the place behind them. -/
  | unit (value : Nat) (stop : Nat)
  deriving Repr, DecidableEq

/-- How the characters of a string end. -/
inductive TextEnd where
  | closed (after : Cursor)
  | textEnd (place : Nat)
  /-- With a control character that starts at the place. -/
  | control (place : Nat)
  /-- With an unknown escape that ends at the place. -/
  | badShort (place : Nat)
  /-- With an escape whose four digits end at the place and are no digits. -/
  | badUnit (place : Nat)

def hexValue? (c : Char) : Option Nat :=
  if c.isDigit then some (c.toNat - '0'.toNat)
  else if 'a' ≤ c ∧ c ≤ 'f' then some (c.toNat - 'a'.toNat + 10)
  else if 'A' ≤ c ∧ c ≤ 'F' then some (c.toNat - 'A'.toNat + 10)
  else none

def codeUnit? (a b c d : Char) : Option Nat := do
  let a ← hexValue? a
  let b ← hexValue? b
  let c ← hexValue? c
  let d ← hexValue? d
  some (((a * 16 + b) * 16 + c) * 16 + d)

def shortEscape? : Char → Option Char
  | '"' => some '"'
  | '\\' => some '\\'
  | '/' => some '/'
  | 'b' => some '\x08'
  | 'f' => some '\x0c'
  | 'n' => some '\n'
  | 'r' => some '\r'
  | 't' => some '\t'
  | _ => none

def byteCount (cs : List Char) : Nat := cs.foldl (fun count c => count + c.utf8Size) 0

/-- The end of a string at four characters that should be hexadecimal digits and are not. -/
def badUnitEnd (place : Nat) (rest : List Char) : TextEnd :=
  if 4 ≤ byteCount (rest.take 4) then .badUnit (place + 4) else .textEnd (place + byteCount rest)

/-- The pieces of a string from the place behind its opening quote on, and its end. -/
def pieces (found : Array Piece) (place : Nat) : List Char → Array Piece × TextEnd
  | [] => (found, .textEnd place)
  | '"' :: rest => (found, .closed ⟨place + 1, rest⟩)
  | '\\' :: 'u' :: a :: b :: c :: d :: rest =>
      match codeUnit? a b c d with
      | some value => pieces (found.push (.unit value (place + 6))) (place + 6) rest
      | none => (found, badUnitEnd (place + 2) (a :: b :: c :: d :: rest))
  | '\\' :: 'u' :: rest => (found, badUnitEnd (place + 2) rest)
  | '\\' :: c :: rest =>
      match shortEscape? c with
      | some value => pieces (found.push (.short value)) (place + 2) rest
      | none => (found, .badShort (place + 2))
  | '\\' :: [] => (found, .textEnd (place + 1))
  | c :: rest =>
      if c.toNat < 0x20 then (found, .control place)
      else pieces (found.push (.plain c)) (place + c.utf8Size) rest

/-- Whether a code unit is the first half of a surrogate pair. -/
def isLeading (unit : Nat) : Bool := 0xD800 ≤ unit && unit ≤ 0xDBFF

/-- Whether a code unit is the second half of a surrogate pair. -/
def isTrailing (unit : Nat) : Bool := 0xDC00 ≤ unit && unit ≤ 0xDFFF

def pairChar (leading trailing : Nat) : Char :=
  Char.ofNat (0x10000 + (leading - 0xD800) * 0x400 + (trailing - 0xDC00))

/-- The fault at the end of a string, if it is not closed. -/
def TextEnd.fault? : TextEnd → Option Fault
  | closed _ => none
  | textEnd place => some (.located .endInString place)
  | control place => some (.located .controlCharacter (place + 1))
  | badShort place => some (.located .badEscape place)
  | badUnit place => some (.located .badEscape place)

/-- The fault that skipping the string meets at its end, if it is not closed. -/
def TextEnd.skipFault? : TextEnd → Option Fault
  | control place => some (.located .controlCharacter place)
  | other => other.fault?

/-- The fault of a first surrogate half that ends at a place and that no second escape follows. -/
def unpaired (stop : Nat) (ending : TextEnd) : List Piece → Fault
  | .short _ :: _ => .located .endInEscape (stop + 2)
  | .plain _ :: _ => .located .endInEscape (stop + 1)
  | .unit _ _ :: _ => .located .loneSurrogate stop
  | [] =>
      match ending with
      | .closed _ | .control _ => .located .endInEscape (stop + 1)
      | .badShort _ => .located .endInEscape (stop + 2)
      | .textEnd place => .located .endInString place
      | .badUnit place => .located .badEscape place

def decode (ending : TextEnd) (found : Array Char) : List Piece → Except Fault (Array Char)
  | [] =>
      match ending.fault? with
      | some fault => .error fault
      | none => .ok found
  | .plain c :: rest => decode ending (found.push c) rest
  | .short c :: rest => decode ending (found.push c) rest
  | .unit value stop :: rest =>
      if isTrailing value then .error (.located .loneSurrogate stop)
      else if isLeading value then
        match rest with
        | .unit second place :: others =>
            if isTrailing second then decode ending (found.push (pairChar value second)) others
            else .error (.located .loneSurrogate place)
        | others => .error (unpaired stop ending others)
      else decode ending (found.push (Char.ofNat value)) rest

/-- The string behind an opening quote: its value and the cursor behind it, or how it breaks. -/
def textAt (cursor : Cursor) : Except Break (Except Fault String × Cursor) :=
  let (found, ending) := pieces #[] cursor.place cursor.rest
  let value := decode ending #[] found.toList
  match ending, ending.skipFault? with
  | .closed after, _ => .ok (value.map fun chars => String.ofList chars.toList, after)
  | _, some skip =>
      match value with
      | .error read => .error ⟨read, skip⟩
      | .ok _ => .error (.both skip)
  | _, none => .error (.both (.located .endInString cursor.place))

/-! ## Values -/

def depthLimit : Nat := 127

/-- Where complaints about the array item before the cursor are reported. -/
def itemMark (cursor : Cursor) : Nat :=
  let cursor := cursor.blanks
  match cursor.rest with
  | ']' :: _ => cursor.place + 1
  | ',' :: _ => cursor.next.blanks.place
  | _ => cursor.place

/-- Where complaints about the member name or value before the cursor are reported. -/
def memberMark (cursor : Cursor) : Nat :=
  let cursor := cursor.blanks
  match cursor.rest with
  | '\x7d' :: _ => cursor.place + 1
  | _ => cursor.place

/-- What stands where an array item or object member may stand. -/
inductive Step where
  | stop (after : Cursor)
  | more (cursor : Cursor)
  | broken (parts : Break) (excess : Fault)

/-- What follows in an array, at its start or behind an item. -/
def listStep (isFirst : Bool) (cursor : Cursor) : Step :=
  let cursor := cursor.blanks
  match cursor.rest with
  | [] => .broken (.both (cursor.blame .endInList)) (cursor.blame .endInList)
  | ']' :: _ => .stop cursor.next
  | c :: _ =>
      if isFirst then .more cursor
      else if c = ',' then
        let cursor := cursor.next.blanks
        match cursor.rest with
        | [] => .broken (.both (cursor.blame .endInValue)) (cursor.blame .trailingCharacters)
        | ']' :: _ =>
            .broken ⟨cursor.blame .trailingComma, cursor.blame .noValue⟩
              (cursor.blame .trailingComma)
        | _ => .more cursor
      else .broken (.both (cursor.blame .noListComma)) (cursor.blame .trailingCharacters)

/-- What follows in an object, at its start or behind a member. -/
def objectStep (isFirst : Bool) (cursor : Cursor) : Step :=
  let cursor := cursor.blanks
  let broken (parts : Break) : Step := .broken parts parts.read
  match cursor.rest with
  | [] => .broken (.both (cursor.blame .endInObject)) (cursor.blame .endInValue)
  | '\x7d' :: _ => .stop cursor.next
  | c :: _ =>
      if isFirst then
        if c = '"' then .more cursor else broken (.both (cursor.blame .keyNotText))
      else if c = ',' then
        let cursor := cursor.next.blanks
        match cursor.rest with
        | [] => broken ⟨cursor.blame .endInValue, cursor.blame .endInObject⟩
        | '"' :: _ => .more cursor
        | '\x7d' :: _ => broken ⟨cursor.blame .trailingComma, cursor.blame .keyNotText⟩
        | _ => broken (.both (cursor.blame .keyNotText))
      else broken (.both (cursor.blame .noObjectComma))

def colonAt (cursor : Cursor) : Except Fault Cursor :=
  let cursor := cursor.blanks
  match cursor.rest with
  | ':' :: _ => .ok cursor.next
  | [] => .error (cursor.blame .endInObject)
  | _ => .error (cursor.blame .noColon)

/-- An array or object, marked when it stands too deep. -/
def limited (depth : Nat) (start : Cursor) (node : Node) : Node :=
  if depth = depthLimit then .deep (start.blame .tooDeep) node else node

def literalAt (cursor : Cursor) (letters : List Char) (value : Nat → Node) : Node × Option Cursor :=
  match literal cursor letters with
  | .ok after => (value after.place, some after)
  | .error fault => brokenAt cursor (.both fault)

mutual
/-- The value at the cursor, inside `depth` arrays and objects; nothing stands behind a broken one.
    The fuel bounds the values, items and members that are left. -/
def valueAt (fuel depth : Nat) (cursor : Cursor) : Node × Option Cursor :=
  let cursor := cursor.blanks
  match fuel, cursor.rest with
  | 0, _ | _, [] => brokenAt cursor (.both (cursor.blame .endInValue))
  | fuel + 1, c :: _ =>
      match c with
      | 'n' => literalAt cursor ['n', 'u', 'l', 'l'] .null
      | 't' => literalAt cursor ['t', 'r', 'u', 'e'] (.bool true)
      | 'f' => literalAt cursor ['f', 'a', 'l', 's', 'e'] (.bool false)
      | '"' =>
          match textAt cursor.next with
          | .ok (value, after) => (.text value after.place, some after)
          | .error parts => brokenAt cursor parts
      | '[' =>
          let (items, ending, after) := itemsAt fuel (depth + 1) true #[] cursor.next
          (limited depth cursor (.list cursor.place items ending), after)
      | '\x7b' =>
          let (members, ending, after) := membersAt fuel (depth + 1) true #[] cursor.next
          (limited depth cursor (.object cursor.place members ending), after)
      | c =>
          if c = '-' ∨ c.isDigit then numberAt cursor
          else brokenAt cursor (.both (cursor.blame .noValue))

/-- The items of an array from the cursor on, behind those already found. -/
def itemsAt (fuel depth : Nat) (isFirst : Bool) (found : Array (Item Node)) (cursor : Cursor) :
    List (Item Node) × Ending × Option Cursor :=
  match fuel, listStep isFirst cursor with
  | _, .stop after => (found.toList, .closed after.place, some after)
  | _, .broken parts excess => (found.toList, .broken parts excess, none)
  | 0, .more cursor =>
      (found.toList, .broken (.both (cursor.blame .endInList)) (cursor.blame .endInList), none)
  | fuel + 1, .more cursor =>
      let excess := cursor.blame .trailingCharacters
      match valueAt fuel depth cursor with
      | (node, some after) =>
          itemsAt fuel depth false (found.push ⟨node, itemMark after, excess⟩) after
      | (node, none) =>
          ((found.push ⟨node, cursor.place, excess⟩).toList,
            .broken (.both (cursor.blame .endInList)) excess, none)

/-- The members of an object from the cursor on, behind those already found. -/
def membersAt (fuel depth : Nat) (isFirst : Bool) (found : Array (Member Node)) (cursor : Cursor) :
    List (Member Node) × Ending × Option Cursor :=
  match fuel, objectStep isFirst cursor with
  | _, .stop after => (found.toList, .closed after.place, some after)
  | 0, .broken parts excess => (found.toList, .broken parts excess, none)
  | fuel + 1, .broken parts excess =>
      let notWord :=
        if isFirst ∧ parts.read.reason = .keyNotText then
          (valueAt fuel depth cursor).1.mismatch "variant identifier"
        else excess
      (found.toList, .broken parts notWord, none)
  | 0, .more cursor =>
      (found.toList, .broken (.both (cursor.blame .endInObject)) (cursor.blame .endInObject), none)
  | fuel + 1, .more cursor =>
      match textAt cursor.next with
      | .error parts => (found.toList, .broken parts parts.read, none)
      | .ok (name, behind) =>
          let member (node : Node) (mark : Nat) : Member Node :=
            ⟨name, behind.place, memberMark behind, node, mark⟩
          let unfinished (node : Node) : List (Member Node) × Ending × Option Cursor :=
            let fault := behind.blame .endInObject
            ((found.push (member node behind.place)).toList, .broken (.both fault) fault, none)
          match colonAt behind with
          | .error fault => unfinished (.broken behind.place none (.both fault))
          | .ok value =>
              match valueAt fuel depth value with
              | (node, some after) =>
                  membersAt fuel depth false (found.push (member node (memberMark after))) after
              | (node, none) => unfinished node
end

def Document.ofText (text : String) : Document :=
  let chars := text.toList
  match valueAt (2 * chars.length + 2) 0 ⟨0, chars⟩ with
  | (root, none) => ⟨root, none⟩
  | (root, some after) =>
      let after := after.blanks
      ⟨root, if after.rest.isEmpty then none else some (after.blame .trailingCharacters)⟩

end ApiComponents.Json
