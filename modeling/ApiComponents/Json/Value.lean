import ApiComponents.Json.Number

/-! # JSON values and their texts

Objects are lists of members. A document may repeat a name; a value in normal form has its
members sorted by name and every name once. A value is written either compactly, without any
blank, or indented by two blanks a level.
-/

namespace ApiComponents

/-! ## Values -/

inductive Json where
  /-- The value `null`. -/
  | null
  | bool (value : Bool)
  | number (value : Json.Number)
  | text (value : String)
  | list (items : List Json)
  | object (members : List (String × Json))
  deriving Repr, Inhabited

namespace Json

def memberOf (name : String) : List (String × Json) → Option Json
  | [] => none
  | (other, value) :: rest => if name = other then some value else memberOf name rest

/-- The value of a member, if the value is an object that has it. -/
def member? (name : String) : Json → Option Json
  | object members => memberOf name members
  | _ => none

def text? : Json → Option String
  | text value => some value
  | _ => none

/-- Write a member into members that are sorted by name; a known name gets the new value. -/
def placeMember (name : String) (value : Json) : List (String × Json) → List (String × Json)
  | [] => [(name, value)]
  | (other, previous) :: rest =>
      if name = other then (name, value) :: rest
      else if name < other then (name, value) :: (other, previous) :: rest
      else (other, previous) :: placeMember name value rest

/-- Members sorted by name, the last of several with one name kept. -/
def sortMembers (members : List (String × Json)) : List (String × Json) :=
  members.foldl (fun sorted pair => placeMember pair.1 pair.2 sorted) []

mutual
/-- The value with sorted members and without repeated names, at every depth. -/
def normalized : Json → Json
  | list items => list (normalizedItems items)
  | object members => object (sortMembers (normalizedMembers members))
  | other => other

def normalizedItems : List Json → List Json
  | [] => []
  | item :: rest => item.normalized :: normalizedItems rest

def normalizedMembers : List (String × Json) → List (String × Json)
  | [] => []
  | (name, value) :: rest => (name, value.normalized) :: normalizedMembers rest
end

mutual
def same : Json → Json → Bool
  | null, null => true
  | bool x, bool y => x == y
  | number x, number y => x.same y
  | text x, text y => x == y
  | list xs, list ys => sameItems xs ys
  | object xs, object ys => sameMembers xs ys
  | _, _ => false

def sameItems : List Json → List Json → Bool
  | [], [] => true
  | x :: xs, y :: ys => x.same y && sameItems xs ys
  | _, _ => false

def sameMembers : List (String × Json) → List (String × Json) → Bool
  | [], [] => true
  | (name, x) :: xs, (other, y) :: ys => name == other && x.same y && sameMembers xs ys
  | _, _ => false
end

end Json

end ApiComponents

namespace ApiComponents.Json

/-! ## Texts

Strings escape quotes, backslashes and control characters and nothing else.
-/

def hexDigit (n : Nat) : Char := Nat.digitChar (n % 16)

def escaped (c : Char) : List Char :=
  match c with
  | '"' => ['\\', '"']
  | '\\' => ['\\', '\\']
  | '\x08' => ['\\', 'b']
  | '\x0c' => ['\\', 'f']
  | '\n' => ['\\', 'n']
  | '\r' => ['\\', 'r']
  | '\t' => ['\\', 't']
  | c =>
      if c.toNat < 0x20 then
        ['\\', 'u', '0', '0', hexDigit (c.toNat / 16), hexDigit c.toNat]
      else [c]

def quoted (s : String) : String :=
  "\"" ++ String.ofList (s.toList.flatMap escaped) ++ "\""

mutual
def compact : Json → String
  | null => "null"
  | bool value => if value then "true" else "false"
  | number value => value.text
  | text value => quoted value
  | list items => "[" ++ ",".intercalate (compactItems items) ++ "]"
  | object members => "\x7b" ++ ",".intercalate (compactMembers members) ++ "\x7d"

def compactItems : List Json → List String
  | [] => []
  | item :: rest => item.compact :: compactItems rest

def compactMembers : List (String × Json) → List String
  | [] => []
  | (name, value) :: rest => (quoted name ++ ":" ++ value.compact) :: compactMembers rest
end

def lineBreak (depth : Nat) : String :=
  "\n" ++ String.ofList (List.replicate (2 * depth) ' ')

/-- Parts between brackets, each on a line of its own; nothing between them when empty. -/
def bracketed (opening closing : String) (depth : Nat) (parts : List String) : String :=
  if parts.isEmpty then opening ++ closing
  else
    opening ++ lineBreak (depth + 1) ++ ("," ++ lineBreak (depth + 1)).intercalate parts ++
      lineBreak depth ++ closing

mutual
/-- The value over several lines, as it stands at a depth of indentation. -/
def indentedAt (depth : Nat) : Json → String
  | list items => bracketed "[" "]" depth (indentedItems depth items)
  | object members => bracketed "\x7b" "\x7d" depth (indentedMembers depth members)
  | null => "null"
  | bool value => if value then "true" else "false"
  | number value => value.text
  | text value => quoted value

/-- The texts of the items of an array one level deeper. -/
def indentedItems (depth : Nat) : List Json → List String
  | [] => []
  | item :: rest => item.indentedAt (depth + 1) :: indentedItems depth rest

/-- The texts of the members of an object one level deeper. -/
def indentedMembers (depth : Nat) : List (String × Json) → List String
  | [] => []
  | (name, value) :: rest =>
      (quoted name ++ ": " ++ value.indentedAt (depth + 1)) :: indentedMembers depth rest
end

/-- The value over several lines, indented by two blanks a level. -/
def indented (value : Json) : String := value.indentedAt 0

end ApiComponents.Json
