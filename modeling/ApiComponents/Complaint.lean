import ApiComponents.Json.Number
import ApiComponents.Text.Printable

/-! # Complaints about well-formed documents

What can be wrong with a value that stands where another kind of value is wanted. The two
document formats share the wording but for nulls and floating-point numbers.
-/

namespace ApiComponents

open Json (Number)

/-- What stands in a document where something else is wanted. -/
inductive Found where
  | null
  | bool (value : Bool)
  | number (value : Number)
  | wide (value : Int)
  | text (value : String)
  | list
  | map
  deriving Repr, DecidableEq

/-- How a document format words what it found. -/
structure Wording where
  null : String
  floatText : Decimal.Binary64 → String

def Found.describe (wording : Wording) : Found → String
  | null => wording.null
  | bool value => "boolean `" ++ (if value then "true" else "false") ++ "`"
  | number (.float value) => "floating point `" ++ wording.floatText value ++ "`"
  | number value => "integer `" ++ value.text ++ "`"
  | wide value =>
      "integer `" ++ toString value ++ "` as " ++ (if value < 0 then "i128" else "u128")
  | text value => "string " ++ Text.quoted value
  | list => "sequence"
  | map => "map"

/-- Why a well-formed value does not load. -/
inductive Complaint where
  | wrongKind (found : Found) (wanted : String)
  /-- A value of the right kind with a content that cannot be used. -/
  | wrongValue (found : Found) (wanted : String)
  | missingField (name : String)
  | duplicateField (name : String)
  /-- A record written as a list that ends too early. -/
  | wrongLength (length : Nat) (wanted : String)
  | unknownWord (word : String) (known : List String)
  /-- A value that is none of the alternatives of a choice. -/
  | noAlternative (choice : String)
  /-- A value with a tag of the document's own where tags are read from the content. -/
  | ownTag
  | nothing
  deriving Repr, DecidableEq

def listWords (words : List String) : String :=
  match words.map fun word => "`" ++ word ++ "`" with
  | [one] => one
  | [one, other] => one ++ " or " ++ other
  | several => "one of " ++ ", ".intercalate several

def Complaint.message (wording : Wording) : Complaint → String
  | wrongKind found wanted =>
      "invalid type: " ++ found.describe wording ++ ", expected " ++ wanted
  | wrongValue found wanted =>
      "invalid value: " ++ found.describe wording ++ ", expected " ++ wanted
  | missingField name => "missing field `" ++ name ++ "`"
  | duplicateField name => "duplicate field `" ++ name ++ "`"
  | wrongLength length wanted =>
      "invalid length " ++ Nat.repr length ++ ", expected " ++ wanted
  | unknownWord word known => "unknown variant `" ++ word ++ "`, expected " ++ listWords known
  | noAlternative choice => "data did not match any variant of untagged enum " ++ choice
  | ownTag => "untagged and internally tagged enums do not support enum input"
  | nothing => "EOF while parsing a value"

end ApiComponents
