import ApiComponents.Complaint
import ApiComponents.Content

/-! # The meaning of YAML scalars

A plain scalar without tag may be a null, a truth value or a number; every other scalar is a
string, unless a tag asks for one of the other kinds.
-/

namespace ApiComponents.Yaml

open Decimal (Binary64 twoTo)
open Json (Number)

inductive Meaning where
  | null
  | bool (value : Bool)
  | number (value : Number)
  | wide (value : Int)
  | text (value : String)
  deriving Repr, DecidableEq

def isNullWord (text : String) : Bool := ["null", "Null", "NULL", "~"].contains text

def truthValue? (text : String) : Option Bool :=
  if ["true", "True", "TRUE"].contains text then some true
  else if ["false", "False", "FALSE"].contains text then some false
  else none

def dropSign (signs : List Char) (chars : List Char) : List Char :=
  match chars with
  | c :: rest => if signs.contains c then rest else chars
  | [] => []

/-- Whether the text is a sign and digits with a superfluous zero in front. -/
def hasLeadingZero (text : List Char) : Bool :=
  match dropSign ['-', '+'] text with
  | '0' :: d :: rest => (d :: rest).all Char.isDigit
  | _ => false

def digitValue? (base : Nat) (c : Char) : Option Nat :=
  let value? : Option Nat :=
    if c.isDigit then some (c.toNat - '0'.toNat)
    else if 'a' ≤ c ∧ c ≤ 'f' then some (c.toNat - 'a'.toNat + 10)
    else if 'A' ≤ c ∧ c ≤ 'F' then some (c.toNat - 'A'.toNat + 10)
    else none
  value?.filter fun value => value < base

def digits? (base : Nat) (chars : List Char) : Option Nat :=
  if chars.isEmpty then none
  else chars.foldlM (fun value c => (digitValue? base c).map fun digit => value * base + digit) 0

def baseOf? : Char → Option Nat
  | 'x' => some 16
  | 'o' => some 8
  | 'b' => some 2
  | _ => none

/-- The digits of a whole number, in base ten or in the base of its mark. -/
def magnitude? (allowsZeros : Bool) (chars : List Char) : Option Nat :=
  let based? : Option Nat :=
    match chars with
    | '0' :: mark :: rest => (baseOf? mark).bind fun base => digits? base rest
    | _ => none
  based?.or (if allowsZeros then digits? 10 chars else none)

/-- The whole number that a text spells, with a sign or without. -/
def wholeNumber? (text : List Char) : Option Int :=
  let allowsZeros := !hasLeadingZero text
  match text with
  | '-' :: rest => (magnitude? allowsZeros rest).map fun n => -(n : Int)
  | '+' :: rest => (magnitude? allowsZeros rest).map Int.ofNat
  | rest => (magnitude? allowsZeros rest).map Int.ofNat

/-- The meaning of a whole number, as long as it fits 128 bits. -/
def wholeMeaning? (value : Int) : Option Meaning :=
  if 0 ≤ value then
    if value < twoTo 64 then some (.number (.natural value.toNat))
    else if value < twoTo 128 then some (.wide value)
    else none
  else if -(twoTo 63 : Int) ≤ value then some (.number (.negative (value.natAbs - 1)))
  else if -(twoTo 127 : Int) ≤ value then some (.wide value)
  else none

def exponent? : List Char → Option Int
  | [] => some 0
  | c :: rest =>
      if c = 'e' ∨ c = 'E' then
        match rest with
        | '-' :: digits => (digits? 10 digits).map fun n => -(n : Int)
        | '+' :: digits => (digits? 10 digits).map Int.ofNat
        | digits => (digits? 10 digits).map Int.ofNat
      else none

/-- The nearest number to `digits * 10 ^ power`, where the digits are `width` many. Powers far
    outside the range need no arithmetic. -/
def boundedDecimal (digits width : Nat) (power : Int) : Binary64 :=
  if digits = 0 then .zero
  else if power + width < -400 then .zero
  else if 400 < power + width then .infinity
  else .ofDecimal digits power

/-- The number that digits with a point, an exponent or both spell. -/
def decimal? (chars : List Char) : Option Binary64 :=
  let whole := chars.takeWhile Char.isDigit
  let rest := chars.drop whole.length
  let (fraction, rest) :=
    match rest with
    | '.' :: rest =>
        let fraction := rest.takeWhile Char.isDigit
        (fraction, rest.drop fraction.length)
    | rest => ([], rest)
  match digits? 10 (whole ++ fraction), exponent? rest with
  | some digits, some exponent =>
      some (boundedDecimal digits (whole ++ fraction).length (exponent - (fraction.length : Int)))
  | _, _ => none

def finite? (value : Binary64) : Option Binary64 := if value.isFinite then some value else none

def floatValue? (text : List Char) : Option Binary64 :=
  let infinities := [['.', 'i', 'n', 'f'], ['.', 'I', 'n', 'f'], ['.', 'I', 'N', 'F']]
  let nans := [['.', 'n', 'a', 'n'], ['.', 'N', 'a', 'N'], ['.', 'N', 'A', 'N']]
  if nans.contains text then some .nan
  else
    match text with
    | '-' :: rest =>
        if infinities.contains rest then some Binary64.infinity.negate
        else ((decimal? rest).bind finite?).map Binary64.negate
    | '+' :: rest =>
        if infinities.contains rest then some .infinity else (decimal? rest).bind finite?
    | rest => if infinities.contains rest then some .infinity else (decimal? rest).bind finite?

def plainMeaning (text : String) : Meaning :=
  if text.isEmpty ∨ isNullWord text then .null
  else
    match truthValue? text with
    | some value => .bool value
    | none =>
        let chars := text.toList
        match (wholeNumber? chars).bind wholeMeaning? with
        | some meaning => meaning
        | none =>
            match if hasLeadingZero chars then none else floatValue? chars with
            | some value => .number (.float value)
            | none => .text text

def kindTag (kind : String) : String := "tag:yaml.org,2002:" ++ kind

/-- The name of a tag that belongs to a document alone. -/
def ownTag? (tag : Option String) : Option String :=
  match tag with
  | some tag =>
      match tag.toList with
      | ['!'] => some "!"
      | '!' :: name => some (String.ofList name)
      | _ => none
  | none => none

/-- The meaning that a tag asks for, or the complaint that the text has no such meaning. -/
def taggedMeaning (tag : String) (text : String) (isPlain : Bool) : Except Complaint Meaning :=
  let wrong (wanted : String) : Except Complaint Meaning :=
    .error (.wrongValue (.text text) wanted)
  if tag = kindTag "bool" then
    match truthValue? text with
    | some value => .ok (.bool value)
    | none => wrong "a boolean"
  else if tag = kindTag "int" then
    match (wholeNumber? text.toList).bind wholeMeaning? with
    | some meaning => .ok meaning
    | none => wrong "an integer"
  else if tag = kindTag "float" then
    match floatValue? text.toList with
    | some value => .ok (.number (.float value))
    | none => wrong "a float"
  else if tag = kindTag "null" then
    if isNullWord text then .ok .null else wrong "null"
  else if tag.startsWith "!" ∧ isPlain then .ok (plainMeaning text)
  else .ok (.text text)

/-- The meaning of a scalar, or the complaint that it has not the one its tag asks for. -/
def meaning (tag : Option String) (text : String) (isPlain : Bool) : Except Complaint Meaning :=
  match tag with
  | some tag => taggedMeaning tag text isPlain
  | none => .ok (if isPlain then plainMeaning text else .text text)

def Meaning.found : Meaning → Found
  | null => .null
  | bool value => .bool value
  | number value => .number value
  | wide value => .wide value
  | text value => .text value

end ApiComponents.Yaml
