import ApiComponents.Decimal.Shortest

/-! # JSON numbers

A number without fraction and exponent is kept exactly while it fits 64 bits; every other
number is a binary64 one. Decimals are converted with one multiplication or division by a
power of ten, so the last digit may differ from the nearest binary64 number.
-/

namespace ApiComponents.Json

open Decimal (Binary64 twoTo)

inductive Number where
  | natural (value : Nat)
  /-- The whole number `-(below + 1)`. -/
  | negative (below : Nat)
  | float (value : Binary64)
  deriving Repr, DecidableEq

namespace Number

def text : Number → String
  | natural value => Nat.repr value
  | negative below => "-" ++ Nat.repr (below + 1)
  | float value => Decimal.floatText value

def same : Number → Number → Bool
  | natural x, natural y => x == y
  | negative x, negative y => x == y
  | float x, float y => x.sameNumber y
  | _, _ => false

def wordMax : Nat := twoTo 64 - 1

def exponentMax : Nat := twoTo 31 - 1

/-- The exponent of a number text: its sign and its digits. -/
structure ExponentText where
  isNegative : Bool
  digits : List Char

/-- A number text that has the form of a JSON number, cut into its parts. -/
structure NumberText where
  isNegative : Bool
  whole : List Char
  /-- The digits behind the point, if there is one. -/
  fraction : Option (List Char)
  exponent : Option ExponentText

def digitValue (c : Char) : Nat := c.toNat - '0'.toNat

/-- Append digits to a significand as long as it fits 64 bits; the second part of the result
    are the digits that no longer fit. -/
def absorb (significand : Nat) : List Char → Nat × List Char
  | [] => (significand, [])
  | c :: rest =>
      let extended := significand * 10 + digitValue c
      if extended ≤ wordMax then absorb extended rest else (significand, c :: rest)

/-- The exponent as a number, or how many digits are left when it no longer fits 32 bits. -/
def exponentValue (value : Nat) : List Char → Except Nat Nat
  | [] => .ok value
  | c :: rest =>
      let extended := value * 10 + digitValue c
      if extended ≤ exponentMax then exponentValue extended rest else .error rest.length

/-- Divide by `10 ^ 308` while the exponent is below what one division can reach. -/
def lowered (fuel : Nat) (value : Binary64) (power : Nat) : Binary64 :=
  match fuel with
  | 0 => value
  | fuel + 1 =>
      if power ≤ 308 then value.dividedBy (Binary64.ofDecimal 1 power)
      else if value.isZero then value
      else lowered fuel (value.dividedBy (Binary64.ofDecimal 1 308)) (power - 308)

/-- The number `significand * 10 ^ power`, or nothing when it is too large. -/
def scaled? (significand : Nat) (power : Int) : Option Binary64 :=
  let value := Binary64.ofDecimal significand 0
  if power < 0 then
    some (lowered (power.natAbs + 1) value power.natAbs)
  else if power ≤ 308 then
    let product := value.times (Binary64.ofDecimal 1 power)
    if product.isFinite then some product else none
  else if value.isZero then some value
  else none

/-- The signed floating-point number, or the range failure at the end of the text. -/
def signedFloat (isNegative : Bool) (significand : Nat) (power : Int) : Except Nat Number :=
  match scaled? significand power with
  | some value => .ok (.float (if isNegative then value.negate else value))
  | none => .error 0

/-- The number that a text stands for. A number out of range fails with the number of
    characters that remain unread when this shows. -/
def NumberText.value (text : NumberText) : Except Nat Number :=
  let (significand, dropped) := absorb 0 text.whole
  let (significand, power) :=
    match text.fraction with
    | none => (significand, (dropped.length : Int))
    | some digits =>
        let (significand, unread) := absorb significand digits
        (significand, (dropped.length : Int) - ((digits.length - unread.length : Nat) : Int))
  match text.exponent with
  | some exponent =>
      match exponentValue 0 exponent.digits with
      | .ok value =>
          signedFloat text.isNegative significand
            (if exponent.isNegative then power - value else power + value)
      | .error unread =>
          if significand ≠ 0 ∧ ¬ exponent.isNegative then .error unread
          else .ok (.float (if text.isNegative then Binary64.zero.negate else Binary64.zero))
  | none =>
      if text.fraction.isSome ∨ dropped ≠ [] then
        signedFloat text.isNegative significand power
      else if ¬ text.isNegative then .ok (.natural significand)
      else if 0 < significand ∧ significand ≤ twoTo 63 then .ok (.negative (significand - 1))
      else .ok (.float (Binary64.ofDecimal significand 0).negate)

end Number

end ApiComponents.Json
