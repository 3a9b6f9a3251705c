import ApiComponents.Decimal.Binary64

/-! # Shortest decimals

The decimal text of a binary64 number has the fewest digits that still read back as the number,
and among those the ones nearest to it.
-/

namespace ApiComponents.Decimal

/-- The number `digits * 10 ^ power`. -/
structure DecimalNumber where
  digits : Nat
  power : Int
  deriving Repr, DecidableEq

namespace DecimalNumber

def width (n : Nat) : Nat := (Nat.toDigits 10 n).length

/-- The number of digits before the decimal point, zero or negative for small numbers. -/
def pointPlace (d : DecimalNumber) : Int := (width d.digits : Int) + d.power

end DecimalNumber

/-- The `k` with `10 ^ (k - 1) ≤ r < 10 ^ k`, for a positive ratio. -/
def decimalOrder (r : Ratio) : Int :=
  if r.den ≤ r.num then DecimalNumber.width (r.num / r.den)
  else
    let places := DecimalNumber.width (r.den / r.num)
    if r.den ≤ r.num * tenTo (places - 1) then 2 - (places : Int) else 1 - (places : Int)

/-- The numbers that round to a given word: twice and four times the significand make room for
    the half steps at both ends. -/
structure RoundingInterval where
  lower : Ratio
  upper : Ratio
  closed : Bool

def RoundingInterval.of (x : Binary64) : RoundingInterval :=
  let m := x.significand
  let below := if m = twoTo 52 ∧ 1 < x.exponent then 4 * m - 1 else 4 * m - 2
  ⟨Binary64.scaled below (x.scale - 2), Binary64.scaled (4 * m + 2) (x.scale - 2), m % 2 == 0⟩

/-- Whether the point `count * 10 ^ power` lies in the interval. -/
def RoundingInterval.holds (interval : RoundingInterval) (count : Nat) (power : Int) : Bool :=
  let point : Ratio :=
    if power < 0 then ⟨count, tenTo power.natAbs⟩ else ⟨count * tenTo power.natAbs, 1⟩
  let low := interval.lower.num * point.den
  let high := interval.upper.num * point.den
  let atLow := point.num * interval.lower.den
  let atHigh := point.num * interval.upper.den
  if interval.closed then low ≤ atLow && atHigh ≤ high else low < atLow && atHigh < high

/-- The best point of one decimal grid for a word, if the grid has one that reads back. -/
def gridPoint? (x : Binary64) (interval : RoundingInterval) (power : Int) : Option DecimalNumber :=
  let r := x.magnitude
  let num := if power < 0 then r.num * tenTo power.natAbs else r.num
  let den := if power < 0 then r.den else r.den * tenTo power.natAbs
  let floor := num / den
  let downward := interval.holds floor power
  let upward := interval.holds (floor + 1) power
  if downward && upward then some ⟨Binary64.roundedQuotient num den, power⟩
  else if downward then some ⟨floor, power⟩
  else if upward then some ⟨floor + 1, power⟩
  else none

/-- Drop trailing zeros of the digits; `fuel` bounds their number. -/
def DecimalNumber.trimmed (fuel : Nat) (d : DecimalNumber) : DecimalNumber :=
  match fuel with
  | 0 => d
  | fuel + 1 =>
      if d.digits ≠ 0 ∧ d.digits % 10 = 0 then
        DecimalNumber.trimmed fuel ⟨d.digits / 10, d.power + 1⟩
      else d

/-- The shortest decimal that reads back as a finite word, its sign aside. -/
def shortest (x : Binary64) : DecimalNumber :=
  if x.isZero then ⟨0, 0⟩
  else
    let interval := RoundingInterval.of x
    let order := decimalOrder x.magnitude
    let grids := (List.range 17).map fun n : Nat => order - (n : Int) - 1
    match grids.findSome? (gridPoint? x interval) with
    | some point => point.trimmed 20
    | none => ⟨0, 0⟩

/-- The digits of a decimal with a point and at least one digit on both sides of it. -/
def DecimalNumber.positional (d : DecimalNumber) : String :=
  let digits := Nat.toDigits 10 d.digits
  let place := d.pointPlace
  if 0 ≤ d.power then
    String.ofList (digits ++ List.replicate d.power.toNat '0') ++ ".0"
  else if 0 < place then
    String.ofList (digits.take place.toNat) ++ "." ++ String.ofList (digits.drop place.toNat)
  else
    "0." ++ String.ofList (List.replicate place.natAbs '0' ++ digits)

/-- One digit before the point, the others behind it, then the signed exponent. -/
def DecimalNumber.scientific (d : DecimalNumber) : String :=
  let digits := Nat.toDigits 10 d.digits
  let exponent := d.pointPlace - 1
  let mantissa :=
    match digits with
    | [] => "0"
    | [digit] => String.ofList [digit]
    | digit :: rest => String.ofList (digit :: '.' :: rest)
  let sign := if exponent < 0 then "e-" else "e+"
  mantissa ++ sign ++ Nat.repr exponent.natAbs

/-- Text of a finite number: positional while the point stands within sixteen digits or
    at most four zeros follow it, scientific otherwise. -/
def floatText (x : Binary64) : String :=
  let d := shortest x
  let sign := if x.isNegative then "-" else ""
  let place := if x.isZero then 1 else d.pointPlace
  sign ++ if -5 < place ∧ place ≤ 16 then d.positional else d.scientific

/-- Text without exponent, for messages; the values that are not finite have words. -/
def plainFloatText (x : Binary64) : String :=
  if x.isNaN then "NaN"
  else
    let sign := if x.isNegative then "-" else ""
    sign ++ if x.isFinite then (shortest x).positional else "inf"

end ApiComponents.Decimal
