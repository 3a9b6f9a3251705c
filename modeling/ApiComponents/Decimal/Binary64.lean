/-! # Binary64 words

Floating-point numbers are kept as their 64-bit words, so that equality on them is decidable
and every operation is arithmetic on natural numbers. A finite word stands for
`significand * 2 ^ scale`, with a sign.
-/

namespace ApiComponents.Decimal

structure Binary64 where
  word : UInt64
  deriving Repr, DecidableEq

/-- A ratio of natural numbers, not necessarily in lowest terms. -/
structure Ratio where
  num : Nat
  den : Nat
  deriving Repr, DecidableEq

def twoTo (exponent : Nat) : Nat := Nat.pow 2 exponent

def tenTo (exponent : Nat) : Nat := Nat.pow 10 exponent

namespace Binary64

def infinity : Binary64 := ⟨0x7FF0000000000000⟩

/-- A word that is not a number. -/
def nan : Binary64 := ⟨0x7FF8000000000000⟩

def zero : Binary64 := ⟨0⟩

def negate (x : Binary64) : Binary64 := ⟨x.word ^^^ 0x8000000000000000⟩

def isNegative (x : Binary64) : Bool := x.word.toNat ≥ twoTo 63

def exponent (x : Binary64) : Nat := x.word.toNat / twoTo 52 % twoTo 11

def fraction (x : Binary64) : Nat := x.word.toNat % twoTo 52

def isFinite (x : Binary64) : Bool := x.exponent != 2047

def isNaN (x : Binary64) : Bool := x.exponent == 2047 && x.fraction != 0

def isZero (x : Binary64) : Bool := x.exponent == 0 && x.fraction == 0

def significand (x : Binary64) : Nat :=
  if x.exponent = 0 then x.fraction else twoTo 52 + x.fraction

def scale (x : Binary64) : Int :=
  if x.exponent = 0 then -1074 else (x.exponent : Int) - 1075

/-- The number `count * 2 ^ scale` as a ratio. -/
def scaled (count : Nat) (scale : Int) : Ratio :=
  if scale < 0 then ⟨count, twoTo scale.natAbs⟩ else ⟨count * twoTo scale.natAbs, 1⟩

def magnitude (x : Binary64) : Ratio := scaled x.significand x.scale

/-- The quotient rounded to the nearest natural number, a half to the even neighbour. -/
def roundedQuotient (num den : Nat) : Nat :=
  let floor := num / den
  let rest := num % den
  if 2 * rest < den then floor
  else if den < 2 * rest then floor + 1
  else floor + floor % 2

/-- The greatest `e` with `2 ^ e ≤ r`, for a positive ratio. -/
def binaryOrder (r : Ratio) : Int :=
  let guess : Int := (Nat.log2 r.num : Int) - (Nat.log2 r.den : Int)
  let reached :=
    if guess < 0 then r.den ≤ r.num * twoTo guess.natAbs else r.den * twoTo guess.natAbs ≤ r.num
  if reached then guess else guess - 1

/-- The binary64 number nearest to a ratio, a tie to the even significand. Ratios beyond the
    greatest finite number give infinity. -/
def nearest (r : Ratio) : Binary64 :=
  if r.num = 0 then zero
  else
    let scale := max (-1074) (binaryOrder r - 52)
    let count :=
      if scale < 0 then roundedQuotient (r.num * twoTo scale.natAbs) r.den
      else roundedQuotient r.num (r.den * twoTo scale.natAbs)
    let word := (scale + 1074).toNat * twoTo 52 + count
    if word < 0x7FF0000000000000 then ⟨UInt64.ofNat word⟩ else infinity

/-- The nearest binary64 number to `digits * 10 ^ power`. -/
def ofDecimal (digits : Nat) (power : Int) : Binary64 :=
  if power < 0 then nearest ⟨digits, tenTo power.natAbs⟩
  else nearest ⟨digits * tenTo power.natAbs, 1⟩

/-- The rounded product of two numbers that are finite and not negative. -/
def times (x y : Binary64) : Binary64 :=
  nearest ⟨x.magnitude.num * y.magnitude.num, x.magnitude.den * y.magnitude.den⟩

/-- The rounded quotient of two numbers that are finite and not negative. -/
def dividedBy (x y : Binary64) : Binary64 :=
  nearest ⟨x.magnitude.num * y.magnitude.den, x.magnitude.den * y.magnitude.num⟩

/-- Numerical equality: both zeros are equal and a NaN equals nothing. -/
def sameNumber (x y : Binary64) : Bool :=
  !x.isNaN && !y.isNaN && (x == y || (x.isZero && y.isZero))

end Binary64

end ApiComponents.Decimal
