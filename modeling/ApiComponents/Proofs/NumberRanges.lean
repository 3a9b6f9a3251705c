import ApiComponents.Proofs.NumberTexts

/-! # The numbers of texts are in range

A whole number of a text fits 64 bits, or it is read as one with a fraction. The others are finite:
a decimal text is scaled by one product, which is checked, or by quotients. Quotients by powers of
ten stay small, because what is divided has at most 64 bits and rounding adds little to it.
-/

namespace ApiComponents.Decimal

/-! ## Powers of two -/

theorem twoTo_pos (exponent : Nat) : 0 < twoTo exponent := Nat.two_pow_pos exponent

theorem twoTo_add (m n : Nat) : twoTo (m + n) = twoTo m * twoTo n := Nat.pow_add 2 m n

theorem twoTo_le {m n : Nat} (le : m ≤ n) : twoTo m ≤ twoTo n :=
  Nat.pow_le_pow_right (by decide) le

theorem lt_of_twoTo_lt {m n : Nat} (less : twoTo m < twoTo n) : m < n :=
  (Nat.pow_lt_pow_iff_right (by decide)).mp less

theorem twoTo_log2_le {n : Nat} (some : n ≠ 0) : twoTo n.log2 ≤ n := Nat.log2_self_le some

theorem lt_twoTo_log2 (n : Nat) : n < twoTo (n.log2 + 1) := Nat.lt_log2_self

namespace Binary64

/-! ## Rounding -/

/-- Rounding does not pass a power of two. -/
theorem roundedQuotient_le {num den k : Nat} (below : num < den * twoTo k) :
    roundedQuotient num den ≤ twoTo k := by
  have floor : num / den < twoTo k := Nat.div_lt_of_lt_mul below
  unfold roundedQuotient
  simp only
  split
  · omega
  · split <;> omega

/-- The order of a ratio is that of its parts, up to one. -/
theorem binaryOrder_bounds {r : Ratio} {k : Nat} (some : r.num ≠ 0)
    (bounded : r.num ≤ r.den * twoTo k) :
    (Nat.log2 r.num : Int) - Nat.log2 r.den - 1 ≤ binaryOrder r ∧ binaryOrder r ≤ k := by
  have upper : twoTo r.num.log2 < twoTo (r.den.log2 + 1 + k) := by
    calc twoTo r.num.log2 ≤ r.num := twoTo_log2_le some
      _ ≤ r.den * twoTo k := bounded
      _ < twoTo (r.den.log2 + 1) * twoTo k :=
        Nat.mul_lt_mul_of_pos_right (lt_twoTo_log2 r.den) (twoTo_pos k)
      _ = twoTo (r.den.log2 + 1 + k) := (twoTo_add _ k).symm
  have fewer := lt_of_twoTo_lt upper
  unfold binaryOrder
  simp only
  constructor <;> split <;> omega

/-- The significand of a rounded ratio has at most one bit more than it should. -/
theorem count_le {r : Ratio} {scale : Int} (proper : r.den ≠ 0)
    (near : (Nat.log2 r.num : Int) - Nat.log2 r.den - 53 ≤ scale) :
    (if scale < 0 then roundedQuotient (r.num * twoTo scale.natAbs) r.den
      else roundedQuotient r.num (r.den * twoTo scale.natAbs)) ≤ twoTo 54 := by
  split
  · next isNegative =>
    refine roundedQuotient_le ?_
    calc r.num * twoTo scale.natAbs
        < twoTo (r.num.log2 + 1) * twoTo scale.natAbs :=
          Nat.mul_lt_mul_of_pos_right (lt_twoTo_log2 r.num) (twoTo_pos _)
      _ = twoTo (r.num.log2 + 1 + scale.natAbs) := (twoTo_add _ _).symm
      _ ≤ twoTo (r.den.log2 + 54) := twoTo_le (by omega)
      _ = twoTo r.den.log2 * twoTo 54 := twoTo_add _ _
      _ ≤ r.den * twoTo 54 := Nat.mul_le_mul_right _ (twoTo_log2_le proper)
  · next notNegative =>
    refine roundedQuotient_le ?_
    calc r.num < twoTo (r.num.log2 + 1) := lt_twoTo_log2 r.num
      _ ≤ twoTo (r.den.log2 + scale.natAbs + 54) := twoTo_le (by omega)
      _ = twoTo r.den.log2 * twoTo scale.natAbs * twoTo 54 := by rw [twoTo_add, twoTo_add]
      _ ≤ r.den * twoTo scale.natAbs * twoTo 54 :=
        Nat.mul_le_mul_right _ (Nat.mul_le_mul_right _ (twoTo_log2_le proper))

theorem toNat_ofNat_le (n : Nat) : (UInt64.ofNat n).toNat ≤ n := by
  rw [UInt64.toNat_ofNat']
  exact Nat.mod_le _ _

/-- An exponent and a significand that is hardly too long make a word with a small exponent. -/
theorem sum_le {exponent count top : Nat} (few : exponent + 4 ≤ top) (bounded : count ≤ twoTo 54) :
    exponent * twoTo 52 + count ≤ top * twoTo 52 := by
  have four : twoTo 54 = 4 * twoTo 52 := by decide
  calc exponent * twoTo 52 + count ≤ exponent * twoTo 52 + 4 * twoTo 52 :=
        Nat.add_le_add_left (Nat.le_trans bounded (Nat.le_of_eq four)) _
    _ = (exponent + 4) * twoTo 52 := (Nat.add_mul _ _ _).symm
    _ ≤ top * twoTo 52 := Nat.mul_le_mul_right _ few

theorem sum_lt {sum top : Nat} (bounded : sum ≤ top * twoTo 52) (fits : top < 2047) :
    sum < 0x7FF0000000000000 := by
  have limit : (0x7FF0000000000000 : Nat) = 2047 * twoTo 52 := by decide
  have less : top * twoTo 52 < 2047 * twoTo 52 :=
    Nat.mul_lt_mul_of_pos_right fits (twoTo_pos 52)
  exact Nat.lt_of_lt_of_eq (Nat.lt_of_le_of_lt bounded less) limit.symm

/-- A ratio up to a power of two is rounded to a word with a small exponent. -/
theorem word_nearest_le {r : Ratio} {k : Nat} (proper : r.den ≠ 0) (small : k ≤ 1000)
    (bounded : r.num ≤ r.den * twoTo k) :
    (nearest r).word.toNat ≤ (k + 1026) * twoTo 52 := by
  generalize made : nearest r = x
  unfold nearest at made
  split at made
  · cases made
    exact Nat.zero_le _
  · next some =>
    obtain ⟨least, most⟩ := binaryOrder_bounds some bounded
    extract_lets scale count word at made
    have above : binaryOrder r - 52 ≤ scale := Int.le_max_right _ _
    have below : scale ≤ k - 52 := Int.max_le.mpr ⟨by omega, by omega⟩
    have sum : word ≤ (k + 1026) * twoTo 52 := sum_le (by omega) (count_le proper (by omega))
    rw [if_pos (sum_lt sum (by omega))] at made
    cases made
    exact Nat.le_trans (toNat_ofNat_le word) sum

/-! ## Magnitudes -/

theorem exponent_le {x : Binary64} {top : Nat} (small : x.word.toNat ≤ top * twoTo 52) :
    x.exponent ≤ top :=
  Nat.le_trans (Nat.mod_le _ _) (Nat.div_le_of_le_mul (Nat.mul_comm _ _ ▸ small))

theorem isFinite_of_word_le {x : Binary64} {top : Nat} (small : x.word.toNat ≤ top * twoTo 52)
    (fits : top < 2047) : x.isFinite = true :=
  bne_iff_ne.mpr (Nat.ne_of_lt (Nat.lt_of_le_of_lt (exponent_le small) fits))

theorem den_magnitude_ne_zero (x : Binary64) : x.magnitude.den ≠ 0 := by
  unfold magnitude scaled
  split
  · exact Nat.ne_of_gt (twoTo_pos _)
  · exact Nat.one_ne_zero

theorem significand_le (x : Binary64) : x.significand ≤ twoTo 53 := by
  have rest : x.fraction < twoTo 52 := Nat.mod_lt _ (twoTo_pos 52)
  have double : twoTo 53 = twoTo 52 + twoTo 52 := by decide
  unfold significand
  split <;> omega

/-- A word with a small exponent stands for a number up to a power of two. -/
theorem magnitude_le {x : Binary64} {k : Nat} (small : x.word.toNat ≤ (k + 1075) * twoTo 52) :
    x.magnitude.num ≤ x.magnitude.den * twoTo (k + 53) := by
  have exponent := exponent_le small
  have scaleLe : x.scale ≤ k := by
    unfold scale
    split <;> omega
  unfold magnitude scaled
  split
  · calc x.significand ≤ twoTo 53 := x.significand_le
      _ ≤ twoTo (k + 53) := twoTo_le (Nat.le_add_left 53 k)
      _ ≤ twoTo x.scale.natAbs * twoTo (k + 53) := Nat.le_mul_of_pos_left _ (twoTo_pos _)
  · calc x.significand * twoTo x.scale.natAbs ≤ twoTo 53 * twoTo k :=
        Nat.mul_le_mul x.significand_le (twoTo_le (by omega))
      _ = 1 * twoTo (k + 53) := by rw [Nat.one_mul, twoTo_add, Nat.mul_comm]

/-- Dividing by a number from a power of two on takes the power off the bound. -/
theorem word_dividedBy_le {x y : Binary64} {k less : Nat} (small : k ≤ 1000)
    (dividend : x.magnitude.num ≤ x.magnitude.den * twoTo (k + less))
    (divisor : y.magnitude.den * twoTo less ≤ y.magnitude.num) :
    (x.dividedBy y).word.toNat ≤ (k + 1026) * twoTo 52 := by
  have positive : 0 < y.magnitude.den * twoTo less :=
    Nat.mul_pos (Nat.pos_of_ne_zero y.den_magnitude_ne_zero) (twoTo_pos less)
  have some : y.magnitude.num ≠ 0 := Nat.ne_of_gt (Nat.lt_of_lt_of_le positive divisor)
  have bounded : x.magnitude.num * y.magnitude.den ≤
      x.magnitude.den * y.magnitude.num * twoTo k := by
    calc x.magnitude.num * y.magnitude.den
        ≤ x.magnitude.den * twoTo (k + less) * y.magnitude.den := Nat.mul_le_mul_right _ dividend
      _ = x.magnitude.den * (y.magnitude.den * twoTo less) * twoTo k := by
        rw [twoTo_add]
        simp only [Nat.mul_assoc, Nat.mul_comm, Nat.mul_left_comm]
      _ ≤ x.magnitude.den * y.magnitude.num * twoTo k :=
        Nat.mul_le_mul_right _ (Nat.mul_le_mul_left _ divisor)
  exact word_nearest_le (Nat.mul_ne_zero x.den_magnitude_ne_zero some) small bounded

/-- The sign bit is no part of the exponent. -/
theorem exponent_flip (n : Nat) :
    (n ^^^ twoTo 63) / twoTo 52 % twoTo 11 = n / twoTo 52 % twoTo 11 := by
  have quotient : (n ^^^ twoTo 63) / twoTo 52 = n / twoTo 52 ^^^ twoTo 11 := Nat.xor_div_two_pow
  have rest : (n / twoTo 52 ^^^ twoTo 11) % twoTo 11 = n / twoTo 52 % twoTo 11 ^^^ 0 :=
    Nat.xor_mod_two_pow
  rw [quotient, rest, Nat.xor_zero]

theorem isFinite_negate (x : Binary64) : x.negate.isFinite = x.isFinite := by
  have flipped : x.negate.word.toNat = x.word.toNat ^^^ twoTo 63 := UInt64.toNat_xor _ _
  rw [isFinite, isFinite, exponent, exponent, flipped, exponent_flip]

end Binary64

end ApiComponents.Decimal

namespace ApiComponents.Json.Number

open Decimal (Binary64)

/-! ## Scaling -/

/-- The powers of ten that one quotient can reach are at least one. -/
theorem one_le_tenTo : ∀ power < 309,
    (Binary64.ofDecimal 1 (power : Nat)).magnitude.den ≤
      (Binary64.ofDecimal 1 (power : Nat)).magnitude.num := by
  decide +kernel

/-- The greatest of them takes four bits at least. -/
theorem sixteen_le_tenTo_308 : (Binary64.ofDecimal 1 308).magnitude.den * Decimal.twoTo 4 ≤
    (Binary64.ofDecimal 1 308).magnitude.num := by
  decide +kernel

theorem word_ofDecimal_le {significand : Nat} (fits : significand ≤ wordMax) :
    (Binary64.ofDecimal significand 0).word.toNat ≤ (15 + 1075) * Decimal.twoTo 52 := by
  have whole : Binary64.ofDecimal significand 0 = .nearest ⟨significand * 1, 1⟩ :=
    if_neg (Int.lt_irrefl 0)
  have bounded : significand * 1 ≤ 1 * Decimal.twoTo 64 := by
    rw [Nat.mul_one, Nat.one_mul]
    exact Nat.le_trans fits (Nat.sub_le _ 1)
  rw [whole]
  exact Binary64.word_nearest_le Nat.one_ne_zero (by decide) bounded

/-- A number of 64 bits stays small however often it is divided by powers of ten. -/
theorem isFinite_lowered (fuel : Nat) {value : Binary64}
    (small : value.word.toNat ≤ (15 + 1075) * Decimal.twoTo 52) (power : Nat) :
    (lowered fuel value power).isFinite = true := by
  induction fuel generalizing value power with
  | zero => exact Binary64.isFinite_of_word_le small (by decide)
  | succ fuel ih =>
      have dividend : value.magnitude.num ≤ value.magnitude.den * Decimal.twoTo 68 :=
        Binary64.magnitude_le small
      rw [lowered]
      split
      · next reached =>
        have divisor : (Binary64.ofDecimal 1 power).magnitude.den * Decimal.twoTo 0 ≤
            (Binary64.ofDecimal 1 power).magnitude.num := by
          rw [show Decimal.twoTo 0 = 1 from rfl, Nat.mul_one]
          exact one_le_tenTo power (Nat.lt_succ_of_le reached)
        exact Binary64.isFinite_of_word_le
          (Binary64.word_dividedBy_le (by decide) dividend divisor) (by decide)
      · split
        · exact Binary64.isFinite_of_word_le small (by decide)
        · exact ih (Binary64.word_dividedBy_le (by decide) dividend sixteen_le_tenTo_308) _

theorem isFinite_scaled? {significand : Nat} (fits : significand ≤ wordMax) {power : Int}
    {value : Binary64} (made : scaled? significand power = some value) :
    value.isFinite = true := by
  have small := word_ofDecimal_le fits
  unfold scaled? at made
  simp only at made
  split_ifs at made with lower upper finite
  · cases made
    exact isFinite_lowered _ small _
  · cases made
    exact finite
  · cases made
    exact Binary64.isFinite_of_word_le small (by decide)

/-! ## Numbers in range -/

/-- A whole number fits 64 bits, any other number is finite. -/
def InRange : Number → Prop
  | natural value => value ≤ wordMax
  | negative below => below < Decimal.twoTo 63
  | float value => value.isFinite = true

/-- A number with a fraction or an exponent comes back from its text. -/
def FloatReturns : Number → Prop
  | float value => (float value).Returns
  | _ => True

/-- Of the numbers that a text can have, only those with a fraction or an exponent may change when
    they are written and read. -/
theorem returns_of_inRange {value : Number} (inRange : value.InRange)
    (floats : value.FloatReturns) : value.Returns := by
  cases value with
  | natural value => exact returns_natural inRange
  | negative below => exact returns_negative inRange
  | float value => exact floats

theorem absorb_le {significand : Nat} (fits : significand ≤ wordMax) (digits : List Char) :
    (absorb significand digits).1 ≤ wordMax := by
  induction digits generalizing significand with
  | nil => exact fits
  | cons c digits ih =>
      rw [absorb]
      split
      · next more => exact ih more
      · exact fits

/-- A sign does not change whether a number is finite. -/
theorem inRange_signed (isNegative : Bool) {value : Binary64} (finite : value.isFinite = true) :
    (float (if isNegative then value.negate else value)).InRange := by
  cases isNegative with
  | true => exact (Binary64.isFinite_negate value).trans finite
  | false => exact finite

theorem inRange_signedFloat {isNegative : Bool} {significand : Nat} (fits : significand ≤ wordMax)
    {power : Int} {value : Number}
    (made : signedFloat isNegative significand power = .ok value) : value.InRange := by
  unfold signedFloat at made
  split at made
  · next scaled =>
    cases made
    exact inRange_signed isNegative (isFinite_scaled? fits scaled)
  · cases made

/-- Whatever number a text stands for is in range. -/
theorem inRange_value {text : NumberText} {value : Number} (made : text.value = .ok value) :
    value.InRange := by
  obtain ⟨isNegative, whole, fraction, exponent⟩ := text
  have fits := absorb_le (Nat.zero_le wordMax) whole
  have fitsToo := fun digits => absorb_le fits digits
  cases exponent with
  | some exponent =>
      simp only [NumberText.value] at made
      cases read : exponentValue 0 exponent.digits with
      | ok power =>
          rw [read] at made
          cases fraction with
          | none => exact inRange_signedFloat fits made
          | some digits => exact inRange_signedFloat (fitsToo digits) made
      | error unread =>
          rw [read] at made
          simp only at made
          split_ifs at made with large signed
          · cases made
            exact inRange_signed true rfl
          · cases made
            exact inRange_signed false rfl
  | none =>
      cases fraction with
      | some digits => exact inRange_signedFloat (fitsToo digits) made
      | none =>
          simp only [NumberText.value, Option.isSome_none, Bool.false_eq_true, false_or] at made
          split_ifs at made with beyond signed small
          · exact inRange_signedFloat fits made
          · cases made
            show _ < _
            omega
          · cases made
            exact inRange_signed true
              (Binary64.isFinite_of_word_le (word_ofDecimal_le fits) (by decide))
          · cases made
            exact fits

end ApiComponents.Json.Number
