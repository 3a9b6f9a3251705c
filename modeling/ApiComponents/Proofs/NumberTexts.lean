import Mathlib.Data.List.TakeWhile
import ApiComponents.Json.Reader
import ApiComponents.Proofs.Traversal

/-! # Numbers in JSON texts

A number is read as far as its characters go, so it is read alike wherever it stands, as long as
nothing follows that could continue it.
-/

namespace ApiComponents.Json

open Number (NumberText ExponentText)

/-! ## Numbers in front of other text -/

/-- The text does not continue a number that ends in front of it. -/
def EndsNumber (tail : List Char) : Prop :=
  ∀ c ∈ tail.head?, c.isDigit = false ∧ c ≠ '.' ∧ c ≠ 'e' ∧ c ≠ 'E'

/-- The whole part of a number consists of all digits that stand there, and of one only if the
    first of them is a zero. -/
theorem wholeAt_eq_ok_iff {cursor after : Cursor} {digits : List Char} :
    wholeAt cursor = .ok (digits, after) ↔
      digitsAt cursor = (digits, after) ∧ digits ≠ [] ∧
        (digits.head? = some '0' → digits = ['0']) := by
  obtain ⟨place, text⟩ := cursor
  unfold wholeAt
  simp only
  split
  · next c rest =>
    have found : digitsAt ⟨place, '0' :: c :: rest⟩ =
        ('0' :: (c :: rest).takeWhile Char.isDigit,
          ⟨place + ((c :: rest).takeWhile Char.isDigit).length + 1,
            (c :: rest).drop ((c :: rest).takeWhile Char.isDigit).length⟩) := by
      simp [digitsAt, List.takeWhile_cons, Nat.add_assoc]
    rw [found]
    by_cases digit : c.isDigit = true
    · simp only [digit, if_true, reduceCtorEq, false_iff]
      rintro ⟨same, -, single⟩
      cases same
      simp [digit] at single
    · simp only [digit, if_false, Except.ok.injEq, Bool.false_eq_true, Cursor.next,
        List.takeWhile_cons, List.length_nil, List.drop_zero]
      constructor
      · intro same
        cases same
        exact ⟨rfl, List.cons_ne_nil _ _, fun _ => rfl⟩
      · exact And.left
  · next other =>
    cases found : digitsAt ⟨place, text⟩ with
    | mk first reached =>
        cases first with
        | nil =>
            simp only [reduceCtorEq, Prod.mk.injEq, false_iff]
            rintro ⟨⟨rfl, -⟩, some, -⟩
            exact some rfl
        | cons c rest =>
            have shape : text.takeWhile Char.isDigit = c :: rest := congrArg Prod.fst found
            simp only [Except.ok.injEq, Prod.mk.injEq]
            refine ⟨?_, And.left⟩
            rintro ⟨rfl, rfl⟩
            refine ⟨⟨rfl, rfl⟩, List.cons_ne_nil _ _, fun zero => ?_⟩
            cases zero
            -- the zero is the last character, or the other branch would have been taken
            match text, other, shape with
            | [_], _, shape =>
                rw [List.takeWhile_cons] at shape
                split at shape <;> cases shape
                rfl
            | d :: e :: text, other, shape =>
                rw [List.takeWhile_cons] at shape
                split at shape
                · cases shape
                  exact absurd rfl (other e text)
                · cases shape

theorem fractionAt_of_ne {cursor : Cursor} (other : ∀ rest, cursor.rest ≠ '.' :: rest) :
    fractionAt cursor = .ok (none, cursor) := by
  unfold fractionAt
  split
  · next rest point => exact absurd point (other rest)
  · rfl

theorem exponentAt_of_not {cursor : Cursor} (other : cursor.atExponent = false) :
    exponentAt cursor = .ok (none, cursor) := by
  simp [exponentAt, other]

/-- The digits of an exponent, behind its sign. -/
def exponentDigits (isNegative : Bool) (first : Cursor) :
    Except Break (Option ExponentText × Cursor) :=
  match digitsAt first with
  | ([], after) => .error (missingDigit after)
  | (digits, after) => .ok (some ⟨isNegative, digits⟩, after)

/-- The sign of an exponent, and where its digits begin. -/
def exponentSign (behind : Cursor) : Bool × Cursor :=
  match behind.rest with
  | '-' :: _ => (true, behind.next)
  | '+' :: _ => (false, behind.next)
  | _ => (false, behind)

theorem exponentAt_of_letter {cursor : Cursor} (letter : cursor.atExponent = true) :
    exponentAt cursor =
      exponentDigits (exponentSign cursor.next).1 (exponentSign cursor.next).2 := by
  simp only [exponentAt, letter, if_true]
  rfl

theorem exponentSign_append {text rest : List Char} (some : text ≠ []) {isNegative : Bool}
    {here stop : Nat} (read : exponentSign ⟨here, text⟩ = (isNegative, ⟨stop, rest⟩))
    (there : Nat) (tail : List Char) :
    ∃ stop, exponentSign ⟨there, text ++ tail⟩ = (isNegative, ⟨stop, rest ++ tail⟩) := by
  obtain ⟨c, text, rfl⟩ := List.exists_cons_of_ne_nil some
  rw [List.cons_append]
  by_cases minus : c = '-'
  · subst minus
    cases read
    exact ⟨_, rfl⟩
  · by_cases plus : c = '+'
    · subst plus
      cases read
      exact ⟨_, rfl⟩
    · simp only [exponentSign] at read ⊢
      split at read
      · next same => exact absurd (List.cons.inj same).1 minus
      · next same => exact absurd (List.cons.inj same).1 plus
      · cases read
        split
        · next same => exact absurd (List.cons.inj same).1 minus
        · next same => exact absurd (List.cons.inj same).1 plus
        · exact ⟨there, rfl⟩

section Tails

variable {tail : List Char} (ends : EndsNumber tail) {here : Nat} (there : Nat)
  {text rest : List Char}

include ends

theorem takeWhile_isDigit_append (text : List Char) :
    (text ++ tail).takeWhile Char.isDigit = text.takeWhile Char.isDigit := by
  induction text with
  | nil =>
      cases tail with
      | nil => rfl
      | cons c rest => exact List.takeWhile_cons_of_neg (by simp [(ends c rfl).1])
  | cons c text ih =>
      rw [List.cons_append, List.takeWhile_cons, List.takeWhile_cons, ih]

theorem digitsAt_append {digits : List Char} {stop : Nat}
    (read : digitsAt ⟨here, text⟩ = (digits, ⟨stop, rest⟩)) :
    ∃ stop, digitsAt ⟨there, text ++ tail⟩ = (digits, ⟨stop, rest ++ tail⟩) := by
  simp only [digitsAt, Prod.mk.injEq, Cursor.mk.injEq] at read
  obtain ⟨rfl, -, rfl⟩ := read
  have fewer := (List.takeWhile_prefix (p := Char.isDigit) (l := text)).length_le
  refine ⟨there + (text.takeWhile Char.isDigit).length, ?_⟩
  simp only [digitsAt, takeWhile_isDigit_append ends]
  rw [List.drop_append_of_le_length fewer]

theorem wholeAt_append {digits : List Char} {stop : Nat}
    (read : wholeAt ⟨here, text⟩ = .ok (digits, ⟨stop, rest⟩)) :
    ∃ stop, wholeAt ⟨there, text ++ tail⟩ = .ok (digits, ⟨stop, rest ++ tail⟩) := by
  obtain ⟨found, proper⟩ := wholeAt_eq_ok_iff.mp read
  obtain ⟨stop, found⟩ := digitsAt_append ends there found
  exact ⟨stop, wholeAt_eq_ok_iff.mpr ⟨found, proper⟩⟩

theorem fractionAt_append {digits : Option (List Char)} {stop : Nat}
    (read : fractionAt ⟨here, text⟩ = .ok (digits, ⟨stop, rest⟩)) :
    ∃ stop, fractionAt ⟨there, text ++ tail⟩ = .ok (digits, ⟨stop, rest ++ tail⟩) := by
  have absent : (∀ rest, text ≠ '.' :: rest) → (∀ rest, text ++ tail ≠ '.' :: rest) →
      ∃ stop, fractionAt ⟨there, text ++ tail⟩ = .ok (digits, ⟨stop, rest ++ tail⟩) := by
    intro before after
    rw [fractionAt_of_ne before] at read
    cases read
    exact ⟨there, fractionAt_of_ne after⟩
  cases text with
  | nil =>
      refine absent nofun fun rest point => ?_
      rw [List.nil_append] at point
      exact (ends '.' (by rw [point]; rfl)).2.1 rfl
  | cons c text =>
      by_cases point : c = '.'
      · subst point
        simp only [fractionAt, Cursor.next, List.cons_append] at read ⊢
        cases found : digitsAt ⟨here + '.'.utf8Size, text⟩ with
        | mk digits after =>
            rw [found] at read
            cases digits with
            | nil => cases read
            | cons first others =>
                cases read
                obtain ⟨stop, again⟩ := digitsAt_append ends (there + '.'.utf8Size) found
                exact ⟨stop, by rw [again]⟩
      · exact absent (fun rest same => point (List.cons.inj same).1)
          (fun rest same => point (List.cons.inj same).1)

theorem exponentDigits_append {isNegative : Bool} {exponent : Option ExponentText} {stop : Nat}
    (read : exponentDigits isNegative ⟨here, text⟩ = .ok (exponent, ⟨stop, rest⟩)) :
    ∃ stop, exponentDigits isNegative ⟨there, text ++ tail⟩ =
      .ok (exponent, ⟨stop, rest ++ tail⟩) := by
  unfold exponentDigits at read ⊢
  cases found : digitsAt ⟨here, text⟩ with
  | mk digits after =>
      rw [found] at read
      cases digits with
      | nil => cases read
      | cons first others =>
          cases read
          obtain ⟨stop, again⟩ := digitsAt_append ends there found
          exact ⟨stop, by rw [again]⟩

theorem exponentAt_append {exponent : Option ExponentText} {stop : Nat}
    (read : exponentAt ⟨here, text⟩ = .ok (exponent, ⟨stop, rest⟩)) :
    ∃ stop, exponentAt ⟨there, text ++ tail⟩ = .ok (exponent, ⟨stop, rest ++ tail⟩) := by
  cases text with
  | nil =>
      have none : Cursor.atExponent ⟨there, tail⟩ = false := by
        cases tail with
        | nil => rfl
        | cons c tail => simp [Cursor.atExponent, (ends c rfl).2.2]
      cases read
      exact ⟨there, exponentAt_of_not none⟩
  | cons c text =>
      cases letter : Cursor.atExponent ⟨here, c :: text⟩ with
      | false =>
          rw [exponentAt_of_not letter] at read
          cases read
          exact ⟨there, exponentAt_of_not letter⟩
      | true =>
          have again : Cursor.atExponent ⟨there, c :: text ++ tail⟩ = true := letter
          rw [exponentAt_of_letter letter] at read
          rw [exponentAt_of_letter again]
          have some : text ≠ [] := by
            rintro rfl
            cases read
          obtain ⟨place, sign⟩ := exponentSign_append some (by rfl) (there + c.utf8Size) tail
          simp only [Cursor.next, List.cons_append, sign] at read ⊢
          exact exponentDigits_append ends place read

theorem numberText_append {isNegative : Bool} {parsed : NumberText} {stop : Nat}
    (read : numberText isNegative ⟨here, text⟩ = .ok (parsed, ⟨stop, rest⟩)) :
    ∃ stop, numberText isNegative ⟨there, text ++ tail⟩ = .ok (parsed, ⟨stop, rest ++ tail⟩) := by
  obtain ⟨⟨whole, reached, behind⟩, first, read⟩ := bind_eq_ok_iff.mp read
  obtain ⟨⟨fraction, reached', behind'⟩, second, read⟩ := bind_eq_ok_iff.mp read
  obtain ⟨⟨exponent, reached'', behind''⟩, third, ends'⟩ := bind_eq_ok_iff.mp read
  cases ends'
  obtain ⟨place, first⟩ := wholeAt_append ends there first
  obtain ⟨place, second⟩ := fractionAt_append ends place second
  obtain ⟨place, third⟩ := exponentAt_append ends place third
  refine ⟨place, ?_⟩
  simp only [numberText, first, second, third, ok_bind]

end Tails

/-! ## Numbers that come back -/

/-- A number is read when the text behind its sign is, and stands for a number in range. -/
theorem numberAt_eq_ok_iff {cursor first after : Cursor} {isNegative : Bool} {value : Number}
    (sign : (cursor.rest.head? == some '-') = isNegative)
    (begins : (if isNegative then cursor.next else cursor) = first) :
    (∃ start stop, numberAt cursor = (.number (.ok value) start stop, some after)) ↔
      ∃ parsed : NumberText, numberText isNegative first = .ok (parsed, after) ∧
        parsed.value = .ok value := by
  unfold numberAt
  simp only [sign, begins]
  cases numberText isNegative first with
  | error parts => simp [brokenAt]
  | ok found =>
      obtain ⟨parsed, reached⟩ := found
      cases read : parsed.value with
      | error unread => simp [read, Except.mapError]
      | ok result => simp [read, Except.mapError, and_comm]

theorem numberAt_minus_iff {place : Nat} {text : List Char} {after : Cursor} {value : Number} :
    (∃ start stop, numberAt ⟨place, '-' :: text⟩ = (.number (.ok value) start stop, some after)) ↔
      ∃ parsed : NumberText, numberText true ⟨place + '-'.utf8Size, text⟩ = .ok (parsed, after) ∧
        parsed.value = .ok value :=
  numberAt_eq_ok_iff rfl rfl

theorem numberAt_plain_iff {c : Char} (plain : c ≠ '-') {place : Nat} {text : List Char}
    {after : Cursor} {value : Number} :
    (∃ start stop, numberAt ⟨place, c :: text⟩ = (.number (.ok value) start stop, some after)) ↔
      ∃ parsed : NumberText, numberText false ⟨place, c :: text⟩ = .ok (parsed, after) ∧
        parsed.value = .ok value := by
  have sign : (some c == some '-') = false := by simpa using plain
  exact numberAt_eq_ok_iff sign rfl

/-- The reader makes the number again of its text. -/
def Number.Returns (value : Number) : Prop :=
  ∃ start stop after,
    numberAt ⟨0, value.text.toList⟩ = (.number (.ok value) start stop, some ⟨after, []⟩)

theorem exists_digit_of_numberText {isNegative : Bool} {parsed : NumberText} {place : Nat}
    {text : List Char} {after : Cursor}
    (read : numberText isNegative ⟨place, text⟩ = .ok (parsed, after)) :
    ∃ first rest, text = first :: rest ∧ first.isDigit = true := by
  obtain ⟨⟨digits, behind⟩, whole, -⟩ := bind_eq_ok_iff.mp read
  obtain ⟨taken, some, -⟩ := wholeAt_eq_ok_iff.mp whole
  have shape : text.takeWhile Char.isDigit = digits := congrArg Prod.fst taken
  cases text with
  | nil => exact absurd shape.symm some
  | cons first rest =>
      rw [List.takeWhile_cons] at shape
      split at shape
      · next digit => exact ⟨first, rest, rfl, digit⟩
      · exact absurd shape.symm some

theorem numberAt_append {tail : List Char} (ends : EndsNumber tail) {c : Char}
    {text rest : List Char} {here start stop place : Nat} (there : Nat) {value : Number}
    (read : numberAt ⟨here, c :: text⟩ = (.number (.ok value) start stop, some ⟨place, rest⟩)) :
    ∃ start stop place, numberAt ⟨there, c :: text ++ tail⟩ =
      (.number (.ok value) start stop, some ⟨place, rest ++ tail⟩) := by
  by_cases minus : c = '-'
  · subst minus
    obtain ⟨parsed, found, means⟩ := numberAt_minus_iff.mp ⟨start, stop, read⟩
    obtain ⟨place, again⟩ := numberText_append ends (there + '-'.utf8Size) found
    obtain ⟨start, stop, read⟩ := numberAt_minus_iff.mpr ⟨parsed, again, means⟩
    exact ⟨start, stop, place, read⟩
  · obtain ⟨parsed, found, means⟩ := (numberAt_plain_iff minus).mp ⟨start, stop, read⟩
    obtain ⟨place, again⟩ := numberText_append ends there found
    obtain ⟨start, stop, read⟩ := (numberAt_plain_iff minus).mpr ⟨parsed, again, means⟩
    exact ⟨start, stop, place, read⟩

/-- The text of a number that comes back begins with a sign or a digit. -/
theorem Number.Returns.exists_first {value : Number} (returns : value.Returns) :
    ∃ first rest, value.text.toList = first :: rest ∧
      (first = '-' ∨ first.isDigit = true) := by
  obtain ⟨start, stop, after, read⟩ := returns
  cases text : value.text.toList with
  | nil =>
      rw [text] at read
      cases read
  | cons first rest =>
      rw [text] at read
      refine ⟨first, rest, rfl, or_iff_not_imp_left.mpr fun minus => ?_⟩
      obtain ⟨parsed, found, -⟩ := (numberAt_plain_iff minus).mp ⟨start, stop, read⟩
      obtain ⟨digit, others, same, isDigit⟩ := exists_digit_of_numberText found
      cases same
      exact isDigit

/-! ## Whole numbers -/

/-- A decimal text that begins with a zero is the text of zero. -/
theorem toDigits_of_head_zero {value : Nat} (zero : (Nat.toDigits 10 value).head? = some '0') :
    Nat.toDigits 10 value = ['0'] := by
  induction value using Nat.base_induction 10 (by decide) with
  | single value small =>
      rw [Nat.toDigits_of_lt_base small] at zero ⊢
      exact congrArg (fun c => [c]) (Option.some.inj zero)
  | digit front last small some ih =>
      rw [← Nat.toDigits_append_toDigits (by decide) some small,
        List.head?_append_of_ne_nil _ Nat.toDigits_ne_nil] at zero
      have digits := Nat.ofDigitChars_ten_toDigits (n := front)
      rw [ih zero] at digits
      exact absurd digits (Nat.ne_of_lt some)

theorem numberText_toDigits (isNegative : Bool) (place value : Nat) :
    ∃ stop, numberText isNegative ⟨place, Nat.toDigits 10 value⟩ =
      .ok (⟨isNegative, Nat.toDigits 10 value, none, none⟩, ⟨stop, []⟩) := by
  have all : (Nat.toDigits 10 value).takeWhile Char.isDigit = Nat.toDigits 10 value :=
    List.takeWhile_eq_self_iff.mpr fun c inside =>
      Nat.isDigit_of_mem_toDigits (by decide) (by decide) inside
  have digits : digitsAt ⟨place, Nat.toDigits 10 value⟩ =
      (Nat.toDigits 10 value, ⟨place + (Nat.toDigits 10 value).length, []⟩) := by
    simp only [digitsAt, all, List.drop_length]
  have whole := wholeAt_eq_ok_iff.mpr ⟨digits, Nat.toDigits_ne_nil, toDigits_of_head_zero⟩
  refine ⟨place + (Nat.toDigits 10 value).length, ?_⟩
  rw [numberText, whole]
  rfl

namespace Number

/-- Digits are absorbed one by one as long as the number that they make fits. -/
theorem absorb_of_le {digits : List Char} {significand : Nat}
    (fits : Nat.ofDigitChars 10 digits significand ≤ wordMax) :
    absorb significand digits = (Nat.ofDigitChars 10 digits significand, []) := by
  induction digits generalizing significand with
  | nil => rw [Nat.ofDigitChars_nil, absorb]
  | cons c digits ih =>
      have extended :
          significand * 10 + digitValue c = 10 * significand + (c.toNat - '0'.toNat) := by
        rw [digitValue, Nat.mul_comm]
      rw [Nat.ofDigitChars_cons, ← extended] at fits ⊢
      have small : significand * 10 + digitValue c ≤ wordMax := by
        rw [Nat.ofDigitChars_eq_ofDigitChars_zero] at fits
        have grows := Nat.le_mul_of_pos_left (significand * 10 + digitValue c)
          (Nat.pow_pos (n := digits.length) (show 0 < 10 by decide))
        omega
      rw [absorb, if_pos small, ih fits]

theorem absorb_toDigits {value : Nat} (fits : value ≤ wordMax) :
    absorb 0 (Nat.toDigits 10 value) = (value, []) := by
  have digits := Nat.ofDigitChars_ten_toDigits (n := value)
  rw [absorb_of_le (digits.symm ▸ fits), digits]

theorem returns_natural {value : Nat} (fits : value ≤ wordMax) : (natural value).Returns := by
  have text : (natural value).text.toList = Nat.toDigits 10 value := Nat.toList_repr
  obtain ⟨after, read⟩ := numberText_toDigits false 0 value
  obtain ⟨first, rest, shape, digit⟩ := exists_digit_of_numberText read
  have plain : first ≠ '-' := by
    rintro rfl
    cases digit
  have means : NumberText.value ⟨false, Nat.toDigits 10 value, none, none⟩ =
      .ok (natural value) := by
    simp [NumberText.value, absorb_toDigits fits]
  rw [shape] at read means
  obtain ⟨start, stop, read⟩ := (numberAt_plain_iff plain).mpr ⟨_, read, means⟩
  exact ⟨start, stop, after, by rw [text, shape, read]⟩

theorem returns_negative {below : Nat} (fits : below < Decimal.twoTo 63) :
    (negative below).Returns := by
  have text : (negative below).text.toList = '-' :: Nat.toDigits 10 (below + 1) := by
    simp [Number.text]
  have bound : below + 1 ≤ Decimal.twoTo 63 := fits
  have fitsWord : below + 1 ≤ wordMax := Nat.le_trans bound (by decide)
  obtain ⟨after, read⟩ := numberText_toDigits true (0 + '-'.utf8Size) (below + 1)
  have means : NumberText.value ⟨true, Nat.toDigits 10 (below + 1), none, none⟩ =
      .ok (negative below) := by
    simp [NumberText.value, absorb_toDigits fitsWord, bound]
  obtain ⟨start, stop, read⟩ := numberAt_minus_iff.mpr ⟨_, read, means⟩
  exact ⟨start, stop, after, by rw [text, read]⟩

end Number

end ApiComponents.Json
