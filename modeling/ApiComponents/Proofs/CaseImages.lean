import ApiComponents.Text.Alphanumeric
import ApiComponents.Text.LetterCase

/-! # Images under the case maps

The case maps never lead from a letter or digit to ASCII punctuation. For ASCII characters this is
checked one by one, for all others entry by entry of the tables.
-/

namespace ApiComponents.Text

/-- A character that is a letter or digit if it is ASCII at all. -/
def Unpunctuated (c : Char) : Prop :=
  c.toNat < 0x80 → c.isAlphanum = true

instance (c : Char) : Decidable (Unpunctuated c) :=
  inferInstanceAs (Decidable (c.toNat < 0x80 → c.isAlphanum = true))

theorem Unpunctuated.ne_slash {c : Char} (plain : Unpunctuated c) : c ≠ '/' := by
  rintro rfl
  exact absurd plain (by decide)

theorem Unpunctuated.ne_tilde {c : Char} (plain : Unpunctuated c) : c ≠ '~' := by
  rintro rfl
  exact absurd plain (by decide)

theorem unpunctuated_of_isAlphanumeric {c : Char} (alphanumeric : isAlphanumeric c = true) :
    Unpunctuated c := by
  intro ascii
  rwa [isAlphanumeric, if_pos ascii] at alphanumeric

theorem forall_ascii {P : Char → Prop} (each : ∀ n < 0x80, P (Char.ofNat n)) {c : Char}
    (ascii : c.toNat < 0x80) : P c :=
  Char.ofNat_toNat c ▸ each c.toNat ascii

theorem isAlphanum_toUpper {c : Char} (ascii : c.toNat < 0x80) (plain : c.isAlphanum = true) :
    c.toUpper.isAlphanum = true :=
  forall_ascii (P := fun c => c.isAlphanum = true → c.toUpper.isAlphanum = true)
    (by decide +kernel) ascii plain

theorem isAlphanum_toLower {c : Char} (ascii : c.toNat < 0x80) (plain : c.isAlphanum = true) :
    c.toLower.isAlphanum = true :=
  forall_ascii (P := fun c => c.isAlphanum = true → c.toLower.isAlphanum = true)
    (by decide +kernel) ascii plain

/-- All images of a run are characters beyond ASCII, or its one image is a letter or digit. -/
def Shift.Harmless (shift : Shift) : Prop :=
  let last := shift.run.last - shift.run.first + shift.target
  0x80 ≤ shift.target ∧ (last < 0xD800 ∨ 0xDFFF < shift.target ∧ last < 0x110000) ∨
    shift.run.first = shift.run.last ∧ (Char.ofNat shift.target).isAlphanum = true

instance (shift : Shift) : Decidable shift.Harmless :=
  inferInstanceAs (Decidable (_ ∨ _))

theorem upperShifts_harmless : ∀ shift ∈ upperShifts.toList, shift.Harmless := by
  decide +kernel

theorem lowerShifts_harmless : ∀ shift ∈ lowerShifts.toList, shift.Harmless := by
  decide +kernel

theorem upperExpansions_unpunctuated :
    ∀ entry ∈ upperExpansions.toList, ∀ point ∈ entry.2, Unpunctuated (Char.ofNat point) := by
  decide +kernel

theorem unpunctuated_ofNat {point : Nat} (beyond : 0x80 ≤ point) (valid : point.isValidChar) :
    Unpunctuated (Char.ofNat point) := by
  intro ascii
  have same : (Char.ofNat point).toNat = point := by
    unfold Char.ofNat
    rw [dif_pos valid]
    rfl
  omega

theorem Shift.Harmless.unpunctuated {shift : Shift} (harmless : shift.Harmless) {point : Nat}
    (inside : shift.run.contains point = true) :
    Unpunctuated (Char.ofNat (point - shift.run.first + shift.target)) := by
  simp only [Run.contains, Bool.and_eq_true, decide_eq_true_eq] at inside
  obtain ⟨⟨least, greatest⟩, -⟩ := inside
  rcases harmless with ⟨beyond, range⟩ | ⟨single, letter⟩
  · refine unpunctuated_ofNat (by omega) ?_
    rcases range with low | ⟨high, top⟩
    · exact .inl (by omega)
    · exact .inr ⟨by omega, by omega⟩
  · have only : point - shift.run.first + shift.target = shift.target := by omega
    intro _
    rw [only]
    exact letter

theorem unpunctuated_shifted {table : Array Shift}
    (harmless : ∀ shift ∈ table.toList, shift.Harmless) {c : Char} (beyond : ¬ c.toNat < 0x80) :
    Unpunctuated (shifted table c) := by
  unfold shifted
  split
  · next shift found =>
      have listed : shift ∈ table.toList := Array.mem_toList_iff.mpr (Array.mem_of_find?_eq_some found)
      have inside := Array.find?_some found
      exact (harmless shift listed).unpunctuated inside
  · exact fun ascii => absurd ascii beyond

/-- No upper-case image of a character that is not punctuation is punctuation. -/
theorem unpunctuated_uppercase {c image : Char} (plain : Unpunctuated c)
    (member : image ∈ uppercase c) : Unpunctuated image := by
  unfold uppercase at member
  split at member
  · next ascii =>
      rw [List.mem_singleton.mp member]
      exact fun _ => isAlphanum_toUpper ascii (plain ascii)
  · next beyond =>
      split at member
      · next entry points found =>
          obtain ⟨point, inside, rfl⟩ := List.mem_map.mp member
          have listed : (entry, points) ∈ upperExpansions.toList :=
            Array.mem_toList_iff.mpr (Array.mem_of_find?_eq_some found)
          exact upperExpansions_unpunctuated _ listed point inside
      · rw [List.mem_singleton.mp member]
        exact unpunctuated_shifted upperShifts_harmless beyond

theorem unpunctuated_lowercase {c image : Char} (plain : Unpunctuated c)
    (member : image ∈ lowercase c) : Unpunctuated image := by
  unfold lowercase at member
  split at member
  · next ascii =>
      rw [List.mem_singleton.mp member]
      exact fun _ => isAlphanum_toLower ascii (plain ascii)
  · next beyond =>
      split at member
      · simp only [List.mem_cons, List.not_mem_nil, or_false] at member
        rcases member with rfl | rfl <;> decide
      · rw [List.mem_singleton.mp member]
        exact unpunctuated_shifted lowerShifts_harmless beyond

end ApiComponents.Text
