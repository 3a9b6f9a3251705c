import ApiComponents.Naming
import ApiComponents.Proofs.CaseImages

/-! # What schema names are made of

Cutting a phrase into words loses nothing but the characters that are not alphanumeric, and
joining the words by case brings in nothing but images of their characters. A schema name
therefore has no ASCII punctuation in it.
-/

namespace ApiComponents

namespace Naming

theorem flatten_prepend (c : Char) (words : List Word) :
    (prepend c words).flatten = c :: words.flatten := by
  cases words with
  | nil => rfl
  | cons word rest => rfl

/-- Humps are cut out of the text and nothing else happens to it. -/
theorem flatten_humps (mode : LetterMode) (text : List Char) : (humps mode text).flatten = text := by
  fun_induction humps mode text with
  | case1 => rfl
  | case2 => rfl
  | case3 mode c next rest _ ih => rw [List.flatten_cons, ih, List.singleton_append]
  | case4 mode c next rest _ _ ih => rw [List.flatten_cons, flatten_prepend, ih, List.nil_append]
  | case5 mode c next rest _ _ ih => rw [flatten_prepend, ih]

theorem flatten_stretches (phrase : List Char) :
    (stretches phrase).flatten = phrase.filter Text.isAlphanumeric := by
  induction phrase with
  | nil => rfl
  | cons c rest ih =>
      simp only [stretches, List.filter_cons]
      split
      · rw [flatten_prepend, ih]
      · rw [List.flatten_cons, ih, List.nil_append]

/-- The words of a phrase are its alphanumeric characters, in order. -/
theorem flatten_words (phrase : List Char) :
    (words phrase).flatten = phrase.filter Text.isAlphanumeric := by
  have whole : List.flatten ∘ humps .fresh = id := funext (flatten_humps .fresh)
  rw [words, List.flatMap_def, List.flatten_flatten, List.map_map, whole, List.map_id,
    flatten_stretches]

theorem isAlphanumeric_of_mem_words {phrase : List Char} {word : Word}
    (member : word ∈ words phrase) {c : Char} (inside : c ∈ word) :
    Text.isAlphanumeric c = true := by
  have kept : c ∈ (words phrase).flatten := List.mem_flatten.mpr ⟨word, member, inside⟩
  rw [flatten_words] at kept
  exact (List.mem_filter.mp kept).2

open Text (Unpunctuated unpunctuated_lowercase unpunctuated_uppercase)

theorem unpunctuated_small {word : Word} (plain : ∀ c ∈ word, Unpunctuated c) :
    ∀ c ∈ small word, Unpunctuated c := by
  fun_induction small word with
  | case1 => exact plain
  | case2 =>
      intro image final
      rw [List.mem_singleton.mp final]
      decide
  | case3 c _ => exact fun _ => unpunctuated_lowercase (plain c List.mem_cons_self)
  | case4 c next rest ih =>
      intro image member
      rcases List.mem_append.mp member with head | tail
      · exact unpunctuated_lowercase (plain c List.mem_cons_self) head
      · exact ih (fun d inside => plain d (List.mem_cons_of_mem c inside)) image tail

theorem unpunctuated_capitalized {word : Word} (plain : ∀ c ∈ word, Unpunctuated c) :
    ∀ c ∈ capitalized word, Unpunctuated c := by
  cases word with
  | nil => exact plain
  | cons c rest =>
      intro image member
      rcases List.mem_append.mp member with head | tail
      · exact unpunctuated_uppercase (plain c List.mem_cons_self) head
      · exact unpunctuated_small (fun d inside => plain d (List.mem_cons_of_mem c inside)) image tail

theorem unpunctuated_lowerCamel {words : List Word}
    (plain : ∀ word ∈ words, ∀ c ∈ word, Unpunctuated c) :
    ∀ c ∈ lowerCamel words, Unpunctuated c := by
  cases words with
  | nil => simp [lowerCamel]
  | cons word rest =>
      intro image member
      rcases List.mem_append.mp member with head | tail
      · exact unpunctuated_small (plain word List.mem_cons_self) image head
      · obtain ⟨later, inside, found⟩ := List.mem_flatMap.mp tail
        exact unpunctuated_capitalized (plain later (List.mem_cons_of_mem word inside)) image found

theorem unpunctuated_raised {text : List Char} (plain : ∀ c ∈ text, Unpunctuated c) :
    ∀ c ∈ raised text, Unpunctuated c := by
  cases text with
  | nil => exact plain
  | cons c rest =>
      intro image member
      rcases List.mem_append.mp member with head | tail
      · exact unpunctuated_uppercase (plain c List.mem_cons_self) head
      · exact plain image (List.mem_cons_of_mem c tail)

end Naming

namespace DeclaredName

open Text (Unpunctuated)

/-- No character of a schema name is ASCII punctuation. -/
theorem unpunctuated_schemaName (name : DeclaredName) :
    ∀ c ∈ name.schemaName.toList, Unpunctuated c := by
  have plain : ∀ word ∈ name.words, ∀ c ∈ word, Unpunctuated c :=
    fun word member c inside =>
      Text.unpunctuated_of_isAlphanumeric (Naming.isAlphanumeric_of_mem_words member inside)
  unfold schemaName
  split
  · intro c member
    have letters : "Unnamed".toList = ['U', 'n', 'n', 'a', 'm', 'e', 'd'] := by decide
    simp only [letters, List.mem_cons, List.not_mem_nil, or_false] at member
    rcases member with rfl | rfl | rfl | rfl | rfl | rfl | rfl <;> decide
  · rw [String.toList_ofList]
    exact Naming.unpunctuated_raised (Naming.unpunctuated_lowerCamel plain)

end DeclaredName

end ApiComponents
