import ApiComponents.Proofs.LetterCases
import ApiComponents.Proofs.SchemaNames

/-! # Cutting phrases between words

The words of a phrase are found in one reading, which remembers the case of the last letter and
looks one character ahead. A phrase may be cut in two and each part read on its own: the words stay
the same exactly if the cut divides none of them. A cut at a separator never does.
-/

namespace ApiComponents.Naming

open Text (isAlphanumeric isLowercase isUppercase not_isUppercase_of_isLowercase)

/-! ## Words are not empty -/

theorem prepend_ne_nil (c : Char) (words : List Word) : prepend c words ≠ [] := by
  cases words <;> exact List.cons_ne_nil _ _

theorem tail_prepend (c : Char) (words : List Word) : (prepend c words).tail = words.tail := by
  cases words <;> rfl

theorem nil_notMem_prepend {c : Char} {words : List Word} (filled : [] ∉ words.tail) :
    [] ∉ prepend c words := by
  cases words with
  | nil => simp [prepend]
  | cons word rest => simpa [prepend] using filled

theorem fresh_ne_upper : LetterMode.fresh ≠ .upper := by decide

/-- Only the first word may be empty, and it is not unless it goes on with capitals. -/
theorem nil_notMem_humps (mode : LetterMode) (text : List Char) :
    [] ∉ (humps mode text).tail ∧ (mode ≠ .upper → [] ∉ humps mode text) := by
  fun_induction humps mode text with
  | case1 => simp
  | case2 => simp
  | case3 mode c next rest _ ih =>
      have filled := ih.2 fresh_ne_upper
      exact ⟨filled, fun _ => by simpa using filled⟩
  | case4 mode c next rest _ capitals ih =>
      exact ⟨nil_notMem_prepend ih.1, fun other => absurd capitals.1 other⟩
  | case5 mode c next rest _ _ ih =>
      rw [tail_prepend]
      exact ⟨ih.1, fun _ => nil_notMem_prepend ih.1⟩

theorem nil_notMem_words (phrase : List Char) : [] ∉ words phrase := by
  intro member
  obtain ⟨stretch, -, inside⟩ := List.mem_flatMap.mp member
  exact (nil_notMem_humps .fresh stretch).2 fresh_ne_upper inside

/-- Where there are no empty words, there are no words without letters. -/
theorem eq_nil_of_flatten_eq_nil {words : List Word} (filled : [] ∉ words)
    (empty : words.flatten = []) : words = [] := by
  refine List.eq_nil_iff_forall_not_mem.mpr fun word member => ?_
  exact filled (List.flatten_eq_nil_iff.mp empty word member ▸ member)

/-! ## Humps -/

theorem humps_cons_ne_nil (mode : LetterMode) (c : Char) (rest : List Char) :
    humps mode (c :: rest) ≠ [] := by
  intro empty
  have whole := flatten_humps mode (c :: rest)
  rw [empty] at whole
  cases whole

/-- In front of a lower-case letter it does not count what was read before. -/
theorem humps_of_isLowercase {c : Char} (lower : isLowercase c = true) (mode other : LetterMode)
    (rest : List Char) : humps mode (c :: rest) = humps other (c :: rest) := by
  cases rest with
  | nil => rfl
  | cons next rest =>
      have after : ∀ mode : LetterMode, mode.after c = .lower := fun mode => if_pos lower
      simp only [humps, after, not_isUppercase_of_isLowercase lower, false_and, and_false, if_false,
        Bool.false_eq_true]

/-- The last of several capitals begins a word as if nothing had been read before it. -/
theorem prepend_humps_of_capital {c next : Char} (upper : isUppercase c = true)
    (lower : isLowercase next = true) (rest : List Char) :
    prepend c (humps .fresh (next :: rest)) = humps .fresh (c :: next :: rest) := by
  have notLower : ¬ isLowercase c = true := fun both => not_isUppercase_of_isLowercase both upper
  have after : LetterMode.fresh.after c = .upper := by
    rw [LetterMode.after, if_neg notLower, if_pos upper]
  rw [humps, after, if_neg (by simp), if_neg (by simp), humps_of_isLowercase lower .upper .fresh]

/-- The words behind the first one are found again when the reading starts behind it. -/
theorem humps_flatten_tail {mode : LetterMode} {text : List Char} {first : Word}
    {later : List Word} (found : humps mode text = first :: later) :
    humps .fresh later.flatten = later := by
  fun_induction humps mode text generalizing first with
  | case1 => cases found
  | case2 =>
      cases found
      rfl
  | case3 mode c next rest _ ih =>
      cases found
      rw [flatten_humps]
  | case4 mode c next rest _ capitals ih =>
      obtain ⟨-, upper, lower⟩ := capitals
      cases found
      rw [flatten_prepend, flatten_humps, prepend_humps_of_capital upper lower]
  | case5 mode c next rest _ _ ih =>
      cases words : humps (mode.after c) (next :: rest) with
      | nil => exact absurd words (humps_cons_ne_nil _ _ _)
      | cons word others =>
          rw [words, prepend] at found
          cases found
          exact ih words

theorem humps_flatten_back {text : List Char} {front back : List Word}
    (cut : humps .fresh text = front ++ back) : humps .fresh back.flatten = back := by
  induction front generalizing text with
  | nil =>
      rw [List.nil_append] at cut
      rw [← cut, flatten_humps]
  | cons first front ih => exact ih (humps_flatten_tail cut)

/-- The first words of a text that begins with a given character begin with it. -/
theorem exists_flatten_eq_cons {mode : LetterMode} {c : Char} {rest : List Char}
    {front back : List Word} (cut : humps mode (c :: rest) = front ++ back)
    (letters : front.flatten ≠ []) : ∃ others, front.flatten = c :: others := by
  have whole := flatten_humps mode (c :: rest)
  rw [cut, List.flatten_append] at whole
  rcases List.append_eq_cons_iff.mp whole with ⟨empty, -⟩ | ⟨others, shape, -⟩
  · exact absurd empty letters
  · exact ⟨others, shape⟩

theorem exists_of_prepend_eq_append {c : Char} {words front back : List Word}
    (filled : words ≠ []) (cut : prepend c words = front ++ back) (begun : front ≠ []) :
    ∃ shorter, shorter ≠ [] ∧ front = prepend c shorter ∧ words = shorter ++ back := by
  obtain ⟨word, rest, rfl⟩ := List.exists_cons_of_ne_nil filled
  obtain ⟨first, later, rfl⟩ := List.exists_cons_of_ne_nil begun
  cases cut
  exact ⟨word :: later, List.cons_ne_nil _ _, rfl, rfl⟩

theorem flatten_ne_nil_of_fresh {text : List Char} {front back : List Word}
    (cut : humps .fresh text = front ++ back) (begun : front ≠ []) : front.flatten ≠ [] := by
  have filled : [] ∉ front := fun member =>
    (nil_notMem_humps .fresh text).2 fresh_ne_upper (cut ▸ List.mem_append_left back member)
  exact fun empty => begun (eq_nil_of_flatten_eq_nil filled empty)

/-- First words without letters are one word alone, the one that was being read. -/
theorem eq_single_nil_of_flatten {mode : LetterMode} {text : List Char} {front back : List Word}
    (cut : humps mode text = front ++ back) (begun : front ≠ []) (nothing : front.flatten = []) :
    front = [[]] := by
  obtain ⟨first, later, rfl⟩ := List.exists_cons_of_ne_nil begun
  have laterFilled : [] ∉ later := fun member =>
    (nil_notMem_humps mode text).1 (by rw [cut]; exact List.mem_append_left _ member)
  obtain ⟨rfl, noLater⟩ := List.append_eq_nil_iff.mp nothing
  rw [eq_nil_of_flatten_eq_nil laterFilled noLater]

/-- The first words are found again when the reading stops behind them. -/
theorem humps_flatten_front {mode : LetterMode} {text : List Char} {front back : List Word}
    (cut : humps mode text = front ++ back) (letters : front.flatten ≠ []) :
    humps mode front.flatten = front := by
  have begun : front ≠ [] := fun nothing => letters (nothing ▸ rfl)
  -- every character in front of the cut meets the same next one, but for the last of them
  fun_induction humps mode text generalizing front with
  | case1 => exact absurd (List.append_eq_nil_iff.mp cut.symm).1 begun
  | case2 mode c =>
      rcases List.cons_eq_append_iff.mp cut with ⟨nothing, -⟩ | ⟨later, rfl, nothing⟩
      · exact absurd nothing begun
      · rw [(List.append_eq_nil_iff.mp nothing.symm).1]
        rfl
  | case3 mode c next rest turn ih =>
      rcases List.cons_eq_append_iff.mp cut with ⟨nothing, -⟩ | ⟨later, rfl, found⟩
      · exact absurd nothing begun
      · by_cases nothing : later = []
        · rw [nothing]
          rfl
        · have laterLetters := flatten_ne_nil_of_fresh found nothing
          obtain ⟨others, shape⟩ := exists_flatten_eq_cons found laterLetters
          have again := ih found laterLetters nothing
          rw [shape] at again
          rw [List.flatten_cons, shape, List.singleton_append, humps, if_pos turn, again]
  | case4 mode c next rest noTurn capitals ih =>
      rcases List.cons_eq_append_iff.mp cut with ⟨nothing, -⟩ | ⟨later, rfl, joined⟩
      · exact absurd nothing begun
      · have more : later ≠ [] := fun nothing => letters (by rw [nothing]; rfl)
        obtain ⟨shorter, filled, rfl, found⟩ :=
          exists_of_prepend_eq_append (humps_cons_ne_nil _ _ _) joined more
        have laterLetters := flatten_ne_nil_of_fresh found filled
        obtain ⟨others, shape⟩ := exists_flatten_eq_cons found laterLetters
        have again := ih found laterLetters filled
        rw [shape] at again
        rw [List.flatten_cons, List.nil_append, flatten_prepend, shape, humps, if_neg noTurn,
          if_pos capitals, again]
  | case5 mode c next rest noTurn noCapitals ih =>
      obtain ⟨shorter, filled, rfl, found⟩ :=
        exists_of_prepend_eq_append (humps_cons_ne_nil _ _ _) cut begun
      rw [flatten_prepend]
      by_cases nothing : shorter.flatten = []
      · rw [eq_single_nil_of_flatten found filled nothing]
        rfl
      · obtain ⟨others, shape⟩ := exists_flatten_eq_cons found nothing
        have again := ih found nothing filled
        rw [shape] at again
        rw [shape, humps, if_neg noTurn, if_neg noCapitals, again]

/-- Two texts that are joined keep their words if none of the words goes across. -/
theorem humps_append {front back : List Char} {before after : List Word}
    (cut : humps .fresh (front ++ back) = before ++ after) (left : before.flatten = front)
    (right : after.flatten = back) :
    humps .fresh (front ++ back) = humps .fresh front ++ humps .fresh back := by
  have behind : humps .fresh back = after := right ▸ humps_flatten_back cut
  have ahead : humps .fresh front = before := by
    by_cases nothing : before = []
    · rw [← left, nothing]
      rfl
    · exact left ▸ humps_flatten_front cut (flatten_ne_nil_of_fresh cut nothing)
  rw [cut, ahead, behind]

/-! ## Phrases -/

theorem stretches_ne_nil (phrase : List Char) : stretches phrase ≠ [] := by
  cases phrase with
  | nil => exact List.cons_ne_nil _ _
  | cons c rest =>
      rw [stretches]
      split
      · exact prepend_ne_nil _ _
      · exact List.cons_ne_nil _ _

/-- Two phrases that are joined join their stretches in the middle. -/
theorem stretches_append (front back : List Char) :
    ∃ before last first after, stretches front = before ++ [last] ∧
      stretches back = first :: after ∧
      stretches (front ++ back) = before ++ (last ++ first) :: after := by
  induction front with
  | nil =>
      obtain ⟨first, after, right⟩ := List.exists_cons_of_ne_nil (stretches_ne_nil back)
      exact ⟨[], [], first, after, rfl, right, right⟩
  | cons c front ih =>
      obtain ⟨before, last, first, after, left, right, joined⟩ := ih
      rw [List.cons_append, stretches, stretches, left, joined]
      split
      · cases before with
        | nil => exact ⟨[], c :: last, first, after, rfl, right, rfl⟩
        | cons head before => exact ⟨(c :: head) :: before, last, first, after, rfl, right, rfl⟩
      · exact ⟨[] :: before, last, first, after, rfl, right, rfl⟩

/-- A separator between two phrases keeps their words apart. -/
theorem words_append_cons {c : Char} (separator : isAlphanumeric c = false)
    (front back : List Char) : words (front ++ c :: back) = words front ++ words back := by
  obtain ⟨before, last, first, after, left, right, joined⟩ := stretches_append front (c :: back)
  have cut : stretches (c :: back) = [] :: stretches back := by
    rw [stretches, if_neg (by simp [separator])]
  rw [cut] at right
  obtain ⟨rfl, rfl⟩ := List.cons.inj right
  rw [words, words, words, joined, left, List.append_nil, List.append_cons, List.flatMap_append]

/-- There are no letters and digits in the text. -/
def Blank (text : List Char) : Prop :=
  ∀ c ∈ text, isAlphanumeric c = false

instance (text : List Char) : Decidable (Blank text) :=
  List.decidableBAll _ text

theorem words_of_blank {phrase : List Char} (blank : Blank phrase) : words phrase = [] := by
  refine eq_nil_of_flatten_eq_nil (nil_notMem_words phrase) ?_
  rw [flatten_words, List.filter_eq_nil_iff]
  exact fun c member => by simp [blank c member]

/-- The place between two parts of a phrase is a word boundary: in front of it stand the letters
    of the first words of the phrase, and behind it those of the others. -/
def WordBoundary (front back : List Char) : Prop :=
  ∃ before after, words (front ++ back) = before ++ after ∧
    before.flatten = front.filter isAlphanumeric

/-- Of two ways to split the same words, one goes on where the other ends if it has more letters. -/
theorem exists_more_of_flatten {before after front back : List Word} {letters : List Char}
    (filled : [] ∉ front ++ back) (cut : front ++ back = before ++ after)
    (longer : before.flatten = front.flatten ++ letters) :
    ∃ more, before = front ++ more ∧ back = more ++ after ∧ more.flatten = letters := by
  rcases List.append_eq_append_iff.mp cut with ⟨more, rfl, rfl⟩ | ⟨extra, rfl, rfl⟩
  · rw [List.flatten_append] at longer
    exact ⟨more, rfl, rfl, List.append_cancel_left longer⟩
  · rw [List.flatten_append, List.append_assoc] at longer
    obtain ⟨noLetters, rfl⟩ := List.append_eq_nil_iff.mp (List.self_eq_append_right.mp longer)
    have extraFilled : [] ∉ extra := fun member =>
      filled (List.mem_append_left _ (List.mem_append_right _ member))
    rw [eq_nil_of_flatten_eq_nil extraFilled noLetters]
    exact ⟨[], by simp, rfl, rfl⟩

/-- A phrase may be cut in two exactly at its word boundaries. -/
theorem words_append_iff {front back : List Char} :
    words (front ++ back) = words front ++ words back ↔ WordBoundary front back := by
  constructor
  · exact fun same => ⟨words front, words back, same, flatten_words front⟩
  · rintro ⟨before, after, cut, letters⟩
    have filled := nil_notMem_words (front ++ back)
    obtain ⟨stretched, last, first, others, left, right, joined⟩ := stretches_append front back
    have whole : words (front ++ back) = stretched.flatMap (humps .fresh) ++
        (humps .fresh (last ++ first) ++ others.flatMap (humps .fresh)) := by
      rw [words, joined, List.flatMap_append, List.flatMap_cons]
    have ahead : words front = stretched.flatMap (humps .fresh) ++ humps .fresh last := by
      simp only [words, left, List.flatMap_append, List.flatMap_cons, List.flatMap_nil,
        List.append_nil]
    have behind : words back = humps .fresh first ++ others.flatMap (humps .fresh) := by
      rw [words, right, List.flatMap_cons]
    -- the first words end within the stretch that the cut goes through
    rw [← flatten_words, ahead, List.flatten_append, flatten_humps] at letters
    obtain ⟨more, -, rest, lastLetters⟩ :=
      exists_more_of_flatten (whole ▸ filled) (whole.symm.trans cut) letters
    have restFilled : [] ∉ more ++ after := by
      rw [← rest]
      exact fun member => filled (whole ▸ List.mem_append_right _ member)
    have longer : (humps .fresh (last ++ first)).flatten = more.flatten ++ first := by
      rw [flatten_humps, lastLetters]
    obtain ⟨remaining, hump, -, firstLetters⟩ :=
      exists_more_of_flatten restFilled rest.symm longer
    rw [whole, ahead, behind, humps_append hump lastLetters firstLetters]
    simp only [List.append_assoc]

end ApiComponents.Naming
