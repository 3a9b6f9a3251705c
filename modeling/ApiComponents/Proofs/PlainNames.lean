import Mathlib.Data.List.Pairwise
import Mathlib.Data.List.SplitBy
import ApiComponents.Proofs.NameSegments

/-! # Schema names of plain names

The schema name of a declared name in ASCII characters is made of its words, each with a capital
first letter and the others small. It therefore spells the letters and digits of the declared name.
Where there are no digits, every capital begins a word, so that the words can be read off again: two
plain names share a schema name exactly if they have the same words but for the case of letters.
-/

namespace ApiComponents

open Text (isAlphanumeric)

/-! ## Characters -/

namespace Text

variable {c : Char} (ascii : c.toNat < 0x80)
include ascii

theorem uppercase_of_ascii : uppercase c = [c.toUpper] :=
  if_pos ascii

theorem lowercase_of_ascii : lowercase c = [c.toLower] :=
  if_pos ascii

theorem isAlphanumeric_of_ascii : isAlphanumeric c = c.isAlphanum :=
  if_pos ascii

theorem toUpper_toLower : c.toLower.toUpper = c.toUpper :=
  forall_ascii (P := fun c => c.toLower.toUpper = c.toUpper) (by decide +kernel) ascii

theorem toLower_toUpper : c.toUpper.toLower = c.toLower :=
  forall_ascii (P := fun c => c.toUpper.toLower = c.toLower) (by decide +kernel) ascii

theorem toLower_toLower : c.toLower.toLower = c.toLower :=
  forall_ascii (P := fun c => c.toLower.toLower = c.toLower) (by decide +kernel) ascii

theorem not_isLower_toUpper : c.toUpper.isLower = false :=
  forall_ascii (P := fun c => c.toUpper.isLower = false) (by decide +kernel) ascii

theorem not_isUpper_toLower : c.toLower.isUpper = false :=
  forall_ascii (P := fun c => c.toLower.isUpper = false) (by decide +kernel) ascii

/-- What is neither a digit nor a separator has a capital. -/
theorem isUpper_toUpper (plain : c.isAlphanum = true) (letter : c.isDigit = false) :
    c.toUpper.isUpper = true :=
  forall_ascii (P := fun c => c.isAlphanum = true → c.isDigit = false → c.toUpper.isUpper = true)
    (by decide +kernel) ascii plain letter

end Text

/-! ## Words -/

namespace Naming

def Ascii (text : List Char) : Prop :=
  ∀ c ∈ text, c.toNat < 0x80

/-- The text is made of ASCII letters and digits. -/
def Plain (text : List Char) : Prop :=
  ∀ c ∈ text, c.toNat < 0x80 ∧ c.isAlphanum = true

def DigitFree (text : List Char) : Prop :=
  ∀ c ∈ text, c.isDigit = false

instance (text : List Char) : Decidable (Ascii text) :=
  List.decidableBAll _ text

instance (text : List Char) : Decidable (Plain text) :=
  List.decidableBAll _ text

instance (text : List Char) : Decidable (DigitFree text) :=
  List.decidableBAll _ text

theorem Plain.ascii {text : List Char} (plain : Plain text) : Ascii text :=
  fun c inside => (plain c inside).1

/-- A text without the case of its letters. -/
def folded (text : List Char) : List Char :=
  text.map Char.toLower

/-- A word with a capital first letter, the others small. -/
def titled : Word → Word
  | [] => []
  | c :: rest => c.toUpper :: folded rest

theorem small_of_ascii {word : Word} (ascii : Ascii word) : small word = folded word := by
  fun_induction small word with
  | case1 => rfl
  | case2 => exact absurd (ascii 'Σ' List.mem_cons_self) (by decide)
  | case3 c _ => exact Text.lowercase_of_ascii (ascii c List.mem_cons_self)
  | case4 c next rest ih =>
      obtain ⟨head, tail⟩ := List.forall_mem_cons.mp ascii
      rw [Text.lowercase_of_ascii head, ih tail]
      rfl

theorem capitalized_of_ascii {word : Word} (ascii : Ascii word) :
    capitalized word = titled word := by
  cases word with
  | nil => rfl
  | cons c rest =>
      obtain ⟨head, tail⟩ := List.forall_mem_cons.mp ascii
      rw [capitalized, Text.uppercase_of_ascii head, small_of_ascii tail]
      rfl

theorem upperCamel_of_ascii {words : List Word} (ascii : ∀ word ∈ words, Ascii word) :
    upperCamel words = words.flatMap titled := by
  induction words with
  | nil => rfl
  | cons word rest ih =>
      obtain ⟨head, tail⟩ := List.forall_mem_cons.mp ascii
      rw [upperCamel, List.flatMap_cons, capitalized_of_ascii head, List.flatMap_cons, ← ih tail]
      rfl

/-- The first word is made small before its first letter is raised; it ends up like the others. -/
theorem raised_lowerCamel {words : List Word} (ascii : ∀ word ∈ words, Ascii word)
    (filled : [] ∉ words) : raised (lowerCamel words) = words.flatMap titled := by
  cases words with
  | nil => rfl
  | cons word rest =>
      obtain ⟨head, tail⟩ := List.forall_mem_cons.mp ascii
      cases word with
      | nil => exact absurd List.mem_cons_self filled
      | cons c others =>
          have first := head c List.mem_cons_self
          have lower : c.toLower.toNat < 0x80 :=
            Text.forall_ascii (P := fun c => c.toLower.toNat < 0x80) (by decide +kernel) first
          rw [lowerCamel, small_of_ascii head, upperCamel_of_ascii tail, List.flatMap_cons, folded,
            List.map_cons, List.cons_append, raised, Text.uppercase_of_ascii lower,
            Text.toUpper_toLower first]
          rfl

theorem titled_ne_nil {word : Word} (filled : word ≠ []) : titled word ≠ [] := by
  cases word with
  | nil => exact absurd rfl filled
  | cons => exact List.cons_ne_nil _ _

/-- Joined words begin with the first letter of one of them. -/
theorem exists_flatMap_titled {words : List Word} (worded : words ≠ []) (filled : [] ∉ words) :
    ∃ first ∈ words.flatten, ∃ rest, words.flatMap titled = first.toUpper :: rest := by
  obtain ⟨word, later, rfl⟩ := List.exists_cons_of_ne_nil worded
  cases word with
  | nil => exact absurd List.mem_cons_self filled
  | cons c others =>
      exact ⟨c, by simp, folded others ++ later.flatMap titled, by simp [titled]⟩

theorem folded_folded {text : List Char} (ascii : Ascii text) :
    folded (folded text) = folded text := by
  rw [folded, folded, List.map_map]
  exact List.map_congr_left fun c inside => Text.toLower_toLower (ascii c inside)

theorem folded_titled {word : Word} (ascii : Ascii word) : folded (titled word) = folded word := by
  cases word with
  | nil => rfl
  | cons c rest =>
      obtain ⟨head, tail⟩ := List.forall_mem_cons.mp ascii
      show c.toUpper.toLower :: folded (folded rest) = c.toLower :: folded rest
      rw [Text.toLower_toUpper head, folded_folded tail]

theorem titled_folded {word : Word} (ascii : Ascii word) : titled (folded word) = titled word := by
  cases word with
  | nil => rfl
  | cons c rest =>
      obtain ⟨head, tail⟩ := List.forall_mem_cons.mp ascii
      show c.toLower.toUpper :: folded (folded rest) = c.toUpper :: folded rest
      rw [Text.toUpper_toLower head, folded_folded tail]

theorem map_folded_titled {words : List Word} (ascii : ∀ word ∈ words, Ascii word) :
    (words.map titled).map folded = words.map folded := by
  rw [List.map_map]
  exact List.map_congr_left fun word member => folded_titled (ascii word member)

theorem map_titled_folded {words : List Word} (ascii : ∀ word ∈ words, Ascii word) :
    (words.map folded).map titled = words.map titled := by
  rw [List.map_map]
  exact List.map_congr_left fun word member => titled_folded (ascii word member)

theorem isAlphanum_titled {word : Word} (plain : Plain word) :
    ∀ c ∈ titled word, c.isAlphanum = true := by
  cases word with
  | nil => exact fun _ member => nomatch member
  | cons c rest =>
      obtain ⟨head, tail⟩ := List.forall_mem_cons.mp plain
      intro image member
      rcases List.mem_cons.mp member with rfl | later
      · exact Text.isAlphanum_toUpper head.1 head.2
      · obtain ⟨d, inside, rfl⟩ := List.mem_map.mp later
        exact Text.isAlphanum_toLower (tail d inside).1 (tail d inside).2

theorem folded_flatMap_titled {words : List Word} (ascii : ∀ word ∈ words, Ascii word) :
    folded (words.flatMap titled) = folded words.flatten := by
  induction words with
  | nil => rfl
  | cons word rest ih =>
      obtain ⟨head, tail⟩ := List.forall_mem_cons.mp ascii
      have first := folded_titled head
      have others := ih tail
      simp only [folded] at first others ⊢
      rw [List.flatMap_cons, List.map_append, first, others, List.flatten_cons, List.map_append]

/-! ## Words without digits -/

/-- A word of ASCII letters. -/
structure Lettered (word : Word) : Prop where
  filled : word ≠ []
  plain : Plain word
  digitFree : DigitFree word

theorem Lettered.titled_shape {word : Word} (lettered : Lettered word) :
    ∃ capital rest, titled word = capital :: rest ∧ capital.isUpper = true ∧
      ∀ c ∈ rest, c.isUpper = false := by
  obtain ⟨filled, letters, digitFree⟩ := lettered
  cases word with
  | nil => exact absurd rfl filled
  | cons c rest =>
      obtain ⟨⟨ascii, plain⟩, tail⟩ := List.forall_mem_cons.mp letters
      have letter := digitFree c List.mem_cons_self
      refine ⟨c.toUpper, folded rest, rfl, Text.isUpper_toUpper ascii plain letter, ?_⟩
      intro image member
      obtain ⟨d, inside, rfl⟩ := List.mem_map.mp member
      exact Text.not_isUpper_toLower (tail d inside).1

/-- Words without digits are found again in front of the capitals. -/
theorem splitBy_flatMap_titled {words : List Word} (lettered : ∀ word ∈ words, Lettered word) :
    (words.flatMap titled).splitBy (fun _ next => !next.isUpper) = words.map titled := by
  rw [List.flatMap_def]
  refine List.splitBy_flatten ?_ ?_ ?_
  · intro member
    obtain ⟨word, inside, empty⟩ := List.mem_map.mp member
    exact titled_ne_nil (lettered word inside).filled empty
  · intro text member
    obtain ⟨word, inside, rfl⟩ := List.mem_map.mp member
    obtain ⟨capital, rest, shape, -, small⟩ := (lettered word inside).titled_shape
    rw [shape]
    refine (List.pairwise_cons.mpr ⟨?_, List.pairwise_of_forall_mem_list ?_⟩).isChain
    · exact fun c later => by simp [small c later]
    · exact fun _ _ c later => by simp [small c later]
  · refine (List.pairwise_of_forall_mem_list ?_).isChain
    intro text member next nextMember
    obtain ⟨word, inside, rfl⟩ := List.mem_map.mp member
    obtain ⟨other, otherInside, rfl⟩ := List.mem_map.mp nextMember
    obtain ⟨capital, rest, shape, upper, -⟩ := (lettered other otherInside).titled_shape
    refine ⟨titled_ne_nil (lettered word inside).filled,
      titled_ne_nil (lettered other otherInside).filled, ?_⟩
    simp only [shape, List.head_cons, upper, Bool.not_true]

/-- Words without digits can be told from their joined form, but for the case of their letters. -/
theorem flatMap_titled_eq_iff {words others : List Word}
    (lettered : ∀ word ∈ words, Lettered word) (otherLettered : ∀ word ∈ others, Lettered word) :
    words.flatMap titled = others.flatMap titled ↔ words.map folded = others.map folded := by
  have ascii : ∀ word ∈ words, Ascii word := fun word member => (lettered word member).plain.ascii
  have otherAscii : ∀ word ∈ others, Ascii word :=
    fun word member => (otherLettered word member).plain.ascii
  constructor
  · intro same
    have split : words.map titled = others.map titled := by
      rw [← splitBy_flatMap_titled lettered, same, splitBy_flatMap_titled otherLettered]
    rw [← map_folded_titled ascii, split, map_folded_titled otherAscii]
  · intro same
    rw [List.flatMap_def, List.flatMap_def, ← map_titled_folded ascii, same,
      map_titled_folded otherAscii]

end Naming

/-! ## Names -/

namespace DeclaredName

open Naming (Ascii DigitFree Lettered Plain Word folded segmentWords titled)

/-- The characters of a name: those of the path, then those of the leaf. -/
def characters (name : DeclaredName) : List Char :=
  name.path.flatMap String.toList ++ name.leaf.toList

/-- The words of a name, segment by segment. A name without words is called unnamed. -/
def wordList (name : DeclaredName) : List Word :=
  match name.path.flatMap segmentWords ++ segmentWords name.leaf with
  | [] => ["unnamed".toList]
  | words => words

theorem flatten_words (name : DeclaredName) :
    name.words.flatten = name.characters.filter isAlphanumeric := by
  have single : ∀ segment, (segmentWords segment).flatten = segment.toList.filter isAlphanumeric :=
    fun segment => Naming.flatten_words segment.toList
  have path : (name.path.flatMap segmentWords).flatten =
      (name.path.flatMap String.toList).filter isAlphanumeric := by
    rw [List.filter_flatMap]
    induction name.path with
    | nil => rfl
    | cons segment rest ih =>
        rw [List.flatMap_cons, List.flatten_append, single, ih, List.flatMap_cons]
  rw [words_eq, List.flatten_append, path, single, characters, List.filter_append]

theorem wordList_cases (name : DeclaredName) :
    name.words = [] ∧ name.wordList = ["unnamed".toList] ∨
      name.words ≠ [] ∧ name.wordList = name.words := by
  unfold wordList
  rw [← words_eq]
  split
  · next empty => exact .inl ⟨empty, rfl⟩
  · next filled => exact .inr ⟨fun empty => filled empty, rfl⟩

theorem nil_notMem_wordList (name : DeclaredName) : [] ∉ name.wordList := by
  rcases name.wordList_cases with ⟨-, list⟩ | ⟨-, list⟩
  · rw [list]
    decide
  · rw [list]
    exact Naming.nil_notMem_words name.phrase

/-- What holds of the letters and digits of a name holds of its words. -/
theorem forall_mem_wordList {name : DeclaredName} {P : Char → Prop}
    (each : ∀ c ∈ name.characters, isAlphanumeric c = true → P c)
    (unnamed : ∀ c ∈ "unnamed".toList, P c) : ∀ word ∈ name.wordList, ∀ c ∈ word, P c := by
  intro word member c inside
  rcases name.wordList_cases with ⟨-, list⟩ | ⟨-, list⟩
  · rw [list, List.mem_singleton] at member
    exact unnamed c (member ▸ inside)
  · rw [list] at member
    have kept : c ∈ name.words.flatten := List.mem_flatten.mpr ⟨word, member, inside⟩
    rw [flatten_words] at kept
    exact each c (List.mem_filter.mp kept).1 (List.mem_filter.mp kept).2

section Ascii

variable {name : DeclaredName} (ascii : Ascii name.characters)
include ascii

theorem plain_wordList : ∀ word ∈ name.wordList, Plain word := by
  have unnamed : Plain "unnamed".toList := by decide
  refine forall_mem_wordList ?_ unnamed
  intro c inside alphanumeric
  exact ⟨ascii c inside, Text.isAlphanumeric_of_ascii (ascii c inside) ▸ alphanumeric⟩

theorem ascii_wordList : ∀ word ∈ name.wordList, Ascii word :=
  fun word member => (plain_wordList ascii word member).ascii

theorem schemaName_eq_titled : name.schemaName = String.ofList (name.wordList.flatMap titled) := by
  have filled := name.nil_notMem_wordList
  have letters := ascii_wordList ascii
  rcases name.wordList_cases with ⟨empty, list⟩ | ⟨worded, list⟩
  · rw [list, schemaName, empty]
    rfl
  · rw [list] at filled letters ⊢
    have joined := Naming.raised_lowerCamel letters filled
    unfold schemaName
    cases camel : Naming.lowerCamel name.words with
    | nil =>
        obtain ⟨first, -, rest, shape⟩ := Naming.exists_flatMap_titled worded filled
        rw [camel, shape] at joined
        cases joined
    | cons c rest => rw [← joined, camel]

end Ascii

/-- The letters and digits of a name, in order. -/
def spelling (name : DeclaredName) : List Char :=
  name.characters.filter Char.isAlphanum

theorem flatten_words_of_ascii {name : DeclaredName} (ascii : Ascii name.characters) :
    name.words.flatten = name.spelling := by
  rw [flatten_words, spelling]
  exact List.filter_congr fun c inside => Text.isAlphanumeric_of_ascii (ascii c inside)

/-- The schema name of a name in ASCII characters is a valid key, made of letters and digits only
    and not begun with a small letter. But for case, it is the letters and digits of the name. -/
theorem schemaName_spells {name : DeclaredName} (ascii : Ascii name.characters) :
    (∃ first rest, name.schemaName.toList = first :: rest ∧ first.isLower = false) ∧
      (∀ c ∈ name.schemaName.toList, c.isAlphanum = true) ∧
      (name.spelling ≠ [] → folded name.schemaName.toList = folded name.spelling) ∧
      (name.spelling = [] → name.schemaName = "Unnamed") := by
  have plain := plain_wordList ascii
  have joined := schemaName_eq_titled ascii
  have letters : name.schemaName.toList = name.wordList.flatMap titled := by
    rw [joined, String.toList_ofList]
  refine ⟨?_, ?_, ?_, ?_⟩
  · have worded : name.wordList ≠ [] := by
      rcases name.wordList_cases with ⟨-, list⟩ | ⟨worded, list⟩
      · rw [list]
        exact List.cons_ne_nil _ _
      · rwa [list]
    obtain ⟨first, member, rest, shape⟩ :=
      Naming.exists_flatMap_titled worded name.nil_notMem_wordList
    obtain ⟨word, listed, inside⟩ := List.mem_flatten.mp member
    exact ⟨first.toUpper, rest, letters.trans shape,
      Text.not_isLower_toUpper (plain word listed first inside).1⟩
  · intro c member
    rw [letters] at member
    obtain ⟨word, listed, inside⟩ := List.mem_flatMap.mp member
    exact Naming.isAlphanum_titled (plain word listed) c inside
  · intro spelled
    rcases name.wordList_cases with ⟨empty, -⟩ | ⟨-, list⟩
    · rw [← flatten_words_of_ascii ascii, empty] at spelled
      exact absurd rfl spelled
    · rw [letters, Naming.folded_flatMap_titled (ascii_wordList ascii), list,
        flatten_words_of_ascii ascii]
  · intro nothing
    rcases name.wordList_cases with ⟨-, list⟩ | ⟨worded, -⟩
    · rw [joined, list]
      rfl
    · rw [← flatten_words_of_ascii ascii] at nothing
      exact absurd (Naming.eq_nil_of_flatten_eq_nil (Naming.nil_notMem_words _) nothing)
        worded

/-- A name with a digit at the front, humps, an acronym and separators. -/
def gatewayName : DeclaredName := ⟨["3scale-API"], "_gatewayURL9"⟩

theorem gateway_schemaName_spells :
    Ascii gatewayName.characters ∧ gatewayName.spelling = "3scaleAPIgatewayURL9".toList ∧
      gatewayName.schemaName = "3scaleApiGatewayUrl9" ∧
      folded gatewayName.schemaName.toList = folded gatewayName.spelling := by
  have ascii : Ascii gatewayName.characters := by decide
  have spelled : gatewayName.spelling = "3scaleAPIgatewayURL9".toList := by decide
  exact ⟨ascii, spelled, by decide, (schemaName_spells ascii).2.2.1 (by decide)⟩

theorem lettered_wordList {name : DeclaredName} (ascii : Ascii name.characters)
    (digitFree : DigitFree name.characters) : ∀ word ∈ name.wordList, Lettered word := by
  have unnamed : DigitFree "unnamed".toList := by decide
  intro word member
  exact
    { filled := fun empty => name.nil_notMem_wordList (empty ▸ member)
      plain := plain_wordList ascii word member
      digitFree := forall_mem_wordList (fun c inside _ => digitFree c inside) unnamed word member }

/-- Two names in ASCII characters without digits have one schema name exactly if they have the same
    words but for the case of letters. -/
theorem schemaName_eq_iff {first second : DeclaredName} (ascii : Ascii first.characters)
    (digitFree : DigitFree first.characters) (otherAscii : Ascii second.characters)
    (otherDigitFree : DigitFree second.characters) :
    first.schemaName = second.schemaName ↔
      first.wordList.map folded = second.wordList.map folded := by
  rw [schemaName_eq_titled ascii, schemaName_eq_titled otherAscii, String.ofList_inj]
  exact Naming.flatMap_titled_eq_iff (lettered_wordList ascii digitFree)
    (lettered_wordList otherAscii otherDigitFree)

def profileName : DeclaredName := ⟨["user"], "HTTPProfile"⟩

def dashedProfileName : DeclaredName := ⟨[], "USER_http-profile"⟩

theorem profile_schemaName_eq_iff :
    Ascii profileName.characters ∧ DigitFree profileName.characters ∧
      Ascii dashedProfileName.characters ∧ DigitFree dashedProfileName.characters ∧
      profileName.wordList.map folded = dashedProfileName.wordList.map folded ∧
      profileName.schemaName = dashedProfileName.schemaName := by
  have ascii : Ascii profileName.characters := by decide
  have digitFree : DigitFree profileName.characters := by decide
  have otherAscii : Ascii dashedProfileName.characters := by decide
  have otherDigitFree : DigitFree dashedProfileName.characters := by decide
  have words : profileName.wordList.map folded = dashedProfileName.wordList.map folded := by decide
  exact ⟨ascii, digitFree, otherAscii, otherDigitFree, words,
    (schemaName_eq_iff ascii digitFree otherAscii otherDigitFree).mpr words⟩

end DeclaredName

end ApiComponents
