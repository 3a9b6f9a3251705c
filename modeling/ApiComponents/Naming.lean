import ApiComponents.Description.Types
import ApiComponents.Text.Alphanumeric
import ApiComponents.Text.LetterCase

/-! # Schema names

The key of a declared type among the component schemas, and the pointer that leads to it. Path
and leaf are read as one phrase, so that a boundary between two segments counts as much as one
inside a segment. The words of the phrase are joined in camel case.
-/

namespace ApiComponents.Naming

/-! ## The words of a phrase

A phrase is cut at every character that is not alphanumeric. What remains between two cuts
is cut again at its humps: after a lower-case letter that meets an upper-case one, and before
the last of several upper-case letters that meet a lower-case one.
-/

abbrev Word := List Char

/-- The case of the letters read since the last cut. -/
inductive LetterMode where
  | fresh
  | lower
  | upper
  deriving Repr, DecidableEq

/-- The mode once a character is read; characters without case keep it. -/
def LetterMode.after (mode : LetterMode) (c : Char) : LetterMode :=
  if Text.isLowercase c then .lower
  else if Text.isUppercase c then .upper
  else mode

def prepend (c : Char) : List Word → List Word
  | [] => [[c]]
  | word :: rest => (c :: word) :: rest

/-- Cut alphanumeric characters at their humps. The first word of the result goes on with the
    letters read before; it is empty when the cut stands in front of the first character. -/
def humps (mode : LetterMode) : List Char → List Word
  | [] => []
  | [c] => [[c]]
  | c :: next :: rest =>
      if mode.after c = .lower ∧ Text.isUppercase next then
        [c] :: humps .fresh (next :: rest)
      else if mode = .upper ∧ Text.isUppercase c ∧ Text.isLowercase next then
        [] :: prepend c (humps .fresh (next :: rest))
      else
        prepend c (humps (mode.after c) (next :: rest))

def stretches : List Char → List (List Char)
  | [] => [[]]
  | c :: rest =>
      if Text.isAlphanumeric c then prepend c (stretches rest)
      else [] :: stretches rest

def words (phrase : List Char) : List Word :=
  (stretches phrase).flatMap (humps .fresh)

/-! ## Joining words by case

In camel case the words follow each other without separator, each with a capital first letter;
lower camel case leaves the first word small.
-/

/-- A word in lower case; a sigma that ends the word takes its final form. -/
def small : Word → Word
  | [] => []
  | [c] => if c = 'Σ' then ['ς'] else Text.lowercase c
  | c :: next :: rest => Text.lowercase c ++ small (next :: rest)

/-- A word with its first letter in upper case and the others in lower case. -/
def capitalized : Word → Word
  | [] => []
  | c :: rest => Text.uppercase c ++ small rest

def upperCamel (words : List Word) : List Char :=
  words.flatMap capitalized

def lowerCamel : List Word → List Char
  | [] => []
  | word :: rest => small word ++ upperCamel rest

def raised : List Char → List Char
  | [] => []
  | c :: rest => Text.uppercase c ++ rest

end ApiComponents.Naming

namespace ApiComponents

/-! ## Names and pointers -/

namespace DeclaredName

def phrase (name : DeclaredName) : List Char :=
  ([' '] : List Char).intercalate ((name.path ++ [name.leaf]).map String.toList)

def words (name : DeclaredName) : List Naming.Word :=
  Naming.words name.phrase

/-- The key of the type's schema: its words in camel case, or `Unnamed` when there are none. -/
def schemaName (name : DeclaredName) : String :=
  match Naming.lowerCamel name.words with
  | [] => "Unnamed"
  | camel => String.ofList (Naming.raised camel)

def schemaRoot : String := "#/components/schemas/"

def reference (name : DeclaredName) : String :=
  schemaRoot ++ name.schemaName

end DeclaredName

end ApiComponents
