import ApiComponents.Json.Value
import ApiComponents.Yaml.Scalar

/-! # YAML text

A value is written as a document in block form. Nested collections are indented by two blanks;
a sequence that is the value of a key stands right below the key. Empty collections stand in
brackets.
-/

namespace ApiComponents.Yaml

/-! ## Styles of scalars

A string is written plainly where it reads back as itself. Strings of several lines are written
as blocks, what cannot be plain stands in single quotes, and what needs escapes in double ones.
-/

inductive Style where
  | plain
  | singleQuoted
  | doubleQuoted
  | block
  deriving Repr, DecidableEq

def endsLine (c : Char) : Bool :=
  ['\n', '\r', '\u0085', '\u2028', '\u2029'].contains c

def isWritable (c : Char) : Bool :=
  c = '\n' ∨ (' ' ≤ c ∧ c ≤ '~') ∨
    ('\u00a0' ≤ c ∧ c ≠ '\ufeff' ∧ c ≠ '\ufffe' ∧ c ≠ '\uffff')

/-- Whether a character separates words. A text counts as followed by a separator. -/
def separates (c : Char) : Bool :=
  c = ' ' ∨ c = '\t' ∨ c = '\x00' ∨ endsLine c

def isSeparated : List Char → Bool
  | [] => true
  | c :: _ => separates c

/-- Whether a text begins with a character that has a meaning in front of a node. -/
def startsWithIndicator : List Char → Bool
  | [] => false
  | '-' :: '-' :: '-' :: _ => true
  | '.' :: '.' :: '.' :: _ => true
  | c :: rest =>
      "#,[]\x7b\x7d&*!|>'\"%@`".toList.contains c ||
        ([':', '?', '-'].contains c && isSeparated rest)

/-- Whether behind the first character a colon ends a word or a number sign begins one. -/
def hasInnerIndicator : List Char → Bool
  | c :: next :: rest =>
      (next == ':' && isSeparated rest) || (next == '#' && separates c) ||
        hasInnerIndicator (next :: rest)
  | _ => false

def hasNeighbours (first second : Char → Bool) : List Char → Bool
  | c :: next :: rest => (first c && second next) || hasNeighbours first second (next :: rest)
  | _ => false

/-- Whether a blank and the end of a line meet, in this order. -/
def hasBlankLineEnd (text : List Char) : Bool := hasNeighbours (· == ' ') endsLine text

/-- Whether a line other than the first begins with a blank. -/
def hasIndentedLine (text : List Char) : Bool := hasNeighbours endsLine (· == ' ') text

/-- Whether a text begins or ends with a blank or the end of a line. -/
def hasLooseEnd (text : List Char) : Bool :=
  (text.head?.any fun c => c == ' ' || endsLine c) ||
    (text.getLast?.any fun c => c == ' ' || endsLine c)

def allowsPlain (text : List Char) : Bool :=
  text.all (fun c => isWritable c && !endsLine c) && !startsWithIndicator text &&
    !hasInnerIndicator text && !hasLooseEnd text

def allowsSingleQuotes (text : List Char) : Bool :=
  text.all isWritable && !hasBlankLineEnd text && !hasIndentedLine text

def allowsBlock (text : List Char) : Bool :=
  text.all isWritable && !hasBlankLineEnd text && text.getLast? != some ' '

/-- Whether a text that stands plainly is read as this very text by every reader. -/
def readsAsText (text : String) : Bool :=
  match plainMeaning text with
  | .text _ => !hasLeadingZero text.toList
  | _ => false

def Style.ofText (text : String) : Style :=
  let chars := text.toList
  if chars.contains '\n' then if allowsBlock chars then block else doubleQuoted
  else if readsAsText text && allowsPlain chars then plain
  else if allowsSingleQuotes chars then singleQuoted
  else doubleQuoted

end ApiComponents.Yaml

namespace ApiComponents

namespace Yaml

/-! ## Scalars -/

def blanks (count : Nat) : List Char := List.replicate count ' '

/-- A text with an indentation in front of each line that holds anything, the first one if it
    is `fresh`. -/
def indentLines (indentation : Nat) (fresh : Bool) : List Char → List Char
  | [] => []
  | c :: rest =>
      if endsLine c then c :: indentLines indentation true rest
      else (if fresh then blanks indentation else []) ++ c :: indentLines indentation false rest

/-- Whether a text stops right behind the end of a line. -/
def stopsAtLineEnd (text : List Char) : Bool := text.getLast?.any endsLine

def doubleQuotes (text : List Char) : List Char :=
  text.flatMap fun c => if c = '\'' then ['\'', '\''] else [c]

def inSingleQuotes (indentation : Nat) (text : List Char) : List Char :=
  '\'' :: indentLines indentation false (doubleQuotes text) ++
    (if stopsAtLineEnd text then blanks indentation else []) ++ ['\'']

/-- The lowest digits of a number in base sixteen, `width` many, in upper case. -/
def hexDigits : Nat → Nat → List Char
  | 0, _ => []
  | width + 1, n => hexDigits width (n / 16) ++ [(Nat.digitChar (n % 16)).toUpper]

/-- The letter that follows the backslash, for characters that have one. -/
def escapeLetter? : Char → Option Char
  | '\x00' => some '0'
  | '\x07' => some 'a'
  | '\x08' => some 'b'
  | '\t' => some 't'
  | '\n' => some 'n'
  | '\x0b' => some 'v'
  | '\x0c' => some 'f'
  | '\r' => some 'r'
  | '\x1b' => some 'e'
  | '"' => some '"'
  | '\\' => some '\\'
  | '\u0085' => some 'N'
  | '\u2028' => some 'L'
  | '\u2029' => some 'P'
  | _ => none

def escaped (c : Char) : List Char :=
  match escapeLetter? c with
  | some letter => ['\\', letter]
  | none =>
      if isWritable c then [c]
      else if c.toNat ≤ 0xff then '\\' :: 'x' :: hexDigits 2 c.toNat
      else if c.toNat ≤ 0xffff then '\\' :: 'u' :: hexDigits 4 c.toNat
      else '\\' :: 'U' :: hexDigits 8 c.toNat

def inDoubleQuotes (text : List Char) : List Char :=
  '"' :: text.flatMap escaped ++ ['"']

/-- The header of a block: the indentation when the text itself begins with a blank or an empty
    line, and how the text ends. -/
def blockHeader (text : List Char) : List Char :=
  let indentation := if text.head?.any fun c => c == ' ' || endsLine c then ['2'] else []
  let ending :=
    match text.reverse with
    | [] => ['-']
    | last :: before =>
        if !endsLine last then ['-']
        else if before.isEmpty || before.head?.any endsLine then ['+']
        else []
  '|' :: indentation ++ ending

def indentedBlock (indentation : Nat) (text : List Char) : List Char :=
  blockHeader text ++ '\n' :: indentLines indentation true text

def scalarLines (indentation : Nat) (text : String) : List Char :=
  let chars := text.toList
  match Style.ofText text with
  | .plain => chars ++ ['\n']
  | .singleQuoted => inSingleQuotes indentation chars ++ ['\n']
  | .doubleQuoted => inDoubleQuotes chars ++ ['\n']
  | .block => indentedBlock indentation chars ++ if stopsAtLineEnd chars then [] else ['\n']

/-! ## Keys -/

/-- Whether a key stands on the line of its value: short and of one line. -/
def isShortKey (key : String) : Bool :=
  key.utf8ByteSize ≤ 128 && !key.toList.any endsLine

def shortKey (key : String) : List Char :=
  match Style.ofText key with
  | .plain => key.toList
  | .singleQuoted => inSingleQuotes 0 key.toList
  | .doubleQuoted | .block => inDoubleQuotes key.toList

/-! ## Collections -/

inductive Site where
  | afterKey
  /-- Behind a dash, or behind the colon of a long key. -/
  | afterMark
  deriving Repr, DecidableEq

/-- Entries below each other in a column; the first one begins where the writer stands. -/
def stacked (column : Nat) (entries : List (List Char)) : List Char :=
  (blanks column).intercalate entries

/-- The entries of a sequence behind the key or the mark that stands in a column. -/
def placedItems (column : Nat) : Site → (Nat → List (List Char)) → List Char
  | .afterKey, entries => '\n' :: blanks column ++ stacked column (entries column)
  | .afterMark, entries => ' ' :: stacked (column + 2) (entries (column + 2))

/-- The entries of a mapping behind the key or the mark that stands in a column. -/
def placedMembers (column : Nat) : Site → (Nat → List (List Char)) → List Char
  | .afterKey, entries =>
      '\n' :: blanks (column + 2) ++ stacked (column + 2) (entries (column + 2))
  | .afterMark, entries => ' ' :: stacked (column + 2) (entries (column + 2))

/-- An entry of a mapping whose keys stand in a column. -/
def memberEntry (column : Nat) (key : String) (value : Site → List Char) : List Char :=
  if isShortKey key then shortKey key ++ ':' :: value .afterKey
  else '?' :: ' ' :: scalarLines (column + 2) key ++ blanks column ++ ':' :: value .afterMark

mutual
/-- A value behind the key or the mark that stands in a column. -/
def valueLines (column : Nat) (site : Site) : Json → List Char
  | .null => " null\n".toList
  | .bool value => (if value then " true\n" else " false\n").toList
  | .number value => ' ' :: value.text.toList ++ ['\n']
  | .text value => ' ' :: scalarLines (column + 2) value
  | .list items =>
      if items.isEmpty then " []\n".toList
      else placedItems column site fun column => itemEntries column items
  | .object members =>
      if members.isEmpty then " \x7b\x7d\n".toList
      else placedMembers column site fun column => memberEntries column members

/-- The items of a sequence whose dashes stand in a column. -/
def itemEntries (column : Nat) : List Json → List (List Char)
  | [] => []
  | item :: rest => ('-' :: valueLines column .afterMark item) :: itemEntries column rest

/-- The entries of a mapping whose keys stand in a column. -/
def memberEntries (column : Nat) : List (String × Json) → List (List Char)
  | [] => []
  | (key, value) :: rest =>
      memberEntry column key (fun site => valueLines column site value) ::
        memberEntries column rest
end

def documentLines : Json → List Char
  | .text value => scalarLines 2 value
  | .list (item :: items) => stacked 0 (itemEntries 0 (item :: items))
  | .object (member :: members) => stacked 0 (memberEntries 0 (member :: members))
  | other => (valueLines 0 .afterMark other).drop 1

end Yaml

def Json.yaml (value : Json) : String := String.ofList (Yaml.documentLines value)

end ApiComponents
