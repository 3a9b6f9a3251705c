/-! # YAML source text

A source is a list of cells: characters that know where they stand. The different line breaks
are made one, but for the two Unicode separators, which are kept.
-/

namespace ApiComponents.Yaml

structure Mark where
  index : Nat
  line : Nat
  column : Nat
  deriving Repr, DecidableEq

def Mark.start : Mark := ⟨0, 0, 0⟩

def Mark.forward (mark : Mark) (count : Nat) : Mark :=
  { mark with index := mark.index + count, column := mark.column + count }

/-- The start of the next line, behind a break of some characters. -/
def Mark.nextLine (mark : Mark) (count : Nat) : Mark := ⟨mark.index + count, mark.line + 1, 0⟩

structure Cell where
  char : Char
  mark : Mark

structure Source where
  cells : List Cell
  stop : Mark

def isAllowed (c : Char) : Bool :=
  let n := c.toNat
  n == 0x09 || n == 0x0A || n == 0x0D || (0x20 ≤ n && n ≤ 0x7E) || n == 0x85 ||
    (0xA0 ≤ n && n ≤ 0xD7FF) || (0xE000 ≤ n && n ≤ 0xFFFD) || 0x10000 ≤ n

/-- Whether the character is one of the line breaks that are kept apart. -/
def isSeparator (c : Char) : Bool := c == '\u2028' || c == '\u2029'

def isBreak (c : Char) : Bool := c == '\n' || isSeparator c

def isBlank (c : Char) : Bool := c == ' ' || c == '\t'

def cellsFrom (found : Array Cell) (mark : Mark) : List Char → Array Cell × Mark
  | [] => (found, mark)
  | '\r' :: '\n' :: rest => cellsFrom (found.push ⟨'\n', mark⟩) (mark.nextLine 2) rest
  | c :: rest =>
      if c = '\r' ∨ c = '\u0085' then
        cellsFrom (found.push ⟨'\n', mark⟩) (mark.nextLine 1) rest
      else if isBreak c then cellsFrom (found.push ⟨c, mark⟩) (mark.nextLine 1) rest
      else cellsFrom (found.push ⟨c, mark⟩) (mark.forward 1) rest

def byteOrderMark : Char := '\uFEFF'

/-- The source of a text, unless it has characters that no source may hold. A byte order mark in
    front is no part of it. -/
def Source.ofText? (text : String) : Option Source :=
  let chars := text.toList
  let chars := if chars.head? == some byteOrderMark then chars.tail else chars
  if chars.all isAllowed then
    let (cells, stop) := cellsFrom #[] .start chars
    some ⟨cells.toList, stop⟩
  else none

def Source.markOf (source : Source) (cells : List Cell) : Mark :=
  match cells with
  | [] => source.stop
  | cell :: _ => cell.mark

end ApiComponents.Yaml
