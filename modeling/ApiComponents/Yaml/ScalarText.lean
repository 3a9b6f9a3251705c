import ApiComponents.Yaml.Source

/-! # The text of YAML scalars

How the characters of a scalar in a source become its text: folding of line breaks, escapes,
indentation and chomping. Each reader takes the cells from the start of the scalar and gives
the text and the cells behind it.
-/

namespace ApiComponents.Yaml

def headChar (cells : List Cell) : Option Char := cells.head?.map Cell.char

/-- Whether a blank, a line break or the end of the source comes next. -/
def atBlankOrEnd (cells : List Cell) : Bool :=
  match cells with
  | [] => true
  | cell :: _ => isBlank cell.char || isBreak cell.char

/-- Whether three dashes or three dots stand alone at the start of a line. -/
def atDocumentMark (cells : List Cell) : Bool :=
  match cells with
  | a :: b :: c :: rest =>
      a.mark.column == 0 && a.char == b.char && b.char == c.char &&
        (a.char == '-' || a.char == '.') && atBlankOrEnd rest
  | _ => false

/-- What stands between two stretches of text. -/
inductive Gap where
  | none
  | blanks (chars : List Char)
  /-- A first line break, unless it was escaped, and the breaks of empty lines. -/
  | breaks (first : Option Char) (others : List Char)

namespace Gap

def addBlank (gap : Gap) (c : Char) : Gap :=
  match gap with
  | none => blanks [c]
  | blanks chars => blanks (chars ++ [c])
  | breaks first others => breaks first others

def addBreak (gap : Gap) (c : Char) : Gap :=
  match gap with
  | breaks first others => breaks first (others ++ [c])
  | _ => breaks (some c) []

/-- The text that a gap stands for: a single line break becomes a space. -/
def text : Gap → List Char
  | none => []
  | blanks chars => chars
  | breaks (some '\n') [] => [' ']
  | breaks (some '\n') others => others
  | breaks first others => first.toList ++ others

def isBroken : Gap → Bool
  | breaks _ _ => true
  | _ => false

end Gap

/-! ## Quoted scalars -/

/-- What the next character of a quoted scalar is read as. -/
inductive QuotedMode where
  | plain
  /-- The second of two quotes that stand for one. -/
  | doubled
  | escape
  /-- A digit of an escape, with the number of digits left and the value so far. -/
  | digits (left value : Nat)

/-- What the letter of an escape stands for. -/
inductive Escape where
  | char (c : Char)
  | digits (count : Nat)
  /-- A line break that is no part of the text. -/
  | lineBreak
  | unknown

def Escape.of (c : Char) : Escape :=
  match c with
  | '0' => char '\x00'
  | 'a' => char '\x07'
  | 'b' => char '\x08'
  | 't' | '\t' => char '\t'
  | 'n' => char '\n'
  | 'v' => char '\x0b'
  | 'f' => char '\x0c'
  | 'r' => char '\r'
  | 'e' => char '\x1b'
  | ' ' => char ' '
  | '"' => char '"'
  | '/' => char '/'
  | '\\' => char '\\'
  | 'N' => char '\u0085'
  | '_' => char '\u00a0'
  | 'L' => char '\u2028'
  | 'P' => char '\u2029'
  | 'x' => digits 2
  | 'u' => digits 4
  | 'U' => digits 8
  | c => if isBreak c then lineBreak else unknown

def hexDigit? (c : Char) : Option Nat :=
  if c.isDigit then some (c.toNat - '0'.toNat)
  else if 'a' ≤ c ∧ c ≤ 'f' then some (c.toNat - 'a'.toNat + 10)
  else if 'A' ≤ c ∧ c ≤ 'F' then some (c.toNat - 'A'.toNat + 10)
  else none

def codePoint? (value : Nat) : Option Char :=
  if value.isValidChar then some (Char.ofNat value) else none

def quotedText (isDouble : Bool) (found : Array Char) (gap : Gap) (mode : QuotedMode) :
    List Cell → Option (Array Char × List Cell)
  | [] => none
  | cell :: rest =>
      let c := cell.char
      match mode with
      | .doubled => quotedText isDouble (found.push '\'') .none .plain rest
      | .escape =>
          match Escape.of c with
          | .char d => quotedText isDouble (found.push d) .none .plain rest
          | .digits count => quotedText isDouble found .none (.digits count 0) rest
          | .lineBreak => quotedText isDouble found (.breaks none []) .plain rest
          | .unknown => none
      | .digits left value =>
          match hexDigit? c with
          | none => none
          | some digit =>
              let value := value * 16 + digit
              if left ≤ 1 then
                match codePoint? value with
                | some d => quotedText isDouble (found.push d) .none .plain rest
                | none => none
              else quotedText isDouble found .none (.digits (left - 1) value) rest
      | .plain =>
          if isBlank c then quotedText isDouble found (gap.addBlank c) .plain rest
          else if isBreak c then quotedText isDouble found (gap.addBreak c) .plain rest
          else if atDocumentMark (cell :: rest) then none
          else
            let found := found ++ gap.text
            if isDouble then
              if c = '"' then some (found, rest)
              else if c = '\\' then quotedText isDouble found .none .escape rest
              else quotedText isDouble (found.push c) .none .plain rest
            else if c = '\'' then
              if headChar rest == some '\'' then quotedText isDouble found .none .doubled rest
              else some (found, rest)
            else quotedText isDouble (found.push c) .none .plain rest

/-! ## Plain scalars -/

def isFlowMark (c : Char) : Bool :=
  c == ',' || c == '[' || c == ']' || c == '\x7b' || c == '\x7d'

/-- The result of reading a plain scalar. -/
structure PlainText where
  chars : Array Char
  /-- The cells behind it and behind the blanks that follow. -/
  rest : List Cell
  isBroken : Bool

/-- Read a plain scalar, inside brackets or not; outside, the lines behind the first stand at
    least at the column `margin`. -/
def plainText (isFlow : Bool) (margin : Nat) (found : Array Char) (gap : Gap) :
    List Cell → Option PlainText
  | [] => some ⟨found, [], gap.isBroken⟩
  | cell :: rest =>
      let c := cell.char
      let done : PlainText := ⟨found, cell :: rest, gap.isBroken⟩
      if isBlank c then
        if gap.isBroken ∧ cell.mark.column < margin ∧ c = '\t' then none
        else plainText isFlow margin found (gap.addBlank c) rest
      else if isBreak c then plainText isFlow margin found (gap.addBreak c) rest
      else
        let resumes : Bool :=
          match gap with
          | .none => false
          | _ => true
        if resumes ∧ ¬ isFlow ∧ cell.mark.column < margin then some done
        else if (resumes ∧ c = '#') ∨ atDocumentMark (cell :: rest) then some done
        else if isFlow ∧ c = ':' ∧
            (headChar rest).any (fun d => isFlowMark d || d == '?') then none
        else if (c = ':' ∧ atBlankOrEnd rest) ∨ (isFlow ∧ isFlowMark c) then some done
        else plainText isFlow margin (found ++ (gap.text ++ [c])) .none rest

/-! ## Block scalars -/

/-- What happens to the line breaks at the end of a block scalar. -/
inductive Chomping where
  | strip
  | clip
  | keep
  deriving DecidableEq

structure BlockHeader where
  chomping : Chomping := .clip
  /-- Its indentation relative to the surrounding block, if given. -/
  indentation : Option Nat := none

def chomping? : Option Char → Option Chomping
  | some '+' => some .keep
  | some '-' => some .strip
  | _ => none

/-- Drop a comment and the blanks before it, up to the end of the line. -/
def dropComment (inComment : Bool) : List Cell → List Cell
  | [] => []
  | cell :: rest =>
      if isBreak cell.char then cell :: rest
      else if inComment || isBlank cell.char then dropComment inComment rest
      else if cell.char = '#' then dropComment true rest
      else cell :: rest

/-- Drop the rest of a line that holds a comment at most, and its break. -/
def dropLineEnd? (cells : List Cell) : Option (List Cell) :=
  match dropComment false cells with
  | [] => some []
  | cell :: rest => if isBreak cell.char then some rest else none

/-- An indentation digit: none at all, a faulty zero or a number. -/
def indentation? (cells : List Cell) : Option (Option Nat × List Cell) :=
  match cells with
  | cell :: rest =>
      if cell.char = '0' then none
      else if cell.char.isDigit then some (some (cell.char.toNat - '0'.toNat), rest)
      else some (none, cells)
  | [] => some (none, [])

/-- Read the header of a block scalar, up to the end of its line. -/
def blockHeader? (cells : List Cell) : Option (BlockHeader × List Cell) :=
  match chomping? (headChar cells) with
  | some chomping => do
      let (indentation, rest) ← indentation? cells.tail
      let rest ← dropLineEnd? rest
      some ({ chomping, indentation }, rest)
  | none => do
      let (indentation, rest) ← indentation? cells
      match indentation, chomping? (headChar rest) with
      | some _, some chomping => do
          let rest ← dropLineEnd? rest.tail
          some ({ chomping, indentation }, rest)
      | _, _ => do
          let rest ← dropLineEnd? rest
          some ({ indentation }, rest)

/-- The state of reading a block scalar. -/
structure BlockState where
  found : Array Char := #[]
  lastBreak : Option Char := none
  emptyBreaks : List Char := []
  /-- Whether the last line with text began with a blank. -/
  wasIndented : Bool := false
  indentation : Option Nat
  /-- The widest indentation of the empty lines at the start. -/
  widest : Nat := 0
  inLine : Bool := false

namespace BlockState

/-- The text in front of a line: a single line break between two lines that are not indented is
    folded. -/
def joint (isLiteral startsBlank : Bool) (state : BlockState) : List Char :=
  let folds := !isLiteral && state.lastBreak == some '\n' && !state.wasIndented && !startsBlank
  if folds then if state.emptyBreaks.isEmpty then [' '] else state.emptyBreaks
  else state.lastBreak.toList ++ state.emptyBreaks

def finish (chomping : Chomping) (state : BlockState) : Array Char :=
  match chomping with
  | .strip => state.found
  | .clip => state.found ++ state.lastBreak.toList
  | .keep => state.found ++ (state.lastBreak.toList ++ state.emptyBreaks)

/-- The indentation of a line with text, given the one of the surrounding block. -/
def settled (parent : Int) (state : BlockState) : Nat :=
  match state.indentation with
  | some indentation => indentation
  | none => max state.widest (max 1 (parent + 1).toNat)

end BlockState

/-- Read the lines of a block scalar inside a block of the indentation `parent`. -/
def blockLines (isLiteral : Bool) (chomping : Chomping) (parent : Int) (state : BlockState) :
    List Cell → Option (Array Char × List Cell)
  | [] => some (state.finish chomping, [])
  | cell :: rest =>
      let c := cell.char
      let column := cell.mark.column
      if state.inLine then
        if isBreak c then
          blockLines isLiteral chomping parent
            { state with lastBreak := some c, emptyBreaks := [], inLine := false } rest
        else
          blockLines isLiteral chomping parent { state with found := state.found.push c } rest
      else
        let isMargin := state.indentation.all fun indentation => column < indentation
        if isMargin ∧ c = ' ' then blockLines isLiteral chomping parent state rest
        else if isMargin ∧ c = '\t' then none
        else
          let state := { state with widest := max state.widest column }
          if isBreak c then
            blockLines isLiteral chomping parent
              { state with emptyBreaks := state.emptyBreaks ++ [c] } rest
          else
            let indentation := state.settled parent
            if column = indentation then
              let startsBlank := isBlank c
              blockLines isLiteral chomping parent
                { state with
                  found := (state.found ++ state.joint isLiteral startsBlank).push c
                  lastBreak := none
                  emptyBreaks := []
                  wasIndented := startsBlank
                  indentation := some indentation
                  inLine := true } rest
            else some (state.finish chomping, cell :: rest)

def blockText (isLiteral : Bool) (parent : Int) (cells : List Cell) :
    Option (Array Char × List Cell) := do
  let (header, rest) ← blockHeader? cells
  let indentation := header.indentation.map fun width =>
    if 0 ≤ parent then parent.toNat + width else width
  blockLines isLiteral header.chomping parent { indentation } rest

end ApiComponents.Yaml
