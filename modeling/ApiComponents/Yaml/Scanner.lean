import ApiComponents.Yaml.ScalarText
import ApiComponents.Yaml.Source

/-! # Scanning YAML tokens

A source is cut into tokens: the marks, brackets and scalars that it consists of. Indentation
shows as start and end tokens of block collections. A colon may turn what stands before it on its
line into a key, so the scanner remembers where a key could have started and puts the key token in
there later.
-/

namespace ApiComponents.Yaml

inductive TokenKind where
  | version (major minor : Nat)
  | tagHandle (handle meaning : String)
  | documentStart
  | documentEnd
  | blockListStart
  | blockMapStart
  | blockEnd
  | flowListStart
  | flowListEnd
  | flowMapStart
  | flowMapEnd
  | blockEntry
  | flowEntry
  | key
  | value
  | aliasOf (name : String)
  | anchor (name : String)
  | tag (handle suffix : String)
  /-- A scalar, written plainly or not. -/
  | scalar (text : String) (isPlain : Bool)
  | sourceEnd
  deriving Repr, DecidableEq

structure Token where
  kind : TokenKind
  start : Mark
  /-- Where it ends; this is known for marks and brackets only. -/
  stop : Mark
  deriving Repr, DecidableEq

/-- A place where a key could have started. -/
structure PossibleKey where
  position : Nat
  mark : Mark
  isRequired : Bool

structure Scanner where
  source : Source
  rest : List Cell
  tokens : Array Token := #[]
  flowDepth : Nat := 0
  /-- The column of the innermost block collection, or -1. -/
  indent : Int := -1
  outerIndents : List Int := []
  keyAllowed : Bool := true
  /-- The possible keys, one place for each open bracket and one for the block context. -/
  possibleKeys : List (Option PossibleKey) := [none]

namespace Scanner

def mark (s : Scanner) : Mark := s.source.markOf s.rest

def push (s : Scanner) (kind : TokenKind) (start stop : Mark) : Scanner :=
  { s with tokens := s.tokens.push ⟨kind, start, stop⟩ }

def skip (s : Scanner) (count : Nat) : Scanner := { s with rest := s.rest.drop count }

/-- Add a token of as many characters as given, and go over them. -/
def take (s : Scanner) (kind : TokenKind) (count : Nat) : Scanner :=
  (s.push kind s.mark (s.mark.forward count)).skip count

/-! ## Indentation -/

/-- Close block collections that stand to the right of a column. -/
def closeBlocks (column : Int) (mark : Mark) (tokens : Array Token) (indent : Int) :
    List Int → Array Token × Int × List Int
  | [] => (tokens, indent, [])
  | outer :: others =>
      if column < indent then
        closeBlocks column mark (tokens.push ⟨.blockEnd, mark, mark⟩) outer others
      else (tokens, indent, outer :: others)

/-- Close block collections that stand to the right of a column; inside brackets nothing ends. -/
def unroll (column : Int) (mark : Mark) (s : Scanner) : Scanner :=
  if 0 < s.flowDepth then s
  else
    let (tokens, indent, outerIndents) := closeBlocks column mark s.tokens s.indent s.outerIndents
    { s with tokens, indent, outerIndents }

/-- Open a block collection at a column, if it stands to the right of the innermost one. Its
    token goes to a position among the tokens. -/
def roll (position : Nat) (kind : TokenKind) (mark : Mark) (s : Scanner) : Scanner :=
  if 0 < s.flowDepth ∨ (mark.column : Int) ≤ s.indent then s
  else
    { s with
      outerIndents := s.indent :: s.outerIndents
      indent := mark.column
      tokens := s.tokens.insertIdxIfInBounds position ⟨kind, mark, mark⟩ }

/-! ## Possible keys -/

/-- Forget the innermost possible key; one that is required is missed. -/
def dropKey? (s : Scanner) : Option Scanner :=
  match s.possibleKeys with
  | some key :: others =>
      if key.isRequired then none else some { s with possibleKeys := none :: others }
  | _ => some s

def saveKey? (s : Scanner) : Option Scanner :=
  if s.keyAllowed then do
    let isRequired := s.flowDepth = 0 ∧ s.indent = s.mark.column
    let s ← s.dropKey?
    some
      { s with
        possibleKeys := some ⟨s.tokens.size, s.mark, isRequired⟩ :: s.possibleKeys.tail }
  else some s

def keyLength : Nat := 1024

/-- Forget a possible key that is too far away; one that is required is missed. -/
def freshKey? (here : Mark) : Option PossibleKey → Option (Option PossibleKey)
  | none => some none
  | some key =>
      if key.mark.line < here.line ∨ key.mark.index + keyLength < here.index then
        if key.isRequired then none else some none
      else some (some key)

def freshKeys? (s : Scanner) : Option Scanner := do
  let possibleKeys ← s.possibleKeys.mapM (freshKey? s.mark)
  some { s with possibleKeys }

/-! ## Blanks and comments -/

/-- Go over blanks, comments and line breaks. Outside of brackets a new line may start a key. -/
def skipBlanks (isFlow keyAllowed inComment : Bool) : List Cell → List Cell × Bool
  | [] => ([], keyAllowed)
  | cell :: rest =>
      let c := cell.char
      if isBreak c then skipBlanks isFlow (keyAllowed || !isFlow) false rest
      else if inComment || c == ' ' || (c == '\t' && (isFlow || !keyAllowed)) then
        skipBlanks isFlow keyAllowed inComment rest
      else if c = '#' then skipBlanks isFlow keyAllowed true rest
      else if c = byteOrderMark ∧ cell.mark.index = 0 then
        skipBlanks isFlow keyAllowed false rest
      else (cell :: rest, keyAllowed)

/-- Go to the start of the next token, and close what its column closes. -/
def advance? (s : Scanner) : Option Scanner := do
  let (rest, keyAllowed) := skipBlanks (0 < s.flowDepth) s.keyAllowed false s.rest
  let s ← { s with rest, keyAllowed }.freshKeys?
  some (s.unroll s.mark.column s.mark)

/-! ## Names, tags and directives -/

/-- Whether the character may stand in an anchor, handle or directive name. -/
def isNameChar (c : Char) : Bool := c.isAlphanum || c == '_' || c == '-'

/-- The characters at the start that fulfil a condition, and what follows. -/
def spanChars (p : Char → Bool) (cells : List Cell) : List Char × List Cell :=
  let found := cells.takeWhile fun cell => p cell.char
  (found.map Cell.char, cells.drop found.length)

def name? (cells : List Cell) : Option (String × List Cell) :=
  match spanChars isNameChar cells with
  | ([], _) => none
  | (chars, rest) => some (String.ofList chars, rest)

/-- The handle of a tag at the start: an exclamation mark, or a name between two of them. -/
def handle? (cells : List Cell) : Option (List Char × List Cell) :=
  if headChar cells == some '!' then
    let (name, rest) := spanChars isNameChar cells.tail
    if headChar rest == some '!' then some ('!' :: name ++ ['!'], rest.tail)
    else some ('!' :: name, rest)
  else none

/-- Whether the character may stand in the rest of a tag. -/
def isTagChar (isVerbatim : Bool) (c : Char) : Bool :=
  isNameChar c || ";/?:@&=+$.%!~*'()".contains c || (isVerbatim && [',', '[', ']'].contains c)

/-- The bytes that an escape adds to a tag, with the number of further bytes that must follow. -/
def escapedByte? (pending : Nat) (a b : Char) : Option (UInt8 × Nat) := do
  let a ← hexDigit? a
  let b ← hexDigit? b
  let byte := a * 16 + b
  if pending = 0 then
    let width? : Option Nat :=
      if byte < 0x80 then some 0
      else if byte / 0x20 = 6 then some 1
      else if byte / 0x10 = 14 then some 2
      else if byte / 0x08 = 30 then some 3
      else none
    let width ← width?
    some (UInt8.ofNat byte, width)
  else if byte / 0x40 = 2 then some (UInt8.ofNat byte, pending - 1)
  else none

/-- The bytes of tag characters with their escapes resolved; `pending` bytes of one character
    are missing. -/
def tagBytes? (found : Array UInt8) (pending : Nat) : List Char → Option (Array UInt8)
  | [] => if pending = 0 then some found else none
  | '%' :: a :: b :: rest => do
      let (byte, pending) ← escapedByte? pending a b
      tagBytes? (found.push byte) pending rest
  | '%' :: _ => none
  | c :: rest =>
      if pending = 0 then tagBytes? (found ++ (String.singleton c).toUTF8.toList) 0 rest
      else none

/-- The rest of a tag at the start; it is empty only if it goes on from a head. -/
def tagText? (isVerbatim hasHead : Bool) (cells : List Cell) : Option (String × List Cell) :=
  let (chars, rest) := spanChars (isTagChar isVerbatim) cells
  if chars.isEmpty ∧ ¬ hasHead then none
  else do
    let bytes ← tagBytes? #[] 0 chars
    let text := (String.fromUTF8? ⟨bytes⟩).getD "\uFFFD"
    some (text, rest)

def tag? (cells : List Cell) : Option (String × String × List Cell) :=
  match cells.tail with
  | ⟨'<', _⟩ :: verbatim => do
      let (text, rest) ← tagText? true false verbatim
      if headChar rest == some '>' then some ("", text, rest.tail) else none
  | _ => do
      let (handle, rest) ← handle? cells
      if 1 < handle.length ∧ handle.getLast? = some '!' then
        let (text, rest) ← tagText? false false rest
        some (String.ofList handle, text, rest)
      else
        let (text, rest) ← tagText? false true rest
        let text := String.ofList handle.tail ++ text
        if text.isEmpty then some ("", "!", rest) else some ("!", text, rest)

def dropBlanks (cells : List Cell) : List Cell := cells.dropWhile fun cell => isBlank cell.char

def versionNumber? (cells : List Cell) : Option (Nat × List Cell) :=
  let (digits, rest) := spanChars Char.isDigit cells
  if digits.isEmpty ∨ 9 < digits.length then none
  else some (digits.foldl (fun n c => n * 10 + (c.toNat - '0'.toNat)) 0, rest)

/-- A directive from its name on, and what follows its line. -/
def directive? (cells : List Cell) : Option (TokenKind × List Cell) := do
  let (name, rest) ← name? cells
  if ¬ atBlankOrEnd rest then none
  else if name = "YAML" then
    let (major, rest) ← versionNumber? (dropBlanks rest)
    if headChar rest == some '.' then
      let (minor, rest) ← versionNumber? rest.tail
      let rest ← dropLineEnd? rest
      some (.version major minor, rest)
    else none
  else if name = "TAG" then
    let (handle, rest) ← handle? (dropBlanks rest)
    if 1 < handle.length ∧ handle.getLast? ≠ some '!' then none
    else if ¬ (headChar rest).any isBlank then none
    else
      let (meaning, rest) ← tagText? true false (dropBlanks rest)
      if ¬ atBlankOrEnd rest then none
      else
        let rest ← dropLineEnd? rest
        some (.tagHandle (String.ofList handle) meaning, rest)
  else none

/-! ## Tokens -/

def directiveToken? (s : Scanner) : Option Scanner := do
  let s ← (s.unroll (-1) s.mark).dropKey?
  let (kind, rest) ← directive? s.rest.tail
  some { s.push kind s.mark s.mark with rest, keyAllowed := false }

def documentToken? (kind : TokenKind) (s : Scanner) : Option Scanner := do
  let s ← (s.unroll (-1) s.mark).dropKey?
  some { s.take kind 3 with keyAllowed := false }

def openingToken? (kind : TokenKind) (s : Scanner) : Option Scanner := do
  let s ← s.saveKey?
  some
    { s.take kind 1 with
      possibleKeys := none :: s.possibleKeys, flowDepth := s.flowDepth + 1, keyAllowed := true }

def closingToken? (kind : TokenKind) (s : Scanner) : Option Scanner := do
  let s ← s.dropKey?
  let possibleKeys := if 0 < s.flowDepth then s.possibleKeys.tail else s.possibleKeys
  some { s.take kind 1 with possibleKeys, flowDepth := s.flowDepth - 1, keyAllowed := false }

def flowEntryToken? (s : Scanner) : Option Scanner := do
  let s ← s.dropKey?
  some { s.take .flowEntry 1 with keyAllowed := true }

def blockEntryToken? (s : Scanner) : Option Scanner := do
  if s.flowDepth = 0 ∧ ¬ s.keyAllowed then none
  else
    let s ← (s.roll s.tokens.size .blockListStart s.mark).dropKey?
    some { s.take .blockEntry 1 with keyAllowed := true }

def keyToken? (s : Scanner) : Option Scanner := do
  if s.flowDepth = 0 ∧ ¬ s.keyAllowed then none
  else
    let s ← (s.roll s.tokens.size .blockMapStart s.mark).dropKey?
    some { s.take .key 1 with keyAllowed := s.flowDepth == 0 }

/-- Fetch a colon: behind a possible key, or behind a key that was marked. -/
def valueToken? (s : Scanner) : Option Scanner :=
  match s.possibleKeys with
  | some key :: others =>
      let tokens := s.tokens.insertIdxIfInBounds key.position ⟨.key, key.mark, key.mark⟩
      let s := { s with tokens, possibleKeys := none :: others }
      some { (s.roll key.position .blockMapStart key.mark).take .value 1 with keyAllowed := false }
  | _ =>
      if s.flowDepth = 0 ∧ ¬ s.keyAllowed then none
      else
        let s := s.roll s.tokens.size .blockMapStart s.mark
        some { s.take .value 1 with keyAllowed := s.flowDepth == 0 }

def atAnchorEnd (cells : List Cell) : Bool :=
  atBlankOrEnd cells || (headChar cells).any fun c => "?:,]\x7d%@\u0060".contains c

def anchorToken? (kind : String → TokenKind) (s : Scanner) : Option Scanner := do
  let s ← s.saveKey?
  let (name, rest) ← name? s.rest.tail
  if atAnchorEnd rest then some { s.push (kind name) s.mark s.mark with rest, keyAllowed := false }
  else none

def tagToken? (s : Scanner) : Option Scanner := do
  let s ← s.saveKey?
  let (handle, text, rest) ← tag? s.rest
  if atBlankOrEnd rest ∨ (0 < s.flowDepth ∧ headChar rest = some ',') then
    some { s.push (.tag handle text) s.mark s.mark with rest, keyAllowed := false }
  else none

def blockScalarToken? (isLiteral : Bool) (s : Scanner) : Option Scanner := do
  let s ← s.dropKey?
  let (chars, rest) ← blockText isLiteral s.indent s.rest.tail
  some
    { s.push (.scalar (String.ofList chars.toList) false) s.mark s.mark with
      rest, keyAllowed := true }

def quotedScalarToken? (isDouble : Bool) (s : Scanner) : Option Scanner := do
  let s ← s.saveKey?
  let (chars, rest) ← quotedText isDouble #[] .none .plain s.rest.tail
  some
    { s.push (.scalar (String.ofList chars.toList) false) s.mark s.mark with
      rest, keyAllowed := false }

def plainScalarToken? (s : Scanner) : Option Scanner := do
  let s ← s.saveKey?
  let result ← plainText (0 < s.flowDepth) (s.indent + 1).toNat #[] .none s.rest
  some
    { s.push (.scalar (String.ofList result.chars.toList) true) s.mark s.mark with
      rest := result.rest, keyAllowed := result.isBroken }

/-- Whether the character has a meaning of its own at the start of a token. -/
def isIndicator (c : Char) : Bool := "-?:,[]\x7b\x7d#&*!|>'\"%@\u0060".contains c

def token? (c : Char) (s : Scanner) : Option Scanner :=
  let isFlow : Bool := 0 < s.flowDepth
  let isAlone := atBlankOrEnd s.rest.tail
  if s.mark.column = 0 ∧ c = '%' then s.directiveToken?
  else if atDocumentMark s.rest then
    s.documentToken? (if c = '-' then .documentStart else .documentEnd)
  else if c = '[' then s.openingToken? .flowListStart
  else if c = '\x7b' then s.openingToken? .flowMapStart
  else if c = ']' then s.closingToken? .flowListEnd
  else if c = '\x7d' then s.closingToken? .flowMapEnd
  else if c = ',' then s.flowEntryToken?
  else if c = '-' ∧ isAlone then s.blockEntryToken?
  else if c = '?' ∧ (isFlow ∨ isAlone) then s.keyToken?
  else if c = ':' ∧ (isFlow ∨ isAlone) then s.valueToken?
  else if c = '*' then s.anchorToken? .aliasOf
  else if c = '&' then s.anchorToken? .anchor
  else if c = '!' then s.tagToken?
  else if c = '|' ∧ ¬ isFlow then s.blockScalarToken? true
  else if c = '>' ∧ ¬ isFlow then s.blockScalarToken? false
  else if c = '\'' then s.quotedScalarToken? false
  else if c = '"' then s.quotedScalarToken? true
  else if ¬ (isIndicator c ∨ isBlank c) ∨ (c = '-' ∧ ¬ (headChar s.rest.tail).any isBlank) ∨
      (¬ isFlow ∧ (c = '?' ∨ c = ':')) then
    s.plainScalarToken?
  else none

def finish? (s : Scanner) : Option (Array Token) := do
  let mark := if s.mark.column = 0 then s.mark else s.mark.nextLine 0
  let s ← (s.unroll (-1) mark).dropKey?
  some (s.push .sourceEnd mark mark).tokens

/-- Fetch all tokens. Each takes a character at least, which bounds the fuel. -/
def run? (fuel : Nat) (s : Scanner) : Option (Array Token) :=
  match fuel, s.advance? with
  | 0, _ | _, none => none
  | fuel + 1, some s =>
      match s.rest with
      | [] => s.finish?
      | cell :: _ =>
          match s.token? cell.char with
          | some s => run? fuel s
          | none => none

end Scanner

/-- The tokens of a source, if it can be cut into tokens. -/
def Source.tokens? (source : Source) : Option (List Token) :=
  (Scanner.run? (source.cells.length + 1) { source, rest := source.cells }).map Array.toList

end ApiComponents.Yaml
