import ApiComponents.Yaml.Scanner

/-! # YAML as it is written

The nodes of a document in the order of its tokens. An alias still stands for itself: as the
name of an anchor first, and as the number of one once the names are resolved.
-/

namespace ApiComponents.Yaml

/-- What may stand in front of a node. -/
structure Properties where
  anchor : Option String := none
  tag : Option String := none
  deriving Repr, DecidableEq

/-- A node as it is written, with aliases of some type. -/
inductive Written (α : Type) where
  | aliasOf (target : α) (mark : Mark)
  /-- A scalar, written plainly or not. -/
  | scalar (properties : Properties) (mark : Mark) (text : String) (isPlain : Bool)
  | list (properties : Properties) (mark : Mark) (items : List (Written α))
  | map (properties : Properties) (mark : Mark) (entries : List (Written α × Written α))

namespace Written

def nothing (mark : Mark) : Written String := .scalar {} mark "" true

end Written

/-- The tag handles of a document and what they mean. -/
abbrev TagHandles := List (String × String)

def standardHandles : TagHandles := [("!", "!"), ("!!", "tag:yaml.org,2002:")]

def resolveTag? (handles : TagHandles) (handle rest : String) : Option String :=
  if handle.isEmpty then some rest
  else (handles.lookup handle).map (· ++ rest)

/-- Read the properties in front of a node: an anchor and a tag in either order. -/
def propertiesAt? (handles : TagHandles) : List Token → Option (Properties × List Token)
  | ⟨.anchor name, _, _⟩ :: ⟨.tag handle rest, _, _⟩ :: others
  | ⟨.tag handle rest, _, _⟩ :: ⟨.anchor name, _, _⟩ :: others => do
      let tag ← resolveTag? handles handle rest
      some ({ anchor := some name, tag := some tag }, others)
  | ⟨.anchor name, _, _⟩ :: others => some ({ anchor := some name }, others)
  | ⟨.tag handle rest, _, _⟩ :: others => do
      let tag ← resolveTag? handles handle rest
      some ({ tag := some tag }, others)
  | others => some ({}, others)

def Properties.isEmpty (properties : Properties) : Bool :=
  properties.anchor.isNone && properties.tag.isNone

def firstKind (tokens : List Token) : TokenKind :=
  match tokens with
  | token :: _ => token.kind
  | [] => .sourceEnd

def firstMark (tokens : List Token) : Mark :=
  match tokens with
  | token :: _ => token.start
  | [] => .start

mutual
/-- Read a node. Outside of brackets it may be a block collection, and as a value also a
    sequence that is not indented. The fuel bounds the tokens that are left. -/
def nodeAt? (fuel : Nat) (handles : TagHandles) (isBlock isValue : Bool) (tokens : List Token) :
    Option (Written String × List Token) :=
  match fuel, tokens with
  | 0, _ | _, [] => none
  | _, ⟨.aliasOf name, mark, _⟩ :: rest => some (.aliasOf name mark, rest)
  | fuel + 1, first :: _ => do
      let (properties, rest) ← propertiesAt? handles tokens
      let mark := first.start
      match firstKind rest with
      | .blockEntry =>
          if isValue then
            let (items, rest) ← looseItemsAt? fuel handles #[] rest
            some (.list properties mark items, rest)
          else emptyNode? properties mark rest
      | .scalar text isPlain => some (.scalar properties mark text isPlain, rest.tail)
      | .flowListStart =>
          let (items, rest) ← flowItemsAt? fuel handles true #[] rest.tail
          some (.list properties mark items, rest)
      | .flowMapStart =>
          let (entries, rest) ← flowEntriesAt? fuel handles true #[] rest.tail
          some (.map properties mark entries, rest)
      | .blockListStart =>
          if isBlock then
            let (items, rest) ← blockItemsAt? fuel handles #[] rest.tail
            some (.list properties mark items, rest)
          else emptyNode? properties mark rest
      | .blockMapStart =>
          if isBlock then
            let (entries, rest) ← blockEntriesAt? fuel handles #[] rest.tail
            some (.map properties mark entries, rest)
          else emptyNode? properties mark rest
      | _ => emptyNode? properties mark rest

def emptyNode? (properties : Properties) (mark : Mark) (rest : List Token) :
    Option (Written String × List Token) :=
  if properties.isEmpty then none else some (.scalar properties mark "" true, rest)

def blockItemsAt? (fuel : Nat) (handles : TagHandles) (found : Array (Written String))
    (tokens : List Token) : Option (List (Written String) × List Token) :=
  match fuel, tokens with
  | fuel + 1, ⟨.blockEntry, _, stop⟩ :: rest =>
      match firstKind rest with
      | .blockEntry | .blockEnd => blockItemsAt? fuel handles (found.push (.nothing stop)) rest
      | _ => do
          let (item, rest) ← nodeAt? fuel handles true false rest
          blockItemsAt? fuel handles (found.push item) rest
  | _, ⟨.blockEnd, _, _⟩ :: rest => some (found.toList, rest)
  | _, _ => none

/-- Read the items of a sequence that is not indented, behind those found. -/
def looseItemsAt? (fuel : Nat) (handles : TagHandles) (found : Array (Written String))
    (tokens : List Token) : Option (List (Written String) × List Token) :=
  match fuel, tokens with
  | fuel + 1, ⟨.blockEntry, _, stop⟩ :: rest =>
      match firstKind rest with
      | .blockEntry | .key | .value | .blockEnd =>
          looseItemsAt? fuel handles (found.push (.nothing stop)) rest
      | _ => do
          let (item, rest) ← nodeAt? fuel handles true false rest
          looseItemsAt? fuel handles (found.push item) rest
  | 0, ⟨.blockEntry, _, _⟩ :: _ => none
  | _, rest => some (found.toList, rest)

def blockEntriesAt? (fuel : Nat) (handles : TagHandles)
    (found : Array (Written String × Written String)) (tokens : List Token) :
    Option (List (Written String × Written String) × List Token) :=
  match fuel, tokens with
  | fuel + 1, ⟨.key, _, stop⟩ :: rest => do
      let (key, rest) ← blockPartAt? fuel handles stop rest
      let (value, rest) ← blockValueAt? fuel handles rest
      blockEntriesAt? fuel handles (found.push (key, value)) rest
  | _, ⟨.blockEnd, _, _⟩ :: rest => some (found.toList, rest)
  | _, _ => none

/-- Read a key or a value of a block mapping, which may be empty. -/
def blockPartAt? (fuel : Nat) (handles : TagHandles) (stop : Mark) (tokens : List Token) :
    Option (Written String × List Token) :=
  match fuel, firstKind tokens with
  | 0, _ => none
  | _, .key | _, .value | _, .blockEnd => some (.nothing stop, tokens)
  | fuel + 1, _ => nodeAt? fuel handles true true tokens

/-- Read the value of an entry of a block mapping, which may be missing. -/
def blockValueAt? (fuel : Nat) (handles : TagHandles) (tokens : List Token) :
    Option (Written String × List Token) :=
  match fuel, tokens with
  | 0, _ => none
  | fuel + 1, ⟨.value, _, stop⟩ :: rest => blockPartAt? fuel handles stop rest
  | _, rest => some (.nothing (firstMark rest), rest)

/-- Read the items of a sequence in brackets, behind those found. -/
def flowItemsAt? (fuel : Nat) (handles : TagHandles) (isFirst : Bool)
    (found : Array (Written String)) (tokens : List Token) :
    Option (List (Written String) × List Token) :=
  match fuel, isFirst, tokens with
  | 0, _, _ => none
  | _, _, ⟨.flowListEnd, _, _⟩ :: rest => some (found.toList, rest)
  | fuel + 1, true, rest => flowItemAt? fuel handles found rest
  | fuel + 1, false, ⟨.flowEntry, _, _⟩ :: rest =>
      match rest with
      | ⟨.flowListEnd, _, _⟩ :: rest => some (found.toList, rest)
      | rest => flowItemAt? fuel handles found rest
  | _, false, _ => none

/-- Read one item of a sequence in brackets and those behind it. -/
def flowItemAt? (fuel : Nat) (handles : TagHandles) (found : Array (Written String))
    (tokens : List Token) : Option (List (Written String) × List Token) :=
  match fuel, tokens with
  | 0, _ => none
  | fuel + 1, ⟨.key, start, _⟩ :: rest => do
      let (key, rest) ← pairKeyAt? fuel handles rest
      let (value, rest) ← flowValueAt? fuel handles .flowListEnd rest
      flowItemsAt? fuel handles false (found.push (.map {} start [(key, value)])) rest
  | fuel + 1, rest => do
      let (item, rest) ← nodeAt? fuel handles false false rest
      flowItemsAt? fuel handles false (found.push item) rest

/-- Read the key of a single pair in a sequence. An empty key takes the next token with it. -/
def pairKeyAt? (fuel : Nat) (handles : TagHandles) (tokens : List Token) :
    Option (Written String × List Token) :=
  match fuel, tokens with
  | 0, _ | _, [] => none
  | fuel + 1, token :: rest =>
      match token.kind with
      | .value | .flowEntry | .flowListEnd => some (.nothing token.stop, rest)
      | _ => nodeAt? fuel handles false false (token :: rest)

/-- Read a value in brackets, which may be missing or empty. -/
def flowValueAt? (fuel : Nat) (handles : TagHandles) (closing : TokenKind)
    (tokens : List Token) : Option (Written String × List Token) :=
  match fuel, tokens with
  | 0, _ => none
  | fuel + 1, ⟨.value, _, _⟩ :: rest =>
      let kind := firstKind rest
      if kind = .flowEntry ∨ kind = closing then some (.nothing (firstMark rest), rest)
      else nodeAt? fuel handles false false rest
  | _, rest => some (.nothing (firstMark rest), rest)

/-- Read the entries of a mapping in braces, behind those found. -/
def flowEntriesAt? (fuel : Nat) (handles : TagHandles) (isFirst : Bool)
    (found : Array (Written String × Written String)) (tokens : List Token) :
    Option (List (Written String × Written String) × List Token) :=
  match fuel, isFirst, tokens with
  | 0, _, _ => none
  | _, _, ⟨.flowMapEnd, _, _⟩ :: rest => some (found.toList, rest)
  | fuel + 1, true, rest => flowPairAt? fuel handles found rest
  | fuel + 1, false, ⟨.flowEntry, _, _⟩ :: rest =>
      match rest with
      | ⟨.flowMapEnd, _, _⟩ :: rest => some (found.toList, rest)
      | rest => flowPairAt? fuel handles found rest
  | _, false, _ => none

/-- Read the marked key of an entry in braces, which may be empty. -/
def flowKeyAt? (fuel : Nat) (handles : TagHandles) (tokens : List Token) :
    Option (Written String × List Token) :=
  match fuel, firstKind tokens with
  | 0, _ => none
  | _, .value | _, .flowEntry | _, .flowMapEnd => some (.nothing (firstMark tokens), tokens)
  | fuel + 1, _ => nodeAt? fuel handles false false tokens

/-- Read one entry of a mapping in braces and those behind it. -/
def flowPairAt? (fuel : Nat) (handles : TagHandles)
    (found : Array (Written String × Written String)) (tokens : List Token) :
    Option (List (Written String × Written String) × List Token) :=
  match fuel, tokens with
  | 0, _ => none
  | fuel + 1, ⟨.key, _, _⟩ :: rest => do
      let (key, rest) ← flowKeyAt? fuel handles rest
      let (value, rest) ← flowValueAt? fuel handles .flowMapEnd rest
      flowEntriesAt? fuel handles false (found.push (key, value)) rest
  | fuel + 1, rest => do
      let (key, rest) ← nodeAt? fuel handles false false rest
      flowEntriesAt? fuel handles false (found.push (key, .nothing (firstMark rest))) rest
end

/-- The tag handles that directives add, and what follows the directives. A document may have one
    version directive, of a known version, and one directive for each handle. -/
def directivesAt? (hasVersion : Bool) (handles : TagHandles) :
    List Token → Option (TagHandles × List Token)
  | ⟨.version major minor, _, _⟩ :: rest =>
      if hasVersion ∨ major ≠ 1 ∨ (minor ≠ 1 ∧ minor ≠ 2) then none
      else directivesAt? true handles rest
  | ⟨.tagHandle handle meaning, _, _⟩ :: rest =>
      if (handles.lookup handle).isSome then none
      else directivesAt? hasVersion (handles ++ [(handle, meaning)]) rest
  | rest => some (handles, rest)

inductive WrittenSource where
  | empty (mark : Mark)
  | document (root : Written String)

/-- The root of a document whose tokens start behind its directives and its start mark. -/
def rootAt? (handles : TagHandles) (tokens : List Token) : Option (Written String × List Token) :=
  match firstKind tokens with
  | .version _ _ | .tagHandle _ _ | .documentStart | .documentEnd | .sourceEnd =>
      some (.nothing (firstMark tokens), tokens)
  | _ => nodeAt? (4 * tokens.length + 4) handles true false tokens

/-- Whether nothing but document ends and the end of the source is left. -/
def isOver (tokens : List Token) : Bool :=
  match tokens with
  | ⟨.sourceEnd, _, _⟩ :: _ => true
  | ⟨.documentEnd, _, _⟩ :: rest => isOver rest
  | _ => false

def WrittenSource.ofTokens? (tokens : List Token) : Option WrittenSource :=
  match firstKind tokens with
  | .sourceEnd => some (.empty (firstMark tokens))
  | .version _ _ | .tagHandle _ _ | .documentStart => do
      let (handles, rest) ← directivesAt? false [] tokens
      match rest with
      | ⟨.documentStart, _, _⟩ :: rest =>
          let (root, rest) ← rootAt? (handles ++ standardHandles) rest
          if isOver rest then some (.document root) else none
      | _ => none
  | _ => do
      let (root, rest) ← nodeAt? (4 * tokens.length + 4) standardHandles true false tokens
      if isOver rest then some (.document root) else none

end ApiComponents.Yaml
