import ApiComponents.Proofs.NumberTexts
import ApiComponents.Proofs.TreeBounds
import ApiComponents.Proofs.TreeReading

/-! # Compact texts are read back

The reader makes a tree again of its compact text, as long as the tree is not too deep and its
numbers come back from their own texts.
-/

namespace ApiComponents.Json

/-! ## Strings -/

/-- The piece of a string text stands for the character. -/
def Piece.Means (c : Char) : Piece → Prop
  | plain value | short value => value = c
  | unit value _ => value = c.toNat ∧ value < 0x20

theorem codeUnit?_control : ∀ n < 0x20,
    codeUnit? '0' '0' (hexDigit (n / 16)) (hexDigit n) = some n := by
  decide

/-- A character is written as one piece that stands for it. -/
theorem pieces_escaped (c : Char) (found : Array Piece) (place : Nat) (rest : List Char) :
    ∃ piece next, piece.Means c ∧
      pieces found place (escaped c ++ rest) = pieces (found.push piece) next rest := by
  unfold escaped
  split
  case h_8 notQuote notSlash _ _ _ _ _ =>
    split
    · next control =>
      refine ⟨.unit c.toNat (place + 6), place + 6, ⟨rfl, control⟩, ?_⟩
      simp only [List.cons_append, List.nil_append, pieces, codeUnit?_control _ control]
    · next shown =>
      refine ⟨.plain c, place + c.utf8Size, rfl, ?_⟩
      rw [List.singleton_append, pieces.eq_def]
      split <;> simp_all
  all_goals exact ⟨.short _, place + 2, rfl, rfl⟩

/-- So is a whole text, up to the quote that closes it. -/
theorem pieces_text (chars : List Char) (found : Array Piece) (place : Nat) (tail : List Char) :
    ∃ parts stop, List.Forall₂ Piece.Means chars parts ∧
      pieces found place (chars.flatMap escaped ++ '"' :: tail) =
        (found ++ parts.toArray, .closed ⟨stop, tail⟩) := by
  induction chars generalizing found place with
  | nil => exact ⟨[], place + 1, .nil, by simp [pieces]⟩
  | cons c chars ih =>
      obtain ⟨piece, next, means, step⟩ := pieces_escaped c found place
        (chars.flatMap escaped ++ '"' :: tail)
      obtain ⟨parts, stop, each, run⟩ := ih (found.push piece) next
      refine ⟨piece :: parts, stop, .cons means each, ?_⟩
      rw [List.flatMap_cons, List.append_assoc, step, run]
      simp

/-- Pieces are decoded to the characters that they stand for. -/
theorem decode_of_means {chars : List Char} {parts : List Piece}
    (each : List.Forall₂ Piece.Means chars parts) (after : Cursor) (found : Array Char) :
    decode (.closed after) found parts = .ok (found ++ chars.toArray) := by
  induction each generalizing found with
  | nil => simp [decode, TextEnd.fault?]
  | @cons c piece chars parts means _ ih =>
      have here : decode (.closed after) found (piece :: parts) =
          decode (.closed after) (found.push c) parts := by
        cases piece with
        | plain value | short value =>
            cases means
            rw [decode]
        | unit value stop =>
            obtain ⟨rfl, control⟩ := means
            have single : isTrailing c.toNat = false ∧ isLeading c.toNat = false := by
              constructor <;> simp [isTrailing, isLeading] <;> omega
            rw [decode.eq_def]
            simp only [single.1, single.2, Char.ofNat_toNat, Bool.false_eq_true, if_false]
      rw [here, ih]
      simp

/-- Behind its opening quote a text is read as it is. -/
theorem textAt_quoted (s : String) (place : Nat) (tail : List Char) :
    ∃ stop, textAt ⟨place, s.toList.flatMap escaped ++ '"' :: tail⟩ =
      .ok (.ok s, ⟨stop, tail⟩) := by
  obtain ⟨parts, stop, each, read⟩ := pieces_text s.toList #[] place tail
  refine ⟨stop, ?_⟩
  have decoded := decode_of_means each ⟨stop, tail⟩ #[]
  simp only [textAt, read, Array.empty_append, List.toList_toArray, decoded]
  simp [Except.map]

theorem toList_quoted (s : String) :
    (quoted s).toList = '"' :: (s.toList.flatMap escaped ++ ['"']) := by
  simp [quoted]

/-! ## Arrays and objects -/

/-- The parts behind an opening bracket, or behind some of them, up to the closing bracket. -/
def partsText (closing : Char) (isFirst : Bool) : List String → List Char
  | [] => [closing]
  | part :: parts =>
      (if isFirst then [] else [',']) ++ part.toList ++ partsText closing false parts

theorem toList_intercalate_cons (closing : Char) (part : String) (parts : List String) :
    (",".intercalate (part :: parts)).toList ++ [closing] =
      part.toList ++ partsText closing false parts := by
  induction parts generalizing part with
  | nil => simp [partsText]
  | cons next parts ih =>
      rw [String.intercalate_cons_cons, String.toList_append, List.append_assoc, ih, partsText]
      simp

theorem toList_intercalate (closing : Char) (parts : List String) :
    (",".intercalate parts).toList ++ [closing] = partsText closing true parts := by
  cases parts with
  | nil => rfl
  | cons part parts => exact toList_intercalate_cons closing part parts

theorem toList_compact_list (items : List Json) :
    (list items).compact.toList = '[' :: partsText ']' true (compactItems items) := by
  rw [← toList_intercalate, compact]
  simp

theorem toList_compact_object (members : List (String × Json)) :
    (object members).compact.toList = '\x7b' :: partsText '\x7d' true (compactMembers members) := by
  rw [← toList_intercalate, compact]
  simp

theorem length_partsText_pos (closing : Char) (isFirst : Bool) (parts : List String) :
    0 < (partsText closing isFirst parts).length := by
  induction parts generalizing isFirst with
  | nil => simp [partsText]
  | cons part parts ih =>
      have more := ih false
      simp only [partsText, List.length_append]
      omega

/-- What stands behind a part ends a number. -/
theorem endsNumber_partsText {closing : Char} (closes : EndsNumber [closing]) (parts : List String)
    (tail : List Char) : EndsNumber (partsText closing false parts ++ tail) := by
  cases parts with
  | nil => exact closes
  | cons part parts => simp [partsText, EndsNumber]

theorem blanks_of_not_blank {c : Char} (shown : isBlank c = false) (place : Nat)
    (rest : List Char) : Cursor.blanks ⟨place, c :: rest⟩ = ⟨place, c :: rest⟩ := by
  simp [Cursor.blanks, skipBlanks, shown]

theorem listStep_partsText {c : Char} (shown : isBlank c = false) (goesOn : c ≠ ']')
    (isFirst : Bool) (place : Nat) (rest : List Char) :
    ∃ next, listStep isFirst ⟨place, (if isFirst then [] else [',']) ++ c :: rest⟩ =
      .more ⟨next, c :: rest⟩ := by
  cases isFirst with
  | true =>
      refine ⟨place, ?_⟩
      simp [listStep, blanks_of_not_blank shown]
  | false =>
      refine ⟨place + ','.utf8Size, ?_⟩
      have comma : isBlank ',' = false := rfl
      simp [listStep, blanks_of_not_blank comma, blanks_of_not_blank shown, goesOn, Cursor.next]

theorem objectStep_partsText (isFirst : Bool) (place : Nat) (rest : List Char) :
    ∃ next, objectStep isFirst ⟨place, (if isFirst then [] else [',']) ++ '"' :: rest⟩ =
      .more ⟨next, '"' :: rest⟩ := by
  cases isFirst with
  | true => exact ⟨place, rfl⟩
  | false => exact ⟨place + 1, rfl⟩

/-! ## Values -/

/-- Inside so many arrays and objects the reader makes the tree again of its compact text, whatever
    stands behind the text. -/
structure ReturnsAt (depth : Nat) (tree : Json) : Prop where
  begins : ∃ c rest, tree.compact.toList = c :: rest ∧ isBlank c = false ∧ c ≠ ']'
  reads : ∀ (fuel place : Nat) (tail : List Char), EndsNumber tail →
    tree.compact.toList.length < fuel → ∃ node stop,
      valueAt fuel depth ⟨place, tree.compact.toList ++ tail⟩ = (node, some ⟨stop, tail⟩) ∧
        node.json = .ok tree

theorem toList_push_append {α : Type} (found : Array α) (next : α) (others : List α) :
    (found.push next).toList ++ others = found.toList ++ next :: others := by
  simp

theorem itemsAt_more {fuel depth : Nat} {isFirst : Bool} {found : Array (Item Node)}
    {cursor reached after : Cursor} {node : Node} (step : listStep isFirst cursor = .more reached)
    (read : valueAt fuel depth reached = (node, some after)) :
    itemsAt (fuel + 1) depth isFirst found cursor =
      itemsAt fuel depth false
        (found.push ⟨node, itemMark after, reached.blame .trailingCharacters⟩) after := by
  rw [itemsAt.eq_def]
  simp only [step, read]

theorem membersAt_more {fuel depth : Nat} {isFirst : Bool} {found : Array (Member Node)}
    {cursor reached behind start after : Cursor} {name : String} {node : Node}
    (step : objectStep isFirst cursor = .more reached)
    (named : textAt reached.next = .ok (.ok name, behind)) (colon : colonAt behind = .ok start)
    (read : valueAt fuel depth start = (node, some after)) :
    membersAt (fuel + 1) depth isFirst found cursor =
      membersAt fuel depth false
        (found.push ⟨.ok name, behind.place, memberMark behind, node, memberMark after⟩) after := by
  rw [membersAt.eq_def]
  simp only [step, named, colon, read]

theorem itemsAt_partsText {depth : Nat} {items : List Json}
    (each : ∀ item ∈ items, item.ReturnsAt depth) (fuel : Nat) (isFirst : Bool)
    (found : Array (Item Node)) (place : Nat) (tail : List Char)
    (enough : (partsText ']' isFirst (compactItems items)).length < fuel) :
    ∃ nodes stop,
      itemsAt fuel depth isFirst found
          ⟨place, partsText ']' isFirst (compactItems items) ++ tail⟩ =
        (found.toList ++ nodes, .closed stop, some ⟨stop, tail⟩) ∧
      Node.jsonItems nodes = .ok items := by
  induction items generalizing isFirst found fuel place with
  | nil =>
      refine ⟨[], place + ']'.utf8Size, ?_, rfl⟩
      rw [List.append_nil]
      cases fuel <;> rfl
  | cons item items ih =>
      obtain ⟨returns, others⟩ := List.forall_mem_cons.mp each
      obtain ⟨fuel, rfl⟩ := Nat.exists_eq_succ_of_ne_zero (Nat.ne_zero_of_lt enough)
      simp only [compactItems, partsText, List.length_append, List.append_assoc] at enough ⊢
      have some := length_partsText_pos ']' false (compactItems items)
      obtain ⟨c, rest, text, shown, goesOn⟩ := returns.begins
      obtain ⟨next, step⟩ := listStep_partsText shown goesOn isFirst place
        (rest ++ (partsText ']' false (compactItems items) ++ tail))
      rw [← List.cons_append, ← text] at step
      have positive : 0 < item.compact.toList.length := by simp [text]
      obtain ⟨node, stop, read, holds⟩ := returns.reads fuel next
        (partsText ']' false (compactItems items) ++ tail)
        (endsNumber_partsText (by simp [EndsNumber]) _ _) (by omega)
      rw [itemsAt_more step read]
      obtain ⟨nodes, last, run, held⟩ := ih others fuel false _ stop (by omega)
      rw [run, toList_push_append]
      exact ⟨_, last, rfl, by simp [Node.jsonItems, holds, held]⟩

theorem membersAt_partsText {depth : Nat} {members : List (String × Json)}
    (each : ∀ member ∈ members, member.2.ReturnsAt depth) (fuel : Nat) (isFirst : Bool)
    (found : Array (Member Node)) (place : Nat) (tail : List Char)
    (enough : (partsText '\x7d' isFirst (compactMembers members)).length < fuel) :
    ∃ nodes stop,
      membersAt fuel depth isFirst found
          ⟨place, partsText '\x7d' isFirst (compactMembers members) ++ tail⟩ =
        (found.toList ++ nodes, .closed stop, some ⟨stop, tail⟩) ∧
      Node.jsonMembers nodes = .ok members := by
  induction members generalizing isFirst found fuel place with
  | nil =>
      refine ⟨[], place + '\x7d'.utf8Size, ?_, rfl⟩
      rw [List.append_nil]
      cases fuel <;> rfl
  | cons member members ih =>
      obtain ⟨name, value⟩ := member
      obtain ⟨returns, others⟩ := List.forall_mem_cons.mp each
      replace returns : value.ReturnsAt depth := returns
      obtain ⟨fuel, rfl⟩ := Nat.exists_eq_succ_of_ne_zero (Nat.ne_zero_of_lt enough)
      simp only [compactMembers, partsText, String.toList_append, toList_quoted,
        List.length_append, List.append_assoc, List.cons_append, List.length_cons] at enough ⊢
      obtain ⟨next, step⟩ := objectStep_partsText isFirst place
        (name.toList.flatMap escaped ++ ('"' :: (":".toList ++ (value.compact.toList ++
          (partsText '\x7d' false (compactMembers members) ++ tail)))))
      obtain ⟨behind, named⟩ := textAt_quoted name (next + '"'.utf8Size)
        (":".toList ++ (value.compact.toList ++
          (partsText '\x7d' false (compactMembers members) ++ tail)))
      obtain ⟨node, stop, read, holds⟩ := returns.reads fuel (behind + ':'.utf8Size)
        (partsText '\x7d' false (compactMembers members) ++ tail)
        (endsNumber_partsText (by simp [EndsNumber]) _ _) (by omega)
      rw [List.nil_append, membersAt_more step named rfl read]
      obtain ⟨nodes, last, run, held⟩ := ih others fuel false _ stop (by omega)
      rw [run, toList_push_append]
      exact ⟨_, last, rfl, by simp [Node.jsonMembers, holds, held]⟩

/-! ### One kind of value after the other -/

theorem returnsAt_null (depth : Nat) : ReturnsAt depth .null where
  begins := ⟨'n', ['u', 'l', 'l'], rfl, rfl, by decide⟩
  reads fuel place tail _ enough := by
    obtain ⟨fuel, rfl⟩ := Nat.exists_eq_succ_of_ne_zero (Nat.ne_zero_of_lt enough)
    exact ⟨_, _, rfl, rfl⟩

theorem returnsAt_bool (depth : Nat) (value : Bool) : ReturnsAt depth (.bool value) where
  begins := by
    cases value with
    | true => exact ⟨'t', ['r', 'u', 'e'], rfl, rfl, by decide⟩
    | false => exact ⟨'f', ['a', 'l', 's', 'e'], rfl, rfl, by decide⟩
  reads fuel place tail _ enough := by
    obtain ⟨fuel, rfl⟩ := Nat.exists_eq_succ_of_ne_zero (Nat.ne_zero_of_lt enough)
    cases value <;> exact ⟨_, _, rfl, rfl⟩

theorem valueAt_text {fuel depth place : Nat} {rest : List Char} {value : Except Fault String}
    {after : Cursor} (read : textAt ⟨place + '"'.utf8Size, rest⟩ = .ok (value, after)) :
    valueAt (fuel + 1) depth ⟨place, '"' :: rest⟩ = (.text value after.place, some after) := by
  have shown : isBlank '"' = false := rfl
  rw [valueAt.eq_def]
  simp only [blanks_of_not_blank shown, Cursor.next, read]

theorem returnsAt_text (depth : Nat) (value : String) : ReturnsAt depth (.text value) where
  begins := ⟨'"', value.toList.flatMap escaped ++ ['"'], toList_quoted value, rfl, by decide⟩
  reads fuel place tail _ enough := by
    obtain ⟨fuel, rfl⟩ := Nat.exists_eq_succ_of_ne_zero (Nat.ne_zero_of_lt enough)
    obtain ⟨stop, read⟩ := textAt_quoted value (place + '"'.utf8Size) tail
    refine ⟨.text (.ok value) stop, stop, ?_, rfl⟩
    have shape : (text value).compact.toList ++ tail =
        '"' :: (value.toList.flatMap escaped ++ '"' :: tail) := by
      simp [compact, toList_quoted]
    rw [shape, valueAt_text read]

theorem not_blank_of_starts {c : Char} (starts : c = '-' ∨ c.isDigit = true) :
    isBlank c = false := by
  refine Bool.eq_false_iff.mpr fun blank => ?_
  simp only [isBlank, Bool.or_eq_true, beq_iff_eq] at blank
  rcases blank with ((rfl | rfl) | rfl) | rfl <;> simp at starts

theorem valueAt_number {c : Char} (starts : c = '-' ∨ c.isDigit = true) (fuel depth place : Nat)
    (rest : List Char) :
    valueAt (fuel + 1) depth ⟨place, c :: rest⟩ = numberAt ⟨place, c :: rest⟩ := by
  rw [valueAt.eq_def]
  simp only [blanks_of_not_blank (not_blank_of_starts starts)]
  split
  case h_7 => exact if_pos starts
  all_goals simp at starts

theorem returnsAt_number (depth : Nat) {value : Number} (returns : value.Returns) :
    ReturnsAt depth (.number value) where
  begins := by
    obtain ⟨c, rest, text, starts⟩ := returns.exists_first
    refine ⟨c, rest, text, not_blank_of_starts starts, ?_⟩
    rintro rfl
    simp at starts
  reads fuel place tail ends enough := by
    obtain ⟨fuel, rfl⟩ := Nat.exists_eq_succ_of_ne_zero (Nat.ne_zero_of_lt enough)
    obtain ⟨c, rest, text, starts⟩ := returns.exists_first
    obtain ⟨start, stop, after, read⟩ := returns
    rw [text] at read
    obtain ⟨start, stop, after, again⟩ := numberAt_append ends place read
    refine ⟨.number (.ok value) start stop, after, ?_, rfl⟩
    have shape : (number value).compact.toList = c :: rest := text
    rw [shape, List.cons_append, valueAt_number starts, ← List.cons_append, again]
    rfl

theorem limited_of_lt {depth : Nat} (inside : depth < depthLimit) (start : Cursor) (node : Node) :
    limited depth start node = node :=
  if_neg (Nat.ne_of_lt inside)

theorem valueAt_list {fuel depth place : Nat} (inside : depth < depthLimit) {rest : List Char}
    {items : List (Item Node)} {ending : Ending} {after : Option Cursor}
    (read : itemsAt fuel (depth + 1) true #[] ⟨place + '['.utf8Size, rest⟩ =
      (items, ending, after)) :
    valueAt (fuel + 1) depth ⟨place, '[' :: rest⟩ = (.list place items ending, after) := by
  have shown : isBlank '[' = false := rfl
  rw [valueAt.eq_def]
  simp only [blanks_of_not_blank shown, Cursor.next, read, limited_of_lt inside]

theorem valueAt_object {fuel depth place : Nat} (inside : depth < depthLimit) {rest : List Char}
    {members : List (Member Node)} {ending : Ending} {after : Option Cursor}
    (read : membersAt fuel (depth + 1) true #[] ⟨place + '\x7b'.utf8Size, rest⟩ =
      (members, ending, after)) :
    valueAt (fuel + 1) depth ⟨place, '\x7b' :: rest⟩ = (.object place members ending, after) := by
  have shown : isBlank '\x7b' = false := rfl
  rw [valueAt.eq_def]
  simp only [blanks_of_not_blank shown, Cursor.next, read, limited_of_lt inside]

theorem returnsAt_list {depth : Nat} (inside : depth < depthLimit) {items : List Json}
    (each : ∀ item ∈ items, item.ReturnsAt (depth + 1)) : ReturnsAt depth (.list items) where
  begins := ⟨'[', _, toList_compact_list items, rfl, by decide⟩
  reads fuel place tail _ enough := by
    obtain ⟨fuel, rfl⟩ := Nat.exists_eq_succ_of_ne_zero (Nat.ne_zero_of_lt enough)
    rw [toList_compact_list, List.length_cons] at enough
    obtain ⟨nodes, stop, read, held⟩ := itemsAt_partsText each fuel true #[]
      (place + '['.utf8Size) tail (Nat.lt_of_succ_lt_succ enough)
    refine ⟨.list place nodes (.closed stop), stop, ?_, ?_⟩
    · rw [toList_compact_list, List.cons_append, valueAt_list inside read]
      rfl
    · simp [Node.json, held]

theorem returnsAt_object {depth : Nat} (inside : depth < depthLimit)
    {members : List (String × Json)} (each : ∀ member ∈ members, member.2.ReturnsAt (depth + 1)) :
    ReturnsAt depth (.object members) where
  begins := ⟨'\x7b', _, toList_compact_object members, rfl, by decide⟩
  reads fuel place tail _ enough := by
    obtain ⟨fuel, rfl⟩ := Nat.exists_eq_succ_of_ne_zero (Nat.ne_zero_of_lt enough)
    rw [toList_compact_object, List.length_cons] at enough
    obtain ⟨nodes, stop, read, held⟩ := membersAt_partsText each fuel true #[]
      (place + '\x7b'.utf8Size) tail (Nat.lt_of_succ_lt_succ enough)
    refine ⟨.object place nodes (.closed stop), stop, ?_, ?_⟩
    · rw [toList_compact_object, List.cons_append, valueAt_object inside read]
      rfl
    · simp [Node.json, held]

/-- Every tree comes back that is not too deep and has only numbers that come back. -/
theorem returnsAt_of_within {tree : Json} {bound depth : Nat}
    (within : tree.Within Number.Returns bound) (room : bound + depth ≤ depthLimit) :
    tree.ReturnsAt depth := by
  induction bound generalizing tree depth with
  | zero =>
      cases tree with
      | null => exact returnsAt_null depth
      | bool value => exact returnsAt_bool depth value
      | number value => exact returnsAt_number depth within
      | text value => exact returnsAt_text depth value
      | list | object => cases within
  | succ bound ih =>
      have inside : depth < depthLimit := by omega
      cases tree with
      | null => exact returnsAt_null depth
      | bool value => exact returnsAt_bool depth value
      | number value => exact returnsAt_number depth within
      | text value => exact returnsAt_text depth value
      | list items =>
          exact returnsAt_list inside fun item listed => ih (within item listed) (by omega)
      | object members =>
          exact returnsAt_object inside fun member listed => ih (within member listed) (by omega)

/-! ## Documents -/

/-- The compact text of a tree that comes back holds the tree. -/
theorem Document.holds_compact {tree : Json} (within : tree.Within Number.Returns depthLimit) :
    (Document.ofText tree.compact).Holds tree := by
  have returns := returnsAt_of_within within (Nat.le_of_eq (Nat.add_zero depthLimit))
  obtain ⟨node, stop, read, holds⟩ := returns.reads (2 * tree.compact.toList.length + 2) 0 []
    (by simp [EndsNumber]) (by omega)
  rw [List.append_nil] at read
  rw [Document.Holds, Document.ofText]
  simp only [read]
  exact ⟨holds, rfl⟩

theorem treeOf_compact {tree : Json} (within : tree.Within Number.Returns depthLimit) :
    treeOf tree.compact = tree :=
  Node.tree_of_json (Document.holds_compact within).1

end ApiComponents.Json

namespace ApiComponents

/-- What loads from the compact text of a tree is what the layout reads from the tree. -/
theorem Layout.fromJsonText_compact_iff {α : Type} {layout : Layout α} {tree : Json} {value : α}
    (within : tree.Within Json.Number.Returns Json.depthLimit) :
    layout.fromJsonText tree.compact = .ok value ↔ layout.Reads tree value := by
  have holds := Json.Document.holds_compact within
  rw [reads_iff, ← layout.toOption_fromDocument holds, toOption_eq_some_iff, fromJsonText,
    mapError_eq_ok_iff]

end ApiComponents
