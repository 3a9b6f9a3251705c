import ApiComponents.Json.Reader
import ApiComponents.Proofs.HeldTrees
import ApiComponents.Proofs.NumberRanges

/-! # What the reader of JSON texts maintains

The part of a JSON text that can be read has no more levels of arrays and objects than the reader
allows, however deep the text is, and its numbers are in range. What stands deeper is marked, and
it belongs to the tree of the text all the same.
-/

namespace ApiComponents.Json

/-! ## Values and their parts -/

/-- A value without parts that is no number. -/
def Node.IsScalar : Node → Prop
  | null _ | bool _ _ | text _ _ | broken _ _ _ => True
  | _ => False

/-- The reader maintains a property of values inside so many arrays and objects if it holds of
    scalars and numbers, and of arrays and objects when it holds of their parts one level deeper. -/
structure Maintained (holds : Nat → Node → Prop) : Prop where
  scalar : ∀ {depth : Nat} {node : Node}, node.IsScalar → holds depth node
  number : ∀ {depth : Nat} (cursor : Cursor), holds depth (numberAt cursor).1
  list : ∀ {depth start : Nat} {items : List (Item Node)} (cursor : Cursor) (ending : Ending),
    (∀ item ∈ items, holds (depth + 1) item.node) →
      holds depth (limited depth cursor (.list start items ending))
  object : ∀ {depth start : Nat} {members : List (Member Node)} (cursor : Cursor)
    (ending : Ending), (∀ member ∈ members, holds (depth + 1) member.node) →
      holds depth (limited depth cursor (.object start members ending))

theorem forall_mem_push {α : Type} {holds : α → Prop} {found : Array α} {next : α}
    (known : ∀ part ∈ found.toList, holds part) (new : holds next) :
    ∀ part ∈ (found.push next).toList, holds part := by
  rw [Array.toList_push, List.forall_mem_append]
  exact ⟨known, List.forall_mem_singleton.mpr new⟩

theorem isScalar_literalAt (cursor : Cursor) (letters : List Char) {value : Nat → Node}
    (scalar : ∀ stop, (value stop).IsScalar) : (literalAt cursor letters value).1.IsScalar := by
  unfold literalAt
  split
  · exact scalar _
  · trivial

variable {holds : Nat → Node → Prop}

mutual
theorem holds_valueAt (maintained : Maintained holds) (fuel depth : Nat) (cursor : Cursor) :
    holds depth (valueAt fuel depth cursor).1 := by
  unfold valueAt
  simp only
  split
  · exact maintained.scalar trivial
  · exact maintained.scalar trivial
  · next fuel c rest _ =>
    split
    · exact maintained.scalar (isScalar_literalAt _ _ fun _ => trivial)
    · exact maintained.scalar (isScalar_literalAt _ _ fun _ => trivial)
    · exact maintained.scalar (isScalar_literalAt _ _ fun _ => trivial)
    · split <;> exact maintained.scalar trivial
    · exact maintained.list _ _ (holds_itemsAt maintained fuel (depth + 1) true #[] _ nofun)
    · exact maintained.object _ _ (holds_membersAt maintained fuel (depth + 1) true #[] _ nofun)
    · split
      · exact maintained.number _
      · exact maintained.scalar trivial

theorem holds_itemsAt (maintained : Maintained holds) (fuel depth : Nat) (isFirst : Bool)
    (found : Array (Item Node)) (cursor : Cursor)
    (known : ∀ item ∈ found.toList, holds depth item.node) :
    ∀ item ∈ (itemsAt fuel depth isFirst found cursor).1, holds depth item.node := by
  unfold itemsAt
  split
  · exact known
  · exact known
  · exact known
  · next fuel reached step =>
    have value := holds_valueAt maintained fuel depth reached
    simp only
    split
    · next node after read =>
      rw [read] at value
      exact holds_itemsAt maintained fuel depth false _ after (forall_mem_push known value)
    · next node read =>
      rw [read] at value
      exact forall_mem_push known value

theorem holds_membersAt (maintained : Maintained holds) (fuel depth : Nat) (isFirst : Bool)
    (found : Array (Member Node)) (cursor : Cursor)
    (known : ∀ member ∈ found.toList, holds depth member.node) :
    ∀ member ∈ (membersAt fuel depth isFirst found cursor).1, holds depth member.node := by
  unfold membersAt
  split
  · exact known
  · exact known
  · exact known
  · exact known
  · next fuel reached step =>
    split
    · exact known
    · next name behind named =>
      simp only
      split
      · exact forall_mem_push known (maintained.scalar trivial)
      · next start colon =>
        have value := holds_valueAt maintained fuel depth start
        split
        · next node after read =>
          rw [read] at value
          exact holds_membersAt maintained fuel depth false _ after (forall_mem_push known value)
        · next node read =>
          rw [read] at value
          exact forall_mem_push known value
end

/-- What the reader maintains holds of the root of every text. -/
theorem Document.holds_ofText (maintained : Maintained holds) (text : String) :
    holds 0 (Document.ofText text).root := by
  have value := holds_valueAt maintained (2 * text.toList.length + 2) 0 ⟨0, text.toList⟩
  unfold ofText
  simp only
  split
  · next root read =>
    rw [read] at value
    exact value
  · next root after read =>
    rw [read] at value
    exact value

/-! ## Levels -/

namespace Node

mutual
/-- How many arrays and objects stand in each other, as far as they can be read. -/
def levels : Node → Nat
  | list _ items _ => itemLevels items + 1
  | object _ members _ => memberLevels members + 1
  | _ => 0

def itemLevels : List (Item Node) → Nat
  | [] => 0
  | ⟨node, _, _⟩ :: rest => max node.levels (itemLevels rest)

def memberLevels : List (Member Node) → Nat
  | [] => 0
  | ⟨_, _, _, node, _⟩ :: rest => max node.levels (memberLevels rest)
end

theorem itemLevels_le_iff {items : List (Item Node)} {bound : Nat} :
    itemLevels items ≤ bound ↔ ∀ item ∈ items, item.node.levels ≤ bound := by
  induction items with
  | nil => simp [itemLevels]
  | cons item items ih => rw [itemLevels, Nat.max_le, ih, List.forall_mem_cons]

theorem memberLevels_le_iff {members : List (Member Node)} {bound : Nat} :
    memberLevels members ≤ bound ↔ ∀ member ∈ members, member.node.levels ≤ bound := by
  induction members with
  | nil => simp [memberLevels]
  | cons member members ih => rw [memberLevels, Nat.max_le, ih, List.forall_mem_cons]

end Node

/-- Inside so many arrays and objects there is room for the levels of the node. -/
def Node.FitsAt (depth : Nat) (node : Node) : Prop := node.levels + depth ≤ depthLimit

theorem fitsAt_of_flat {depth : Nat} {node : Node} (shallow : depth ≤ depthLimit)
    (flat : node.levels = 0) : node.FitsAt depth := by
  rw [Node.FitsAt, flat, Nat.zero_add]
  exact shallow

theorem levels_numberAt (cursor : Cursor) : (numberAt cursor).1.levels = 0 := by
  unfold numberAt
  simp only
  split <;> rfl

/-- Where an array or object would be one too many, it is marked. -/
theorem fitsAt_limited {depth : Nat} (start : Cursor) {node : Node} (shallow : depth ≤ depthLimit)
    (inside : depth < depthLimit → node.FitsAt depth) :
    (limited depth start node).FitsAt depth := by
  unfold limited
  split
  · exact fitsAt_of_flat shallow rfl
  · next apart => exact inside (Nat.lt_of_le_of_ne shallow apart)

theorem fitsAt_list {depth start : Nat} {items : List (Item Node)} (ending : Ending)
    (inside : depth < depthLimit) (each : ∀ item ∈ items, item.node.FitsAt (depth + 1)) :
    (Node.list start items ending).FitsAt depth := by
  have fewer : Node.itemLevels items ≤ depthLimit - (depth + 1) :=
    Node.itemLevels_le_iff.mpr fun item listed => Nat.le_sub_of_add_le (each item listed)
  rw [Node.FitsAt, Node.levels]
  omega

theorem fitsAt_object {depth start : Nat} {members : List (Member Node)} (ending : Ending)
    (inside : depth < depthLimit) (each : ∀ member ∈ members, member.node.FitsAt (depth + 1)) :
    (Node.object start members ending).FitsAt depth := by
  have fewer : Node.memberLevels members ≤ depthLimit - (depth + 1) :=
    Node.memberLevels_le_iff.mpr fun member listed => Nat.le_sub_of_add_le (each member listed)
  rw [Node.FitsAt, Node.levels]
  omega

theorem maintained_fitsAt :
    Maintained fun depth node => depth ≤ depthLimit → node.FitsAt depth where
  scalar := fun {_ node} scalar shallow => fitsAt_of_flat shallow (by cases node <;> trivial)
  number cursor shallow := fitsAt_of_flat shallow (levels_numberAt cursor)
  list cursor ending each shallow := fitsAt_limited cursor shallow fun inside =>
    fitsAt_list ending inside fun item listed => each item listed inside
  object cursor ending each shallow := fitsAt_limited cursor shallow fun inside =>
    fitsAt_object ending inside fun member listed => each member listed inside

/-- No text has too many levels. -/
theorem Document.levels_ofText (text : String) : (ofText text).root.levels ≤ depthLimit :=
  holds_ofText maintained_fitsAt text (Nat.zero_le depthLimit)

/-! ## Numbers -/

namespace Node

mutual
/-- Every number of the value that is not out of range has a property. -/
def EachNumber (holds : Number → Prop) : Node → Prop
  | number (.ok value) _ _ => holds value
  | list _ items _ => ItemsEachNumber holds items
  | object _ members _ => MembersEachNumber holds members
  | deep _ node => node.EachNumber holds
  | _ => True

def ItemsEachNumber (holds : Number → Prop) : List (Item Node) → Prop
  | [] => True
  | ⟨node, _, _⟩ :: rest => node.EachNumber holds ∧ ItemsEachNumber holds rest

def MembersEachNumber (holds : Number → Prop) : List (Member Node) → Prop
  | [] => True
  | ⟨_, _, _, node, _⟩ :: rest => node.EachNumber holds ∧ MembersEachNumber holds rest
end

variable {holds : Number → Prop}

theorem itemsEachNumber_iff {items : List (Item Node)} :
    ItemsEachNumber holds items ↔ ∀ item ∈ items, item.node.EachNumber holds := by
  induction items with
  | nil => simp [ItemsEachNumber]
  | cons item items ih => rw [ItemsEachNumber, ih, List.forall_mem_cons]

theorem membersEachNumber_iff {members : List (Member Node)} :
    MembersEachNumber holds members ↔ ∀ member ∈ members, member.node.EachNumber holds := by
  induction members with
  | nil => simp [MembersEachNumber]
  | cons member members ih => rw [MembersEachNumber, ih, List.forall_mem_cons]

theorem eachNumber_limited {depth : Nat} (start : Cursor) {node : Node}
    (each : node.EachNumber holds) : (limited depth start node).EachNumber holds := by
  unfold limited
  split <;> exact each

theorem inRange_numberAt (cursor : Cursor) : (numberAt cursor).1.EachNumber Number.InRange := by
  unfold numberAt
  simp only
  split
  · trivial
  · next parsed after _ =>
    cases made : parsed.value with
    | error unread => trivial
    | ok value => exact Number.inRange_value made

end Node

theorem maintained_inRange : Maintained fun _ node => node.EachNumber Number.InRange where
  scalar := fun {_ node} scalar => by cases node <;> trivial
  number cursor := Node.inRange_numberAt cursor
  list cursor _ each := Node.eachNumber_limited cursor (Node.itemsEachNumber_iff.mpr each)
  object cursor _ each := Node.eachNumber_limited cursor (Node.membersEachNumber_iff.mpr each)

/-- The numbers of a text are in range. -/
theorem Document.inRange_ofText (text : String) :
    (ofText text).root.EachNumber Number.InRange :=
  holds_ofText maintained_inRange text

/-! ## Trees at any depth -/

mutual
/-- The value spells the tree, whether or not it stands too deep to be read. -/
inductive Node.Shows : Node → Json → Prop where
  | null (stop : Nat) : Shows (.null stop) .null
  | bool (value : Bool) (stop : Nat) : Shows (.bool value stop) (.bool value)
  | number (value : Number) (start stop : Nat) :
      Shows (.number (.ok value) start stop) (.number value)
  | text (value : String) (stop : Nat) : Shows (.text (.ok value) stop) (.text value)
  | list (start stop : Nat) {items : List (Item Node)} {trees : List Json}
      (each : Node.ItemsShow items trees) : Shows (.list start items (.closed stop)) (.list trees)
  | object (start stop : Nat) {members : List (Member Node)} {pairs : List (String × Json)}
      (each : Node.MembersShow members pairs) :
      Shows (.object start members (.closed stop)) (.object pairs)
  | deep (limit : Fault) {node : Node} {tree : Json} (shows : Shows node tree) :
      Shows (.deep limit node) tree

inductive Node.ItemsShow : List (Item Node) → List Json → Prop where
  | nil : ItemsShow [] []
  | cons {item : Item Node} {items : List (Item Node)} {tree : Json} {trees : List Json}
      (head : item.node.Shows tree) (rest : ItemsShow items trees) :
      ItemsShow (item :: items) (tree :: trees)

inductive Node.MembersShow : List (Member Node) → List (String × Json) → Prop where
  | nil : MembersShow [] []
  | cons {member : Member Node} {members : List (Member Node)} {name : String} {tree : Json}
      {pairs : List (String × Json)} (named : member.name = .ok name)
      (head : member.node.Shows tree) (rest : MembersShow members pairs) :
      MembersShow (member :: members) ((name, tree) :: pairs)
end

namespace Node

mutual
/-- What can be read as a tree, shows it. -/
theorem shows_of_json {node : Node} {tree : Json} (holds : node.json = .ok tree) :
    node.Shows tree := by
  cases spells_of_json holds with
  | null stop => exact .null stop
  | bool value stop => exact .bool value stop
  | number value start stop => exact .number value start stop
  | text value stop => exact .text value stop
  | list start stop held => exact .list start stop (itemsShow_of_held held)
  | object start stop held => exact .object start stop (membersShow_of_held held)

theorem itemsShow_of_held {items : List (Item Node)} {trees : List Json}
    (held : List.Forall₂ (fun item tree => item.node.json = .ok tree) items trees) :
    ItemsShow items trees := by
  match items, held with
  | [], .nil => exact .nil
  | ⟨node, _, _⟩ :: items, .cons head rest =>
      exact .cons (shows_of_json head) (itemsShow_of_held rest)

theorem membersShow_of_held {members : List (Member Node)} {pairs : List (String × Json)}
    (held : List.Forall₂ (fun member pair => member.spelled = .ok pair) members pairs) :
    MembersShow members pairs := by
  match members, held with
  | [], .nil => exact .nil
  | ⟨name, _, _, node, _⟩ :: members, .cons head rest =>
      obtain ⟨named, value⟩ := Member.spelled_eq_ok_iff.mp head
      exact .cons named (shows_of_json value) (membersShow_of_held rest)
end

mutual
/-- The tree of a value, however deep it stands. A number or a string that cannot be read counts as
    `null`, and a member without a readable name is left out: whoever loads a value skips these. -/
def tree : Node → Json
  | null _ => .null
  | bool value _ => .bool value
  | number value _ _ => (value.toOption.map Json.number).getD .null
  | text value _ => (value.toOption.map Json.text).getD .null
  | list _ items _ => .list (itemTrees items)
  | object _ members _ => .object (memberTrees members)
  | deep _ node => node.tree
  | broken _ _ _ => .null

def itemTrees : List (Item Node) → List Json
  | [] => []
  | ⟨node, _, _⟩ :: rest => node.tree :: itemTrees rest

def memberTrees : List (Member Node) → List (String × Json)
  | [] => []
  | ⟨.ok name, _, _, node, _⟩ :: rest => (name, node.tree) :: memberTrees rest
  | ⟨.error _, _, _, _, _⟩ :: rest => memberTrees rest
end

mutual
/-- A tree that a value shows is its tree. -/
theorem Shows.tree_eq {node : Node} {tree : Json} (shows : node.Shows tree) :
    node.tree = tree := by
  cases shows with
  | null | bool | number | text => rfl
  | list start stop each => exact congrArg Json.list each.itemTrees_eq
  | object start stop each => exact congrArg Json.object each.memberTrees_eq
  | deep limit shows => exact shows.tree_eq

theorem ItemsShow.itemTrees_eq {items : List (Item Node)} {trees : List Json}
    (shown : ItemsShow items trees) : itemTrees items = trees := by
  cases shown with
  | nil => rfl
  | cons head rest => rw [itemTrees, head.tree_eq, rest.itemTrees_eq]

theorem MembersShow.memberTrees_eq {members : List (Member Node)} {pairs : List (String × Json)}
    (shown : MembersShow members pairs) : memberTrees members = pairs := by
  match members, shown with
  | [], .nil => rfl
  | ⟨_, _, _, _, _⟩ :: _, .cons rfl head rest =>
      rw [memberTrees, head.tree_eq, rest.memberTrees_eq]
end

/-- What is read whole of a value is its tree. -/
theorem tree_of_json {node : Node} {tree : Json} (holds : node.json = .ok tree) :
    node.tree = tree :=
  (shows_of_json holds).tree_eq

end Node

/-- The tree of a whole text. -/
def treeOf (text : String) : Json := (Document.ofText text).root.tree

end ApiComponents.Json
