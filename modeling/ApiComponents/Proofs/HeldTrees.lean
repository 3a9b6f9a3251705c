import ApiComponents.Json.Loading
import ApiComponents.Proofs.Traversal

/-! # Documents that hold a tree

A located document without faults holds a tree, the value that its text spells, and its nodes are
built over the parts of the tree. Every tree is held by some document.
-/

namespace ApiComponents

open Json (Fault Node Item Member Ending)

/-- The document has no fault, and the tree is the value that it spells. -/
def Json.Document.Holds (document : Json.Document) (tree : Json) : Prop :=
  document.root.json = .ok tree ∧ document.trailing = none

/-! ## Nodes that hold a tree -/

/-- What a member spells: its name and its value. -/
def Json.Member.spelled (member : Member Node) : Except Fault (String × Json) :=
  match member.name with
  | .ok name => member.node.json.map (name, ·)
  | .error fault => .error fault

theorem Json.Member.spelled_eq_ok_iff {member : Member Node} {pair : String × Json} :
    member.spelled = .ok pair ↔ member.name = .ok pair.1 ∧ member.node.json = .ok pair.2 := by
  obtain ⟨name, value⟩ := pair
  unfold spelled
  cases member.name with
  | error fault => simp
  | ok other => cases member.node.json <;> simp [Except.map]

namespace Json.Node

theorem jsonItems_eq (items : List (Item Node)) :
    jsonItems items = items.mapM (fun item => item.node.json) := by
  induction items with
  | nil => rfl
  | cons item items ih =>
      rw [jsonItems, ih, List.mapM_cons]
      rfl

theorem jsonMembers_eq (members : List (Member Node)) :
    jsonMembers members = members.mapM Member.spelled := by
  induction members with
  | nil => rfl
  | cons member members ih =>
      rw [jsonMembers, ih, List.mapM_cons]
      unfold Member.spelled
      cases member.name with
      | error fault => rfl
      | ok name => cases member.node.json <;> rfl

/-- How a node without faults is built over the tree that it holds. -/
inductive Spells : Node → Json → Prop where
  | null (stop : Nat) : Spells (.null stop) .null
  | bool (value : Bool) (stop : Nat) : Spells (.bool value stop) (.bool value)
  | number (value : Number) (start stop : Nat) :
      Spells (.number (.ok value) start stop) (.number value)
  | text (value : String) (stop : Nat) : Spells (.text (.ok value) stop) (.text value)
  | list (start stop : Nat) {items : List (Item Node)} {values : List Json}
      (held : List.Forall₂ (fun item value => item.node.json = .ok value) items values) :
      Spells (.list start items (.closed stop)) (.list values)
  | object (start stop : Nat) {members : List (Member Node)} {pairs : List (String × Json)}
      (held : List.Forall₂ (fun member pair => member.spelled = .ok pair) members pairs) :
      Spells (.object start members (.closed stop)) (.object pairs)

theorem spells_of_json {node : Node} {tree : Json} (holds : node.json = .ok tree) :
    Spells node tree := by
  cases node with
  | null stop =>
      cases holds
      exact .null stop
  | bool value stop =>
      cases holds
      exact .bool value stop
  | number value start stop =>
      cases value with
      | error fault => cases holds
      | ok value =>
          cases holds
          exact .number value start stop
  | text value stop =>
      cases value with
      | error fault => cases holds
      | ok value =>
          cases holds
          exact .text value stop
  | list start items ending =>
      obtain ⟨values, read, ends⟩ := bind_eq_ok_iff.mp holds
      rw [jsonItems_eq] at read
      cases ending with
      | broken => cases ends
      | closed stop =>
          cases ends
          exact .list start stop (mapM_eq_ok_iff.mp read)
  | object start members ending =>
      obtain ⟨pairs, read, ends⟩ := bind_eq_ok_iff.mp holds
      rw [jsonMembers_eq] at read
      cases ending with
      | broken => cases ends
      | closed stop =>
          cases ends
          exact .object start stop (mapM_eq_ok_iff.mp read)
  | deep limit node => cases holds
  | broken start first parts => cases holds

mutual
/-- Whoever can read a value can skip it. -/
theorem skip_of_json {node : Node} {tree : Json} (holds : node.json = .ok tree) :
    node.skip = .ok () := by
  cases node with
  | list start items ending =>
      cases spells_of_json holds with
      | list _ _ held => simp [skip, skipItems_of_held held]
  | object start members ending =>
      cases spells_of_json holds with
      | object _ _ held => simp [skip, skipMembers_of_held held]
  | deep limit node => cases holds
  | broken start first parts => cases holds
  | null | bool | number | text => rfl

theorem skipItems_of_held {items : List (Item Node)} {values : List Json}
    (held : List.Forall₂ (fun item value => item.node.json = .ok value) items values) :
    skipItems items = .ok () := by
  cases items with
  | nil => rfl
  | cons item items =>
      obtain ⟨node, mark, excess⟩ := item
      cases held with
      | cons head tail =>
          simp [skipItems, skip_of_json head, skipItems_of_held tail]

theorem skipMembers_of_held {members : List (Member Node)} {pairs : List (String × Json)}
    (held : List.Forall₂ (fun member pair => member.spelled = .ok pair) members pairs) :
    skipMembers members = .ok () := by
  cases members with
  | nil => rfl
  | cons member members =>
      obtain ⟨name, nameStop, nameMark, node, mark⟩ := member
      cases held with
      | cons head tail =>
          have value := (Member.spelled_eq_ok_iff.mp head).2
          simp [skipMembers, skip_of_json value, skipMembers_of_held tail]
end

end Json.Node

/-! ## Documents -/

namespace Json

mutual
theorem exists_node (tree : Json) : ∃ node : Node, node.json = .ok tree := by
  cases tree with
  | null => exact ⟨.null 0, rfl⟩
  | bool value => exact ⟨.bool value 0, rfl⟩
  | number value => exact ⟨.number (.ok value) 0 0, rfl⟩
  | text value => exact ⟨.text (.ok value) 0, rfl⟩
  | list values =>
      obtain ⟨items, held⟩ := exists_items values
      exact ⟨.list 0 items (.closed 0), by simp [Node.json, held]⟩
  | object pairs =>
      obtain ⟨members, held⟩ := exists_members pairs
      exact ⟨.object 0 members (.closed 0), by simp [Node.json, held]⟩

theorem exists_items (values : List Json) : ∃ items, Node.jsonItems items = .ok values := by
  cases values with
  | nil => exact ⟨[], rfl⟩
  | cons value values =>
      obtain ⟨node, holds⟩ := exists_node value
      obtain ⟨items, held⟩ := exists_items values
      exact ⟨⟨node, 0, .located .trailingCharacters 0⟩ :: items,
        by simp [Node.jsonItems, holds, held]⟩

theorem exists_members (pairs : List (String × Json)) :
    ∃ members, Node.jsonMembers members = .ok pairs := by
  cases pairs with
  | nil => exact ⟨[], rfl⟩
  | cons pair pairs =>
      obtain ⟨name, value⟩ := pair
      obtain ⟨node, holds⟩ := exists_node value
      obtain ⟨members, held⟩ := exists_members pairs
      exact ⟨⟨.ok name, 0, 0, node, 0⟩ :: members,
        by simp [Node.jsonMembers, holds, held]⟩
end

/-- Every tree, however deep, stands in some document. -/
theorem exists_document (tree : Json) : ∃ document : Document, document.Holds tree := by
  obtain ⟨node, holds⟩ := exists_node tree
  exact ⟨⟨node, none⟩, holds, rfl⟩

end Json

end ApiComponents
