import ApiComponents.Proofs.ReaderInvariants
import ApiComponents.Yaml.Node

/-! # Trees in YAML

A tree without numbers can be written in YAML with its strings and keys in quotes and everything
else plain. Without anchors and aliases such a document becomes a tree of nodes of the same shape.
The limits of the two formats differ, so this tree is compared with a located JSON value: they
mirror each other as far as the JSON value can be read.
-/

namespace ApiComponents

open Json (Item Member)

/-! ## Written trees -/

namespace Json

mutual
/-- No number occurs in the tree. -/
def Numberless : Json → Prop
  | number _ => False
  | list items => itemsNumberless items
  | object members => membersNumberless members
  | _ => True

def itemsNumberless : List Json → Prop
  | [] => True
  | item :: rest => item.Numberless ∧ itemsNumberless rest

def membersNumberless : List (String × Json) → Prop
  | [] => True
  | (_, value) :: rest => value.Numberless ∧ membersNumberless rest
end

end Json

namespace Yaml

namespace Written

mutual
/-- The node spells the tree: strings and keys are quoted, other scalars are plain, and there are
    no anchors and no tags. -/
inductive Spells {α : Type} : Written α → Json → Prop where
  | null (mark : Mark) : Spells (.scalar {} mark "null" true) .null
  | bool (value : Bool) (mark : Mark) :
      Spells (.scalar {} mark (if value then "true" else "false") true) (.bool value)
  | text (value : String) (mark : Mark) : Spells (.scalar {} mark value false) (.text value)
  | list (mark : Mark) {items : List (Written α)} {trees : List Json}
      (each : ItemsSpell items trees) : Spells (.list {} mark items) (.list trees)
  | object (mark : Mark) {entries : List (Written α × Written α)} {pairs : List (String × Json)}
      (each : EntriesSpell entries pairs) : Spells (.map {} mark entries) (.object pairs)

inductive ItemsSpell {α : Type} : List (Written α) → List Json → Prop where
  | nil : ItemsSpell [] []
  | cons {item : Written α} {items : List (Written α)} {tree : Json} {trees : List Json}
      (head : Spells item tree) (rest : ItemsSpell items trees) :
      ItemsSpell (item :: items) (tree :: trees)

inductive EntriesSpell {α : Type} : List (Written α × Written α) → List (String × Json) → Prop where
  | nil : EntriesSpell [] []
  | cons {value : Written α} {entries : List (Written α × Written α)} {name : String} {tree : Json}
      {pairs : List (String × Json)} (mark : Mark) (head : Spells value tree)
      (rest : EntriesSpell entries pairs) :
      EntriesSpell ((.scalar {} mark name false, value) :: entries) ((name, tree) :: pairs)
end

mutual
/-- Every tree without numbers can be written. -/
theorem exists_spells {α : Type} {tree : Json} (numberless : tree.Numberless) :
    ∃ root : Written α, root.Spells tree := by
  cases tree with
  | null => exact ⟨_, .null .start⟩
  | bool value => exact ⟨_, .bool value .start⟩
  | number => cases numberless
  | text value => exact ⟨_, .text value .start⟩
  | list trees =>
      obtain ⟨items, each⟩ := exists_itemsSpell numberless
      exact ⟨_, .list .start each⟩
  | object pairs =>
      obtain ⟨entries, each⟩ := exists_entriesSpell numberless
      exact ⟨_, .object .start each⟩

theorem exists_itemsSpell {α : Type} {trees : List Json} (numberless : Json.itemsNumberless trees) :
    ∃ items : List (Written α), ItemsSpell items trees := by
  cases trees with
  | nil => exact ⟨[], .nil⟩
  | cons tree trees =>
      obtain ⟨item, head⟩ := exists_spells numberless.1
      obtain ⟨items, rest⟩ := exists_itemsSpell numberless.2
      exact ⟨item :: items, .cons head rest⟩

theorem exists_entriesSpell {α : Type} {pairs : List (String × Json)}
    (numberless : Json.membersNumberless pairs) :
    ∃ entries : List (Written α × Written α), EntriesSpell entries pairs := by
  cases pairs with
  | nil => exact ⟨[], .nil⟩
  | cons pair pairs =>
      obtain ⟨name, tree⟩ := pair
      obtain ⟨value, head⟩ := exists_spells numberless.1
      obtain ⟨entries, rest⟩ := exists_entriesSpell numberless.2
      exact ⟨_ :: entries, .cons .start head rest⟩
end

mutual
/-- Without aliases there is nothing to number, and without anchors nothing to keep. -/
theorem Spells.exists_number? {root : Written String} {tree : Json} (spelled : root.Spells tree)
    (anchors : Anchors) :
    ∃ numbered, root.number? anchors = some (numbered, anchors) ∧ numbered.Spells tree := by
  cases spelled with
  | null mark => exact ⟨_, rfl, .null mark⟩
  | bool value mark => exact ⟨_, rfl, .bool value mark⟩
  | text value mark => exact ⟨_, rfl, .text value mark⟩
  | list mark each =>
      obtain ⟨items, numbered, spelled⟩ := each.exists_numberItems? anchors
      refine ⟨.list {} mark items, ?_, .list mark spelled⟩
      simp only [number?, Anchors.define, numbered, Anchors.keep]
  | object mark each =>
      obtain ⟨entries, numbered, spelled⟩ := each.exists_numberEntries? anchors
      refine ⟨.map {} mark entries, ?_, .object mark spelled⟩
      simp only [number?, Anchors.define, numbered, Anchors.keep]

theorem ItemsSpell.exists_numberItems? {items : List (Written String)} {trees : List Json}
    (spelled : ItemsSpell items trees) (anchors : Anchors) :
    ∃ numbered, numberItems? anchors items = some (numbered, anchors) ∧
      ItemsSpell numbered trees := by
  cases spelled with
  | nil => exact ⟨[], rfl, .nil⟩
  | cons head rest =>
      obtain ⟨item, first, spelledFirst⟩ := head.exists_number? anchors
      obtain ⟨items, others, spelledOthers⟩ := rest.exists_numberItems? anchors
      exact ⟨item :: items, by simp only [numberItems?, first, others],
        .cons spelledFirst spelledOthers⟩

theorem EntriesSpell.exists_numberEntries? {entries : List (Written String × Written String)}
    {pairs : List (String × Json)} (spelled : EntriesSpell entries pairs) (anchors : Anchors) :
    ∃ numbered, numberEntries? anchors entries = some (numbered, anchors) ∧
      EntriesSpell numbered pairs := by
  cases spelled with
  | nil => exact ⟨[], rfl, .nil⟩
  | @cons value entries name tree pairs mark head rest =>
      obtain ⟨part, first, spelledFirst⟩ := head.exists_number? anchors
      obtain ⟨parts, others, spelledOthers⟩ := rest.exists_numberEntries? anchors
      refine ⟨(.scalar {} mark name false, part) :: parts, ?_,
        .cons mark spelledFirst spelledOthers⟩
      simp only [numberEntries?, number?, Anchors.define, Anchors.keep, first, others]
end

end Written

/-! ## Mirrored values -/

mutual
/-- The located value and the node come from one tree. What stands too deep to be read mirrors
    anything. -/
inductive Mirrored : Json → Json.Node → Node → Prop where
  | null (stop : Nat) (mark : Mark) : Mirrored .null (.null stop) (.scalar mark none "null" true)
  | bool (value : Bool) (stop : Nat) (mark : Mark) :
      Mirrored (.bool value) (.bool value stop)
        (.scalar mark none (if value then "true" else "false") true)
  | text (value : String) (stop : Nat) (mark : Mark) :
      Mirrored (.text value) (.text (.ok value) stop) (.scalar mark none value false)
  | list (start stop : Nat) (mark : Mark) {trees : List Json} {items : List (Item Json.Node)}
      {parts : List Node} (each : ItemsMirrored trees items parts) :
      Mirrored (.list trees) (.list start items (.closed stop)) (.list mark none parts)
  | object (start stop : Nat) (mark : Mark) {pairs : List (String × Json)}
      {members : List (Member Json.Node)} {entries : List (Entry Node)}
      (each : MembersMirrored pairs members entries) :
      Mirrored (.object pairs) (.object start members (.closed stop)) (.map mark none entries)
  | deep (tree : Json) (limit : Json.Fault) (value : Json.Node) (part : Node) :
      Mirrored tree (.deep limit value) part

inductive ItemsMirrored : List Json → List (Item Json.Node) → List Node → Prop where
  | nil : ItemsMirrored [] [] []
  | cons {tree : Json} {trees : List Json} {item : Item Json.Node} {items : List (Item Json.Node)}
      {part : Node} {parts : List Node} (head : Mirrored tree item.node part)
      (rest : ItemsMirrored trees items parts) :
      ItemsMirrored (tree :: trees) (item :: items) (part :: parts)

inductive MembersMirrored :
    List (String × Json) → List (Member Json.Node) → List (Entry Node) → Prop where
  | nil : MembersMirrored [] [] []
  | cons {name : String} {tree : Json} {pairs : List (String × Json)} {member : Member Json.Node}
      {members : List (Member Json.Node)} {label : Option String} {part : Node}
      {entries : List (Entry Node)} (mark : Mark) (named : member.name = .ok name)
      (head : Mirrored tree member.node part) (rest : MembersMirrored pairs members entries) :
      MembersMirrored ((name, tree) :: pairs) (member :: members)
        (⟨label, .scalar mark none name false, part⟩ :: entries)
end

/-! ## Expansion -/

section Counting

variable {α β : Type} (step : Nat → α → β × Nat)

/-- What was found before stands in front of what is found from here on. -/
theorem toList_foldl_counting (found : Array β) (budget : Nat) (elements : List α) :
    (elements.foldl (fun (state : Array β × Nat) element =>
        let (result, budget) := step state.2 element
        (state.1.push result, budget)) (found, budget)).1.toList =
      found.toList ++ (mapCounting step budget elements).1 := by
  induction elements generalizing found budget with
  | nil => exact (List.append_nil found.toList).symm
  | cons element elements ih =>
      have first : (mapCounting step budget (element :: elements)).1 =
          [(step budget element).1] ++ (mapCounting step (step budget element).2 elements).1 :=
        ih (#[].push (step budget element).1) (step budget element).2
      rw [List.foldl_cons, first, ← List.append_assoc, ← Array.toList_push]
      exact ih (found.push (step budget element).1) (step budget element).2

theorem mapCounting_cons (budget : Nat) (first : α) (rest : List α) :
    (mapCounting step budget (first :: rest)).1 =
      (step budget first).1 :: (mapCounting step (step budget first).2 rest).1 :=
  toList_foldl_counting step (#[].push (step budget first).1) (step budget first).2 rest

end Counting

@[simp] theorem expand_scalar (anchors : Anchors) (depth budget : Nat) (properties : Properties)
    (mark : Mark) (text : String) (isPlain : Bool) :
    Node.expand anchors depth budget (.scalar properties mark text isPlain) =
      (.scalar mark properties.tag text isPlain, budget) := by
  cases depth <;> rfl

theorem expand_list (anchors : Anchors) (depth budget : Nat) (properties : Properties)
    (mark : Mark) (items : List (Written Nat)) :
    (Node.expand anchors (depth + 1) budget (.list properties mark items)).1 =
      .list mark properties.tag (mapCounting (Node.expand anchors depth) budget items).1 := rfl

/-- The entry of a key and its value, and how many aliases are left behind it. -/
def expandEntry (anchors : Anchors) (depth budget : Nat) (entry : Written Nat × Written Nat) :
    Entry Node × Nat :=
  let (key, budget) := Node.expand anchors depth budget entry.1
  let (value, budget) := Node.expand anchors depth budget entry.2
  (⟨entry.1.label, key, value⟩, budget)

theorem expand_map (anchors : Anchors) (depth budget : Nat) (properties : Properties)
    (mark : Mark) (entries : List (Written Nat × Written Nat)) :
    (Node.expand anchors (depth + 1) budget (.map properties mark entries)).1 =
      .map mark properties.tag (mapCounting (expandEntry anchors depth) budget entries).1 := rfl

mutual
/-- A written tree becomes nodes that mirror any located value of the tree, if as many collections
    may be opened as the value has levels. -/
theorem mirrored_expand (anchors : Anchors) {value : Json.Node} {tree : Json} {root : Written Nat}
    {depth : Nat} (budget : Nat) (shows : value.Shows tree) (room : value.levels ≤ depth)
    (spelled : root.Spells tree) :
    Mirrored tree value (Node.expand anchors depth budget root).1 := by
  cases shows with
  | null stop =>
      cases spelled
      rw [expand_scalar]
      exact .null stop _
  | bool value stop =>
      cases spelled
      rw [expand_scalar]
      exact .bool value stop _
  | number => cases spelled
  | text value stop =>
      cases spelled
      rw [expand_scalar]
      exact .text value stop _
  | list start stop each =>
      cases spelled with
      | list mark others =>
          cases depth with
          | zero => exact absurd room (Nat.not_succ_le_zero _)
          | succ depth =>
              rw [expand_list]
              exact .list start stop mark
                (itemsMirrored_expand anchors budget each (Nat.le_of_succ_le_succ room) others)
  | object start stop each =>
      cases spelled with
      | object mark others =>
          cases depth with
          | zero => exact absurd room (Nat.not_succ_le_zero _)
          | succ depth =>
              rw [expand_map]
              exact .object start stop mark
                (membersMirrored_expand anchors budget each (Nat.le_of_succ_le_succ room) others)
  | deep limit shows => exact .deep tree limit _ _

theorem itemsMirrored_expand (anchors : Anchors) {items : List (Item Json.Node)}
    {trees : List Json} {written : List (Written Nat)} {depth : Nat} (budget : Nat)
    (shown : Json.Node.ItemsShow items trees) (room : Json.Node.itemLevels items ≤ depth)
    (spelled : Written.ItemsSpell written trees) :
    ItemsMirrored trees items (mapCounting (Node.expand anchors depth) budget written).1 := by
  cases shown with
  | nil =>
      cases spelled
      exact .nil
  | cons head rest =>
      cases spelled with
      | cons first others =>
          obtain ⟨roomFirst, roomOthers⟩ := Nat.max_le.mp room
          rw [mapCounting_cons]
          exact .cons (mirrored_expand anchors _ head roomFirst first)
            (itemsMirrored_expand anchors _ rest roomOthers others)

theorem membersMirrored_expand (anchors : Anchors) {members : List (Member Json.Node)}
    {pairs : List (String × Json)} {written : List (Written Nat × Written Nat)} {depth : Nat}
    (budget : Nat) (shown : Json.Node.MembersShow members pairs)
    (room : Json.Node.memberLevels members ≤ depth)
    (spelled : Written.EntriesSpell written pairs) :
    MembersMirrored pairs members (mapCounting (expandEntry anchors depth) budget written).1 := by
  cases shown with
  | nil =>
      cases spelled
      exact .nil
  | @cons member members name tree pairs named head rest =>
      cases spelled with
      | @cons part entries _ _ _ mark first others =>
          obtain ⟨roomFirst, roomOthers⟩ := Nat.max_le.mp room
          have entry : (expandEntry anchors depth budget (.scalar {} mark name false, part)).1 =
              ⟨some name, .scalar mark none name false,
                (Node.expand anchors depth budget part).1⟩ := by
            simp only [expandEntry, expand_scalar, Written.label]
          rw [mapCounting_cons, entry]
          exact .cons mark named (mirrored_expand anchors _ head roomFirst first)
            (membersMirrored_expand anchors _ rest roomOthers others)
end

/-- A written root is a readable document, and its nodes mirror any located value of the tree that
    has no more levels than nodes may have. -/
theorem exists_mirrored {value : Json.Node} {tree : Json} {root : Written String}
    (shows : value.Shows tree) (room : value.levels ≤ depthLimit) (spelled : root.Spells tree) :
    ∃ node, Node.ofWritten? (.document root) = some node ∧ Mirrored tree value node := by
  obtain ⟨numbered, reached, numberedSpells⟩ := spelled.exists_number? {}
  have opened :=
    mirrored_expand {} (aliasesPerEvent * numbered.eventCount) shows room numberedSpells
  exact ⟨_, by rw [Node.ofWritten?, reached], opened⟩

end Yaml

end ApiComponents
