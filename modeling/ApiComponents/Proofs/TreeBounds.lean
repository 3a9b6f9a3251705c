import ApiComponents.Proofs.NormalForms
import ApiComponents.Proofs.Parts
import ApiComponents.Proofs.ReaderInvariants

/-! # Bounds on trees

How deep arrays and objects stand in each other, and what holds of the numbers in them. Both bounds
pass to the parts of a tree and to what is kept of a tree.
-/

namespace ApiComponents.Json

variable {fit fits : Number → Prop} {bound : Nat}

/-- So many arrays and objects at most stand in each other, and every number fits. -/
def Within (fit : Number → Prop) : Nat → Json → Prop
  | _, number value => fit value
  | 0, list _ | 0, object _ => False
  | bound + 1, list items => ∀ item ∈ items, Within fit bound item
  | bound + 1, object members => ∀ member ∈ members, Within fit bound member.2
  | _, _ => True

@[simp] theorem within_null : Within fit bound .null := by cases bound <;> trivial

@[simp] theorem within_bool (value : Bool) : Within fit bound (.bool value) := by
  cases bound <;> trivial

@[simp] theorem within_text (value : String) : Within fit bound (.text value) := by
  cases bound <;> trivial

@[simp] theorem within_number_iff {value : Number} :
    Within fit bound (.number value) ↔ fit value := by
  cases bound <;> rfl

@[simp] theorem within_list_iff {items : List Json} :
    Within fit (bound + 1) (.list items) ↔ ∀ item ∈ items, Within fit bound item := Iff.rfl

@[simp] theorem within_object_iff {members : List (String × Json)} :
    Within fit (bound + 1) (.object members) ↔ ∀ member ∈ members, Within fit bound member.2 :=
  Iff.rfl

namespace Within

theorem mono {tree : Json} {more : Nat} (enough : bound ≤ more) (within : tree.Within fit bound) :
    tree.Within fit more := by
  induction bound generalizing more tree with
  | zero => cases tree <;> simp_all [Within]
  | succ bound ih =>
      obtain ⟨more, rfl⟩ := Nat.exists_eq_succ_of_ne_zero (Nat.ne_zero_of_lt enough)
      have fewer := Nat.le_of_succ_le_succ enough
      cases tree with
      | list items => exact fun item inside => ih fewer (within item inside)
      | object members => exact fun member inside => ih fewer (within member inside)
      | null | bool | text => simp
      | number value => exact within

/-- The smaller of two bounds comes with what both say of the numbers. -/
theorem and {tree : Json} {deeper : Nat} (within : tree.Within fit bound)
    (withinToo : tree.Within fits deeper) :
    tree.Within (fun number => fit number ∧ fits number) bound := by
  induction bound generalizing deeper tree with
  | zero => cases tree <;> simp_all [Within]
  | succ bound ih =>
      cases tree with
      | null | bool | text => simp
      | number value => exact ⟨within, within_number_iff.mp withinToo⟩
      | list items =>
          cases deeper with
          | zero => cases withinToo
          | succ deeper => exact fun item inside => ih (within item inside) (withinToo item inside)
      | object members =>
          cases deeper with
          | zero => cases withinToo
          | succ deeper =>
              exact fun member inside => ih (within member inside) (withinToo member inside)

theorem imp {tree : Json} (implies : ∀ number, fit number → fits number)
    (within : tree.Within fit bound) : tree.Within fits bound := by
  induction bound generalizing tree with
  | zero => cases tree <;> simp_all [Within]
  | succ bound ih =>
      cases tree with
      | null | bool | text => simp
      | number value => exact implies _ within
      | list items => exact fun item inside => ih (within item inside)
      | object members => exact fun member inside => ih (within member inside)

theorem part {tree part : Json} (within : tree.Within fit (bound + 1))
    (inside : part ∈ tree.parts) : part.Within fit bound := by
  cases tree with
  | null | bool | number | text => cases inside
  | list items => exact within part inside
  | object members =>
      obtain ⟨member, listed, rfl⟩ := List.mem_map.mp inside
      exact within member listed

end Within

/-! ## Repeated names -/

mutual
/-- No object, at any depth, repeats a name. -/
def Unrepeated : Json → Prop
  | .list items => itemsUnrepeated items
  | .object members => (members.map Prod.fst).Nodup ∧ membersUnrepeated members
  | _ => True

def itemsUnrepeated : List Json → Prop
  | [] => True
  | item :: rest => item.Unrepeated ∧ itemsUnrepeated rest

def membersUnrepeated : List (String × Json) → Prop
  | [] => True
  | (_, value) :: rest => value.Unrepeated ∧ membersUnrepeated rest
end

mutual
/-- As the numbers of a text are finite, its tree is regular if it repeats no name. -/
theorem Within.regular {tree : Json} {bound : Nat} (within : tree.Within Number.InRange bound)
    (unrepeated : tree.Unrepeated) : tree.Regular := by
  cases tree with
  | null | bool | text => trivial
  | number value =>
      cases value with
      | natural | negative => trivial
      | float value => exact within_number_iff.mp within
  | list items =>
      cases bound with
      | zero => cases within
      | succ bound => exact itemsRegular_of_within within unrepeated
  | object members =>
      cases bound with
      | zero => cases within
      | succ bound => exact ⟨unrepeated.1, membersRegular_of_within within unrepeated.2⟩

theorem itemsRegular_of_within {items : List Json} {bound : Nat}
    (within : ∀ item ∈ items, item.Within Number.InRange bound)
    (unrepeated : itemsUnrepeated items) : itemsRegular items := by
  cases items with
  | nil => trivial
  | cons item items =>
      obtain ⟨head, rest⟩ := List.forall_mem_cons.mp within
      exact ⟨Within.regular head unrepeated.1, itemsRegular_of_within rest unrepeated.2⟩

theorem membersRegular_of_within {members : List (String × Json)} {bound : Nat}
    (within : ∀ member ∈ members, member.2.Within Number.InRange bound)
    (unrepeated : membersUnrepeated members) : membersRegular members := by
  cases members with
  | nil => trivial
  | cons member members =>
      obtain ⟨name, value⟩ := member
      obtain ⟨head, rest⟩ := List.forall_mem_cons.mp within
      exact ⟨Within.regular head unrepeated.1, membersRegular_of_within rest unrepeated.2⟩
end

/-! ## Kept values -/

theorem exists_of_jsonItems? {items values : List Json}
    (read : Content.jsonItems? (Content.ofItems items) = some values) {value : Json}
    (inside : value ∈ values) : ∃ item ∈ items, (Content.ofJson item).json? = some value := by
  induction items generalizing values with
  | nil =>
      cases read
      cases inside
  | cons item items ih =>
      rw [Content.ofItems, Content.jsonItems?] at read
      split at read
      · next first others here behind =>
        cases read
        rcases List.mem_cons.mp inside with rfl | later
        · exact ⟨item, List.mem_cons_self, here⟩
        · obtain ⟨other, listed, kept⟩ := ih behind later
          exact ⟨other, List.mem_cons_of_mem _ listed, kept⟩
      · cases read

theorem exists_of_jsonMembers? {members kept : List (String × Json)}
    (read : Content.jsonMembers? (Content.ofMembers members) = some kept) {pair : String × Json}
    (inside : pair ∈ kept) :
    ∃ member ∈ members, (Content.ofJson member.2).json? = some pair.2 := by
  induction members generalizing kept with
  | nil =>
      cases read
      cases inside
  | cons member members ih =>
      rw [Content.ofMembers, Content.jsonMembers?] at read
      split at read
      · next first others here behind =>
        cases read
        rcases List.mem_cons.mp inside with rfl | later
        · exact ⟨member, List.mem_cons_self, here⟩
        · obtain ⟨other, listed, kept⟩ := ih behind later
          exact ⟨other, List.mem_cons_of_mem _ listed, kept⟩
      · cases read

theorem within_numberJson {value : Number} (fits : fit value) :
    (Content.numberJson value).Within fit bound := by
  cases value with
  | natural | negative => exact within_number_iff.mpr fits
  | float value =>
      rw [Content.numberJson]
      split
      · exact within_number_iff.mpr fits
      · exact within_null

/-- What is kept of a tree stays within the bounds of the tree. -/
theorem Within.kept {bound : Nat} {tree value : Json} (within : tree.Within fit bound)
    (kept : (Content.ofJson tree).json? = some value) : value.Within fit bound := by
  cases tree with
  | null | bool | text =>
      cases kept
      simp
  | number number =>
      cases kept
      exact within_numberJson (within_number_iff.mp within)
  | list items =>
      obtain ⟨values, read, rfl⟩ := Option.map_eq_some_iff.mp kept
      cases bound with
      | zero => cases within
      | succ bound =>
          intro value inside
          obtain ⟨item, listed, here⟩ := exists_of_jsonItems? read inside
          exact Within.kept (within item listed) here
  | object members =>
      obtain ⟨pairs, read, rfl⟩ := Option.map_eq_some_iff.mp kept
      cases bound with
      | zero => cases within
      | succ bound =>
          intro pair inside
          obtain ⟨member, listed, here⟩ :=
            exists_of_jsonMembers? read (mem_of_mem_sortMembers inside)
          exact Within.kept (within member listed) here
termination_by bound

/-! ## Trees of nodes -/

theorem exists_within_cons {tree : Json} {trees : List Json}
    (head : ∃ bound, tree.Within fit bound)
    (rest : ∃ bound, ∀ other ∈ trees, other.Within fit bound) :
    ∃ bound, ∀ other ∈ tree :: trees, other.Within fit bound := by
  obtain ⟨here, within⟩ := head
  obtain ⟨behind, others⟩ := rest
  refine ⟨max here behind, List.forall_mem_cons.mpr ⟨within.mono (Nat.le_max_left _ _), ?_⟩⟩
  exact fun other inside => (others other inside).mono (Nat.le_max_right _ _)

mutual
/-- A tree has some bound, and what holds of the numbers of a value holds of its tree. -/
theorem Node.exists_within (node : Node) (each : node.EachNumber fit) :
    ∃ bound, node.tree.Within fit bound := by
  cases node with
  | null | bool | broken => exact ⟨0, by simp [tree]⟩
  | number read =>
      cases read with
      | error fault => exact ⟨0, within_null⟩
      | ok value => exact ⟨0, within_number_iff.mpr each⟩
  | text read => cases read <;> exact ⟨0, trivial⟩
  | list start items =>
      obtain ⟨bound, within⟩ := exists_within_itemTrees items each
      exact ⟨bound + 1, within⟩
  | object start members =>
      obtain ⟨bound, within⟩ := exists_within_memberTrees members each
      exact ⟨bound + 1, List.forall_mem_map.mp within⟩
  | deep limit node => exact node.exists_within each

theorem Node.exists_within_itemTrees (items : List (Item Node))
    (each : ItemsEachNumber fit items) :
    ∃ bound, ∀ tree ∈ itemTrees items, tree.Within fit bound := by
  match items with
  | [] => exact ⟨0, nofun⟩
  | ⟨node, _, _⟩ :: items =>
      exact exists_within_cons (node.exists_within each.1)
        (Node.exists_within_itemTrees items each.2)

theorem Node.exists_within_memberTrees (members : List (Member Node))
    (each : MembersEachNumber fit members) :
    ∃ bound, ∀ tree ∈ (memberTrees members).map Prod.snd, tree.Within fit bound := by
  match members with
  | [] => exact ⟨0, nofun⟩
  | ⟨.error _, _, _, _, _⟩ :: members => exact Node.exists_within_memberTrees members each.2
  | ⟨.ok _, _, _, node, _⟩ :: members =>
      exact exists_within_cons (node.exists_within each.1)
        (Node.exists_within_memberTrees members each.2)
end

/-- The numbers in the tree of a text are in range. -/
theorem exists_within_treeOf (text : String) :
    ∃ bound, (treeOf text).Within Number.InRange bound :=
  (Document.ofText text).root.exists_within (Document.inRange_ofText text)

end ApiComponents.Json
