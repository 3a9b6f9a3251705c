import Mathlib.Data.List.Sort
import Mathlib.Data.String.Basic
import ApiComponents.Proofs.Members

/-! # Values in normal form

A value that is kept whole is kept in normal form: members sorted, the last of several with one
name kept. Two trees that differ only in the order of members have the same normal form, as long
as no name is repeated, and a value in normal form stays as it is.
-/

namespace ApiComponents

open Members

namespace Json

/-! ## Sorted members -/

/-- The names of the members ascend, so none stands twice. -/
def Ascending (members : List (String × Json)) : Prop :=
  members.Pairwise fun member other => member.1 < other.1

theorem Ascending.distinct {members : List (String × Json)} (ascending : Ascending members) :
    (members.map Prod.fst).Nodup :=
  List.pairwise_map.mpr (ascending.imp fun less => ne_of_lt less)

/-- Members in ascending order are determined by what they are. -/
theorem Ascending.eq_of_perm {members others : List (String × Json)}
    (ascending : Ascending members) (ascendingToo : Ascending others)
    (reordered : members.Perm others) : members = others :=
  reordered.eq_of_pairwise (fun _ _ _ _ less greater => absurd greater (lt_asymm less)) ascending
    ascendingToo

theorem mem_placeMember {name : String} {value : Json} {members : List (String × Json)}
    {member : String × Json} (inside : member ∈ placeMember name value members) :
    member = (name, value) ∨ member ∈ members := by
  induction members with
  | nil => exact .inl (List.mem_singleton.mp inside)
  | cons head rest ih =>
      obtain ⟨other, previous⟩ := head
      unfold placeMember at inside
      split at inside
      · rcases List.mem_cons.mp inside with here | later
        · exact .inl here
        · exact .inr (List.mem_cons_of_mem _ later)
      · split at inside
        · exact List.mem_cons.mp inside
        · rcases List.mem_cons.mp inside with here | later
          · exact .inr (here ▸ List.mem_cons_self)
          · exact (ih later).imp_right (List.mem_cons_of_mem _)

theorem ascending_placeMember (name : String) (value : Json) {members : List (String × Json)}
    (ascending : Ascending members) : Ascending (placeMember name value members) := by
  induction members with
  | nil => exact List.pairwise_singleton _ _
  | cons head rest ih =>
      obtain ⟨other, previous⟩ := head
      obtain ⟨above, later⟩ := List.pairwise_cons.mp ascending
      unfold placeMember
      split
      · next same =>
        subst same
        exact List.pairwise_cons.mpr ⟨above, later⟩
      · next apart =>
        split
        · next less =>
          refine List.pairwise_cons.mpr ⟨fun member inside => ?_, ascending⟩
          rcases List.mem_cons.mp inside with rfl | inside
          · exact less
          · exact lt_trans less (above member inside)
        · next notLess =>
          have greater : other < name := lt_of_le_of_ne (not_lt.mp notLess) (Ne.symm apart)
          refine List.pairwise_cons.mpr ⟨fun member inside => ?_, ih later⟩
          rcases mem_placeMember inside with rfl | inside
          · exact greater
          · exact above member inside

theorem perm_placeMember {name : String} (value : Json) {members : List (String × Json)}
    (new : name ∉ members.map Prod.fst) :
    (placeMember name value members).Perm ((name, value) :: members) := by
  induction members with
  | nil => exact .refl _
  | cons head rest ih =>
      obtain ⟨other, previous⟩ := head
      simp only [List.map_cons, List.mem_cons, not_or] at new
      unfold placeMember
      rw [if_neg new.1]
      split
      · exact .refl _
      · exact ((ih new.2).cons _).trans (.swap _ _ _)

theorem sortMembers_append_single (members : List (String × Json)) (member : String × Json) :
    sortMembers (members ++ [member]) = placeMember member.1 member.2 (sortMembers members) := by
  simp only [sortMembers, List.foldl_append, List.foldl_cons, List.foldl_nil]

theorem ascending_sortMembers (members : List (String × Json)) :
    Ascending (sortMembers members) := by
  induction members using List.reverseRecOn with
  | nil => exact .nil
  | append_singleton members member ih =>
      rw [sortMembers_append_single]
      exact ascending_placeMember _ _ ih

theorem mem_of_mem_sortMembers {members : List (String × Json)} {member : String × Json}
    (inside : member ∈ sortMembers members) : member ∈ members := by
  induction members using List.reverseRecOn with
  | nil => exact inside
  | append_singleton members last ih =>
      rw [sortMembers_append_single] at inside
      rcases mem_placeMember inside with rfl | inside
      · exact List.mem_append_right _ List.mem_cons_self
      · exact List.mem_append_left _ (ih inside)

theorem perm_sortMembers {members : List (String × Json)}
    (distinct : (members.map Prod.fst).Nodup) : (sortMembers members).Perm members := by
  induction members using List.reverseRecOn with
  | nil => exact .refl _
  | append_singleton members member ih =>
      rw [List.map_append, List.nodup_append] at distinct
      obtain ⟨distinct, -, apart⟩ := distinct
      have sorted := ih distinct
      have new : member.1 ∉ (sortMembers members).map Prod.fst := fun inside =>
        apart _ ((sorted.map Prod.fst).mem_iff.mp inside) _ List.mem_cons_self rfl
      rw [sortMembers_append_single]
      exact ((perm_placeMember member.2 new).trans (sorted.cons member)).trans
        (List.perm_append_singleton member members).symm

theorem sortMembers_of_ascending {members : List (String × Json)}
    (ascending : Ascending members) : sortMembers members = members :=
  (ascending_sortMembers members).eq_of_perm ascending (perm_sortMembers ascending.distinct)

/-- The order in which distinct members are given does not matter. -/
theorem sortMembers_congr {members others : List (String × Json)}
    (distinct : (members.map Prod.fst).Nodup) (reordered : members.Perm others) :
    sortMembers members = sortMembers others := by
  have distinctToo : (others.map Prod.fst).Nodup :=
    ((reordered.map Prod.fst).nodup_iff).mp distinct
  exact (ascending_sortMembers members).eq_of_perm (ascending_sortMembers others)
    (((perm_sortMembers distinct).trans reordered).trans (perm_sortMembers distinctToo).symm)

/-- Sorting moves the members, and each name keeps its value. -/
theorem valuesOf_sortMembers {members : List (String × Json)}
    (distinct : (members.map Prod.fst).Nodup) (name : String) :
    valuesOf name (sortMembers members) = valuesOf name members := by
  have reordered := valuesOf_perm (perm_sortMembers distinct) name
  have few := length_valuesOf_le_one distinct name
  match found : valuesOf name members with
  | [] => exact List.perm_nil.mp (found ▸ reordered)
  | [value] => exact List.perm_singleton.mp (found ▸ reordered)
  | _ :: _ :: _ =>
      rw [found] at few
      exact absurd (Nat.le_of_succ_le_succ few) (Nat.not_succ_le_zero _)

theorem memberOf_placeMember (name other : String) (value : Json)
    (members : List (String × Json)) :
    memberOf name (placeMember other value members) =
      if name = other then some value else memberOf name members := by
  induction members with
  | nil => rfl
  | cons member members ih =>
      obtain ⟨present, previous⟩ := member
      unfold placeMember
      split
      · next same =>
        subst same
        simp only [memberOf]
        split <;> rfl
      · next apart =>
        split
        · rfl
        · simp only [memberOf, ih]
          by_cases same : name = present
          · rw [if_pos same, if_neg fun h => apart (h.symm.trans same), if_pos same]
          · rw [if_neg same, if_neg same]

/-- A name has its last value when the members are sorted. -/
theorem memberOf_sortMembers (name : String) (members : List (String × Json)) :
    memberOf name (sortMembers members) = (valuesOf name members).getLast? := by
  induction members using List.reverseRecOn with
  | nil => rfl
  | append_singleton members member ih =>
      rw [sortMembers_append_single, memberOf_placeMember, ih, valuesOf_append, valuesOf_cons]
      split
      · exact List.getLast?_concat.symm
      · rw [valuesOf_nil, List.append_nil]

/-! ## Normal forms -/

mutual
/-- All numbers are finite, and no object, at any depth, repeats a name. -/
def Regular : Json → Prop
  | .number (.float value) => value.isFinite = true
  | .list items => itemsRegular items
  | .object members => (members.map Prod.fst).Nodup ∧ membersRegular members
  | _ => True

def itemsRegular : List Json → Prop
  | [] => True
  | item :: rest => item.Regular ∧ itemsRegular rest

def membersRegular : List (String × Json) → Prop
  | [] => True
  | (_, value) :: rest => value.Regular ∧ membersRegular rest
end

theorem itemsRegular_iff {items : List Json} :
    itemsRegular items ↔ ∀ item ∈ items, item.Regular := by
  induction items with
  | nil => simp [itemsRegular]
  | cons item items ih => simp [itemsRegular, ih]

theorem membersRegular_iff {members : List (String × Json)} :
    membersRegular members ↔ ∀ member ∈ members, member.2.Regular := by
  induction members with
  | nil => simp [membersRegular]
  | cons member members ih => simp [membersRegular, ih]

theorem normalizedItems_eq_map (items : List Json) :
    normalizedItems items = items.map normalized := by
  induction items with
  | nil => rfl
  | cons item items ih => rw [normalizedItems, ih, List.map_cons]

theorem normalizedMembers_eq_map (members : List (String × Json)) :
    normalizedMembers members = members.map fun member => (member.1, member.2.normalized) := by
  induction members with
  | nil => rfl
  | cons member members ih => rw [normalizedMembers, ih, List.map_cons]

theorem map_fst_normalizedMembers (members : List (String × Json)) :
    (normalizedMembers members).map Prod.fst = members.map Prod.fst := by
  simp [normalizedMembers_eq_map]

/-- Each name of an object without repeated names keeps its value, in normal form. -/
theorem valuesOf_normalized {members : List (String × Json)}
    (distinct : (members.map Prod.fst).Nodup) (name : String) :
    valuesOf name (sortMembers (normalizedMembers members)) =
      (valuesOf name members).map normalized := by
  rw [valuesOf_sortMembers (by rwa [map_fst_normalizedMembers]), normalizedMembers_eq_map,
    valuesOf_map]

/-- The value is regular, and it is its own normal form. -/
structure Normal (value : Json) : Prop where
  regular : value.Regular
  fixed : value.normalized = value

theorem normal_list {items : List Json} (normal : ∀ item ∈ items, item.Normal) :
    (list items).Normal where
  regular := itemsRegular_iff.mpr fun item inside => (normal item inside).regular
  fixed := by
    have each : items.map normalized = items.map id :=
      List.map_congr_left fun item inside => (normal item inside).fixed
    rw [normalized, normalizedItems_eq_map, each, List.map_id]

theorem normal_object {members : List (String × Json)}
    (normal : ∀ member ∈ members, member.2.Normal) : (object (sortMembers members)).Normal where
  regular := ⟨(ascending_sortMembers members).distinct, membersRegular_iff.mpr fun member inside =>
    (normal member (mem_of_mem_sortMembers inside)).regular⟩
  fixed := by
    have each : (sortMembers members).map (fun member => (member.1, member.2.normalized)) =
        (sortMembers members).map id :=
      List.map_congr_left fun member inside =>
        congrArg (member.1, ·) (normal member (mem_of_mem_sortMembers inside)).fixed
    rw [normalized, normalizedMembers_eq_map, each, List.map_id,
      sortMembers_of_ascending (ascending_sortMembers members)]

mutual
/-- Every tree can be kept whole, and what is kept is in normal form. -/
theorem exists_normal_json (tree : Json) :
    ∃ value, (Content.ofJson tree).json? = some value ∧ value.Normal := by
  cases tree with
  | null | bool | text => exact ⟨_, rfl, trivial, rfl⟩
  | number value =>
      cases value with
      | natural | negative => exact ⟨_, rfl, trivial, rfl⟩
      | float value =>
          by_cases finite : value.isFinite = true
          · exact ⟨_, congrArg some (if_pos finite), finite, rfl⟩
          · exact ⟨_, congrArg some (if_neg finite), trivial, rfl⟩
  | list items =>
      obtain ⟨values, read, normal⟩ := exists_normal_items items
      exact ⟨.list values, by rw [Content.ofJson, Content.json?, read]; rfl, normal_list normal⟩
  | object members =>
      obtain ⟨values, read, normal⟩ := exists_normal_members members
      exact ⟨.object (sortMembers values), by rw [Content.ofJson, Content.json?, read]; rfl,
        normal_object normal⟩

theorem exists_normal_items (items : List Json) :
    ∃ values, Content.jsonItems? (Content.ofItems items) = some values ∧
      ∀ value ∈ values, value.Normal := by
  cases items with
  | nil => exact ⟨[], rfl, by simp⟩
  | cons item items =>
      obtain ⟨value, read, normal⟩ := exists_normal_json item
      obtain ⟨values, reads, normals⟩ := exists_normal_items items
      exact ⟨value :: values, by rw [Content.ofItems, Content.jsonItems?, read, reads],
        List.forall_mem_cons.mpr ⟨normal, normals⟩⟩

theorem exists_normal_members (members : List (String × Json)) :
    ∃ values, Content.jsonMembers? (Content.ofMembers members) = some values ∧
      ∀ value ∈ values, value.2.Normal := by
  cases members with
  | nil => exact ⟨[], rfl, by simp⟩
  | cons member members =>
      obtain ⟨name, tree⟩ := member
      obtain ⟨value, read, normal⟩ := exists_normal_json tree
      obtain ⟨values, reads, normals⟩ := exists_normal_members members
      exact ⟨(name, value) :: values, by rw [Content.ofMembers, Content.jsonMembers?, read, reads],
        List.forall_mem_cons.mpr ⟨normal, normals⟩⟩
end

mutual
/-- A regular tree is kept in its normal form. -/
theorem json?_of_regular {tree : Json} (regular : tree.Regular) :
    (Content.ofJson tree).json? = some tree.normalized := by
  cases tree with
  | null | bool | text => rfl
  | number value =>
      cases value with
      | natural | negative => rfl
      | float value => exact congrArg some (if_pos regular)
  | list items => rw [Content.ofJson, Content.json?, jsonItems?_of_regular regular]; rfl
  | object members =>
      rw [Content.ofJson, Content.json?, jsonMembers?_of_regular regular.2]
      rfl

theorem jsonItems?_of_regular {items : List Json} (regular : itemsRegular items) :
    Content.jsonItems? (Content.ofItems items) = some (normalizedItems items) := by
  cases items with
  | nil => rfl
  | cons item items =>
      rw [Content.ofItems, Content.jsonItems?, json?_of_regular regular.1,
        jsonItems?_of_regular regular.2]
      rfl

theorem jsonMembers?_of_regular {members : List (String × Json)}
    (regular : membersRegular members) :
    Content.jsonMembers? (Content.ofMembers members) = some (normalizedMembers members) := by
  cases members with
  | nil => rfl
  | cons member members =>
      obtain ⟨name, tree⟩ := member
      rw [Content.ofMembers, Content.jsonMembers?, json?_of_regular regular.1,
        jsonMembers?_of_regular regular.2]
      rfl
end

theorem Regular.normal {tree : Json} (regular : tree.Regular) : tree.normalized.Normal := by
  obtain ⟨value, read, normal⟩ := exists_normal_json tree
  rw [json?_of_regular regular, Option.some.injEq] at read
  exact read ▸ normal

/-! ## Reordered members -/

mutual
/-- The trees differ at most in the order of the members of their objects, at any depth. -/
inductive Reordered : Json → Json → Prop where
  | same (tree : Json) : Reordered tree tree
  | list {items others : List Json} (each : ItemsReordered items others) :
      Reordered (.list items) (.list others)
  | object {members moved others : List (String × Json)} (order : members.Perm moved)
      (each : MembersReordered moved others) : Reordered (.object members) (.object others)

inductive ItemsReordered : List Json → List Json → Prop where
  | nil : ItemsReordered [] []
  | cons {item other : Json} {items others : List Json} (head : Reordered item other)
      (rest : ItemsReordered items others) : ItemsReordered (item :: items) (other :: others)

inductive MembersReordered : List (String × Json) → List (String × Json) → Prop where
  | nil : MembersReordered [] []
  | cons {name : String} {value other : Json} {members others : List (String × Json)}
      (head : Reordered value other) (rest : MembersReordered members others) :
      MembersReordered ((name, value) :: members) ((name, other) :: others)
end

mutual
theorem Reordered.regular {tree other : Json} (reordered : Reordered tree other)
    (regular : tree.Regular) : other.Regular := by
  cases reordered with
  | same => exact regular
  | list each => exact each.regular regular
  | object order each =>
      obtain ⟨distinct, values⟩ := regular
      refine ⟨?_, each.regular (membersRegular_iff.mpr fun member inside =>
        membersRegular_iff.mp values member (order.mem_iff.mpr inside))⟩
      rw [← each.names]
      exact ((order.map Prod.fst).nodup_iff).mp distinct

theorem ItemsReordered.regular {items others : List Json}
    (reordered : ItemsReordered items others) (regular : itemsRegular items) :
    itemsRegular others := by
  cases reordered with
  | nil => trivial
  | cons head rest => exact ⟨head.regular regular.1, rest.regular regular.2⟩

theorem MembersReordered.regular {members others : List (String × Json)}
    (reordered : MembersReordered members others) (regular : membersRegular members) :
    membersRegular others := by
  cases reordered with
  | nil => trivial
  | cons head rest => exact ⟨head.regular regular.1, rest.regular regular.2⟩

theorem MembersReordered.names {members others : List (String × Json)}
    (reordered : MembersReordered members others) :
    members.map Prod.fst = others.map Prod.fst := by
  cases reordered with
  | nil => rfl
  | cons head rest => rw [List.map_cons, List.map_cons, rest.names]
end

mutual
/-- Regular trees that differ only in the order of members have one normal form. -/
theorem Reordered.normalized_eq {tree other : Json} (reordered : Reordered tree other)
    (regular : tree.Regular) : tree.normalized = other.normalized := by
  cases reordered with
  | same => rfl
  | list each => rw [normalized, normalized, each.normalized_eq regular]
  | @object members moved others order each =>
      have moving : (normalizedMembers members).Perm (normalizedMembers moved) := by
        rw [normalizedMembers_eq_map, normalizedMembers_eq_map]
        exact order.map _
      have values : membersRegular moved := membersRegular_iff.mpr fun member inside =>
        membersRegular_iff.mp regular.2 member (order.mem_iff.mpr inside)
      have distinct : ((normalizedMembers members).map Prod.fst).Nodup := by
        rw [map_fst_normalizedMembers]
        exact regular.1
      rw [normalized, normalized, sortMembers_congr distinct moving, each.normalized_eq values]

theorem ItemsReordered.normalized_eq {items others : List Json}
    (reordered : ItemsReordered items others) (regular : itemsRegular items) :
    normalizedItems items = normalizedItems others := by
  cases reordered with
  | nil => rfl
  | cons head rest =>
      rw [normalizedItems, normalizedItems, head.normalized_eq regular.1,
        rest.normalized_eq regular.2]

theorem MembersReordered.normalized_eq {members others : List (String × Json)}
    (reordered : MembersReordered members others) (regular : membersRegular members) :
    normalizedMembers members = normalizedMembers others := by
  cases reordered with
  | nil => rfl
  | cons head rest =>
      rw [normalizedMembers, normalizedMembers, head.normalized_eq regular.1,
        rest.normalized_eq regular.2]
end

end Json

end ApiComponents
