import ApiComponents.Proofs.TaggedObjects

/-! # A mismatch stays where it is

Whatever stands in the place of a type has a meaning as a type. If the tree in one such place is
replaced by any other, the declaration around it is read as before, with the meaning of the new
tree in that place and nothing else changed.
-/

namespace ApiComponents

open Members

/-! ## Places of types -/

/-- One step from a type to a type inside it. -/
inductive TypeStep where
  | list
  | set
  | mapKey
  | mapValue
  | optional
  deriving Repr, DecidableEq

/-- The member under which the inner type stands in the object of the container. -/
def TypeStep.member : TypeStep → String
  | list => "list"
  | set => "set"
  | mapKey => "keyType"
  | mapValue => "valueType"
  | optional => "optional"

/-- The part of a shape to which a type belongs. -/
inductive TypeSlot where
  /-- The type that an alias stands for. -/
  | target
  | property (place : Nat)
  | variant (place : Nat)
  deriving Repr, DecidableEq

/-- A place of a type in a declaration: the part of the shape and the way down from there. -/
structure TypePosition where
  slot : TypeSlot
  path : List TypeStep
  deriving Repr, DecidableEq

/-- Change the item at a place, if there is one. -/
def changeItem? {α : Type} (change : α → Option α) : Nat → List α → Option (List α)
  | _, [] => none
  | 0, item :: rest => (change item).map (· :: rest)
  | place + 1, item :: rest => (changeItem? change place rest).map (item :: ·)

/-! ### In trees -/

/-- Change the value of the first member with a name, if there is one. -/
def changeMember? (name : String) (change : Json → Option Json) :
    List (String × Json) → Option (List (String × Json))
  | [] => none
  | (other, value) :: rest =>
      if name = other then (change value).map fun changed => (other, changed) :: rest
      else (changeMember? name change rest).map ((other, value) :: ·)

namespace Json

/-- Change the value under a name, if the tree is an object that has the name. -/
def under? (name : String) (change : Json → Option Json) : Json → Option Json
  | .object members => (changeMember? name change members).map .object
  | _ => none

/-- Change the item at a place, if the tree is an array that has the place. -/
def item? (place : Nat) (change : Json → Option Json) : Json → Option Json
  | .list items => (changeItem? change place items).map .list
  | _ => none

/-- Put a tree in the place of the type at the end of a path through container objects. -/
def putType? (new : Json) : List TypeStep → Json → Option Json
  | [] => fun _ => some new
  | step :: path => under? "container" (under? step.member (putType? new path))

/-- Change the type that belongs to a part of a shape object. -/
def slotType? (change : Json → Option Json) : TypeSlot → Json → Option Json
  | .target => under? "aliasOf" change
  | .property place => under? "properties" (item? place (under? "valueType" change))
  | .variant place => under? "types" (item? place (under? "valueType" change))

/-- Put a tree in the place of a type of a declaration object. -/
def replaceType? (new : Json) (position : TypePosition) : Json → Option Json :=
  under? "shape" (slotType? (putType? new position.path) position.slot)

end Json

/-! ### In declarations -/

def ContainerType.innerType? (change : TypeReference → Option TypeReference) :
    TypeStep → ContainerType → Option ContainerType
  | .list, list element => (change element).map list
  | .set, set element => (change element).map set
  | .mapKey, map key value => (change key).map (map · value)
  | .mapValue, map key value => (change value).map (map key ·)
  | .optional, optional inner => (change inner).map optional
  | _, _ => none

/-- Put a type in the place of the type at the end of a path. -/
def TypeReference.putType? (new : TypeReference) :
    List TypeStep → TypeReference → Option TypeReference
  | [], _ => some new
  | step :: path, container inner => (inner.innerType? (putType? new path) step).map container
  | _ :: _, _ => none

def Property.type? (change : TypeReference → Option TypeReference) (property : Property) :
    Option Property :=
  (change property.type).map fun type => { property with type }

def UnionVariant.type? (change : TypeReference → Option TypeReference) (variant : UnionVariant) :
    Option UnionVariant :=
  (change variant.type).map fun type => { variant with type }

def TypeShape.slotType? (change : TypeReference → Option TypeReference) :
    TypeSlot → TypeShape → Option TypeShape
  | .target, aliasOf target => (change target).map aliasOf
  | .property place, object parents properties =>
      (changeItem? (Property.type? change) place properties).map (object parents)
  | .variant place, union discriminant variants =>
      (changeItem? (UnionVariant.type? change) place variants).map (union discriminant)
  | _, _ => none

/-- Put a type in the place of a type of a declaration. -/
def Declaration.replaceType? (new : TypeReference) (position : TypePosition)
    (declaration : Declaration) : Option Declaration :=
  (declaration.shape.slotType? (TypeReference.putType? new position.path) position.slot).map
    fun shape => { declaration with shape }

/-! ## Changes that carry over -/

/-- A change of the tree carries over to the value: when both can be made, the changed tree is read
    as the changed value. -/
def Layout.Carries {α : Type} (layout : Layout α) (change : Json → Option Json)
    (result : α → Option α) : Prop :=
  ∀ ⦃tree changed : Json⦄ ⦃value next : α⦄, layout.Reads tree value →
    change tree = some changed → result value = some next → layout.Reads changed next

/-- What a changed member does to the values of all names. -/
theorem valuesOf_changeMember? {name : String} {change : Json → Option Json}
    {members changed : List (String × Json)}
    (success : changeMember? name change members = some changed) :
    (∃ old new rest, valuesOf name members = old :: rest ∧ change old = some new ∧
      valuesOf name changed = new :: rest) ∧
      ∀ other, other ≠ name → valuesOf other changed = valuesOf other members := by
  induction members generalizing changed with
  | nil => cases success
  | cons member members ih =>
      obtain ⟨key, value⟩ := member
      by_cases same : name = key
      · simp only [changeMember?, if_pos same] at success
        obtain ⟨new, found, rfl⟩ := Option.map_eq_some_iff.mp success
        refine ⟨⟨value, new, valuesOf name members, ?_, found, ?_⟩, fun other apart => ?_⟩
        · rw [valuesOf_cons, if_pos same]
        · rw [valuesOf_cons, if_pos same]
        · have different : ¬ other = key := fun h => apart (h.trans same.symm)
          rw [valuesOf_cons, valuesOf_cons, if_neg different, if_neg different]
      · simp only [changeMember?, if_neg same] at success
        obtain ⟨rest, found, rfl⟩ := Option.map_eq_some_iff.mp success
        obtain ⟨⟨old, new, others, before, step, after⟩, untouched⟩ := ih found
        refine ⟨⟨old, new, others, ?_, step, ?_⟩, fun other apart => ?_⟩
        · rw [valuesOf_cons, if_neg same, before]
        · rw [valuesOf_cons, if_neg same, after]
        · rw [valuesOf_cons, valuesOf_cons, untouched other apart]

section ChangedMembers

variable {name : String} {change : Json → Option Json} {members others : List (String × Json)}

theorem valuesOf_untouched (success : changeMember? name change members = some others)
    {other : String} (apart : other ≠ name) : valuesOf other others = valuesOf other members :=
  (valuesOf_changeMember? success).2 other apart

theorem Tagged.untouched {variants : List String} {place : Nat}
    (tag : Tagged variants place members) (success : changeMember? name change members = some others)
    (apart : Content.tagKey ≠ name) : Tagged variants place others := by
  rwa [Tagged, valuesOf_untouched success apart]

theorem Given.untouched {other : String} {fits : Json → Prop} (given : Given other members fits)
    (success : changeMember? name change members = some others) (apart : other ≠ name) :
    Given other others fits := by
  rwa [Given, valuesOf_untouched success apart]

theorem Given.changed {fits fitsThen : Json → Prop} (given : Given name members fits)
    (success : changeMember? name change members = some others)
    (carried : ∀ old new, fits old → change old = some new → fitsThen new) :
    Given name others fitsThen := by
  obtain ⟨tree, only, fit⟩ := given
  obtain ⟨⟨old, new, rest, before, step, after⟩, -⟩ := valuesOf_changeMember? success
  rw [only, List.cons.injEq] at before
  obtain ⟨rfl, rfl⟩ := before
  exact ⟨new, after, carried _ _ fit step⟩

variable {α : Type} {value : Layout α} {absence : Absence α} {first next : α}

theorem Layout.FieldReads.untouched {other : String}
    (reads : value.FieldReads absence (valuesOf other members) first)
    (success : changeMember? name change members = some others) (apart : other ≠ name) :
    value.FieldReads absence (valuesOf other others) first := by
  rwa [valuesOf_untouched success apart]

theorem Layout.FieldReads.changed {result : α → Option α}
    (reads : value.FieldReads absence (valuesOf name members) first)
    (success : changeMember? name change members = some others)
    (carries : value.Carries change result) (became : result first = some next) :
    value.FieldReads absence (valuesOf name others) next := by
  obtain ⟨⟨old, new, rest, before, step, after⟩, -⟩ := valuesOf_changeMember? success
  rcases reads with ⟨missing, -⟩ | ⟨tree, only, reads⟩
  · rw [missing] at before
    cases before
  · rw [only, List.cons.injEq] at before
    obtain ⟨rfl, rfl⟩ := before
    exact .inr ⟨new, after, carries reads step became⟩

end ChangedMembers

/-- A tree of which a member is changed is an object, and so is the changed tree. -/
theorem Json.under?_eq_some {name : String} {change : Json → Option Json} {tree changed : Json}
    (success : tree.under? name change = some changed) :
    ∃ members others, tree = .object members ∧ changed = .object others ∧
      changeMember? name change members = some others := by
  cases tree with
  | object members =>
      obtain ⟨others, found, rfl⟩ := Option.map_eq_some_iff.mp success
      exact ⟨members, others, rfl, rfl, found⟩
  | null | bool | number | text | list => cases success

section Carrying

variable {change : Json → Option Json} {result : TypeReference → Option TypeReference}

theorem Layout.Carries.item {α : Type} {item : Layout α} {result : α → Option α}
    (carries : item.Carries change result) (place : Nat) :
    (Layout.list item).Carries (Json.item? place change) (changeItem? result place) := by
  intro tree changed values next reads success became
  cases tree with
  | null | bool | number | text | object => cases success
  | list trees =>
      obtain ⟨others, found, rfl⟩ := Option.map_eq_some_iff.mp success
      have each := Layout.reads_list_iff.mp reads
      refine Layout.reads_list_iff.mpr ?_
      clear reads success
      induction each generalizing place others next with
      | nil => cases place <;> cases found
      | @cons tree value trees values head rest ih =>
          cases place with
          | zero =>
              obtain ⟨new, step, rfl⟩ := Option.map_eq_some_iff.mp found
              obtain ⟨outcome, meaning, rfl⟩ := Option.map_eq_some_iff.mp became
              exact .cons (carries head step meaning) rest
          | succ place =>
              obtain ⟨news, step, rfl⟩ := Option.map_eq_some_iff.mp found
              obtain ⟨outcomes, meaning, rfl⟩ := Option.map_eq_some_iff.mp became
              exact .cons head (ih place meaning news step)

theorem ContainerType.carries_inner (carries : TypeReference.layout.Carries change result)
    (step : TypeStep) :
    ContainerType.layout.Carries (Json.under? step.member change) (innerType? result step) := by
  intro tree changed value next reads success became
  obtain ⟨members, others, rfl, rfl, found⟩ := Json.under?_eq_some success
  unfold innerType? at became
  split at became
  · obtain ⟨inner, step, rfl⟩ := Option.map_eq_some_iff.mp became
    obtain ⟨tag, given⟩ := reads_list_iff.mp reads
    exact reads_list_iff.mpr ⟨tag.untouched found (by decide),
      given.changed found fun _ _ read new => carries read new step⟩
  · obtain ⟨inner, step, rfl⟩ := Option.map_eq_some_iff.mp became
    obtain ⟨tag, given⟩ := reads_set_iff.mp reads
    exact reads_set_iff.mpr ⟨tag.untouched found (by decide),
      given.changed found fun _ _ read new => carries read new step⟩
  · obtain ⟨inner, step, rfl⟩ := Option.map_eq_some_iff.mp became
    obtain ⟨tag, key, value⟩ := reads_map_iff.mp reads
    exact reads_map_iff.mpr ⟨tag.untouched found (by decide),
      key.changed found fun _ _ read new => carries read new step,
      value.untouched found (by decide)⟩
  · obtain ⟨inner, step, rfl⟩ := Option.map_eq_some_iff.mp became
    obtain ⟨tag, key, value⟩ := reads_map_iff.mp reads
    exact reads_map_iff.mpr ⟨tag.untouched found (by decide), key.untouched found (by decide),
      value.changed found fun _ _ read new => carries read new step⟩
  · obtain ⟨inner, step, rfl⟩ := Option.map_eq_some_iff.mp became
    obtain ⟨tag, given⟩ := reads_optional_iff.mp reads
    exact reads_optional_iff.mpr ⟨tag.untouched found (by decide),
      given.changed found fun _ _ read new => carries read new step⟩
  · cases became

/-- A tree that is put in the place of a type, however deep, carries over as its meaning. -/
theorem TypeReference.carries_putType {new : Json} {meaning : TypeReference}
    (means : TypeReference.layout.Reads new meaning) (path : List TypeStep) :
    TypeReference.layout.Carries (Json.putType? new path) (putType? meaning path) := by
  induction path with
  | nil =>
      intro tree changed value next reads success became
      cases success
      cases became
      exact means
  | cons step path ih =>
      intro tree changed value next reads success became
      obtain ⟨members, others, rfl, rfl, found⟩ := Json.under?_eq_some success
      cases value with
      | primitive | named | unknown | void | unrecognized => cases became
      | container inner =>
          obtain ⟨outcome, within, rfl⟩ := Option.map_eq_some_iff.mp became
          obtain ⟨tag, given⟩ := reads_container_iff.mp reads
          exact reads_container_iff.mpr ⟨tag.untouched found (by decide),
            given.changed found fun _ _ read new =>
              ContainerType.carries_inner ih step read new within⟩

theorem Property.carries_type (carries : TypeReference.layout.Carries change result) :
    Property.layout.Carries (Json.under? "valueType" change) (type? result) := by
  intro tree changed property next reads success became
  obtain ⟨members, others, rfl, rfl, found⟩ := Json.under?_eq_some success
  obtain ⟨type, meaning, rfl⟩ := Option.map_eq_some_iff.mp became
  obtain ⟨⟨key, old, docs, ⟨⟩⟩, ⟨keyGiven, typeGiven, docsGiven, -⟩, rfl⟩ :=
    (Layout.reads_record_iff (by decide)).mp reads
  exact (Layout.reads_record_iff (by decide)).mpr ⟨(key, type, docs, ()),
    ⟨keyGiven.untouched found (by decide), typeGiven.changed found carries meaning,
      docsGiven.untouched found (by decide), trivial⟩, rfl⟩

theorem UnionVariant.carries_type (carries : TypeReference.layout.Carries change result) :
    UnionVariant.layout.Carries (Json.under? "valueType" change) (type? result) := by
  intro tree changed variant next reads success became
  obtain ⟨members, others, rfl, rfl, found⟩ := Json.under?_eq_some success
  obtain ⟨type, meaning, rfl⟩ := Option.map_eq_some_iff.mp became
  obtain ⟨⟨tag, old, docs, ⟨⟩⟩, ⟨tagGiven, typeGiven, docsGiven, -⟩, rfl⟩ :=
    (Layout.reads_record_iff (by decide)).mp reads
  exact (Layout.reads_record_iff (by decide)).mpr ⟨(tag, type, docs, ()),
    ⟨tagGiven.untouched found (by decide), typeGiven.changed found carries meaning,
      docsGiven.untouched found (by decide), trivial⟩, rfl⟩

theorem TypeShape.carries_slot (carries : TypeReference.layout.Carries change result)
    (slot : TypeSlot) :
    TypeShape.layout.Carries (Json.slotType? change slot) (slotType? result slot) := by
  intro tree changed shape next reads success became
  unfold slotType? at became
  split at became
  · next target =>
    obtain ⟨members, others, rfl, rfl, found⟩ := Json.under?_eq_some success
    obtain ⟨meaning, step, rfl⟩ := Option.map_eq_some_iff.mp became
    obtain ⟨tag, given, -⟩ := reads_aliasOf_iff.mp reads
    exact reads_aliasOf_iff.mpr ⟨tag.untouched found (by decide),
      given.changed found carries step, trivial⟩
  · next place parents properties =>
    obtain ⟨members, others, rfl, rfl, found⟩ := Json.under?_eq_some success
    obtain ⟨meaning, step, rfl⟩ := Option.map_eq_some_iff.mp became
    obtain ⟨tag, parentsGiven, given, -⟩ := reads_object_iff.mp reads
    have item := (Property.carries_type carries).item place
    exact reads_object_iff.mpr ⟨tag.untouched found (by decide),
      parentsGiven.untouched found (by decide), given.changed found item step, trivial⟩
  · next place discriminant variants =>
    obtain ⟨members, others, rfl, rfl, found⟩ := Json.under?_eq_some success
    obtain ⟨meaning, step, rfl⟩ := Option.map_eq_some_iff.mp became
    obtain ⟨tag, discriminantGiven, given, -⟩ := reads_union_iff.mp reads
    have item := (UnionVariant.carries_type carries).item place
    exact reads_union_iff.mpr ⟨tag.untouched found (by decide),
      discriminantGiven.untouched found (by decide), given.changed found item step, trivial⟩
  · cases became

end Carrying

/-- A declaration in which the tree of one type is replaced is read as the declaration in which
    that type is replaced by the meaning of the new tree. -/
theorem Declaration.carries_replaceType {new : Json} {meaning : TypeReference}
    (means : TypeReference.layout.Reads new meaning) (position : TypePosition) :
    Declaration.layout.Carries (Json.replaceType? new position)
      (replaceType? meaning position) := by
  intro tree changed declaration next reads success became
  obtain ⟨members, others, rfl, rfl, found⟩ := Json.under?_eq_some success
  obtain ⟨shape, step, rfl⟩ := Option.map_eq_some_iff.mp became
  obtain ⟨⟨name, docs, old, ⟨⟩⟩, ⟨nameGiven, docsGiven, shapeGiven, -⟩, rfl⟩ :=
    (Layout.reads_record_iff (by decide)).mp reads
  have carries := TypeShape.carries_slot
    (TypeReference.carries_putType means position.path) position.slot
  exact (Layout.reads_record_iff (by decide)).mpr ⟨(name, docs, shape, ()),
    ⟨nameGiven.untouched found (by decide), docsGiven.untouched found (by decide),
      shapeGiven.changed found carries step, trivial⟩, rfl⟩

/-! ## Places in written declarations -/

theorem Json.under?_object (name : String) (change : Json → Option Json)
    (members : List (String × Json)) :
    (object members).under? name change = (changeMember? name change members).map object := rfl

/-- What can be changed as an item of a list, can be changed in the written list. -/
theorem exists_changeItem?_map {α : Type} {write : α → Json} {result : α → Option α}
    {change : Json → Option Json}
    (written : ∀ {value next}, result value = some next →
      ∃ changed, change (write value) = some changed)
    {place : Nat} {values next : List α} (became : changeItem? result place values = some next) :
    ∃ changed, changeItem? change place (values.map write) = some changed := by
  induction values generalizing place next with
  | nil => cases place <;> cases became
  | cons value values ih =>
      cases place with
      | zero =>
          obtain ⟨outcome, step, -⟩ := Option.map_eq_some_iff.mp became
          obtain ⟨changed, found⟩ := written step
          exact ⟨changed :: values.map write, by simp [changeItem?, found]⟩
      | succ place =>
          obtain ⟨outcomes, step, -⟩ := Option.map_eq_some_iff.mp became
          obtain ⟨changed, found⟩ := ih step
          exact ⟨write value :: changed, by simp [changeItem?, found]⟩

section Written

variable {result : TypeReference → Option TypeReference} {change : Json → Option Json}
  (written : ∀ {value next}, result value = some next →
    ∃ changed, change value.toJson = some changed)

include written

theorem ContainerType.exists_innerType?_toJson {step : TypeStep} {container next : ContainerType}
    (became : container.innerType? result step = some next) :
    ∃ changed, container.toJson.under? step.member change = some changed := by
  unfold innerType? at became
  split at became
  case h_6 => cases became
  all_goals
    obtain ⟨inner, step, -⟩ := Option.map_eq_some_iff.mp became
    obtain ⟨changed, found⟩ := written step
    simp [toJson, taggedObject, TypeStep.member, Json.under?_object, changeMember?, found]

theorem Property.exists_type?_toJson {property next : Property}
    (became : property.type? result = some next) :
    ∃ changed, property.toJson.under? "valueType" change = some changed := by
  obtain ⟨type, step, -⟩ := Option.map_eq_some_iff.mp became
  obtain ⟨changed, found⟩ := written step
  simp [toJson, Json.under?_object, changeMember?, found]

theorem UnionVariant.exists_type?_toJson {variant next : UnionVariant}
    (became : variant.type? result = some next) :
    ∃ changed, variant.toJson.under? "valueType" change = some changed := by
  obtain ⟨type, step, -⟩ := Option.map_eq_some_iff.mp became
  obtain ⟨changed, found⟩ := written step
  simp [toJson, Json.under?_object, changeMember?, found]

theorem TypeShape.exists_slotType?_toJson {slot : TypeSlot} {shape next : TypeShape}
    (became : shape.slotType? result slot = some next) :
    ∃ changed, Json.slotType? change slot shape.toJson = some changed := by
  unfold slotType? at became
  split at became
  · obtain ⟨target, step, -⟩ := Option.map_eq_some_iff.mp became
    obtain ⟨changed, found⟩ := written step
    simp [toJson, taggedObject, Json.slotType?, Json.under?_object, changeMember?, found]
  · obtain ⟨properties, step, -⟩ := Option.map_eq_some_iff.mp became
    obtain ⟨changed, found⟩ := exists_changeItem?_map (Property.exists_type?_toJson written) step
    simp [toJson, taggedObject, Json.slotType?, Json.under?_object, changeMember?, Json.item?,
      found]
  · obtain ⟨variants, step, -⟩ := Option.map_eq_some_iff.mp became
    obtain ⟨changed, found⟩ :=
      exists_changeItem?_map (UnionVariant.exists_type?_toJson written) step
    simp [toJson, taggedObject, Json.slotType?, Json.under?_object, changeMember?, Json.item?,
      found]
  · cases became

end Written

theorem TypeReference.exists_putType?_toJson (new : Json) {meaning : TypeReference}
    {path : List TypeStep} {reference next : TypeReference}
    (became : putType? meaning path reference = some next) :
    ∃ changed, Json.putType? new path reference.toJson = some changed := by
  induction path generalizing reference next with
  | nil => exact ⟨new, rfl⟩
  | cons step path ih =>
      cases reference with
      | primitive | named | unknown | void | unrecognized => cases became
      | container inner =>
          obtain ⟨outcome, within, -⟩ := Option.map_eq_some_iff.mp became
          obtain ⟨changed, found⟩ := ContainerType.exists_innerType?_toJson ih within
          simp [toJson, taggedObject, Json.putType?, Json.under?_object, changeMember?, found]

/-- Every place of a type in a declaration is a place in the written declaration, where any tree
    may be put. -/
theorem Declaration.exists_replaceType?_toJson (new : Json) {meaning : TypeReference}
    {position : TypePosition} {declaration replaced : Declaration}
    (became : declaration.replaceType? meaning position = some replaced) :
    ∃ changed, Json.replaceType? new position declaration.toJson = some changed := by
  obtain ⟨name, docs, shape⟩ := declaration
  obtain ⟨outcome, step, -⟩ := Option.map_eq_some_iff.mp became
  obtain ⟨changed, found⟩ :=
    TypeShape.exists_slotType?_toJson (TypeReference.exists_putType?_toJson new) step
  cases docs <;>
    simp [toJson, docsMember, Json.replaceType?, Json.under?_object, changeMember?, found]

/-! ## Whatever stands there -/

/-- Every tree has a meaning as a reference, as a container, as a shape and as an authentication
    scheme. It can be put in the place of any type of a declaration object, and there it changes
    the declaration in that place alone, to its own meaning. -/
theorem Declaration.mismatch_stays_local (new : Json) :
    (∃ container, ContainerType.layout.Reads new container) ∧
      (∃ shape, TypeShape.layout.Reads new shape) ∧
      (∃ scheme, AuthScheme.layout.Reads new scheme) ∧
      ∃ meaning, TypeReference.layout.Reads new meaning ∧
        ∀ {position : TypePosition} {declaration replaced : Declaration},
          declaration.replaceType? meaning position = some replaced →
            (∃ changed, Json.replaceType? new position declaration.toJson = some changed) ∧
            ∀ {tree changed : Json}, Declaration.layout.Reads tree declaration →
              Json.replaceType? new position tree = some changed →
              Declaration.layout.Reads changed replaced := by
  obtain ⟨meaning, means⟩ := TypeReference.exists_reads new
  refine ⟨ContainerType.exists_reads new, TypeShape.exists_reads new, AuthScheme.exists_reads new,
    meaning, means, ?_⟩
  intro position declaration replaced became
  refine ⟨Declaration.exists_replaceType?_toJson new became, ?_⟩
  intro tree changed reads put
  exact Declaration.carries_replaceType means position reads put became

/-- An order whose lines are of some type, written with its members in another order. -/
def orderTree (lineType : Json) : Json :=
  .object
    [("shape", .object
        [("properties", .list
            [.object
              [("key", .text "lines"),
                ("valueType", .object
                  [("container", .object [("_type", .text "list"), ("list", lineType)]),
                    ("_type", .text "container")])],
              .object [("valueType", .object [("_type", .text "void")]), ("key", .text "note")]]),
          ("_type", .text "object")]),
      ("name", .object [("name", .text "Order")])]

def orderDeclaration (lineType : TypeReference) : Declaration :=
  ⟨⟨[], "Order"⟩, none, .object [] [⟨"lines", .list lineType, none⟩, ⟨"note", .void, none⟩]⟩

/-- Where a type was, the order gets a kind of type that nobody knows, with a repeated member. -/
theorem orderDeclaration_with_mismatch :
    Declaration.layout.Reads
      (orderTree (.object [("size", .null), ("_type", .text "tuple"), ("size", .bool true)]))
      (orderDeclaration
        (.unrecognized (.object [("_type", .text "tuple"), ("size", .bool true)]))) := by
  obtain ⟨-, -, -, meaning, means, stays⟩ := Declaration.mismatch_stays_local
    (.object [("size", .null), ("_type", .text "tuple"), ("size", .bool true)])
  have known : meaning = .unrecognized (.object [("_type", .text "tuple"), ("size", .bool true)]) :=
    means.unique (Layout.reads_iff.mpr rfl)
  have reads : Declaration.layout.Reads (orderTree (.object [("_type", .text "unknown")]))
      (orderDeclaration .unknown) := Layout.reads_iff.mpr rfl
  subst known
  have became : (orderDeclaration .unknown).replaceType?
      (.unrecognized (.object [("_type", .text "tuple"), ("size", .bool true)]))
      ⟨.property 0, [.list]⟩ = some (orderDeclaration _) := rfl
  exact (stays became).2 reads rfl

end ApiComponents
