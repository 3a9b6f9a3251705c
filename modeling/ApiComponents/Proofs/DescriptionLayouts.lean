import ApiComponents.Proofs.KeptValues
import ApiComponents.Proofs.TaggedObjects

/-! # The ways to lay out a description

One description may be written as many trees: members may stand in any order and beside members
that nobody asks for, and what says no more than its absence may be written or left out. All these
trees are read as the one description, if what the description keeps whole is what a loader would
keep whole in its place.
-/

namespace ApiComponents

open Members

/-- Whatever the description keeps would be kept again, as it is, where it stands. -/
def ApiDescription.Canonical (description : ApiDescription) : Prop :=
  description.Meets .keptAgain

/-! ## Trees for descriptions -/

/-- An object whose members are as they should be. -/
def Json.ObjectWith (holds : List (String × Json) → Prop) : Json → Prop
  | .object members => holds members
  | _ => False

/-- An array with a tree for each item. -/
def Json.ListWith {α : Type} (fits : α → Json → Prop) (items : List α) : Json → Prop
  | .list trees => List.Forall₂ fits items trees
  | _ => False

/-- The one tag member is a word. -/
def Marked (tag : String) (members : List (String × Json)) : Prop :=
  valuesOf Content.tagKey members = [.text tag]

/-- A member that may be left out when its value says no more than its absence. -/
def GivenUnless (omissible : Prop) (name : String) (members : List (String × Json))
    (fits : Json → Prop) : Prop :=
  (omissible ∧ valuesOf name members = []) ∨ Given name members fits

/-- Missing documentation is left out or null. -/
def DocsGiven : Option String → List (String × Json) → Prop
  | none, members => GivenUnless True "docs" members (· = .null)
  | some docs, members => Given "docs" members (· = .text docs)

/-- The members give the path, unless it is empty, and the leaf. -/
def DeclaredName.GivenBy (name : DeclaredName) (members : List (String × Json)) : Prop :=
  GivenUnless (name.path = []) "fernFilepath" members (· = .list (name.path.map .text)) ∧
    Given "name" members (· = .text name.leaf)

def DeclaredName.LaidOut (name : DeclaredName) : Json → Prop :=
  Json.ObjectWith name.GivenBy

mutual
/-- The tree is one of the layouts of the type. What is kept whole may have its members in another
    order. -/
def TypeReference.LaidOut : TypeReference → Json → Prop
  | .primitive primitive => Json.ObjectWith fun members =>
      Marked "primitive" members ∧ Given "primitive" members (· = .text primitive.word)
  | .container container => Json.ObjectWith fun members =>
      Marked "container" members ∧ Given "container" members container.LaidOut
  | .named name => Json.ObjectWith fun members => Marked "named" members ∧ name.GivenBy members
  | .unknown => Json.ObjectWith (Marked "unknown")
  | .void => Json.ObjectWith (Marked "void")
  | .unrecognized value => value.Reordered

def ContainerType.LaidOut : ContainerType → Json → Prop
  | .list element => Json.ObjectWith fun members =>
      Marked "list" members ∧ Given "list" members element.LaidOut
  | .set element => Json.ObjectWith fun members =>
      Marked "set" members ∧ Given "set" members element.LaidOut
  | .map key value => Json.ObjectWith fun members =>
      Marked "map" members ∧ Given "keyType" members key.LaidOut ∧
        Given "valueType" members value.LaidOut
  | .optional inner => Json.ObjectWith fun members =>
      Marked "optional" members ∧ Given "optional" members inner.LaidOut
  | .unrecognized value => value.Reordered
end

def EnumValue.LaidOut (value : EnumValue) : Json → Prop :=
  Json.ObjectWith fun members =>
    Given "value" members (· = .text value.value) ∧ DocsGiven value.docs members

def Property.LaidOut (property : Property) : Json → Prop :=
  Json.ObjectWith fun members =>
    Given "key" members (· = .text property.key) ∧
      Given "valueType" members property.type.LaidOut ∧ DocsGiven property.docs members

def UnionVariant.LaidOut (variant : UnionVariant) : Json → Prop :=
  Json.ObjectWith fun members =>
    Given "discriminantValue" members (· = .text variant.tag) ∧
      Given "valueType" members variant.type.LaidOut ∧ DocsGiven variant.docs members

def TypeShape.LaidOut : TypeShape → Json → Prop
  | .aliasOf target => Json.ObjectWith fun members =>
      Marked "alias" members ∧ Given "aliasOf" members target.LaidOut
  | .enumeration values => Json.ObjectWith fun members =>
      Marked "enum" members ∧
        GivenUnless (values = []) "values" members (Json.ListWith EnumValue.LaidOut values)
  | .object parents properties => Json.ObjectWith fun members =>
      Marked "object" members ∧
        GivenUnless (parents = []) "extends" members (Json.ListWith DeclaredName.LaidOut parents) ∧
        GivenUnless (properties = []) "properties" members
          (Json.ListWith Property.LaidOut properties)
  | .union discriminant variants => Json.ObjectWith fun members =>
      Marked "union" members ∧ Given "discriminant" members (· = .text discriminant) ∧
        GivenUnless (variants = []) "types" members (Json.ListWith UnionVariant.LaidOut variants)
  | .unrecognized value => value.Reordered

def Declaration.LaidOut (declaration : Declaration) : Json → Prop :=
  Json.ObjectWith fun members =>
    Given "name" members declaration.name.LaidOut ∧ DocsGiven declaration.docs members ∧
      Given "shape" members declaration.shape.LaidOut

def AuthScheme.LaidOut : AuthScheme → Json → Prop
  | .bearer => Json.ObjectWith (Marked "bearer")
  | .basic => Json.ObjectWith (Marked "basic")
  | .header wire name => Json.ObjectWith fun members =>
      Marked "header" members ∧ Given "header" members (· = .text wire) ∧
        Given "name" members (· = .text name)
  | .unrecognized value => value.Reordered

def Auth.LaidOut (auth : Auth) : Json → Prop :=
  Json.ObjectWith fun members =>
    GivenUnless (auth.requirement = .all) "requirement" members
        (· = .text auth.requirement.word) ∧
      GivenUnless (auth.schemes = []) "schemes" members
        (Json.ListWith AuthScheme.LaidOut auth.schemes)

/-- The tree is one of the layouts of the description. -/
def ApiDescription.LaidOut (description : ApiDescription) : Json → Prop :=
  Json.ObjectWith fun members =>
    GivenUnless (description.types = []) "types" members
        (Json.ListWith Declaration.LaidOut description.types) ∧
      GivenUnless (description.auth = .none) "auth" members description.auth.LaidOut

/-! ## Laid out and read -/

theorem Json.ObjectWith.exists_members {holds : List (String × Json) → Prop} {tree : Json}
    (object : tree.ObjectWith holds) : ∃ members, tree = .object members ∧ holds members := by
  cases tree with
  | object members => exact ⟨members, rfl, object⟩
  | null | bool | number | text | list => exact False.elim object

theorem Marked.tagged {tag : String} {members : List (String × Json)} (marked : Marked tag members)
    {variants : List String} {place : Nat} (known : Content.wordIndex? variants tag = some place) :
    Tagged variants place members :=
  ⟨.text tag, marked, known⟩

section FieldsGiven

variable {α : Type} {value : Layout α} {absence : Absence α} {result : α} {name : String}
  {members : List (String × Json)} {fits : Json → Prop}

theorem Given.fieldReads (given : Given name members fits)
    (reads : ∀ tree, fits tree → value.Reads tree result) :
    value.FieldReads absence (valuesOf name members) result := by
  obtain ⟨tree, only, fit⟩ := given
  exact .inr ⟨tree, only, reads tree fit⟩

theorem GivenUnless.fieldReads {omissible : Prop} (given : GivenUnless omissible name members fits)
    (default : omissible → absence.value? true = some result)
    (reads : ∀ tree, fits tree → value.Reads tree result) :
    value.FieldReads absence (valuesOf name members) result := by
  rcases given with ⟨omitted, missing⟩ | given
  · exact .inl ⟨missing, default omitted⟩
  · exact given.fieldReads reads

theorem DocsGiven.fieldReads {docs : Option String} (given : DocsGiven docs members) :
    docsLayout.FieldReads (.always none) (valuesOf "docs" members) docs := by
  cases docs with
  | none =>
      refine GivenUnless.fieldReads given (fun _ => rfl) fun tree null => ?_
      rw [null]
      exact Layout.reads_optional_null _
  | some docs =>
      refine Given.fieldReads given fun tree text => ?_
      rw [text]
      exact Layout.reads_optional_of_reads (by simp) (Layout.reads_text_iff.mpr rfl)

theorem text_reads {text : String} (tree : Json) (same : tree = .text text) :
    Layout.text.Reads tree text :=
  Layout.reads_text_iff.mpr same

theorem Json.ListWith.reads {item : Layout α} {fits : α → Json → Prop} {items : List α}
    {tree : Json} (list : tree.ListWith fits items)
    (reads : ∀ value ∈ items, ∀ tree, fits value tree → item.Reads tree value) :
    (Layout.list item).Reads tree items := by
  cases tree with
  | null | bool | number | text | object => exact False.elim list
  | list trees =>
      refine Layout.reads_list_iff.mpr ?_
      have each : List.Forall₂ fits items trees := list
      clear list
      induction each with
      | nil => exact .nil
      | @cons value tree items trees head _ ih =>
          exact .cons (reads value List.mem_cons_self tree head)
            (ih fun value inside => reads value (List.mem_cons_of_mem _ inside))

end FieldsGiven

theorem DeclaredName.GivenBy.fields {name : DeclaredName} {members : List (String × Json)}
    (given : name.GivenBy members) :
    DeclaredName.fields.GivenBy members (name.path, name.leaf, ()) := by
  obtain ⟨path, leaf⟩ := given
  refine ⟨path.fieldReads (fun empty => congrArg some empty.symm) fun tree same => ?_,
    leaf.fieldReads text_reads, trivial⟩
  rw [same]
  exact Layout.reads_texts name.path

theorem DeclaredName.reads_of_laidOut {name : DeclaredName} {tree : Json}
    (laidOut : name.LaidOut tree) : DeclaredName.layout.Reads tree name := by
  obtain ⟨members, rfl, given⟩ := laidOut.exists_members
  exact (Layout.reads_record_iff (by decide)).mpr ⟨_, given.fields, rfl⟩

/-- A scalar type is read from its word. -/
theorem Primitive.reads_word {primitive : Primitive} (canonical : primitive.Meets .keptAgain) :
    Primitive.layout.Reads (.text primitive.word) primitive := by
  refine Layout.reads_whole_iff.mpr ?_
  cases primitive with
  | unrecognized name =>
      have unknown : spelledValue? words (.text name) = none :=
        spelledValue?_text_eq_none_iff.mpr canonical
      simp only [Content.ofJson, word, ofContent?, unknown]
  | _ => rfl

theorem AuthRequirement.reads_word {requirement : AuthRequirement}
    (canonical : requirement.Meets .keptAgain) :
    AuthRequirement.layout.Reads (.text requirement.word) requirement := by
  refine Layout.reads_whole_iff.mpr ?_
  cases requirement with
  | unrecognized name =>
      have unknown : spelledValue? words (.text name) = none :=
        spelledValue?_text_eq_none_iff.mpr canonical
      simp only [Content.ofJson, word, ofContent?, unknown]
  | _ => rfl

mutual
/-- Every layout of a canonical type is read as the type. -/
theorem TypeReference.reads_of_laidOut (reference : TypeReference)
    (canonical : reference.Meets .keptAgain) {tree : Json} (laidOut : reference.LaidOut tree) :
    TypeReference.layout.Reads tree reference := by
  cases reference with
  | primitive primitive =>
      obtain ⟨members, rfl, marked, tree, only, rfl⟩ := laidOut.exists_members
      exact TypeReference.reads_primitive_iff.mpr
        ⟨marked.tagged rfl, _, only, Primitive.reads_word canonical⟩
  | container container =>
      obtain ⟨members, rfl, marked, tree, only, inner⟩ := laidOut.exists_members
      exact TypeReference.reads_container_iff.mpr
        ⟨marked.tagged rfl, tree, only, container.reads_of_laidOut canonical inner⟩
  | named name =>
      obtain ⟨members, rfl, marked, given⟩ := laidOut.exists_members
      exact TypeReference.reads_named_iff.mpr ⟨marked.tagged rfl, given.fields⟩
  | unknown =>
      obtain ⟨members, rfl, marked⟩ := laidOut.exists_members
      exact TypeReference.reads_unknown (marked.tagged rfl)
  | void =>
      obtain ⟨members, rfl, marked⟩ := laidOut.exists_members
      exact TypeReference.reads_void (marked.tagged rfl)
  | unrecognized value => exact TypeReference.keeps.reordered canonical laidOut

theorem ContainerType.reads_of_laidOut (container : ContainerType)
    (canonical : container.Meets .keptAgain) {tree : Json} (laidOut : container.LaidOut tree) :
    ContainerType.layout.Reads tree container := by
  cases container with
  | list element =>
      obtain ⟨members, rfl, marked, tree, only, inner⟩ := laidOut.exists_members
      exact ContainerType.reads_list_iff.mpr
        ⟨marked.tagged rfl, tree, only, element.reads_of_laidOut canonical inner⟩
  | set element =>
      obtain ⟨members, rfl, marked, tree, only, inner⟩ := laidOut.exists_members
      exact ContainerType.reads_set_iff.mpr
        ⟨marked.tagged rfl, tree, only, element.reads_of_laidOut canonical inner⟩
  | map key value =>
      obtain ⟨members, rfl, marked, ⟨keyTree, keyOnly, keyInner⟩, valueTree, valueOnly,
        valueInner⟩ := laidOut.exists_members
      exact ContainerType.reads_map_iff.mpr ⟨marked.tagged rfl,
        ⟨keyTree, keyOnly, key.reads_of_laidOut canonical.1 keyInner⟩,
        ⟨valueTree, valueOnly, value.reads_of_laidOut canonical.2 valueInner⟩⟩
  | optional inner =>
      obtain ⟨members, rfl, marked, tree, only, within⟩ := laidOut.exists_members
      exact ContainerType.reads_optional_iff.mpr
        ⟨marked.tagged rfl, tree, only, inner.reads_of_laidOut canonical within⟩
  | unrecognized value => exact ContainerType.keeps.reordered canonical laidOut
end

theorem EnumValue.reads_of_laidOut {value : EnumValue} {tree : Json}
    (laidOut : value.LaidOut tree) : EnumValue.layout.Reads tree value := by
  obtain ⟨members, rfl, word, docs⟩ := laidOut.exists_members
  exact (Layout.reads_record_iff (by decide)).mpr
    ⟨(value.value, value.docs, ()), ⟨word.fieldReads text_reads, docs.fieldReads, trivial⟩, rfl⟩

theorem Property.reads_of_laidOut {property : Property} (canonical : property.type.Meets .keptAgain)
    {tree : Json} (laidOut : property.LaidOut tree) : Property.layout.Reads tree property := by
  obtain ⟨members, rfl, key, type, docs⟩ := laidOut.exists_members
  exact (Layout.reads_record_iff (by decide)).mpr
    ⟨(property.key, property.type, property.docs, ()),
      ⟨key.fieldReads text_reads,
        type.fieldReads fun _ => property.type.reads_of_laidOut canonical,
        docs.fieldReads, trivial⟩, rfl⟩

theorem UnionVariant.reads_of_laidOut {variant : UnionVariant}
    (canonical : variant.type.Meets .keptAgain) {tree : Json} (laidOut : variant.LaidOut tree) :
    UnionVariant.layout.Reads tree variant := by
  obtain ⟨members, rfl, tag, type, docs⟩ := laidOut.exists_members
  exact (Layout.reads_record_iff (by decide)).mpr
    ⟨(variant.tag, variant.type, variant.docs, ()),
      ⟨tag.fieldReads text_reads,
        type.fieldReads fun _ => variant.type.reads_of_laidOut canonical,
        docs.fieldReads, trivial⟩, rfl⟩

theorem TypeShape.reads_of_laidOut {shape : TypeShape} (canonical : shape.Meets .keptAgain)
    {tree : Json} (laidOut : shape.LaidOut tree) : TypeShape.layout.Reads tree shape := by
  cases shape with
  | aliasOf target =>
      obtain ⟨members, rfl, marked, given⟩ := laidOut.exists_members
      exact reads_aliasOf_iff.mpr ⟨marked.tagged rfl,
        given.fieldReads fun _ => target.reads_of_laidOut canonical, trivial⟩
  | enumeration values =>
      obtain ⟨members, rfl, marked, given⟩ := laidOut.exists_members
      exact reads_enumeration_iff.mpr ⟨marked.tagged rfl,
        given.fieldReads (fun none => congrArg some none.symm) fun _ list =>
          list.reads fun _ _ _ => EnumValue.reads_of_laidOut, trivial⟩
  | object parents properties =>
      obtain ⟨members, rfl, marked, parentsGiven, given⟩ := laidOut.exists_members
      exact reads_object_iff.mpr ⟨marked.tagged rfl,
        parentsGiven.fieldReads (fun none => congrArg some none.symm) fun _ list =>
          list.reads fun _ _ _ => DeclaredName.reads_of_laidOut,
        given.fieldReads (fun none => congrArg some none.symm) fun _ list =>
          list.reads fun property inside _ => Property.reads_of_laidOut (canonical property inside),
        trivial⟩
  | union discriminant variants =>
      obtain ⟨members, rfl, marked, tag, given⟩ := laidOut.exists_members
      exact reads_union_iff.mpr ⟨marked.tagged rfl, tag.fieldReads text_reads,
        given.fieldReads (fun none => congrArg some none.symm) fun _ list =>
          list.reads fun variant inside _ =>
            UnionVariant.reads_of_laidOut (canonical variant inside), trivial⟩
  | unrecognized value => exact keeps.reordered canonical laidOut

theorem Declaration.reads_of_laidOut {declaration : Declaration}
    (canonical : declaration.shape.Meets .keptAgain) {tree : Json}
    (laidOut : declaration.LaidOut tree) : Declaration.layout.Reads tree declaration := by
  obtain ⟨members, rfl, name, docs, shape⟩ := laidOut.exists_members
  exact (Layout.reads_record_iff (by decide)).mpr
    ⟨(declaration.name, declaration.docs, declaration.shape, ()),
      ⟨name.fieldReads fun _ => DeclaredName.reads_of_laidOut, docs.fieldReads,
        shape.fieldReads fun _ => TypeShape.reads_of_laidOut canonical, trivial⟩, rfl⟩

theorem AuthScheme.reads_of_laidOut {scheme : AuthScheme} (canonical : scheme.Meets .keptAgain)
    {tree : Json} (laidOut : scheme.LaidOut tree) : AuthScheme.layout.Reads tree scheme := by
  cases scheme with
  | bearer =>
      obtain ⟨members, rfl, marked⟩ := laidOut.exists_members
      exact reads_bearer (marked.tagged rfl)
  | basic =>
      obtain ⟨members, rfl, marked⟩ := laidOut.exists_members
      exact reads_basic (marked.tagged rfl)
  | header wire name =>
      obtain ⟨members, rfl, marked, wireGiven, nameGiven⟩ := laidOut.exists_members
      exact reads_header (marked.tagged rfl)
        ⟨wireGiven.fieldReads text_reads, nameGiven.fieldReads text_reads, trivial⟩
  | unrecognized value => exact keeps.reordered canonical laidOut

theorem Auth.reads_of_laidOut {auth : Auth} (canonical : auth.Meets .keptAgain) {tree : Json}
    (laidOut : auth.LaidOut tree) : Auth.layout.Reads tree auth := by
  obtain ⟨members, rfl, requirement, schemes⟩ := laidOut.exists_members
  refine (Layout.reads_record_iff (by decide)).mpr
    ⟨(auth.requirement, auth.schemes, ()), ⟨?_, ?_, trivial⟩, rfl⟩
  · refine requirement.fieldReads (fun all => congrArg some all.symm) fun tree word => ?_
    rw [word]
    exact AuthRequirement.reads_word canonical.1
  · exact schemes.fieldReads (fun none => congrArg some none.symm) fun _ list =>
      list.reads fun scheme inside _ => AuthScheme.reads_of_laidOut (canonical.2 scheme inside)

/-- Every layout of a canonical description is read as the description. -/
theorem ApiDescription.reads_of_laidOut {description : ApiDescription}
    (canonical : description.Canonical) {tree : Json} (laidOut : description.LaidOut tree) :
    ApiDescription.layout.Reads tree description := by
  obtain ⟨members, rfl, types, auth⟩ := laidOut.exists_members
  refine (Layout.reads_record_iff (by decide)).mpr
    ⟨(description.types, description.auth, ()), ⟨?_, ?_, trivial⟩, rfl⟩
  · exact types.fieldReads (fun none => congrArg some none.symm) fun _ list =>
      list.reads fun declaration inside _ =>
        Declaration.reads_of_laidOut (canonical.1 declaration inside)
  · exact auth.fieldReads (fun none => congrArg some none.symm) fun _ =>
      Auth.reads_of_laidOut canonical.2

/-! ## Written descriptions -/

theorem DocsGiven.of_docsMember {docs : Option String} {members : List (String × Json)}
    (written : valuesOf "docs" members = valuesOf "docs" (docsMember docs)) :
    DocsGiven docs members := by
  cases docs with
  | none => exact .inl ⟨trivial, written⟩
  | some docs => exact ⟨_, written, rfl⟩

theorem Json.listWith_map {α : Type} {fits : α → Json → Prop} {write : α → Json} {items : List α}
    (each : ∀ item ∈ items, fits item (write item)) :
    (Json.list (items.map write)).ListWith fits items :=
  List.forall₂_map_right_iff.mpr (List.forall₂_same.mpr each)

theorem DeclaredName.laidOut_toJson (name : DeclaredName) : name.LaidOut name.toJson :=
  ⟨.inr ⟨_, by simp [members], rfl⟩, ⟨_, by simp [members], rfl⟩⟩

theorem marked_alone (tag : String) : Marked tag [("_type", .text tag)] := rfl

mutual
theorem TypeReference.laidOut_toJson (reference : TypeReference) :
    reference.LaidOut reference.toJson := by
  cases reference with
  | primitive primitive => exact ⟨rfl, _, rfl, rfl⟩
  | container container => exact ⟨rfl, _, rfl, container.laidOut_toJson⟩
  | named name => exact ⟨rfl, .inr ⟨_, rfl, rfl⟩, _, rfl, rfl⟩
  | unknown => exact marked_alone _
  | void => exact marked_alone _
  | unrecognized value => exact .same value

theorem ContainerType.laidOut_toJson (container : ContainerType) :
    container.LaidOut container.toJson := by
  cases container with
  | list element => exact ⟨rfl, _, rfl, element.laidOut_toJson⟩
  | set element => exact ⟨rfl, _, rfl, element.laidOut_toJson⟩
  | map key value =>
      exact ⟨rfl, ⟨_, rfl, key.laidOut_toJson⟩, ⟨_, rfl, value.laidOut_toJson⟩⟩
  | optional inner => exact ⟨rfl, _, rfl, inner.laidOut_toJson⟩
  | unrecognized value => exact .same value
end

theorem EnumValue.laidOut_toJson (value : EnumValue) : value.LaidOut value.toJson := by
  obtain ⟨word, docs⟩ := value
  cases docs <;> exact ⟨⟨_, rfl, rfl⟩, .of_docsMember rfl⟩

theorem Property.laidOut_toJson (property : Property) : property.LaidOut property.toJson := by
  obtain ⟨key, type, docs⟩ := property
  cases docs <;>
    exact ⟨⟨_, rfl, rfl⟩, ⟨_, rfl, type.laidOut_toJson⟩, .of_docsMember rfl⟩

theorem UnionVariant.laidOut_toJson (variant : UnionVariant) : variant.LaidOut variant.toJson := by
  obtain ⟨tag, type, docs⟩ := variant
  cases docs <;>
    exact ⟨⟨_, rfl, rfl⟩, ⟨_, rfl, type.laidOut_toJson⟩, .of_docsMember rfl⟩

theorem TypeShape.laidOut_toJson (shape : TypeShape) : shape.LaidOut shape.toJson := by
  cases shape with
  | aliasOf target => exact ⟨rfl, _, rfl, target.laidOut_toJson⟩
  | enumeration values =>
      exact ⟨rfl, .inr ⟨_, rfl, Json.listWith_map fun value _ => value.laidOut_toJson⟩⟩
  | object parents properties =>
      exact ⟨rfl, .inr ⟨_, rfl, Json.listWith_map fun parent _ => parent.laidOut_toJson⟩,
        .inr ⟨_, rfl, Json.listWith_map fun property _ => property.laidOut_toJson⟩⟩
  | union discriminant variants =>
      exact ⟨rfl, ⟨_, rfl, rfl⟩,
        .inr ⟨_, rfl, Json.listWith_map fun variant _ => variant.laidOut_toJson⟩⟩
  | unrecognized value => exact .same value

theorem Declaration.laidOut_toJson (declaration : Declaration) :
    declaration.LaidOut declaration.toJson := by
  obtain ⟨name, docs, shape⟩ := declaration
  cases docs <;>
    exact ⟨⟨_, rfl, name.laidOut_toJson⟩, .of_docsMember rfl, ⟨_, rfl, shape.laidOut_toJson⟩⟩

theorem AuthScheme.laidOut_toJson (scheme : AuthScheme) : scheme.LaidOut scheme.toJson := by
  cases scheme with
  | bearer => exact marked_alone _
  | basic => exact marked_alone _
  | header wire name => exact ⟨rfl, ⟨_, rfl, rfl⟩, ⟨_, rfl, rfl⟩⟩
  | unrecognized value => exact .same value

theorem Auth.laidOut_toJson (auth : Auth) : auth.LaidOut auth.toJson :=
  ⟨.inr ⟨_, rfl, rfl⟩,
    .inr ⟨_, rfl, Json.listWith_map fun scheme _ => scheme.laidOut_toJson⟩⟩

/-- A written description is one of the layouts of the description. -/
theorem ApiDescription.laidOut_toJson (description : ApiDescription) :
    description.LaidOut description.toJson :=
  ⟨.inr ⟨_, rfl, Json.listWith_map fun declaration _ => declaration.laidOut_toJson⟩,
    .inr ⟨_, rfl, description.auth.laidOut_toJson⟩⟩

/-- A canonical description is read back from the tree that it is written as, and from every other
    tree that lays it out. -/
theorem ApiDescription.read_from_every_layout {description : ApiDescription}
    (canonical : description.Canonical) :
    ApiDescription.layout.Reads description.toJson description ∧
      ∀ tree, description.LaidOut tree → ApiDescription.layout.Reads tree description :=
  ⟨reads_of_laidOut canonical description.laidOut_toJson, fun _ => reads_of_laidOut canonical⟩

/-- An unknown scalar type, an unknown kind of type and an unknown scheme. -/
def ledgerDescription : ApiDescription where
  types :=
    [⟨⟨["core"], "Entry"⟩, none, .object []
      [⟨"amount", .primitive (.unrecognized "DECIMAL"), none⟩,
        ⟨"tags", .set (.unrecognized (.object [("_type", .text "tuple"), ("of", .null)])),
          some "Free tags."⟩]⟩]
  auth := ⟨.all, [.unrecognized (.object [("_type", .text "oauth"), ("flow", .text "code")])]⟩

/-- The description in another order, with members that nobody asks for. -/
def ledgerTree : Json :=
  .object
    [("auth", .object
        [("version", .number (.natural 2)),
          ("schemes", .list [.object [("flow", .text "code"), ("_type", .text "oauth")]])]),
      ("types", .list
        [.object
          [("docs", .null),
            ("shape", .object
              [("properties", .list
                [.object
                  [("valueType", .object
                      [("primitive", .text "DECIMAL"), ("scale", .null),
                        ("_type", .text "primitive")]),
                    ("key", .text "amount")],
                .object
                  [("key", .text "tags"), ("docs", .text "Free tags."),
                    ("valueType", .object
                      [("_type", .text "container"),
                        ("container", .object
                          [("set", .object [("of", .null), ("_type", .text "tuple")]),
                            ("_type", .text "set")])])]]),
                ("_type", .text "object")]),
            ("name", .object [("name", .text "Entry"), ("fernFilepath", .list [.text "core"])])]])]

theorem ledgerTree_reads :
    ledgerDescription.Canonical ∧ ledgerDescription.LaidOut ledgerTree ∧
      ApiDescription.layout.Reads ledgerTree ledgerDescription := by
  have canonical : ledgerDescription.Canonical := by
    refine ⟨?_, trivial, ?_⟩
    · simp only [ledgerDescription, List.mem_singleton, forall_eq]
      refine List.forall_mem_cons.mpr ⟨(by decide : "DECIMAL" ∉ Primitive.words.map Prod.fst), ?_⟩
      exact List.forall_mem_singleton.mpr (Layout.reads_iff.mpr rfl)
    · exact List.forall_mem_singleton.mpr (Layout.reads_iff.mpr rfl)
  have swapped : ∀ first second : String × Json,
      (Json.object [first, second]).Reordered (.object [second, first]) := fun first second =>
    .object (.swap second first []) (.cons (.same _) (.cons (.same _) .nil))
  have laidOut : ledgerDescription.LaidOut ledgerTree := by
    refine ⟨.inr ⟨_, rfl, .cons ⟨⟨_, rfl, ?name⟩, ?docs, _, rfl, ?shape⟩ .nil⟩,
      .inr ⟨_, rfl, ?auth⟩⟩
    case name => exact ⟨.inr ⟨_, rfl, rfl⟩, _, rfl, rfl⟩
    case docs => exact .inr ⟨_, rfl, rfl⟩
    case shape =>
      refine ⟨rfl, .inl ⟨rfl, rfl⟩, .inr ⟨_, rfl, .cons ?amount (.cons ?tags .nil)⟩⟩
      case amount =>
        exact ⟨⟨_, rfl, rfl⟩, ⟨_, rfl, rfl, _, rfl, rfl⟩, .inl ⟨trivial, rfl⟩⟩
      case tags =>
        exact ⟨⟨_, rfl, rfl⟩, ⟨_, rfl, rfl, _, rfl, rfl, _, rfl, swapped _ _⟩, _, rfl, rfl⟩
    case auth => exact ⟨.inl ⟨rfl, rfl⟩, .inr ⟨_, rfl, .cons (swapped _ _) .nil⟩⟩
  exact ⟨canonical, laidOut,
    (ApiDescription.read_from_every_layout canonical).2 ledgerTree laidOut⟩

end ApiComponents
