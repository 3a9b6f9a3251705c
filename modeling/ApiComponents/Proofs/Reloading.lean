import ApiComponents.Proofs.DescriptionLayouts
import ApiComponents.Proofs.JsonTexts
import ApiComponents.Proofs.SavedTrees
import ApiComponents.Proofs.LoadedTrees

/-! # Saving and loading again

A description that was loaded from a text can be saved as a text and loaded again, as long as no
part of it stands too deep for a text and its numbers come back from their own texts. It comes back
as it was exactly when everything that it keeps is kept again. Whoever repeats a member in a value
that is kept saves only the last one, and what is left may be known after all; from then on nothing
changes any more.
-/

namespace ApiComponents

open Members

/-! ## What is saved can be loaded -/

theorem Json.ListWith.exists_reads {α β : Type} {item : Layout α} {fits : β → Json → Prop}
    {items : List β} {tree : Json} (list : tree.ListWith fits items)
    (each : ∀ {value tree}, fits value tree → ∃ result, item.Reads tree result) :
    ∃ results, (Layout.list item).Reads tree results := by
  cases tree with
  | null | bool | number | text | object => exact False.elim list
  | list trees =>
      have given : List.Forall₂ fits items trees := list
      clear list
      induction given with
      | nil => exact ⟨[], Layout.reads_list_iff.mpr .nil⟩
      | cons head _ ih =>
          obtain ⟨first, reads⟩ := each head
          obtain ⟨others, rest⟩ := ih
          exact ⟨first :: others,
            Layout.reads_list_iff.mpr (.cons reads (Layout.reads_list_iff.mp rest))⟩

theorem GivenUnless.exists_fieldReads {α : Type} {value : Layout α} {absence : Absence α}
    {default : α} {omissible : Prop} {name : String} {members : List (String × Json)}
    {fits : Json → Prop} (given : GivenUnless omissible name members fits)
    (missing : absence.value? true = some default)
    (reads : ∀ tree, fits tree → ∃ result, value.Reads tree result) :
    ∃ result, value.FieldReads absence (valuesOf name members) result := by
  rcases given with ⟨-, absent⟩ | ⟨tree, only, fit⟩
  · exact ⟨default, .inl ⟨absent, missing⟩⟩
  · obtain ⟨result, read⟩ := reads tree fit
    exact ⟨result, .inr ⟨tree, only, read⟩⟩

theorem Declaration.exists_reads {declaration : Declaration} {tree : Json}
    (laidOut : declaration.LaidOut tree) : ∃ again, Declaration.layout.Reads tree again := by
  obtain ⟨members, rfl, name, docs, shapeTree, only, -⟩ := laidOut.exists_members
  obtain ⟨shape, reads⟩ := TypeShape.exists_reads shapeTree
  exact ⟨⟨declaration.name, declaration.docs, shape⟩, (Layout.reads_record_iff (by decide)).mpr
    ⟨(declaration.name, declaration.docs, shape, ()),
      ⟨name.fieldReads fun _ => DeclaredName.reads_of_laidOut, docs.fieldReads,
        .inr ⟨shapeTree, only, reads⟩, trivial⟩, rfl⟩⟩

theorem AuthRequirement.exists_reads (word : String) :
    ∃ requirement, AuthRequirement.layout.Reads (.text word) requirement := by
  cases known : spelledValue? words (.text word) with
  | none =>
      have canonical : (unrecognized word).Meets .keptAgain :=
        spelledValue?_text_eq_none_iff.mp known
      exact ⟨.unrecognized word, reads_word canonical⟩
  | some requirement =>
      refine ⟨requirement, Layout.reads_whole_iff.mpr ?_⟩
      simp only [Content.ofJson, ofContent?, known]

theorem Auth.exists_reads {auth : Auth} {tree : Json} (laidOut : auth.LaidOut tree) :
    ∃ again, Auth.layout.Reads tree again := by
  obtain ⟨members, rfl, requirementGiven, schemesGiven⟩ := laidOut.exists_members
  obtain ⟨requirement, reads⟩ : ∃ requirement, AuthRequirement.layout.FieldReads (.always .all)
      (valuesOf "requirement" members) requirement := by
    refine requirementGiven.exists_fieldReads rfl fun tree word => ?_
    rw [word]
    exact AuthRequirement.exists_reads _
  obtain ⟨schemes, readsToo⟩ : ∃ schemes, (Layout.list AuthScheme.layout).FieldReads (.always [])
      (valuesOf "schemes" members) schemes :=
    schemesGiven.exists_fieldReads rfl fun _ list =>
      list.exists_reads fun _ => AuthScheme.exists_reads _
  exact ⟨⟨requirement, schemes⟩, (Layout.reads_record_iff (by decide)).mpr
    ⟨(requirement, schemes, ()), ⟨reads, readsToo, trivial⟩, rfl⟩⟩

/-- Whatever a description keeps, each of its layouts can be loaded. -/
theorem ApiDescription.exists_reads {description : ApiDescription} {tree : Json}
    (laidOut : description.LaidOut tree) :
    ∃ again, ApiDescription.layout.Reads tree again := by
  obtain ⟨members, rfl, typesGiven, authGiven⟩ := laidOut.exists_members
  obtain ⟨types, reads⟩ : ∃ types, (Layout.list Declaration.layout).FieldReads (.always [])
      (valuesOf "types" members) types :=
    typesGiven.exists_fieldReads rfl fun _ list => list.exists_reads Declaration.exists_reads
  obtain ⟨auth, readsToo⟩ : ∃ auth, Auth.layout.FieldReads (.always .none)
      (valuesOf "auth" members) auth :=
    authGiven.exists_fieldReads rfl fun _ => Auth.exists_reads
  exact ⟨⟨types, auth⟩, (Layout.reads_record_iff (by decide)).mpr
    ⟨(types, auth, ()), ⟨reads, readsToo, trivial⟩, rfl⟩⟩

/-! ## Reloading -/

namespace ApiDescription

/-- The description is saved as a compact text, and what loads from the text is the other one. -/
def ReloadsAs (description other : ApiDescription) : Prop :=
  ApiDescription.layout.fromJsonText description.toJson.compact = .ok other

/-- What is saved of the description is not too deep for a text, and every number with a fraction
    or an exponent in it comes back from its own text. -/
def Legible (description : ApiDescription) : Prop :=
  description.toJson.Within Json.Number.FloatReturns Json.depthLimit

variable {tree : Json} {description : ApiDescription}

/-- A description that comes from a tree without repeated names is canonical. -/
theorem canonical_of_regular (regular : tree.Regular)
    (loads : ApiDescription.layout.Reads tree description) : description.Canonical :=
  meets_of_reads Condition.keptAgain_granted regular loads

theorem regular_of_reads (loads : ApiDescription.layout.Reads tree description) :
    description.toJson.Regular :=
  regular_toJson (meets_of_reads Condition.normal_granted trivial loads)

/-- The whole numbers of a saved description fit 64 bits if those of the tree do that it was loaded
    from, so its saved tree comes back if it is legible. -/
theorem within_of_legible {bound : Nat} (inRange : tree.Within Json.Number.InRange bound)
    (loads : ApiDescription.layout.Reads tree description) (legible : description.Legible) :
    description.toJson.Within Json.Number.Returns Json.depthLimit := by
  have enough := inRange.mono (Nat.le_add_right bound 2)
  have saved := within_toJson enough (Nat.le_add_left 2 bound) loads
  exact (legible.and saved).imp fun number fits => Json.Number.returns_of_inRange fits.2 fits.1

/-- A legible description is loaded from its saved text as from its saved tree. -/
theorem reloadsAs_iff {bound : Nat} {other : ApiDescription}
    (inRange : tree.Within Json.Number.InRange bound)
    (loads : ApiDescription.layout.Reads tree description) (legible : description.Legible) :
    description.ReloadsAs other ↔ ApiDescription.layout.Reads description.toJson other :=
  Layout.fromJsonText_compact_iff (within_of_legible inRange loads legible)

/-- On trees, a loaded description comes back exactly when all that it keeps would be kept again.
    In any case its saved tree can be loaded, and saving and loading once more changes nothing. -/
theorem rereads_of_reads (loads : ApiDescription.layout.Reads tree description) :
    (ApiDescription.layout.Reads description.toJson description ↔ description.Canonical) ∧
      ∃ again, ApiDescription.layout.Reads description.toJson again ∧
        ApiDescription.layout.Reads again.toJson again := by
  have written : ∀ {other : ApiDescription}, other.Canonical →
      ApiDescription.layout.Reads other.toJson other :=
    fun canonical => reads_of_laidOut canonical (laidOut_toJson _)
  have saved := regular_of_reads loads
  refine ⟨⟨canonical_of_regular saved, written⟩, ?_⟩
  obtain ⟨again, reads⟩ := exists_reads description.laidOut_toJson
  exact ⟨again, reads, written (canonical_of_regular saved reads)⟩

/-- A description that loads from a text is legible if the tree of the text leaves one level free
    and its numbers come back. A legible description that is saved and loaded again comes back as it
    was exactly when all that it keeps would be kept again; so it does if the text repeats no
    member. In any case its saved text loads, and saving and loading what comes from it changes
    nothing any more. -/
theorem reload_of_loads {text : String}
    (loads : ApiDescription.layout.fromJsonText text = .ok description) :
    ((Json.treeOf text).Within Json.Number.FloatReturns (Json.depthLimit - 1) →
        description.Legible) ∧
      (description.Legible →
        (description.ReloadsAs description ↔ description.Canonical) ∧
          ((Json.treeOf text).Unrepeated → description.ReloadsAs description) ∧
          ∃ again, description.ReloadsAs again ∧ (again.Legible → again.ReloadsAs again)) := by
  have reads := Layout.reads_of_fromJsonText loads
  refine ⟨fun within => within_toJson within (by decide) reads, fun legible => ?_⟩
  obtain ⟨bound, inRange⟩ := Json.exists_within_treeOf text
  obtain ⟨comesBack, again, rereads, settled⟩ := rereads_of_reads reads
  have reloads : ∀ {other}, description.ReloadsAs other ↔
      ApiDescription.layout.Reads description.toJson other := reloadsAs_iff inRange reads legible
  have canonical : (Json.treeOf text).Unrepeated → description.Canonical :=
    fun unrepeated => canonical_of_regular (inRange.regular unrepeated) reads
  refine ⟨reloads.trans comesBack,
    fun unrepeated => reloads.mpr (comesBack.mpr (canonical unrepeated)),
    again, reloads.mpr rereads, fun legibleToo => ?_⟩
  have savedInRange := within_toJson (inRange.mono (Nat.le_add_right bound 2))
    (Nat.le_add_left 2 bound) reads
  exact (reloadsAs_iff savedInRange rereads legibleToo).mpr settled

end ApiDescription

/-- The description that keeps a scalar type, a kind of type and a scheme comes back as it was. -/
theorem ledger_is_reloaded :
    ApiDescription.layout.fromJsonText ledgerTree.compact = .ok ledgerDescription ∧
      ledgerDescription.ReloadsAs ledgerDescription := by
  have reads : ApiDescription.layout.Reads ledgerTree ledgerDescription := Layout.reads_iff.mpr rfl
  have two : (2 : Nat) ≤ Json.Number.wordMax := by decide
  have within : ledgerTree.Within Json.Number.Returns Json.depthLimit := by
    simp [ledgerTree, Json.depthLimit, Json.Number.returns_natural two]
  have room : ledgerTree.Within Json.Number.FloatReturns (Json.depthLimit - 1) := by
    simp [ledgerTree, Json.depthLimit, Json.Number.FloatReturns]
  have unrepeated : ledgerTree.Unrepeated := by
    simp [ledgerTree, Json.Unrepeated, Json.membersUnrepeated, Json.itemsUnrepeated]
  have loads := (Layout.fromJsonText_compact_iff within).mpr reads
  obtain ⟨legible, reloads⟩ := ApiDescription.reload_of_loads loads
  rw [Json.treeOf_compact within] at legible reloads
  exact ⟨loads, (reloads (legible room)).2.1 unrepeated⟩

/-- A shape whose tag stands twice, which no shape may have. -/
def twiceTaggedText : String :=
  "\x7b\"types\":[\x7b\"name\":\x7b\"name\":\"A\"\x7d," ++
    "\"shape\":\x7b\"_type\":\"enum\",\"_type\":\"enum\"\x7d\x7d]\x7d"

def twiceTaggedTree : Json :=
  .object [("types", .list [.object [("name", .object [("name", .text "A")]),
    ("shape", .object [("_type", .text "enum"), ("_type", .text "enum")])]])]

/-- The shape is kept whole, but the kept value has room for one tag only. -/
def twiceTagged : ApiDescription :=
  ⟨[⟨⟨[], "A"⟩, none, .unrecognized (.object [("_type", .text "enum")])⟩], .none⟩

/-- What is saved of the shape with two tags is a known shape. -/
theorem twiceTagged_is_not_reloaded :
    ApiDescription.layout.fromJsonText twiceTaggedText = .ok twiceTagged ∧
      twiceTagged.ReloadsAs ⟨[⟨⟨[], "A"⟩, none, .enumeration []⟩], .none⟩ ∧
      ¬ twiceTagged.ReloadsAs twiceTagged := by
  have spelled : twiceTaggedTree.compact = twiceTaggedText := by decide +kernel
  have room : twiceTaggedTree.Within Json.Number.Returns (Json.depthLimit - 1) := by
    simp [twiceTaggedTree, Json.depthLimit]
  have reads : ApiDescription.layout.Reads twiceTaggedTree twiceTagged := Layout.reads_iff.mpr rfl
  have loads := (Layout.fromJsonText_compact_iff (room.mono (Nat.sub_le _ 1))).mpr reads
  have known : twiceTagged.ReloadsAs ⟨[⟨⟨[], "A"⟩, none, .enumeration []⟩], .none⟩ :=
    (Layout.fromJsonText_compact_iff (ApiDescription.within_toJson room (by decide) reads)).mpr
      (Layout.reads_iff.mpr rfl)
  exact ⟨spelled ▸ loads, known, fun kept => nomatch kept.symm.trans known⟩

/-- A scheme that is kept with a number. -/
def limitedText (limit : String) : String :=
  "\x7b\"types\":[],\"auth\":\x7b\"requirement\":\"ALL\"," ++
    "\"schemes\":[\x7b\"_type\":\"oath\",\"limit\":" ++ limit ++ "\x7d]\x7d\x7d"

/-- Not every number comes back: `1.0e-23` is written as `1e-23`, and this is read as the number
    next to it. -/
theorem limited_is_not_reloaded :
    ∃ description again, ApiDescription.layout.fromJsonText (limitedText "1.0e-23") =
        .ok description ∧
      description.ReloadsAs again ∧ again ≠ description := by
  have saved : (ApiDescription.layout.fromJsonText (limitedText "1.0e-23")).map
      (·.toJson.compact) = .ok (limitedText "1e-23") := by decide +kernel
  have savedAgain : (ApiDescription.layout.fromJsonText (limitedText "1e-23")).map
      (·.toJson.compact) = .ok (limitedText "1.0000000000000001e-23") := by decide +kernel
  obtain ⟨description, loads, text⟩ := map_eq_ok_iff.mp saved
  obtain ⟨again, loadsAgain, textAgain⟩ := map_eq_ok_iff.mp savedAgain
  refine ⟨description, again, loads, ?_, ?_⟩
  · rw [ApiDescription.ReloadsAs, text]
    exact loadsAgain
  · rintro rfl
    exact absurd (text.symm.trans textAgain) (by decide +kernel)

end ApiComponents
