import Mathlib
import ApiComponents.Description.Reading
import ApiComponents.Proofs.LoadedTrees
import ApiComponents.Proofs.YamlTrees
import ApiComponents.TextFormat

/-! # One tree in two formats

What loads from a JSON text loads from YAML as well and means the same, as long as the tree has no
numbers and its records are written as objects. Both loaders walk through the same layout, so it is
enough to follow them side by side, over values that mirror each other.
-/

namespace ApiComponents

open Json (Member Item)
open Yaml (Mirrored ItemsMirrored MembersMirrored Path)

/-! ## Trees with names -/

mutual
/-- Outside of choices, all records are written as objects, and all words as strings. -/
def Layout.Keyed {α : Type} : Layout α → Json → Prop
  | .text, _ => True
  | .word _, tree => ∃ word, tree = .text word
  | .optional value, tree => tree = .null ∨ value.Keyed tree
  | .list item, .list trees => ∀ tree ∈ trees, item.Keyed tree
  | .list _, _ => True
  | .entries value, .object pairs => ∀ pair ∈ pairs, value.Keyed pair.2
  | .entries _, _ => True
  | .whole _ _, _ => True
  | .record _ fields _, .object pairs => ∀ pair ∈ pairs, fields.Keyed pair.1 pair.2
  | .record _ _ _, _ => False

/-- The same for the value of a member, if its name is the one of a field. -/
def Fields.Keyed {σ ρ : Type} (name : String) : Fields σ ρ → Json → Prop
  | .done, _ => True
  | .field other _ value rest, tree =>
      if name = other then value.Keyed tree else rest.Keyed name tree
end

/-! ## Side by side -/

/-- The layout loads from YAML whatever it loads from JSON. -/
def Layout.Follows {α : Type} (layout : Layout α) : Prop :=
  ∀ {tree : Json} {node : Json.Node} {part : Yaml.Node} {value : α} (path : Path),
    Mirrored tree node part → layout.Keyed tree → layout.fromNode node = .ok value →
      layout.fromYamlNode path part = .ok value

/-- So do the layouts of all fields. -/
def Fields.Follow {σ ρ : Type} : Fields σ ρ → Prop
  | .done => True
  | .field _ _ value rest => value.Follows ∧ rest.Follow

/-! ### Content -/

mutual
/-- What is read whole is the tree, and the node has the content of the tree. -/
theorem Yaml.Mirrored.content {tree read : Json} {node : Json.Node} {part : Yaml.Node}
    (mirrored : Mirrored tree node part) (path : Path) (whole : node.json = .ok read) :
    read = tree ∧ part.content path = .ok (.ofJson tree) := by
  cases mirrored with
  | null =>
      cases whole
      exact ⟨rfl, rfl⟩
  | bool value =>
      cases whole
      cases value <;> exact ⟨rfl, rfl⟩
  | text =>
      cases whole
      exact ⟨rfl, rfl⟩
  | list start stop mark each =>
      obtain ⟨values, read, ends⟩ := bind_eq_ok_iff.mp whole
      cases ends
      obtain ⟨rfl, contents⟩ := each.contents path 0 read
      refine ⟨rfl, ?_⟩
      rw [Yaml.Node.content, contents]
      rfl
  | object start stop mark each =>
      obtain ⟨values, read, ends⟩ := bind_eq_ok_iff.mp whole
      cases ends
      obtain ⟨rfl, contents⟩ := each.contents path read
      refine ⟨rfl, ?_⟩
      rw [Yaml.Node.content, contents]
      rfl
  | deep => cases whole

theorem Yaml.ItemsMirrored.contents {trees read : List Json} {items : List (Item Json.Node)}
    {parts : List Yaml.Node} (mirrored : ItemsMirrored trees items parts) (path : Path)
    (index : Nat) (whole : Json.Node.jsonItems items = .ok read) :
    read = trees ∧ Yaml.Node.itemContents path index parts = .ok (Content.ofItems trees) := by
  cases mirrored with
  | nil =>
      cases whole
      exact ⟨rfl, rfl⟩
  | @cons tree trees item items part parts head rest =>
      obtain ⟨first, readFirst, whole⟩ := bind_eq_ok_iff.mp whole
      obtain ⟨others, readOthers, ends⟩ := bind_eq_ok_iff.mp whole
      cases ends
      obtain ⟨rfl, content⟩ := head.content (.item path index) readFirst
      obtain ⟨rfl, contents⟩ := rest.contents path (index + 1) readOthers
      refine ⟨rfl, ?_⟩
      rw [Yaml.Node.itemContents, content, contents]
      rfl

theorem Yaml.MembersMirrored.contents {pairs read : List (String × Json)}
    {members : List (Member Json.Node)} {entries : List (Yaml.Entry Yaml.Node)}
    (mirrored : MembersMirrored pairs members entries) (path : Path)
    (whole : Json.Node.jsonMembers members = .ok read) :
    read = pairs ∧ Yaml.Node.entryContents path entries = .ok (Content.ofMembers pairs) := by
  cases mirrored with
  | nil =>
      cases whole
      exact ⟨rfl, rfl⟩
  | @cons name tree pairs member members label part entries mark named head rest =>
      obtain ⟨spelled, same, whole⟩ := bind_eq_ok_iff.mp whole
      rw [named] at same
      cases same
      obtain ⟨first, readFirst, whole⟩ := bind_eq_ok_iff.mp whole
      obtain ⟨others, readOthers, ends⟩ := bind_eq_ok_iff.mp whole
      cases ends
      obtain ⟨rfl, content⟩ := head.content (path.entry label) readFirst
      obtain ⟨rfl, contents⟩ := rest.contents path readOthers
      refine ⟨rfl, ?_⟩
      rw [Yaml.Node.entryContents, content, contents]
      rfl
end

/-! ### Layouts -/

namespace Layout

variable {α : Type}

theorem follows_text : Layout.text.Follows := by
  intro tree node part value path mirrored _ loads
  cases mirrored with
  | null | bool | list | object => cases loads
  | text =>
      cases loads
      rfl
  | deep => exact absurd loads (fromNode_ne_of_unreadable _ (.deep _ _) _)

theorem follows_word (words : List (String × α)) : (Layout.word words).Follows := by
  intro tree node part value path mirrored keyed loads
  obtain ⟨word, rfl⟩ := keyed
  cases mirrored with
  | text word stop mark =>
      have looked : Json.wordValue words word stop = .ok value := loads
      unfold Json.wordValue at looked
      split at looked
      · next known =>
        cases looked
        have found : (Yaml.Node.scalar mark none word false).word words path = .ok value := by
          simp only [Yaml.Node.word, Yaml.Node.ownTag, Yaml.ownTag?, known]
        exact found
      · cases looked
  | deep => exact absurd loads (fromNode_ne_of_unreadable _ (.deep _ _) _)

theorem fromYamlNode_optional (value : Layout α) (path : Path) {part : Yaml.Node}
    (present : part.isMissing = .ok false) :
    (Layout.optional value).fromYamlNode path part = (value.fromYamlNode path part).map some := by
  rw [fromYamlNode, present]
  rfl

/-- Of all nodes only null stands for a missing value. -/
theorem follows_optional {value : Layout α} (follows : value.Follows) :
    (Layout.optional value).Follows := by
  intro tree node part result path mirrored keyed loads
  have given : tree ≠ .null → (value.fromNode node).map some = .ok result →
      part.isMissing = .ok false →
        (Layout.optional value).fromYamlNode path part = .ok result := by
    intro there reached present
    obtain ⟨inner, read, rfl⟩ := map_eq_ok_iff.mp reached
    rw [fromYamlNode_optional value path present,
      follows path mirrored (keyed.resolve_left there) read]
    rfl
  cases mirrored with
  | null =>
      cases loads
      rfl
  | bool truth => cases truth <;> exact given nofun loads rfl
  | text | list | object => exact given nofun loads rfl
  | deep => exact absurd loads (fromNode_ne_of_unreadable _ (.deep _ _) _)

theorem follows_items {item : Layout α} (follows : item.Follows) {trees : List Json}
    {items : List (Item Json.Node)} {parts : List Yaml.Node}
    (mirrored : ItemsMirrored trees items parts) (keyed : ∀ tree ∈ trees, item.Keyed tree)
    (path : Path) (index : Nat) {values : List α}
    (loads : (items.mapM fun found =>
      (item.fromNode found.node).mapError (·.placed found.mark)) = .ok values) :
    Yaml.mapIndexed (fun place part => item.fromYamlNode (.item path place) part) index parts =
      .ok values := by
  cases mirrored with
  | nil =>
      cases loads
      rfl
  | cons head rest =>
      rw [List.mapM_cons] at loads
      obtain ⟨first, read, loads⟩ := bind_eq_ok_iff.mp loads
      obtain ⟨others, readOthers, ends⟩ := bind_eq_ok_iff.mp loads
      cases ends
      obtain ⟨keyedFirst, keyedOthers⟩ := List.forall_mem_cons.mp keyed
      rw [Yaml.mapIndexed, follows _ head keyedFirst (mapError_eq_ok_iff.mp read)]
      simp only [follows_items follows rest keyedOthers path (index + 1) readOthers]
      rfl

theorem follows_list {item : Layout α} (follows : item.Follows) : (Layout.list item).Follows := by
  intro tree node part values path mirrored keyed loads
  cases mirrored with
  | null | bool | text | object => cases loads
  | list start stop mark each =>
      obtain ⟨found, read, ends⟩ := bind_eq_ok_iff.mp loads
      cases ends
      exact mapError_eq_ok_iff.mpr (follows_items follows each keyed path 0 read)
  | deep => exact absurd loads (fromNode_ne_of_unreadable _ (.deep _ _) _)

theorem follows_pairs {value : Layout α} (follows : value.Follows) {pairs : List (String × Json)}
    {members : List (Member Json.Node)} {entries : List (Yaml.Entry Yaml.Node)}
    (mirrored : MembersMirrored pairs members entries)
    (keyed : ∀ pair ∈ pairs, value.Keyed pair.2) (path : Path) {results : List (String × α)}
    (loads : (members.mapM fun (found : Member Json.Node) => do
      let name ← found.name
      let result ← (value.fromNode found.node).mapError fun fault : Json.Fault =>
        fault.placed found.mark
      Except.ok (name, result)) = .ok results) :
    (entries.mapM fun (entry : Yaml.Entry Yaml.Node) => do
      let key ← entry.key.text path "a string"
      let result ← value.fromYamlNode (path.entry entry.label) entry.value
      Except.ok (key, result)) = .ok results := by
  cases mirrored with
  | nil =>
      cases loads
      rfl
  | @cons name tree pairs member members label part entries mark named head rest =>
      rw [List.mapM_cons] at loads ⊢
      obtain ⟨first, read, loads⟩ := bind_eq_ok_iff.mp loads
      obtain ⟨others, readOthers, ends⟩ := bind_eq_ok_iff.mp loads
      cases ends
      rw [named] at read
      obtain ⟨spelled, same, read⟩ := bind_eq_ok_iff.mp read
      cases same
      obtain ⟨result, reached, ends⟩ := bind_eq_ok_iff.mp read
      cases ends
      obtain ⟨keyedFirst, keyedOthers⟩ := List.forall_mem_cons.mp keyed
      have here := follows (path.entry label) head keyedFirst (mapError_eq_ok_iff.mp reached)
      refine bind_eq_ok_iff.mpr ⟨(name, result), ?_, ?_⟩
      · exact bind_eq_ok_iff.mpr ⟨name, rfl, bind_eq_ok_iff.mpr ⟨result, here, rfl⟩⟩
      · exact bind_eq_ok_iff.mpr
          ⟨others, follows_pairs follows rest keyedOthers path readOthers, rfl⟩

theorem follows_entries {value : Layout α} (follows : value.Follows) :
    (Layout.entries value).Follows := by
  intro tree node part results path mirrored keyed loads
  cases mirrored with
  | null | bool | text | list => cases loads
  | object start stop mark each =>
      obtain ⟨found, read, ends⟩ := bind_eq_ok_iff.mp loads
      cases ends
      exact mapError_eq_ok_iff.mpr
        (map_eq_ok_iff.mpr ⟨found, follows_pairs follows each keyed path read, rfl⟩)
  | deep => exact absurd loads (fromNode_ne_of_unreadable _ (.deep _ _) _)

theorem follows_whole (choice : String) (interpret : Content → Option α) :
    (Layout.whole choice interpret).Follows := by
  intro tree node part value path mirrored _ loads
  obtain ⟨read, whole, interpreted⟩ := bind_eq_ok_iff.mp loads
  obtain ⟨rfl, content⟩ := mirrored.content path whole
  refine bind_eq_ok_iff.mpr ⟨_, content, ?_⟩
  cases outcome : interpret (.ofJson read) with
  | none =>
      simp only [outcome] at interpreted
      cases interpreted
  | some result =>
      simp only [outcome] at interpreted
      cases interpreted
      rfl

end Layout

/-! ### Records -/

theorem Fields.putYaml_of_put {σ ρ : Type} {fields : Fields σ ρ} (follow : fields.Follow)
    {name : String} {tree : Json} {member : Member Json.Node} {part : Yaml.Node}
    (mirrored : Mirrored tree member.node part) (keyed : fields.Keyed name tree) (path : Path)
    (label : Option String) {found next : σ} (puts : fields.put name member found = .ok next) :
    fields.putYaml path name label part found = .ok next := by
  cases fields with
  | done =>
      obtain ⟨skipped, -, ends⟩ := bind_eq_ok_iff.mp puts
      cases ends
      rfl
  | field other absence value rest =>
      obtain ⟨slot, slots⟩ := found
      simp only [put, putYaml, Keyed] at puts keyed ⊢
      split at puts
      · next same =>
        rw [if_pos same] at keyed ⊢
        obtain ⟨result, read, ends⟩ := bind_eq_ok_iff.mp puts
        cases ends
        exact bind_eq_ok_iff.mpr
          ⟨result, follow.1 _ mirrored keyed (mapError_eq_ok_iff.mp read), rfl⟩
      · next apart =>
        rw [if_neg apart] at keyed ⊢
        obtain ⟨others, behind, ends⟩ := bind_eq_ok_iff.mp puts
        cases ends
        exact bind_eq_ok_iff.mpr
          ⟨others, putYaml_of_put follow.2 mirrored keyed path label behind, rfl⟩

/-- Put an entry into the slot of its field, unless something was found for the field before. -/
def Fields.takeYaml {σ ρ : Type} (path : Path) (fields : Fields σ ρ) (found : σ)
    (entry : Yaml.Entry Yaml.Node) : Except Yaml.Fault σ := do
  let key ← entry.key.text path "field identifier"
  if fields.isFound key found then .error (.complain (.duplicateField key))
  else fields.putYaml path key entry.label entry.value found

theorem Fields.follows_members {σ ρ : Type} {fields : Fields σ ρ} (follow : fields.Follow)
    {pairs : List (String × Json)} {members : List (Member Json.Node)}
    {entries : List (Yaml.Entry Yaml.Node)} (mirrored : MembersMirrored pairs members entries)
    (keyed : ∀ pair ∈ pairs, fields.Keyed pair.1 pair.2) (path : Path) {start found : σ}
    (taken : members.foldlM fields.take start = .ok found) :
    entries.foldlM (fields.takeYaml path) start = .ok found := by
  cases mirrored with
  | nil =>
      cases taken
      rfl
  | @cons name tree pairs member members label part entries mark named head rest =>
      rw [List.foldlM_cons] at taken ⊢
      obtain ⟨next, first, others⟩ := bind_eq_ok_iff.mp taken
      obtain ⟨keyedFirst, keyedOthers⟩ := List.forall_mem_cons.mp keyed
      refine bind_eq_ok_iff.mpr ⟨next, ?_, follows_members follow rest keyedOthers path others⟩
      rw [take, named] at first
      obtain ⟨spelled, same, first⟩ := bind_eq_ok_iff.mp first
      cases same
      split at first
      · cases first
      · next new =>
        refine bind_eq_ok_iff.mpr ⟨name, rfl, ?_⟩
        rw [if_neg new]
        exact putYaml_of_put follow head keyedFirst path label first

theorem Layout.follows_record {σ ρ α : Type} (name : String) {fields : Fields σ ρ}
    (build : ρ → α) (follow : fields.Follow) : (Layout.record name fields build).Follows := by
  intro tree node part value path mirrored keyed loads
  cases mirrored with
  | null | bool | text | list => cases keyed
  | object start stop mark each =>
      obtain ⟨found, taken, finished⟩ := bind_eq_ok_iff.mp loads
      refine mapError_eq_ok_iff.mpr (bind_eq_ok_iff.mpr
        ⟨found, fields.follows_members follow each keyed path taken, ?_⟩)
      cases outcome : fields.finish true found with
      | error missing =>
          simp only [outcome] at finished
          cases finished
      | ok values =>
          simp only [outcome] at finished
          cases finished
          rfl
  | deep => exact absurd loads (fromNode_ne_of_unreadable _ (.deep _ _) _)

mutual
theorem Layout.follows {α : Type} (layout : Layout α) : layout.Follows := by
  cases layout with
  | text => exact Layout.follows_text
  | word words => exact Layout.follows_word words
  | optional value => exact Layout.follows_optional value.follows
  | list item => exact Layout.follows_list item.follows
  | entries value => exact Layout.follows_entries value.follows
  | whole choice interpret => exact Layout.follows_whole choice interpret
  | record name fields build => exact Layout.follows_record name build fields.follow

theorem Fields.follow {σ ρ : Type} (fields : Fields σ ρ) : fields.Follow := by
  cases fields with
  | done => trivial
  | field name absence value rest => exact ⟨value.follows, rest.follow⟩
end

/-! ## Texts and documents -/

/-- What loads from a JSON text, loads from every YAML document that spells the tree of the text.
    A JSON text may have fewer levels than a YAML document, so the document is never too deep. -/
theorem Layout.loads_from_yaml {α : Type} {layout : Layout α} {text : String} {tree : Json}
    {value : α} (shows : (Json.Document.ofText text).root.Shows tree) (keyed : layout.Keyed tree)
    (loads : layout.fromJsonText text = .ok value) {root : Yaml.Written String}
    (spelled : root.Spells tree) :
    ∃ node, Yaml.Node.ofWritten? (.document root) = some node ∧
      layout.fromYamlNode .root node = .ok value := by
  have room : (Json.Document.ofText text).root.levels ≤ Yaml.depthLimit :=
    Nat.le_trans (Json.Document.levels_ofText text) (by decide)
  obtain ⟨node, expanded, mirrored⟩ := Yaml.exists_mirrored shows room spelled
  have read := (fromDocument_eq_ok_iff.mp (mapError_eq_ok_iff.mp loads)).1
  exact ⟨node, expanded, layout.follows .root mirrored keyed read⟩

/-- The loaders of the two formats agree: a description that loads from a JSON text, in which all
    records outside of tagged values are objects and which has no numbers, loads from YAML, and it
    is the same description in whatever way the tree is written there. -/
theorem ApiDescription.loads_alike {text : String} {tree : Json} {description : ApiDescription}
    (shows : (Json.Document.ofText text).root.Shows tree) (numberless : tree.Numberless)
    (keyed : ApiDescription.layout.Keyed tree)
    (loads : ApiDescription.layout.fromJsonText text = .ok description) :
    (∃ root : Yaml.Written String, root.Spells tree) ∧
      ∀ root : Yaml.Written String, root.Spells tree →
        ∃ node, Yaml.Node.ofWritten? (.document root) = some node ∧
          ApiDescription.layout.fromYamlNode .root node = .ok description :=
  ⟨Yaml.Written.exists_spells numberless, fun _ => Layout.loads_from_yaml shows keyed loads⟩

/-- A description with a scheme that nobody knows, and with a member that no record has. -/
def sketchText : String :=
  "\x7b\"auth\":\x7b\"schemes\":[\x7b\"_type\":\"oath\"\x7d]\x7d,\"draft\":true\x7d"

def sketchTree : Json :=
  .object [("auth", .object [("schemes", .list [.object [("_type", .text "oath")]])]),
    ("draft", .bool true)]

/-- The scheme is kept as it is, whichever format it comes from. -/
theorem ApiDescription.sketch_loads_alike :
    (∃ root : Yaml.Written String, root.Spells sketchTree) ∧
      ∀ root : Yaml.Written String, root.Spells sketchTree →
        ∃ node, Yaml.Node.ofWritten? (.document root) = some node ∧
          ApiDescription.layout.fromYamlNode .root node =
            .ok ⟨[], ⟨.all, [.unrecognized (.object [("_type", .text "oath")])]⟩⟩ := by
  have read : (Json.Document.ofText sketchText).root.json = .ok sketchTree := by cbv
  have loads : ApiDescription.layout.fromJsonText sketchText =
      .ok ⟨[], ⟨.all, [.unrecognized (.object [("_type", .text "oath")])]⟩⟩ := by cbv
  have keyed : ApiDescription.layout.Keyed sketchTree := by
    simp [layout, Auth.layout, AuthScheme.layout, sketchTree, Layout.Keyed, Fields.Keyed]
  have numberless : sketchTree.Numberless := by
    simp [sketchTree, Json.Numberless, Json.membersNumberless, Json.itemsNumberless]
  exact ApiDescription.loads_alike (Json.Node.shows_of_json read) numberless keyed loads

end ApiComponents
