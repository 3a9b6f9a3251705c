import ApiComponents.Proofs.ReaderInvariants
import ApiComponents.Proofs.TreeReading

/-! # What loads from a text is read from its tree

A text may load although parts of it cannot be read or stand too deep, as long as these parts are
skipped. What loads from it is nevertheless what its layout reads from the tree of the whole text.
The node of the text and a node that holds the tree are followed side by side.
-/

namespace ApiComponents

open Json (Fault Node Item Member Ending)

/-- A scalar that cannot be read, or a value that stands too deep. -/
inductive Json.Node.Unreadable : Node → Prop where
  | number (fault : Fault) (start stop : Nat) : Unreadable (.number (.error fault) start stop)
  | text (fault : Fault) (stop : Nat) : Unreadable (.text (.error fault) stop)
  | deep (limit : Fault) (node : Node) : Unreadable (.deep limit node)
  | broken (start : Nat) (first : Option Char) (parts : Json.Break) :
      Unreadable (.broken start first parts)

/-- Nothing loads from what cannot be read. -/
theorem Layout.fromNode_ne_of_unreadable {α : Type} (layout : Layout α) {node : Node}
    (unreadable : node.Unreadable) (value : α) : layout.fromNode node ≠ .ok value := by
  cases layout with
  | text | whole => cases unreadable <;> nofun
  | word | list | entries | record =>
      cases unreadable with
      | number | text | broken => nofun
      | deep limit node => cases node <;> nofun
  | optional inner =>
      intro loads
      have unread := inner.fromNode_ne_of_unreadable unreadable
      cases unreadable with
      | number | text | deep =>
          obtain ⟨found, reached, -⟩ := map_eq_ok_iff.mp loads
          exact unread found reached
      | broken start first parts =>
          simp only [fromNode] at loads
          split at loads
          · cases loads
          · obtain ⟨found, reached, -⟩ := map_eq_ok_iff.mp loads
            exact unread found reached

/-! ## Layouts, one by one -/

/-- What loads from a node, loads from every node that holds its tree. -/
def Layout.Transfers {α : Type} (layout : Layout α) : Prop :=
  ∀ {node other : Node} {value : α}, other.json = .ok node.tree →
    layout.fromNode node = .ok value → layout.fromNode other = .ok value

/-- So it is for the layouts of all fields. -/
def Fields.Transfer {σ ρ : Type} : Fields σ ρ → Prop
  | .done => True
  | .field _ _ value rest => value.Transfers ∧ rest.Transfer

namespace Layout

variable {α : Type}

theorem transfers_text : Layout.text.Transfers := by
  intro node other value holds loads
  cases node with
  | null | bool | list | object | broken => cases loads
  | number read => cases read <;> cases loads
  | text read stop =>
      cases loads
      cases Node.spells_of_json holds
      rfl
  | deep => exact absurd loads (fromNode_ne_of_unreadable _ (.deep _ _) _)

theorem wordValue_eq_ok_iff {words : List (String × α)} {word : String} {stop : Nat} {value : α} :
    Json.wordValue words word stop = .ok value ↔ Entries.lookup word words = some value := by
  rw [← toOption_wordValue words word stop, toOption_eq_some_iff]

/-- A word that is written as an object has one member, with its name and null. -/
theorem wordObject_eq_ok_iff {words : List (String × α)} {members : List (Member Node)}
    {ending : Ending} {value : α} :
    Json.wordObject words members ending = .ok value ↔
      ∃ member place stop name, members = [member] ∧ ending = .closed stop ∧
        member.name = .ok name ∧ member.node = .null place ∧
        Entries.lookup name words = some value := by
  constructor
  · intro loads
    cases members with
    | nil => cases ending <;> cases loads
    | cons member others =>
        obtain ⟨name, named, loads⟩ := bind_eq_ok_iff.mp loads
        obtain ⟨found, known, loads⟩ := bind_eq_ok_iff.mp loads
        split at loads
        · next place null =>
          cases others with
          | cons => cases loads
          | nil =>
              cases ending with
              | closed stop =>
                  cases loads
                  exact ⟨member, place, stop, name, rfl, rfl, named, null,
                    wordValue_eq_ok_iff.mp known⟩
              | broken parts excess =>
                  simp only at loads
                  split at loads <;> cases loads
        · cases loads
  · rintro ⟨member, place, stop, name, rfl, rfl, named, null, known⟩
    exact bind_eq_ok_iff.mpr ⟨name, named, bind_eq_ok_iff.mpr
      ⟨value, wordValue_eq_ok_iff.mpr known, by rw [null]⟩⟩

theorem transfers_word (words : List (String × α)) : (Layout.word words).Transfers := by
  intro node other value holds loads
  cases node with
  | null | bool | number | list | broken => cases loads
  | text read stop =>
      cases read with
      | error fault => cases loads
      | ok word =>
          cases Node.spells_of_json holds
          exact wordValue_eq_ok_iff.mpr (wordValue_eq_ok_iff.mp loads)
  | object start members ending =>
      obtain ⟨⟨spelling, _, _, _, _⟩, place, stop, name, rfl, rfl, rfl, rfl, known⟩ :=
        wordObject_eq_ok_iff.mp loads
      cases Node.spells_of_json holds with
      | object _ _ held =>
          obtain ⟨⟨label, nameStop, nameMark, inner, mark⟩, -, spells, ⟨⟩, rfl⟩ :=
            List.forall₂_cons_right_iff.mp held
          obtain ⟨named, holds⟩ := Json.Member.spelled_eq_ok_iff.mp spells
          cases Node.spells_of_json holds with
          | null stop =>
              rw [fromNode_word_object]
              exact wordObject_eq_ok_iff.mpr
                ⟨_, stop, _, name, rfl, rfl, named, rfl, known⟩
  | deep => exact absurd loads (fromNode_ne_of_unreadable _ (.deep _ _) _)

theorem transfers_optional {value : Layout α} (transfers : value.Transfers) :
    (Layout.optional value).Transfers := by
  intro node other result holds loads
  have given : (value.fromNode node).map some = .ok result →
      (value.fromNode other).map some = .ok result := by
    intro reached
    obtain ⟨inner, read, rfl⟩ := map_eq_ok_iff.mp reached
    exact map_eq_ok_iff.mpr ⟨inner, transfers holds read, rfl⟩
  cases node with
  | null =>
      cases Node.spells_of_json holds
      exact loads
  | bool | list | object =>
      cases Node.spells_of_json holds
      exact given loads
  | number read | text read =>
      cases read with
      | error fault => exact absurd loads (fromNode_ne_of_unreadable _ (by constructor) _)
      | ok scalar =>
          cases Node.spells_of_json holds
          exact given loads
  | deep | broken => exact absurd loads (fromNode_ne_of_unreadable _ (by constructor) _)

theorem transfers_items {item : Layout α} (transfers : item.Transfers)
    {items others : List (Item Node)}
    (held : List.Forall₂ (fun item tree => item.node.json = .ok tree) others
      (Node.itemTrees items)) {values : List α}
    (loads : (items.mapM fun found =>
      (item.fromNode found.node).mapError (·.placed found.mark)) = .ok values) :
    (others.mapM fun found =>
      (item.fromNode found.node).mapError (·.placed found.mark)) = .ok values := by
  induction items generalizing others values with
  | nil =>
      cases held
      exact loads
  | cons found items ih =>
      obtain ⟨copy, others, holds, behind, rfl⟩ := List.forall₂_cons_right_iff.mp held
      rw [List.mapM_cons] at loads ⊢
      obtain ⟨first, read, loads⟩ := bind_eq_ok_iff.mp loads
      obtain ⟨later, readLater, ends⟩ := bind_eq_ok_iff.mp loads
      cases ends
      refine bind_eq_ok_iff.mpr ⟨first, ?_, bind_eq_ok_iff.mpr ⟨later, ih behind readLater, rfl⟩⟩
      exact mapError_eq_ok_iff.mpr (transfers holds (mapError_eq_ok_iff.mp read))

theorem transfers_list {item : Layout α} (transfers : item.Transfers) :
    (Layout.list item).Transfers := by
  intro node other values holds loads
  cases node with
  | null | bool | object | broken => cases loads
  | number read | text read => cases read <;> cases loads
  | list start items ending =>
      obtain ⟨found, read, ends⟩ := bind_eq_ok_iff.mp loads
      cases ending with
      | broken parts excess => cases ends
      | closed stop =>
          cases ends
          cases Node.spells_of_json holds with
          | list _ _ held =>
              rw [fromNode_list]
              exact transfers_items transfers held read
  | deep => exact absurd loads (fromNode_ne_of_unreadable _ (.deep _ _) _)

theorem transfers_pairs {value : Layout α} (transfers : value.Transfers)
    {members others : List (Member Node)}
    (held : List.Forall₂ (fun member pair => member.spelled = .ok pair) others
      (Node.memberTrees members)) {results : List (String × α)}
    (loads : (members.mapM fun (found : Member Node) => do
      let name ← found.name
      let result ← (value.fromNode found.node).mapError fun fault : Fault =>
        fault.placed found.mark
      Except.ok (name, result)) = .ok results) :
    (others.mapM fun (found : Member Node) => do
      let name ← found.name
      let result ← (value.fromNode found.node).mapError fun fault : Fault =>
        fault.placed found.mark
      Except.ok (name, result)) = .ok results := by
  induction members generalizing others results with
  | nil =>
      cases held
      exact loads
  | cons found members ih =>
      obtain ⟨label, _, _, node, mark⟩ := found
      rw [List.mapM_cons] at loads
      obtain ⟨first, read, loads⟩ := bind_eq_ok_iff.mp loads
      obtain ⟨later, readLater, ends⟩ := bind_eq_ok_iff.mp loads
      cases ends
      obtain ⟨name, rfl, read⟩ := bind_eq_ok_iff.mp read
      obtain ⟨result, reached, ends⟩ := bind_eq_ok_iff.mp read
      cases ends
      obtain ⟨copy, others, spelled, behind, rfl⟩ := List.forall₂_cons_right_iff.mp held
      obtain ⟨named, holds⟩ := Json.Member.spelled_eq_ok_iff.mp spelled
      rw [List.mapM_cons]
      refine bind_eq_ok_iff.mpr ⟨_, ?_, bind_eq_ok_iff.mpr ⟨later, ih behind readLater, rfl⟩⟩
      exact bind_eq_ok_iff.mpr ⟨name, named, bind_eq_ok_iff.mpr ⟨result, mapError_eq_ok_iff.mpr
        (transfers holds (mapError_eq_ok_iff.mp reached)), rfl⟩⟩

theorem transfers_entries {value : Layout α} (transfers : value.Transfers) :
    (Layout.entries value).Transfers := by
  intro node other results holds loads
  cases node with
  | null | bool | list | broken => cases loads
  | number read | text read => cases read <;> cases loads
  | object start members ending =>
      obtain ⟨pairs, read, ends⟩ := bind_eq_ok_iff.mp loads
      cases ending with
      | broken parts excess => cases ends
      | closed stop =>
          cases ends
          cases Node.spells_of_json holds with
          | object _ _ held =>
              rw [fromNode_entries]
              exact map_eq_ok_iff.mpr ⟨pairs, transfers_pairs transfers held read, rfl⟩
  | deep => exact absurd loads (fromNode_ne_of_unreadable _ (.deep _ _) _)

theorem transfers_whole (choice : String) (interpret : Content → Option α) :
    (Layout.whole choice interpret).Transfers := by
  intro node other value holds loads
  obtain ⟨tree, read, interpreted⟩ := bind_eq_ok_iff.mp loads
  rw [Node.tree_of_json read] at holds
  exact bind_eq_ok_iff.mpr ⟨tree, holds, interpreted⟩

end Layout

/-! ## Records -/

namespace Fields

theorem transfer_put {σ ρ : Type} {fields : Fields σ ρ} (transfer : fields.Transfer)
    {name : String} {member other : Member Node}
    (holds : other.node.json = .ok member.node.tree) {found next : σ}
    (puts : fields.put name member found = .ok next) :
    fields.put name other found = .ok next := by
  cases fields with
  | done =>
      obtain ⟨skipped, -, ends⟩ := bind_eq_ok_iff.mp puts
      exact bind_eq_ok_iff.mpr ⟨(), Node.skip_of_json holds, ends⟩
  | field label absence value rest =>
      obtain ⟨slot, slots⟩ := found
      rw [put] at puts ⊢
      split at puts
      · next same =>
        obtain ⟨result, read, ends⟩ := bind_eq_ok_iff.mp puts
        rw [if_pos same]
        exact bind_eq_ok_iff.mpr ⟨result,
          mapError_eq_ok_iff.mpr (transfer.1 holds (mapError_eq_ok_iff.mp read)), ends⟩
      · next apart =>
        obtain ⟨others, behind, ends⟩ := bind_eq_ok_iff.mp puts
        rw [if_neg apart]
        exact bind_eq_ok_iff.mpr ⟨others, transfer_put transfer.2 holds behind, ends⟩

theorem transfer_members {σ ρ : Type} {fields : Fields σ ρ} (transfer : fields.Transfer)
    {members others : List (Member Node)}
    (held : List.Forall₂ (fun member pair => member.spelled = .ok pair) others
      (Node.memberTrees members)) {start found : σ}
    (taken : members.foldlM fields.take start = .ok found) :
    others.foldlM fields.take start = .ok found := by
  induction members generalizing others start with
  | nil =>
      cases held
      exact taken
  | cons member members ih =>
      obtain ⟨label, nameStop, nameMark, node, mark⟩ := member
      rw [List.foldlM_cons] at taken
      obtain ⟨next, first, later⟩ := bind_eq_ok_iff.mp taken
      obtain ⟨name, rfl, first⟩ := bind_eq_ok_iff.mp first
      obtain ⟨copy, others, spelled, behind, rfl⟩ := List.forall₂_cons_right_iff.mp held
      obtain ⟨named, holds⟩ := Json.Member.spelled_eq_ok_iff.mp spelled
      rw [List.foldlM_cons]
      refine bind_eq_ok_iff.mpr ⟨next, bind_eq_ok_iff.mpr ⟨name, named, ?_⟩, ih behind later⟩
      split at first
      · cases first
      · next new =>
        rw [if_neg new]
        exact transfer_put transfer holds first

/-- The items of a record that ends in a broken part do not load. -/
theorem fromItems_broken_ne {σ ρ : Type} (fields : Fields σ ρ) (extent : String) (place : Nat)
    (items : List (Item Node)) (parts : Json.Break) (excess : Fault) (values : ρ) :
    fields.fromItems extent place items (.broken parts excess) ≠ .ok values := by
  intro loads
  cases fields with
  | done => cases items <;> cases loads
  | field name absence value rest =>
      cases items with
      | nil => cases loads
      | cons item items =>
          obtain ⟨first, -, loads⟩ := bind_eq_ok_iff.mp loads
          obtain ⟨later, readLater, -⟩ := bind_eq_ok_iff.mp loads
          exact rest.fromItems_broken_ne extent (place + 1) items parts excess later readLater

theorem transfer_items {σ ρ : Type} {fields : Fields σ ρ} (transfer : fields.Transfer)
    {extent : String} {place stop : Nat} (there : Nat) {items others : List (Item Node)}
    (held : List.Forall₂ (fun item tree => item.node.json = .ok tree) others
      (Node.itemTrees items)) {values : ρ}
    (loads : fields.fromItems extent place items (.closed stop) = .ok values) :
    fields.fromItems extent place others (.closed there) = .ok values := by
  cases fields with
  | done =>
      cases items with
      | nil =>
          cases held
          exact loads
      | cons => cases loads
  | field name absence value rest =>
      cases items with
      | nil =>
          cases held
          unfold fromItems at loads ⊢
          cases missing : absence.value? false with
          | none =>
              rw [missing] at loads
              cases loads
          | some first =>
              rw [missing] at loads
              obtain ⟨later, readLater, ends⟩ := bind_eq_ok_iff.mp loads
              exact bind_eq_ok_iff.mpr
                ⟨later, transfer_items transfer.2 there .nil readLater, ends⟩
      | cons item items =>
          obtain ⟨copy, others, holds, behind, rfl⟩ := List.forall₂_cons_right_iff.mp held
          obtain ⟨first, read, loads⟩ := bind_eq_ok_iff.mp loads
          obtain ⟨later, readLater, ends⟩ := bind_eq_ok_iff.mp loads
          refine bind_eq_ok_iff.mpr ⟨first, ?_, bind_eq_ok_iff.mpr
            ⟨later, transfer_items transfer.2 there behind readLater, ends⟩⟩
          exact mapError_eq_ok_iff.mpr (transfer.1 holds (mapError_eq_ok_iff.mp read))

end Fields

theorem Layout.transfers_record {σ ρ α : Type} (name : String) {fields : Fields σ ρ}
    (build : ρ → α) (transfer : fields.Transfer) : (Layout.record name fields build).Transfers := by
  intro node other value holds loads
  cases node with
  | null | bool | broken => cases loads
  | number read | text read => cases read <;> cases loads
  | list start items ending =>
      obtain ⟨values, read, rfl⟩ := map_eq_ok_iff.mp loads
      cases ending with
      | broken parts excess => exact absurd read (fields.fromItems_broken_ne _ _ _ _ _ _)
      | closed stop =>
          cases Node.spells_of_json holds with
          | list _ _ held =>
              exact map_eq_ok_iff.mpr ⟨values, fields.transfer_items transfer _ held read, rfl⟩
  | object start members ending =>
      obtain ⟨found, taken, finished⟩ := bind_eq_ok_iff.mp loads
      cases ending with
      | broken parts excess => cases finished
      | closed stop =>
          cases Node.spells_of_json holds with
          | object _ _ held =>
              refine bind_eq_ok_iff.mpr ⟨found, fields.transfer_members transfer held taken, ?_⟩
              cases outcome : fields.finish true found with
              | error missing =>
                  simp only [outcome] at finished
                  cases finished
              | ok values =>
                  simp only [outcome] at finished ⊢
                  exact finished
  | deep => exact absurd loads (fromNode_ne_of_unreadable _ (.deep _ _) _)

mutual
theorem Layout.transfers {α : Type} (layout : Layout α) : layout.Transfers := by
  cases layout with
  | text => exact Layout.transfers_text
  | word words => exact Layout.transfers_word words
  | optional value => exact Layout.transfers_optional value.transfers
  | list item => exact Layout.transfers_list item.transfers
  | entries value => exact Layout.transfers_entries value.transfers
  | whole choice interpret => exact Layout.transfers_whole choice interpret
  | record name fields build => exact Layout.transfers_record name build fields.transfer

theorem Fields.transfer {σ ρ : Type} (fields : Fields σ ρ) : fields.Transfer := by
  cases fields with
  | done => trivial
  | field name absence value rest => exact ⟨value.transfers, rest.transfer⟩
end

/-! ## Texts -/

/-- A value loads from a document when it loads from the root and nothing stands behind it. -/
theorem Layout.fromDocument_eq_ok_iff {α : Type} {layout : Layout α} {document : Json.Document}
    {value : α} : layout.fromDocument document = .ok value ↔
      layout.fromNode document.root = .ok value ∧ document.trailing = none := by
  unfold fromDocument
  cases document.trailing <;> cases layout.fromNode document.root <;> simp

/-- What loads from a text is read from the tree of the text, however deep the tree is. -/
theorem Layout.reads_of_fromJsonText {α : Type} {layout : Layout α} {text : String} {value : α}
    (loads : layout.fromJsonText text = .ok value) :
    layout.Reads (Json.treeOf text) value := by
  intro document holds
  have read := (fromDocument_eq_ok_iff.mp (mapError_eq_ok_iff.mp loads)).1
  exact fromDocument_eq_ok_iff.mpr ⟨layout.transfers holds.1 read, holds.2⟩

end ApiComponents
