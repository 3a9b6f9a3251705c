import ApiComponents.Proofs.Entries
import ApiComponents.Proofs.HeldTrees

/-! # What layouts make of trees

What a layout makes of a document that holds a tree depends on the tree alone: it is what the same
layout makes of the content of the tree. Places matter for complaints only.
-/

namespace ApiComponents

open Json (Fault Node Item Member Ending)

/-- Every document that holds the tree loads, and loads as the value. -/
def Layout.Reads {α : Type} (layout : Layout α) (tree : Json) (value : α) : Prop :=
  ∀ document : Json.Document, document.Holds tree → layout.fromDocument document = .ok value

/-! ## Outcomes without their faults -/

section Outcomes

variable {α β ε η : Type}

theorem toOption_bind (outcome : Except ε α) (next : α → Except ε β) :
    (outcome >>= next).toOption = outcome.toOption.bind fun value => (next value).toOption := by
  cases outcome <;> rfl

@[simp] theorem toOption_map (f : α → β) (outcome : Except ε α) :
    (outcome.map f).toOption = outcome.toOption.map f := by
  cases outcome <;> rfl

@[simp] theorem toOption_mapError (f : ε → η) (outcome : Except ε α) :
    (outcome.mapError f).toOption = outcome.toOption := by
  cases outcome <;> rfl

theorem toOption_eq_some_iff {outcome : Except ε α} {value : α} :
    outcome.toOption = some value ↔ outcome = .ok value := by
  cases outcome <;> simp [Except.toOption]

/-- Two traversals whose outcomes agree item by item agree as a whole. -/
theorem toOption_mapM {γ : Type} {f : α → Except ε β} {g : γ → Option β} {items : List α}
    {others : List γ} (agree : List.Forall₂ (fun item other => (f item).toOption = g other)
      items others) : (items.mapM f).toOption = others.mapM g := by
  induction agree with
  | nil => rfl
  | @cons item other items others head _ ih =>
      rw [List.mapM_cons, List.mapM_cons, toOption_bind, head]
      cases g other with
      | none => rfl
      | some result =>
          simp only [Option.bind_some, toOption_bind, ih]
          rfl

end Outcomes

/-! ## Layouts, one by one -/

namespace Content

theorem ofItems_eq_map (items : List Json) : ofItems items = items.map ofJson := by
  induction items with
  | nil => rfl
  | cons item items ih => rw [ofItems, ih, List.map_cons]

theorem ofMembers_eq_map (members : List (String × Json)) :
    ofMembers members = members.map fun member => (text member.1, ofJson member.2) := by
  induction members with
  | nil => rfl
  | cons member members ih => rw [ofMembers, ih, List.map_cons]

end Content

/-! ### Nodes and contents that fit -/

/-- Put a member into the slot of its field, unless something was found for the field before. -/
def Fields.take {σ ρ : Type} (fields : Fields σ ρ) (found : σ) (member : Member Node) :
    Except Fault σ := do
  let name ← member.name
  if fields.isFound name found then
    .error (.located (.complaint (.duplicateField name)) member.nameMark)
  else fields.put name member found

namespace Layout

variable {α : Type} (start stop : Nat)

theorem fromNode_word (words : List (String × α)) (word : String) :
    (Layout.word words).fromNode (.text (.ok word) stop) = Json.wordValue words word stop := rfl

theorem fromNode_word_object (words : List (String × α)) (members : List (Member Node)) :
    (Layout.word words).fromNode (.object start members (.closed stop)) =
      Json.wordObject words members (.closed stop) := rfl

theorem fromNode_list (item : Layout α) (items : List (Item Node)) :
    (Layout.list item).fromNode (.list start items (.closed stop)) =
      items.mapM fun found => (item.fromNode found.node).mapError (·.placed found.mark) :=
  bind_pure _

theorem fromNode_entries (value : Layout α) (members : List (Member Node)) :
    (Layout.entries value).fromNode (.object start members (.closed stop)) =
      (members.mapM fun (found : Member Node) => do
        let name ← found.name
        let result ← (value.fromNode found.node).mapError fun fault : Fault =>
          fault.placed found.mark
        Except.ok (name, result)).map Entries.ofPairs := rfl

section Records

variable {σ ρ : Type} (name : String) (fields : Fields σ ρ) (build : ρ → α)

theorem fromNode_record_list (items : List (Item Node)) :
    (Layout.record name fields build).fromNode (.list start items (.closed stop)) =
      (fields.fromItems (recordExtent name fields.names.length) 0 items (.closed stop)).map build :=
  rfl

theorem toOption_fromNode_record (members : List (Member Node)) :
    ((Layout.record name fields build).fromNode
        (.object start members (.closed stop))).toOption =
      (members.foldlM fields.take fields.noneFound).toOption.bind fun found =>
        (fields.finish true found).toOption.map build := by
  refine (toOption_bind _ _).trans (Option.bind_congr fun found _ => ?_)
  cases fields.finish true found <;> rfl

end Records

theorem fromContent?_list (item : Layout α) (contents : List Content) :
    (Layout.list item).fromContent? (.list contents) = contents.mapM item.fromContent? := rfl

theorem fromContent?_entries (value : Layout α) (members : List (String × Json)) :
    (Layout.entries value).fromContent? (.ofJson (.object members)) =
      (members.mapM fun member =>
        (value.fromContent? (.ofJson member.2)).map fun result => (member.1, result)).map
          Entries.ofPairs := by
  refine congrArg (Option.map Entries.ofPairs) ?_
  rw [Content.ofMembers_eq_map, List.mapM_map]
  rfl

end Layout

/-! ### Agreement -/

/-- Whatever tree a node holds, the layout makes of the node what it makes of the content of the
    tree. -/
def Layout.Agrees {α : Type} (layout : Layout α) : Prop :=
  ∀ {node : Node} {tree : Json}, node.json = .ok tree →
    (layout.fromNode node).toOption = layout.fromContent? (.ofJson tree)

/-- All fields have layouts that agree. -/
def Fields.Agree {σ ρ : Type} : Fields σ ρ → Prop
  | .done => True
  | .field _ _ value rest => value.Agrees ∧ rest.Agree

namespace Layout

variable {α : Type}

theorem agrees_text : Layout.text.Agrees := by
  intro node tree holds
  cases Node.spells_of_json holds <;> rfl

theorem lookup_words (words : List (String × α)) (word : String) :
    ((Content.wordIndex? (words.map Prod.fst) word).bind (words[·]?)).map Prod.snd =
      Entries.lookup word words := by
  induction words with
  | nil => rfl
  | cons pair words ih =>
      obtain ⟨other, value⟩ := pair
      by_cases same : word = other
      · simp [Content.wordIndex?, List.findIdx?_cons, Entries.lookup, same]
      · have apart : ¬ other = word := fun h => same h.symm
        rw [Entries.lookup, if_neg same, ← ih]
        simp [Content.wordIndex?, List.findIdx?_cons, apart, Option.bind_map, Function.comp_def]

theorem toOption_wordValue (words : List (String × α)) (word : String) (stop : Nat) :
    (Json.wordValue words word stop).toOption = Entries.lookup word words := by
  unfold Json.wordValue
  cases Entries.lookup word words <;> rfl

/-- A word that is written as an object has exactly one member, with the value null. -/
theorem toOption_wordObject (words : List (String × α)) {members : List (Member Node)}
    {pairs : List (String × Json)} (stop : Nat)
    (held : List.Forall₂ (fun member pair => member.spelled = .ok pair) members pairs) :
    (Json.wordObject words members (.closed stop)).toOption =
      match pairs with
      | [(name, .null)] => Entries.lookup name words
      | _ => none := by
  cases held with
  | nil => rfl
  | @cons member pair members pairs head tail =>
      obtain ⟨spelling, nameStop, nameMark, node, mark⟩ := member
      obtain ⟨name, tree⟩ := pair
      obtain ⟨named, holds⟩ := Json.Member.spelled_eq_ok_iff.mp head
      subst named
      have value := toOption_wordValue words name nameStop
      unfold Json.wordObject
      cases outcome : Json.wordValue words name nameStop with
      | error fault =>
          rw [outcome] at value
          cases tree <;> cases pairs <;> simp [← value, outcome, Except.toOption]
      | ok result =>
          rw [outcome] at value
          cases Node.spells_of_json holds with
          | null =>
              cases tail with
              | nil => simpa [outcome] using value
              | cons => simp [outcome, Except.toOption]
          | bool | number | text | list | object =>
              simp [outcome, Except.toOption]

theorem agrees_word (words : List (String × α)) : (Layout.word words).Agrees := by
  intro node tree holds
  cases Node.spells_of_json holds with
  | text value stop =>
      rw [fromNode_word, toOption_wordValue]
      exact (lookup_words words value).symm
  | @object start stop members pairs held =>
      rw [fromNode_word_object, toOption_wordObject words stop held]
      match pairs with
      | [] => rfl
      | (name, .null) :: [] => exact (lookup_words words name).symm
      | (name, .bool _) :: [] | (name, .number _) :: [] | (name, .text _) :: []
      | (name, .list _) :: [] | (name, .object _) :: [] => rfl
      | (name, .null) :: _ :: _ | (name, .bool _) :: _ :: _ | (name, .number _) :: _ :: _
      | (name, .text _) :: _ :: _ | (name, .list _) :: _ :: _
      | (name, .object _) :: _ :: _ => rfl
  | null | bool | number | list => rfl

theorem agrees_optional {value : Layout α} (agrees : value.Agrees) :
    (Layout.optional value).Agrees := by
  intro node tree holds
  have inner := congrArg (Option.map some) (agrees holds)
  rw [← toOption_map] at inner
  cases Node.spells_of_json holds with
  | null => rfl
  | bool | number | text | list | object => exact inner

theorem agrees_list {item : Layout α} (agrees : item.Agrees) : (Layout.list item).Agrees := by
  intro node tree holds
  cases Node.spells_of_json holds with
  | null | bool | number | text | object => rfl
  | @list start stop items values held =>
      have agree : List.Forall₂ (fun (found : Item Node) tree =>
          ((item.fromNode found.node).mapError (·.placed found.mark)).toOption =
            item.fromContent? (.ofJson tree)) items values :=
        held.imp fun _ _ holds => (toOption_mapError _ _).trans (agrees holds)
      rw [fromNode_list, toOption_mapM agree, Content.ofJson, Content.ofItems_eq_map,
        fromContent?_list, List.mapM_map]
      rfl

theorem agrees_entries {value : Layout α} (agrees : value.Agrees) :
    (Layout.entries value).Agrees := by
  intro node tree holds
  cases Node.spells_of_json holds with
  | null | bool | number | text | list => rfl
  | @object start stop members pairs held =>
      have agree : List.Forall₂ (fun (found : Member Node) (pair : String × Json) =>
          (do
            let name ← found.name
            let result ← (value.fromNode found.node).mapError fun fault : Fault =>
              fault.placed found.mark
            Except.ok (name, result)).toOption =
              (value.fromContent? (.ofJson pair.2)).map fun result => (pair.1, result))
          members pairs := by
        refine held.imp fun found pair spells => ?_
        obtain ⟨name, holds⟩ := Json.Member.spelled_eq_ok_iff.mp spells
        rw [name, ← agrees holds]
        cases value.fromNode found.node <;> rfl
      rw [fromNode_entries, toOption_map, toOption_mapM agree, fromContent?_entries]

theorem agrees_whole (choice : String) (interpret : Content → Option α) :
    (Layout.whole choice interpret).Agrees := by
  intro node tree holds
  refine (toOption_bind node.json _).trans ?_
  rw [holds, fromContent?]
  cases read : interpret (.ofJson tree) <;> simp [read, Except.toOption]

end Layout

/-! ## Records -/

/-- The value of a slot, if it can be read; an empty slot has none. -/
def Layout.slotValue? {α : Type} (layout : Layout α) : Option Content → Option (Option α)
  | none => some none
  | some content => (layout.fromContent? content).map some

/-- The values that are found in the slots of the fields, if all of them can be read. -/
def Fields.found? {σ ρ : Type} : Fields σ ρ → List (Option Content) → Option σ
  | .done, _ => some ()
  | .field _ _ value rest, slots =>
      match value.slotValue? slots.head?.join, rest.found? slots.tail with
      | some slot, some others => some (slot, others)
      | _, _ => none

namespace Body

/-- A part goes into the first slot if it has its name, and behind it otherwise. -/
theorem place?_cons {β : Type} (other name : String) (names : List String) (slot : Option β)
    (slots : List (Option β)) (part : β) :
    place? (other :: names) (slot :: slots) (.text name, part) =
      if name = other then
        match slot with
        | none => some (some part :: slots)
        | some _ => none
      else (place? names slots (.text name, part)).map (slot :: ·) := by
  by_cases same : name = other
  · subst same
    cases slot <;>
      simp [place?, fieldOf?, Content.wordIndex?, List.findIdx?_cons]
  · have apart : ¬ other = name := fun h => same h.symm
    simp only [place?, fieldOf?, Content.wordIndex?, List.findIdx?_cons, if_neg same]
    cases known : List.findIdx? (· == name) names with
    | none => simp [apart]
    | some place =>
        simp only [apart, beq_iff_eq, if_false, Option.map_some, List.getElem?_cons_succ,
          List.set_cons_succ]
        cases slots[place]? with
        | none => rfl
        | some inner => cases inner <;> rfl

end Body

namespace Fields

section

variable {σ ρ α : Type} (isKeyed : Bool) (name : String) (absence : Absence α)
  (value : Layout α) (rest : Fields σ ρ)

/-- The slots of a record are read one after the other, and empty ones filled in. -/
theorem fromSlots?_field (slots : List (Option Content)) :
    (Fields.field name absence value rest).fromSlots? isKeyed slots =
      (value.slotValue? slots.head?.join).bind fun first =>
        (first.or (absence.value? isKeyed)).bind fun result =>
          (rest.fromSlots? isKeyed slots.tail).map (result, ·) := by
  rw [fromSlots?]
  cases slots.head?.join with
  | none =>
      cases absence.value? isKeyed <;> cases rest.fromSlots? isKeyed slots.tail <;>
        simp [Layout.slotValue?]
  | some content =>
      cases read : value.fromContent? content <;>
        cases rest.fromSlots? isKeyed slots.tail <;> simp [Layout.slotValue?, read]

/-- The values in the slots are found one after the other. -/
theorem found?_field (slots : List (Option Content)) :
    (Fields.field name absence value rest).found? slots =
      (value.slotValue? slots.head?.join).bind fun first =>
        (rest.found? slots.tail).map (first, ·) := by
  rw [found?]
  cases value.slotValue? slots.head?.join <;> cases rest.found? slots.tail <;> rfl

theorem found?_cons (slot : Option Content) (slots : List (Option Content)) :
    (Fields.field name absence value rest).found? (slot :: slots) =
      (value.slotValue? slot).bind fun first => (rest.found? slots).map (first, ·) :=
  found?_field name absence value rest (slot :: slots)

/-- What is missing from a record is filled in, field by field. -/
theorem toOption_finish_field (first : Option α) (others : σ) :
    ((Fields.field name absence value rest).finish isKeyed (first, others)).toOption =
      (first.or (absence.value? isKeyed)).bind fun result =>
        (rest.finish isKeyed others).toOption.map (result, ·) := by
  rw [finish]
  cases first.or (absence.value? isKeyed) with
  | none => rfl
  | some result => cases rest.finish isKeyed others <;> rfl

end

/-- Reading the slots is finding their values and filling in what is missing. -/
theorem fromSlots?_eq {σ ρ : Type} (isKeyed : Bool) (fields : Fields σ ρ)
    (slots : List (Option Content)) :
    fields.fromSlots? isKeyed slots =
      (fields.found? slots).bind fun found => (fields.finish isKeyed found).toOption := by
  cases fields with
  | done => rfl
  | field name absence value rest =>
      rw [fromSlots?_field, found?_field, rest.fromSlots?_eq isKeyed slots.tail, Option.bind_assoc]
      refine Option.bind_congr fun first _ => ?_
      cases rest.found? slots.tail with
      | none => exact Option.bind_fun_none _
      | some found => exact (toOption_finish_field isKeyed name absence value rest first found).symm

/-- A value that cannot be read spoils the record whatever else is put into its slots. -/
theorem found?_set_none {σ ρ : Type} (fields : Fields σ ρ) {slots : List (Option Content)}
    (spoiled : fields.found? slots = none) {place : Nat} (empty : slots[place]? = some none)
    (content : Content) : fields.found? (slots.set place (some content)) = none := by
  cases fields with
  | done => cases spoiled
  | field name absence value rest =>
      cases slots with
      | nil => cases empty
      | cons slot slots =>
          rw [found?_cons, Option.bind_eq_none_iff] at spoiled
          cases place with
          | zero =>
              cases empty
              -- An empty slot can be read, so what spoils the record is behind it.
              have others := Option.map_eq_none_iff.mp (spoiled none rfl)
              rw [List.set_cons_zero, found?_cons, others]
              exact Option.bind_fun_none _
          | succ place =>
              rw [List.set_cons_succ, found?_cons, Option.bind_eq_none_iff]
              intro first here
              have others := Option.map_eq_none_iff.mp (spoiled first here)
              exact Option.map_eq_none_iff.mpr (rest.found?_set_none others empty content)

/-- Putting a member into the slot of its field is the same with values and with contents. -/
theorem toOption_put {σ ρ : Type} (fields : Fields σ ρ) (agree : fields.Agree)
    {member : Member Node} (name : String) {tree : Json} (holds : member.node.json = .ok tree)
    {slots : List (Option Content)} (length : slots.length = fields.names.length) {found : σ}
    (read : fields.found? slots = some found) (fault : Fault) :
    (if fields.isFound name found then .error fault else fields.put name member found).toOption =
      (Body.place? fields.names slots (.text name, .ofJson tree)).bind fields.found? := by
  cases fields with
  | done =>
      simp only [isFound, put, Node.skip_of_json holds]
      rfl
  | field other absence value rest =>
      cases slots with
      | nil => cases length
      | cons slot slots =>
          simp only [found?_cons, Option.bind_eq_some_iff, Option.map_eq_some_iff] at read
          obtain ⟨first, here, others, there, rfl⟩ := read
          rw [names, Body.place?_cons]
          by_cases same : name = other
          · simp only [isFound, put, if_pos same]
            cases slot with
            | none =>
                cases here
                simp only [Option.isSome_none, Bool.false_eq_true, if_false, toOption_bind,
                  toOption_mapError, agree.1 holds, Option.bind_some, found?_cons,
                  Layout.slotValue?, there, Option.bind_map]
                rfl
            | some content =>
                obtain ⟨known, -, rfl⟩ := Option.map_eq_some_iff.mp here
                rfl
          · have later := rest.toOption_put agree.2 name holds (Nat.succ.inj length) there fault
            simp only [isFound, put, if_neg same, Option.bind_map, Function.comp_def, found?_cons,
              here, Option.bind_some]
            have moved := congrArg (Option.map (first, ·)) later
            rw [Option.map_bind, ← toOption_map] at moved
            refine Eq.trans ?_ moved
            cases rest.isFound name others with
            | true => rfl
            | false => cases rest.put name member others <;> rfl

theorem place?_cases {names : List String} {slots placed : List (Option Content)}
    {entry : Content × Content} (success : Body.place? names slots entry = some placed) :
    placed = slots ∨
      ∃ place, slots[place]? = some none ∧ placed = slots.set place (some entry.2) := by
  unfold Body.place? at success
  split at success
  · cases success
  · cases success
    exact .inl rfl
  · next place _ =>
    split at success
    · next empty =>
      cases success
      exact .inr ⟨place, empty, rfl⟩
    · cases success

theorem length_place? {names : List String} {slots placed : List (Option Content)}
    {entry : Content × Content} (success : Body.place? names slots entry = some placed) :
    placed.length = slots.length := by
  rcases place?_cases success with rfl | ⟨place, -, rfl⟩
  · rfl
  · exact List.length_set

/-- Slots that cannot be read stay so, whatever is put beside them. -/
theorem found?_foldlM_none {σ ρ : Type} (fields : Fields σ ρ) {slots : List (Option Content)}
    (spoiled : fields.found? slots = none) (entries : List (Content × Content)) :
    (entries.foldlM (Body.place? fields.names) slots).bind fields.found? = none := by
  induction entries generalizing slots with
  | nil => exact spoiled
  | cons entry entries ih =>
      rw [List.foldlM_cons]
      cases success : Body.place? fields.names slots entry with
      | none => rfl
      | some placed =>
          refine ih ?_
          rcases place?_cases success with rfl | ⟨place, empty, rfl⟩
          · exact spoiled
          · exact fields.found?_set_none spoiled empty entry.2

/-- The members of an object are put into slots together or fail together. -/
theorem toOption_foldlM {σ ρ : Type} (fields : Fields σ ρ) (agree : fields.Agree)
    {members : List (Member Node)} {pairs : List (String × Json)}
    (held : List.Forall₂ (fun member pair => member.spelled = .ok pair) members pairs)
    {slots : List (Option Content)} (length : slots.length = fields.names.length) {found : σ}
    (read : fields.found? slots = some found) :
    (members.foldlM fields.take found).toOption =
      ((Content.ofMembers pairs).foldlM (Body.place? fields.names) slots).bind fields.found? := by
  induction held generalizing slots found with
  | nil => exact read.symm
  | @cons member pair members pairs head tail ih =>
      obtain ⟨name, tree⟩ := pair
      obtain ⟨named, holds⟩ := Json.Member.spelled_eq_ok_iff.mp head
      have step := fields.toOption_put agree name holds length read
        (.located (.complaint (.duplicateField name)) member.nameMark)
      rw [List.foldlM_cons, toOption_bind, take, named, Content.ofMembers, List.foldlM_cons]
      simp only [ok_bind, step]
      cases success : Body.place? fields.names slots (.text name, .ofJson tree) with
      | none => rfl
      | some placed =>
          simp only [Option.bind]
          cases rest : fields.found? placed with
          | none => exact (fields.found?_foldlM_none rest _).symm
          | some next => exact ih ((length_place? success).trans length) rest

/-- Empty slots at the end may as well be missing. -/
theorem fromSlots?_append_none {σ ρ : Type} (isKeyed : Bool) (fields : Fields σ ρ)
    (slots : List (Option Content)) (count : Nat) :
    fields.fromSlots? isKeyed (slots ++ List.replicate count none) =
      fields.fromSlots? isKeyed slots := by
  cases fields with
  | done => rfl
  | field name absence value rest =>
      have later : ∀ slots count, rest.fromSlots? isKeyed (slots ++ List.replicate count none) =
          rest.fromSlots? isKeyed slots := rest.fromSlots?_append_none isKeyed
      rw [fromSlots?_field, fromSlots?_field]
      cases slots with
      | nil =>
          cases count with
          | zero => rfl
          | succ count =>
              have empty : rest.fromSlots? isKeyed (List.replicate count none) =
                  rest.fromSlots? isKeyed [] := later [] count
              simp only [List.nil_append, List.replicate_succ, List.head?_cons, Option.join_some,
                List.tail_cons, List.head?_nil, Option.join_none, List.tail_nil, empty]
      | cons slot slots =>
          simp only [List.cons_append, List.head?_cons, List.tail_cons, later]

theorem toOption_fromItems {σ ρ : Type} (fields : Fields σ ρ) (agree : fields.Agree)
    (extent : String) (place stop : Nat) {items : List (Item Node)} {trees : List Json}
    (held : List.Forall₂ (fun item tree => item.node.json = .ok tree) items trees) :
    (fields.fromItems extent place items (.closed stop)).toOption =
      if trees.length ≤ fields.names.length then
        fields.fromSlots? false (trees.map fun tree => some (.ofJson tree))
      else none := by
  cases fields with
  | done => cases held <;> rfl
  | field name absence value rest =>
      cases held with
      | nil =>
          have later := rest.toOption_fromItems agree.2 extent (place + 1) stop .nil
          simp only [List.length_nil, Nat.zero_le, if_true, List.map_nil] at later
          unfold fromItems fromSlots?
          cases absence.value? false with
          | none => rfl
          | some first =>
              simp only [List.length_nil, Nat.zero_le, if_true, List.map_nil, List.head?_nil,
                Option.join_none, List.tail_nil, toOption_bind, later]
              cases rest.fromSlots? false [] <;> rfl
      | @cons item tree items trees head tail =>
          have later := rest.toOption_fromItems agree.2 extent (place + 1) stop tail
          unfold fromItems fromSlots?
          simp only [toOption_bind, toOption_mapError, agree.1 head, later, names,
            List.length_cons, Nat.add_le_add_iff_right, List.map_cons, List.head?_cons,
            Option.join_some, List.tail_cons]
          cases value.fromContent? (.ofJson tree) with
          | none => split <;> rfl
          | some first =>
              split
              · cases rest.fromSlots? false (trees.map fun tree => some (.ofJson tree)) <;> rfl
              · rfl

theorem found?_empty {σ ρ : Type} (fields : Fields σ ρ) :
    fields.found? (fields.names.map fun _ => none) = some fields.noneFound := by
  cases fields with
  | done => rfl
  | field name absence value rest =>
      rw [names, List.map_cons, found?_cons, rest.found?_empty]
      rfl

end Fields

namespace Layout

theorem fromContent?_record {σ ρ α : Type} (name : String) (fields : Fields σ ρ) (build : ρ → α)
    (content : Content) :
    (Layout.record name fields build).fromContent? content =
      ((Body.of? content).bind fields.fromBody?).map build := by
  unfold fromContent?
  cases Body.of? content with
  | none => rfl
  | some body => cases slots : body.slots? fields.names <;> simp [Fields.fromBody?, slots]

theorem agrees_record {σ ρ α : Type} (name : String) {fields : Fields σ ρ}
    (agree : fields.Agree) (build : ρ → α) : (Layout.record name fields build).Agrees := by
  intro node tree holds
  rw [fromContent?_record]
  cases Node.spells_of_json holds with
  | null | bool | number | text => rfl
  | @list start stop items trees held =>
      rw [fromNode_record_list, toOption_map, fields.toOption_fromItems agree _ 0 stop held]
      simp only [Content.ofJson, Body.of?, Option.bind_some, Fields.fromBody?, Body.slots?,
        Body.isKeyed, Content.ofItems_eq_map, List.length_map, List.map_map, Function.comp_def]
      split
      · rw [Option.bind_some, fields.fromSlots?_append_none]
      · rfl
  | @object start stop members pairs held =>
      have placed := fields.toOption_foldlM agree held (List.length_map _) fields.found?_empty
      rw [toOption_fromNode_record, placed]
      simp only [Content.ofJson, Body.of?, Option.bind_some, Fields.fromBody?, Body.slots?,
        Body.isKeyed]
      cases (Content.ofMembers pairs).foldlM (Body.place? fields.names)
          (fields.names.map fun _ => none) with
      | none => rfl
      | some slots =>
          simp only [Option.bind_some, fields.fromSlots?_eq]
          cases fields.found? slots with
          | none => rfl
          | some found => simp only [Option.bind_some]

end Layout

mutual
/-- Every layout reads a document as it reads the content of the tree that the document holds. -/
theorem Layout.agrees {α : Type} (layout : Layout α) : layout.Agrees := by
  cases layout with
  | text => exact Layout.agrees_text
  | word words => exact Layout.agrees_word words
  | optional value => exact Layout.agrees_optional value.agrees
  | list item => exact Layout.agrees_list item.agrees
  | entries value => exact Layout.agrees_entries value.agrees
  | whole choice interpret => exact Layout.agrees_whole choice interpret
  | record name fields build => exact Layout.agrees_record name fields.agree build

theorem Fields.agree {σ ρ : Type} (fields : Fields σ ρ) : fields.Agree := by
  cases fields with
  | done => trivial
  | field name absence value rest => exact ⟨value.agrees, rest.agree⟩
end

/-! ## Documents -/

theorem Layout.toOption_fromDocument {α : Type} (layout : Layout α) {document : Json.Document}
    {tree : Json} (holds : document.Holds tree) :
    (layout.fromDocument document).toOption = layout.fromContent? (.ofJson tree) := by
  rw [← layout.agrees holds.1]
  unfold fromDocument
  rw [holds.2]
  cases layout.fromNode document.root <;> rfl

/-- A tree is read as a value when the layout makes the value of the content of the tree. -/
theorem Layout.reads_iff {α : Type} {layout : Layout α} {tree : Json} {value : α} :
    layout.Reads tree value ↔ layout.fromContent? (.ofJson tree) = some value := by
  constructor
  · intro reads
    obtain ⟨document, holds⟩ := Json.exists_document tree
    rw [← layout.toOption_fromDocument holds, reads document holds]
    rfl
  · intro read document holds
    rw [← layout.toOption_fromDocument holds] at read
    exact toOption_eq_some_iff.mp read

theorem Layout.Reads.unique {α : Type} {layout : Layout α} {tree : Json} {value other : α}
    (reads : layout.Reads tree value) (readsToo : layout.Reads tree other) : value = other := by
  rw [reads_iff] at reads readsToo
  exact Option.some.inj (reads.symm.trans readsToo)

namespace Layout

variable {α : Type} {tree : Json}

theorem reads_text_iff {value : String} : Layout.text.Reads tree value ↔ tree = .text value := by
  rw [reads_iff]
  cases tree <;> simp [Content.ofJson, fromContent?]

theorem reads_word {words : List (String × α)} {word : String} {value : α}
    (known : Entries.lookup word words = some value) :
    (Layout.word words).Reads (.text word) value := by
  rw [reads_iff, Content.ofJson, fromContent?, Content.word?, lookup_words, known]

theorem reads_optional_null (value : Layout α) : (Layout.optional value).Reads .null none :=
  reads_iff.mpr rfl

theorem reads_optional_of_reads {value : Layout α} {result : α} (notNull : tree ≠ .null)
    (reads : value.Reads tree result) : (Layout.optional value).Reads tree (some result) := by
  rw [reads_iff] at reads ⊢
  have inner := congrArg (Option.map some) reads
  cases tree with
  | null => exact absurd rfl notNull
  | bool | number | text | list | object => exact inner

theorem reads_list_iff {item : Layout α} {trees : List Json} {results : List α} :
    (Layout.list item).Reads (.list trees) results ↔ List.Forall₂ item.Reads trees results := by
  rw [reads_iff, Content.ofJson, fromContent?_list, Content.ofItems_eq_map, List.mapM_map,
    mapM_eq_some_iff]
  refine iff_of_eq (congrArg (List.Forall₂ · trees results) ?_)
  funext tree result
  exact propext reads_iff.symm

theorem reads_texts (texts : List String) :
    (Layout.list .text).Reads (.list (texts.map .text)) texts := by
  refine reads_list_iff.mpr (List.forall₂_map_left_iff.mpr ?_)
  exact List.forall₂_same.mpr fun _ _ => reads_text_iff.mpr rfl

theorem reads_entries {value : Layout α} {members : List (String × Json)}
    {results : List (String × α)} (distinct : Entries.Distinct results)
    (reads : List.Forall₂ (fun member result => member.1 = result.1 ∧
      value.Reads member.2 result.2) members results) :
    (Layout.entries value).Reads (.object members) results := by
  have pairs : members.mapM (fun member => (value.fromContent? (.ofJson member.2)).map
      fun result => (member.1, result)) = some results := by
    refine mapM_eq_some_iff.mpr (reads.imp fun member result ⟨name, read⟩ => ?_)
    rw [name, reads_iff.mp read]
    rfl
  rw [reads_iff, fromContent?_entries, pairs, Option.map_some,
    Entries.ofPairs_of_distinct distinct]

theorem reads_whole_iff {choice : String} {interpret : Content → Option α} {result : α} :
    (Layout.whole choice interpret).Reads tree result ↔
      interpret (.ofJson tree) = some result := by
  rw [reads_iff, fromContent?]

end Layout

end ApiComponents
