import Mathlib.Data.List.Sort
import ApiComponents.Proofs.DeclarationRuns
import ApiComponents.Proofs.Entries

/-! # Required keys

An object keeps the last of several properties with one key, and each property that is not optional
adds its key to the required ones. Both stay in step exactly as long as a property behind which its
key comes again is optional, and the properties that are not optional come in the order in which
their keys first come. Otherwise a key is required twice, or though the property that is kept is
optional, or out of order.
-/

namespace ApiComponents

/-- The last declared property of a key. -/
def lastProperty? (key : String) (properties : List Property) : Option Property :=
  (properties.filter fun property => property.key = key).getLast?

theorem mem_of_lastProperty? {key : String} {properties : List Property} {property : Property}
    (last : lastProperty? key properties = some property) :
    property ∈ properties ∧ property.key = key := by
  have kept := List.mem_filter.mp (List.mem_of_getLast? last)
  exact ⟨kept.1, of_decide_eq_true kept.2⟩

/-- Where a key comes again, the last property of it is among the later ones. -/
theorem lastProperty?_append {key : String} {front back : List Property} {later : Property}
    (member : later ∈ back) (same : later.key = key) :
    lastProperty? key (front ++ back) = lastProperty? key back := by
  have present : back.filter (fun property => property.key = key) ≠ [] :=
    List.ne_nil_of_mem (List.mem_filter.mpr ⟨member, decide_eq_true same⟩)
  simp only [lastProperty?, List.filter_append, List.getLast?_append_of_ne_nil _ present]

/-- A property is the last of its key if no later one has the key. -/
theorem lastProperty?_of_split {before after : List Property} {property : Property}
    (absent : ∀ later ∈ after, later.key ≠ property.key) :
    lastProperty? property.key (before ++ property :: after) = some property := by
  have nothing : after.filter (fun later => later.key = property.key) = [] :=
    List.filter_eq_nil_iff.mpr fun later member => by simpa using absent later member
  simp [lastProperty?, nothing]

/-- The required keys of an object schema are in step with its properties: each is named once, they
    are those whose kept property is not optional, and they have the order of the properties. -/
structure Schema.RequiresKept (schema : Schema) (properties : List Property) : Prop where
  once : schema.required.Nodup
  kept : ∀ key, key ∈ schema.required ↔
    ∃ property, lastProperty? key properties = some property ∧ property.type.isOptional = false
  order : schema.required.Sublist (Entries.keys schema.properties)

/-- The place of the first property of a key. -/
def firstPlace (properties : List Property) (key : String) : Nat :=
  (properties.map Property.key).idxOf key

/-- Where a key comes again, the earlier property is optional, and properties that are not optional
    come in the order in which their keys first come. -/
structure KeysInStep (properties : List Property) : Prop where
  replaced : properties.Pairwise fun earlier later =>
    earlier.key = later.key → earlier.type.isOptional = true
  ordered : (requiredKeys properties).Pairwise fun key later =>
    firstPlace properties key < firstPlace properties later

instance (properties : List Property) : Decidable (KeysInStep properties) :=
  decidable_of_iff
    (properties.Pairwise (fun earlier later =>
        earlier.key = later.key → earlier.type.isOptional = true) ∧
      (requiredKeys properties).Pairwise fun key later =>
        firstPlace properties key < firstPlace properties later)
    ⟨fun facts => ⟨facts.1, facts.2⟩, fun step => ⟨step.replaced, step.ordered⟩⟩

theorem mem_requiredKeys {properties : List Property} {key : String} :
    key ∈ requiredKeys properties ↔
      ∃ property ∈ properties, property.key = key ∧ property.type.isOptional = false := by
  simp only [requiredKeys, List.mem_map, List.mem_filter, Bool.not_eq_true', and_assoc]
  exact exists_congr fun property => and_congr_right fun _ => and_comm

theorem requiredKeys_append (front back : List Property) :
    requiredKeys (front ++ back) = requiredKeys front ++ requiredKeys back := by
  simp [requiredKeys]

/-- Each property that is not optional adds its key to those required. -/
theorem count_requiredKeys (properties : List Property) (key : String) :
    (requiredKeys properties).count key =
      properties.countP fun property => property.key = key ∧ property.type.isOptional = false := by
  induction properties with
  | nil => rfl
  | cons property rest ih =>
      rw [← List.singleton_append, requiredKeys_append, List.count_append, ih, List.countP_append]
      congr 1
      by_cases same : property.key = key <;>
        cases optional : property.type.isOptional <;> simp [requiredKeys, same, optional]

/-! ## First places -/

/-- Keys without later repeats stand in the order of their first places. -/
theorem pairwise_idxOf_eraseDups (keys : List String) :
    keys.eraseDups.Pairwise fun key later => keys.idxOf key < keys.idxOf later := by
  induction keys using List.reverseRecOn with
  | nil => exact .nil
  | append_singleton keys key ih =>
      have early : ∀ other ∈ keys.eraseDups,
          (keys ++ [key]).idxOf other = keys.idxOf other := fun other member =>
        List.idxOf_append_of_mem (List.mem_eraseDups.mp member)
      have front : keys.eraseDups.Pairwise fun first later =>
          (keys ++ [key]).idxOf first < (keys ++ [key]).idxOf later := by
        refine ih.imp_of_mem fun {first later} inside insideToo less => ?_
        rw [early first inside, early later insideToo]
        exact less
      rw [List.eraseDups_append]
      refine List.pairwise_append.mpr ⟨front, ?_, fun first inside last added => ?_⟩
      · by_cases known : key ∈ keys <;> simp [List.removeAll, known, List.eraseDups_cons]
      · obtain ⟨rfl, new⟩ : last = key ∧ last ∉ keys := by
          simpa [List.removeAll, List.mem_eraseDups] using added
        have known : first ∈ keys := List.mem_eraseDups.mp inside
        rw [early first inside, List.idxOf_append_of_notMem new]
        have place := List.idxOf_lt_length_of_mem known
        omega

theorem nodup_of_ordered {some keys : List String}
    (ordered : some.Pairwise fun key later => keys.idxOf key < keys.idxOf later) : some.Nodup :=
  ordered.imp fun less same => Nat.ne_of_lt less (congrArg keys.idxOf same)

/-- Keys that come in the order of their first places are among all keys in this order. -/
theorem sublist_eraseDups {some keys : List String} (inside : some ⊆ keys)
    (ordered : some.Pairwise fun key later => keys.idxOf key < keys.idxOf later) :
    some.Sublist keys.eraseDups := by
  have : Std.Antisymm fun key later => keys.idxOf key < keys.idxOf later :=
    ⟨fun _ _ less greater => absurd greater (Nat.lt_asymm less)⟩
  refine List.sublist_of_subperm_of_pairwise (List.subperm_of_subset (nodup_of_ordered ordered) ?_)
    ordered (pairwise_idxOf_eraseDups keys)
  exact fun key member => List.mem_eraseDups.mpr (inside member)

/-! ## Objects -/

section Schemas

variable {properties : List Property}

/-- In step, a property that is not optional is the last of its key. -/
theorem KeysInStep.lastProperty? (step : KeysInStep properties) {property : Property}
    (member : property ∈ properties) (needed : property.type.isOptional = false) :
    lastProperty? property.key properties = some property := by
  obtain ⟨before, after, rfl⟩ := List.append_of_mem member
  refine lastProperty?_of_split fun later inside same => ?_
  have behind := (List.pairwise_append.mp step.replaced).2.1
  have optional := (List.pairwise_cons.mp behind).1 later inside same.symm
  rw [needed] at optional
  cases optional

/-- If a key is required once and only if the last property of it is not optional, then every
    property behind which its key comes again is optional. -/
theorem replaced_of_requiresKept {schema : Schema}
    (required : schema.required = requiredKeys properties)
    (kept : schema.RequiresKept properties) :
    properties.Pairwise fun earlier later =>
      earlier.key = later.key → earlier.type.isOptional = true := by
  refine List.pairwise_iff_forall_sublist.mpr fun {earlier later} pair same => ?_
  obtain ⟨front, back, rfl, early, rest⟩ := List.cons_sublist_iff.mp pair
  by_contra optional
  have needed : earlier.type.isOptional = false := by simpa using optional
  have inFront : earlier.key ∈ requiredKeys front :=
    mem_requiredKeys.mpr ⟨earlier, early, rfl, needed⟩
  have inBack : earlier.key ∈ requiredKeys back := by
    obtain ⟨last, found, demanded⟩ := (kept.kept earlier.key).mp
      (required ▸ requiredKeys_append front back ▸ List.mem_append_left _ inFront)
    rw [lastProperty?_append (rest.subset List.mem_cons_self) same.symm] at found
    obtain ⟨inside, key⟩ := mem_of_lastProperty? found
    exact mem_requiredKeys.mpr ⟨last, inside, key, demanded⟩
  have distinct := kept.once
  rw [required, requiredKeys_append] at distinct
  exact (List.nodup_append.mp distinct).2.2 _ inFront _ inBack rfl

/-- What an object schema requires is in step with its properties exactly if its keys are. -/
theorem requiresKept_iff {schema : Schema} (required : schema.required = requiredKeys properties)
    (keys : Entries.keys schema.properties = (properties.map Property.key).eraseDups) :
    schema.RequiresKept properties ↔ KeysInStep properties := by
  have inside : requiredKeys properties ⊆ properties.map Property.key := fun key member => by
    obtain ⟨property, listed, rfl, -⟩ := mem_requiredKeys.mp member
    exact List.mem_map_of_mem listed
  constructor
  · intro kept
    have order := kept.order
    rw [required, keys] at order
    exact ⟨replaced_of_requiresKept required kept, (pairwise_idxOf_eraseDups _).sublist order⟩
  · intro step
    have order := sublist_eraseDups inside step.ordered
    refine ⟨?_, fun key => ?_, ?_⟩
    · rw [required]
      exact nodup_of_ordered step.ordered
    · rw [required, mem_requiredKeys]
      constructor
      · rintro ⟨property, member, rfl, needed⟩
        exact ⟨property, step.lastProperty? member needed, needed⟩
      · rintro ⟨property, last, needed⟩
        obtain ⟨member, same⟩ := mem_of_lastProperty? last
        exact ⟨property, member, same, needed⟩
    · rw [required, keys]
      exact order

/-- Under each key stands the schema of the last property of the key. -/
theorem lookup_lastProperty? {pairs : List (String × SchemaOrRef)}
    (entered : List.Forall₂ (fun property pair => property.entry = .ok pair) properties pairs)
    {key : String} {property : Property} (last : lastProperty? key properties = some property) :
    ∃ value, property.toSchema = .ok value ∧ (Entries.ofPairs pairs).lookup key = some value := by
  have named : ∀ (property : Property) (pair : String × SchemaOrRef), property.entry = .ok pair →
      property.key = pair.1 ∧ property.toSchema = .ok pair.2 := by
    intro property pair made
    obtain ⟨value, converts, rfl⟩ := map_eq_ok_iff.mp made
    exact ⟨rfl, converts⟩
  cases found : (Entries.ofPairs pairs).lookup key with
  | none =>
      obtain ⟨member, rfl⟩ := mem_of_lastProperty? last
      obtain ⟨pair, listed, made⟩ := exists_right_of_mem entered member
      rw [Entries.lookup_eq_none_iff, Entries.mem_keys_ofPairs, (named _ _ made).1] at found
      exact absurd (List.mem_map_of_mem listed) found
  | some value =>
      obtain ⟨front, back, rfl, absent⟩ := Entries.split_of_lookup_ofPairs found
      obtain ⟨before, here, after, rfl, -, made, behind⟩ := exists_split_left entered
      obtain ⟨rfl, converts⟩ := named _ _ made
      have final : lastProperty? here.key (before ++ here :: after) = some here := by
        refine lastProperty?_of_split fun later inside same => absent ?_
        obtain ⟨pair, listed, laterMade⟩ := exists_right_of_mem behind inside
        rw [← same, (named _ _ laterMade).1]
        exact List.mem_map_of_mem listed
      rw [final] at last
      cases last
      exact ⟨value, converts, rfl⟩

end Schemas

/-- The schema of an object keeps the last property of each key, and requires a key as often as it
    has properties that are not optional. What is required is in step with what is kept exactly
    if the keys of the declared properties are. -/
theorem Declaration.required_in_step_iff {declaration : Declaration} {parents : List DeclaredName}
    {properties : List Property} {result : SchemaOrRef}
    (object : declaration.shape = .object parents properties)
    (converts : declaration.toSchema = .ok result) :
    ∃ schema, result = .inline schema ∧
      (∀ key property, lastProperty? key properties = some property →
        ∃ value, property.toSchema = .ok value ∧
          Entries.lookup key schema.properties = some value) ∧
      (∀ key, schema.required.count key =
        properties.countP fun property =>
          property.key = key ∧ property.type.isOptional = false) ∧
      (schema.RequiresKept properties ↔ KeysInStep properties) := by
  obtain ⟨shaped, made, rfl⟩ := map_eq_ok_iff.mp converts
  rw [object] at made
  obtain ⟨schema, built, rfl⟩ := map_eq_ok_iff.mp made
  rw [objectSchema_eq] at built
  obtain ⟨pairs, traversed, rfl⟩ := map_eq_ok_iff.mp built
  have entered := mapM_eq_ok_iff.mp traversed
  have keys : (Entries.ofPairs pairs).keys = (properties.map Property.key).eraseDups := by
    rw [Entries.keys_ofPairs]
    refine congrArg List.eraseDups (map_eq_map_of_related entered fun property pair made => ?_).symm
    obtain ⟨value, -, rfl⟩ := map_eq_ok_iff.mp made
    rfl
  exact ⟨_, rfl, fun key property last => lookup_lastProperty? entered last,
    count_requiredKeys properties, requiresKept_iff rfl keys⟩

/-- A property that need not be there is declared again as one that must, in step with the
    others. -/
def invoiceDeclaration : Declaration where
  name := ⟨[], "invoice"⟩
  docs := none
  shape := .object []
    [⟨"total", .primitive .long, none⟩, ⟨"note", .optional (.primitive .text), none⟩,
     ⟨"note", .primitive .text, none⟩, ⟨"paid", .optional (.primitive .boolean), none⟩]

theorem Declaration.invoice_requires_kept :
    ∃ schema properties, invoiceDeclaration.shape = .object [] properties ∧
      invoiceDeclaration.toSchema = .ok (.inline schema) ∧
      schema.required = ["total", "note"] ∧ schema.RequiresKept properties := by
  obtain ⟨schema, same, -, -, agrees⟩ :=
    @Declaration.required_in_step_iff invoiceDeclaration _ _ _ rfl rfl
  cases same
  exact ⟨_, _, rfl, rfl, rfl, agrees.mpr (by decide)⟩

/-- A property that must be there is declared again as one that need not. -/
def noteDeclaration : Declaration where
  name := ⟨[], "order"⟩
  docs := none
  shape := .object []
    [⟨"note", .primitive .text, none⟩, ⟨"note", .optional (.primitive .text), none⟩]

/-- The key stays required though the property that is kept is optional. -/
theorem Declaration.replaced_property_stays_required :
    ∃ schema properties, noteDeclaration.shape = .object [] properties ∧
      noteDeclaration.toSchema = .ok (.inline schema) ∧ "note" ∈ schema.required ∧
      (∃ property, lastProperty? "note" properties = some property ∧
        property.type.isOptional = true) ∧
      ¬ schema.RequiresKept properties := by
  refine ⟨_, _, rfl, rfl, List.mem_cons_self, ⟨_, rfl, rfl⟩, fun kept => ?_⟩
  obtain ⟨property, last, needed⟩ := (kept.kept "note").mp List.mem_cons_self
  cases last
  cases needed

end ApiComponents
