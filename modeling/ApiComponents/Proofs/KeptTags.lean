import ApiComponents.Conversion
import ApiComponents.Proofs.TypeNodes

/-! # Malformed and unrecognized parts

Why a part cannot be converted is told by the value that was kept of it. A variant that a tree
names by its word is found in the kept value again, so the part is malformed. A variant that is
named by its place or at the head of a list is not, and the part counts as unrecognized, like one
that names no variant at all.
-/

namespace ApiComponents

open Members

/-! ## Tags of kept values -/

namespace Json

/-- The value of the last tag member, if it is a word. -/
def tagWord? : Json → Option String
  | object members => (valuesOf Content.tagKey members).getLast?.bind text?
  | _ => none

theorem numberJson_eq (value : Number) :
    Content.numberJson value = number value ∨ Content.numberJson value = null := by
  cases value with
  | natural | negative => exact .inl rfl
  | float value =>
      by_cases finite : value.isFinite = true
      · exact .inl (if_pos finite)
      · exact .inr (if_neg finite)

/-- Words are kept as they are, and nothing else becomes a word. -/
theorem text?_of_json? {tree kept : Json} (whole : (Content.ofJson tree).json? = some kept) :
    kept.text? = tree.text? := by
  cases tree with
  | null | bool | text =>
      cases whole
      rfl
  | number value =>
      cases whole
      rcases numberJson_eq value with same | same
      · rw [same]
      · rw [same]
        rfl
  | list | object =>
      obtain ⟨values, -, rfl⟩ := Option.map_eq_some_iff.mp whole
      rfl

theorem text?_of_jsonMembers? (name : String) {members kept : List (String × Json)}
    (whole : Content.jsonMembers? (Content.ofMembers members) = some kept) :
    (valuesOf name kept).map text? = (valuesOf name members).map text? := by
  induction members generalizing kept with
  | nil =>
      cases whole
      rfl
  | cons member members ih =>
      obtain ⟨other, tree⟩ := member
      simp only [Content.ofMembers, Content.jsonMembers?] at whole
      split at whole
      · next value values first rest =>
        cases whole
        simp only [valuesOf_cons]
        split
        · rw [List.map_cons, List.map_cons, text?_of_json? first, ih rest]
        · exact ih rest
      · cases whole

/-- A kept value has the tag word of the tree that it was kept of. -/
theorem tagWord_of_json? {tree kept : Json} (whole : (Content.ofJson tree).json? = some kept) :
    (kept.member? Content.tagKey).bind text? = tree.tagWord? := by
  cases tree with
  | null | bool | text =>
      cases whole
      rfl
  | number value =>
      cases whole
      rcases numberJson_eq value with same | same <;> (rw [same]; rfl)
  | list =>
      obtain ⟨values, -, rfl⟩ := Option.map_eq_some_iff.mp whole
      rfl
  | object members =>
      obtain ⟨values, kept, rfl⟩ := Option.map_eq_some_iff.mp whole
      have last : ∀ members : List (String × Json),
          (valuesOf Content.tagKey members).getLast?.bind text? =
            ((valuesOf Content.tagKey members).map text?).getLast?.join := by
        intro members
        rw [List.getLast?_map]
        cases (valuesOf Content.tagKey members).getLast? <;> rfl
      rw [member?, memberOf_sortMembers, tagWord?, last, last, text?_of_jsonMembers? _ kept]

end Json

/-! ## Texts that are no tags -/

/-- The word consists of letters, and it is none of the words of the format. -/
def PlainWord (word : String) : Prop :=
  word.toList.all Char.isAlpha = true ∧ word ∉ ["null", "true", "false"]

instance : DecidablePred PlainWord := fun _ => inferInstanceAs (Decidable (_ ∧ _))

theorem PlainWord.ne_of_mem {word text : String} (plain : PlainWord word) {c : Char}
    (inside : c ∈ text.toList) (other : c.isAlpha = false) : text ≠ word := by
  rintro rfl
  have letter : c.isAlpha = true := List.all_eq_true.mp plain.1 c inside
  rw [letter] at other
  cases other

namespace Decimal

theorem DecimalNumber.point_mem_positional (d : DecimalNumber) : '.' ∈ d.positional.toList := by
  simp only [positional]
  split
  · simp
  · split <;> simp

theorem DecimalNumber.sign_mem_scientific (d : DecimalNumber) :
    '-' ∈ d.scientific.toList ∨ '+' ∈ d.scientific.toList := by
  unfold scientific
  by_cases negative : d.pointPlace - 1 < 0
  · left
    simp [negative]
  · right
    simp [negative]

/-- The text of a number has a character that is not a letter. -/
theorem exists_mem_floatText (x : Binary64) :
    ∃ c ∈ (floatText x).toList, c.isAlpha = false := by
  have written : ∀ (place : Int) (d : DecimalNumber),
      ∃ c ∈ (if -5 < place ∧ place ≤ 16 then d.positional else d.scientific).toList,
        c.isAlpha = false := by
    intro place d
    split
    · exact ⟨'.', d.point_mem_positional, rfl⟩
    · rcases d.sign_mem_scientific with inside | inside
      · exact ⟨'-', inside, rfl⟩
      · exact ⟨'+', inside, rfl⟩
  obtain ⟨c, inside, other⟩ :=
    written (if x.isZero then 1 else (shortest x).pointPlace) (shortest x)
  refine ⟨c, ?_, other⟩
  rw [floatText, String.toList_append]
  exact List.mem_append_right _ inside

end Decimal

namespace Json

theorem not_isAlpha_of_isDigit {c : Char} (digit : c.isDigit = true) : c.isAlpha = false := by
  have atMost : c.val ≤ 57 := of_decide_eq_true (Bool.and_eq_true_iff.mp digit).2
  rw [Bool.eq_false_iff]
  intro letter
  rcases Bool.or_eq_true_iff.mp letter with upper | lower
  · have atLeast : 65 ≤ c.val := (of_decide_eq_true upper).1
    exact absurd (UInt32.le_trans atLeast atMost) (by decide)
  · have atLeast : 97 ≤ c.val := of_decide_eq_true (Bool.and_eq_true_iff.mp lower).1
    exact absurd (UInt32.le_trans atLeast atMost) (by decide)

theorem exists_mem_repr (n : Nat) : ∃ c ∈ (Nat.repr n).toList, c.isAlpha = false := by
  rw [Nat.toList_repr]
  obtain ⟨c, inside⟩ := List.exists_mem_of_ne_nil _ (@Nat.toDigits_ne_nil n 10)
  have digit := Nat.isDigit_of_mem_toDigits (by decide) (by decide) inside
  exact ⟨c, inside, not_isAlpha_of_isDigit digit⟩

theorem Number.exists_mem_text (value : Number) : ∃ c ∈ value.text.toList, c.isAlpha = false := by
  cases value with
  | natural value => exact exists_mem_repr value
  | negative below => exact ⟨'-', by simp [text], rfl⟩
  | float value => exact Decimal.exists_mem_floatText value

/-- No value has such a word for its text. -/
theorem compact_ne {word : String} (plain : PlainWord word) (value : Json) :
    value.compact ≠ word := by
  cases value with
  | null => exact fun same => plain.2 (same ▸ by decide)
  | bool value =>
      cases value <;> exact fun same => plain.2 (same ▸ by decide)
  | number value =>
      obtain ⟨c, inside, other⟩ := value.exists_mem_text
      exact plain.ne_of_mem inside other
  | text value => exact @PlainWord.ne_of_mem _ _ plain '"' (by simp [compact, quoted]) rfl
  | list items => exact @PlainWord.ne_of_mem _ _ plain '[' (by simp [compact]) rfl
  | object members => exact @PlainWord.ne_of_mem _ _ plain '\x7b' (by simp [compact]) rfl

end Json

namespace ConversionError

variable {part : TaggedPart} {variants : List String} {tree kept : Json}
  (whole : (Content.ofJson tree).json? = some kept)

include whole

theorem label_eq : label kept = tree.tagWord?.getD kept.compact := by
  have word := Json.tagWord_of_json? whole
  rw [Content.tagKey] at word
  rw [label, word]
  cases tree.tagWord? <;> rfl

/-- A part with the word of a variant is malformed. -/
theorem ofValue_of_tagWord {tag : String} (word : tree.tagWord? = some tag)
    (known : tag ∈ variants) : ofValue part variants kept = malformed part tag := by
  rw [ofValue, label_eq whole, word, Option.getD_some, if_pos known]

/-- A part without the word of a variant is unrecognized. -/
theorem ofValue_of_other (plain : ∀ tag ∈ variants, PlainWord tag)
    (other : ∀ tag ∈ variants, tree.tagWord? ≠ some tag) :
    ofValue part variants kept = unrecognized part (tree.tagWord?.getD kept.compact) := by
  rw [ofValue, label_eq whole, if_neg]
  intro known
  cases word : tree.tagWord? with
  | none =>
      rw [word, Option.getD_none] at known
      exact kept.compact_ne (plain _ known) rfl
  | some tag =>
      rw [word, Option.getD_some] at known
      exact other tag known word

end ConversionError

/-! ## Named variants -/

/-- The ways in which a tree names a variant. -/
inductive Json.Names (variants : List String) : Json → Nat → Prop where
  /-- The one tag member is the word of the variant. -/
  | word {members : List (String × Json)} {tag : String} {place : Nat}
      (only : valuesOf Content.tagKey members = [.text tag])
      (known : Content.wordIndex? variants tag = some place) :
      Names variants (.object members) place
  /-- The one tag member is the place of the variant. -/
  | place {members : List (String × Json)} {place : Nat}
      (only : valuesOf Content.tagKey members = [.number (.natural place)])
      (known : place < variants.length) : Names variants (.object members) place
  /-- The first item of a list is the word or the place of the variant. -/
  | head {tag : Json} {items : List Json} {place : Nat}
      (known : Content.choice? variants (.ofJson tag) = some place) :
      Names variants (.list (tag :: items)) place

theorem Content.variant?_ofJson_iff {variants : List String} {tree : Json} {place : Nat} :
    (ofJson tree).variant? variants = some place ↔ tree.Names variants place := by
  constructor
  · intro named
    cases tree with
    | null | bool | number | text => cases named
    | list items =>
        cases items with
        | nil => cases named
        | cons tag items => exact .head named
    | object members =>
        rw [variant?_object] at named
        split at named
        · next tag only =>
          cases tag with
          | null | bool | list | object => cases named
          | text tag => exact .word only named
          | number value =>
              cases value with
              | negative | float => cases named
              | natural index =>
                  simp only [ofJson, choice?] at named
                  split at named
                  · next known =>
                    cases named
                    exact .place only known
                  · cases named
        · cases named
  · intro named
    cases named with
    | word only known =>
        rw [variant?_object, only]
        exact known
    | place only known =>
        rw [variant?_object, only]
        exact if_pos known
    | head known => exact known

/-! ## Failures -/

/-- The tree is read, and what it is read as fails to convert. -/
def Layout.Fails {α : Type} (layout : Layout α) (fails : α → ConversionError → Prop) (tree : Json)
    (failure : ConversionError) : Prop :=
  ∃ value, layout.Reads tree value ∧ fails value failure

/-- How parts fail that are not recognized. -/
structure ToldApart {α : Type} (part : TaggedPart) (variants : List String) (layout : Layout α)
    (recognized : Json → α → Prop) (fails : α → ConversionError → Prop) : Prop where
  /-- What is tagged with the word of a variant is malformed. -/
  word : ∀ {members : List (String × Json)} {tag : String},
    valuesOf Content.tagKey members = [.text tag] → tag ∈ variants →
    (∀ value, ¬ recognized (.object members) value) →
    layout.Fails fails (.object members) (.malformed part tag)
  /-- What is tagged with the place of a variant is unrecognized. -/
  place : ∀ {members : List (String × Json)} {place : Nat},
    valuesOf Content.tagKey members = [.number (.natural place)] → place < variants.length →
    (∀ value, ¬ recognized (.object members) value) →
    ∃ kept, (Content.ofJson (.object members)).json? = some kept ∧
      layout.Fails fails (.object members) (.unrecognized part kept.compact)
  /-- A list that names a variant in its first item is unrecognized. -/
  head : ∀ {tag : Json} {items : List Json} {place : Nat},
    Content.choice? variants (.ofJson tag) = some place →
    (∀ value, ¬ recognized (.list (tag :: items)) value) →
    ∃ kept, (Content.ofJson (.list (tag :: items))).json? = some kept ∧
      layout.Fails fails (.list (tag :: items)) (.unrecognized part kept.compact)
  /-- What names no variant is unrecognized. -/
  unnamed : ∀ {tree : Json}, (∀ place, ¬ tree.Names variants place) →
    (∀ tag ∈ variants, tree.tagWord? ≠ some tag) →
    ∃ kept, (Content.ofJson tree).json? = some kept ∧
      layout.Fails fails tree (.unrecognized part (tree.tagWord?.getD kept.compact))
  /-- Of several tags none names a variant, but the last one is found in the kept value again. -/
  repeated : ∀ {tree : Json} {tag : String}, (∀ place, ¬ tree.Names variants place) →
    tree.tagWord? = some tag → tag ∈ variants → layout.Fails fails tree (.malformed part tag)

/-- Trees that are not recognized are kept, and what was kept fails to convert with its label. -/
structure KeepsUnfit {α : Type} (part : TaggedPart) (variants : List String) (layout : Layout α)
    (recognized : Json → α → Prop) (fails : α → ConversionError → Prop) (keep : Json → α) :
    Prop where
  plain : ∀ tag ∈ variants, PlainWord tag
  named : ∀ {tree : Json} {value : α}, recognized tree value → ∃ place, tree.Names variants place
  reads : ∀ {tree kept : Json}, (∀ value, ¬ recognized tree value) →
    (Content.ofJson tree).json? = some kept → layout.Reads tree (keep kept)
  failing : ∀ kept, fails (keep kept) (.ofValue part variants kept)

namespace KeepsUnfit

variable {α : Type} {part : TaggedPart} {variants : List String} {layout : Layout α}
  {recognized : Json → α → Prop} {fails : α → ConversionError → Prop} {keep : Json → α}
  (keeps : KeepsUnfit part variants layout recognized fails keep)

include keeps

theorem unfit_of_nameless {tree : Json} (nameless : ∀ place, ¬ tree.Names variants place)
    (value : α) : ¬ recognized tree value := by
  intro fits
  obtain ⟨place, named⟩ := keeps.named fits
  exact nameless place named

theorem fails_malformed {tree : Json} (unfit : ∀ value, ¬ recognized tree value) {tag : String}
    (word : tree.tagWord? = some tag) (known : tag ∈ variants) :
    layout.Fails fails tree (.malformed part tag) := by
  obtain ⟨kept, whole, -⟩ := Json.exists_normal_json tree
  refine ⟨keep kept, keeps.reads unfit whole, ?_⟩
  rw [← ConversionError.ofValue_of_tagWord whole word known]
  exact keeps.failing kept

theorem fails_unrecognized {tree : Json} (unfit : ∀ value, ¬ recognized tree value)
    (other : ∀ tag ∈ variants, tree.tagWord? ≠ some tag) :
    ∃ kept, (Content.ofJson tree).json? = some kept ∧
      layout.Fails fails tree (.unrecognized part (tree.tagWord?.getD kept.compact)) := by
  obtain ⟨kept, whole, -⟩ := Json.exists_normal_json tree
  refine ⟨kept, whole, keep kept, keeps.reads unfit whole, ?_⟩
  rw [← ConversionError.ofValue_of_other whole keeps.plain other]
  exact keeps.failing kept

theorem fails_with_text {tree : Json} (unfit : ∀ value, ¬ recognized tree value)
    (wordless : tree.tagWord? = none) :
    ∃ kept, (Content.ofJson tree).json? = some kept ∧
      layout.Fails fails tree (.unrecognized part kept.compact) := by
  have failed := keeps.fails_unrecognized unfit fun tag _ => by simp [wordless]
  rwa [wordless] at failed

theorem toldApart : ToldApart part variants layout recognized fails where
  word := by
    intro members tag only known unfit
    have word : (Json.object members).tagWord? = some tag := by
      rw [Json.tagWord?, only]
      rfl
    exact keeps.fails_malformed unfit word known
  place := by
    intro members place only _ unfit
    have wordless : (Json.object members).tagWord? = none := by
      rw [Json.tagWord?, only]
      rfl
    exact keeps.fails_with_text unfit wordless
  head _ unfit := keeps.fails_with_text unfit rfl
  unnamed nameless other := keeps.fails_unrecognized (keeps.unfit_of_nameless nameless) other
  repeated nameless word known :=
    keeps.fails_malformed (keeps.unfit_of_nameless nameless) word known

end KeepsUnfit

theorem eq_none_of_unfit {α : Type} {known : Option α} {fits : α → Prop}
    (known_iff : ∀ {value}, known = some value ↔ fits value) (unfit : ∀ value, ¬ fits value) :
    known = none :=
  Option.eq_none_iff_forall_ne_some.mpr fun value same => unfit value (known_iff.mp same)

theorem TypeReference.keepsUnfit :
    KeepsUnfit .reference tags layout (fun tree => Recognized (.ofJson tree) tree.typeParts)
      (fun reference failure => reference.toSchema = .error failure) unrecognized where
  plain := by decide
  named recognized := by
    cases recognized with
    | primitive tag | container tag | named tag | unknown tag | void tag =>
        exact ⟨_, Content.variant?_ofJson_iff.mp tag⟩
  reads unfit whole := reads_iff.mpr
    (.inr ⟨eq_none_of_unfit known?_eq_some_iff unfit, _, whole, rfl⟩)
  failing _ := rfl

theorem ContainerType.keepsUnfit :
    KeepsUnfit .container tags layout (fun tree => Recognized (.ofJson tree) tree.typeParts)
      (fun container failure => container.toSchema = .error failure) unrecognized where
  plain := by decide
  named recognized := by
    cases recognized with
    | list tag | set tag | map tag | optional tag =>
        exact ⟨_, Content.variant?_ofJson_iff.mp tag⟩
  reads unfit whole := reads_iff.mpr
    (.inr ⟨eq_none_of_unfit known?_eq_some_iff unfit, _, whole, rfl⟩)
  failing _ := rfl

theorem TypeShape.keepsUnfit :
    KeepsUnfit .shape tags layout (fun tree => Recognized (.ofJson tree))
      (fun shape failure => shape.toSchema = .error failure) unrecognized where
  plain := by decide
  named recognized := by
    cases recognized with
    | aliasOf tag | enumeration tag | object tag | union tag =>
        exact ⟨_, Content.variant?_ofJson_iff.mp tag⟩
  reads unfit whole := reads_iff.mpr
    (.inr ⟨eq_none_of_unfit known?_eq_some_iff unfit, _, whole, rfl⟩)
  failing _ := rfl

theorem AuthScheme.keepsUnfit :
    KeepsUnfit .scheme tags layout (fun tree => Recognized (.ofJson tree))
      (fun scheme failure =>
        scheme.schemeName = .error failure ∧ scheme.toSecurityScheme = .error failure)
      unrecognized where
  plain := by decide
  named recognized := by
    cases recognized with
    | bearer tag | basic tag | header tag => exact ⟨_, Content.variant?_ofJson_iff.mp tag⟩
  reads unfit whole := reads_iff.mpr
    (.inr ⟨eq_none_of_unfit known?_eq_some_iff unfit, _, whole, rfl⟩)
  failing _ := ⟨rfl, rfl⟩

/-- For references, containers, shapes and authentication schemes, malformed and unrecognized
    parts are told apart. -/
theorem failures_told_apart :
    (ToldApart .reference TypeReference.tags TypeReference.layout
        (fun tree => TypeReference.Recognized (.ofJson tree) tree.typeParts)
        fun reference failure => reference.toSchema = .error failure) ∧
      (ToldApart .container ContainerType.tags ContainerType.layout
        (fun tree => ContainerType.Recognized (.ofJson tree) tree.typeParts)
        fun container failure => container.toSchema = .error failure) ∧
      (ToldApart .shape TypeShape.tags TypeShape.layout
        (fun tree => TypeShape.Recognized (.ofJson tree))
        fun shape failure => shape.toSchema = .error failure) ∧
      (ToldApart .scheme AuthScheme.tags AuthScheme.layout
        (fun tree => AuthScheme.Recognized (.ofJson tree))
        fun scheme failure =>
          scheme.schemeName = .error failure ∧ scheme.toSecurityScheme = .error failure) :=
  ⟨TypeReference.keepsUnfit.toldApart, ContainerType.keepsUnfit.toldApart,
    TypeShape.keepsUnfit.toldApart, AuthScheme.keepsUnfit.toldApart⟩

/-- A variant that is named by its place or at the head of a list is not reported as malformed, and
    a tag that names no variant where it is repeated is not reported as unrecognized. -/
theorem spelling_decides_report :
    (∃ tree : Json, tree = .object [("_type", .number (.natural 2))] ∧
      (Content.ofJson tree).variant? TypeReference.tags = some 2 ∧
      TypeReference.tags[2]? = some "named" ∧
      TypeReference.layout.Reads tree (.unrecognized tree) ∧
      (TypeReference.unrecognized tree).toSchema =
        .error (.unrecognized .reference "\x7b\"_type\":2\x7d")) ∧
    (∃ tree : Json, tree = .list [.text "named"] ∧
      (Content.ofJson tree).variant? TypeReference.tags = some 2 ∧
      TypeReference.layout.Reads tree (.unrecognized tree) ∧
      (TypeReference.unrecognized tree).toSchema =
        .error (.unrecognized .reference "[\"named\"]")) ∧
    ∃ tree kept : Json, tree = .object [("_type", .text "mystery"), ("_type", .text "named")] ∧
      (Content.ofJson tree).variant? TypeReference.tags = none ∧
      TypeReference.layout.Reads tree (.unrecognized kept) ∧
      (TypeReference.unrecognized kept).toSchema = .error (.malformed .reference "named") := by
  have keeps : ∀ {tree kept : Json},
      TypeReference.ofContent? (.ofJson tree) = some (.unrecognized kept) →
        TypeReference.layout.Reads tree (.unrecognized kept) := Layout.reads_whole_iff.mpr
  refine ⟨⟨_, rfl, rfl, rfl, keeps rfl, rfl⟩, ⟨_, rfl, rfl, keeps rfl, rfl⟩,
    _, .object [("_type", .text "named")], rfl, rfl, keeps rfl, rfl⟩

end ApiComponents
