import ApiComponents.Entries
import ApiComponents.Naming
import ApiComponents.OpenApi.Writing

/-! # Following pointers

A pointer behind `#` is a list of tokens, each behind a slash; inside a token `~1` stands for a
slash and `~0` for a tilde. Following it from the root of a document takes one token after the
other. A component schema is reached under its own name when that name needs no escapes.
-/

namespace ApiComponents

namespace Json

/-- A token without its escapes. -/
def unescaped : List Char → List Char
  | [] => []
  | '~' :: '1' :: rest => '/' :: unescaped rest
  | '~' :: '0' :: rest => '~' :: unescaped rest
  | c :: rest => c :: unescaped rest

theorem unescaped_of_plain {token : List Char} (plain : '~' ∉ token) : unescaped token = token := by
  fun_induction unescaped token with
  | case1 => rfl
  | case2 => exact absurd List.mem_cons_self plain
  | case3 => exact absurd List.mem_cons_self plain
  | case4 c rest _ _ ih => rw [ih (fun member => plain (List.mem_cons_of_mem c member))]

/-- The part of a value that a token selects: a member by name, an item by position. -/
def part? (token : String) : Json → Option Json
  | object members => memberOf token members
  | list items => (items.zipIdx.find? fun pair => Nat.repr pair.2 = token).map Prod.fst
  | _ => none

/-- The part of a document that a pointer leads to. -/
def follow? (pointer : String) (document : Json) : Option Json :=
  match pointer.toList.splitOn '/' with
  | ['#'] :: tokens =>
      tokens.foldlM (fun value token => value.part? (String.ofList (unescaped token))) document
  | _ => none

theorem follow?_schemaRoot {key : String} (noSlash : '/' ∉ key.toList) (noTilde : '~' ∉ key.toList)
    (document : Json) :
    document.follow? (DeclaredName.schemaRoot ++ key) =
      ((document.part? "components").bind (part? "schemas")).bind (part? key) := by
  have segments : (DeclaredName.schemaRoot ++ key).toList =
      ['/'].intercalate [['#'], "components".toList, "schemas".toList, key.toList] := by
    rw [String.toList_append]
    simp [DeclaredName.schemaRoot, List.intercalate_cons_cons]
  have split : (DeclaredName.schemaRoot ++ key).toList.splitOn '/' =
      [['#'], "components".toList, "schemas".toList, key.toList] := by
    rw [segments]
    refine List.splitOn_intercalate '/' ?_ (List.cons_ne_nil _ _)
    intro segment member
    simp only [List.mem_cons, List.not_mem_nil, or_false] at member
    rcases member with rfl | rfl | rfl | rfl
    · decide
    · decide
    · decide
    · exact noSlash
  have components : String.ofList (unescaped "components".toList) = "components" := by decide
  have schemas : String.ofList (unescaped "schemas".toList) = "schemas" := by decide
  unfold follow?
  rw [split]
  simp only [List.foldlM_cons, List.foldlM_nil, components, schemas, unescaped_of_plain noTilde,
    String.ofList_toList, Option.bind_eq_bind, Option.pure_def, Option.bind_assoc,
    Option.bind_fun_some]

theorem memberOf_entriesJson (key : String) (entries : Entries SchemaOrRef) :
    memberOf key (Schema.entriesJson entries) = (entries.lookup key).map SchemaOrRef.toJson := by
  induction entries with
  | nil => rfl
  | cons entry rest ih =>
      obtain ⟨other, schema⟩ := entry
      simp only [Schema.entriesJson, memberOf, Entries.lookup]
      split
      · rfl
      · exact ih

end Json

/-- A schema of a fragment is reached under its name. -/
theorem Fragment.follow?_schemaRoot {fragment : Fragment} {key : String} {schema : SchemaOrRef}
    (noSlash : '/' ∉ key.toList) (noTilde : '~' ∉ key.toList)
    (found : fragment.components.schemas.lookup key = some schema) :
    fragment.toJson.follow? (DeclaredName.schemaRoot ++ key) = some schema.toJson := by
  cases listed : fragment.components.schemas with
  | nil =>
      rw [listed] at found
      cases found
  | cons entry rest =>
      have schemas : fragment.components.toJson.part? "schemas" =
          some (.object (Schema.entriesJson fragment.components.schemas)) := by
        rw [listed]
        simp [Components.toJson, listed, Schema.entriesJson, memberIfMembers, Json.part?,
          Json.memberOf]
      have components : fragment.toJson.part? "components" = some fragment.components.toJson := by
        simp [Fragment.toJson, Json.part?, Json.memberOf]
      rw [Json.follow?_schemaRoot noSlash noTilde, components, Option.bind_some, schemas,
        Option.bind_some, Json.part?, Json.memberOf_entriesJson, found]
      rfl

end ApiComponents
