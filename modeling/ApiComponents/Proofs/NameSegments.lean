import Mathlib.Logic.Relation
import ApiComponents.Proofs.WordCuts

/-! # Segments of names

The words of a name are those of its segments, one after the other. The schema name is made of the
words alone, so it does not tell where the name was cut into segments: at a separator, between two
words or nowhere at all.
-/

namespace ApiComponents

open Text (isAlphanumeric)
open Naming (WordBoundary)

namespace Naming

/-- The words of one segment. -/
def segmentWords (segment : String) : List Word :=
  words segment.toList

theorem segmentWords_append_cons {separator : Char} (apart : isAlphanumeric separator = false)
    (front back : String) :
    segmentWords (front ++ String.singleton separator ++ back) =
      segmentWords front ++ segmentWords back := by
  simp only [segmentWords, String.toList_append, String.toList_singleton, List.append_assoc,
    List.singleton_append, words_append_cons apart]

/-- Segments that are joined by a separator keep their words. -/
theorem segmentWords_intercalate {separator : Char} (apart : isAlphanumeric separator = false)
    (segments : List String) :
    segmentWords ((String.singleton separator).intercalate segments) =
      segments.flatMap segmentWords := by
  induction segments with
  | nil => rfl
  | cons segment rest ih =>
      cases rest with
      | nil => simp
      | cons next rest =>
          rw [String.intercalate_cons_cons, segmentWords_append_cons apart, ih]
          exact List.flatMap_cons.symm

end Naming

namespace DeclaredName

open Naming (segmentWords)

theorem words_eq (name : DeclaredName) :
    name.words = name.path.flatMap segmentWords ++ segmentWords name.leaf := by
  have joined : name.words =
      segmentWords ((String.singleton ' ').intercalate (name.path ++ [name.leaf])) := by
    simp only [words, phrase, segmentWords, String.toList_intercalate, String.toList_singleton]
  rw [joined, Naming.segmentWords_intercalate (by decide), List.flatMap_append,
    List.flatMap_singleton]

theorem schemaName_congr {name other : DeclaredName} (same : name.words = other.words) :
    name.schemaName = other.schemaName := by
  simp only [schemaName, same]

/-- The other name has the segments of the first one, but for one change in how they are cut. -/
inductive Recut : DeclaredName → DeclaredName → Prop where
  /-- A segment is cut in two at a separator, which is dropped. -/
  | atSeparator (before after : List String) (front back leaf : String) {separator : Char} :
      isAlphanumeric separator = false →
      Recut ⟨before ++ (front ++ String.singleton separator ++ back) :: after, leaf⟩
        ⟨before ++ front :: back :: after, leaf⟩
  /-- A segment is cut in two between two of its words. -/
  | atBoundary (before after : List String) (front back leaf : String) :
      WordBoundary front.toList back.toList →
      Recut ⟨before ++ (front ++ back) :: after, leaf⟩ ⟨before ++ front :: back :: after, leaf⟩
  /-- The first words of the leaf become a segment. -/
  | leafAtBoundary (path : List String) (front back : String) :
      WordBoundary front.toList back.toList →
      Recut ⟨path, front ++ back⟩ ⟨path ++ [front], back⟩
  /-- A segment without letters and digits is left out. -/
  | blank (before after : List String) (segment leaf : String) :
      Naming.Blank segment.toList →
      Recut ⟨before ++ segment :: after, leaf⟩ ⟨before ++ after, leaf⟩
  /-- The last segments are moved to the front of the leaf, joined by a separator. -/
  | intoLeaf (path moved : List String) (leaf : String) {separator : Char} :
      isAlphanumeric separator = false →
      Recut ⟨path ++ moved, leaf⟩
        ⟨path, (String.singleton separator).intercalate (moved ++ [leaf])⟩

theorem Recut.words_eq {name other : DeclaredName} (recut : Recut name other) :
    name.words = other.words := by
  rw [DeclaredName.words_eq, DeclaredName.words_eq]
  cases recut with
  | atSeparator before after front back leaf apart =>
      simp only [List.flatMap_append, List.flatMap_cons, Naming.segmentWords_append_cons apart,
        List.append_assoc]
  | atBoundary before after front back leaf boundary =>
      have cut := Naming.words_append_iff.mpr boundary
      simp only [List.flatMap_append, List.flatMap_cons, segmentWords, String.toList_append, cut,
        List.append_assoc]
  | leafAtBoundary path front back boundary =>
      have cut := Naming.words_append_iff.mpr boundary
      simp only [List.flatMap_append, List.flatMap_cons, List.flatMap_nil, segmentWords,
        String.toList_append, cut, List.append_assoc, List.nil_append]
  | blank before after segment leaf blank =>
      simp only [List.flatMap_append, List.flatMap_cons, segmentWords,
        Naming.words_of_blank blank, List.nil_append]
  | intoLeaf path moved leaf apart =>
      simp only [Naming.segmentWords_intercalate apart, List.flatMap_append, List.flatMap_cons,
        List.flatMap_nil, List.append_nil, List.append_assoc]

theorem words_eq_of_recuts {name other : DeclaredName}
    (recuts : Relation.EqvGen Recut name other) : name.words = other.words := by
  induction recuts with
  | rel _ _ recut => exact recut.words_eq
  | refl _ => rfl
  | symm _ _ _ ih => exact ih.symm
  | trans _ _ _ _ _ first second => exact first.trans second

theorem display_eq_intercalate (name : DeclaredName) :
    name.display = (String.singleton '.').intercalate (name.path ++ [name.leaf]) := by
  obtain ⟨path, leaf⟩ := name
  induction path with
  | nil => simp [display]
  | cons segment path ih =>
      rw [List.cons_append, String.intercalate_cons_of_ne_nil (by simp), ← ih]
      simp [display, String.append_assoc]

/-- Where a name is cut into segments does not matter: the schema name stays the same however often
    its segments are cut at separators or between words, joined again, left out or added without
    letters and digits, or moved into the leaf. It is that of the text that messages show. -/
theorem schemaName_of_recuts :
    (∀ name other : DeclaredName,
      Relation.EqvGen Recut name other → name.schemaName = other.schemaName) ∧
    ∀ name : DeclaredName, name.schemaName = (⟨[], name.display⟩ : DeclaredName).schemaName := by
  have general : ∀ name other : DeclaredName,
      Relation.EqvGen Recut name other → name.schemaName = other.schemaName :=
    fun _ _ recuts => schemaName_congr (words_eq_of_recuts recuts)
  refine ⟨general, fun name => general _ _ (.rel _ _ ?_)⟩
  rw [display_eq_intercalate]
  exact .intoLeaf [] name.path name.leaf (by decide)

def serverName : DeclaredName := ⟨["v2HTTPServer"], "status"⟩

def recutServerName : DeclaredName := ⟨["v2", "HTTP", "--"], "Server/status"⟩

/-- A segment that is cut behind a digit and in front of the last capital of an acronym. -/
theorem server_schemaName_of_recuts :
    Relation.EqvGen Recut serverName recutServerName ∧
      serverName.schemaName = recutServerName.schemaName ∧
      serverName.schemaName = "V2HttpServerStatus" := by
  have digit : Recut serverName ⟨["v2", "HTTPServer"], "status"⟩ :=
    .atBoundary [] [] "v2" "HTTPServer" "status"
      ⟨[['v', '2']], [['H', 'T', 'T', 'P'], ['S', 'e', 'r', 'v', 'e', 'r']], by decide, by decide⟩
  have acronym : Recut ⟨["v2", "HTTPServer"], "status"⟩ ⟨["v2", "HTTP", "Server"], "status"⟩ :=
    .atBoundary ["v2"] [] "HTTP" "Server" "status"
      ⟨[['H', 'T', 'T', 'P']], [['S', 'e', 'r', 'v', 'e', 'r']], by decide, by decide⟩
  have blank : Recut ⟨["v2", "HTTP", "--", "Server"], "status"⟩
      ⟨["v2", "HTTP", "Server"], "status"⟩ :=
    .blank ["v2", "HTTP"] ["Server"] "--" "status" (by decide)
  have moved : Recut ⟨["v2", "HTTP", "--", "Server"], "status"⟩ recutServerName :=
    @Recut.intoLeaf ["v2", "HTTP", "--"] ["Server"] "status" '/' (by decide)
  have recuts : Relation.EqvGen Recut serverName recutServerName :=
    .trans _ _ _ (.rel _ _ digit) (.trans _ _ _ (.rel _ _ acronym)
      (.trans _ _ _ (.symm _ _ (.rel _ _ blank)) (.rel _ _ moved)))
  exact ⟨recuts, schemaName_of_recuts.1 _ _ recuts, by decide⟩

end DeclaredName

end ApiComponents
