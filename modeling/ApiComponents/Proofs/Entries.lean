import Mathlib.Data.List.Induction
import Mathlib.Data.List.Nodup
import ApiComponents.Entries

/-! # Entries built from pairs

`Entries.ofPairs` keeps the place of the first pair of a key and the value of the last. Its keys
are therefore the keys of the pairs without later repeats, and a look-up reads the pairs from the
end. Pairs with distinct keys are kept as they are.
-/

namespace ApiComponents

namespace Entries

variable {α : Type u} {β : Type v}

theorem ofPairs_append_single (pairs : List (String × α)) (pair : String × α) :
    ofPairs (pairs ++ [pair]) = (ofPairs pairs).insert pair.1 pair.2 := by
  simp only [ofPairs, List.foldl_append, List.foldl_cons, List.foldl_nil]

/-- Keys stand in the order of their first pairs. -/
theorem keys_ofPairs (pairs : List (String × α)) :
    (ofPairs pairs).keys = (pairs.map Prod.fst).eraseDups := by
  induction pairs using List.reverseRecOn with
  | nil => rfl
  | append_singleton pairs pair ih =>
      rw [ofPairs_append_single, keys_insert, ih, List.map_append, List.eraseDups_append]
      by_cases known : pair.1 ∈ pairs.map Prod.fst
      · have nothing : [pair.1].removeAll (pairs.map Prod.fst) = [] := by
          simpa [List.removeAll] using known
        rw [if_pos (List.mem_eraseDups.mpr known)]
        simp only [List.map_cons, List.map_nil, nothing, List.eraseDups_nil, List.append_nil]
      · have itself : [pair.1].removeAll (pairs.map Prod.fst) = [pair.1] := by
          simpa [List.removeAll] using known
        rw [if_neg (fun member => known (List.mem_eraseDups.mp member))]
        simp only [List.map_cons, List.map_nil, itself, List.eraseDups_cons, List.filter_nil,
          List.eraseDups_nil]

theorem mem_keys_ofPairs {pairs : List (String × α)} {key : String} :
    key ∈ (ofPairs pairs).keys ↔ key ∈ pairs.map Prod.fst := by
  rw [keys_ofPairs, List.mem_eraseDups]

theorem distinct_insert {entries : Entries α} (distinct : entries.Distinct)
    (key : String) (value : α) : (entries.insert key value).Distinct := by
  simp only [Distinct, keys_insert]
  split
  · exact distinct
  · next absent =>
      refine List.nodup_append.mpr ⟨distinct, List.nodup_singleton key, ?_⟩
      intro other member added addedHere same
      rw [List.mem_singleton.mp addedHere] at same
      exact absent (same ▸ member)

theorem distinct_ofPairs (pairs : List (String × α)) : (ofPairs pairs).Distinct := by
  induction pairs using List.reverseRecOn with
  | nil => exact List.nodup_nil
  | append_singleton pairs pair ih =>
      rw [ofPairs_append_single]
      exact distinct_insert ih pair.1 pair.2

/-- A look-up finds the last pair of its key. -/
theorem lookup_ofPairs (pairs : List (String × α)) (key : String) :
    (ofPairs pairs).lookup key = lookup key pairs.reverse := by
  induction pairs using List.reverseRecOn with
  | nil => rfl
  | append_singleton pairs pair ih =>
      rw [ofPairs_append_single, lookup_insert, ih, List.reverse_concat]
      rfl

theorem lookup_eq_none_iff {entries : Entries α} {key : String} :
    entries.lookup key = none ↔ key ∉ entries.keys := by
  induction entries with
  | nil => simp [lookup]
  | cons pair rest ih =>
      obtain ⟨other, value⟩ := pair
      by_cases same : key = other
      · simp [lookup, same]
      · simp [lookup, same, ih]

/-- A look-up finds the first entry of its key. -/
theorem split_of_lookup {entries : Entries α} {key : String} {value : α}
    (found : entries.lookup key = some value) :
    ∃ front back, entries = front ++ (key, value) :: back ∧ key ∉ keys front := by
  induction entries with
  | nil => cases found
  | cons pair rest ih =>
      obtain ⟨other, first⟩ := pair
      by_cases same : key = other
      · simp only [lookup, if_pos same, Option.some.injEq] at found
        exact ⟨[], rest, by rw [same, found]; rfl, List.not_mem_nil⟩
      · simp only [lookup, if_neg same] at found
        obtain ⟨front, back, rfl, absent⟩ := ih found
        refine ⟨(other, first) :: front, back, rfl, ?_⟩
        rw [keys_cons, List.mem_cons, not_or]
        exact ⟨same, absent⟩

theorem mem_of_lookup {entries : Entries α} {key : String} {value : α}
    (found : entries.lookup key = some value) : (key, value) ∈ entries := by
  obtain ⟨front, back, rfl, -⟩ := split_of_lookup found
  exact List.mem_append_right front List.mem_cons_self

theorem lookup_of_mem {entries : Entries α} (distinct : entries.Distinct)
    {key : String} {value : α} (member : (key, value) ∈ entries) :
    entries.lookup key = some value := by
  induction entries with
  | nil => cases member
  | cons pair rest ih =>
      obtain ⟨other, first⟩ := pair
      obtain ⟨absent, restDistinct⟩ := List.nodup_cons.mp distinct
      rcases List.mem_cons.mp member with here | later
      · cases here
        simp [lookup]
      · have different : key ≠ other :=
          fun same => absent (List.mem_map.mpr ⟨_, later, same⟩)
        simp only [lookup, if_neg different]
        exact ih restDistinct later

theorem mem_of_mem_ofPairs {pairs : List (String × α)} {pair : String × α}
    (member : pair ∈ ofPairs pairs) : pair ∈ pairs := by
  have found := lookup_of_mem (distinct_ofPairs pairs) member
  rw [lookup_ofPairs] at found
  exact List.mem_reverse.mp (mem_of_lookup found)

/-- The value of a key is that of the last pair of the key. -/
theorem split_of_lookup_ofPairs {pairs : List (String × α)} {key : String} {value : α}
    (found : (ofPairs pairs).lookup key = some value) :
    ∃ front back, pairs = front ++ (key, value) :: back ∧ key ∉ back.map Prod.fst := by
  rw [lookup_ofPairs] at found
  obtain ⟨back, front, split, absent⟩ := split_of_lookup found
  refine ⟨front.reverse, back.reverse, ?_, ?_⟩
  · rw [← List.reverse_reverse pairs, split]
    simp only [List.reverse_append, List.reverse_cons, List.append_assoc, List.singleton_append]
  · rw [List.map_reverse, List.mem_reverse]
    exact absent

/-- Values may be changed before or after they are written under their keys. -/
theorem map_insert (f : α → β) (key : String) (value : α) (entries : Entries α) :
    (entries.insert key value).map (Prod.map id f) =
      Entries.insert key (f value) (entries.map (Prod.map id f)) := by
  induction entries with
  | nil => rfl
  | cons pair rest ih =>
      obtain ⟨other, previous⟩ := pair
      by_cases same : key = other
      · simp [insert, same]
      · simp [insert, same, ih]

theorem map_ofPairs (f : α → β) (pairs : List (String × α)) :
    (ofPairs pairs).map (Prod.map id f) = ofPairs (pairs.map (Prod.map id f)) := by
  induction pairs using List.reverseRecOn with
  | nil => rfl
  | append_singleton pairs pair ih =>
      rw [ofPairs_append_single, map_insert, ih, List.map_append, List.map_singleton,
        ofPairs_append_single]
      rfl

theorem insert_of_new {entries : Entries α} {key : String} (value : α)
    (new : key ∉ entries.keys) : entries.insert key value = entries ++ [(key, value)] := by
  induction entries with
  | nil => rfl
  | cons pair rest ih =>
      obtain ⟨other, previous⟩ := pair
      simp only [keys_cons, List.mem_cons, not_or] at new
      simp only [insert, if_neg new.1, ih new.2, List.cons_append]

/-- Pairs with distinct keys are entries already. -/
theorem ofPairs_of_distinct {pairs : List (String × α)} (distinct : (pairs.map Prod.fst).Nodup) :
    ofPairs pairs = pairs := by
  induction pairs using List.reverseRecOn with
  | nil => rfl
  | append_singleton pairs pair ih =>
      rw [List.map_append, List.nodup_append] at distinct
      obtain ⟨front, -, apart⟩ := distinct
      have new : pair.1 ∉ keys pairs := fun member => apart _ member pair.1 (by simp) rfl
      rw [ofPairs_append_single, ih front, insert_of_new pair.2 new]

end Entries

end ApiComponents
