import Mathlib.Data.List.Chain
import Mathlib.Data.List.TakeWhile
import ApiComponents.Proofs.CaseImages

/-! # No letter of both cases

The tables of upper-case and of lower-case letters have no code point in common. Both ascend, so
that one walk through the two of them shows it: a run is compared with the few that it overlaps.
-/

namespace ApiComponents.Text

namespace Run

/-- All points of the run have the same parity. -/
def OneParity (run : Run) : Prop :=
  run.stride = 2 ∨ run.first = run.last

/-- The runs have no code point in common: they do not overlap, or they alternate. -/
def Apart (run other : Run) : Prop :=
  run.last < other.first ∨ other.last < run.first ∨
    run.OneParity ∧ other.OneParity ∧ run.first % 2 ≠ other.first % 2

instance (run : Run) : Decidable run.OneParity :=
  inferInstanceAs (Decidable (_ ∨ _))

instance (run other : Run) : Decidable (run.Apart other) :=
  inferInstanceAs (Decidable (_ ∨ _))

theorem contains_iff {run : Run} {point : Nat} :
    run.contains point = true ↔
      run.first ≤ point ∧ point ≤ run.last ∧ (point - run.first) % run.stride = 0 := by
  simp only [contains, Bool.and_eq_true, decide_eq_true_eq, beq_iff_eq, and_assoc]

theorem OneParity.mod_two {run : Run} (one : run.OneParity) {point : Nat}
    (inside : run.contains point = true) : point % 2 = run.first % 2 := by
  obtain ⟨least, greatest, step⟩ := contains_iff.mp inside
  rcases one with alternating | single
  · rw [alternating] at step
    omega
  · omega

theorem Apart.not_contains {run other : Run} (apart : run.Apart other) {point : Nat}
    (inside : run.contains point = true) : ¬ other.contains point = true := by
  intro both
  have here := contains_iff.mp inside
  have there := contains_iff.mp both
  rcases apart with before | behind | ⟨one, otherOne, parity⟩
  · omega
  · omega
  · exact parity ((one.mod_two inside).symm.trans (otherOne.mod_two both))

/-! ## Ascending tables -/

def Ascending (runs : List Run) : Prop :=
  (runs.map first).IsChain (· < ·)

instance (runs : List Run) : Decidable (Ascending runs) :=
  inferInstanceAs (Decidable (List.IsChain _ _))

/-- Whether every run of the first list is apart from every run of the second. What lies before
    one run of an ascending list lies before those that follow, and is not looked at again. -/
def allApart : List Run → List Run → Bool
  | [], _ => true
  | run :: runs, others =>
      let near := others.dropWhile (·.last < run.first)
      (near.takeWhile (·.first ≤ run.last)).all (fun other => decide (run.Apart other)) &&
        allApart runs near

theorem ascending_iff {runs : List Run} :
    Ascending runs ↔ runs.Pairwise fun run later => run.first < later.first := by
  rw [Ascending, List.isChain_iff_pairwise, List.pairwise_map]

theorem Ascending.dropWhile {runs : List Run} (order : Ascending runs) (p : Run → Bool) :
    Ascending (runs.dropWhile p) :=
  ascending_iff.mpr ((ascending_iff.mp order).sublist (List.dropWhile_sublist p))

/-- From the first run beyond a point on, all runs of an ascending list are beyond it. -/
theorem Ascending.beyond {runs : List Run} (order : Ascending runs) {point : Nat} {run : Run}
    (member : run ∈ runs.dropWhile (·.first ≤ point)) : point < run.first := by
  induction runs with
  | nil => cases member
  | cons head rest ih =>
      obtain ⟨below, tail⟩ := List.pairwise_cons.mp (ascending_iff.mp order)
      by_cases early : head.first ≤ point
      · rw [List.dropWhile_cons_of_pos (by simpa using early)] at member
        exact ih (ascending_iff.mpr tail) member
      · rw [List.dropWhile_cons_of_neg (by simpa using early)] at member
        rcases List.mem_cons.mp member with rfl | later
        · exact Nat.lt_of_not_le early
        · exact Nat.lt_trans (Nat.lt_of_not_le early) (below run later)

theorem apart_of_allApart {runs others : List Run} (order : Ascending runs)
    (otherOrder : Ascending others) (all : allApart runs others = true) :
    ∀ run ∈ runs, ∀ other ∈ others, run.Apart other := by
  induction runs generalizing others with
  | nil => exact fun _ member => nomatch member
  | cons head rest ih =>
      obtain ⟨below, tail⟩ := List.pairwise_cons.mp (ascending_iff.mp order)
      obtain ⟨here, later⟩ := (Bool.and_eq_true _ _).mp all
      intro run member other listed
      have least : head.first ≤ run.first := by
        rcases List.mem_cons.mp member with rfl | inside
        · exact Nat.le_refl _
        · exact Nat.le_of_lt (below run inside)
      rw [← List.takeWhile_append_dropWhile (p := fun other => decide (other.last < head.first))
        (l := others)] at listed
      rcases List.mem_append.mp listed with dropped | near
      · have before : other.last < head.first := by simpa using List.mem_takeWhile_imp dropped
        exact .inr (.inl (Nat.lt_of_lt_of_le before least))
      · rcases List.mem_cons.mp member with rfl | inside
        · rw [← List.takeWhile_append_dropWhile (p := fun other => decide (other.first ≤ run.last))
            (l := List.dropWhile _ others)] at near
          rcases List.mem_append.mp near with close | far
          · exact of_decide_eq_true (List.all_eq_true.mp here other close)
          · exact .inl ((otherOrder.dropWhile _).beyond far)
        · exact ih (ascending_iff.mpr tail) (otherOrder.dropWhile _) later run inside other near

end Run

theorem letterRuns_apart :
    ∀ upper ∈ uppercaseRuns.toList, ∀ lower ∈ lowercaseRuns.toList, upper.Apart lower :=
  Run.apart_of_allApart (by decide +kernel) (by decide +kernel) (by decide +kernel)

theorem exists_run_of_listed {table : Array Run} {c : Char} (inside : listed table c = true) :
    ∃ run ∈ table.toList, run.contains c.toNat = true := by
  rw [listed, ← Array.any_toList] at inside
  exact List.any_eq_true.mp inside

/-- No letter is of both cases. -/
theorem not_isUppercase_of_isLowercase {c : Char} (lower : isLowercase c = true) :
    ¬ isUppercase c = true := by
  intro upper
  unfold isLowercase at lower
  unfold isUppercase at upper
  split at lower
  · next ascii =>
      rw [if_pos ascii] at upper
      exact forall_ascii (P := fun c => c.isLower = true → ¬ c.isUpper = true)
        (by decide +kernel) ascii lower upper
  · next beyond =>
      rw [if_neg beyond] at upper
      obtain ⟨run, member, inside⟩ := exists_run_of_listed upper
      obtain ⟨other, listed, both⟩ := exists_run_of_listed lower
      exact (letterRuns_apart run member other listed).not_contains inside both

end ApiComponents.Text
