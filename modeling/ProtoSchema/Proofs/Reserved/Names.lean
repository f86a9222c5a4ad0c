/-
Normalizing reserved names.

A list of names is accepted exactly if no name occurs twice, and then the result is the list in
ascending order. A list without repetitions has one ascending order, so the order in which the
names were given does not matter. The two checks of a declaration, ranges and names, are put
together in `check_perm`.
-/
import Mathlib.Data.String.Basic
import ProtoSchema.Proofs.Reserved.Normalizing

set_option autoImplicit false

namespace ProtoSchema

open Schema (ReservedRange)
open Outcome

namespace Reserved

variable {owner : String} {max : Int}

/-- **The scan for a repeated name** finds none exactly if there is none, neither in the list
nor between the list and the names seen before it. -/
theorem firstRepeated_eq_none {seen names : List String} :
    firstRepeated seen names = none ↔ names.Nodup ∧ ∀ name ∈ names, name ∉ seen := by
  induction names generalizing seen with
  | nil => simp [firstRepeated]
  | cons name rest ih =>
    rw [firstRepeated, List.nodup_cons, List.forall_mem_cons]
    by_cases hseen : name ∈ seen
    · -- the scan stops here, and the name refutes the right side
      rw [if_pos (by simpa using hseen)]
      simp [hseen]
    · -- the name joins those seen, so the rest may not repeat it either
      rw [if_neg (by simpa using hseen), ih]
      constructor
      · rintro ⟨hnodup, hfresh⟩
        refine ⟨⟨?_, hnodup⟩, hseen, ?_⟩
        · intro hmem
          exact hfresh name hmem List.mem_cons_self
        · intro other hother hmem
          exact hfresh other hother (List.mem_cons_of_mem _ hmem)
      · rintro ⟨⟨hnot, hnodup⟩, -, hfresh⟩
        refine ⟨hnodup, ?_⟩
        intro other hother hmem
        rcases List.mem_cons.mp hmem with rfl | hmem
        · exact hnot hother
        · exact hfresh other hother hmem

/-- The names in ascending order. -/
def ascendingNames (names : List String) : List String :=
  names.mergeSort fun a b => decide (a ≤ b)

/-- **Names are accepted** exactly if none comes twice, and are then sorted. -/
theorem normalizeNames_eq_ok {names out : List String} :
    normalizeNames owner names = .ok out ↔ names.Nodup ∧ out = ascendingNames names := by
  have hnone : firstRepeated [] names = none ↔ names.Nodup := by
    rw [firstRepeated_eq_none]
    simp
  unfold normalizeNames
  cases h : firstRepeated [] names with
  | none => simp [← hnone, h, ascendingNames, eq_comm]
  | some name => simp [← hnone, h]

theorem ascendingNames_pairwise (names : List String) :
    (ascendingNames names).Pairwise fun a b => a ≤ b := by
  have htrans : ∀ a b c : String, decide (a ≤ b) → decide (b ≤ c) → decide (a ≤ c) := by
    intro a b c hab hbc
    simp only [decide_eq_true_eq] at *
    exact le_trans hab hbc
  have htotal : ∀ a b : String, decide (a ≤ b) || decide (b ≤ a) := by
    intro a b
    simp only [Bool.or_eq_true, decide_eq_true_eq]
    exact le_total a b
  refine (List.pairwise_mergeSort htrans htotal names).imp ?_
  intro a b hab
  simpa using hab

/-- The order in which names are given does not matter once they are sorted. -/
theorem ascendingNames_perm {names others : List String} (h : names.Perm others) :
    ascendingNames names = ascendingNames others := by
  have hperm : (ascendingNames names).Perm (ascendingNames others) :=
    ((List.mergeSort_perm _ _).trans h).trans (List.mergeSort_perm _ _).symm
  -- an ascending list is determined by its members with their numbers
  exact hperm.eq_of_pairwise (fun a b _ _ hab hba => le_antisymm hab hba)
    (ascendingNames_pairwise names) (ascendingNames_pairwise others)

/-- So it does not matter to what is accepted, nor to the result. -/
theorem normalizeNames_perm {names others : List String} (h : names.Perm others) :
    (normalizeNames owner names).toOption = (normalizeNames owner others).toOption := by
  refine toOption_eq_of_forall ?_
  intro out
  rw [normalizeNames_eq_ok, normalizeNames_eq_ok, h.nodup_iff, ascendingNames_perm h]

/-- **What a declaration reserves does not depend on the order of its lists.** -/
theorem check_perm {ranges otherRanges : List ReservedRange} {names otherNames : List String}
    (hr : ranges.Perm otherRanges) (hn : names.Perm otherNames) :
    (check max owner ranges names).toOption = (check max owner otherRanges otherNames).toOption := by
  simp only [check, toOption_bind, normalizeRanges_perm hr, normalizeNames_perm hn]

end Reserved

end ProtoSchema
