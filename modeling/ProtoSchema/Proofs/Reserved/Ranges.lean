/-
Reserved ranges as sets of numbers.

A range reserves the numbers from its start to its stop, or to the maximum if it is open. Many
lists of ranges reserve the same numbers; one of them has its ranges ascending, closed below
the maximum and apart by at least one free number (`Canonical`). That list is determined by
the set of reserved numbers (`eq_of_covered_eq`): its first range starts at the least number
of the set and goes on to the first gap.
-/
import Mathlib.Data.Set.Lattice
import ProtoSchema.Schema.Basic

set_option autoImplicit false

namespace ProtoSchema

open Schema (ReservedRange)

/-! ## The numbers of a range -/

/-- The last number of a range. -/
def Schema.ReservedRange.last (max : Int) (r : ReservedRange) : Int := r.stop.getD max

/-- **The numbers that a range reserves**, up to the maximum if it is open. -/
def Schema.ReservedRange.numbers (max : Int) (r : ReservedRange) : Set Int :=
  {n | r.start ≤ n ∧ n ≤ r.last max}

/-- **A range within its bounds**: it starts at or before the maximum, and a given stop lies
between its start and the maximum. -/
def Schema.ReservedRange.WithinBounds (max : Int) (r : ReservedRange) : Prop :=
  r.start ≤ max ∧ ∀ stop, r.stop = some stop → r.start ≤ stop ∧ stop ≤ max

namespace Reserved

/-- **The numbers that a list of ranges reserves.** -/
def covered (max : Int) (rs : List ReservedRange) : Set Int := {n | ∃ r ∈ rs, n ∈ r.numbers max}

/-- No number is reserved by two ranges of the list. -/
def NoOverlap (max : Int) (rs : List ReservedRange) : Prop :=
  rs.Pairwise fun a b => ∀ n ∈ a.numbers max, n ∉ b.numbers max

variable {max : Int}

theorem mem_numbers {r : ReservedRange} {n : Int} :
    n ∈ r.numbers max ↔ r.start ≤ n ∧ n ≤ r.last max := Iff.rfl

theorem last_of_stop {r : ReservedRange} {stop : Int} (hstop : r.stop = some stop) :
    r.last max = stop := by
  rw [ReservedRange.last, hstop, Option.getD_some]

theorem mem_covered {rs : List ReservedRange} {n : Int} :
    n ∈ covered max rs ↔ ∃ r ∈ rs, r.start ≤ n ∧ n ≤ r.last max := Iff.rfl

theorem covered_nil : covered max [] = ∅ := by
  ext n
  simp [mem_covered]

theorem covered_cons (r : ReservedRange) (rs : List ReservedRange) :
    covered max (r :: rs) = r.numbers max ∪ covered max rs := by
  ext n
  simp [mem_covered, mem_numbers]

/-- The order of the ranges does not matter to the numbers that they reserve. -/
theorem covered_perm {rs qs : List ReservedRange} (h : rs.Perm qs) :
    covered max rs = covered max qs := by
  ext n
  simp only [mem_covered, h.mem_iff]

/-- Whether ranges overlap does not depend on their order. -/
theorem NoOverlap.perm {rs qs : List ReservedRange} (hn : NoOverlap max rs) (h : rs.Perm qs) :
    NoOverlap max qs := by
  refine h.pairwise hn ?_
  intro a b hab n hb ha
  exact hab n ha hb

/-- Of two ranges that are not empty, the first to start shares no number with the other one
if it ends before that one starts. -/
theorem forall_notMem_numbers_iff {a b : ReservedRange} (hb : b.start ≤ b.last max)
    (hab : a.start ≤ b.start) :
    (∀ n ∈ a.numbers max, n ∉ b.numbers max) ↔ a.last max < b.start := by
  simp only [mem_numbers]
  constructor
  · intro hd
    by_contra hlt
    exact hd b.start ⟨hab, by omega⟩ ⟨le_refl _, hb⟩
  · intro hlt n hna hnb
    omega

/-! ## The canonical form and its set -/

/-- **A checked range**: it is not empty, and only an open one reaches the maximum. -/
structure Checked (max : Int) (r : ReservedRange) : Prop where
  start_le : r.start ≤ r.last max
  stop_lt : ∀ stop, r.stop = some stop → stop < max

/-- A checked range ends at the maximum at the latest. -/
theorem Checked.last_le {r : ReservedRange} (h : Checked max r) : r.last max ≤ max := by
  rw [ReservedRange.last]
  cases hs : r.stop with
  | none => exact le_refl _
  | some stop => exact le_of_lt (h.stop_lt stop hs)

/-- The first range ends, and the second starts behind the number after it. -/
def Apart (a b : ReservedRange) : Prop := ∃ stop, a.stop = some stop ∧ stop + 1 < b.start

/-- **The canonical form**: checked ranges, each of which is apart from all later ones. -/
structure Canonical (max : Int) (rs : List ReservedRange) : Prop where
  checked : ∀ r ∈ rs, Checked max r
  apart : rs.Pairwise Apart

section Canonical

variable {r a b : ReservedRange} {rs qs before after : List ReservedRange} {stop n : Int}

theorem Canonical.tail (h : Canonical max (r :: rs)) : Canonical max rs :=
  ⟨fun q hq => h.checked q (List.mem_cons_of_mem _ hq), (List.pairwise_cons.mp h.apart).2⟩

/-- The ranges of a canonical list start in strictly ascending order. -/
theorem Canonical.start_lt (h : Canonical max rs) :
    rs.Pairwise fun a b => a.start < b.start := by
  refine h.apart.imp_of_mem ?_
  rintro a b ha - ⟨stop, hstop, hlt⟩
  have hle := (h.checked a ha).start_le
  rw [last_of_stop hstop] at hle
  omega

/-- The numbers of the later ranges lie behind a gap. -/
theorem Canonical.last_lt_of_mem_covered (h : Canonical max (r :: rs))
    (hn : n ∈ covered max rs) : r.last max + 1 < n := by
  obtain ⟨q, hq, hle, -⟩ := mem_covered.mp hn
  obtain ⟨stop, hstop, hlt⟩ := (List.pairwise_cons.mp h.apart).1 q hq
  rw [last_of_stop hstop]
  omega

/-- A number of a canonical list lies in its first range or behind the gap after it. -/
theorem Canonical.mem_covered_cons (h : Canonical max (r :: rs)) :
    n ∈ covered max (r :: rs) ↔
      (r.start ≤ n ∧ n ≤ r.last max) ∨ (r.last max + 1 < n ∧ n ∈ covered max rs) := by
  rw [covered_cons, Set.mem_union, mem_numbers]
  exact or_congr_right ⟨fun hn => ⟨h.last_lt_of_mem_covered hn, hn⟩, fun hn => hn.2⟩

/-- A canonical list reserves no number before the start of its first range. -/
theorem Canonical.start_le_of_mem_covered (h : Canonical max (r :: rs))
    (hn : n ∈ covered max (r :: rs)) : r.start ≤ n := by
  have hle := (h.checked r (by simp)).start_le
  rcases h.mem_covered_cons.mp hn with hin | ⟨hlt, -⟩ <;> omega

/-- A canonical list reserves the start of its first range, which is so its least number. -/
theorem Canonical.start_mem_covered (h : Canonical max (r :: rs)) :
    r.start ∈ covered max (r :: rs) :=
  h.mem_covered_cons.mpr (.inl ⟨le_refl _, (h.checked r (by simp)).start_le⟩)

/-- The number behind the first range is free. -/
theorem Canonical.succ_last_not_mem_covered (h : Canonical max (r :: rs)) :
    r.last max + 1 ∉ covered max (r :: rs) := by
  intro hn
  rcases h.mem_covered_cons.mp hn with hin | ⟨hlt, -⟩ <;> omega

/-- The first range ends where the numbers behind its start first leave a gap; so two lists
that reserve the same numbers and start at the same one have the same first range. -/
theorem Canonical.last_le (ha : Canonical max (a :: rs)) (hb : Canonical max (b :: qs))
    (hcov : covered max (a :: rs) = covered max (b :: qs)) (hstart : a.start = b.start) :
    a.last max ≤ b.last max := by
  -- otherwise `a` would reserve the number that is free behind `b`
  by_contra hlt
  apply hb.succ_last_not_mem_covered
  rw [← hcov]
  have hle := (hb.checked b (by simp)).start_le
  exact ha.mem_covered_cons.mpr (.inl ⟨by omega, by omega⟩)

/-- A checked range is its start and its last number. -/
theorem Checked.eq_of_last_eq (ha : Checked max a) (hb : Checked max b)
    (hstart : a.start = b.start) (hlast : a.last max = b.last max) : a = b := by
  obtain ⟨astart, astop⟩ := a
  obtain ⟨bstart, bstop⟩ := b
  simp only [ReservedRange.last] at hstart hlast
  cases astop with
  | none =>
    cases bstop with
    | none => rw [hstart]
    | some stop =>
      -- an open range ends at the maximum, a closed one before it
      have := hb.stop_lt stop rfl
      simp at hlast
      omega
  | some stop =>
    cases bstop with
    | none =>
      have := ha.stop_lt stop rfl
      simp at hlast
      omega
    | some stop' =>
      simp only [Option.getD_some] at hlast
      rw [hstart, hlast]

/-- **The canonical form is determined by the reserved numbers.** -/
theorem eq_of_covered_eq (hr : Canonical max rs) (hq : Canonical max qs)
    (hcov : covered max rs = covered max qs) : rs = qs := by
  induction rs generalizing qs with
  | nil =>
    cases qs with
    | nil => rfl
    | cons b qs =>
      have hb := hq.start_mem_covered
      rw [← hcov, covered_nil] at hb
      exact absurd hb (Set.notMem_empty _)
  | cons a rs ih =>
    cases qs with
    | nil =>
      have ha := hr.start_mem_covered
      rw [hcov, covered_nil] at ha
      exact absurd ha (Set.notMem_empty _)
    | cons b qs =>
      -- both start at the least number of the common set
      have hstart : a.start = b.start := by
        apply le_antisymm
        · exact hr.start_le_of_mem_covered (hcov ▸ hq.start_mem_covered)
        · exact hq.start_le_of_mem_covered (hcov ▸ hr.start_mem_covered)
      have hlast : a.last max = b.last max :=
        le_antisymm (hr.last_le hq hcov hstart) (hq.last_le hr hcov.symm hstart.symm)
      have hab : a = b :=
        (hr.checked a (by simp)).eq_of_last_eq (hq.checked b (by simp)) hstart hlast
      subst hab
      congr 1
      refine ih hr.tail hq.tail ?_
      -- behind the first range the two lists reserve what is left of the common set
      ext n
      have hn : n ∈ covered max (a :: rs) ↔ n ∈ covered max (a :: qs) := by rw [hcov]
      rw [hr.mem_covered_cons, hq.mem_covered_cons] at hn
      constructor
      · intro hmem
        have hlt := hr.last_lt_of_mem_covered hmem
        rcases hn.mp (.inr ⟨hlt, hmem⟩) with hin | ⟨-, h⟩
        · omega
        · exact h
      · intro hmem
        have hlt := hq.last_lt_of_mem_covered hmem
        rcases hn.mpr (.inr ⟨hlt, hmem⟩) with hin | ⟨-, h⟩
        · omega
        · exact h

/-- Between neighbours of a canonical list there is a free number. -/
theorem Canonical.exists_gap (h : Canonical max (before ++ a :: b :: after)) :
    ∃ n, a.last max < n ∧ n < b.start ∧ n ∉ covered max (before ++ a :: b :: after) := by
  induction before with
  | nil =>
    obtain ⟨stop, hstop, hlt⟩ := (List.pairwise_cons.mp h.apart).1 b (by simp)
    refine ⟨stop + 1, by rw [last_of_stop hstop]; omega, hlt, ?_⟩
    rw [← last_of_stop hstop]
    exact h.succ_last_not_mem_covered
  | cons r before ih =>
    obtain ⟨n, hlast, hstart, hfree⟩ := ih h.tail
    refine ⟨n, hlast, hstart, ?_⟩
    intro hn
    rcases h.mem_covered_cons.mp hn with hin | ⟨-, hn⟩
    · -- the first range ends before `a` starts, so before the gap behind `a`
      obtain ⟨stop, hstop, hlt⟩ := (List.pairwise_cons.mp h.apart).1 a (by simp)
      have hle := (h.checked a (by simp)).start_le
      rw [last_of_stop hstop] at hin
      omega
    · exact hfree hn

/-- Only the last range of a canonical list can be open. -/
theorem Canonical.eq_nil_of_stop_eq_none (h : Canonical max (before ++ r :: after))
    (hstop : r.stop = none) : after = [] := by
  cases after with
  | nil => rfl
  | cons q after =>
    have hr := (List.pairwise_append.mp h.apart).2.1
    obtain ⟨stop, hs, -⟩ := (List.pairwise_cons.mp hr).1 q (by simp)
    rw [hstop] at hs
    cases hs

/-- **A canonical list has an open range** exactly if it reserves the maximum. -/
theorem Canonical.exists_open_iff (h : Canonical max rs) :
    (∃ r ∈ rs, r.stop = none) ↔ max ∈ covered max rs := by
  rw [mem_covered]
  constructor
  · rintro ⟨r, hr, hstop⟩
    have hle := (h.checked r hr).start_le
    have hlast : r.last max = max := by rw [ReservedRange.last, hstop, Option.getD_none]
    exact ⟨r, hr, by omega, by omega⟩
  · rintro ⟨r, hr, -, hle⟩
    refine ⟨r, hr, ?_⟩
    cases hs : r.stop with
    | none => rfl
    | some stop =>
      have hlt := (h.checked r hr).stop_lt stop hs
      rw [last_of_stop hs] at hle
      omega

end Canonical

end Reserved

end ProtoSchema
