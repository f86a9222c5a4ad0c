/-
What normalizing reserved ranges depends on.

A range that breaks its own bounds is reported first, and among several the first in the list
(`fault?_checkRanges`). Once all bounds hold, the list matters only as a collection of ranges: an
overlap is reported at the least number that two of them reserve (`coalesceFrom_eq_error`), and
without overlaps the result is the canonical list of the reserved numbers.

The pass reports the start of the range it has just reached. The ranges before that one share no
number, since each of them started behind the range that was kept at its turn, and the ranges
behind it start there or later. So no smaller number is reserved twice, although the pass compares
every range with the kept one only.
-/
import Mathlib.Order.Bounds.Basic
import ProtoSchema.Proofs.Reserved.Normalizing

set_option autoImplicit false

namespace ProtoSchema

open Schema (ReservedRange)
open Outcome

namespace Reserved

variable {owner : String} {max : Int}

/-! ## The first range out of bounds -/

/-- **Why a range breaks its bounds**: its start is tested first, then its stop against the
maximum, then its stop against its start. -/
inductive OutOfBounds (owner : String) (max : Int) (r : ReservedRange) : ReservedError → Prop where
  | startAboveMax (h : max < r.start) : OutOfBounds owner max r (.startAboveMax owner r.start max)
  | endAboveMax {stop : Int} (h : r.start ≤ max) (hs : r.stop = some stop) (hstop : max < stop) :
      OutOfBounds owner max r (.endAboveMax owner stop max)
  | startAfterEnd {stop : Int} (h : r.start ≤ max) (hs : r.stop = some stop) (hstop : stop ≤ max)
      (hlt : stop < r.start) : OutOfBounds owner max r (.startAfterEnd owner r.start stop)

/-- A range is accepted exactly if it is within its bounds. -/
theorem fault?_checkRange_eq_none {r : ReservedRange} :
    fault? (checkRange owner max r) = none ↔ r.WithinBounds max := by
  rw [fault?_eq_none]
  simp only [checkRange_eq_ok, exists_and_left, exists_eq, and_true]

/-- The error of a refused range says which bound it breaks. -/
theorem outOfBounds_of_fault? {r : ReservedRange} {e : ReservedError}
    (h : fault? (checkRange owner max r) = some e) : OutOfBounds owner max r e := by
  rw [fault?_eq_some, checkRange] at h
  by_cases hstart : max < r.start
  · rw [if_pos hstart] at h
    cases h
    exact .startAboveMax hstart
  rw [if_neg hstart] at h
  cases hs : r.stop with
  | none =>
    rw [hs] at h
    cases h
  | some stop =>
    simp only [hs] at h
    by_cases habove : max < stop
    · rw [if_pos habove] at h
      cases h
      exact .endAboveMax (by omega) hs habove
    rw [if_neg habove] at h
    by_cases hafter : stop < r.start
    · rw [if_pos hafter] at h
      cases h
      exact .startAfterEnd (by omega) hs (by omega) hafter
    · -- all tests passed, so there is no fault
      rw [if_neg hafter] at h
      split at h <;> cases h

/-- The ranges are checked in the order of the list. -/
theorem fault?_checkRanges (owner : String) (max : Int) (rs : List ReservedRange) :
    fault? (checkRanges owner max rs) = rs.findSome? fun r => fault? (checkRange owner max r) := by
  induction rs with
  | nil => rfl
  | cons r rs ih =>
    rw [checkRanges, fault?_bind _ (fun _ => fault?_bind _ fun _ => fault?_pure _),
      Option.or_none, ih, List.findSome?_cons]
    cases fault? (checkRange owner max r) <;> rfl

/-- **The first range out of bounds is reported**, whatever else is wrong with the list. -/
theorem exists_outOfBounds_of_not_withinBounds (owner : String) {ranges : List ReservedRange}
    (h : ∃ r ∈ ranges, ¬ r.WithinBounds max) :
    ∃ before r after e, ranges = before ++ r :: after ∧ (∀ q ∈ before, q.WithinBounds max) ∧
      OutOfBounds owner max r e ∧ normalizeRanges owner max ranges = .error e := by
  obtain ⟨r, hr, hbounds⟩ := h
  have hfirst := fault?_checkRanges owner max ranges
  cases hc : checkRanges owner max ranges with
  | ok checked =>
    -- a list that passes the checks has no range out of bounds
    have hnone := (exists_ok_iff_of_findSome? hfirst).mp ⟨checked, hc⟩ r hr
    exact absurd (fault?_checkRange_eq_none.mp hnone) hbounds
  | error e =>
    obtain ⟨before, q, after, hsplit, hbefore, hq⟩ := (eq_error_iff_of_findSome? hfirst).mp hc
    refine ⟨before, q, after, e, hsplit, ?_, outOfBounds_of_fault? hq, ?_⟩
    · intro p hp
      exact fault?_checkRange_eq_none.mp (hbefore p hp)
    · -- nothing is sorted or joined before all bounds are checked
      rw [normalizeRanges, hc]
      rfl

/-! ## Numbers that are reserved twice -/

/-- **The numbers that two ranges of a list reserve.** -/
def doubled (max : Int) (rs : List ReservedRange) : Set Int :=
  {n | ∃ a b, [a, b].Sublist rs ∧ n ∈ a.numbers max ∧ n ∈ b.numbers max}

/-- A number is doubly reserved unless no two ranges share it. -/
theorem mem_doubled_iff {rs : List ReservedRange} {n : Int} :
    n ∈ doubled max rs ↔
      ¬ rs.Pairwise fun a b => ¬ (n ∈ a.numbers max ∧ n ∈ b.numbers max) := by
  rw [List.pairwise_iff_forall_sublist]
  push Not
  rfl

/-- A number is doubly reserved by the first range and a later one, or by two later ones. -/
theorem mem_doubled_cons {r : ReservedRange} {rs : List ReservedRange} {n : Int} :
    n ∈ doubled max (r :: rs) ↔
      (n ∈ r.numbers max ∧ n ∈ covered max rs) ∨ n ∈ doubled max rs := by
  rw [mem_doubled_iff, mem_doubled_iff, List.pairwise_cons, not_and_or]
  refine or_congr_left ?_
  push Not
  constructor
  · rintro ⟨q, hq, hr, hn⟩
    exact ⟨hr, q, hq, hn⟩
  · rintro ⟨hr, q, hq, hn⟩
    exact ⟨q, hq, hr, hn⟩

/-- The order of the ranges does not matter to the numbers reserved twice. -/
theorem doubled_perm {rs qs : List ReservedRange} (h : rs.Perm qs) :
    doubled max rs = doubled max qs := by
  ext n
  rw [mem_doubled_iff, mem_doubled_iff, h.pairwise_iff]
  intro a b hab hba
  exact hab hba.symm

/-- Preparing ranges leaves the numbers that are reserved twice. -/
theorem doubled_prepared (ranges : List ReservedRange) :
    doubled max (prepared max ranges) = doubled max ranges := by
  rw [doubled_perm (prepared_perm max ranges)]
  ext n
  simp only [mem_doubled_iff, List.pairwise_map, numbers_opened]

theorem NoOverlap.not_mem_doubled {rs : List ReservedRange} (h : NoOverlap max rs) (n : Int) :
    n ∉ doubled max rs := by
  rintro ⟨a, b, hsub, ha, hb⟩
  exact List.pairwise_iff_forall_sublist.mp h hsub n ha hb

/-! ## The overlap that the pass reports -/

section Pass

variable {current next : ReservedRange} {rest : List ReservedRange} {e : ReservedError}

/-- **One failing step of the pass.** Either the next range starts within the kept one, or the
step goes on and a later one fails. -/
theorem coalesceFrom_cons_eq_error (h : coalesceFrom owner current (next :: rest) = .error e) :
    (e = .overlap owner next.start ∧ ∀ stop, current.stop = some stop → next.start ≤ stop) ∨
      ∃ stop, current.stop = some stop ∧
        ((next.start = stop + 1 ∧ coalesceFrom owner (joined current next) rest = .error e) ∨
          (stop + 1 < next.start ∧ coalesceFrom owner next rest = .error e)) := by
  rw [coalesceFrom] at h
  cases hs : current.stop with
  | none =>
    -- an open range reaches the maximum, so anything after it overlaps
    simp only [hs] at h
    cases h
    refine .inl ⟨rfl, ?_⟩
    intro stop hstop
    cases hstop
  | some stop =>
    simp only [hs] at h
    by_cases hover : next.start ≤ stop
    · rw [if_pos hover] at h
      cases h
      refine .inl ⟨rfl, ?_⟩
      intro stop' hstop'
      cases hstop'
      exact hover
    rw [if_neg hover] at h
    -- a range that touches the kept one is joined to it, any other one is kept next
    by_cases hnext : next.start = stop + 1
    · rw [if_pos hnext] at h
      exact .inr ⟨stop, rfl, .inl ⟨hnext, h⟩⟩
    · rw [if_neg hnext] at h
      have hrest : coalesceFrom owner next rest = .error e := by
        rw [← fault?_eq_some, fault?_map, fault?_eq_some] at h
        exact h
      exact .inr ⟨stop, rfl, .inr ⟨by omega, hrest⟩⟩

/-- A range that starts within the kept one makes its start the least doubled number. -/
theorem isLeast_doubled_start (h : InOrder max (current :: next :: rest))
    (hover : ∀ stop, current.stop = some stop → next.start ≤ stop) :
    IsLeast (doubled max (current :: next :: rest)) next.start := by
  have hcur : current.start ≤ next.start := h.start_le (by simp)
  have hnext := h.checked next (by simp)
  have hlast : next.start ≤ current.last max := by
    cases hs : current.stop with
    | none =>
      -- the kept range is open, and no range starts behind the maximum
      have hmax := le_trans hnext.start_le hnext.last_le
      rw [ReservedRange.last, hs]
      exact hmax
    | some stop =>
      rw [last_of_stop hs]
      exact hover stop hs
  constructor
  · rw [mem_doubled_cons, mem_numbers, covered_cons]
    exact .inl ⟨⟨hcur, hlast⟩, .inl ⟨le_refl _, hnext.start_le⟩⟩
  · -- the second of two ranges that share a number is `next` or behind it
    rintro n ⟨a, b, hsub, -, hb⟩
    have hmem : b ∈ next :: rest := by
      cases hsub with
      | cons _ hsub => exact hsub.subset (by simp)
      | cons_cons _ hsub => exact hsub.subset (by simp)
    exact le_trans (h.tail.start_le hmem) hb.1

/-- Joining two ranges that touch doubles no number and hides none. -/
theorem doubled_joined {stop : Int} (h : InOrder max (current :: next :: rest))
    (hstop : current.stop = some stop) (hnext : next.start = stop + 1) :
    doubled max (joined current next :: rest) = doubled max (current :: next :: rest) := by
  ext n
  have hdisjoint : ¬ (n ∈ current.numbers max ∧ n ∈ next.numbers max) := by
    rw [mem_numbers, mem_numbers, last_of_stop hstop]
    omega
  rw [mem_doubled_cons, mem_doubled_cons, mem_doubled_cons, numbers_joined h hstop hnext,
    covered_cons, Set.mem_union, Set.mem_union]
  -- the two sides differ only in numbers of both ranges, and there are none
  tauto

/-- A range with a gap behind it shares no number with the ranges behind the gap. -/
theorem doubled_of_gap {stop : Int} (h : InOrder max (current :: next :: rest))
    (hstop : current.stop = some stop) (hgap : stop + 1 < next.start) :
    doubled max (current :: next :: rest) = doubled max (next :: rest) := by
  ext n
  rw [mem_doubled_cons, or_iff_right]
  rintro ⟨⟨-, hn⟩, r, hr, hstart, -⟩
  have hle := h.tail.start_le hr
  rw [last_of_stop hstop] at hn
  omega

/-- **The pass reports the least number that is reserved twice.** -/
theorem coalesceFrom_eq_error (h : InOrder max (current :: rest))
    (he : coalesceFrom owner current rest = .error e) :
    ∃ n, e = .overlap owner n ∧ IsLeast (doubled max (current :: rest)) n := by
  induction rest generalizing current with
  | nil => cases he
  | cons next rest ih =>
    obtain ⟨rfl, hover⟩ | ⟨stop, hstop, ⟨hnext, he⟩ | ⟨hgap, he⟩⟩ := coalesceFrom_cons_eq_error he
    · exact ⟨next.start, rfl, isLeast_doubled_start h hover⟩
    · rw [← doubled_joined h hstop hnext]
      exact ih (h.join hstop hnext) he
    · rw [doubled_of_gap h hstop hgap]
      exact ih h.tail he

end Pass

/-! ## Lists within bounds -/

/-- Within bounds, only an overlap can be wrong. -/
theorem normalizeRanges_eq_error {ranges : List ReservedRange} {e : ReservedError}
    (hb : ∀ r ∈ ranges, r.WithinBounds max) (h : normalizeRanges owner max ranges = .error e) :
    ∃ n, e = .overlap owner n ∧ IsLeast (doubled max ranges) n := by
  have hchecked : checkRanges owner max ranges = .ok (ranges.map (opened max)) :=
    checkRanges_eq_ok.mpr ⟨hb, rfl⟩
  have hpass : coalesce owner (prepared max ranges) = .error e := by
    rw [normalizeRanges, hchecked] at h
    exact h
  -- the pass sees the opened ranges in order, which doubles the same numbers
  rw [← doubled_prepared]
  have horder := inOrder_prepared hb
  cases hp : prepared max ranges with
  | nil =>
    rw [hp] at hpass
    cases hpass
  | cons r rest =>
    rw [hp] at hpass horder
    exact coalesceFrom_eq_error horder hpass

/-- **An overlap is reported at the least number that two ranges reserve.** -/
theorem normalizeRanges_eq_error_iff {ranges : List ReservedRange} {e : ReservedError}
    (hb : ∀ r ∈ ranges, r.WithinBounds max) :
    normalizeRanges owner max ranges = .error e ↔
      ∃ n, e = .overlap owner n ∧ IsLeast (doubled max ranges) n := by
  refine ⟨normalizeRanges_eq_error hb, ?_⟩
  rintro ⟨n, rfl, hn⟩
  cases hr : normalizeRanges owner max ranges with
  -- accepted ranges do not overlap, so no number is reserved twice
  | ok out =>
    have hno := ((normalizeRanges_isOk_iff owner max ranges).mp ⟨out, hr⟩).2
    exact absurd hn.1 (hno.not_mem_doubled n)
  -- an error is reported at the least such number, and there is only one
  | error d =>
    obtain ⟨m, rfl, hm⟩ := normalizeRanges_eq_error hb hr
    rw [hm.unique hn]

/-- Within bounds the order of the ranges does not show, in the result or in the fault. -/
theorem normalizeRanges_eq_of_perm {ranges others : List ReservedRange}
    (hb : ∀ r ∈ ranges, r.WithinBounds max) (h : ranges.Perm others) :
    normalizeRanges owner max others = normalizeRanges owner max ranges := by
  cases hr : normalizeRanges owner max ranges with
  | ok out =>
    rw [← toOption_eq_some, ← normalizeRanges_perm h, hr]
    rfl
  | error e =>
    have hb' : ∀ r ∈ others, r.WithinBounds max := fun r hmem => hb r (h.mem_iff.mpr hmem)
    rw [normalizeRanges_eq_error_iff hb', ← doubled_perm h]
    exact (normalizeRanges_eq_error_iff hb).mp hr

/-- A checked range is within its bounds. -/
theorem Checked.withinBounds {r : ReservedRange} (h : Checked max r) : r.WithinBounds max := by
  refine ⟨le_trans h.start_le h.last_le, ?_⟩
  intro stop hs
  have hle := h.start_le
  rw [last_of_stop hs] at hle
  exact ⟨hle, le_of_lt (h.stop_lt stop hs)⟩

/-- **The ranges of a canonical list do not overlap.** -/
theorem Canonical.noOverlap {rs : List ReservedRange} (h : Canonical max rs) :
    NoOverlap max rs := by
  refine h.apart.imp ?_
  rintro a b ⟨stop, hstop, hlt⟩ n ⟨-, hna⟩ ⟨hnb, -⟩
  rw [last_of_stop hstop] at hna
  omega

/-- **A canonical list stays as it is.** -/
theorem Canonical.normalizeRanges_eq {rs : List ReservedRange} (h : Canonical max rs) :
    normalizeRanges owner max rs = .ok rs := by
  have hb : ∀ r ∈ rs, r.WithinBounds max := fun r hr => (h.checked r hr).withinBounds
  obtain ⟨out, hok⟩ := (normalizeRanges_isOk_iff owner max rs).mpr ⟨hb, h.noOverlap⟩
  obtain ⟨hcan, hcov⟩ := normalizeRanges_spec hok
  rw [hok, eq_of_covered_eq hcan h hcov]

/-- **Normalizing depends only on what is reserved.** If a range breaks its bounds, the first one
that does is reported, whatever overlaps. If none does, the order of the ranges does not matter,
the least number that two ranges reserve is what an overlap is reported at, lists that reserve the
same numbers have the same result, and a result is its own. -/
theorem normalizeRanges_depends_on_numbers (owner : String) (max : Int)
    (ranges : List ReservedRange) :
    ((∃ r ∈ ranges, ¬ r.WithinBounds max) →
      ∃ before r after e, ranges = before ++ r :: after ∧ (∀ q ∈ before, q.WithinBounds max) ∧
        OutOfBounds owner max r e ∧ normalizeRanges owner max ranges = .error e) ∧
    ((∀ r ∈ ranges, r.WithinBounds max) →
      (∀ others, ranges.Perm others →
        normalizeRanges owner max others = normalizeRanges owner max ranges) ∧
      (∀ e, normalizeRanges owner max ranges = .error e ↔
        ∃ n, e = .overlap owner n ∧ IsLeast (doubled max ranges) n)) ∧
    (∀ out, normalizeRanges owner max ranges = .ok out →
      (∀ others out', normalizeRanges owner max others = .ok out' →
        covered max ranges = covered max others → out = out') ∧
      normalizeRanges owner max out = .ok out) := by
  refine ⟨exists_outOfBounds_of_not_withinBounds owner, ?_, ?_⟩
  · intro hb
    exact ⟨fun others => normalizeRanges_eq_of_perm hb, fun e => normalizeRanges_eq_error_iff hb⟩
  · intro out hok
    refine ⟨?_, (normalizeRanges_spec hok).1.normalizeRanges_eq⟩
    -- both results are canonical, and a canonical list is determined by its numbers
    intro others out' hok' hcov
    exact normalizeRanges_eq_of_covered hok hok' hcov

/-- Ranges of which the last overlaps the other two, which touch, once these are in order. -/
def clashingRanges : List ReservedRange := [⟨5, some 9⟩, ⟨1, some 4⟩, ⟨8, some 12⟩]

/-- The same ranges before one that ends before it starts and one above the maximum. -/
def brokenRanges : List ReservedRange := clashingRanges ++ [⟨7, some 6⟩, ⟨30, none⟩]

/-- The range that ends before it starts is reported in spite of the overlap; without it, the
overlap is reported at the first number of two ranges, in any order of them; and what normalizing
joined stays joined. -/
theorem normalizeRanges_depends_on_numbers_clashing :
    (∃ r ∈ brokenRanges, ¬ r.WithinBounds 20) ∧
    (∃ before r after, brokenRanges = before ++ r :: after ∧
      OutOfBounds "m" 20 r (.startAfterEnd "m" 7 6)) ∧
    normalizeRanges "m" 20 brokenRanges = .error (.startAfterEnd "m" 7 6) ∧
    (∀ r ∈ clashingRanges, r.WithinBounds 20) ∧
    IsLeast (doubled 20 clashingRanges) 8 ∧
    normalizeRanges "m" 20 clashingRanges.reverse = .error (.overlap "m" 8) ∧
    normalizeRanges "m" 20 touchingRanges = .ok [⟨1, some 3⟩, ⟨5, none⟩] ∧
    normalizeRanges "m" 20 [⟨1, some 3⟩, ⟨5, none⟩] = .ok [⟨1, some 3⟩, ⟨5, none⟩] := by
  have hbroken : ∃ r ∈ brokenRanges, ¬ r.WithinBounds 20 :=
    ⟨⟨30, none⟩, by simp [brokenRanges], by simp [ReservedRange.WithinBounds]⟩
  have hwithin : ∀ r ∈ clashingRanges, r.WithinBounds 20 := by
    simp [clashingRanges, ReservedRange.WithinBounds]
  have hfirst : normalizeRanges "m" 20 brokenRanges = .error (.startAfterEnd "m" 7 6) := by cbv
  have hclash : normalizeRanges "m" 20 clashingRanges = .error (.overlap "m" 8) := by cbv
  have htouch : normalizeRanges "m" 20 touchingRanges = .ok [⟨1, some 3⟩, ⟨5, none⟩] := by cbv
  obtain ⟨before, r, after, e, hsplit, -, hout, he⟩ :=
    (normalizeRanges_depends_on_numbers "m" 20 brokenRanges).1 hbroken
  obtain ⟨hperm, herror⟩ := (normalizeRanges_depends_on_numbers "m" 20 clashingRanges).2.1 hwithin
  obtain ⟨n, heq, hleast⟩ := (herror _).mp hclash
  cases heq
  rw [hfirst] at he
  cases he
  refine ⟨hbroken, ⟨before, r, after, hsplit, hout⟩, hfirst, hwithin, hleast, ?_, htouch, ?_⟩
  · rw [hperm _ (List.reverse_perm _).symm, hclash]
  · exact ((normalizeRanges_depends_on_numbers "m" 20 touchingRanges).2.2 _ htouch).2

end Reserved

end ProtoSchema
