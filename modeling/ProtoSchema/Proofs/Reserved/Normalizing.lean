/-
Normalizing reserved ranges.

Every range is checked by itself, the list is sorted by the starts, and one pass joins
neighbours. The statements read this as set arithmetic: a list is accepted exactly if every
range lies within its bounds and no number is reserved twice, and the result is the canonical
list of the same numbers.

The pass keeps one range open for joining. Its invariant is that the ranges still to come start
at or after that range, so an overlap with any range joined so far shows at the next start.
-/
import Mathlib.Data.List.Permutation
import ProtoSchema.Proofs.Outcome
import ProtoSchema.Proofs.Reserved.Ranges
import ProtoSchema.Reserved

set_option autoImplicit false

namespace ProtoSchema

open Schema (ReservedRange)
open Outcome

namespace Reserved

variable {owner : String} {max : Int}

/-! ## Checking the bounds -/

/-- A range whose stop at the maximum has become open. -/
def opened (max : Int) (r : ReservedRange) : ReservedRange :=
  if r.stop = some max then { r with stop := none } else r

/-- A range up to the greatest number loses its end, and reserves the same numbers. -/
theorem last_opened (r : ReservedRange) : (opened max r).last max = r.last max := by
  unfold opened
  split
  · rename_i h
    simp [ReservedRange.last, h]
  · rfl

theorem start_opened (r : ReservedRange) : (opened max r).start = r.start := by
  unfold opened
  split <;> rfl

theorem numbers_opened (r : ReservedRange) : (opened max r).numbers max = r.numbers max := by
  rw [ReservedRange.numbers, ReservedRange.numbers, start_opened, last_opened]

/-- A range within bounds has its end dropped exactly if that is the greatest number. -/
theorem checked_opened {r : ReservedRange} (h : r.WithinBounds max) : Checked max (opened max r) := by
  obtain ⟨hstart, hstop⟩ := h
  refine ⟨?_, ?_⟩
  · rw [start_opened, last_opened, ReservedRange.last]
    cases hs : r.stop with
    | none => exact hstart
    | some stop => exact (hstop stop hs).1
  · intro stop hs
    -- a range that stops at the maximum was opened, so one with a stop ends before it
    unfold opened at hs
    split at hs
    · cases hs
    · rename_i hne
      have hle := (hstop stop hs).2
      have hmax : stop ≠ max := fun h => hne (h ▸ hs)
      omega

/-- **A range passes its check exactly if it is within bounds**, and is opened then. -/
theorem checkRange_eq_ok {r q : ReservedRange} :
    checkRange owner max r = .ok q ↔ r.WithinBounds max ∧ q = opened max r := by
  unfold checkRange ReservedRange.WithinBounds opened
  -- the three tests come one after the other, and each one refutes a bound of its own
  by_cases hstart : max < r.start
  · rw [if_pos hstart]
    constructor
    · intro h
      cases h
    · rintro ⟨⟨h, -⟩, -⟩
      omega
  rw [if_neg hstart]
  cases hs : r.stop with
  | none =>
    simp only [Except.ok.injEq, reduceCtorEq, if_false, false_implies, implies_true, and_true]
    constructor
    · rintro rfl
      exact ⟨by omega, rfl⟩
    · rintro ⟨-, rfl⟩
      rfl
  | some stop =>
    simp only [Option.some.injEq, forall_eq']
    by_cases habove : max < stop
    · rw [if_pos habove]
      constructor
      · intro h
        cases h
      · rintro ⟨⟨-, -, h⟩, -⟩
        omega
    rw [if_neg habove]
    by_cases hafter : stop < r.start
    · rw [if_pos hafter]
      constructor
      · intro h
        cases h
      · rintro ⟨⟨-, h, -⟩, -⟩
        omega
    rw [if_neg hafter]
    -- all tests passed; what is left is whether the stop is the maximum
    have hb : r.start ≤ max ∧ r.start ≤ stop ∧ stop ≤ max := by omega
    by_cases hmax : stop = max
    · rw [if_pos hmax, if_pos hmax, Except.ok.injEq]
      exact ⟨fun h => ⟨hb, h.symm⟩, fun h => h.2.symm⟩
    · rw [if_neg hmax, if_neg hmax, Except.ok.injEq]
      exact ⟨fun h => ⟨hb, h.symm⟩, fun h => h.2.symm⟩

/-- Ranges pass if each of them does, and are opened one by one. -/
theorem checkRanges_eq_ok {rs qs : List ReservedRange} :
    checkRanges owner max rs = .ok qs ↔
      (∀ r ∈ rs, r.WithinBounds max) ∧ qs = rs.map (opened max) := by
  induction rs generalizing qs with
  | nil => simp [checkRanges, eq_comm]
  | cons r rs ih =>
    rw [checkRanges, bind_eq_ok]
    simp only [bind_eq_ok, pure_eq_ok, checkRange_eq_ok, ih, List.forall_mem_cons, List.map_cons]
    constructor
    · rintro ⟨_, ⟨hr, rfl⟩, _, ⟨hrs, rfl⟩, rfl⟩
      exact ⟨⟨hr, hrs⟩, rfl⟩
    · rintro ⟨⟨hr, hrs⟩, rfl⟩
      exact ⟨_, ⟨hr, rfl⟩, _, ⟨hrs, rfl⟩, rfl⟩

/-! ## Joining neighbours -/

/-- What the pass expects: checked ranges in order of their starts. -/
structure InOrder (max : Int) (rs : List ReservedRange) : Prop where
  checked : ∀ r ∈ rs, Checked max r
  sorted : rs.Pairwise fun a b => a.start ≤ b.start

theorem InOrder.tail {r : ReservedRange} {rs : List ReservedRange} (h : InOrder max (r :: rs)) :
    InOrder max rs :=
  ⟨fun q hq => h.checked q (List.mem_cons_of_mem _ hq), (List.pairwise_cons.mp h.sorted).2⟩

/-- The first range is the first to start. -/
theorem InOrder.start_le {r q : ReservedRange} {rs : List ReservedRange}
    (h : InOrder max (r :: rs)) (hq : q ∈ r :: rs) : r.start ≤ q.start := by
  rcases List.mem_cons.mp hq with rfl | hmem
  · exact le_refl _
  · exact (List.pairwise_cons.mp h.sorted).1 q hmem

/-- A range with the numbers of the next one added. -/
def joined (current next : ReservedRange) : ReservedRange := { current with stop := next.stop }

section Neighbours

variable {current next : ReservedRange} {rest : List ReservedRange} {stop : Int}

/-- Two ranges without a number between them are one range. -/
theorem numbers_joined (h : InOrder max (current :: next :: rest))
    (hstop : current.stop = some stop) (hnext : next.start = stop + 1) :
    (joined current next).numbers max = current.numbers max ∪ next.numbers max := by
  have hc := (h.checked current (by simp)).start_le
  have hn := (h.checked next (by simp)).start_le
  rw [last_of_stop hstop] at hc
  ext n
  have hlast : (joined current next).last max = next.last max := rfl
  have hstart : (joined current next).start = current.start := rfl
  simp only [Set.mem_union, mem_numbers, hlast, hstart, last_of_stop hstop]
  omega

/-- Joining two neighbours keeps the ranges in order. -/
theorem InOrder.join (h : InOrder max (current :: next :: rest))
    (hstop : current.stop = some stop) (hnext : next.start = stop + 1) :
    InOrder max (joined current next :: rest) := by
  have hc := (h.checked current (by simp)).start_le
  have hn := (h.checked next (by simp)).start_le
  rw [last_of_stop hstop] at hc
  -- the joined range starts with the first of the two and ends with the second
  have hlast : (joined current next).last max = next.last max := rfl
  refine ⟨List.forall_mem_cons.mpr ⟨⟨?_, ?_⟩, h.tail.tail.checked⟩, ?_⟩
  · rw [hlast]
    exact le_trans (show current.start ≤ next.start by omega) hn
  · exact (h.checked next (by simp)).stop_lt
  · refine List.pairwise_cons.mpr ⟨?_, h.tail.tail.sorted⟩
    intro r hr
    exact h.start_le (by simp [hr])

/-- **One step of the pass.** It goes on only if the range kept for joining is closed and the
next one starts behind it: right behind it, and they are joined, or further away, and the
kept range is done. -/
theorem coalesceFrom_cons_eq_ok {out : List ReservedRange} :
    coalesceFrom owner current (next :: rest) = .ok out ↔
      ∃ stop, current.stop = some stop ∧
        ((next.start = stop + 1 ∧ coalesceFrom owner (joined current next) rest = .ok out) ∨
          (stop + 1 < next.start ∧
            ∃ tail, coalesceFrom owner next rest = .ok tail ∧ out = current :: tail)) := by
  rw [coalesceFrom]
  cases hs : current.stop with
  | none => simp
  | some stop =>
    simp only [Option.some.injEq, exists_eq_left']
    by_cases hover : next.start ≤ stop
    · -- an overlap: the step fails, and neither way to go on applies
      rw [if_pos hover]
      refine iff_of_false (fun h => by cases h) ?_
      rintro (⟨h, -⟩ | ⟨h, -⟩) <;> omega
    rw [if_neg hover]
    by_cases hnext : next.start = stop + 1
    · rw [if_pos hnext]
      constructor
      · intro h
        exact .inl ⟨hnext, h⟩
      · rintro (⟨-, h⟩ | ⟨h, -⟩)
        · exact h
        · omega
    · rw [if_neg hnext, map_eq_ok]
      constructor
      · rintro ⟨tail, ht, rfl⟩
        exact .inr ⟨by omega, tail, ht, rfl⟩
      · rintro (⟨h, -⟩ | ⟨-, tail, ht, rfl⟩)
        · exact absurd h hnext
        · exact ⟨tail, ht, rfl⟩

end Neighbours

/-! ## The whole pass -/

/-- Nothing in the result starts before the range that is kept for joining. -/
theorem start_le_of_mem_coalesceFrom {current : ReservedRange} {rest out : List ReservedRange}
    (h : InOrder max (current :: rest)) (hok : coalesceFrom owner current rest = .ok out) :
    ∀ r ∈ out, current.start ≤ r.start := by
  induction rest generalizing current out with
  | nil =>
    cases hok
    simp
  | cons next rest ih =>
    obtain ⟨stop, hstop, ⟨hnext, hrest⟩ | ⟨hgap, tail, hrest, rfl⟩⟩ :=
      coalesceFrom_cons_eq_ok.mp hok
    · have hstart : (joined current next).start = current.start := rfl
      rw [← hstart]
      exact ih (h.join hstop hnext) hrest
    · have hle : current.start ≤ next.start := h.start_le (by simp)
      refine List.forall_mem_cons.mpr ⟨le_refl _, ?_⟩
      intro r hr
      exact le_trans hle (ih h.tail hrest r hr)

/-- **Joining neighbours loses no number and adds none.** -/
theorem covered_coalesceFrom {current : ReservedRange} {rest out : List ReservedRange}
    (h : InOrder max (current :: rest)) (hok : coalesceFrom owner current rest = .ok out) :
    covered max out = covered max (current :: rest) := by
  induction rest generalizing current out with
  | nil =>
    cases hok
    rfl
  | cons next rest ih =>
    obtain ⟨stop, hstop, ⟨hnext, hrest⟩ | ⟨-, tail, hrest, rfl⟩⟩ := coalesceFrom_cons_eq_ok.mp hok
    · rw [ih (h.join hstop hnext) hrest, covered_cons, numbers_joined h hstop hnext,
        Set.union_assoc, covered_cons, covered_cons]
    · rw [covered_cons, ih h.tail hrest, ← covered_cons]

/-- **What is joined as far as possible is canonical**: between two ranges a number is free. -/
theorem canonical_coalesceFrom {current : ReservedRange} {rest out : List ReservedRange}
    (h : InOrder max (current :: rest)) (hok : coalesceFrom owner current rest = .ok out) :
    Canonical max out := by
  induction rest generalizing current out with
  | nil =>
    cases hok
    exact ⟨h.checked, List.pairwise_singleton ..⟩
  | cons next rest ih =>
    obtain ⟨stop, hstop, ⟨hnext, hrest⟩ | ⟨hgap, tail, hrest, rfl⟩⟩ :=
      coalesceFrom_cons_eq_ok.mp hok
    · exact ih (h.join hstop hnext) hrest
    · have htail := ih h.tail hrest
      refine ⟨List.forall_mem_cons.mpr ⟨h.checked current (by simp), htail.checked⟩, ?_⟩
      -- the rest of the result starts with `next` or behind it, so behind the gap
      refine List.pairwise_cons.mpr ⟨?_, htail.apart⟩
      intro r hr
      have hle := start_le_of_mem_coalesceFrom h.tail hrest r hr
      exact ⟨stop, hstop, by omega⟩

/-- **The pass goes through exactly if nothing overlaps.** -/
theorem coalesceFrom_isOk_iff {current : ReservedRange} {rest : List ReservedRange}
    (h : InOrder max (current :: rest)) :
    (∃ out, coalesceFrom owner current rest = .ok out) ↔ NoOverlap max (current :: rest) := by
  induction rest generalizing current with
  | nil => exact iff_of_true ⟨_, rfl⟩ (List.pairwise_singleton ..)
  | cons next rest ih =>
    have hle := (List.pairwise_cons.mp h.sorted).1
    have hdisj : ∀ r ∈ next :: rest,
        (∀ n ∈ current.numbers max, n ∉ r.numbers max) ↔ current.last max < r.start := by
      intro r hr
      exact forall_notMem_numbers_iff (h.tail.checked r hr).start_le (hle r hr)
    simp only [coalesceFrom_cons_eq_ok]
    rw [NoOverlap, List.pairwise_cons]
    constructor
    · rintro ⟨out, stop, hstop, ⟨hnext, hok⟩ | ⟨hgap, tail, hok, rfl⟩⟩
      · -- the joined range shares no number with what neither of its parts does
        have hno := (ih (h.join hstop hnext)).mp ⟨out, hok⟩
        rw [NoOverlap, List.pairwise_cons, numbers_joined h hstop hnext] at hno
        refine ⟨?_, List.pairwise_cons.mpr ⟨?_, hno.2⟩⟩
        · intro r hr
          rcases List.mem_cons.mp hr with rfl | hr
          · rw [hdisj r (by simp), last_of_stop hstop]
            omega
          · intro n hn
            exact hno.1 r hr n (.inl hn)
        · intro r hr n hn
          exact hno.1 r hr n (.inr hn)
      · -- the kept range ends before the next one starts, so before all later ones do
        refine ⟨?_, (ih h.tail).mp ⟨tail, hok⟩⟩
        intro r hr
        rw [hdisj r hr, last_of_stop hstop]
        have hle := h.tail.start_le hr
        omega
    · rintro ⟨hcur, hno⟩
      have hlast : current.last max < next.start := (hdisj next (by simp)).mp (hcur next (by simp))
      cases hstop : current.stop with
      | none =>
        -- an open range reaches the maximum, and no range starts behind that
        exfalso
        have hn := h.checked next (by simp)
        have hmax := hn.last_le
        have hopen : current.last max = max := by rw [ReservedRange.last, hstop, Option.getD_none]
        have := hn.start_le
        omega
      | some stop =>
        rw [last_of_stop hstop] at hlast
        by_cases hnext : next.start = stop + 1
        · -- joining two ranges brings no overlap with the others
          have hjoin : NoOverlap max (joined current next :: rest) := by
            refine List.pairwise_cons.mpr ⟨?_, (List.pairwise_cons.mp hno).2⟩
            intro r hr n hn
            rw [numbers_joined h hstop hnext] at hn
            rcases hn with hn | hn
            · exact hcur r (by simp [hr]) n hn
            · exact (List.pairwise_cons.mp hno).1 r hr n hn
          obtain ⟨out, hok⟩ := (ih (h.join hstop hnext)).mpr hjoin
          exact ⟨out, stop, rfl, .inl ⟨hnext, hok⟩⟩
        · obtain ⟨tail, hok⟩ := (ih h.tail).mpr hno
          exact ⟨current :: tail, stop, rfl, .inr ⟨by omega, tail, hok, rfl⟩⟩

/-! ## Normalizing -/

/-- The checked ranges in order of their starts. -/
def prepared (max : Int) (ranges : List ReservedRange) : List ReservedRange :=
  (ranges.map (opened max)).mergeSort startsBy

theorem prepared_perm (max : Int) (ranges : List ReservedRange) :
    (prepared max ranges).Perm (ranges.map (opened max)) := List.mergeSort_perm _ _

/-- Opening and sorting keep the numbers that are reserved. -/
theorem covered_prepared (ranges : List ReservedRange) :
    covered max (prepared max ranges) = covered max ranges := by
  rw [covered_perm (prepared_perm max ranges)]
  ext n
  simp [mem_covered, start_opened, last_opened]

/-- They also keep whether two ranges have a number in common. -/
theorem noOverlap_prepared (ranges : List ReservedRange) :
    NoOverlap max (prepared max ranges) ↔ NoOverlap max ranges := by
  have hmap : NoOverlap max (ranges.map (opened max)) ↔ NoOverlap max ranges := by
    simp only [NoOverlap, List.pairwise_map, numbers_opened]
  rw [← hmap]
  exact ⟨fun h => h.perm (prepared_perm max ranges),
    fun h => h.perm (prepared_perm max ranges).symm⟩

/-- Ranges within bounds are in order when they are sorted. -/
theorem inOrder_prepared {ranges : List ReservedRange} (h : ∀ r ∈ ranges, r.WithinBounds max) :
    InOrder max (prepared max ranges) := by
  constructor
  · intro q hq
    obtain ⟨r, hr, rfl⟩ := List.mem_map.mp ((prepared_perm max ranges).mem_iff.mp hq)
    exact checked_opened (h r hr)
  · -- the ranges were sorted by their starts, a total order up to ranges that start alike
    have htrans : ∀ a b c : ReservedRange, startsBy a b → startsBy b c → startsBy a c := by
      intro a b c hab hbc
      simp only [startsBy, decide_eq_true_eq] at *
      omega
    have htotal : ∀ a b : ReservedRange, startsBy a b || startsBy b a := by
      intro a b
      simp only [startsBy, Bool.or_eq_true, decide_eq_true_eq]
      omega
    refine (List.pairwise_mergeSort htrans htotal _).imp ?_
    intro a b hab
    simpa [startsBy] using hab

/-- **Normalising is checking, sorting and joining**, each of which can fail only in its own way. -/
theorem normalizeRanges_eq_ok {ranges out : List ReservedRange} :
    normalizeRanges owner max ranges = .ok out ↔
      (∀ r ∈ ranges, r.WithinBounds max) ∧ coalesce owner (prepared max ranges) = .ok out := by
  rw [normalizeRanges, bind_eq_ok]
  simp only [checkRanges_eq_ok]
  constructor
  · rintro ⟨_, ⟨hb, rfl⟩, hok⟩
    exact ⟨hb, hok⟩
  · rintro ⟨hb, hok⟩
    exact ⟨_, ⟨hb, rfl⟩, hok⟩

/-- Ranges in order can be joined exactly if no number is reserved twice. -/
theorem coalesce_isOk_iff {rs : List ReservedRange} (h : InOrder max rs) :
    (∃ out, coalesce owner rs = .ok out) ↔ NoOverlap max rs := by
  cases rs with
  | nil => exact iff_of_true ⟨_, rfl⟩ List.Pairwise.nil
  | cons r rs => exact coalesceFrom_isOk_iff h

/-- What joining gives is canonical and reserves the same numbers. -/
theorem coalesce_spec {rs out : List ReservedRange} (h : InOrder max rs)
    (hok : coalesce owner rs = .ok out) : Canonical max out ∧ covered max out = covered max rs := by
  cases rs with
  | nil =>
    cases hok
    exact ⟨⟨by simp, List.Pairwise.nil⟩, rfl⟩
  | cons r rs => exact ⟨canonical_coalesceFrom h hok, covered_coalesceFrom h hok⟩

/-- **A list is accepted** exactly if its ranges lie within bounds and do not overlap. -/
theorem normalizeRanges_isOk_iff (owner : String) (max : Int) (ranges : List ReservedRange) :
    (∃ out, normalizeRanges owner max ranges = .ok out) ↔
      (∀ r ∈ ranges, r.WithinBounds max) ∧ NoOverlap max ranges := by
  simp only [normalizeRanges_eq_ok, exists_and_left]
  refine and_congr_right ?_
  intro hb
  rw [coalesce_isOk_iff (inOrder_prepared hb), noOverlap_prepared]

/-- **The result** is canonical and reserves the same numbers. -/
theorem normalizeRanges_spec {ranges out : List ReservedRange}
    (h : normalizeRanges owner max ranges = .ok out) :
    Canonical max out ∧ covered max out = covered max ranges := by
  obtain ⟨hb, hok⟩ := normalizeRanges_eq_ok.mp h
  have hspec := coalesce_spec (inOrder_prepared hb) hok
  rw [covered_prepared] at hspec
  exact hspec

/-- Lists that reserve the same numbers have the same canonical form. -/
theorem normalizeRanges_eq_of_covered {owner' : String}
    {ranges others out out' : List ReservedRange} (h : normalizeRanges owner max ranges = .ok out)
    (h' : normalizeRanges owner' max others = .ok out')
    (hcov : covered max ranges = covered max others) : out = out' := by
  obtain ⟨hcan, hout⟩ := normalizeRanges_spec h
  obtain ⟨hcan', hout'⟩ := normalizeRanges_spec h'
  apply eq_of_covered_eq hcan hcan'
  rw [hout, hout', hcov]

/-- **The order of the ranges does not matter**: the result is the canonical list of a set. -/
theorem normalizeRanges_perm {ranges others : List ReservedRange} (h : ranges.Perm others) :
    (normalizeRanges owner max ranges).toOption = (normalizeRanges owner max others).toOption := by
  -- one direction of the equivalence; the other is the same with the lists exchanged
  have hone : ∀ {rs qs : List ReservedRange}, rs.Perm qs → ∀ out,
      normalizeRanges owner max rs = .ok out → normalizeRanges owner max qs = .ok out := by
    intro rs qs hperm out hok
    obtain ⟨hb, hno⟩ := (normalizeRanges_isOk_iff owner max rs).mp ⟨out, hok⟩
    have hb' : ∀ r ∈ qs, r.WithinBounds max := fun r hr => hb r (hperm.mem_iff.mpr hr)
    obtain ⟨out', hok'⟩ := (normalizeRanges_isOk_iff owner max qs).mpr ⟨hb', hno.perm hperm⟩
    -- both results are canonical lists of the same set
    rw [normalizeRanges_eq_of_covered hok hok' (covered_perm hperm)]
    exact hok'
  exact toOption_eq_of_forall fun out => ⟨hone h out, hone h.symm out⟩

/-! ## Words of 64 bits

Starts, stops and the maximum are signed words. The pass adds one to a stop, and only if the
next range starts behind that stop; so the sum is at most that start and is a word again. -/

/-- A signed word of 64 bits. -/
def IsWord (n : Int) : Prop := -9223372036854775808 ≤ n ∧ n ≤ 9223372036854775807

instance (n : Int) : Decidable (IsWord n) :=
  inferInstanceAs (Decidable (-9223372036854775808 ≤ n ∧ n ≤ 9223372036854775807))

/-- The number after a word, if it is a word. -/
def succWord? (n : Int) : Option Int := if IsWord (n + 1) then some (n + 1) else none

/-- A range whose start and stop are words. -/
def InWords (r : ReservedRange) : Prop := IsWord r.start ∧ ∀ stop, r.stop = some stop → IsWord stop

/-- `coalesceFrom` in words; nothing if a sum is not a word. -/
def coalesceWordsFrom (owner : String) (current : ReservedRange) :
    List ReservedRange → Option (Except ReservedError (List ReservedRange))
  | [] => some (.ok [current])
  | next :: rest =>
    match current.stop with
    | none => some (.error (.overlap owner next.start))
    | some stop =>
      if next.start ≤ stop then some (.error (.overlap owner next.start))
      else do
        let succ ← succWord? stop
        if next.start = succ then
          coalesceWordsFrom owner { current with stop := next.stop } rest
        else (Except.map (current :: ·)) <$> coalesceWordsFrom owner next rest

/-- `coalesce` in words. -/
def coalesceWords (owner : String) :
    List ReservedRange → Option (Except ReservedError (List ReservedRange))
  | [] => some (.ok [])
  | r :: rest => coalesceWordsFrom owner r rest

/-- **`normalizeRanges` in words**; nothing if a sum is not a word. -/
def normalizeWords (owner : String) (max : Int) (ranges : List ReservedRange) :
    Option (Except ReservedError (List ReservedRange)) :=
  match checkRanges owner max ranges with
  | .error e => some (.error e)
  | .ok checked => coalesceWords owner (checked.mergeSort startsBy)

/-- An end below another range's start is not the greatest word, so that adding one does not
overflow. -/
theorem succWord?_eq_some {stop start : Int} (hstop : IsWord stop) (hstart : IsWord start)
    (h : stop < start) : succWord? stop = some (stop + 1) := by
  unfold IsWord at hstop hstart
  rw [succWord?, if_pos]
  unfold IsWord
  omega

/-- **Joining never overflows** on ranges that are words: an end is only increased when a range
follows. -/
theorem coalesceWordsFrom_eq {current : ReservedRange} {rest : List ReservedRange}
    (h : ∀ r ∈ current :: rest, InWords r) :
    coalesceWordsFrom owner current rest = some (coalesceFrom owner current rest) := by
  induction rest generalizing current with
  | nil => rfl
  | cons next rest ih =>
    have hcur : InWords current := h current (by simp)
    have hnext : InWords next := h next (by simp)
    have hrest : ∀ r ∈ rest, InWords r := fun r hr => h r (by simp [hr])
    rw [coalesceWordsFrom, coalesceFrom]
    cases hs : current.stop with
    | none => rfl
    | some stop =>
      by_cases hover : next.start ≤ stop
      · simp only [if_pos hover]
      · -- the sum lies between two words: the stop and the next start
        simp only [if_neg hover]
        rw [succWord?_eq_some (hcur.2 stop hs) hnext.1 (by omega), Option.bind_eq_bind,
          Option.bind_some]
        by_cases hsucc : next.start = stop + 1
        · rw [if_pos hsucc, if_pos hsucc]
          refine ih (List.forall_mem_cons.mpr ⟨⟨hcur.1, ?_⟩, hrest⟩)
          exact hnext.2
        · rw [if_neg hsucc, if_neg hsucc, ih (List.forall_mem_cons.mpr ⟨hnext, hrest⟩)]
          rfl

/-- Opening a range makes no number of it larger. -/
theorem inWords_opened {r : ReservedRange} (h : InWords r) : InWords (opened max r) := by
  refine ⟨by rw [start_opened]; exact h.1, ?_⟩
  intro stop hs
  unfold opened at hs
  split at hs
  · cases hs
  · exact h.2 stop hs

/-- **No sum overflows.** -/
theorem normalizeWords_eq {ranges : List ReservedRange} (h : ∀ r ∈ ranges, InWords r) :
    normalizeWords owner max ranges = some (normalizeRanges owner max ranges) := by
  rw [normalizeWords, normalizeRanges]
  cases hc : checkRanges owner max ranges with
  | error e => rfl
  | ok checked =>
    obtain ⟨-, rfl⟩ := checkRanges_eq_ok.mp hc
    -- sorting and opening ranges makes no number that was not there
    have hwords : ∀ r ∈ prepared max ranges, InWords r := by
      intro q hq
      obtain ⟨r, hr, rfl⟩ := List.mem_map.mp ((prepared_perm max ranges).mem_iff.mp hq)
      exact inWords_opened (h r hr)
    show coalesceWords owner (prepared max ranges) = some (coalesce owner (prepared max ranges))
    cases hp : prepared max ranges with
    | nil => rfl
    | cons r rest => exact coalesceWordsFrom_eq (hp ▸ hwords)

/-- **Normalizing reserved ranges is exact.** A list is accepted exactly if its ranges lie
within bounds and no number is reserved twice. The result reserves the same numbers, its
starts strictly ascend, there is a free number between neighbours, and only the last range can
be open, which it is exactly if the maximum is reserved. On words the sums on the way are
words. -/
theorem normalizeRanges_exact (owner : String) (max : Int) (ranges : List ReservedRange) :
    ((∃ out, normalizeRanges owner max ranges = .ok out) ↔
      (∀ r ∈ ranges, r.WithinBounds max) ∧ NoOverlap max ranges) ∧
    (∀ out, normalizeRanges owner max ranges = .ok out →
      covered max out = covered max ranges ∧
      (out.Pairwise fun a b => a.start < b.start) ∧
      (∀ before a b after, out = before ++ a :: b :: after →
        ∃ n, a.last max < n ∧ n < b.start ∧ n ∉ covered max out) ∧
      (∀ before r after, out = before ++ r :: after → r.stop = none → after = []) ∧
      ((∃ r ∈ out, r.stop = none) ↔ max ∈ covered max ranges)) ∧
    ((∀ r ∈ ranges, InWords r) →
      normalizeWords owner max ranges = some (normalizeRanges owner max ranges)) := by
  refine ⟨normalizeRanges_isOk_iff owner max ranges, ?_, normalizeWords_eq⟩
  intro out hok
  -- everything but the reserved numbers themselves follows from the canonical form
  obtain ⟨hcan, hcov⟩ := normalizeRanges_spec hok
  refine ⟨hcov, hcan.start_lt, ?_, ?_, ?_⟩
  · rintro before a b after rfl
    exact hcan.exists_gap
  · rintro before r after rfl hstop
    exact hcan.eq_nil_of_stop_eq_none hstop
  · rw [← hcov]
    exact hcan.exists_open_iff

/-- Unsorted ranges of which two touch, and of which one is open. -/
def touchingRanges : List ReservedRange := [⟨10, none⟩, ⟨5, some 9⟩, ⟨1, some 3⟩]

/-- The ranges that touch are joined, the number between the others stays free, and no sum
overflows. -/
theorem normalizeRanges_exact_touching :
    (∀ r ∈ touchingRanges, InWords r) ∧
    normalizeRanges "m" 20 touchingRanges = .ok [⟨1, some 3⟩, ⟨5, none⟩] ∧
    NoOverlap 20 touchingRanges ∧
    covered 20 [⟨1, some 3⟩, ⟨5, none⟩] = covered 20 touchingRanges ∧
    20 ∈ covered 20 touchingRanges ∧
    normalizeWords "m" 20 touchingRanges = some (.ok [⟨1, some 3⟩, ⟨5, none⟩]) := by
  have hwords : ∀ r ∈ touchingRanges, InWords r := by
    simp [touchingRanges, InWords, IsWord]
  have hok : normalizeRanges "m" 20 touchingRanges = .ok [⟨1, some 3⟩, ⟨5, none⟩] := by cbv
  obtain ⟨haccept, hresult, hsums⟩ := normalizeRanges_exact "m" 20 touchingRanges
  obtain ⟨hcov, -, -, -, hopen⟩ := hresult _ hok
  refine ⟨hwords, hok, (haccept.mp ⟨_, hok⟩).2, hcov, hopen.mp ⟨⟨5, none⟩, by simp, rfl⟩, ?_⟩
  rw [hsums hwords, hok]

end Reserved

end ProtoSchema
