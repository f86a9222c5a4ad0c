/-
Computations on a file tree, step by step.

What a computation does on a tree is a pair: its outcome, and the tree that it leaves behind.
The lemmas here say what the pair is for each way to put computations together. A failed step
ends the computation with the tree that the step left.
-/
import ProtoSchema.FileTask

set_option autoImplicit false

namespace ProtoSchema

namespace FileTask

variable {ε δ α β : Type}

theorem runOn_pure (a : α) (t : FileTree) : runOn (pure a : FileTask ε α) t = (.ok a, t) := rfl

/-- Looking at the tree changes nothing. -/
theorem runOn_get_bind (f : FileTree → FileTask ε α) (t : FileTree) :
    runOn (get >>= f) t = runOn (f t) t := rfl

/-- An outcome comes with the tree that is left behind. -/
theorem exists_runOn_eq {task : FileTask ε α} {t : FileTree} {outcome : Except ε α}
    (h : (runOn task t).1 = outcome) : ∃ t', runOn task t = (outcome, t') :=
  ⟨(runOn task t).2, Prod.ext h rfl⟩

/-- An outcome as a task leaves the tree alone. -/
theorem runOn_lift (outcome : Except ε α) (t : FileTree) :
    runOn (lift outcome) t = (outcome, t) := by
  cases outcome with
  | error e => rfl
  | ok a => rfl

/-- A change that fails leaves the tree as it was. -/
theorem runOn_change (update : FileTree → Except FileTree.Fault FileTree) (failure : ε)
    (t : FileTree) :
    runOn (change update failure) t = match update t with
      | .ok t' => (.ok (), t')
      | .error _ => (.error failure, t) := by
  change runOn (match update t with
    | .ok tree => set tree
    | .error _ => throw failure : FileTask ε Unit) t = _
  cases update t with
  | error e => rfl
  | ok t' => rfl

theorem runOn_change_eq_ok {update : FileTree → Except FileTree.Fault FileTree} {failure : ε}
    {t t' : FileTree} :
    runOn (change update failure) t = (.ok (), t') ↔ update t = .ok t' := by
  rw [runOn_change]
  cases update t with
  | error e => simp
  | ok t₁ => simp

/-- **One step and then another.** The first failure ends a computation. -/
theorem runOn_bind (x : FileTask ε α) (f : α → FileTask ε β) (t : FileTree) :
    runOn (x >>= f) t = match runOn x t with
      | (.ok a, t') => runOn (f a) t'
      | (.error e, t') => (.error e, t') := by
  change (ExceptT.bindCont f (runOn x t).1).run (runOn x t).2 = _
  obtain ⟨outcome, t'⟩ := runOn x t
  cases outcome with
  | error e => rfl
  | ok a => rfl

/-- **Two tasks succeed one after the other** if the second succeeds on the tree that the first
left. -/
theorem runOn_bind_eq_ok {x : FileTask ε α} {f : α → FileTask ε β} {b : β} {t t' : FileTree} :
    runOn (x >>= f) t = (.ok b, t') ↔
      ∃ a t₁, runOn x t = (.ok a, t₁) ∧ runOn (f a) t₁ = (.ok b, t') := by
  rw [runOn_bind]
  obtain ⟨outcome, t₁⟩ := runOn x t
  cases outcome with
  | error e => simp
  | ok a =>
    constructor
    · intro h
      exact ⟨a, t₁, rfl, h⟩
    · rintro ⟨a, t₁, ⟨⟩, h⟩
      exact h

/-- **They fail** if the first does, or the second on the tree that the first left. -/
theorem runOn_bind_eq_error {x : FileTask ε α} {f : α → FileTask ε β} {e : ε} {t t' : FileTree} :
    runOn (x >>= f) t = (.error e, t') ↔
      runOn x t = (.error e, t') ∨
        ∃ a t₁, runOn x t = (.ok a, t₁) ∧ runOn (f a) t₁ = (.error e, t') := by
  rw [runOn_bind]
  obtain ⟨outcome, t₁⟩ := runOn x t
  cases outcome with
  | error e => simp
  | ok a =>
    constructor
    · intro h
      exact .inr ⟨a, t₁, rfl, h⟩
    · rintro (h | ⟨a, t₁, ⟨⟩, h⟩)
      · cases h
      · exact h

/-- **A loop fails at one of its elements**, on the tree that the elements before it left. -/
theorem runOn_foldlM_eq_error {f : β → α → FileTask ε β} {b : β} {xs : List α} {e : ε}
    {t t' : FileTree} :
    runOn (xs.foldlM f b) t = (.error e, t') ↔
      ∃ earlier a later b₁ t₁, xs = earlier ++ a :: later ∧
        runOn (earlier.foldlM f b) t = (.ok b₁, t₁) ∧ runOn (f b₁ a) t₁ = (.error e, t') := by
  constructor
  · intro h
    induction xs generalizing b t with
    | nil => cases h
    | cons x xs ih =>
      rw [List.foldlM_cons] at h
      obtain h | ⟨b₁, t₁, hx, h⟩ := runOn_bind_eq_error.mp h
      · exact ⟨[], x, xs, b, t, rfl, rfl, h⟩
      · -- the first element went well, so it joins those before the failing one
        obtain ⟨earlier, a, later, b₂, t₂, rfl, hearlier, ha⟩ := ih h
        refine ⟨x :: earlier, a, later, b₂, t₂, rfl, ?_, ha⟩
        rw [List.foldlM_cons]
        exact runOn_bind_eq_ok.mpr ⟨b₁, t₁, hx, hearlier⟩
  · rintro ⟨earlier, a, later, b₁, t₁, rfl, hearlier, ha⟩
    rw [List.foldlM_append]
    refine runOn_bind_eq_error.mpr (.inr ⟨b₁, t₁, hearlier, ?_⟩)
    rw [List.foldlM_cons]
    exact runOn_bind_eq_error.mpr (.inl ha)

theorem runOn_adapt (f : ε → δ) (x : FileTask ε α) (t : FileTree) :
    runOn (ExceptT.adapt f x) t = ((runOn x t).1.mapError f, (runOn x t).2) := by
  rfl

end FileTask

end ProtoSchema
