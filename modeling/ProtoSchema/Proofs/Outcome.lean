/-
Outcomes of fallible steps.

A computation of this library either yields its result or stops at a fault. Four views of it
serve all proofs: from a sequence that yields a result each step's own result can be read off
(`bind_eq_ok`); forgetting which fault it was leaves an optional result (`toOption_bind`);
the fault of a sequence whose later steps fail independently of the earlier results is the
first fault of its steps (`fault?_bind`); and two computations side by side agree if each pair of
steps does (`Agree.bind`).
-/
import Mathlib.Data.List.Forall2
import ProtoSchema.KeyMap

set_option autoImplicit false

namespace ProtoSchema

namespace Outcome

variable {ε α β : Type}

/-! ## Results -/

/-- Two steps succeed exactly if each of them does, the second on what the first gave. -/
theorem bind_eq_ok {x : Except ε α} {f : α → Except ε β} {b : β} :
    x >>= f = .ok b ↔ ∃ a, x = .ok a ∧ f a = .ok b := by
  cases x with
  | error e => simp [bind, Except.bind]
  | ok a => simp [bind, Except.bind]

theorem map_eq_ok {x : Except ε α} {f : α → β} {b : β} :
    f <$> x = .ok b ↔ ∃ a, x = .ok a ∧ f a = b := by
  cases x with
  | error e => simp [Functor.map, Except.map]
  | ok a => simp [Functor.map, Except.map]

theorem pure_eq_ok {a b : α} : (pure a : Except ε α) = .ok b ↔ a = b := by
  simp [pure, Except.pure]

/-- A run over a list yields the result of every step, in order. -/
theorem mapM_eq_ok {f : α → Except ε β} {xs : List α} {ys : List β} :
    xs.mapM f = .ok ys ↔ List.Forall₂ (fun x y => f x = .ok y) xs ys := by
  induction xs generalizing ys with
  | nil => rw [List.mapM_nil, pure_eq_ok, List.forall₂_nil_left_iff, eq_comm]
  | cons x xs ih =>
    rw [List.mapM_cons, bind_eq_ok, List.forall₂_cons_left_iff]
    simp only [bind_eq_ok, pure_eq_ok, ih]
    constructor
    · rintro ⟨y, hy, ys, hys, rfl⟩
      exact ⟨y, ys, hy, hys, rfl⟩
    · rintro ⟨y, ys, hy, hys, rfl⟩
      exact ⟨y, hy, ys, hys, rfl⟩

/-! ## Forgetting the fault -/

theorem toOption_eq_some {x : Except ε α} {a : α} : x.toOption = some a ↔ x = .ok a := by
  cases x <;> simp [Except.toOption]

/-- Whether steps succeed does not depend on their errors. -/
theorem toOption_bind (x : Except ε α) (f : α → Except ε β) :
    (x >>= f).toOption = x.toOption.bind fun a => (f a).toOption := by
  cases x <;> rfl

/-- Outcomes with the same results are the same up to their faults. -/
theorem toOption_eq_of_forall {x y : Except ε α} (h : ∀ a, x = .ok a ↔ y = .ok a) :
    x.toOption = y.toOption := by
  ext a
  rw [toOption_eq_some, toOption_eq_some, h]

/-! ## Faults -/

/-- The fault at which a computation stopped. -/
def fault? : Except ε α → Option ε
  | .ok _ => none
  | .error e => some e

/-- No fault is success. -/
theorem fault?_eq_none {x : Except ε α} : fault? x = none ↔ ∃ a, x = .ok a := by
  cases x <;> simp [fault?]

theorem fault?_eq_some {x : Except ε α} {e : ε} : fault? x = some e ↔ x = .error e := by
  cases x <;> simp [fault?]

/-- Changing the result of a success leaves a fault as it is. -/
theorem fault?_map (f : α → β) (x : Except ε α) : fault? (f <$> x) = fault? x := by
  cases x <;> rfl

/-- **The first fault counts.** -/
theorem fault?_bind (x : Except ε α) {f : α → Except ε β} {e : Option ε}
    (h : ∀ a, fault? (f a) = e) : fault? (x >>= f) = (fault? x).or e := by
  cases x with
  | error d => rfl
  | ok a => exact h a

theorem fault?_pure (a : α) : fault? (pure a : Except ε α) = none := rfl

/-! A run over a list stops at its first fault: it is that of a step before which no step fails. -/

section FirstFault

variable {σ : Type} {x : Except ε α} {faultOf : σ → Option ε} {steps : List σ}

/-- **Steps that fail at their first fault** succeed exactly if none of them has one. -/
theorem exists_ok_iff_of_findSome? (h : fault? x = steps.findSome? faultOf) :
    (∃ a, x = .ok a) ↔ ∀ s ∈ steps, faultOf s = none := by
  rw [← fault?_eq_none, h, List.findSome?_eq_none_iff]

/-- They fail with an error exactly if it is the fault of a step before which there is none. -/
theorem eq_error_iff_of_findSome? (h : fault? x = steps.findSome? faultOf) {e : ε} :
    x = .error e ↔ ∃ before s after, steps = before ++ s :: after ∧
      (∀ t ∈ before, faultOf t = none) ∧ faultOf s = some e := by
  rw [← fault?_eq_some, h, List.findSome?_eq_some_iff]
  simp only [and_comm]

end FirstFault

/-! ## Two computations side by side -/

/-- **Outcomes that agree**: both computations yield results, and these are related, or both stop
at the same fault. -/
inductive Agree (R : α → β → Prop) : Except ε α → Except ε β → Prop where
  | ok {a : α} {b : β} (h : R a b) : Agree R (.ok a) (.ok b)
  | error (e : ε) : Agree R (.error e) (.error e)

namespace Agree

variable {γ δ : Type} {R : α → β → Prop} {S : γ → δ → Prop}

theorem of_eq {R : α → α → Prop} (h : ∀ a, R a a) {x y : Except ε α} (hxy : x = y) :
    Agree R x y := by
  subst hxy
  cases x with
  | error e => exact .error e
  | ok a => exact .ok (h a)

/-- Related results have to lead to outcomes that agree. -/
theorem bind {x : Except ε α} {y : Except ε β} {f : α → Except ε γ} {g : β → Except ε δ}
    (h : Agree R x y) (hfg : ∀ a b, R a b → Agree S (f a) (g b)) : Agree S (x >>= f) (y >>= g) := by
  cases h with
  | ok hab => exact hfg _ _ hab
  | error e => exact .error e

/-- Agreement goes through functions that keep it. -/
theorem map {x : Except ε α} {y : Except ε β} {f : α → γ} {g : β → δ}
    (h : Agree R x y) (hfg : ∀ a b, R a b → S (f a) (g b)) : Agree S (f <$> x) (g <$> y) := by
  cases h with
  | ok hab => exact .ok (hfg _ _ hab)
  | error e => exact .error e

/-- Outcomes that agree fail with the same errors. -/
theorem error_iff {x : Except ε α} {y : Except ε β} (h : Agree R x y) (e : ε) :
    x = .error e ↔ y = .error e := by
  cases h with
  | ok _ => simp
  | error d => simp

/-- They succeed together, with results that are related. -/
theorem exists_ok {x : Except ε α} {y : Except ε β} (h : Agree R x y) {a : α} (hx : x = .ok a) :
    ∃ b, y = .ok b ∧ R a b := by
  cases h with
  | ok hab =>
    cases hx
    exact ⟨_, rfl, hab⟩
  | error e => cases hx

end Agree

end Outcome

end ProtoSchema
