/-
Inputs that fail.

Inputs are evaluated one after the other, scripts before documents, and each of them on the tree
that the ones before it left. The evaluation of all inputs fails exactly if that of one of them
does, and then with its failure (`Inputs.evaluate_eq_error`): no failure is passed over, and none
comes from anywhere else. This is so whatever the programs are that evaluate the scripts.
-/
import ProtoSchema.Proofs.FileTask
import ProtoSchema.Source.Evaluate

set_option autoImplicit false

namespace ProtoSchema

open FileTask

/-! ## Scripts in jsonnet -/

namespace Jsonnet

variable {interpreter : Interpreter} {searchPaths scripts : List String} {e : Failure}
  {t t' : FileTree}

/-- Evaluation is what the interpreter makes of the scripts, and leaves the tree as it is. -/
theorem runOn_evaluate (h : scripts ≠ []) :
    (evaluate interpreter searchPaths scripts).runOn t =
      (bundleOn interpreter searchPaths scripts t, t) := by
  rw [evaluate, if_neg (by simpa using h), runOn_get_bind, runOn_lift]

/-- **Jsonnet scripts fail** exactly if there are some and the interpreter makes no bundle of them.
They are evaluated together, so that it is not said which of them fails. -/
theorem evaluate_eq_error :
    (evaluate interpreter searchPaths scripts).runOn t = (.error e, t') ↔
      scripts ≠ [] ∧ bundleOn interpreter searchPaths scripts t = .error e ∧ t' = t := by
  -- without scripts the tool is not even looked up
  by_cases hscripts : scripts = []
  · subst hscripts
    constructor
    · intro h
      cases h
    · intro h
      exact absurd rfl h.1
  · rw [runOn_evaluate hscripts, Prod.mk.injEq, eq_comm (a := t)]
    exact ⟨fun h => ⟨hscripts, h⟩, And.right⟩

end Jsonnet

/-! ## Scripts in nickel -/

namespace Nickel

/-- **A nickel script fails**, with this failure and this tree left behind. -/
inductive Fails (tools : Tools) (tool : String) (scripts : List String) (t : FileTree) :
    Failure → FileTree → Prop where
  /-- The tool that exports the scripts is not found. -/
  | tool {e : Failure} {t' : FileTree} (hscripts : scripts ≠ [])
      (h : (tools.locate tool).runOn t = (.error e, t')) : Fails tools tool scripts t e t'
  /-- A script cannot be exported. -/
  | script {e : Failure} {t₁ t₂ t' : FileTree} {path script : String}
      {earlier later : List String} {bundle : Bundle}
      (hscripts : scripts = earlier ++ script :: later)
      (hlocate : (tools.locate tool).runOn t = (.ok path, t₁))
      (hearlier : runOn (earlier.foldlM (addScript tools tool path) []) t₁ = (.ok bundle, t₂))
      (h : (exportScript tools tool path script).runOn t₂ = (.error e, t')) :
      Fails tools tool scripts t e t'

variable {tools : Tools} {tool : String} {scripts : List String} {e : Failure} {t t' : FileTree}

/-- Only the export of a script can fail, its documents are then simply added. -/
theorem addScript_eq_error {path script : String} {bundle : Bundle} :
    (addScript tools tool path bundle script).runOn t = (.error e, t') ↔
      (exportScript tools tool path script).runOn t = (.error e, t') := by
  rw [addScript, runOn_bind_eq_error]
  constructor
  · rintro (h | ⟨docs, t₁, -, h⟩)
    · exact h
    · cases h
  · exact .inl

/-- The tool is looked up first, and then the scripts are evaluated in order. -/
theorem evaluate_eq_bind (h : scripts ≠ []) :
    evaluate tool scripts tools =
      tools.locate tool >>= fun path => scripts.foldlM (addScript tools tool path) [] := by
  rw [evaluate, if_neg (by simpa using h)]

/-- **Nickel scripts fail exactly if one of them does**, or if the tool for them is missing. -/
theorem evaluate_eq_error :
    (evaluate tool scripts tools).runOn t = (.error e, t') ↔ Fails tools tool scripts t e t' := by
  by_cases hscripts : scripts = []
  · subst hscripts
    constructor
    · intro h
      cases h
    · intro h
      cases h with
      | tool hne _ => exact absurd rfl hne
      | script heq => simp at heq
  · rw [evaluate_eq_bind hscripts, runOn_bind_eq_error]
    constructor
    · rintro (h | ⟨path, t₁, hlocate, h⟩)
      · exact .tool hscripts h
      · obtain ⟨earlier, script, later, bundle, t₂, heq, hearlier, h⟩ :=
          runOn_foldlM_eq_error.mp h
        exact .script heq hlocate hearlier (addScript_eq_error.mp h)
    · intro h
      cases h with
      | tool _ h => exact .inl h
      | script heq hlocate hearlier h =>
        have hfold := runOn_foldlM_eq_error.mpr
          ⟨_, _, _, _, _, heq, hearlier, addScript_eq_error.mpr h⟩
        exact .inr ⟨_, _, hlocate, hfold⟩

end Nickel

/-! ## All inputs -/

namespace Inputs

/-- **An input fails**, with this failure and this tree left behind. -/
inductive Fails (inputs : Inputs) (programs : Programs) (searchPaths : List String) (tool : String)
    (t : FileTree) : Failure → FileTree → Prop where
  /-- The interpreter makes no bundle of the jsonnet scripts. -/
  | jsonnet {e : Failure} (hscripts : inputs.jsonnet ≠ [])
      (h : Jsonnet.bundleOn programs.interpreter searchPaths inputs.jsonnet t = .error e) :
      Fails inputs programs searchPaths tool t e t
  | nickel {e : Failure} {t₁ t' : FileTree} {scripted : Bundle}
      (hjsonnet : (Jsonnet.evaluate programs.interpreter searchPaths inputs.jsonnet).runOn t =
        (.ok scripted, t₁))
      (h : Nickel.Fails programs.tools tool inputs.nickel t₁ e t') :
      Fails inputs programs searchPaths tool t e t'
  /-- A JSON source cannot be read, or does not hold documents. -/
  | json {e : Failure} {t₁ t₂ t₃ t' : FileTree} {path : String} {earlier later : List String}
      {scripted exported read : Bundle}
      (hjsonnet : (Jsonnet.evaluate programs.interpreter searchPaths inputs.jsonnet).runOn t =
        (.ok scripted, t₁))
      (hnickel : (Nickel.evaluate tool inputs.nickel programs.tools).runOn t₁ = (.ok exported, t₂))
      (hpaths : inputs.json = earlier ++ path :: later)
      (hearlier : (JsonSource.evaluate earlier).runOn t₂ = (.ok read, t₃))
      (h : (JsonSource.addFile read path).runOn t₃ = (.error e, t')) :
      Fails inputs programs searchPaths tool t e t'

variable {inputs : Inputs} {programs : Programs} {searchPaths : List String} {tool : String}
  {e : Failure} {t t' : FileTree}

/-- **The inputs fail exactly if one of them does.** -/
theorem evaluate_eq_error :
    (inputs.evaluate programs searchPaths tool).runOn t = (.error e, t') ↔
      inputs.Fails programs searchPaths tool t e t' := by
  rw [evaluate, runOn_bind_eq_error, Jsonnet.evaluate_eq_error]
  constructor
  · rintro (⟨hscripts, h, rfl⟩ | ⟨scripted, t₁, hjsonnet, h⟩)
    · exact .jsonnet hscripts h
    · obtain h | ⟨exported, t₂, hnickel, h⟩ := runOn_bind_eq_error.mp h
      · exact .nickel hjsonnet (Nickel.evaluate_eq_error.mp h)
      · obtain h | ⟨read, t₃, -, h⟩ := runOn_bind_eq_error.mp h
        · obtain ⟨earlier, path, later, read, t₃, heq, hearlier, h⟩ := runOn_foldlM_eq_error.mp h
          exact .json hjsonnet hnickel heq hearlier h
        · cases h
  · intro h
    cases h with
    | jsonnet hscripts h => exact .inl ⟨hscripts, h, rfl⟩
    | nickel hjsonnet h =>
      have hfails := Nickel.evaluate_eq_error.mpr h
      exact .inr ⟨_, _, hjsonnet, runOn_bind_eq_error.mpr (.inl hfails)⟩
    | json hjsonnet hnickel heq hearlier h =>
      have hfold := runOn_foldlM_eq_error.mpr ⟨_, _, _, _, _, heq, hearlier, h⟩
      refine .inr ⟨_, _, hjsonnet, runOn_bind_eq_error.mpr (.inr ⟨_, _, hnickel, ?_⟩)⟩
      exact runOn_bind_eq_error.mpr (.inl hfold)

end Inputs

end ProtoSchema
