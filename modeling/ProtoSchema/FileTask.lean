/-
Computations on a file tree that may fail.

What was written before a failure stays written: a computation that fails still leaves a
tree behind. The order of the two layers says so, failure inside and the tree around it.
-/
import ProtoSchema.FileTree

set_option autoImplicit false

namespace ProtoSchema

/-- **A computation on a file tree** that fails with an `ε` or ends with an `α`. -/
abbrev FileTask (ε α : Type) := ExceptT ε (StateM FileTree) α

namespace FileTask

variable {ε α : Type}

/-- Asks the tree, and fails as said if there is no answer. -/
def ask (query : FileTree → Except FileTree.Fault α) (failure : ε) : FileTask ε α := do
  match query (← get) with
  | .ok a => return a
  | .error _ => throw failure

/-- Changes the tree, and fails as said if that is not possible. -/
def change (update : FileTree → Except FileTree.Fault FileTree) (failure : ε) :
    FileTask ε Unit := do
  match update (← get) with
  | .ok tree => set tree
  | .error _ => throw failure

/-- The value of an outcome, or its failure. -/
def lift (outcome : Except ε α) : FileTask ε α :=
  match outcome with
  | .ok a => pure a
  | .error e => throw e

/-- The outcome on a tree, and the tree afterwards. -/
def runOn (task : FileTask ε α) (tree : FileTree) : Except ε α × FileTree :=
  (ExceptT.run task).run tree

end FileTask

end ProtoSchema
