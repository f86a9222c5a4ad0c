/-
What a file imports.

Every part of a document asks for at most one file (`request?`), and the imports are the set of
the files asked for. The collector inserts them one by one into an ascending map, so the list
it ends with depends on that set alone: neither on the order of the parts nor on how often a
file is asked for.
-/
import ProtoSchema.Imports
import ProtoSchema.Proofs.KeyMap

set_option autoImplicit false

namespace ProtoSchema

namespace NameSet

/-- **Sets of strings are their members.** -/
theorem eq_of_mem_iff {s t : NameSet} (hs : s.Ascending) (ht : t.Ascending)
    (h : ∀ name, name ∈ s.toList ↔ name ∈ t.toList) : s = t := by
  refine KeyMap.eq_of_find?_eq hs ht ?_
  intro name
  have hsome : (s.find? name).isSome ↔ (t.find? name).isSome := by
    rw [KeyMap.find?_isSome_iff, KeyMap.find?_isSome_iff]
    exact h name
  -- the only value is the unit, so a look-up says no more than whether there is one
  cases hf : s.find? name <;> cases hg : t.find? name <;> simp_all

end NameSet

namespace Imports

open Schema (Part)

/-- **The file that a part asks for**, in the file named `current`. -/
def request? (current : String) : Part → Option String
  | .customOption _ => some Schema.descriptorFile
  | .typeRef t =>
    if t.filename.isEmpty || t.filename == current then none else some t.filename
  | _ => none

/-- The files that parts ask for, in reading order. -/
def requests (current : String) (parts : List Part) : List String :=
  parts.filterMap (request? current)

theorem requests_append (current : String) (ps qs : List Part) :
    requests current (ps ++ qs) = requests current ps ++ requests current qs :=
  List.filterMap_append

theorem requests_cons (current : String) (p : Part) (ps : List Part) :
    requests current (p :: ps) = (request? current p).toList ++ requests current ps := by
  rw [requests, List.filterMap_cons]
  cases request? current p <;> rfl

/-- A part asks before what is inside it. -/
theorem requests_followedBy (current : String) (p : Part) (inside : List Part) :
    requests current (p.followedBy Schema.everywhere inside) =
      (request? current p).toList ++ requests current inside := requests_cons current p inside

theorem requests_flatMap {α : Type} (current : String) (xs : List α) (f : α → List Part) :
    requests current (xs.flatMap f) = xs.flatMap fun x => requests current (f x) := by
  induction xs with
  | nil => rfl
  | cons x xs ih => rw [List.flatMap_cons, requests_append, ih, List.flatMap_cons]

/-- One part adds what it asks for. -/
theorem mem_step (current : String) (imports : NameSet) (part : Part) (name : String) :
    name ∈ (step current imports part).toList ↔
      request? current part = some name ∨ name ∈ imports.toList := by
  cases part with
  | customOption c =>
    simp only [step, request?, NameSet.add, NameSet.toList, KeyMap.mem_keys_insert,
      Option.some.injEq, eq_comm]
  | typeRef t =>
    simp only [step, request?]
    split
    · simp
    · simp only [NameSet.add, NameSet.toList, KeyMap.mem_keys_insert, Option.some.injEq, eq_comm]
  | _ => simp [step, request?]

/-- A step keeps the imports ascending. -/
theorem ascending_step {imports : NameSet} (h : imports.Ascending) (current : String)
    (part : Part) : (step current imports part).Ascending := by
  cases part with
  | customOption c => exact h.insert _ _
  | typeRef t =>
    simp only [step]
    split
    · exact h
    · exact h.insert _ _
  | _ => exact h

/-- **The imports after a run** are those before it and what the parts asked for. -/
theorem mem_foldl_step (current : String) (parts : List Part) (imports : NameSet) (name : String) :
    name ∈ (parts.foldl (step current) imports).toList ↔
      name ∈ requests current parts ∨ name ∈ imports.toList := by
  induction parts generalizing imports with
  | nil => simp [requests]
  | cons part parts ih =>
    -- what the first part asks for is in the set from its step on
    rw [List.foldl_cons, ih, mem_step]
    simp only [requests, List.mem_filterMap, List.mem_cons]
    constructor
    · rintro (⟨p, hp, hreq⟩ | hreq | hmem)
      · exact .inl ⟨p, .inr hp, hreq⟩
      · exact .inl ⟨part, .inl rfl, hreq⟩
      · exact .inr hmem
    · rintro (⟨p, rfl | hp, hreq⟩ | hmem)
      · exact .inr (.inl hreq)
      · exact .inl ⟨p, hp, hreq⟩
      · exact .inr (.inr hmem)

/-- The imports are ascending after any run. -/
theorem ascending_foldl_step {imports : NameSet} (h : imports.Ascending) (current : String)
    (parts : List Part) : (parts.foldl (step current) imports).Ascending := by
  induction parts generalizing imports with
  | nil => exact h
  | cons part parts ih => exact ih (ascending_step h current part)

end Imports

open Imports

/-- **A file imports exactly what its parts ask for.** -/
theorem Schema.File.mem_imports (f : Schema.File) (name : String) :
    name ∈ f.imports ↔ name ∈ requests f.name (f.parts everywhere) := by
  rw [Schema.File.imports, collect, mem_foldl_step]
  simp [NameSet.toList, KeyMap.keys, Schema.Part.parts]

/-- Files whose parts ask for the same files have the same list of imports. -/
theorem Schema.File.imports_eq {f g : Schema.File}
    (h : ∀ name, name ∈ requests f.name (f.parts everywhere) ↔
      name ∈ requests g.name (g.parts everywhere)) : f.imports = g.imports := by
  have hset : collect f.name [] (.file f) = collect g.name [] (.file g) := by
    refine NameSet.eq_of_mem_iff (ascending_foldl_step KeyMap.ascending_nil _ _)
      (ascending_foldl_step KeyMap.ascending_nil _ _) ?_
    intro name
    have hf := f.mem_imports name
    have hg := g.mem_imports name
    rw [Schema.File.imports] at hf hg
    rw [hf, hg, h name]
  rw [Schema.File.imports, Schema.File.imports, hset]

end ProtoSchema
