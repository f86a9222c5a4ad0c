/-
The arguments of the protocol compiler.

Files are added to an invocation in any number of calls, and each call compares its names with a
list that the calls before it have made longer. Still the end result depends only on the names of
all calls in a row (`foldl_addFiles`): the arguments that were there first, untouched, and then the
names that are none of them, each once and in the order in which they first appear (`fresh`).
-/
import Mathlib.Data.List.Basic
import Mathlib.Data.List.Induction
import ProtoSchema.Protoc

set_option autoImplicit false

namespace ProtoSchema

namespace Protoc

/-- **The names that are no arguments yet**, each once, in the order of their first appearance. -/
def fresh (p : Protoc) (names : List String) : List String :=
  (names.filter fun name => !p.arguments.contains name).eraseDups

/-- A fresh name is one of the names, and no argument yet. -/
theorem mem_fresh {p : Protoc} {names : List String} {name : String} :
    name ∈ p.fresh names ↔ name ∈ names ∧ name ∉ p.arguments := by
  simp [fresh]

/-- A name is fresh at the end of others if it is no argument and did not appear among them. -/
theorem fresh_concat (p : Protoc) (names : List String) (name : String) :
    p.fresh (names ++ [name]) =
      p.fresh names ++ if name ∈ p.arguments ∨ name ∈ names then [] else [name] := by
  rw [fresh, List.filter_append, List.eraseDups_append, ← fresh]
  congr 1
  by_cases hargument : name ∈ p.arguments
  · simp [hargument, List.removeAll]
  · by_cases hearlier : name ∈ names
    · simp [hargument, hearlier, List.removeAll]
    · simp [hargument, hearlier, List.removeAll, List.eraseDups_cons]

/-- Fresh names come in the order in which they first appear. -/
theorem pairwise_fresh (p : Protoc) (names : List String) :
    (p.fresh names).Pairwise fun a b => names.idxOf a < names.idxOf b := by
  induction names using List.reverseRecOn with
  | nil => exact List.Pairwise.nil
  | append_singleton names name ih =>
    -- at the end of the list a name that is there already keeps the place of its first appearance
    have hplace : ∀ a ∈ p.fresh names, (names ++ [name]).idxOf a = names.idxOf a := by
      intro a ha
      exact List.idxOf_append_of_mem (mem_fresh.mp ha).1
    rw [fresh_concat]
    refine List.pairwise_append.mpr ⟨?_, ?_, ?_⟩
    · refine ih.imp_of_mem ?_
      intro a b ha hb hlt
      rwa [hplace a ha, hplace b hb]
    · split_ifs
      · exact List.Pairwise.nil
      · exact List.pairwise_singleton _ _
    · intro a ha b hb
      split_ifs at hb with hknown
      · cases hb
      · rw [List.mem_singleton.mp hb, hplace a ha,
          List.idxOf_append_of_notMem (mt .inr hknown), List.idxOf_cons_self, Nat.add_zero]
        exact List.idxOf_lt_length_iff.mpr (mem_fresh.mp ha).1

/-- No fresh name comes twice. -/
theorem nodup_fresh (p : Protoc) (names : List String) : (p.fresh names).Nodup := by
  refine (pairwise_fresh p names).imp ?_
  rintro a b hlt rfl
  exact Nat.lt_irrefl _ hlt

/-! ## Adding files -/

/-- A file that is an argument already is not added again. -/
theorem addFile_of_mem {p : Protoc} {name : String} (h : name ∈ p.arguments) :
    p.addFile name = p := by
  rw [addFile, if_pos (List.contains_iff_mem.mpr h)]

/-- Any other file is added behind the arguments. -/
theorem addFile_of_not_mem {p : Protoc} {name : String} (h : name ∉ p.arguments) :
    p.addFile name = { p with arguments := p.arguments ++ [name] } := by
  rw [addFile, if_neg (mt List.contains_iff_mem.mp h)]

/-- Either way it is an argument afterwards, and no other file is new. -/
theorem mem_arguments_addFile {p : Protoc} {name other : String} :
    other ∈ (p.addFile name).arguments ↔ other ∈ p.arguments ∨ other = name := by
  by_cases h : name ∈ p.arguments
  · rw [addFile_of_mem h, or_iff_left_of_imp]
    rintro rfl
    exact h
  · rw [addFile_of_not_mem h, List.mem_append, List.mem_singleton]

theorem addFiles_concat (p : Protoc) (names : List String) (name : String) :
    p.addFiles (names ++ [name]) = (p.addFiles names).addFile name := List.foldl_concat ..

/-- What the next name is compared with are the first arguments and the names so far. -/
theorem mem_arguments_addFiles {p : Protoc} {names : List String} {name : String} :
    name ∈ (p.addFiles names).arguments ↔ name ∈ p.arguments ∨ name ∈ names := by
  induction names using List.reverseRecOn with
  | nil => exact (or_iff_left List.not_mem_nil).symm
  | append_singleton names last ih =>
    rw [addFiles_concat, mem_arguments_addFile, ih, List.mem_append, List.mem_singleton, or_assoc]

/-- **Adding files puts the fresh names behind the arguments**, and leaves those untouched. -/
theorem addFiles_eq (p : Protoc) (names : List String) :
    p.addFiles names = { p with arguments := p.arguments ++ p.fresh names } := by
  induction names using List.reverseRecOn with
  | nil =>
    show p = { p with arguments := p.arguments ++ [] }
    rw [List.append_nil]
  | append_singleton names name ih =>
    rw [addFiles_concat, fresh_concat]
    by_cases h : name ∈ p.arguments ∨ name ∈ names
    · rw [addFile_of_mem (mem_arguments_addFiles.mpr h), if_pos h, List.append_nil, ih]
    · rw [addFile_of_not_mem (mt mem_arguments_addFiles.mp h), if_neg h, ih, List.append_assoc]

/-- Names that are arguments already add nothing. -/
theorem addFiles_of_subset {p : Protoc} {names : List String} (h : names ⊆ p.arguments) :
    p.addFiles names = p := by
  induction names with
  | nil => rfl
  | cons name names ih =>
    obtain ⟨hname, hnames⟩ := List.cons_subset.mp h
    show (p.addFile name).addFiles names = p
    rw [addFile_of_mem hname, ih hnames]

/-- **Only the names of all calls in a row count**, however they are split over the calls. -/
theorem foldl_addFiles (p : Protoc) (calls : List (List String)) :
    calls.foldl addFiles p = p.addFiles calls.flatten :=
  List.foldl_flatten.symm

/-- A call may be repeated at any later time. -/
theorem foldl_addFiles_repeated (p : Protoc) (before : List (List String)) (names : List String)
    (between after : List (List String)) :
    (before ++ names :: between ++ names :: after).foldl addFiles p =
      (before ++ names :: between ++ after).foldl addFiles p := by
  rw [List.foldl_append, List.foldl_append (l := before ++ names :: between), List.foldl_cons,
    addFiles_of_subset]
  -- the first of the two calls made its names arguments, and later calls keep them
  intro name hname
  rw [foldl_addFiles, mem_arguments_addFiles, List.mem_flatten]
  exact .inr ⟨names, List.mem_append_right _ List.mem_cons_self, hname⟩

end Protoc

end ProtoSchema
