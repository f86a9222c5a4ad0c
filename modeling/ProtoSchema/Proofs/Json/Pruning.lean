/-
Values without null members.

In a document a null member says no more than a missing one. Pruning takes the null members out
of all objects of a value and leaves items of arrays where they are (`pruned`). What it must not
touch is the target of a custom option, where a null has a meaning of its own: it may stand under
its name, and in a custom option that is written as an array it is the fifth item. So pruning
keeps track of where in a document it is (`Site`).

Pruning changes neither the shape of a value nor how deep it nests, since a null is not nested at
all, and a look-up by name finds what it found before, in its pruned form, unless that was null.
-/
import ProtoSchema.Json.Error
import ProtoSchema.Proofs.KeyMap

set_option autoImplicit false

namespace ProtoSchema

namespace Json

/-! ## Pruning -/

/-- **Where a value stands in a document.** -/
inductive Site where
  | document
  /-- The list of all custom options. -/
  | customOptions
  | customOption
  /-- The target of a custom option, which is left as it is. -/
  | target
  | elsewhere
deriving DecidableEq, Repr

/-- The name under which a custom option has its target. -/
def targetName : String := "option_type"

namespace Site

/-- The site of an object's member. A member with the name of a target counts as one anywhere. -/
def member (site : Site) (name : String) : Site :=
  if name = targetName then .target
  else if site = .document ∧ name = "custom_options" then .customOptions
  else .elsewhere

/-- The site of an array's item. The custom options are the sixth field of a document, and the
target is the fifth field of a custom option. -/
def item : Site → Nat → Site
  | .document, 5 => .customOptions
  | .customOptions, _ => .customOption
  | .customOption, 4 => .target
  | _, _ => .elsewhere

/-- A member with the name of a target is one, wherever its object stands. -/
theorem member_targetName (site : Site) : site.member targetName = .target := if_pos rfl

theorem member_elsewhere {name : String} (h : name ≠ targetName) :
    Site.elsewhere.member name = .elsewhere := by
  rw [member, if_neg h, if_neg]
  rintro ⟨hsite, -⟩
  cases hsite

end Site

mutual

/-- **The value without null members**, given where it stands. -/
def pruned : Site → Json → Json
  | .target, v => v
  | site, .array items => .array (prunedItems site 0 items)
  | site, .object members => .object (prunedMembers site members)
  | _, v => v

/-- The items of an array, each pruned, from the one at `index` on. -/
def prunedItems (site : Site) (index : Nat) : List Json → List Json
  | [] => []
  | v :: rest => v.pruned (site.item index) :: prunedItems site (index + 1) rest

/-- The members of an object that are not null, each pruned, and the target. -/
def prunedMembers (site : Site) : List (String × Json) → List (String × Json)
  | [] => []
  | (name, v) :: rest =>
    if v = .null ∧ name ≠ targetName then prunedMembers site rest
    else (name, v.pruned (site.member name)) :: prunedMembers site rest

end

/-- The target of a custom option is left as it is. -/
theorem pruned_target (v : Json) : v.pruned .target = v := by
  cases v <;> rfl

section Sites

variable {site : Site}

theorem pruned_array (h : site ≠ .target) (items : List Json) :
    (Json.array items).pruned site = .array (prunedItems site 0 items) := by
  cases site with
  | target => contradiction
  | _ => rfl

theorem pruned_object (h : site ≠ .target) (members : List (String × Json)) :
    (Json.object members).pruned site = .object (prunedMembers site members) := by
  cases site with
  | target => contradiction
  | _ => rfl

/-- A null member is dropped unless it stands for a target. -/
theorem prunedMembers_cons_null {name : String} (h : name ≠ targetName)
    (rest : List (String × Json)) :
    prunedMembers site ((name, .null) :: rest) = prunedMembers site rest := by
  rw [prunedMembers, if_pos ⟨rfl, h⟩]

/-- A member that is not null is kept under its name, and so is one that stands for a target. -/
theorem prunedMembers_cons {name : String} {v : Json} (h : v = .null → name = targetName)
    (rest : List (String × Json)) :
    prunedMembers site ((name, v) :: rest) =
      (name, v.pruned (site.member name)) :: prunedMembers site rest := by
  rw [prunedMembers, if_neg fun hnull => hnull.2 (h hnull.1)]

/-! ## What pruning keeps -/

variable (site)

/-- **Pruning keeps the shape of a value.** -/
theorem shape_pruned (v : Json) : (v.pruned site).shape = v.shape := by
  cases v <;> cases site <;> rfl

/-- Pruning neither makes a null nor takes one away that is not a member. -/
theorem pruned_eq_null (v : Json) : v.pruned site = .null ↔ v = .null := by
  cases v <;> cases site <;> simp [pruned]

/-- An array keeps all its items. -/
theorem length_prunedItems (index : Nat) (items : List Json) :
    (prunedItems site index items).length = items.length := by
  induction items generalizing index with
  | nil => rfl
  | cons v rest ih => rw [prunedItems, List.length_cons, ih, List.length_cons]

/-- Pruning adds no members. -/
theorem mem_keys_of_mem_keys_prunedMembers {name : String} {members : List (String × Json)}
    (h : name ∈ KeyMap.keys (prunedMembers site members)) : name ∈ KeyMap.keys members := by
  induction members with
  | nil => exact h
  | cons m rest ih =>
    obtain ⟨other, v⟩ := m
    rw [prunedMembers] at h
    split at h
    · exact List.mem_cons_of_mem _ (ih h)
    · rcases List.mem_cons.mp h with heq | hmem
      · exact List.mem_cons.mpr (.inl heq)
      · exact List.mem_cons_of_mem _ (ih hmem)

/-- A target is never taken out. -/
theorem targetName_mem_keys_prunedMembers (members : List (String × Json)) :
    targetName ∈ KeyMap.keys (prunedMembers site members) ↔
      targetName ∈ KeyMap.keys members := by
  refine ⟨mem_keys_of_mem_keys_prunedMembers site, fun h => ?_⟩
  induction members with
  | nil => exact h
  | cons m rest ih =>
    obtain ⟨other, v⟩ := m
    rcases List.mem_cons.mp h with heq | hmem
    · rw [prunedMembers_cons fun _ => heq.symm]
      exact List.mem_cons.mpr (.inl heq)
    · rw [prunedMembers]
      split
      · exact ih hmem
      · exact List.mem_cons_of_mem _ (ih hmem)

/-- **A look-up finds the pruned value**, unless that is null. -/
theorem find?_prunedMembers {members : List (String × Json)} (h : KeyMap.Ascending members)
    {name : String} (hname : name ≠ targetName) :
    KeyMap.find? (prunedMembers site members) name =
      (KeyMap.find? members name).bind fun v =>
        if v = .null then none else some (v.pruned (site.member name)) := by
  induction members with
  | nil => rfl
  | cons m rest ih =>
    obtain ⟨other, v⟩ := m
    obtain ⟨hlt, hrest⟩ := KeyMap.ascending_cons.mp h
    by_cases hother : other = name
    · subst hother
      -- no later member has the name
      have hnone : KeyMap.find? rest other = none := by
        rw [KeyMap.find?_eq_none_iff]
        exact fun hmem => String.lt_irrefl other (hlt other hmem)
      rw [KeyMap.find?_cons, if_pos rfl, Option.bind_some]
      by_cases hv : v = .null
      · subst hv
        rw [prunedMembers_cons_null hname, ih hrest, hnone, if_pos rfl, Option.bind_none]
      · rw [prunedMembers_cons fun hnull => absurd hnull hv, KeyMap.find?_cons, if_pos rfl,
          if_neg hv]
    · rw [KeyMap.find?_cons, if_neg hother, ← ih hrest, prunedMembers]
      split
      · rfl
      · rw [KeyMap.find?_cons, if_neg hother]

end Sites

/-! ## Nesting -/

mutual

/-- **Pruning keeps the nesting**: what is taken out is not nested. -/
theorem height_pruned : ∀ (site : Site) (v : Json), (v.pruned site).height = v.height
  | site, .null | site, .bool _ | site, .number _ | site, .string _ => by
    cases site <;> rfl
  | site, .array items => by
    by_cases hsite : site = .target
    · rw [hsite, pruned_target]
    · rw [pruned_array hsite, height, height, heightItems_prunedItems site 0 items]
  | site, .object members => by
    by_cases hsite : site = .target
    · rw [hsite, pruned_target]
    · rw [pruned_object hsite, height, height, heightMembers_prunedMembers site members]

theorem heightItems_prunedItems : ∀ (site : Site) (index : Nat) (items : List Json),
    heightItems (prunedItems site index items) = heightItems items
  | _, _, [] => rfl
  | site, index, v :: rest => by
    rw [prunedItems, heightItems, heightItems, height_pruned _ v,
      heightItems_prunedItems site (index + 1) rest]

theorem heightMembers_prunedMembers : ∀ (site : Site) (members : List (String × Json)),
    heightMembers (prunedMembers site members) = heightMembers members
  | _, [] => rfl
  | site, (name, v) :: rest => by
    rw [prunedMembers, heightMembers]
    split
    · rename_i hnull
      have hzero : Json.null.height = 0 := rfl
      rw [hnull.1, heightMembers_prunedMembers site rest, hzero, Nat.zero_max]
    · rw [heightMembers, height_pruned _ v, heightMembers_prunedMembers site rest]

end

end Json

end ProtoSchema
