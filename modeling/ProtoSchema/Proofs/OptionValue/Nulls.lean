/-
Nulls in option values.

A null has no written form, whether it is a whole value or buried in one. `hasNull` looks for
it through mappings and sequences alike.
-/
import ProtoSchema.OptionValue

set_option autoImplicit false

namespace ProtoSchema

namespace OptionValue

mutual

/-- **Whether a null occurs in a value**, at any depth. -/
def hasNull : OptionValue → Bool
  | .null => true
  | .mapping entries => entriesHaveNull entries
  | .sequence items => itemsHaveNull items
  | _ => false

/-- Whether a null occurs in some item. -/
def itemsHaveNull : List OptionValue → Bool
  | [] => false
  | v :: rest => v.hasNull || itemsHaveNull rest

/-- Whether a null occurs in some entry's value. -/
def entriesHaveNull : List (String × OptionValue) → Bool
  | [] => false
  | (_, v) :: rest => v.hasNull || entriesHaveNull rest

end

theorem itemsHaveNull_eq_any (items : List OptionValue) :
    itemsHaveNull items = items.any hasNull := by
  induction items with
  | nil => rfl
  | cons v rest ih => rw [itemsHaveNull, ih, List.any_cons]

theorem entriesHaveNull_eq_any (entries : List (String × OptionValue)) :
    entriesHaveNull entries = entries.any fun e => e.2.hasNull := by
  induction entries with
  | nil => rfl
  | cons e rest ih =>
    obtain ⟨key, v⟩ := e
    rw [entriesHaveNull, ih, List.any_cons]

end OptionValue

end ProtoSchema
