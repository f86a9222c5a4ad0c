/-
Finite maps from strings, as association lists with ascending keys.

Strings are compared by code points, which is also the order of their UTF-8 bytes. The
operations keep the keys strictly ascending (`Ascending`), so that a map has one
representation and equal maps are equal lists; `find?` and `insert` satisfy the usual laws
for every list, ascending or not.
-/

set_option autoImplicit false

namespace ProtoSchema

/-- A finite map from strings to `β`. -/
abbrev KeyMap (β : Type) := List (String × β)

namespace KeyMap

variable {β γ : Type}

/-- The value at a key: that of the first entry with it. -/
def find? (m : KeyMap β) (key : String) : Option β :=
  match m with
  | [] => none
  | (k, v) :: rest => if k = key then some v else find? rest key

/-- Whether a key has a value. -/
def contains (m : KeyMap β) (key : String) : Bool := (m.find? key).isSome

/-- The map with `key` bound to `value`, whatever it was bound to before. -/
def insert (m : KeyMap β) (key : String) (value : β) : KeyMap β :=
  match m with
  | [] => [(key, value)]
  | (k, v) :: rest =>
    if key < k then (key, value) :: (k, v) :: rest
    else if key = k then (key, value) :: rest
    else (k, v) :: insert rest key value

/-- The map of a list of entries, the last of several with one key taking effect. -/
def ofList (entries : List (String × β)) : KeyMap β :=
  entries.foldl (fun m e => m.insert e.1 e.2) []

/-- The keys in order. -/
def keys (m : KeyMap β) : List String := m.map Prod.fst

/-- **The invariant**: keys strictly ascend. -/
def Ascending (m : KeyMap β) : Prop := m.Pairwise fun a b => a.1 < b.1

instance (m : KeyMap β) : Decidable m.Ascending := by
  unfold Ascending; infer_instance

/-! ## Looking up -/

@[simp] theorem find?_nil (key : String) : find? ([] : KeyMap β) key = none := rfl

@[simp] theorem find?_cons (k : String) (v : β) (m : KeyMap β) (key : String) :
    find? ((k, v) :: m) key = if k = key then some v else find? m key := rfl

/-- **Reading after writing.** The new value is found at its key, and every other key is
as before. -/
theorem find?_insert (m : KeyMap β) (key : String) (value : β) (other : String) :
    find? (m.insert key value) other = if key = other then some value else find? m other := by
  induction m with
  | nil => rfl
  | cons e m ih =>
    obtain ⟨k, v⟩ := e
    unfold insert
    split
    · rfl
    · split
      · rename_i _ hk
        subst hk
        simp only [find?_cons]
        split <;> rfl
      · rename_i hlt hne
        simp only [find?_cons, ih]
        split
        · rename_i hk
          subst hk
          simp [hne]
        · rfl

end KeyMap

end ProtoSchema
