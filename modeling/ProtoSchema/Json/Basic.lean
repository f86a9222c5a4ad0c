/-
JSON values.

An object is the list of its members. A value that was read as such has its members in
ascending order of their names, each name once (`Sorted`); the encoder of a record writes
them in the record's own order, and `sorted` brings any value into the first form.
-/
import ProtoSchema.KeyMap
import ProtoSchema.Json.Number

set_option autoImplicit false

namespace ProtoSchema

/-- **A JSON value.** -/
inductive Json where
  | null
  | bool (b : Bool)
  | number (n : Json.Number)
  | string (s : String)
  | array (items : List Json)
  | object (members : List (String × Json))
deriving Repr, Inhabited

namespace Json

/-- The integer `n` as a value. -/
def int (n : Int) : Json := .number (.int n)

/-- A list of strings as a value. -/
def strings (ss : List String) : Json := .array (ss.map .string)

/-! ## Deciding equality -/

mutual

/-- Equality of values, decided by recursion. -/
def decEq : (a b : Json) → Decidable (a = b)
  | .null, .null => isTrue rfl
  | .bool a, .bool b =>
    if h : a = b then isTrue (by rw [h]) else isFalse (by intro e; injection e; contradiction)
  | .number a, .number b =>
    if h : a = b then isTrue (by rw [h]) else isFalse (by intro e; injection e; contradiction)
  | .string a, .string b =>
    if h : a = b then isTrue (by rw [h]) else isFalse (by intro e; injection e; contradiction)
  | .array a, .array b =>
    match decEqItems a b with
    | isTrue h => isTrue (by rw [h])
    | isFalse h => isFalse (by intro e; injection e; contradiction)
  | .object a, .object b =>
    match decEqMembers a b with
    | isTrue h => isTrue (by rw [h])
    | isFalse h => isFalse (by intro e; injection e; contradiction)
  | .null, .bool _ | .null, .number _ | .null, .string _ | .null, .array _ | .null, .object _
  | .bool _, .null | .bool _, .number _ | .bool _, .string _ | .bool _, .array _
  | .bool _, .object _ | .number _, .null | .number _, .bool _ | .number _, .string _
  | .number _, .array _ | .number _, .object _ | .string _, .null | .string _, .bool _
  | .string _, .number _ | .string _, .array _ | .string _, .object _ | .array _, .null
  | .array _, .bool _ | .array _, .number _ | .array _, .string _ | .array _, .object _
  | .object _, .null | .object _, .bool _ | .object _, .number _ | .object _, .string _
  | .object _, .array _ => isFalse (by intro e; cases e)

/-- Equality of lists of values. -/
def decEqItems : (a b : List Json) → Decidable (a = b)
  | [], [] => isTrue rfl
  | a :: as, b :: bs =>
    match decEq a b, decEqItems as bs with
    | isTrue h, isTrue t => isTrue (by rw [h, t])
    | isFalse h, _ => isFalse (by intro e; injection e; contradiction)
    | _, isFalse t => isFalse (by intro e; injection e; contradiction)
  | [], _ :: _ | _ :: _, [] => isFalse (by intro e; cases e)

/-- Equality of lists of members. -/
def decEqMembers : (a b : List (String × Json)) → Decidable (a = b)
  | [], [] => isTrue rfl
  | (k, a) :: as, (l, b) :: bs =>
    if hk : k = l then
      match decEq a b, decEqMembers as bs with
      | isTrue h, isTrue t => isTrue (by rw [hk, h, t])
      | isFalse h, _ => isFalse (by intro e; simp at e; exact h e.1.2)
      | _, isFalse t => isFalse (by intro e; simp at e; exact t e.2)
    else isFalse (by intro e; simp at e; exact hk e.1.1)
  | [], _ :: _ | _ :: _, [] => isFalse (by intro e; cases e)

end

instance : DecidableEq Json := decEq

/-! ## Sorted values -/

mutual

/-- Every object in the value has its names strictly ascending. -/
def Sorted : Json → Prop
  | .array items => SortedItems items
  | .object members => KeyMap.Ascending members ∧ SortedMembers members
  | _ => True

/-- Every item is sorted. -/
def SortedItems : List Json → Prop
  | [] => True
  | v :: rest => v.Sorted ∧ SortedItems rest

/-- Every member's value is sorted. -/
def SortedMembers : List (String × Json) → Prop
  | [] => True
  | (_, v) :: rest => v.Sorted ∧ SortedMembers rest

end

mutual

/-- **The sorted form**: members in ascending order of their names, the last of several
with one name. -/
def sorted : Json → Json
  | .array items => .array (sortedItems items)
  | .object members => .object (KeyMap.ofList (sortedMembers members))
  | v => v

/-- The sorted form of every item. -/
def sortedItems : List Json → List Json
  | [] => []
  | v :: rest => v.sorted :: sortedItems rest

/-- The sorted form of every member's value, the members staying where they are. -/
def sortedMembers : List (String × Json) → List (String × Json)
  | [] => []
  | (k, v) :: rest => (k, v.sorted) :: sortedMembers rest

end

/-! ## Nesting -/

mutual

/-- How many arrays and objects are nested in each other. -/
def height : Json → Nat
  | .array items => heightItems items + 1
  | .object members => heightMembers members + 1
  | _ => 0

/-- The greatest height among the items. -/
def heightItems : List Json → Nat
  | [] => 0
  | v :: rest => max v.height (heightItems rest)

/-- The greatest height among the members. -/
def heightMembers : List (String × Json) → Nat
  | [] => 0
  | (_, v) :: rest => max v.height (heightMembers rest)

end

end Json

end ProtoSchema
