/-
TOML documents.

A document is a table. While it is read, a table also remembers how it came about, because
that decides what may be added to it: a table with a header of its own has one header only, a
table that was only passed through on the way to another may still get its header, and a table
made by a dotted key is extended by dotted keys alone. A finished value, and so a table
written in braces, is never extended.
-/

set_option autoImplicit false

namespace ProtoSchema

namespace Toml

/-- **A value.** Floating-point numbers and dates are kept as they are written. -/
inductive Value where
  | string (s : String)
  | integer (n : Int)
  | float (text : String)
  | boolean (b : Bool)
  | datetime (text : String)
  | array (items : List Value)
  | table (entries : List (String × Value))
deriving Repr, Inhabited

/-- The value of a key in a table. -/
def Value.find? (entries : List (String × Value)) (key : String) : Option Value :=
  (entries.find? fun e => e.1 == key).map Prod.snd

/-! ## Documents under construction -/

/-- How a table came about. -/
inductive Definition where
  /-- By a header of its own. -/
  | header
  /-- On the way to the table of a header. -/
  | implied
  /-- On the way to the last part of a dotted key. -/
  | dotted
deriving DecidableEq, Repr

/-- **An item of a table under construction.** -/
inductive Item where
  | value (v : Value)
  | table (d : Definition) (entries : List (String × Item))
  /-- A list of tables with a header each; the last one is open. -/
  | tables (elements : List (List (String × Item)))

/-- The entries of a table under construction. -/
abbrev Entries := List (String × Item)

namespace Entries

/-- The item of a key. -/
def item? (entries : Entries) (key : String) : Option Item :=
  (entries.find? fun e => e.1 == key).map Prod.snd

/-- The entries with an item at a key. -/
def setItem (entries : Entries) (key : String) (item : Item) : Entries :=
  if entries.any fun e => e.1 == key then
    entries.map fun e => if e.1 == key then (key, item) else e
  else entries ++ [(key, item)]

/-- **The entries with a value under a dotted key.** A table on the way has to be one that may
still be extended, and the table that gets the value one that takes values at all. -/
def assign (v : Value) (takesValues : Bool) (entries : Entries) : List String → Option Entries
  | [] => none
  | [key] =>
    match takesValues, entries.item? key with
    | true, none => some (entries.setItem key (.value v))
    | _, _ => none
  | key :: rest =>
    match entries.item? key with
    | none => do
      let inner ← assign v true [] rest
      return entries.setItem key (.table .dotted inner)
    | some (.table .dotted inner) => do
      let inner ← assign v true inner rest
      return entries.setItem key (.table .dotted inner)
    | some (.table .implied inner) => do
      let inner ← assign v false inner rest
      return entries.setItem key (.table .implied inner)
    | some (.tables elements) =>
      match elements.getLast? with
      | none => none
      | some last => do
        let last ← assign v false last rest
        return entries.setItem key (.tables (elements.dropLast ++ [last]))
    | some (.table .header _) => none
    | some (.value _) => none

/-- The entries with a change made inside the table at a path. Missing tables on the way are
implied, and a list of tables stands for its last one. -/
def within (change : Entries → Option Entries) (entries : Entries) : List String → Option Entries
  | [] => change entries
  | key :: rest =>
    match entries.item? key with
    | none => do
      let inner ← within change [] rest
      return entries.setItem key (.table .implied inner)
    | some (.table d inner) => do
      let inner ← within change inner rest
      return entries.setItem key (.table d inner)
    | some (.tables elements) =>
      match elements.getLast? with
      | none => none
      | some last => do
        let last ← within change last rest
        return entries.setItem key (.tables (elements.dropLast ++ [last]))
    | some (.value _) => none

/-- The entries with a table opened by a header at a key. -/
def openTable (key : String) (entries : Entries) : Option Entries :=
  match entries.item? key with
  | none => some (entries.setItem key (.table .header []))
  | some (.table .implied inner) => some (entries.setItem key (.table .header inner))
  | _ => none

/-- The entries with one more table in the list at a key. -/
def openElement (key : String) (entries : Entries) : Option Entries :=
  match entries.item? key with
  | none => some (entries.setItem key (.tables [[]]))
  | some (.tables elements) => some (entries.setItem key (.tables (elements ++ [[]])))
  | _ => none

end Entries

/-! ## Finished documents -/

mutual

/-- The value of an item. -/
def Item.toValue : Item → Value
  | .value v => v
  | .table _ entries => .table (entryValues entries)
  | .tables elements => .array (elementValues elements)

/-- The values of entries. -/
def entryValues : List (String × Item) → List (String × Value)
  | [] => []
  | (key, item) :: rest => (key, item.toValue) :: entryValues rest

/-- The tables of a list. -/
def elementValues : List (List (String × Item)) → List Value
  | [] => []
  | entries :: rest => .table (entryValues entries) :: elementValues rest

end

/-! ## Statements -/

/-- **A statement of a document.** -/
inductive Statement where
  /-- Opens the table at a path for the keys that follow. -/
  | header (path : List String)
  /-- Opens one more table of the list at a path. -/
  | element (path : List String)
  | assign (path : List String) (v : Value)

/-- A document under construction: its entries, and the path of the open table. -/
structure Draft where
  entries : Entries := []
  current : List String := []

/-- The draft after a statement; `none` if the statement contradicts an earlier one. -/
def Draft.add (d : Draft) : Statement → Option Draft
  | .header path => do
    let key ← path.getLast?
    let entries ← Entries.within (Entries.openTable key) d.entries path.dropLast
    return { entries, current := path }
  | .element path => do
    let key ← path.getLast?
    let entries ← Entries.within (Entries.openElement key) d.entries path.dropLast
    return { entries, current := path }
  | .assign path v => do
    let entries ← Entries.within (fun inner => inner.assign v true path) d.entries d.current
    return { d with entries }

/-- **The document that statements make.** -/
def document? (statements : List Statement) : Option (List (String × Value)) := do
  let draft ← statements.foldlM Draft.add {}
  return entryValues draft.entries

end Toml

end ProtoSchema
