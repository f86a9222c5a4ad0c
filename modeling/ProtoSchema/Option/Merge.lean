/-
Merging the options of a declaration.

A declaration may set one option several times. The settings of one name are folded into a
single value: two mappings are merged key by key, and anything else replaces what was there.
The result lists the names in ascending order; a name whose value is a sequence stands for a
repeated option and is listed once per item.
-/
import ProtoSchema.Option.Path
import ProtoSchema.Schema.Basic

set_option autoImplicit false

namespace ProtoSchema

namespace OptionValue

mutual

/-- **A value with a later one laid over it.** Mappings merge; otherwise the later one
stands alone. -/
def overlay : OptionValue → OptionValue → OptionValue
  | .mapping left, .mapping right => .mapping (overlayEntries left right)
  | _, later => later

/-- Entries with later ones laid over them, one after the other. -/
def overlayEntries (left : List (String × OptionValue)) :
    List (String × OptionValue) → List (String × OptionValue)
  | [] => left
  | (key, later) :: rest =>
    let value :=
      match KeyMap.find? left key with
      | some earlier => overlay earlier later
      | none => later
    overlayEntries (KeyMap.insert left key value) rest

end

end OptionValue

/-- **An option as it is written**: its full name, a path that only the short form allows, and
its value. -/
structure OptionAssignment where
  name : String := ""
  path : String := ""
  value : OptionValue := .null
deriving Repr, Inhabited

/-- Whether the name is that of an extension, which is written in parentheses. -/
def OptionAssignment.isExtension (o : OptionAssignment) : Bool := o.name.toList.contains '.'

namespace OptionMerge

/-- The whole value that a setting gives its option. -/
def expanded (setting : Schema.OptionSetting) : OptionValue :=
  OptionPath.expand setting.path setting.value

/-- The values so far with one more setting. -/
def step (values : KeyMap OptionValue) (setting : Schema.OptionSetting) : KeyMap OptionValue :=
  let name := setting.extension.fullName
  let value :=
    match values.find? name with
    | some earlier => earlier.overlay (expanded setting)
    | none => expanded setting
  values.insert name value

/-- **The value of each name** after all settings. -/
def accumulate (settings : List Schema.OptionSetting) : KeyMap OptionValue :=
  settings.foldl step []

/-- The assignments that give a name its value: one per item of a sequence. -/
def assignments (name : String) : OptionValue → List OptionAssignment
  | .sequence items => items.map fun item => { name, value := item }
  | value => [{ name, value }]

end OptionMerge

/-- **The merged options** of a declaration. -/
def mergeOptions (settings : List Schema.OptionSetting) : List OptionAssignment :=
  (OptionMerge.accumulate settings).flatMap fun e => OptionMerge.assignments e.1 e.2

end ProtoSchema
