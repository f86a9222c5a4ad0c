/-
Paths into option values.

An option may set a part of its value, named by a path of keys separated by dots. Setting
the part is the same as setting a mapping with one key per segment around it.
-/
import ProtoSchema.OptionValue
import ProtoSchema.Text.Split

set_option autoImplicit false

namespace ProtoSchema

namespace OptionPath

/-- **The segments of a path.** The empty path has none; otherwise they are what stands
between the dots, empty texts included. -/
def segments (path : String) : List String :=
  if path.isEmpty then [] else (splitChars '.' path.toList).map String.ofList

/-- A value inside one mapping per key, the first key outermost. -/
def nest (keys : List String) (value : OptionValue) : OptionValue :=
  keys.foldr (fun key inner => .mapping [(key, inner)]) value

/-- **The whole value that sets a part.** -/
def expand (path : String) (value : OptionValue) : OptionValue := nest (segments path) value

end OptionPath

end ProtoSchema
