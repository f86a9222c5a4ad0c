/-
The imports of a file.

A file imports every other file that declares a type it refers to, and the descriptor file if
it declares a custom option. The imports are a set, kept in ascending order.
-/
import ProtoSchema.Schema.Traversal

set_option autoImplicit false

namespace ProtoSchema

/-- **A set of strings** in ascending order. -/
abbrev NameSet := KeyMap Unit

namespace NameSet

/-- The set with one more name. -/
def add (s : NameSet) (name : String) : NameSet := s.insert name ()

/-- The names in ascending order. -/
def toList (s : NameSet) : List String := s.keys

end NameSet

namespace Imports

/-- The imports so far with those that one part asks for, in the file named `current`. -/
def step (current : String) (imports : NameSet) : Schema.Part → NameSet
  | .customOption _ => imports.add Schema.descriptorFile
  | .typeRef t =>
    if t.filename.isEmpty || t.filename == current then imports else imports.add t.filename
  | _ => imports

/-- The imports so far with those of a part and of everything inside it. -/
def collect (current : String) (imports : NameSet) (part : Schema.Part) : NameSet :=
  (part.parts Schema.everywhere).foldl (step current) imports

end Imports

/-- **The imports of a document**, in ascending order. -/
def Schema.File.imports (f : Schema.File) : List String :=
  (Imports.collect f.name [] (.file f)).toList

end ProtoSchema
