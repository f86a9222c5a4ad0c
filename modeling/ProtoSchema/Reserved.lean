/-
Reserved numbers and names.

A message or an enum lists ranges of numbers and names that must not be used. The lists are
checked and brought into a canonical form: ranges in ascending order without overlaps, with
ranges that touch joined and one that reaches the maximum left open; names in ascending
order, each once. Two lists that reserve the same numbers have the same canonical form.
-/
import ProtoSchema.Schema.Basic

set_option autoImplicit false

namespace ProtoSchema

open Schema (ReservedRange)

/-- **What is wrong with a reserved list**, and in whose declaration. -/
inductive ReservedError where
  | startAboveMax (owner : String) (start max : Int)
  | endAboveMax (owner : String) (stop max : Int)
  | startAfterEnd (owner : String) (start stop : Int)
  | overlap (owner : String) (start : Int)
  | duplicateName (owner : String) (name : String)
deriving DecidableEq, Repr

/-- The wording of an error. -/
def ReservedError.message : ReservedError → String
  | .startAboveMax owner start max =>
    "reserved range in `" ++ owner ++ "` starts at " ++ Json.intText start ++
      ", above the maximum " ++ Json.intText max
  | .endAboveMax owner stop max =>
    "reserved range in `" ++ owner ++ "` ends at " ++ Json.intText stop ++
      ", above the maximum " ++ Json.intText max
  | .startAfterEnd owner start stop =>
    "reserved range " ++ Json.intText start ++ " to " ++ Json.intText stop ++ " in `" ++ owner ++
      "` ends before it starts"
  | .overlap owner start => "reserved ranges in `" ++ owner ++ "` overlap at " ++ Json.intText start
  | .duplicateName owner name =>
    "reserved name `" ++ name ++ "` is specified multiple times in `" ++ owner ++ "`"

/-- **What a declaration reserves**, in canonical form. -/
structure Reserved where
  ranges : List ReservedRange := []
  names : List String := []
deriving DecidableEq, Repr, Inhabited

namespace Reserved

/-- Whether nothing is reserved. -/
def isEmpty (r : Reserved) : Bool := r.ranges.isEmpty && r.names.isEmpty

/-! ## Ranges -/

/-- Checks the bounds of one range; an end at the maximum becomes open. -/
def checkRange (owner : String) (max : Int) (r : ReservedRange) :
    Except ReservedError ReservedRange :=
  if max < r.start then .error (.startAboveMax owner r.start max)
  else
    match r.stop with
    | none => .ok r
    | some stop =>
      if max < stop then .error (.endAboveMax owner stop max)
      else if stop < r.start then .error (.startAfterEnd owner r.start stop)
      else if stop = max then .ok { r with stop := none }
      else .ok r

/-- Checks the bounds of every range, up to the first that fails. -/
def checkRanges (owner : String) (max : Int) :
    List ReservedRange → Except ReservedError (List ReservedRange)
  | [] => .ok []
  | r :: rest => do
    let r ← checkRange owner max r
    let rest ← checkRanges owner max rest
    return r :: rest

/-- The order of ranges by their starts. -/
def startsBy (a b : ReservedRange) : Bool := a.start ≤ b.start

/-- Joins a range with those after it, given in order of their starts. -/
def coalesceFrom (owner : String) (current : ReservedRange) :
    List ReservedRange → Except ReservedError (List ReservedRange)
  | [] => .ok [current]
  | next :: rest =>
    match current.stop with
    | none => .error (.overlap owner next.start)
    | some stop =>
      if next.start ≤ stop then .error (.overlap owner next.start)
      else if next.start = stop + 1 then
        coalesceFrom owner { current with stop := next.stop } rest
      else (current :: ·) <$> coalesceFrom owner next rest

/-- Joins ranges that touch and refuses those that overlap, given in order of their starts. -/
def coalesce (owner : String) : List ReservedRange → Except ReservedError (List ReservedRange)
  | [] => .ok []
  | r :: rest => coalesceFrom owner r rest

/-- **The canonical form of a list of ranges.** -/
def normalizeRanges (owner : String) (max : Int) (ranges : List ReservedRange) :
    Except ReservedError (List ReservedRange) := do
  let checked ← checkRanges owner max ranges
  coalesce owner (checked.mergeSort startsBy)

/-! ## Names -/

/-- The first name that occurred before. -/
def firstRepeated (seen : List String) : List String → Option String
  | [] => none
  | name :: rest => if seen.contains name then some name else firstRepeated (name :: seen) rest

/-- **The canonical form of a list of names.** -/
def normalizeNames (owner : String) (names : List String) : Except ReservedError (List String) :=
  match firstRepeated [] names with
  | some name => .error (.duplicateName owner name)
  | none => .ok (names.mergeSort fun a b => decide (a ≤ b))

/-- **Checks what a declaration reserves**, ranges before names. -/
def check (max : Int) (owner : String) (ranges : List ReservedRange) (names : List String) :
    Except ReservedError Reserved := do
  let ranges ← normalizeRanges owner max ranges
  let names ← normalizeNames owner names
  return { ranges, names }

end Reserved

end ProtoSchema
