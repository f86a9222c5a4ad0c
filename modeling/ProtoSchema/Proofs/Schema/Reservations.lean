/-
What the enums and messages of a document reserve.

Lowering can fail only at what an enum or a message reserves. It checks them in a fixed order:
enums before messages, and the parts inside a message before the message itself
(`File.reservations`). The fault of a document is that of the first reservation that is
refused; these are the reservations of the enums and messages among its parts.
-/
import ProtoSchema.Declaration.Lowering
import ProtoSchema.Proofs.Reserved.Names

set_option autoImplicit false

namespace ProtoSchema

open Outcome

namespace Schema

/-- **What an enum or a message reserves**, with the greatest number it can use. -/
structure Reservation where
  max : Int
  owner : String
  ranges : List ReservedRange
  names : List String

namespace Reservation

/-- Why a reservation is refused, if it is. -/
def fault? (r : Reservation) : Option ReservedError :=
  Outcome.fault? (Reserved.check r.max r.owner r.ranges r.names)

/-- **A reservation that is refused**: its ranges are, or a name is given twice. -/
def Refused (r : Reservation) : Prop :=
  (∃ e, Reserved.normalizeRanges r.owner r.max r.ranges = .error e) ∨ ¬ r.names.Nodup

/-- A reservation is accepted exactly if it is not refused. -/
theorem fault?_eq_none {r : Reservation} : r.fault? = none ↔ ¬ r.Refused := by
  rw [fault?, Reserved.check,
    fault?_bind _ (fun _ => fault?_bind _ fun _ => fault?_pure _), Option.or_none,
    Option.or_eq_none_iff, Outcome.fault?_eq_none, Outcome.fault?_eq_none, Refused, not_or,
    not_not]
  refine and_congr ?_ ?_
  · cases Reserved.normalizeRanges r.owner r.max r.ranges <;> simp
  · simp only [Reserved.normalizeNames_eq_ok, exists_and_left, exists_eq,
      and_true]

/-- A reservation is accepted exactly if its ranges lie within bounds and do not overlap, and
its names differ. -/
theorem not_refused_iff {r : Reservation} :
    ¬ r.Refused ↔
      (∀ q ∈ r.ranges, q.WithinBounds r.max) ∧ Reserved.NoOverlap r.max r.ranges ∧
        r.names.Nodup := by
  rw [Refused, not_or, not_not, ← and_assoc, ← Reserved.normalizeRanges_isOk_iff r.owner]
  refine and_congr_left fun _ => ?_
  cases Reserved.normalizeRanges r.owner r.max r.ranges <;> simp

end Reservation

/-- What an enum reserves. -/
def EnumType.reservation (e : EnumType) : Reservation :=
  ⟨maxEnumNumber, e.name, e.reservedRanges, e.reservedNames⟩

/-- What a message itself reserves. -/
def Message.reservation (m : Message) : Reservation :=
  ⟨maxFieldNumber, m.name, m.reservedRanges, m.reservedNames⟩

/-- What a part itself reserves; only messages and enums can. -/
def Part.reservation? : Part → Option Reservation
  | .message m => some m.reservation
  | .enum e => some e.reservation
  | _ => none

/-! ## The order of the checks -/

mutual

/-- The reservations in a message, in the order in which they are checked. -/
def Message.reservations : Message → List Reservation
  | ⟨name, help, enums, messages, oneofs, fields, options, ranges, names⟩ =>
    enums.map EnumType.reservation ++ (Message.listReservations messages ++
      [Message.reservation ⟨name, help, enums, messages, oneofs, fields, options, ranges, names⟩])

/-- The reservations in several messages. -/
def Message.listReservations : List Message → List Reservation
  | [] => []
  | m :: rest => m.reservations ++ Message.listReservations rest

end

/-- **The reservations of a document**, in the order in which they are checked. -/
def File.reservations (f : File) : List Reservation :=
  f.enums.map EnumType.reservation ++ Message.listReservations f.messages

/-- An enum type fails by what it reserves, and by nothing else. -/
theorem EnumType.fault?_lower (e : EnumType) : fault? e.lower = e.reservation.fault? := by
  rw [EnumType.lower, fault?_bind _ (fun _ => fault?_pure _), Option.or_none]
  rfl

theorem EnumType.fault?_lowerAll (es : List EnumType) :
    fault? (EnumType.lowerAll es) = (es.map EnumType.reservation).findSome? Reservation.fault? := by
  induction es with
  | nil => rfl
  | cons e es ih =>
    rw [EnumType.lowerAll, fault?_bind _ (fun _ => fault?_bind _ fun _ => fault?_pure _),
      Option.or_none, e.fault?_lower, ih, List.map_cons, List.findSome?_cons]
    cases e.reservation.fault? <;> rfl

mutual

/-- **A message fails at the first refused reservation** of itself and of what is inside it, itself
last. -/
theorem Message.fault?_lower : ∀ m : Message,
    fault? m.lower = m.reservations.findSome? Reservation.fault?
  | ⟨name, help, enums, messages, oneofs, fields, options, ranges, names⟩ => by
    rw [Message.lower,
      fault?_bind _ (fun _ => fault?_bind _ fun _ => fault?_bind _ fun _ => fault?_pure _),
      Option.or_none, EnumType.fault?_lowerAll, Message.fault?_lowerAll messages,
      Message.reservations, List.findSome?_append, List.findSome?_append]
    -- what is left is the message's own check
    congr 2
    simp only [List.findSome?_cons, List.findSome?_nil, Reservation.fault?, Message.reservation]
    cases fault? (Reserved.check maxFieldNumber name ranges names) <;> rfl

theorem Message.fault?_lowerAll : ∀ ms : List Message,
    fault? (Message.lowerAll ms) = (Message.listReservations ms).findSome? Reservation.fault?
  | [] => rfl
  | m :: ms => by
    rw [Message.lowerAll, fault?_bind _ (fun _ => fault?_bind _ fun _ => fault?_pure _),
      Option.or_none, Message.fault?_lower m, Message.fault?_lowerAll ms,
      Message.listReservations, List.findSome?_append]

end

/-- **A document is lowered unless one of its reservations is refused**, and the first of those
gives the fault. -/
theorem File.fault?_lower (f : File) :
    fault? f.lower = f.reservations.findSome? Reservation.fault? := by
  rw [File.lower, fault?_bind _ (fun _ => fault?_bind _ fun _ => fault?_pure _), Option.or_none,
    EnumType.fault?_lowerAll, Message.fault?_lowerAll, File.reservations, List.findSome?_append]

/-! ## The parts that reserve -/

/-- The reservations of parts, in reading order. -/
def reservationsOf (parts : List Part) : List Reservation := parts.filterMap Part.reservation?

theorem mem_reservationsOf {parts : List Part} {r : Reservation} :
    r ∈ reservationsOf parts ↔ ∃ p ∈ parts, p.reservation? = some r := List.mem_filterMap

theorem reservationsOf_append (ps qs : List Part) :
    reservationsOf (ps ++ qs) = reservationsOf ps ++ reservationsOf qs := List.filterMap_append

/-- A part that reserves nothing and holds nothing that does. -/
theorem reservationsOf_flatMap_eq_nil {α : Type} {f : α → List Part}
    (h : ∀ x, reservationsOf (f x) = []) (xs : List α) : reservationsOf (xs.flatMap f) = [] := by
  induction xs with
  | nil => rfl
  | cons x xs ih => rw [List.flatMap_cons, reservationsOf_append, h, ih, List.nil_append]

theorem reservationsOf_optionParts (os : List OptionSetting) :
    reservationsOf (optionParts everywhere os) = [] :=
  reservationsOf_flatMap_eq_nil (fun _ => rfl) os

theorem EnumConstant.reservationsOf_parts (c : EnumConstant) :
    reservationsOf (c.parts everywhere) = [] := reservationsOf_optionParts c.options

theorem Field.reservationsOf_parts (f : Field) : reservationsOf (f.parts everywhere) = [] :=
  reservationsOf_optionParts f.options

theorem Oneof.reservationsOf_parts (o : Oneof) : reservationsOf (o.parts everywhere) = [] := by
  show reservationsOf (o.fields.flatMap (Field.parts everywhere) ++
    optionParts everywhere o.options) = []
  rw [reservationsOf_append, reservationsOf_flatMap_eq_nil Field.reservationsOf_parts,
    reservationsOf_optionParts, List.nil_append]

theorem Method.reservationsOf_parts (m : Method) : reservationsOf (m.parts everywhere) = [] :=
  reservationsOf_optionParts m.options

theorem Service.reservationsOf_parts (s : Service) :
    reservationsOf (s.parts everywhere) = [] := by
  show reservationsOf (s.methods.flatMap (Method.parts everywhere) ++
    optionParts everywhere s.options) = []
  rw [reservationsOf_append, reservationsOf_flatMap_eq_nil Method.reservationsOf_parts,
    reservationsOf_optionParts, List.nil_append]

theorem CustomOption.reservationsOf_parts (c : CustomOption) :
    reservationsOf (c.parts everywhere) = [] := rfl

/-- An enum type has one reservation, since its constants have none. -/
theorem EnumType.reservationsOf_parts (e : EnumType) :
    reservationsOf (e.parts everywhere) = [e.reservation] := by
  show e.reservation :: reservationsOf (e.constants.flatMap (EnumConstant.parts everywhere) ++
    optionParts everywhere e.options) = [e.reservation]
  rw [reservationsOf_append, reservationsOf_flatMap_eq_nil EnumConstant.reservationsOf_parts,
    reservationsOf_optionParts, List.nil_append]

/-- Enum types have one each. -/
theorem EnumType.reservationsOf_flatMap_parts (es : List EnumType) :
    reservationsOf (es.flatMap (EnumType.parts everywhere)) = es.map EnumType.reservation := by
  induction es with
  | nil => rfl
  | cons e es ih =>
    rw [List.flatMap_cons, reservationsOf_append, e.reservationsOf_parts, ih, List.map_cons]
    rfl

mutual

/-- The parts inside a message are checked before it but read after it. -/
theorem Message.reservations_perm : ∀ m : Message,
    m.reservations.Perm (reservationsOf (m.parts everywhere))
  | ⟨name, help, enums, messages, oneofs, fields, options, ranges, names⟩ => by
    have hinside : reservationsOf (enums.flatMap (EnumType.parts everywhere) ++
        Message.listParts everywhere messages ++ oneofs.flatMap (Oneof.parts everywhere) ++
        fields.flatMap (Field.parts everywhere) ++ optionParts everywhere options) =
        enums.map EnumType.reservation ++
          reservationsOf (Message.listParts everywhere messages) := by
      simp only [reservationsOf_append, EnumType.reservationsOf_flatMap_parts,
        reservationsOf_flatMap_eq_nil Oneof.reservationsOf_parts,
        reservationsOf_flatMap_eq_nil Field.reservationsOf_parts, reservationsOf_optionParts,
        List.append_nil]
    rw [Message.parts, Message.reservations]
    show List.Perm _ (Message.reservation _ :: reservationsOf (_ ++ _))
    -- the message's own reservation is checked last and read first
    rw [hinside, ← List.append_assoc]
    refine (List.perm_append_singleton _ _).trans (List.Perm.cons _ ?_)
    exact (Message.listReservations_perm messages).append_left _

/-- The reservations of messages are those of their parts, in another order. -/
theorem Message.listReservations_perm : ∀ ms : List Message,
    (Message.listReservations ms).Perm (reservationsOf (Message.listParts everywhere ms))
  | [] => List.Perm.refl _
  | m :: ms => by
    rw [Message.listReservations, Message.listParts, reservationsOf_append]
    exact (Message.reservations_perm m).append (Message.listReservations_perm ms)

end

/-- **The reservations that are checked are those of the parts**, in another order. -/
theorem File.reservations_perm (f : File) :
    f.reservations.Perm (reservationsOf (f.parts everywhere)) := by
  show List.Perm _ (reservationsOf (f.enums.flatMap (EnumType.parts everywhere) ++
    Message.listParts everywhere f.messages ++ f.services.flatMap (Service.parts everywhere) ++
    f.customOptions.flatMap (CustomOption.parts everywhere) ++ optionParts everywhere f.options))
  simp only [reservationsOf_append, EnumType.reservationsOf_flatMap_parts,
    reservationsOf_flatMap_eq_nil Service.reservationsOf_parts,
    reservationsOf_flatMap_eq_nil CustomOption.reservationsOf_parts, reservationsOf_optionParts,
    List.append_nil]
  exact (Message.listReservations_perm f.messages).append_left _

/-- **A file is lowered exactly if no reservation in it is refused.** -/
theorem File.fault?_lower_eq_none {f : File} :
    fault? f.lower = none ↔
      ∀ p ∈ f.parts everywhere, ∀ r, p.reservation? = some r → ¬ r.Refused := by
  rw [File.fault?_lower, List.findSome?_eq_none_iff]
  constructor
  · intro h p hp r hr
    have hmem : r ∈ f.reservations := f.reservations_perm.mem_iff.mpr
      (mem_reservationsOf.mpr ⟨p, hp, hr⟩)
    exact Reservation.fault?_eq_none.mp (h r hmem)
  · intro h r hr
    obtain ⟨p, hp, hpr⟩ := mem_reservationsOf.mp (f.reservations_perm.mem_iff.mp hr)
    exact Reservation.fault?_eq_none.mpr (h p hp r hpr)

end Schema

end ProtoSchema
