/-
Which reservation a document is refused for.

The enums and messages of a document are checked in one order: the enums of the file, then its
messages, and inside a message first its enums, then its messages, then the message itself
(`File.reservations`). The first of them that is refused gives the fault, and the fault names it.
Nothing else in a document is checked. So a document may be cut down to the names and reserved
lists of its enums and messages (`File.skeleton`), and it is refused for the same fault.
-/
import ProtoSchema.Proofs.Reserved.Faults
import ProtoSchema.Proofs.Schema.References
import ProtoSchema.Proofs.Schema.Reservations

set_option autoImplicit false

namespace ProtoSchema

open Outcome

/-! ## The declaration that a fault names -/

/-- The declaration in which something is wrong. -/
def ReservedError.owner : ReservedError → String
  | .startAboveMax owner _ _ | .endAboveMax owner _ _ | .startAfterEnd owner _ _
  | .overlap owner _ | .duplicateName owner _ => owner

namespace Reserved

variable {owner : String} {max : Int} {ranges : List Schema.ReservedRange} {names : List String}
  {e : ReservedError}

/-- Every error about ranges names the owner of the reservation. -/
theorem owner_of_normalizeRanges (h : normalizeRanges owner max ranges = .error e) :
    e.owner = owner := by
  by_cases hb : ∀ r ∈ ranges, r.WithinBounds max
  · obtain ⟨n, rfl, -⟩ := normalizeRanges_eq_error hb h
    rfl
  · -- some range is out of bounds, and the first of these gives the fault
    push Not at hb
    obtain ⟨before, r, after, d, -, -, hout, hd⟩ :=
      exists_outOfBounds_of_not_withinBounds owner hb
    rw [h] at hd
    cases hd
    cases hout <;> rfl

/-- Every error about names names the owner of the reservation. -/
theorem owner_of_normalizeNames (h : normalizeNames owner names = .error e) : e.owner = owner := by
  unfold normalizeNames at h
  split at h
  · cases h
    rfl
  · cases h

/-- **Ranges are checked before names.** -/
theorem check_eq_error :
    check max owner ranges names = .error e ↔
      normalizeRanges owner max ranges = .error e ∨
        (∃ out, normalizeRanges owner max ranges = .ok out) ∧
          normalizeNames owner names = .error e := by
  rw [check]
  cases normalizeRanges owner max ranges with
  | error d => simp [bind, Except.bind]
  | ok out => cases normalizeNames owner names <;> simp [bind, Except.bind, pure, Except.pure]

/-- **Every reservation error names its owner.** -/
theorem owner_of_check (h : check max owner ranges names = .error e) : e.owner = owner := by
  rcases check_eq_error.mp h with hranges | ⟨-, hnames⟩
  · exact owner_of_normalizeRanges hranges
  · exact owner_of_normalizeNames hnames

end Reserved

namespace Schema

/-- The outcome of checking a reservation. -/
def Reservation.outcome (r : Reservation) : Except ReservedError Reserved :=
  Reserved.check r.max r.owner r.ranges r.names

theorem Reservation.fault?_eq_some {r : Reservation} {e : ReservedError} :
    r.fault? = some e ↔ r.outcome = .error e := Outcome.fault?_eq_some

theorem Reservation.fault?_eq_none_iff_exists_ok {r : Reservation} :
    r.fault? = none ↔ ∃ reserved, r.outcome = .ok reserved := Outcome.fault?_eq_none

/-! ## What is checked -/

/-- What a message reserves itself, and what the enums in it do. -/
def Message.ownReservations (m : Message) : List Reservation :=
  m.enums.map EnumType.reservation ++ [m.reservation]

mutual

/-- **The reservations in a message** are the own ones of the messages inside it. -/
theorem Message.mem_reservations : ∀ (m : Message) (r : Reservation),
    r ∈ m.reservations ↔ ∃ n : Message, n.Within m ∧ r ∈ n.ownReservations
  | ⟨name, help, enums, messages, oneofs, fields, options, ranges, names⟩, r => by
    rw [Message.reservations, List.mem_append, List.mem_append,
      Message.mem_listReservations messages r]
    constructor
    · rintro (henum | ⟨inner, hmem, n, hn, hr⟩ | hown)
      · exact ⟨_, .self _, List.mem_append_left _ henum⟩
      · exact ⟨n, .nested hn hmem, hr⟩
      · exact ⟨_, .self _, List.mem_append_right _ hown⟩
    · rintro ⟨n, _ | ⟨hn, hmem⟩, hr⟩
      · rcases List.mem_append.mp hr with henum | hown
        · exact .inl henum
        · exact .inr (.inr hown)
      · exact .inr (.inl ⟨_, hmem, n, hn, hr⟩)

/-- A list of messages has the reservations of each message within it, at any depth. -/
theorem Message.mem_listReservations : ∀ (ms : List Message) (r : Reservation),
    r ∈ Message.listReservations ms ↔
      ∃ m ∈ ms, ∃ n : Message, n.Within m ∧ r ∈ n.ownReservations
  | [], r => by simp [Message.listReservations]
  | m :: ms, r => by
    rw [Message.listReservations, List.mem_append, Message.mem_reservations m r,
      Message.mem_listReservations ms r]
    simp only [List.mem_cons, exists_eq_or_imp]

end

/-- **The reservations of a file** are those of its enums and messages, at any depth. -/
theorem File.mem_reservations {f : File} {r : Reservation} :
    r ∈ f.reservations ↔
      (∃ e, f.HasEnum e ∧ e.reservation = r) ∨ ∃ m, f.HasMessage m ∧ m.reservation = r := by
  rw [File.reservations, List.mem_append, List.mem_map, Message.mem_listReservations]
  constructor
  · rintro (⟨e, he, rfl⟩ | ⟨top, htop, m, hm, hr⟩)
    · exact .inl ⟨e, .inl he, rfl⟩
    · rcases List.mem_append.mp hr with henum | hown
      · obtain ⟨e, he, rfl⟩ := List.mem_map.mp henum
        exact .inl ⟨e, .inr ⟨m, ⟨top, htop, hm⟩, he⟩, rfl⟩
      · exact .inr ⟨m, ⟨top, htop, hm⟩, (List.mem_singleton.mp hown).symm⟩
  · rintro (⟨e, he | ⟨m, ⟨top, htop, hm⟩, he⟩, rfl⟩ | ⟨m, ⟨top, htop, hm⟩, rfl⟩)
    · exact .inl ⟨e, he, rfl⟩
    · exact .inr ⟨top, htop, m, hm, List.mem_append_left _ (List.mem_map_of_mem he)⟩
    · exact .inr ⟨top, htop, m, hm, List.mem_append_right _ List.mem_cons_self⟩

/-! ## What is not checked -/

/-- An enum with its name and what it reserves, and nothing else. -/
def EnumType.skeleton (e : EnumType) : EnumType where
  name := e.name
  reservedRanges := e.reservedRanges
  reservedNames := e.reservedNames

mutual

/-- A message with its name, what it reserves and the skeletons inside it, and nothing else. -/
def Message.skeleton : Message → Message
  | ⟨name, _, enums, messages, _, _, _, reservedRanges, reservedNames⟩ =>
    { name, enums := enums.map EnumType.skeleton, messages := Message.skeletons messages,
      reservedRanges, reservedNames }

/-- The skeletons of several messages. -/
def Message.skeletons : List Message → List Message
  | [] => []
  | m :: rest => m.skeleton :: Message.skeletons rest

end

/-- **What lowering checks of a file**: its enums and messages without their options and doc
comments, without constants, fields and oneofs, and neither services nor custom options. -/
def File.skeleton (f : File) : File where
  enums := f.enums.map EnumType.skeleton
  messages := Message.skeletons f.messages

theorem EnumType.map_reservation_skeleton (es : List EnumType) :
    (es.map EnumType.skeleton).map EnumType.reservation = es.map EnumType.reservation :=
  List.map_map

mutual

/-- The skeleton of a message keeps its reservations, and those of what is inside it. -/
theorem Message.reservations_skeleton : ∀ m : Message, m.skeleton.reservations = m.reservations
  | ⟨name, help, enums, messages, oneofs, fields, options, ranges, names⟩ => by
    rw [Message.skeleton, Message.reservations, Message.reservations,
      EnumType.map_reservation_skeleton, Message.listReservations_skeletons messages]
    rfl

theorem Message.listReservations_skeletons : ∀ ms : List Message,
    Message.listReservations (Message.skeletons ms) = Message.listReservations ms
  | [] => rfl
  | m :: ms => by
    rw [Message.skeletons, Message.listReservations, Message.listReservations,
      Message.reservations_skeleton m, Message.listReservations_skeletons ms]

end

/-- **The skeleton of a file keeps all reservations.** -/
theorem File.reservations_skeleton (f : File) : f.skeleton.reservations = f.reservations := by
  rw [File.reservations, File.skeleton, EnumType.map_reservation_skeleton,
    Message.listReservations_skeletons, File.reservations]

/-- Files with the same skeleton have the same fault. -/
theorem File.fault?_lower_congr {f g : File} (h : g.skeleton = f.skeleton) :
    fault? g.lower = fault? f.lower := by
  rw [File.fault?_lower, File.fault?_lower, ← g.reservations_skeleton, h, f.reservations_skeleton]

/-! ## The fault of a document -/

/-- **Lowering reports the first reservation that is refused.** A document is lowered exactly if
all its enums and messages pass their checks, at any depth. Otherwise the fault is that of the
first one that does not, in the order of `File.reservations`; it names this declaration and comes
from its ranges, or from its names if the ranges pass. Nothing but the enums and messages with
what they reserve can cause a fault. -/
theorem File.lower_reports_first_refused (f : File) :
    ((∃ file, f.lower = .ok file) ↔
      (∀ e, f.HasEnum e → ∃ reserved,
        Reserved.check maxEnumNumber e.name e.reservedRanges e.reservedNames = .ok reserved) ∧
      ∀ m, f.HasMessage m → ∃ reserved,
        Reserved.check maxFieldNumber m.name m.reservedRanges m.reservedNames = .ok reserved) ∧
    (∀ fault, f.lower = .error fault ↔
      ∃ before r after, f.reservations = before ++ r :: after ∧
        (∀ q ∈ before, ∃ reserved, q.outcome = .ok reserved) ∧ r.outcome = .error fault) ∧
    (∀ (r : Reservation) fault, r.outcome = .error fault →
      fault.owner = r.owner ∧
      (Reserved.normalizeRanges r.owner r.max r.ranges = .error fault ∨
        (∃ out, Reserved.normalizeRanges r.owner r.max r.ranges = .ok out) ∧
          Reserved.normalizeNames r.owner r.names = .error fault)) ∧
    ∀ g : File, g.skeleton = f.skeleton →
      ∀ fault, g.lower = .error fault ↔ f.lower = .error fault := by
  refine ⟨?_, ?_, ?_, ?_⟩
  · rw [exists_ok_iff_of_findSome? f.fault?_lower]
    -- a reservation of the file is that of an enum or of a message in it
    simp only [File.mem_reservations, Reservation.fault?_eq_none_iff_exists_ok]
    constructor
    · intro hpass
      exact ⟨fun e he => hpass _ (.inl ⟨e, he, rfl⟩), fun m hm => hpass _ (.inr ⟨m, hm, rfl⟩)⟩
    · rintro ⟨henums, hmessages⟩ r (⟨e, he, rfl⟩ | ⟨m, hm, rfl⟩)
      · exact henums e he
      · exact hmessages m hm
  · intro fault
    rw [eq_error_iff_of_findSome? f.fault?_lower]
    simp only [Reservation.fault?_eq_none_iff_exists_ok, Reservation.fault?_eq_some]
  · intro r fault hr
    exact ⟨Reserved.owner_of_check hr, Reserved.check_eq_error.mp hr⟩
  · intro g hg fault
    rw [← fault?_eq_some, File.fault?_lower_congr hg, fault?_eq_some]

/-- A file with a message that ends a range before its start, and in it a message of which two
ranges overlap and a name is given twice. -/
def refusedFile (services : List Service) (options : List OptionSetting) : File where
  enums := [{ name := "Color", reservedNames := ["RED"] }]
  messages := [{
    name := "Outer", options, reservedRanges := [⟨7, some 6⟩]
    messages := [{
      name := "Inner", reservedRanges := [⟨2, none⟩, ⟨1, some 3⟩], reservedNames := ["x", "x"] }] }]
  services
  options

/-- The same file with a service and options. -/
def crowdedFile : File := refusedFile [{ name := "Shop" }] [{ extension := .here "o" }]

/-- What the inner message reserves. -/
def innerReservation : Reservation :=
  ⟨maxFieldNumber, "Inner", [⟨2, none⟩, ⟨1, some 3⟩], ["x", "x"]⟩

/-- The inner message is refused first, for its ranges; services and options do not matter. -/
theorem File.lower_reports_first_refused_inner :
    innerReservation.outcome = .error (.overlap "Inner" 2) ∧
    crowdedFile.skeleton = (refusedFile [] []).skeleton ∧
    (refusedFile [] []).lower = .error (.overlap "Inner" 2) ∧
    crowdedFile.lower = .error (.overlap "Inner" 2) ∧
    Reserved.normalizeRanges "Inner" maxFieldNumber innerReservation.ranges =
      .error (.overlap "Inner" 2) := by
  have hinner : innerReservation.outcome = .error (.overlap "Inner" 2) := by cbv
  have hskeleton : crowdedFile.skeleton = (refusedFile [] []).skeleton := rfl
  obtain ⟨-, hfirst, hown, hothers⟩ := File.lower_reports_first_refused (refusedFile [] [])
  have hlower : (refusedFile [] []).lower = .error (.overlap "Inner" 2) := by
    refine (hfirst _).mpr ⟨[EnumType.reservation { name := "Color", reservedNames := ["RED"] }],
      innerReservation, _, rfl, ?_, hinner⟩
    intro q hq
    rw [List.mem_singleton.mp hq]
    exact ⟨{ names := ["RED"] }, by cbv⟩
  refine ⟨hinner, hskeleton, hlower, (hothers crowdedFile hskeleton _).mpr hlower, ?_⟩
  -- the name that is given twice would be another fault
  rcases (hown innerReservation _ hinner).2 with hranges | ⟨-, hnames⟩
  · exact hranges
  · cases hnames

end Schema

end ProtoSchema
