/-
Every part of a document once.

A document is a tree of parts. What stands right inside a part is listed group by group
(`Part.children`), and a position in the tree is the way that leads there from the root, one number
for each step: which of the parts right inside comes next. Equal parts may stand at different
positions, so "each part once" is said of positions. They are compared as lists of numbers: a
position comes before those inside it, and whatever is inside a part before whatever is inside a
later one. That is reading order.

A traversal lists the parts at the positions that it reaches, each position once and in this order
(`File.parts_each_position_once`). It reaches a position unless a part above it is of a kind at
which it stops. A traversal that went through a group twice, or left one out, would list more parts
or fewer than there are such positions.
-/
import Mathlib.Data.List.Forall2
import ProtoSchema.Schema.Traversal

set_option autoImplicit false

namespace ProtoSchema

namespace Schema

/-! ## The tree -/

/-- **The parts right inside a part**, group by group. -/
def Part.children : Part → List Part
  | .file f =>
    f.enums.map .enum ++ f.messages.map .message ++ f.services.map .service ++
      f.customOptions.map .customOption ++ f.options.map .option
  | .message m =>
    m.enums.map .enum ++ m.messages.map .message ++ m.oneofs.map .oneof ++
      m.fields.map .field ++ m.options.map .option
  | .enum e => e.constants.map .enumConstant ++ e.options.map .option
  | .enumConstant c => c.options.map .option
  | .field f => .typeRef f.type :: f.options.map .option
  | .oneof o => o.fields.map .field ++ o.options.map .option
  | .service s => s.methods.map .method ++ s.options.map .option
  | .method m => .typeRef m.input :: .typeRef m.output :: m.options.map .option
  | .customOption c => [.typeRef c.type]
  | .option o => [.typeRef o.extension]
  | .typeRef _ => []

/-- **A position in a tree of parts**: at each step from the root, which of the parts right inside
comes next. -/
abbrev Position := List Nat

/-- The part at a position. -/
def Part.at? : Part → Position → Option Part
  | part, [] => some part
  | part, i :: rest => part.children[i]?.bind fun child => child.at? rest

/-- **A position that a traversal reaches**: there is a part, and no part above it is of a kind at
which the traversal stops. -/
structure Part.Reached (root : Part) (stop : PartKind → Bool) (pos : Position) : Prop where
  exists_part : ∃ part, root.at? pos = some part
  open_above : ∀ above part, above <+: pos → above ≠ pos → root.at? above = some part →
    stop part.kind = false

/-- **The items at chosen positions**, each position once and in reading order. -/
def ListsOnce {α : Type} (item? : Position → Option α) (chosen : Position → Prop)
    (items : List α) : Prop :=
  ∃ positions : List Position, positions.Pairwise (· < ·) ∧
    (∀ pos, pos ∈ positions ↔ chosen pos) ∧
    List.Forall₂ (fun pos item => item? pos = some item) positions items

/-! ## One step down -/

/-- Messages are listed one after another, each with what is inside it. -/
theorem Message.listParts_eq_flatMap (stop : PartKind → Bool) (ms : List Message) :
    Message.listParts stop ms = ms.flatMap (Message.parts stop) := by
  induction ms with
  | nil => rfl
  | cons m ms ih => rw [Message.listParts, ih, List.flatMap_cons]

/-- **A traversal goes from a part to the parts right inside it**, in their order. -/
theorem Part.parts_eq_followedBy (stop : PartKind → Bool) (p : Part) :
    p.parts stop = p.followedBy stop (p.children.flatMap (Part.parts stop)) := by
  cases p with
  | file f =>
    simp only [Part.parts, File.parts, Part.children, List.flatMap_append, List.flatMap_map,
      Message.listParts_eq_flatMap, optionParts]
  | message m =>
    -- The parts of a message are given by its fields, so they show only once it is taken apart.
    obtain ⟨name, help, enums, messages, oneofs, fields, options, ranges, names⟩ := m
    simp only [Part.parts, Message.parts, Part.children, List.flatMap_append, List.flatMap_map,
      Message.listParts_eq_flatMap, optionParts]
  | enum e =>
    simp only [Part.parts, EnumType.parts, Part.children, List.flatMap_append, List.flatMap_map,
      optionParts]
  | enumConstant c =>
    simp only [Part.parts, EnumConstant.parts, Part.children, List.flatMap_map, optionParts]
  | field f =>
    simp only [Part.parts, Field.parts, Part.children, List.flatMap_cons, List.flatMap_map,
      optionParts, List.singleton_append]
  | oneof o =>
    simp only [Part.parts, Oneof.parts, Part.children, List.flatMap_append, List.flatMap_map,
      optionParts]
  | service s =>
    simp only [Part.parts, Service.parts, Part.children, List.flatMap_append, List.flatMap_map,
      optionParts]
  | method m =>
    simp only [Part.parts, Method.parts, Part.children, List.flatMap_cons, List.flatMap_map,
      optionParts, List.singleton_append]
  | customOption c => rfl
  | option o => rfl
  | typeRef t => simp [Part.parts, Part.followedBy, Part.children]

/-- A part lists more parts than any part right inside it. -/
theorem Part.length_parts_lt {p c : Part} (h : c ∈ p.children) :
    (c.parts everywhere).length < (p.parts everywhere).length := by
  obtain ⟨before, after, hsplit⟩ := List.append_of_mem h
  rw [p.parts_eq_followedBy everywhere, hsplit, List.flatMap_append, List.flatMap_cons]
  simp only [Part.followedBy, everywhere, Bool.false_eq_true, if_false, List.length_cons,
    List.length_append]
  omega

/-- **Induction over the tree**: what holds of a part as soon as it holds of the parts right inside
holds of every part. -/
theorem Part.induction_children {motive : Part → Prop}
    (step : ∀ p : Part, (∀ c ∈ p.children, motive c) → motive p) (p : Part) : motive p := by
  -- Parts of eleven kinds contain each other; how many parts there are inside goes down for all.
  induction hn : (p.parts everywhere).length using Nat.strongRecOn generalizing p with
  | ind n ih =>
    apply step p
    intro c hc
    exact ih _ (hn ▸ Part.length_parts_lt hc) c rfl

section Reached

variable {root : Part} {stop : PartKind → Bool}

theorem Part.at?_cons {child : Part} {i : Nat} (h : root.children[i]? = some child)
    (rest : Position) : root.at? (i :: rest) = child.at? rest := by
  rw [Part.at?, h, Option.bind_some]

/-- A traversal reaches the part that it starts from, even if it stops there. -/
theorem Part.reached_nil : root.Reached stop [] := by
  refine ⟨⟨root, rfl⟩, ?_⟩
  intro above part hprefix hne
  exact absurd (List.prefix_nil.mp hprefix) hne

/-- **A traversal reaches a position inside a part** if it does not stop at the part and reaches the
position from the part right inside that the first step leads to. -/
theorem Part.reached_cons {i : Nat} {rest : Position} :
    root.Reached stop (i :: rest) ↔
      stop root.kind = false ∧ ∃ child, root.children[i]? = some child ∧
        child.Reached stop rest := by
  constructor
  · intro h
    refine ⟨h.open_above [] root List.nil_prefix (List.cons_ne_nil _ _).symm rfl, ?_⟩
    obtain ⟨part, hpart⟩ := h.exists_part
    obtain ⟨child, hchild, hat⟩ := Option.bind_eq_some_iff.mp hpart
    refine ⟨child, hchild, ⟨part, hat⟩, ?_⟩
    intro above part hprefix hne hat
    apply h.open_above (i :: above) part (List.prefix_cons_inj i |>.mpr hprefix)
    · exact fun heq => hne (List.cons.inj heq).2
    · rw [Part.at?_cons hchild, hat]
  · rintro ⟨hopen, child, hchild, ⟨part, hat⟩, habove⟩
    refine ⟨⟨part, by rw [Part.at?_cons hchild, hat]⟩, ?_⟩
    intro above part hprefix hne hat
    -- above the position is the part itself, or something above the rest of the way
    cases above with
    | nil =>
      cases hat
      exact hopen
    | cons j above =>
      obtain ⟨rfl, hinner⟩ := List.cons_prefix_cons.mp hprefix
      rw [Part.at?_cons hchild] at hat
      exact habove above part hinner (fun heq => hne (congrArg (j :: ·) heq)) hat

/-- A traversal that never stops reaches every position. -/
theorem Part.reached_everywhere {pos : Position} :
    root.Reached everywhere pos ↔ ∃ part, root.at? pos = some part :=
  ⟨Part.Reached.exists_part, fun h => ⟨h, fun _ _ _ _ _ => rfl⟩⟩

end Reached

/-! ## Lists by position -/

namespace ListsOnce

variable {α : Type} {item? : Position → Option α}

/-- Only the chosen positions matter. -/
theorem congr {chosen chosen' : Position → Prop} {items : List α}
    (h : ListsOnce item? chosen items) (hchosen : ∀ pos, chosen pos ↔ chosen' pos) :
    ListsOnce item? chosen' items := by
  obtain ⟨positions, hsorted, hmem, hitems⟩ := h
  exact ⟨positions, hsorted, fun pos => (hmem pos).trans (hchosen pos), hitems⟩

theorem nil (item? : Position → Option α) : ListsOnce item? (fun _ => False) [] :=
  ⟨[], .nil, by simp, .nil⟩

/-- One item at one position. -/
theorem singleton {pos : Position} {item : α} (h : item? pos = some item) :
    ListsOnce item? (· = pos) [item] :=
  ⟨[pos], List.pairwise_singleton _ _, by simp, .cons h .nil⟩

/-- **One list after another**, when its positions come later. -/
theorem append {first second : Position → Prop} {xs ys : List α} (hxs : ListsOnce item? first xs)
    (hys : ListsOnce item? second ys) (hlt : ∀ p q, first p → second q → p < q) :
    ListsOnce item? (fun pos => first pos ∨ second pos) (xs ++ ys) := by
  obtain ⟨before, hbefore, hmemBefore, hitemsBefore⟩ := hxs
  obtain ⟨after, hafter, hmemAfter, hitemsAfter⟩ := hys
  refine ⟨before ++ after, ?_, ?_, List.rel_append hitemsBefore hitemsAfter⟩
  · rw [List.pairwise_append]
    refine ⟨hbefore, hafter, ?_⟩
    intro p hp q hq
    exact hlt p q ((hmemBefore p).mp hp) ((hmemAfter q).mp hq)
  · intro pos
    rw [List.mem_append, hmemBefore, hmemAfter]

/-- **A list seen from one step above.** -/
theorem below {inner? : Position → Option α} {chosen : Position → Prop} {items : List α} {i : Nat}
    (h : ListsOnce inner? chosen items) (hinner : ∀ rest, item? (i :: rest) = inner? rest) :
    ListsOnce item? (fun pos => ∃ rest, pos = i :: rest ∧ chosen rest) items := by
  obtain ⟨positions, hsorted, hmem, hitems⟩ := h
  refine ⟨positions.map (i :: ·), ?_, ?_, ?_⟩
  · rw [List.pairwise_map]
    exact hsorted.imp List.cons_lt_cons_self.mpr
  · intro pos
    rw [List.mem_map]
    constructor
    · rintro ⟨rest, hrest, rfl⟩
      exact ⟨rest, rfl, (hmem rest).mp hrest⟩
    · rintro ⟨rest, rfl, hrest⟩
      exact ⟨rest, (hmem rest).mpr hrest, rfl⟩
  · rw [List.forall₂_map_left_iff]
    refine hitems.imp ?_
    intro rest item hitem
    rw [hinner, hitem]

/-- **A view of the items** that leaves some of them out leaves out their positions. -/
theorem filterMap {β : Type} {chosen : Position → Prop} {items : List α}
    (h : ListsOnce item? chosen items) (view : α → Option β) :
    ListsOnce (fun pos => (item? pos).bind view)
      (fun pos => chosen pos ∧ ∃ b, (item? pos).bind view = some b)
      (items.filterMap view) := by
  obtain ⟨positions, hsorted, hmem, hitems⟩ := h
  refine ⟨positions.filter fun pos => ((item? pos).bind view).isSome, hsorted.filter _, ?_, ?_⟩
  · intro pos
    rw [List.mem_filter, hmem, Option.isSome_iff_exists]
  · clear hmem hsorted
    -- By the two lists in step: an item that the view drops is dropped on both sides.
    induction hitems with
    | nil => exact .nil
    | @cons pos item positions items hitem _ ih =>
      rw [List.filter_cons, List.filterMap_cons, hitem, Option.bind_some]
      cases hview : view item with
      | none => exact ih
      | some b =>
        have hb : (item? pos).bind view = some b := by rw [hitem, Option.bind_some, hview]
        exact .cons hb ih

end ListsOnce

/-! ## What a traversal lists -/

namespace Part

variable {stop : PartKind → Bool}

/-- A position that a traversal reaches by way of one of the first parts right inside. -/
def ReachedThrough (p : Part) (stop : PartKind → Bool) (n : Nat) (pos : Position) : Prop :=
  ∃ i rest child, pos = i :: rest ∧ i < n ∧ p.children[i]? = some child ∧ child.Reached stop rest

/-- By way of all parts right inside, every position further inside is reached. -/
theorem reachedThrough_all {p : Part} {i : Nat} {rest : Position} :
    p.ReachedThrough stop p.children.length (i :: rest) ↔
      ∃ child, p.children[i]? = some child ∧ child.Reached stop rest := by
  constructor
  · rintro ⟨_, _, child, heq, -, hchild⟩
    cases heq
    exact ⟨child, hchild⟩
  · rintro ⟨child, hchild⟩
    exact ⟨i, rest, child, rfl, (List.getElem?_eq_some_iff.mp hchild.1).1, hchild⟩

/-- The first parts right inside a part, with everything in them. The induction is on how many
they are: the next one comes last, and so do the positions inside it. -/
theorem listsOnce_take_children {p : Part}
    (h : ∀ c ∈ p.children, ListsOnce c.at? (c.Reached stop) (c.parts stop)) (n : Nat)
    (hn : n ≤ p.children.length) :
    ListsOnce p.at? (p.ReachedThrough stop n)
      ((p.children.take n).flatMap (Part.parts stop)) := by
  induction n with
  | zero =>
    refine (ListsOnce.nil p.at?).congr ?_
    intro pos
    simp [ReachedThrough]
  | succ n ih =>
    have hchild : p.children[n]? = some p.children[n] := List.getElem?_eq_getElem hn
    have hnext := (h _ (List.getElem_mem hn)).below (Part.at?_cons hchild)
    rw [List.take_add_one, hchild, Option.toList_some, List.flatMap_append, List.flatMap_singleton]
    -- The first step decides: below `n` it leads to an earlier part, at `n` to the next one.
    refine ((ih (by omega)).append hnext ?_).congr ?_
    · rintro pos later ⟨i, rest, -, rfl, hi, -⟩ ⟨rest', rfl, -⟩
      exact List.cons_lt_cons_iff.mpr (.inl hi)
    · intro pos
      constructor
      · rintro (⟨i, rest, child, rfl, hi, hreached⟩ | ⟨rest, rfl, hreached⟩)
        · exact ⟨i, rest, child, rfl, by omega, hreached⟩
        · exact ⟨n, rest, _, rfl, by omega, hchild, hreached⟩
      · rintro ⟨i, rest, child, rfl, hi, hat, hreached⟩
        by_cases hin : i < n
        · exact .inl ⟨i, rest, child, rfl, hin, hat, hreached⟩
        · obtain rfl : i = n := by omega
          cases hchild.symm.trans hat
          exact .inr ⟨rest, rfl, hreached⟩

/-- **A traversal lists the parts that it reaches**, each position once and in reading order. -/
theorem listsOnce_parts (stop : PartKind → Bool) (p : Part) :
    ListsOnce p.at? (p.Reached stop) (p.parts stop) := by
  induction p using Part.induction_children with
  | step p ih =>
    have hroot : ListsOnce p.at? (· = []) [p] := .singleton rfl
    rw [p.parts_eq_followedBy, Part.followedBy]
    by_cases hstop : stop p.kind = true
    · rw [if_pos hstop]
      -- a traversal that stops here reaches nothing further inside
      refine hroot.congr ?_
      intro pos
      cases pos with
      | nil => simp [Part.reached_nil]
      | cons i rest => simp [Part.reached_cons, hstop]
    · rw [if_neg hstop, ← List.singleton_append]
      have hinside := Part.listsOnce_take_children ih p.children.length (Nat.le_refl _)
      rw [List.take_length] at hinside
      -- the part comes before what is inside it, and its empty position before all longer ones
      refine (hroot.append hinside ?_).congr ?_
      · rintro pos inner rfl ⟨i, rest, -, rfl, -⟩
        exact List.nil_lt_cons i rest
      · intro pos
        cases pos with
        | nil => simp [Part.reached_nil]
        | cons i rest => simp [Part.reached_cons, Part.reachedThrough_all, hstop]

end Part

/-- **A traversal of a document lists every part that it reaches, each position once and in reading
order.** One that stops nowhere lists the parts at all positions, and so every type reference. -/
theorem File.parts_each_position_once (f : File) (stop : PartKind → Bool) :
    ListsOnce (Part.file f).at? ((Part.file f).Reached stop) (f.parts stop) ∧
      ListsOnce (Part.file f).at? (fun pos => ∃ part, (Part.file f).at? pos = some part)
        (f.parts everywhere) ∧
      ListsOnce (fun pos => ((Part.file f).at? pos).bind Part.typeRef?)
        (fun pos => ∃ t, (Part.file f).at? pos = some (.typeRef t)) f.typeRefs := by
  have hall : ListsOnce (Part.file f).at? (fun pos => ∃ part, (Part.file f).at? pos = some part)
      (f.parts everywhere) :=
    ((Part.file f).listsOnce_parts everywhere).congr fun _ => Part.reached_everywhere
  refine ⟨(Part.file f).listsOnce_parts stop, hall, (hall.filterMap Part.typeRef?).congr ?_⟩
  intro pos
  constructor
  · rintro ⟨⟨part, hpart⟩, t, ht⟩
    rw [hpart, Option.bind_some] at ht
    cases part with
    | typeRef u => exact ⟨u, hpart⟩
    | _ => cases ht
  · rintro ⟨t, ht⟩
    exact ⟨⟨_, ht⟩, t, by rw [ht, Option.bind_some, Part.typeRef?]⟩

/-- Stopping at oneofs hides their fields, but not the fields beside them. -/
example :
    (({ messages := [{ oneofs := [{ fields := [{}, {}] }], fields := [{}] }],
        options := [{}] } : File).parts (· == .oneof)).map Part.kind =
      [.file, .message, .oneof, .field, .typeRef, .option, .typeRef] := by decide

end Schema

end ProtoSchema
