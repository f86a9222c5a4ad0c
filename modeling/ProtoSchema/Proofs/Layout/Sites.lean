/-
Where the lines of a body are written.

Every line is laid out by itself: it is given the number of blocks around it and the blanks it
starts behind, and it decides from them whether its own block is collapsed. `Writes` follows these
decisions. It relates a line at a place of the text to every line inside it, at the place where
that line ends up, with the text before and after it. The places are sound: whatever line of a
body is looked at, its text between what stands before and after it is the whole text
(`WritesIn.text_eq`). Statements about single blocks of a text are made about places.
-/
import ProtoSchema.Layout

set_option autoImplicit false

namespace ProtoSchema

namespace Layout

/-! ## Texts of several lines, cut at one of them -/

/-- A separator, unless nothing stands before it. -/
def gapAfter (separator : String) (earlier : List Line) : String :=
  if earlier.isEmpty then "" else separator

/-- A text that puts lines after each other, with a separator before each but the first, is cut
at a line. -/
theorem split_of_cons {separator : String} {own : Line → String} {text : Bool → List Line → String}
    (hnil : ∀ first, text first [] = "")
    (hcons : ∀ first line rest, text first (line :: rest) =
      (if first then "" else separator) ++ own line ++ text false rest)
    (earlier later : List Line) (line : Line) :
    text true (earlier ++ line :: later) =
      text true earlier ++ gapAfter separator earlier ++ own line ++ text false later := by
  have hrest : ∀ earlier : List Line, text false (earlier ++ line :: later) =
      text false earlier ++ separator ++ own line ++ text false later := by
    intro earlier
    induction earlier with
    | nil => simp [hnil, hcons]
    | cons next rest ih => simp [hcons, ih, String.append_assoc]
  cases earlier with
  | nil => simp [hnil, hcons, gapAfter]
  | cons next rest => simp [hcons, hrest, gapAfter, String.append_assoc]

/-- A line among collapsed ones, with the text before and behind it. -/
theorem collapsedText_split (depth : Nat) (earlier later : List Line) (line : Line) :
    collapsedText depth true (earlier ++ line :: later) =
      collapsedText depth true earlier ++ gapAfter " " earlier ++ line.text depth 0 ++
        collapsedText depth false later :=
  split_of_cons (fun _ => rfl) (fun _ _ _ => rfl) earlier later line

/-- A line among expanded ones stands behind the blanks of their depth. -/
theorem expandedText_split (depth : Nat) (earlier later : List Line) (line : Line) :
    expandedText depth true (earlier ++ line :: later) =
      expandedText depth true earlier ++ gapAfter "\n" earlier ++
        line.text depth (indentStep * depth) ++ expandedText depth false later :=
  split_of_cons (fun _ => rfl) (fun _ _ _ => rfl) earlier later line

/-! ## Places -/

/-- **A place for a line**: the number of blocks around it, the number of blanks it starts behind,
and the text before and after it. -/
structure Site where
  depth : Nat := 0
  indent : Nat := 0
  before : String := ""
  after : String := ""

namespace Site

/-- The whole text, if a line is written at the place. -/
def text (s : Site) (line : Line) : String := s.before ++ line.text s.depth s.indent ++ s.after

/-- The place of a line of a body, between the lines before and after it. -/
def top (earlier later : List Line) : Site where
  before := expandedText 0 true earlier ++ gapAfter "\n" earlier
  after := expandedText 0 false later

/-- The place of a line in a block that is written collapsed, between the lines before and after
it. -/
def collapsed (s : Site) (opening : String) (earlier later : List Line) (closing : String) :
    Site where
  depth := s.depth + 1
  indent := 0
  before := s.before ++ blanks s.indent ++ opening ++ collapsedText (s.depth + 1) true earlier ++
    gapAfter " " earlier
  after := collapsedText (s.depth + 1) false later ++ closing ++ s.after

/-- The place of a line in a block that is written expanded, between the lines before and after
it. -/
def expanded (s : Site) (opening : String) (earlier later : List Line) (closing : String) :
    Site where
  depth := s.depth + 1
  indent := indentStep * (s.depth + 1)
  before := s.before ++ blanks s.indent ++ opening ++ "\n" ++
    expandedText (s.depth + 1) true earlier ++ gapAfter "\n" earlier
  after := expandedText (s.depth + 1) false later ++ "\n" ++ blanks s.indent ++ closing ++ s.after

end Site

/-- **What writing a line writes.** `Writes outer s inner t` says that writing `outer` at the place
`s` writes `inner` at the place `t`: it is `outer` itself, or a line in its block, or in a block
inside it, and so on. -/
inductive Writes (outer : Line) (s : Site) : Line → Site → Prop where
  | self : Writes outer s outer s
  | collapsed {t : Site} {opening closing : String} {earlier later : List Line} {line : Line}
      (h : Writes outer s (.block opening (earlier ++ line :: later) closing) t)
      (hcollapses : collapses t.indent opening (earlier ++ line :: later) closing = true) :
      Writes outer s line (t.collapsed opening earlier later closing)
  | expanded {t : Site} {opening closing : String} {earlier later : List Line} {line : Line}
      (h : Writes outer s (.block opening (earlier ++ line :: later) closing) t)
      (hexpands : collapses t.indent opening (earlier ++ line :: later) closing = false) :
      Writes outer s line (t.expanded opening earlier later closing)

/-- **What writing a body writes.** -/
def WritesIn (body : Body) (line : Line) (s : Site) : Prop :=
  ∃ earlier first later, body = earlier ++ first :: later ∧
    Writes first (Site.top earlier later) line s

/-! ## Places are sound -/

namespace Writes

variable {outer middle inner : Line} {r s t : Site}

/-- What is written in a line that is itself written in another one is written in that one. -/
theorem trans (h : Writes outer r middle s) (h' : Writes middle s inner t) :
    Writes outer r inner t := by
  induction h' with
  | self => exact h
  | collapsed _ hcollapses ih => exact .collapsed ih hcollapses
  | expanded _ hexpands ih => exact .expanded ih hexpands

/-- A line at its place is a part of the text around it. -/
theorem text_eq (h : Writes outer s inner t) : t.text inner = s.text outer := by
  induction h with
  | self => rfl
  | collapsed h hcollapses ih =>
    rw [← ih, Site.text, Site.text, Line.text, if_pos hcollapses, collapsedText_split]
    simp only [Site.collapsed, String.append_assoc]
  | expanded h hexpands ih =>
    rw [← ih, Site.text, Site.text, Line.text, if_neg (by rw [hexpands]; decide),
      expandedText_split]
    simp only [Site.expanded, String.append_assoc]

/-- Every line of a block is written somewhere. -/
theorem exists_of_mem {opening closing : String} {lines : List Line} {line : Line}
    (h : line ∈ lines) (s : Site) : ∃ t, Writes (.block opening lines closing) s line t := by
  obtain ⟨earlier, later, rfl⟩ := List.append_of_mem h
  cases hcollapses : collapses s.indent opening (earlier ++ line :: later) closing with
  | true => exact ⟨_, .collapsed .self hcollapses⟩
  | false => exact ⟨_, .expanded .self hcollapses⟩

end Writes

/-- **A line of a body at its place, with what stands around it, is the whole text.** -/
theorem WritesIn.text_eq {body : Body} {line : Line} {s : Site} (h : WritesIn body line s) :
    s.text line = render body := by
  obtain ⟨earlier, first, later, rfl, hwrites⟩ := h
  rw [hwrites.text_eq, render, expandedText_split]
  rfl

end Layout

end ProtoSchema
