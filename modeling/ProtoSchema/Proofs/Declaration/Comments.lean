/-
Doc comments do not affect code.

A help text is cut at its line breaks and every piece is written behind two slashes, so whatever
the text is, each of its lines is a comment (`DocComment.code_lines`). Comments stand only
between the lines of a file or of the block of a declaration, and such a block is always
expanded: neither is a comment drawn onto a line of code, nor does its width decide how a block
is laid out. Leaving out all help texts therefore changes neither the fault nor the lines of code
of a file, and two files that are equal without them have the same code.
-/
import ProtoSchema.Declaration.Printer
import ProtoSchema.Proofs.Layout.CodeLines
import ProtoSchema.Proofs.Outcome

set_option autoImplicit false

namespace ProtoSchema

open Outcome
open Layout (Body Line)

/-! ## Files without help texts -/

namespace Declaration

mutual

/-- **The declaration without help texts**, at any depth. -/
def withoutHelp : Declaration → Declaration
  | .message head children reserved =>
    .message { head with help := "" } (withoutHelpAll children) reserved
  | .enum head children reserved =>
    .enum { head with help := "" } (withoutHelpAll children) reserved
  | .extension head children => .extension { head with help := "" } (withoutHelpAll children)
  | .oneof head children => .oneof { head with help := "" } (withoutHelpAll children)
  | .service head children => .service { head with help := "" } (withoutHelpAll children)
  | .field head number type label => .field { head with help := "" } number type label
  | .enumConstant head number => .enumConstant { head with help := "" } number
  | .method head types => .method { head with help := "" } types

/-- Declarations without help texts. -/
def withoutHelpAll : List Declaration → List Declaration
  | [] => []
  | d :: rest => d.withoutHelp :: withoutHelpAll rest

end

end Declaration

/-- **The file without help texts.** -/
def ProtoFile.withoutHelp (f : ProtoFile) : ProtoFile :=
  { f with declarations := Declaration.withoutHelpAll f.declarations }

/-! ## Comments hold no code -/

namespace DocComment

/-- A line of a help text is a comment, so there is no code in it. -/
theorem code_plain_lineText {line : List Char} (h : '\n' ∉ line) (depth : Nat) :
    Layout.code depth [.plain (lineText line)] = [] := by
  unfold lineText
  split
  · have hempty : '\n' ∉ ([] : List Char) := List.not_mem_nil
    exact Layout.code_comment hempty depth
  · have htext : "// " ++ String.ofList line = String.ofList ('/' :: '/' :: ' ' :: line) := by
      apply String.toList_inj.mp
      simp
    rw [htext]
    refine Layout.code_comment ?_ depth
    rw [List.mem_cons, not_or]
    exact ⟨by decide, h⟩

/-- **A doc comment holds no code**: every line of it is a comment or empty. -/
theorem code_lines (help : String) (separate : Bool) (depth : Nat) :
    Layout.code depth (lines help separate) = [] := by
  have hcomments : Layout.code depth ((texts help).map Line.plain) = [] := by
    simp only [texts]
    split
    · rfl
    · -- the pieces between line breaks hold none, so each is one comment line
      have hpieces : ∀ pieces : List (List Char), (∀ piece ∈ pieces, '\n' ∉ piece) →
          Layout.code depth ((pieces.map lineText).map Line.plain) = [] := by
        intro pieces hpieces
        induction pieces with
        | nil => rfl
        | cons piece pieces ih =>
          obtain ⟨hpiece, hrest⟩ := List.forall_mem_cons.mp hpieces
          rw [List.map_cons, List.map_cons, ← List.singleton_append, Layout.code_append,
            code_plain_lineText hpiece, ih hrest, List.nil_append]
      exact hpieces _ fun piece => not_mem_of_mem_splitChars
  simp only [lines]
  split
  · rfl
  · split
    · rw [Layout.code_cons, hcomments]
      rfl
    · exact hcomments

end DocComment

/-! ## Code without help texts -/

/-- Bodies with the same lines of code, however deep they stand. -/
def SameCode (b c : Body) : Prop := ∀ depth, Layout.code depth b = Layout.code depth c

namespace SameCode

theorem refl (b : Body) : SameCode b b := fun _ => rfl

theorem append {b c b' c' : Body} (h : SameCode b c) (h' : SameCode b' c') :
    SameCode (b ++ b') (c ++ c') := by
  intro depth
  rw [Layout.code_append, Layout.code_append, h, h']

/-- A doc comment in front does not change the code. -/
theorem lines_append {b c : Body} (h : SameCode b c) (help help' : String)
    (separate separate' : Bool) :
    SameCode (DocComment.lines help separate ++ b) (DocComment.lines help' separate' ++ c) := by
  intro depth
  rw [Layout.code_append, Layout.code_append, DocComment.code_lines, DocComment.code_lines, h]

/-- The block of a declaration is always expanded, so its code is that of its lines. -/
theorem block {b c : Body} (h : SameCode b c) {opening : String}
    (hopening : Layout.alwaysExpands opening = true) (closing : String) :
    SameCode [.block opening b closing] [.block opening c closing] := by
  intro depth
  rw [Layout.code_block hopening, Layout.code_block hopening, h]

end SameCode

namespace Declaration

/-- A structural word in front of a name opens a block that is always expanded, whatever the
name is. -/
theorem alwaysExpands_append {keyword : String} (h : keyword ∈ Layout.structuralWords)
    (rest : String) : Layout.alwaysExpands (keyword ++ " " ++ rest) = true := by
  have hblank : ∀ word ∈ Layout.structuralWords, ' ' ∉ word.toList := by decide
  have hword : ∀ c ∈ keyword.toList, decide (c ≠ ' ') = true := by
    intro c hc
    refine decide_eq_true ?_
    rintro rfl
    exact hblank keyword h hc
  -- the keyword has no blank in it, so it is the first word
  have hfirst : (keyword ++ " " ++ rest).toList.takeWhile (· ≠ ' ') = keyword.toList := by
    rw [String.toList_append, String.toList_append, List.append_assoc,
      List.takeWhile_append_of_pos hword]
    simp
  simp only [Layout.alwaysExpands, Layout.firstWord, hfirst, String.ofList_toList,
    Bool.or_eq_true]
  exact .inl (List.contains_iff_mem.mpr h)

/-- Blocks of declarations agree if what is in them does, whatever their doc comments are. -/
theorem agree_block {keyword : String} (hkeyword : keyword ∈ Layout.structuralWords)
    (head : Heading) {x y : Except PrintError Body} (h : Agree SameCode x y)
    {fill : Body → Body → Body}
    (hfill : ∀ options {a b}, SameCode a b → SameCode (fill options a) (fill options b))
    (separate separate' : Bool) :
    Agree SameCode
      (do
        let options ← head.optionLines
        let inner ← x
        return DocComment.lines head.help separate ++ [blockLine keyword head (fill options inner)])
      (do
        let options ← Heading.optionLines { head with help := "" }
        let inner ← y
        return DocComment.lines "" separate' ++
          [blockLine keyword { head with help := "" } (fill options inner)]) := by
  have hoptions : Agree Eq head.optionLines (Heading.optionLines { head with help := "" }) :=
    .of_eq Eq.refl rfl
  refine hoptions.bind ?_
  rintro options _ rfl
  refine h.bind ?_
  intro a b hab
  -- a structural block is expanded anyway, so comments cannot change whether it fits
  have hopening := alwaysExpands_append hkeyword (head.name ++ " \x7b")
  rw [← String.append_assoc] at hopening
  exact .ok (((hfill options hab).block hopening "\x7d").lines_append _ _ _ _)

/-- Statements agree, whatever their doc comments are. -/
theorem agree_statement (x : Except PrintError Line) (help : String) (separate separate' : Bool) :
    Agree SameCode (do let line ← x; return DocComment.lines help separate ++ [line])
      (do let line ← x; return DocComment.lines "" separate' ++ [line]) := by
  have hx : Agree Eq x x := .of_eq Eq.refl rfl
  refine hx.bind ?_
  rintro line _ rfl
  exact .ok ((SameCode.refl [line]).lines_append _ _ _ _)

mutual

/-- **A declaration has the same code without help texts**, whether or not its comment is set
off. -/
theorem lines_withoutHelp : ∀ (d : Declaration) (separate separate' : Bool),
    Agree SameCode (d.lines separate) (d.withoutHelp.lines separate')
  | .message head children reserved, separate, separate' =>
    agree_block (by decide) head (childLines_withoutHelpAll children true)
      (fun options _ _ h => ((SameCode.refl options).append h).append (.refl reserved.lines)) _ _
  | .enum head children reserved, separate, separate' =>
    agree_block (by decide) head (childLines_withoutHelpAll children true)
      (fun options _ _ h => ((SameCode.refl options).append h).append (.refl reserved.lines)) _ _
  | .extension head children, _, _ =>
    agree_block (by decide) head (childLines_withoutHelpAll children true)
      (fun options _ _ h => (SameCode.refl options).append h) _ _
  | .oneof head children, _, _ =>
    agree_block (by decide) head (childLines_withoutHelpAll children true)
      (fun options _ _ h => (SameCode.refl options).append h) _ _
  | .service head children, _, _ =>
    agree_block (by decide) head (childLines_withoutHelpAll children true)
      (fun options _ _ h => (SameCode.refl options).append h) _ _
  | .field _ _ _ _, _, _ | .enumConstant _ _, _, _ | .method _ _, _, _ => agree_statement _ _ _ _

theorem childLines_withoutHelpAll : ∀ (ds : List Declaration) (first : Bool),
    Agree SameCode (childLines first ds) (childLines first (withoutHelpAll ds))
  | [], _ => .ok (.refl _)
  | d :: ds, first => by
    rw [withoutHelpAll, childLines, childLines]
    refine (lines_withoutHelp d _ _).bind ?_
    intro own own' hown
    refine (childLines_withoutHelpAll ds false).bind ?_
    intro others others' hothers
    exact .ok (hown.append hothers)

end

/-- The declarations at the top of a file have the same code with and without help texts. -/
theorem topLines_withoutHelpAll (ds : List Declaration) (first : Bool) :
    Agree SameCode (topLines first ds) (topLines first (withoutHelpAll ds)) := by
  induction ds generalizing first with
  | nil => exact .ok (.refl _)
  | cons d ds ih =>
    rw [withoutHelpAll, topLines, topLines]
    refine (lines_withoutHelp d _ _).bind ?_
    intro own own' hown
    refine (ih false).bind ?_
    intro others others' hothers
    exact .ok (((SameCode.refl _).append hown).append hothers)

end Declaration

namespace ProtoFile

/-- A file has the same code without help texts. -/
theorem render_withoutHelp (f : ProtoFile) :
    Agree (fun s t => codeLines s = codeLines t) f.render f.withoutHelp.render := by
  have hlines : Agree SameCode f.lines f.withoutHelp.lines := by
    have hoptions : Agree Eq (Heading.optionLines { options := f.options })
        (Heading.optionLines { options := f.withoutHelp.options }) := .of_eq Eq.refl rfl
    refine hoptions.bind ?_
    rintro options _ rfl
    refine (Declaration.topLines_withoutHelpAll f.declarations true).bind ?_
    intro ds ds' hds
    exact .ok (((SameCode.refl _).append hds).append (.refl _))
  exact hlines.map fun b c h => h 0

/-- **Doc comments do not affect code.** Files that differ in help texts only fail alike, and
otherwise have the same lines of code. -/
theorem codeLines_render_eq {f g : ProtoFile} (h : f.withoutHelp = g.withoutHelp) :
    (∀ e, f.render = .error e ↔ g.render = .error e) ∧
      ∀ s t, f.render = .ok s → g.render = .ok t → codeLines s = codeLines t := by
  have hf := f.render_withoutHelp
  have hg := g.render_withoutHelp
  rw [← h] at hg
  refine ⟨fun e => (hf.error_iff e).trans (hg.error_iff e).symm, ?_⟩
  intro s t hs ht
  obtain ⟨u, hu, hsu⟩ := hf.exists_ok hs
  obtain ⟨u', hu', htu⟩ := hg.exists_ok ht
  rw [hu] at hu'
  cases hu'
  exact hsu.trans htu.symm

/-- A file with a message of one field and their help texts. -/
def explained (help inner : String) : ProtoFile := {
  name := "a.proto"
  declarations := [
    .message { name := "A", help } [.field { name := "x", help := inner } 1 "bool" ""] {}] }

/-- A help text that looks like code stays in comments. -/
theorem codeLines_render_explained :
    ∃ s t, (explained "" "").render = .ok s ∧
      (explained "Ends the block.\n\x7d\nmessage B \x7b" "// \n\n\x7d").render = .ok t ∧
      codeLines s = codeLines t := by
  have h : (explained "" "").withoutHelp =
      (explained "Ends the block.\n\x7d\nmessage B \x7b" "// \n\n\x7d").withoutHelp := rfl
  exact ⟨_, _, rfl, rfl, (codeLines_render_eq h).2 _ _ rfl rfl⟩

end ProtoFile

end ProtoSchema
