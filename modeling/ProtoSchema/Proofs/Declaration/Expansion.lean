/-
The blocks of declarations and of HTTP rules are always expanded.

A file has a block for each message, enum, extension, oneof and service, and one for each HTTP rule
whose value has several parts, in the long form of options (`ProtoFile.expandedBlocks`). All of
them are blocks of the body that is rendered, in the same order (`sublist_lines`), and their
opening tokens are of the kinds that are always expanded, whatever the names in them are
(`alwaysExpands_of_mem`). So each of them is on lines of its own, and so is every block around it.
-/
import ProtoSchema.Proofs.Declaration.Comments
import ProtoSchema.Proofs.Layout.Expanding

set_option autoImplicit false

namespace ProtoSchema

open Outcome
open Layout (Body Line blocksOf blocksOf_append blocksOf_singleton alwaysExpands)

/-! ## Options -/

namespace OptionAssignment

/-- The option that gives a method its HTTP rule. -/
def ruleName : String := "google.api.http"

/-- **The block of an HTTP rule** in the long form, if the value of the rule has one: its opening
and its closing token. -/
def ruleBlocks (o : OptionAssignment) : List (String × String) :=
  if o.name = ruleName then
    match o.value with
    | .mapping _ => [("option (google.api.http) = \x7b", "\x7d;")]
    | .sequence _ => [("option (google.api.http) = [", "];")]
    | _ => []
  else []

/-- The block of an http rule is always expanded, wherever it is written. -/
theorem alwaysExpands_of_mem_ruleBlocks {o : OptionAssignment} {b : String × String}
    (h : b ∈ o.ruleBlocks) : alwaysExpands b.1 = true := by
  unfold ruleBlocks at h
  split at h
  · split at h
    · rw [List.mem_singleton.mp h]
      rfl
    · rw [List.mem_singleton.mp h]
      rfl
    · cases h
  · cases h

theorem alwaysExpands_of_mem_flatMap {os : List OptionAssignment} {b : String × String}
    (h : b ∈ os.flatMap ruleBlocks) : alwaysExpands b.1 = true := by
  obtain ⟨o, -, ho⟩ := List.mem_flatMap.mp h
  exact alwaysExpands_of_mem_ruleBlocks ho

/-- The text before the value of a rule. -/
theorem longLine_of_name_eq {o : OptionAssignment} (hname : o.name = ruleName) {line : Line}
    (h : o.longLine = .ok line) :
    o.value.line o.name "option (google.api.http) = " ";" = .ok line := by
  have hextension : o.isExtension = true := by
    rw [isExtension, hname]
    rfl
  have htext : "option " ++ ("(" ++ o.name ++ ")") ++ " = " = "option (google.api.http) = " := by
    rw [hname]
    rfl
  rw [longLine, if_pos hextension, htext] at h
  split at h
  · cases h
  · exact h

/-- A rule is written as its block. -/
theorem ruleBlocks_sublist {o : OptionAssignment} {line : Line} (h : o.longLine = .ok line) :
    o.ruleBlocks.Sublist line.blocks := by
  unfold ruleBlocks
  split
  · rename_i hname
    have hline := longLine_of_name_eq hname h
    split
    · rename_i entries hvalue
      rw [hvalue, OptionValue.line, bind_eq_ok] at hline
      obtain ⟨lines, -, hpure⟩ := hline
      obtain rfl := pure_eq_ok.mp hpure
      exact (List.nil_sublist _).cons_cons _
    · rename_i items hvalue
      rw [hvalue, OptionValue.line, bind_eq_ok] at hline
      obtain ⟨lines, -, hpure⟩ := hline
      obtain rfl := pure_eq_ok.mp hpure
      exact (List.nil_sublist _).cons_cons _
    · exact List.nil_sublist _
  · exact List.nil_sublist _

/-- Adding options that can all be written adds the line of each. -/
theorem finished_addLong_eq_ok {os : List OptionAssignment} {body result : Body}
    (h : finished (addLong body os) = .ok result) :
    ∃ lines, result = body ++ lines ∧
      List.Forall₂ (fun o line => longLine o = .ok line) os lines := by
  induction os generalizing body with
  | nil =>
    cases h
    exact ⟨[], (List.append_nil _).symm, .nil⟩
  | cons o os ih =>
    rw [addLong] at h
    cases hline : o.longLine with
    | error e =>
      -- a failing option would have ended the adding
      rw [hline] at h
      cases h
    | ok line =>
      rw [hline] at h
      obtain ⟨lines, rfl, hlines⟩ := ih h
      exact ⟨line :: lines, by rw [List.append_assoc, List.singleton_append], .cons hline hlines⟩

/-- **Written options contain their http rules**, in order, among the blocks of their lines. -/
theorem sublist_longLines {os : List OptionAssignment} {lines : Body}
    (h : longLines os = .ok lines) : (os.flatMap ruleBlocks).Sublist (blocksOf lines) := by
  obtain ⟨_, rfl, hlines⟩ := finished_addLong_eq_ok h
  clear h
  induction hlines with
  | nil => exact List.nil_sublist _
  | cons hline _ ih => exact (ruleBlocks_sublist hline).append ih

end OptionAssignment

/-! ## Declarations -/

namespace Heading

/-- The blocks of the HTTP rules of a heading. -/
def ruleBlocks (head : Heading) : List (String × String) :=
  head.options.flatMap OptionAssignment.ruleBlocks

/-- The tokens of the block of a declaration. -/
def blockTokens (keyword : String) (head : Heading) : String × String :=
  (keyword ++ " " ++ head.name ++ " \x7b", "\x7d")

/-- So do the options of a heading. -/
theorem sublist_optionLines {head : Heading} {lines : Body} (h : head.optionLines = .ok lines) :
    head.ruleBlocks.Sublist (blocksOf lines) := by
  rw [optionLines] at h
  split at h
  · rename_i hempty
    rw [ruleBlocks, List.isEmpty_iff.mp hempty]
    exact List.nil_sublist _
  · obtain ⟨options, hoptions, rfl⟩ := map_eq_ok.mp h
    rw [blocksOf_append]
    exact (OptionAssignment.sublist_longLines hoptions).trans (List.sublist_append_left _ _)

/-- A method writes its http rules into its own block. -/
theorem sublist_methodLine {head : Heading} {types : MethodTypes} {line : Line}
    (h : head.methodLine types = .ok line) : head.ruleBlocks.Sublist line.blocks := by
  simp only [methodLine] at h
  split at h
  · rename_i hempty
    rw [ruleBlocks, List.isEmpty_iff.mp hempty]
    exact List.nil_sublist _
  · obtain ⟨options, hoptions, rfl⟩ := map_eq_ok.mp h
    exact (OptionAssignment.sublist_longLines hoptions).cons _

end Heading

namespace Declaration

mutual

/-- **The blocks of a declaration that are always expanded**, at any depth and in document order:
those of the declarations that open one, and those of HTTP rules in the long form. -/
def expandedBlocks : Declaration → List (String × String)
  | .message head children _ =>
    head.blockTokens "message" :: (head.ruleBlocks ++ expandedBlocksAll children)
  | .enum head children _ =>
    head.blockTokens "enum" :: (head.ruleBlocks ++ expandedBlocksAll children)
  | .extension head children =>
    head.blockTokens "extend" :: (head.ruleBlocks ++ expandedBlocksAll children)
  | .oneof head children =>
    head.blockTokens "oneof" :: (head.ruleBlocks ++ expandedBlocksAll children)
  | .service head children =>
    head.blockTokens "service" :: (head.ruleBlocks ++ expandedBlocksAll children)
  | .field _ _ _ _ | .enumConstant _ _ => []
  | .method head _ => head.ruleBlocks

/-- The blocks of several declarations that are always expanded. -/
def expandedBlocksAll : List Declaration → List (String × String)
  | [] => []
  | d :: rest => d.expandedBlocks ++ expandedBlocksAll rest

end

/-! ### Their opening tokens -/

/-- A structural block is always expanded, so with the rules of its heading and what is inside it
all blocks are. -/
theorem alwaysExpands_of_mem_cons {keyword : String} (hkeyword : keyword ∈ Layout.structuralWords)
    {head : Heading} {inside : List (String × String)}
    (hinside : ∀ b ∈ inside, alwaysExpands b.1 = true) :
    ∀ b ∈ head.blockTokens keyword :: (head.ruleBlocks ++ inside), alwaysExpands b.1 = true := by
  have hopening := alwaysExpands_append hkeyword (head.name ++ " \x7b")
  have hrules : ∀ b ∈ head.ruleBlocks, alwaysExpands b.1 = true := fun _ =>
    OptionAssignment.alwaysExpands_of_mem_flatMap
  rw [← String.append_assoc] at hopening
  exact List.forall_mem_cons.mpr ⟨hopening, List.forall_mem_append.mpr ⟨hrules, hinside⟩⟩

mutual

theorem alwaysExpands_of_mem : ∀ d : Declaration, ∀ b ∈ d.expandedBlocks, alwaysExpands b.1 = true
  | .message _ children _ | .enum _ children _ | .extension _ children | .oneof _ children
  | .service _ children =>
    alwaysExpands_of_mem_cons (by decide) (alwaysExpands_of_mem_all children)
  | .field _ _ _ _ | .enumConstant _ _ => fun _ hb => nomatch hb
  | .method _ _ => fun _ => OptionAssignment.alwaysExpands_of_mem_flatMap

theorem alwaysExpands_of_mem_all : ∀ ds : List Declaration,
    ∀ b ∈ expandedBlocksAll ds, alwaysExpands b.1 = true
  | [] => fun _ hb => nomatch hb
  | d :: rest => List.forall_mem_append.mpr
      ⟨alwaysExpands_of_mem d, alwaysExpands_of_mem_all rest⟩

end

/-! ### Their places in the body -/

/-- The block of a declaration has the blocks of its options and of what is inside it. -/
theorem sublist_blockLine {keyword : String} {head : Heading} {separate : Bool}
    {inner : Except PrintError Body} {inside : List (String × String)} {body : Body}
    {fill : Body → Body → Body} (hfill : ∀ a b, a ++ b <+: fill a b)
    (hinner : ∀ lines, inner = .ok lines → inside.Sublist (blocksOf lines))
    (h : (do
      let options ← head.optionLines
      let lines ← inner
      return DocComment.lines head.help separate ++ [blockLine keyword head (fill options lines)]) =
        .ok body) :
    (head.blockTokens keyword :: (head.ruleBlocks ++ inside)).Sublist (blocksOf body) := by
  obtain ⟨options, hoptions, hrest⟩ := bind_eq_ok.mp h
  obtain ⟨lines, hlines, hpure⟩ := bind_eq_ok.mp hrest
  obtain rfl := pure_eq_ok.mp hpure
  -- what stands behind the options and the inner lines can only add blocks
  obtain ⟨extra, hextra⟩ := hfill options lines
  have hinside : (head.ruleBlocks ++ inside).Sublist (blocksOf (fill options lines)) := by
    rw [← hextra, blocksOf_append, blocksOf_append]
    exact ((Heading.sublist_optionLines hoptions).append (hinner lines hlines)).trans
      (List.sublist_append_left _ _)
  rw [blocksOf_append, blocksOf_singleton]
  exact (hinside.cons_cons _).trans (List.sublist_append_right _ _)

mutual

/-- **The blocks of a declaration that are always expanded are blocks of its lines**, in the same
order. -/
theorem sublist_lines : ∀ {d : Declaration} {separate : Bool} {body : Body},
    d.lines separate = .ok body → d.expandedBlocks.Sublist (blocksOf body)
  | .message _ _ _, _, _, h | .enum _ _ _, _, _, h => by
    rw [lines] at h
    -- behind the declarations in the block stands what it reserves
    exact sublist_blockLine (fun _ _ => List.prefix_append _ _) (fun _ => sublist_childLines) h
  | .extension _ _, _, _, h | .oneof _ _, _, _, h | .service _ _, _, _, h => by
    rw [lines] at h
    exact sublist_blockLine (fun _ _ => List.prefix_rfl) (fun _ => sublist_childLines) h
  | .field _ _ _ _, _, _, _ | .enumConstant _ _, _, _, _ => List.nil_sublist _
  | .method head types, separate, _, h => by
    rw [lines] at h
    obtain ⟨line, hline, hpure⟩ := bind_eq_ok.mp h
    obtain rfl := pure_eq_ok.mp hpure
    rw [blocksOf_append, blocksOf_singleton]
    exact (Heading.sublist_methodLine hline).trans (List.sublist_append_right _ _)

/-- **The lines of declarations contain their blocks**, in order, at every depth. -/
theorem sublist_childLines : ∀ {ds : List Declaration} {first : Bool} {body : Body},
    childLines first ds = .ok body → (expandedBlocksAll ds).Sublist (blocksOf body)
  | [], _, _, _ => List.nil_sublist _
  | d :: rest, first, _, h => by
    rw [childLines] at h
    obtain ⟨own, hown, hrest⟩ := bind_eq_ok.mp h
    obtain ⟨others, hothers, hpure⟩ := bind_eq_ok.mp hrest
    obtain rfl := pure_eq_ok.mp hpure
    rw [blocksOf_append]
    exact (sublist_lines hown).append (sublist_childLines hothers)

end

/-- So do those of the declarations at the top of a file. -/
theorem sublist_topLines {ds : List Declaration} {first : Bool} {body : Body}
    (h : topLines first ds = .ok body) : (expandedBlocksAll ds).Sublist (blocksOf body) := by
  induction ds generalizing first body with
  | nil => exact List.nil_sublist _
  | cons d rest ih =>
    rw [topLines] at h
    obtain ⟨own, hown, hrest⟩ := bind_eq_ok.mp h
    obtain ⟨others, hothers, hpure⟩ := bind_eq_ok.mp hrest
    obtain rfl := pure_eq_ok.mp hpure
    rw [blocksOf_append, blocksOf_append]
    exact ((sublist_lines hown).trans (List.sublist_append_right _ _)).append (ih hothers)

end Declaration

/-! ## Files -/

namespace ProtoFile

/-- **The blocks of a file that are always expanded**, at any depth and in document order. -/
def expandedBlocks (f : ProtoFile) : List (String × String) :=
  f.options.flatMap OptionAssignment.ruleBlocks ++ Declaration.expandedBlocksAll f.declarations

theorem alwaysExpands_of_mem {f : ProtoFile} {b : String × String} (h : b ∈ f.expandedBlocks) :
    alwaysExpands b.1 = true := by
  rcases List.mem_append.mp h with hoption | hdeclaration
  · exact OptionAssignment.alwaysExpands_of_mem_flatMap hoption
  · exact Declaration.alwaysExpands_of_mem_all f.declarations b hdeclaration

/-- **The lines of a file contain all its blocks** that have to be expanded, in order. -/
theorem sublist_lines {f : ProtoFile} {body : Body} (h : f.lines = .ok body) :
    f.expandedBlocks.Sublist (blocksOf body) := by
  rw [lines] at h
  obtain ⟨options, hoptions, hrest⟩ := bind_eq_ok.mp h
  obtain ⟨declarations, hdeclarations, hpure⟩ := bind_eq_ok.mp hrest
  obtain rfl := pure_eq_ok.mp hpure
  -- the header, the imports and the last line only stand between the two
  have hopt := Heading.sublist_optionLines hoptions
  have hdecl := Declaration.sublist_topLines hdeclarations
  simp only [blocksOf_append]
  refine (List.Sublist.append ?_ hdecl).trans (List.sublist_append_left _ _)
  exact (hopt.trans (List.sublist_append_right _ _)).trans (List.sublist_append_left _ _)

/-- **Blocks that are always expanded are never drawn onto a line.** If a file is rendered, all its
blocks of declarations and of HTTP rules are in its text, in document order. Wherever one of them
is written, it is expanded, and so is every block around it. -/
theorem isExpanded_of_render {f : ProtoFile} {text : String} (h : f.render = .ok text) :
    ∃ body, f.lines = .ok body ∧ text = Layout.render body ∧
      f.expandedBlocks.Sublist (blocksOf body) ∧
      ∀ opening closing, (opening, closing) ∈ f.expandedBlocks →
        (∃ lines s, Layout.WritesIn body (.block opening lines closing) s) ∧
        ∀ lines s, Layout.WritesIn body (.block opening lines closing) s →
          s.IsExpanded text opening closing ∧
          ∀ outerOpening outerLines outerClosing r,
            Layout.WritesIn body (.block outerOpening outerLines outerClosing) r →
            Layout.Writes (.block outerOpening outerLines outerClosing) r
              (.block opening lines closing) s →
            r.IsExpanded text outerOpening outerClosing := by
  rw [render] at h
  obtain ⟨body, hbody, rfl⟩ := map_eq_ok.mp h
  have hsublist := sublist_lines hbody
  refine ⟨body, hbody, rfl, hsublist, ?_⟩
  intro opening closing hmem
  have hopening := alwaysExpands_of_mem hmem
  have hwritten := Layout.exists_writesIn (hsublist.subset hmem)
  refine ⟨hwritten, ?_⟩
  intro lines s hs
  -- the block itself is the nearest of the blocks around what always expands
  refine ⟨Layout.WritesIn.isExpanded_around hopening hs .self, ?_⟩
  intro outerOpening outerLines outerClosing r hr hinner
  exact Layout.WritesIn.isExpanded_around hopening hr hinner

/-- A file with a service whose method has a short HTTP rule. -/
def ruledFile : ProtoFile := {
  name := "a.proto"
  declarations := [
    .service { name := "S" } [
      .method {
        name := "M"
        options := [
          { name := "google.api.http", value := .mapping [("get", .string "/a")] }] }
        { input := "A", output := "B" }]] }

/-- The rule would fit on the line of its method, but both are expanded. -/
theorem isExpanded_of_render_ruledFile :
    ruledFile.expandedBlocks = [("service S \x7b", "\x7d"),
      ("option (google.api.http) = \x7b", "\x7d;")] ∧
    ∃ text body lines s, ruledFile.render = .ok text ∧ ruledFile.lines = .ok body ∧
      Layout.WritesIn body (.block "option (google.api.http) = \x7b" lines "\x7d;") s ∧
      s.IsExpanded text "option (google.api.http) = \x7b" "\x7d;" := by
  have hrender : ruledFile.render = .ok _ := rfl
  obtain ⟨body, hbody, -, -, hexpanded⟩ := isExpanded_of_render hrender
  have hmem : ("option (google.api.http) = \x7b", "\x7d;") ∈ ruledFile.expandedBlocks :=
    List.mem_cons_of_mem _ List.mem_cons_self
  obtain ⟨⟨lines, s, hs⟩, hall⟩ := hexpanded _ _ hmem
  exact ⟨rfl, _, body, lines, s, hrender, hbody, hs, (hall lines s hs).1⟩

end ProtoFile

end ProtoSchema
