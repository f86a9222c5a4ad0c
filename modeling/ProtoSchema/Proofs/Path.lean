/-
Places of paths.

A path can be followed without a file system: an idle segment stays where it is, two dots lead one
level up, and any other segment leads one level down (`Place.follow`). Where a tree resolves a path
at all, it is to this place.

A relative name that is joined to a directory is followed from the directory's place, and an
absolute one from the root (`ofPath_join`). A name stays below every directory that it is joined to
exactly if it is relative and its dots never lead above where it starts (`stays_iff`).
-/
import Mathlib.Algebra.Order.BigOperators.Group.List
import Mathlib.Algebra.Order.Group.Nat
import Mathlib.Data.List.Infix
import ProtoSchema.FileTree

set_option autoImplicit false

namespace ProtoSchema

/-! ## Segments of joined paths -/

namespace Path

/-- **A slash divides the segments** before it from those after it. -/
theorem segments_append_slash (before after : List Char) :
    segments (String.ofList (before ++ '/' :: after)) =
      segments (String.ofList before) ++ segments (String.ofList after) := by
  simp only [segments, String.toList_ofList, splitChars_append, List.map_append]

/-- **What a relative name is joined to**: to nothing, or to a directory with one slash between. -/
theorem join_cases (directory : String) {name : String} (h : isAbsolute name = false) :
    (directory = "" ∧ join directory name = name) ∨
      ∃ before : List Char, join directory name = String.ofList (before ++ '/' :: name.toList) ∧
        (directory = String.ofList (before ++ ['/']) ∨
          (before ≠ [] ∧ directory = String.ofList before)) := by
  have hdirectory : String.ofList directory.toList = directory := String.ofList_toList
  have hname : String.ofList name.toList = name := String.ofList_toList
  rw [join, if_neg (by rw [h]; exact Bool.false_ne_true)]
  rcases List.eq_nil_or_concat' directory.toList with hnil | ⟨before, last, hconcat⟩
  · rw [hnil] at hdirectory
    subst hdirectory
    exact .inl ⟨rfl, String.empty_append⟩
  · right
    rw [hconcat, List.getLast?_concat]
    rw [hconcat] at hdirectory
    by_cases hlast : last = '/'
    · subst hlast
      -- the directory ends in a slash, so none is put between
      refine ⟨before, ?_, .inl hdirectory.symm⟩
      change directory ++ name = _
      rw [← hdirectory, ← hname, ← String.ofList_append]
      simp
    · refine ⟨before ++ [last], ?_, .inr ⟨List.concat_ne_nil last before, hdirectory.symm⟩⟩
      split
      next heq => cases heq
      next heq => exact absurd (Option.some.inj heq) hlast
      next =>
        have hslash : "/" = String.ofList ['/'] := rfl
        rw [← hdirectory, ← hname, hslash, ← String.ofList_append, ← String.ofList_append]
        simp

/-- What stands after a slash does not matter to whether a path is absolute. -/
theorem isAbsolute_append_slash (before after : List Char) :
    isAbsolute (String.ofList (before ++ '/' :: after)) =
      isAbsolute (String.ofList (before ++ ['/'])) := by
  simp only [isAbsolute, String.toList_ofList]
  cases before <;> rfl

/-- The first character decides whether a path is absolute. -/
theorem isAbsolute_append {before : List Char} (h : before ≠ []) (after : List Char) :
    isAbsolute (String.ofList (before ++ after)) = isAbsolute (String.ofList before) := by
  simp only [isAbsolute, String.toList_ofList]
  cases before with
  | nil => contradiction
  | cons c rest => rfl

/-- Every path has a segment, if only an empty one. -/
theorem segments_ne_nil (path : String) : segments path ≠ [] := by
  rw [segments, Ne, List.map_eq_nil_iff]
  exact splitChars_ne_nil '/' path.toList

end Path

/-! ## Following segments -/

namespace Place

/-- The place that a segment leads to. -/
def next (place : Place) (segment : String) : Place :=
  if Path.isIdle segment then place
  else if segment = ".." then place.dropLast
  else place ++ [segment]

/-- **The place that segments lead to**, whatever stands on the way. -/
def follow (place : Place) (segments : List String) : Place := segments.foldl next place

/-- The place that a path leads to, from a place if it is relative. -/
def ofPath (place : Place) (path : String) : Place :=
  follow (if Path.isAbsolute path then [] else place) (Path.segments path)

theorem follow_cons (place : Place) (segment : String) (rest : List String) :
    place.follow (segment :: rest) = (place.next segment).follow rest := rfl

/-- Segments are followed one after another. -/
theorem follow_append (place : Place) (segments more : List String) :
    place.follow (segments ++ more) = (place.follow segments).follow more :=
  List.foldl_append

/-- **A joined path first leads to the directory**, if the name is relative. -/
theorem exists_segments_join (place : Place) (directory : String) {name : String}
    (h : Path.isAbsolute name = false) :
    ∃ above, Path.segments (Path.join directory name) = above ++ Path.segments name ∧
      follow (if Path.isAbsolute (Path.join directory name) then [] else place) above =
        place.ofPath directory := by
  obtain ⟨rfl, hjoin⟩ | ⟨before, hjoin, hdirectory⟩ := Path.join_cases directory h
  · refine ⟨[], ?_, ?_⟩
    · rw [hjoin, List.nil_append]
    · -- the empty directory is the place itself
      rw [hjoin, h]
      rfl
  · refine ⟨Path.segments (String.ofList before), ?_, ?_⟩
    · rw [hjoin, Path.segments_append_slash, String.ofList_toList]
    · rw [hjoin]
      obtain rfl | ⟨hbefore, rfl⟩ := hdirectory
      · rw [Path.isAbsolute_append_slash before name.toList, ofPath, Path.segments_append_slash,
          follow_append]
        -- nothing stands after the last slash, and an idle segment stays where it is
        rfl
      · rw [Path.isAbsolute_append hbefore, ofPath]

/-- **A relative name leads on from the directory** that it is joined to. -/
theorem ofPath_join (place : Place) (directory : String) {name : String}
    (h : Path.isAbsolute name = false) :
    place.ofPath (Path.join directory name) =
      (place.ofPath directory).follow (Path.segments name) := by
  obtain ⟨above, hsegments, hfollow⟩ := exists_segments_join place directory h
  rw [ofPath, hsegments, follow_append, hfollow]

/-! ## Names that stay -/

/-- Whether segments that start some levels deep never lead above where they were counted from. -/
def descends : Nat → List String → Bool
  | _, [] => true
  | depth, segment :: rest =>
    if Path.isIdle segment then descends depth rest
    else if segment = ".." then decide (0 < depth) && descends (depth - 1) rest
    else descends (depth + 1) rest

/-- **A name that stays below whatever it is joined to**: it is relative, and its dots never lead
above its beginning. -/
def Stays (name : String) : Prop :=
  Path.isAbsolute name = false ∧ descends 0 (Path.segments name) = true

instance (name : String) : Decidable (Stays name) := inferInstanceAs (Decidable (_ ∧ _))

/-- The induction is on the segments; `below` is where the ones before have led to. -/
theorem isPrefix_follow_of_descends (out below : Place) {segments : List String}
    (h : descends below.length segments = true) : out <+: follow (out ++ below) segments := by
  induction segments generalizing below with
  | nil => exact List.prefix_append out below
  | cons segment rest ih =>
    rw [descends] at h
    rw [follow_cons, next]
    split_ifs at h ⊢ with hidle hup
    · exact ih below h
    · -- going up stays below `out`, since there is something to leave
      obtain ⟨hpos, hrest⟩ := Bool.and_eq_true_iff.mp h
      have hne : below ≠ [] := List.ne_nil_of_length_pos (of_decide_eq_true hpos)
      rw [List.dropLast_append_of_ne_nil hne]
      rw [← List.length_dropLast] at hrest
      exact ih below.dropLast hrest
    · rw [List.append_assoc]
      refine ih (below ++ [segment]) ?_
      rw [List.length_append, List.length_singleton]
      exact h

/-- Following segments leads below no other names than those of the place and of the segments. -/
theorem not_mem_follow {name : String} {place : Place} {segments : List String}
    (hplace : name ∉ place) (hsegments : name ∉ segments) : name ∉ place.follow segments := by
  induction segments generalizing place with
  | nil => exact hplace
  | cons segment rest ih =>
    obtain ⟨hne, hrest⟩ := not_or.mp (mt List.mem_cons.mpr hsegments)
    rw [follow_cons, next]
    split_ifs with hidle hup
    · exact ih hplace hrest
    · exact ih (fun hmem => hplace (List.mem_of_mem_dropLast hmem)) hrest
    · refine ih (fun hmem => ?_) hrest
      rcases List.mem_append.mp hmem with hmem | hmem
      · exact hplace hmem
      · exact hne (List.mem_singleton.mp hmem)

/-- Segments that lead above a directory never come back to it, if they do not name it. -/
theorem not_mem_follow_of_not_descends {name : String} {below : Place} {segments : List String}
    (hbelow : name ∉ below) (hsegments : name ∉ segments)
    (h : descends below.length segments = false) : name ∉ follow (name :: below) segments := by
  induction segments generalizing below with
  | nil => cases h
  | cons segment rest ih =>
    obtain ⟨hne, hrest⟩ := not_or.mp (mt List.mem_cons.mpr hsegments)
    rw [descends] at h
    rw [follow_cons, next]
    split_ifs at h ⊢ with hidle hup
    · exact ih hbelow hrest h
    · cases below with
      -- this segment leaves the directory, and no later one names it
      | nil => exact not_mem_follow List.not_mem_nil hrest
      | cons first more =>
        rw [List.dropLast_cons_of_ne_nil (List.cons_ne_nil first more)]
        refine ih (fun hmem => hbelow (List.mem_of_mem_dropLast hmem)) hrest ?_
        rw [List.length_dropLast]
        simpa using h
    · rw [List.cons_append]
      refine ih (fun hmem => ?_) hrest ?_
      · rcases List.mem_append.mp hmem with hmem | hmem
        · exact hbelow hmem
        · exact hne (List.mem_singleton.mp hmem)
      · rw [List.length_append, List.length_singleton]
        exact h

/-- A name that is longer than all of a list together is not among them. -/
theorem exists_not_mem (names : List String) : ∃ name, name ∉ names := by
  let size := (names.map String.length).sum + 1
  refine ⟨String.ofList (List.replicate size 'x'), fun hmem => ?_⟩
  have hle := List.le_sum_of_mem (List.mem_map_of_mem (f := String.length) hmem)
  simp only [String.length_ofList, List.length_replicate] at hle
  omega

/-- **A name stays below every directory exactly if it is relative and never leads above its
beginning.** -/
theorem stays_iff (name : String) :
    Stays name ↔ ∀ (place : Place) (directory : String),
      place.ofPath directory <+: place.ofPath (Path.join directory name) := by
  constructor
  · rintro ⟨hrelative, hdescends⟩ place directory
    rw [ofPath_join place directory hrelative]
    have hprefix := isPrefix_follow_of_descends (place.ofPath directory) [] hdescends
    rw [List.append_nil] at hprefix
    exact hprefix
  · intro h
    -- a directory that is not named by the segments is lost once they lead above it
    obtain ⟨fresh, hfresh⟩ := exists_not_mem (Path.segments name)
    have hmem : fresh ∈ ofPath [fresh] (Path.join "" name) :=
      (h [fresh] "").subset List.mem_cons_self
    by_cases hrelative : Path.isAbsolute name = false
    · refine ⟨hrelative, by_contra fun hclimbs => ?_⟩
      rw [ofPath_join _ _ hrelative] at hmem
      exact not_mem_follow_of_not_descends List.not_mem_nil hfresh
        (Bool.eq_false_iff.mpr hclimbs) hmem
    · rw [Bool.not_eq_false] at hrelative
      rw [Path.join, if_pos hrelative, ofPath, if_pos hrelative] at hmem
      exact absurd hmem (not_mem_follow List.not_mem_nil hfresh)

end Place

end ProtoSchema
