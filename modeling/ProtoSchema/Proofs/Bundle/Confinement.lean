/-
Where generated files go.

A tree that resolves a path resolves it to the place that the text of the path leads to. So the
place of a generated file is known before anything is written, and a run of the writing changes
files at these places only, whether it succeeds or fails (`writeAll_confinement`).

Names of generated files are not checked. Those that stay below whatever they are joined to are
written below the output directory; a name that leads above it, or an absolute one, may change a
file anywhere (`writeAll_climbs_to_ownFile`).
-/
import ProtoSchema.Proofs.Bundle.Writing
import ProtoSchema.Proofs.Path

set_option autoImplicit false

namespace ProtoSchema

/-! ## Paths that are resolved -/

namespace FileTree

variable {t : FileTree}

/-- **A step of a walk** starts in a directory. -/
theorem walk_cons_eq_ok {start place : Place} {segment : String} {rest : List String}
    (h : t.walk start (segment :: rest) = .ok place) :
    t.node? start = some .directory ∧ t.walk (start.next segment) rest = .ok place := by
  rw [walk] at h
  cases hnode : t.node? start with
  | none =>
    rw [hnode] at h
    cases h
  | some n =>
    rw [hnode] at h
    cases n with
    | file contents executable => cases h
    | directory =>
      refine ⟨rfl, ?_⟩
      rw [Place.next]
      dsimp only at h
      simp only [beq_iff_eq] at h
      split_ifs at h ⊢ with hidle hup hname
      · exact h
      · exact h
      · exact h

/-- **A walk ends where its segments lead.** -/
theorem walk_eq_ok {start place : Place} {segments : List String}
    (h : t.walk start segments = .ok place) : place = start.follow segments := by
  induction segments generalizing start with
  | nil =>
    cases h
    rfl
  | cons segment rest ih => exact ih (walk_cons_eq_ok h).2

/-- A walk that goes on has come to a directory. -/
theorem node?_follow_of_walk {start place : Place} {above rest : List String} (hrest : rest ≠ [])
    (h : t.walk start (above ++ rest) = .ok place) :
    t.node? (start.follow above) = some .directory := by
  induction above generalizing start with
  | nil =>
    obtain ⟨segment, more, rfl⟩ := List.exists_cons_of_ne_nil hrest
    exact (walk_cons_eq_ok h).1
  | cons segment above ih => exact ih (walk_cons_eq_ok h).2

/-- A path that leads somewhere is followed segment by segment, from the root or from the working
directory. -/
theorem walk_of_resolve {path : String} {place : Place} (h : t.resolve path = .ok place) :
    t.walk (if Path.isAbsolute path then [] else t.here) (Path.segments path) = .ok place := by
  unfold resolve at h
  split_ifs at h ⊢ with hempty hvalid habsolute
  · exact h
  · exact h

/-- **A path is resolved to the place that its text leads to.** -/
theorem resolve_eq_ok {path : String} {place : Place} (h : t.resolve path = .ok place) :
    place = t.here.ofPath path :=
  walk_eq_ok (walk_of_resolve h)

/-- Below a directory nothing is found unless it is one. -/
theorem node?_directory_of_resolve {directory name : String} {place : Place}
    (hname : Path.isAbsolute name = false)
    (h : t.resolve (Path.join directory name) = .ok place) :
    t.node? (t.here.ofPath directory) = some .directory := by
  obtain ⟨above, hsegments, hfollow⟩ := Place.exists_segments_join t.here directory hname
  have hwalk := walk_of_resolve h
  rw [hsegments] at hwalk
  rw [← hfollow]
  exact node?_follow_of_walk (Path.segments_ne_nil name) hwalk

end FileTree

/-! ## Places that are written -/

namespace GeneratedFile

open FileTree (OnlyMakes SameOrMade)

/-- **The place of a generated file** below a directory, by the text of its path. -/
def placeIn (here : Place) (directory : String) (f : GeneratedFile) : Place :=
  here.ofPath (f.pathIn directory)

/-- Whether a place may be written for a file: it is the file's, and not that of the directory if
the file is to go below it. -/
def MayWrite (here : Place) (directory : String) (f : GeneratedFile) (place : Place) : Prop :=
  place = f.placeIn here directory ∧
    (Path.isAbsolute f.name = false → place ≠ here.ofPath directory)

/-- A path below the directory that is resolved after the writing is resolved to this place. -/
theorem eq_placeIn_of_resolve {directory : String} {f : GeneratedFile} {t t' : FileTree}
    {place : Place} (hkeeps : t.Keeps t') (h : t'.resolve (f.pathIn directory) = .ok place) :
    place = f.placeIn t.here directory := by
  rw [placeIn, ← hkeeps.here]
  exact FileTree.resolve_eq_ok h

/-- **A failed step of writing** makes no more than directories. -/
theorem runOn_write_eq_error {directory : String} {f : GeneratedFile} {e : Failure}
    {t t' : FileTree} (h : (write directory f).runOn t = (.error e, t')) : t.OnlyMakes t' := by
  obtain hparent | ⟨⟨⟩, t₁, hparent, h⟩ := FileTask.runOn_bind_eq_error.mp h
  · rw [FileTask.runOn_change] at hparent
    split at hparent
    · cases hparent
    · cases hparent
      exact .refl t
  · have hmade := FileTree.onlyMakes_makeParent (FileTask.runOn_change_eq_ok.mp hparent)
    obtain hwrite | ⟨⟨⟩, t₂, hwrite, h⟩ := FileTask.runOn_bind_eq_error.mp h
    · rw [FileTask.runOn_change] at hwrite
      split at hwrite
      · cases hwrite
      · cases hwrite
        exact hmade
    · -- the path that is given back cannot fail
      cases h

/-- **The step of writing**, whatever its outcome: elsewhere nothing but directories is new. -/
theorem sameOrMade_write {directory : String} {f : GeneratedFile} {t : FileTree} {place : Place}
    (h : ¬ f.MayWrite t.here directory place) :
    SameOrMade t ((write directory f).runOn t).2 place := by
  rcases hrun : (write directory f).runOn t with ⟨outcome, t'⟩
  cases outcome with
  | error e => exact (runOn_write_eq_error hrun).sameOrMade place
  | ok path =>
    obtain ⟨-, hkeeps, written, executable, hresolve, hfile, hothers⟩ := runOn_write_eq_ok hrun
    refine hothers place ?_
    rintro rfl
    refine h ⟨eq_placeIn_of_resolve hkeeps hresolve, fun hname hout => ?_⟩
    -- the path leads through the directory, where a file cannot stand
    have hdirectory := FileTree.node?_directory_of_resolve hname hresolve
    rw [hkeeps.here, ← hout, hfile] at hdirectory
    cases hdirectory

/-- Writing a file leaves the working directory. -/
theorem here_write (directory : String) (f : GeneratedFile) (t : FileTree) :
    ((write directory f).runOn t).2.here = t.here := by
  rcases hrun : (write directory f).runOn t with ⟨outcome, t'⟩
  cases outcome with
  | error e => exact (runOn_write_eq_error hrun).here
  | ok path => exact (runOn_write_eq_ok hrun).2.1.here

/-- The tree that writing leaves behind: that of the later files, unless the first one fails. -/
theorem runOn_writeAll_cons (directory : String) (f : GeneratedFile) (files : List GeneratedFile)
    (t : FileTree) :
    ((writeAll directory (f :: files)).runOn t).2 = match (write directory f).runOn t with
      | (.ok _, t₁) => ((writeAll directory files).runOn t₁).2
      | (.error _, t₁) => t₁ := by
  rw [writeAll, List.mapM_cons, FileTask.runOn_bind]
  rcases (write directory f).runOn t with ⟨_ | path, t₁⟩
  · rfl
  · dsimp only
    rw [FileTask.runOn_bind, writeAll]
    rcases (files.mapM (write directory)).runOn t₁ with ⟨_ | rest, t₂⟩
    · rfl
    · rfl

/-- **A run of the writing**, whatever its outcome: nothing but directories is new except where a
file may be written. The induction is on the files; the working directory stays, so that the
places of the later ones are known from the start. -/
theorem sameOrMade_writeAll {directory : String} {files : List GeneratedFile} {t : FileTree}
    {place : Place} (h : ∀ f ∈ files, ¬ f.MayWrite t.here directory place) :
    SameOrMade t ((writeAll directory files).runOn t).2 place := by
  induction files generalizing t with
  | nil => exact .refl t place
  | cons f files ih =>
    have hfirst := sameOrMade_write (h f List.mem_cons_self)
    have hhere := here_write directory f t
    rw [runOn_writeAll_cons]
    rcases hrun : (write directory f).runOn t with ⟨_ | path, t₁⟩
    · -- a file that cannot be written ends the writing
      rw [hrun] at hfirst
      exact hfirst
    · rw [hrun] at hfirst hhere
      refine hfirst.trans (ih fun g hg => ?_)
      -- the later files are written from the same working directory
      rw [hhere]
      exact h g (List.mem_cons_of_mem f hg)

/-- **Writing files writes the first**, and then the others on what it left. -/
theorem runOn_writeAll_cons_eq_ok {directory : String} {f : GeneratedFile}
    {files : List GeneratedFile} {paths : List String} {t t' : FileTree}
    (h : (writeAll directory (f :: files)).runOn t = (.ok paths, t')) :
    ∃ path rest t₁, (write directory f).runOn t = (.ok path, t₁) ∧
      (writeAll directory files).runOn t₁ = (.ok rest, t') := by
  rw [writeAll, List.mapM_cons] at h
  obtain ⟨path, t₁, hwrite, h⟩ := FileTask.runOn_bind_eq_ok.mp h
  obtain ⟨rest, t₂, hrest, h⟩ := FileTask.runOn_bind_eq_ok.mp h
  rw [FileTask.runOn_pure] at h
  cases h
  exact ⟨path, rest, t₁, hwrite, hrest⟩

/-- **If all files are written**, each stands at its place, unless a later one has the same. -/
theorem node?_writeAll {directory : String} {earlier later : List GeneratedFile}
    {f : GeneratedFile} {paths : List String} {t t' : FileTree}
    (h : (writeAll directory (earlier ++ f :: later)).runOn t = (.ok paths, t'))
    (hlater : ∀ g ∈ later, g.placeIn t.here directory ≠ f.placeIn t.here directory) :
    ∃ executable,
      t'.node? (f.placeIn t.here directory) = some (.file (Utf8.bytes f.contents) executable) := by
  induction earlier generalizing t paths with
  | nil =>
    obtain ⟨path, rest, t₁, hwrite, hrest⟩ := runOn_writeAll_cons_eq_ok h
    obtain ⟨-, hkeeps, place, executable, hresolve, hfile, -⟩ := runOn_write_eq_ok hwrite
    rw [eq_placeIn_of_resolve hkeeps hresolve] at hfile
    -- no later file has the place, so what stands there stays
    have hsame : SameOrMade t₁ ((writeAll directory later).runOn t₁).2
        (f.placeIn t.here directory) := by
      refine sameOrMade_writeAll fun g hg hmay => hlater g hg ?_
      rw [hmay.1, hkeeps.here]
    rw [hrest] at hsame
    exact ⟨executable, hsame.of_some hfile⟩
  | cons g earlier ih =>
    obtain ⟨path, rest, t₁, hwrite, hrest⟩ := runOn_writeAll_cons_eq_ok h
    have hhere : t₁.here = t.here := (runOn_write_eq_ok hwrite).2.1.here
    rw [← hhere] at hlater ⊢
    exact ih hrest hlater

/-! ## Confinement -/

/-- A place below a directory's, and not the directory itself. -/
def Inside (out place : Place) : Prop := out <+: place ∧ place ≠ out

instance (out place : Place) : Decidable (Inside out place) := inferInstanceAs (Decidable (_ ∧ _))

/-- A file whose name stays is written inside the directory only. -/
theorem inside_of_mayWrite {here place : Place} {directory : String} {f : GeneratedFile}
    (hstays : Place.Stays f.name) (h : f.MayWrite here directory place) :
    Inside (here.ofPath directory) place := by
  obtain ⟨rfl, hne⟩ := h
  exact ⟨(Place.stays_iff f.name).mp hstays here directory, hne hstays.1⟩

/-- **Where generated files go.** Whether the writing succeeds or fails, nothing but directories is
new except at the places that the paths of the files lead to. If it succeeds, the last file of each
such place stands there. The places are below the output directory, whichever that is, exactly if
all names are relative and never lead above their beginning. In that case no file outside the
output directory is changed, and none is new there. -/
theorem writeAll_confinement (directory : String) (files : List GeneratedFile) (t : FileTree) :
    let ending := (writeAll directory files).runOn t
    (∀ place, (∀ f ∈ files, place ≠ f.placeIn t.here directory) →
      SameOrMade t ending.2 place) ∧
    (∀ paths, ending.1 = .ok paths → ∀ earlier f later, files = earlier ++ f :: later →
      (∀ g ∈ later, g.placeIn t.here directory ≠ f.placeIn t.here directory) →
      ∃ executable, ending.2.node? (f.placeIn t.here directory) =
        some (.file (Utf8.bytes f.contents) executable)) ∧
    ((∀ f ∈ files, Place.Stays f.name) ↔
      ∀ f ∈ files, ∀ (here : Place) (out : String), here.ofPath out <+: f.placeIn here out) ∧
    ((∀ f ∈ files, Place.Stays f.name) →
      ∀ place, ¬ Inside (t.here.ofPath directory) place → SameOrMade t ending.2 place) := by
  intro ending
  refine ⟨fun place hplace => ?_, fun paths hok earlier f later hsplit hlater => ?_, ?_,
    fun hstays place hout => ?_⟩
  · exact sameOrMade_writeAll fun f hf hmay => hplace f hf hmay.1
  · subst hsplit
    exact node?_writeAll (Prod.ext hok rfl) hlater
  · exact forall₂_congr fun f _ => Place.stays_iff f.name
  · -- a file that stays is written inside, and so are the directories above it
    exact sameOrMade_writeAll fun f hf hmay => hout (inside_of_mayWrite (hstays f hf) hmay)

/-- A working directory with a file of the user's own. -/
def ownFile : FileTree where
  nodes := [(["work"], .directory), (["work", "own.proto"], .file (Utf8.bytes "mine") false)]
  here := ["work"]

/-- Names that go up only as far as they went down stay inside, and one of them takes the name of
the user's file without harm to that. -/
theorem writeAll_confinement_ownFile :
    let files : List GeneratedFile := [⟨"v1/../b.proto", "b"⟩, ⟨"./own.proto", "theirs"⟩]
    let ending := (writeAll "gen" files).runOn ownFile
    ending.1 = .ok ["gen/v1/../b.proto", "gen/./own.proto"] ∧
      (∃ executable, ending.2.node? ["work", "gen", "own.proto"] =
        some (.file (Utf8.bytes "theirs") executable)) ∧
      (∀ f ∈ files, Place.Stays f.name) ∧
      ∀ place, ¬ Inside ["work", "gen"] place → SameOrMade ownFile ending.2 place := by
  intro files ending
  have hok : ending.1 = .ok ["gen/v1/../b.proto", "gen/./own.proto"] := by decide +kernel
  have hstays : ∀ f ∈ files, Place.Stays f.name := by decide +kernel
  have hout : ownFile.here.ofPath "gen" = ["work", "gen"] := by decide +kernel
  have hplace : placeIn ["work"] "gen" ⟨"./own.proto", "theirs"⟩ =
      ["work", "gen", "own.proto"] := by decide +kernel
  obtain ⟨-, hholds, -, hinside⟩ := writeAll_confinement "gen" files ownFile
  refine ⟨hok, ?_, hstays, ?_⟩
  · have hlast := hholds _ hok [⟨"v1/../b.proto", "b"⟩] ⟨"./own.proto", "theirs"⟩ [] rfl nofun
    rw [← hplace]
    exact hlast
  · rw [← hout]
    exact hinside hstays

/-- **A name that leads above the output directory overwrites what it comes to**: here the user's
own file, which is outside. -/
theorem writeAll_climbs_to_ownFile :
    let ending := (writeAll "gen" [⟨"../own.proto", "theirs"⟩]).runOn ownFile
    ending.1 = .ok ["gen/../own.proto"] ∧
      ¬ Inside (ownFile.here.ofPath "gen") ["work", "own.proto"] ∧
      ownFile.node? ["work", "own.proto"] = some (.file (Utf8.bytes "mine") false) ∧
      ending.2.node? ["work", "own.proto"] = some (.file (Utf8.bytes "theirs") false) := by
  decide +kernel

end GeneratedFile

end ProtoSchema
