/-
Writing generated files.

Files are written one after the other, each below the output directory after the directories
above it. What a tree holds afterwards is said by `Written`: the file that was last written to a
place stands there, and elsewhere nothing but directories is new.
-/
import ProtoSchema.Bundle.Write
import ProtoSchema.Proofs.FileTask
import ProtoSchema.Proofs.FileTree

set_option autoImplicit false

namespace ProtoSchema

namespace GeneratedFile

open FileTree (Keeps SameOrMade)

/-- The path of a generated file below a directory. -/
def pathIn (directory : String) (f : GeneratedFile) : String := Path.join directory f.name

/-- **Exactly these files are written.** -/
structure Written (directory : String) (files : List GeneratedFile) (t t' : FileTree) : Prop where
  /-- Paths lead where they led before. -/
  keeps : t.Keeps t'
  /-- A file can be read at its path, unless a later one stands at the same place. -/
  holds : ∀ earlier f later, files = earlier ++ f :: later →
    (∀ g ∈ later, t'.resolve (g.pathIn directory) ≠ t'.resolve (f.pathIn directory)) →
    t'.readBytes (f.pathIn directory) = .ok (Utf8.bytes f.contents)
  /-- No other file is written or changed. -/
  elsewhere : ∀ place, (∀ f ∈ files, t'.resolve (f.pathIn directory) ≠ .ok place) →
    SameOrMade t t' place

/-- **The step of writing**: a file stands at the place of its path, and elsewhere nothing but
directories is new. -/
theorem runOn_write_eq_ok {directory path : String} {f : GeneratedFile} {t t' : FileTree}
    (h : (write directory f).runOn t = (.ok path, t')) :
    path = f.pathIn directory ∧ t.Keeps t' ∧
    ∃ place executable, t'.resolve (f.pathIn directory) = .ok place ∧
      t'.node? place = some (.file (Utf8.bytes f.contents) executable) ∧
      ∀ other, other ≠ place → SameOrMade t t' other := by
  obtain ⟨⟨⟩, t₁, hparent, h⟩ := FileTask.runOn_bind_eq_ok.mp h
  obtain ⟨⟨⟩, t₂, hwrite, h⟩ := FileTask.runOn_bind_eq_ok.mp h
  rw [FileTask.runOn_pure] at h
  cases h
  have hmade := FileTree.onlyMakes_makeParent (FileTask.runOn_change_eq_ok.mp hparent)
  obtain ⟨place, executable, hplace, hhere, hnode, hfile, hothers⟩ :=
    FileTree.writeBytes_eq_ok (FileTask.runOn_change_eq_ok.mp hwrite)
  -- the file stands where no directory was, so no directory is lost
  have hkeeps : t₁.Keeps t' := by
    refine ⟨hhere, fun other hother => ?_⟩
    rw [hothers other, hother]
    rintro rfl
    exact hnode hother
  refine ⟨rfl, hmade.keeps.trans hkeeps, place, executable, hkeeps.resolve hplace, hfile, ?_⟩
  intro other hother
  exact (hmade.sameOrMade other).trans (.inl (hothers other hother))

/-- Writing no files changes nothing. -/
theorem Written.nil (directory : String) (t : FileTree) : Written directory [] t t where
  keeps := .refl t
  holds earlier f later h := by simp at h
  elsewhere place _ := .refl t place

/-- A file and then the others. -/
theorem Written.cons {directory path : String} {f : GeneratedFile} {files : List GeneratedFile}
    {t t₁ t' : FileTree} (h : (write directory f).runOn t = (.ok path, t₁))
    (hfiles : Written directory files t₁ t') : Written directory (f :: files) t t' := by
  obtain ⟨-, hkeeps, place, executable, hplace, hnode, hothers⟩ := runOn_write_eq_ok h
  have hplace' : t'.resolve (f.pathIn directory) = .ok place := hfiles.keeps.resolve hplace
  refine ⟨hkeeps.trans hfiles.keeps, ?_, ?_⟩
  · intro earlier g later hsplit hlater
    cases earlier with
    | nil =>
      -- the file itself, which no later one replaces
      obtain ⟨rfl, rfl⟩ := List.cons.inj hsplit
      rw [hplace'] at hlater
      exact FileTree.readBytes_eq_ok hplace' ((hfiles.elsewhere place hlater).of_some hnode)
    | cons f' earlier =>
      obtain ⟨-, hrest⟩ := List.cons.inj hsplit
      exact hfiles.holds earlier g later hrest hlater
  · intro other hother
    have hne : other ≠ place := by
      rintro rfl
      exact hother f List.mem_cons_self hplace'
    exact (hothers other hne).trans
      (hfiles.elsewhere other fun g hg => hother g (List.mem_cons_of_mem f hg))

/-- **What writing all files does**, if none of them fails. -/
theorem written_of_writeAll {directory : String} {files : List GeneratedFile}
    {paths : List String} {t t' : FileTree}
    (h : (writeAll directory files).runOn t = (.ok paths, t')) :
    paths = files.map (pathIn directory) ∧ Written directory files t t' := by
  induction files generalizing t paths with
  | nil =>
    rw [writeAll, List.mapM_nil, FileTask.runOn_pure] at h
    cases h
    exact ⟨rfl, .nil directory _⟩
  | cons f files ih =>
    rw [writeAll, List.mapM_cons] at h
    obtain ⟨path, t₁, hwrite, h⟩ := FileTask.runOn_bind_eq_ok.mp h
    obtain ⟨rest, t₂, hrest, h⟩ := FileTask.runOn_bind_eq_ok.mp h
    rw [FileTask.runOn_pure] at h
    cases h
    obtain ⟨rfl, hwritten⟩ := ih hrest
    obtain ⟨rfl, -⟩ := runOn_write_eq_ok hwrite
    exact ⟨rfl, hwritten.cons hwrite⟩

end GeneratedFile

end ProtoSchema
