/-
Reading generated files back.

The files of a bundle are compiled one by one and written one by one, and no step compares their
names. Files whose paths lead to one place are therefore written over each other: what is read at
the path of a file is the text of the last file that was written to its place
(`exists_readText_writeAll`). So all files can be read back exactly if those of one place have the
same text (`files_read_back_iff`), and two documents that declare one name lose one of their files
without a failure (`first_api_is_lost`).
-/
import ProtoSchema.Proofs.Bundle.Confinement
import ProtoSchema.Proofs.Bundle.Modes
import ProtoSchema.Proofs.Text.Utf8

set_option autoImplicit false

namespace ProtoSchema

/-- Text that was written is read back, since its bytes decode to it. -/
theorem FileTree.readText_eq_ok {t : FileTree} {path text : String} {place : Place}
    {executable : Bool} (hpath : t.resolve path = .ok place)
    (hnode : t.node? place = some (.file (Utf8.bytes text) executable)) :
    t.readText path = .ok text := by
  simp only [readText, readBytes_eq_ok hpath hnode, bind, Except.bind, Utf8.string?_bytes]

namespace GeneratedFile

variable {directory : String} {files : List GeneratedFile} {paths : List String} {t t' : FileTree}

/-- **The path of every written file leads to its place afterwards**: it did so right after the
file was written, and later files keep all directories. -/
theorem resolve_writeAll (h : (writeAll directory files).runOn t = (.ok paths, t')) :
    ∀ f ∈ files, t'.resolve (f.pathIn directory) = .ok (f.placeIn t.here directory) := by
  induction files generalizing t paths with
  | nil => exact List.forall_mem_nil _
  | cons f files ih =>
    obtain ⟨path, rest, t₁, hwrite, hrest⟩ := runOn_writeAll_cons_eq_ok h
    obtain ⟨-, hkeeps, place, executable, hresolve, -⟩ := runOn_write_eq_ok hwrite
    -- what is written later keeps all directories, so the path still leads to its place
    have hkeeps' : t₁.Keeps t' := (written_of_writeAll hrest).2.keeps
    have hlater := ih hrest
    rw [hkeeps.here] at hlater
    refine List.forall_mem_cons.mpr ⟨?_, hlater⟩
    rw [← eq_placeIn_of_resolve hkeeps hresolve]
    exact hkeeps'.resolve hresolve

/-- Among files with something in common there is a last one. -/
theorem exists_last {P : GeneratedFile → Prop} {f : GeneratedFile} (hf : f ∈ files) (hP : P f) :
    ∃ earlier g later, files = earlier ++ g :: later ∧ P g ∧ ∀ k ∈ later, ¬ P k := by
  induction files using List.reverseRecOn with
  | nil => cases hf
  | append_singleton files last ih =>
    by_cases hlast : P last
    · exact ⟨files, last, [], rfl, hlast, List.forall_mem_nil _⟩
    · -- the last file is not among them, so those before it are all there are
      have hmem : f ∈ files := by
        rcases List.mem_append.mp hf with hmem | hmem
        · exact hmem
        · exact absurd (List.mem_singleton.mp hmem ▸ hP) hlast
      obtain ⟨earlier, g, later, rfl, hg, hlater⟩ := ih hmem
      refine ⟨earlier, g, later ++ [last], by simp, hg, ?_⟩
      exact List.forall_mem_append.mpr ⟨hlater, List.forall_mem_singleton.mpr hlast⟩

/-- Files of one name have one place. -/
theorem placeIn_eq_of_name_eq {f g : GeneratedFile} (h : f.name = g.name) (here : Place)
    (directory : String) : f.placeIn here directory = g.placeIn here directory := by
  rw [placeIn, placeIn, pathIn, pathIn, h]

/-- **The last file of a place** is what is read at every path that leads there. -/
theorem readText_writeAll (earlier : List GeneratedFile) {later : List GeneratedFile}
    {f g : GeneratedFile}
    (h : (writeAll directory (earlier ++ g :: later)).runOn t = (.ok paths, t'))
    (hlater : ∀ k ∈ later, k.placeIn t.here directory ≠ g.placeIn t.here directory)
    (hf : f ∈ earlier ++ g :: later)
    (hplace : g.placeIn t.here directory = f.placeIn t.here directory) :
    t'.readText (f.pathIn directory) = .ok g.contents := by
  have hresolve := resolve_writeAll h f hf
  rw [← hplace] at hresolve
  obtain ⟨executable, hnode⟩ := node?_writeAll h hlater
  exact FileTree.readText_eq_ok hresolve hnode

/-- At the path of a file the text of some file is read, which is the last one of its place. -/
theorem exists_readText_writeAll (h : (writeAll directory files).runOn t = (.ok paths, t'))
    {f : GeneratedFile} (hf : f ∈ files) :
    ∃ earlier g later, files = earlier ++ g :: later ∧
      g.placeIn t.here directory = f.placeIn t.here directory ∧
      (∀ k ∈ later, k.placeIn t.here directory ≠ f.placeIn t.here directory) ∧
      t'.readText (f.pathIn directory) = .ok g.contents := by
  obtain ⟨earlier, g, later, rfl, hplace, hlater⟩ :=
    exists_last (P := fun g => g.placeIn t.here directory = f.placeIn t.here directory) hf rfl
  refine ⟨earlier, g, later, rfl, hplace, hlater, ?_⟩
  rw [← hplace] at hlater
  exact readText_writeAll earlier h hlater hf hplace

/-- **All files are read back** exactly if files of one place have the same text. -/
theorem readText_writeAll_iff (h : (writeAll directory files).runOn t = (.ok paths, t')) :
    (∀ f ∈ files, t'.readText (f.pathIn directory) = .ok f.contents) ↔
      ∀ f ∈ files, ∀ g ∈ files,
        f.placeIn t.here directory = g.placeIn t.here directory → f.contents = g.contents := by
  constructor
  · intro hall f hf g hg hplace
    -- both paths lead to one place, where only one text can be read
    have hread : t'.readText (f.pathIn directory) = t'.readText (g.pathIn directory) := by
      simp only [FileTree.readText, FileTree.readBytes, FileTree.lookup, resolve_writeAll h f hf,
        resolve_writeAll h g hg, hplace]
    rw [hall f hf, hall g hg] at hread
    exact Except.ok.inj hread
  · intro hsame f hf
    obtain ⟨earlier, g, later, hsplit, hplace, -, hread⟩ := exists_readText_writeAll h hf
    have hg : g ∈ files := by
      rw [hsplit]
      exact List.mem_append_right _ List.mem_cons_self
    rw [hread, hsame g hg f hf hplace]

end GeneratedFile

namespace Bundle

/-- **What is left of the files of a bundle.** If a bundle is compiled and its files are written,
reading at the path of a file gives the text of the last file in bundle order whose path leads to
the same place. So no file is lost exactly if files of one place have the same text. -/
theorem files_read_back_iff {bundle : Bundle} {keepGoing : Bool} {report : Report}
    {directory : String} {paths : List String} {t t' : FileTree}
    (hcompile : bundle.compile keepGoing = .ok report)
    (hwrite : (GeneratedFile.writeAll directory report.generated).runOn t = (.ok paths, t')) :
    report.generated = bundle.documents.filterMap generated? ∧
    (∀ f ∈ report.generated, ∃ earlier g later, report.generated = earlier ++ g :: later ∧
      g.placeIn t.here directory = f.placeIn t.here directory ∧
      (∀ k ∈ later, k.placeIn t.here directory ≠ f.placeIn t.here directory) ∧
      t'.readText (f.pathIn directory) = .ok g.contents) ∧
    ((∀ f ∈ report.generated, t'.readText (f.pathIn directory) = .ok f.contents) ↔
      ∀ f ∈ report.generated, ∀ g ∈ report.generated,
        f.placeIn t.here directory = g.placeIn t.here directory → f.contents = g.contents) :=
  ⟨generated_of_compile hcompile, fun _ => GeneratedFile.exists_readText_writeAll hwrite,
    GeneratedFile.readText_writeAll_iff hwrite⟩

/-- A bundle of two sources with a document each, of which the first declares `api.proto`. -/
def twoSources (second : String) : Bundle :=
  let document (name package : String) : Json :=
    .object [("name", .string name), ("package", .string package)]
  [("a.json", [document "api.proto" "a"]), ("b.json", [document second "b"])]

/-- The text of a file that has nothing but a package. -/
def packageText (package : String) : String :=
  "// Generated by protoweavec. DO NOT EDIT!\n\nsyntax = \"proto3\";\n\npackage " ++ package ++
    ";\n\n"

/-- The files of that bundle. -/
def twoFiles (second : String) : List GeneratedFile :=
  [⟨"api.proto", packageText "a"⟩, ⟨second, packageText "b"⟩]

/-- Below a directory of its own the second file leaves the first one alone. -/
theorem files_read_back_twoSources :
    (twoSources "v2/api.proto").compile true = .ok { generated := twoFiles "v2/api.proto" } ∧
      ∃ t', (GeneratedFile.writeAll "gen" (twoFiles "v2/api.proto")).runOn {} =
          (.ok ["gen/api.proto", "gen/v2/api.proto"], t') ∧
        ∀ f ∈ twoFiles "v2/api.proto", t'.readText (f.pathIn "gen") = .ok f.contents := by
  have hcompile : (twoSources "v2/api.proto").compile true =
      .ok { generated := twoFiles "v2/api.proto" } :=
    compile_of_no_failures true (by decide +kernel) (by decide +kernel)
  have hpaths : ((GeneratedFile.writeAll "gen" (twoFiles "v2/api.proto")).runOn {}).1 =
      .ok ["gen/api.proto", "gen/v2/api.proto"] := by
    decide +kernel
  have hplaces : ∀ f ∈ twoFiles "v2/api.proto", ∀ g ∈ twoFiles "v2/api.proto",
      f.placeIn [] "gen" = g.placeIn [] "gen" → f.contents = g.contents := by
    decide +kernel
  obtain ⟨t', hwrite⟩ := FileTask.exists_runOn_eq hpaths
  obtain ⟨-, -, hiff⟩ := files_read_back_iff hcompile hwrite
  exact ⟨hcompile, t', hwrite, hiff.mpr hplaces⟩

/-- **Two documents that declare one name lose a file**, although compiling and writing succeed:
at the path of the first file the text of the second one is read. -/
theorem first_api_is_lost :
    (twoSources "api.proto").compile false = .ok { generated := twoFiles "api.proto" } ∧
      ∃ t', (GeneratedFile.writeAll "gen" (twoFiles "api.proto")).runOn {} =
          (.ok ["gen/api.proto", "gen/api.proto"], t') ∧
        t'.readText (GeneratedFile.pathIn "gen" ⟨"api.proto", packageText "a"⟩) =
          .ok (packageText "b") ∧
        packageText "b" ≠ packageText "a" := by
  have hcompile : (twoSources "api.proto").compile false =
      .ok { generated := twoFiles "api.proto" } :=
    compile_of_no_failures false (by decide +kernel) (by decide +kernel)
  have hpaths : ((GeneratedFile.writeAll "gen" (twoFiles "api.proto")).runOn {}).1 =
      .ok ["gen/api.proto", "gen/api.proto"] := by
    decide +kernel
  obtain ⟨t', hwrite⟩ := FileTask.exists_runOn_eq hpaths
  have hread := GeneratedFile.readText_writeAll [⟨"api.proto", packageText "a"⟩] hwrite
    (List.forall_mem_nil _) List.mem_cons_self (GeneratedFile.placeIn_eq_of_name_eq rfl _ _)
  exact ⟨hcompile, t', hwrite, hread, by decide +kernel⟩

end Bundle

end ProtoSchema
