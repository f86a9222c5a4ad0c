/-
What the protocol compiler is started with.

A run starts the protocol compiler at most once, at its end. The arguments begin with what the
caller gave: the inputs that are no schema sources, in their order, and what stands behind the two
dashes of the command line. The generated files come after them, in bundle order. How often a
name occurs, and how the names are split over calls, does not matter: the caller's arguments stay as
they are and each generated file appears once (`protoc_sees_each_file_once`).

Starting the protocol compiler is a parameter of the run, as in the account of runs that end early.
That it is started with an invocation then means that the run ends as that start does, whatever
starting does. The programs that evaluate scripts are parameters too, so that sources of all three
kinds are covered.
-/
import ProtoSchema.Proofs.Outcome
import ProtoSchema.Proofs.Protoc
import ProtoSchema.Proofs.Run.AllOrNothing

set_option autoImplicit false

namespace ProtoSchema

namespace CommandLine

/-! ## What the caller gives -/

/-- **What stands behind two dashes** goes to the protocol compiler as it is. -/
theorem protocArguments_of_parseFrom {r : Reading} {arguments : List String} {line : CommandLine}
    (h : parseFrom r arguments = .ok line) :
    line.protocArguments = (arguments.dropWhile (· ≠ "--")).tail := by
  induction arguments generalizing r with
  | nil =>
    obtain ⟨settled, -, hline⟩ := Outcome.bind_eq_ok.mp h
    cases hline
    rfl
  | cons argument arguments ih =>
    rw [parseFrom] at h
    by_cases hdashes : argument = "--"
    · -- reading ends at the dashes, and all behind them is passed on
      rw [if_pos (beq_iff_eq.mpr hdashes)] at h
      obtain ⟨settled, -, hline⟩ := Outcome.bind_eq_ok.mp h
      cases hline
      rw [List.dropWhile_cons_of_neg (by simpa using hdashes), List.tail_cons]
    · -- any other argument changes the reading, but nothing behind it
      rw [if_neg (mt beq_iff_eq.mp hdashes)] at h
      obtain ⟨r', -, hrest⟩ := Outcome.bind_eq_ok.mp h
      rw [List.dropWhile_cons_of_pos (by simpa using hdashes)]
      exact ih hrest

/-- **The invocation before files are added**: the inputs that are no schema sources, and what is
passed through. -/
def callersInvocation (line : CommandLine) (settings : Settings) : Protoc where
  tool := settings.protocTool
  arguments :=
    (line.inputs.filter fun path => SourceKind.ofPath? path == none) ++ line.protocArguments

/-! ## The end of a run -/

/-- The last step of a run: the protocol compiler is started if an output is asked for. -/
def Actions.finish (actions : Actions) (protoc : Protoc) : FileTask RunFailure Unit :=
  if protoc.isRequested then stage (actions.startProtoc protoc) else pure ()

variable {line : CommandLine} {settings : Settings} {userDirectory : String}
  {programs : Programs} {actions : Actions} {t t₁ t₂ : FileTree}

/-- **A run with its invocation at hand only has to finish**, on the tree that generating left. -/
theorem runWith_of_invocation {protoc : Protoc}
    (hprepare : (line.prepare userDirectory).runOn t = (.ok settings, t₁))
    (hinvocation : (line.invocationWith settings programs actions).runOn t₁ = (.ok protoc, t₂)) :
    (line.runWith userDirectory programs actions).runOn t = (actions.finish protoc).runOn t₂ := by
  rw [runWith, FileTask.runOn_bind, hprepare]
  dsimp only
  rw [FileTask.runOn_bind, hinvocation]
  rfl

/-- Without schema sources the caller's invocation is the one. -/
theorem invocationWith_of_no_schemas
    (hschemas : (Inputs.ofPaths line.inputs).hasSchemas = false) :
    line.invocationWith settings programs actions = pure (line.callersInvocation settings) := by
  rw [invocationWith, if_neg (by rw [hschemas]; exact Bool.false_ne_true)]
  rfl

/-- **With schema sources the names of the generated files are added**, in the order of the
documents of the bundle. -/
theorem invocationWith_of_generated {directory : String} {bundle : Bundle} {paths : List String}
    {t₃ : FileTree} (hschemas : (Inputs.ofPaths line.inputs).hasSchemas = true)
    (hdirectory : line.outputDirWith settings = some directory)
    (heval : (line.evaluate settings programs).runOn t₁ = (.ok bundle, t₂))
    (hnone : ∀ d ∈ bundle.documents, Bundle.failure? d = none)
    (hwrite : (actions.write directory (bundle.documents.filterMap Bundle.generated?)).runOn t₂ =
      (.ok paths, t₃)) :
    (line.invocationWith settings programs actions).runOn t₁ =
      (.ok ((line.callersInvocation settings).addFiles
        ((bundle.documents.filterMap Bundle.generated?).map GeneratedFile.name)), t₃) := by
  have hfailures : (bundle.documents.filterMap Bundle.failure?).isEmpty = true :=
    List.isEmpty_iff.mpr (List.filterMap_eq_nil_iff.mpr hnone)
  -- without failures it does not matter whether the run keeps going
  have hcompile := Bundle.compile_of_no_failures line.keepGoing hfailures rfl
  rw [invocationWith, if_pos hschemas, hdirectory]
  dsimp only
  rw [FileTask.runOn_bind, generateWith_of_written heval hcompile hwrite]
  rfl

/-! ## Each file once -/

/-- **The protocol compiler sees the caller's arguments untouched and each generated file once.**
However often files are added to an invocation, its arguments are in the end those it had before and
then the names that are none of them, each once, in the order in which they first appear in the
calls; it depends only on the names in a row, and repeating a call changes nothing. A run begins
with the inputs that are no schema sources and with what stands behind two dashes, and adds the
generated files of its bundle in order, whichever programs evaluate its sources. -/
theorem protoc_sees_each_file_once :
    (∀ (p : Protoc) (calls : List (List String)), ∃ fresh : List String,
      calls.foldl Protoc.addFiles p = { p with arguments := p.arguments ++ fresh } ∧
      fresh.Nodup ∧
      (∀ name, name ∈ fresh ↔ name ∈ calls.flatten ∧ name ∉ p.arguments) ∧
      (fresh.Pairwise fun a b => calls.flatten.idxOf a < calls.flatten.idxOf b) ∧
      (∀ others : List (List String), others.flatten = calls.flatten →
        others.foldl Protoc.addFiles p = calls.foldl Protoc.addFiles p) ∧
      ∀ before names between after, calls = before ++ names :: between ++ after →
        (before ++ names :: between ++ names :: after).foldl Protoc.addFiles p =
          calls.foldl Protoc.addFiles p) ∧
    (∀ arguments line, parse arguments = .ok line →
      line.protocArguments = (arguments.dropWhile (· ≠ "--")).tail) ∧
    ∀ (line : CommandLine) (userDirectory : String) (programs : Programs),
      line.run userDirectory programs =
        line.runWith userDirectory programs (.standard programs.tools) ∧
      ∀ actions settings t t₁, (line.prepare userDirectory).runOn t = (.ok settings, t₁) →
        ((Inputs.ofPaths line.inputs).hasSchemas = false →
          (line.runWith userDirectory programs actions).runOn t =
            (actions.finish (line.callersInvocation settings)).runOn t₁) ∧
        ((Inputs.ofPaths line.inputs).hasSchemas = true →
          ∀ directory bundle paths t₂ t₃, line.outputDirWith settings = some directory →
          (line.evaluate settings programs).runOn t₁ = (.ok bundle, t₂) →
          (∀ d ∈ bundle.documents, Bundle.failure? d = none) →
          (actions.write directory (bundle.documents.filterMap Bundle.generated?)).runOn t₂ =
            (.ok paths, t₃) →
          (line.runWith userDirectory programs actions).runOn t =
            (actions.finish ((line.callersInvocation settings).addFiles
              ((bundle.documents.filterMap Bundle.generated?).map GeneratedFile.name))).runOn
              t₃) := by
  refine ⟨?_, fun arguments line => protocArguments_of_parseFrom, ?_⟩
  · intro p calls
    -- a sequence of calls is one call with all their names in a row
    refine ⟨p.fresh calls.flatten, ?_, p.nodup_fresh _, fun name => Protoc.mem_fresh,
      p.pairwise_fresh _, ?_, ?_⟩
    · rw [Protoc.foldl_addFiles, Protoc.addFiles_eq]
    · intro others hflatten
      rw [Protoc.foldl_addFiles, Protoc.foldl_addFiles, hflatten]
    · rintro before names between after rfl
      exact p.foldl_addFiles_repeated before names between after
  · intro line userDirectory programs
    refine ⟨rfl, ?_⟩
    intro actions settings t t₁ hprepare
    constructor
    · intro hschemas
      refine runWith_of_invocation hprepare ?_
      rw [invocationWith_of_no_schemas hschemas, FileTask.runOn_pure]
    · intro hschemas directory bundle paths t₂ t₃ hdirectory heval hnone hwrite
      exact runWith_of_invocation hprepare
        (invocationWith_of_generated hschemas hdirectory heval hnone hwrite)

/-- A jsonnet script with three files, two of which have the same name. -/
def threeFilesScript : String :=
  "local file(name) = \x7b manifestProtoIR():: \x7b name: name \x7d \x7d;\n" ++
  "[file(\"a.proto\"), file(\"b.proto\"), file(\"a.proto\")]\n"

/-- A tree with the script, and with a source of one document. -/
def threeFiles : FileTree where
  nodes := [
    (["s.jsonnet"], .file (Utf8.bytes threeFilesScript) false),
    (["t.json"], .file (Utf8.bytes "\x7b\"name\":\"c.proto\"\x7d") false)]

/-- Programs with an interpreter for the one script: what it answers is the value of the generated
script that imports it, with the three files under the name of the script. -/
def threeFilesPrograms : Programs where
  tools := .ofTree
  interpreter := {
    libraries := fun _ => .ok "/tmp/protoweave-lib"
    manifest := fun _ entry t =>
      if entry = Jsonnet.entryScript [("s.jsonnet", "/s.jsonnet")] ∧
          t.readText "/s.jsonnet" = .ok threeFilesScript then
        some ("\x7b\n    \"s.jsonnet\": [\n" ++
          "        \x7b\n            \"name\": \"a.proto\"\n        \x7d,\n" ++
          "        \x7b\n            \"name\": \"b.proto\"\n        \x7d,\n" ++
          "        \x7b\n            \"name\": \"a.proto\"\n        \x7d\n    ]\n\x7d")
      else none }

/-- A run that gives the protocol compiler a file of its own and one of the generated ones, both of
them twice. -/
def passesThrough : CommandLine where
  outputDir := some "gen"
  inputs := ["x.proto", "t.json", "s.jsonnet"]
  protocArguments := ["--go_out=x", "b.proto", "x.proto", "b.proto"]

/-- What evaluating the script and the source gives. -/
def threeFilesBundle : Bundle := [
  ("s.jsonnet", [.object [("name", .string "a.proto")], .object [("name", .string "b.proto")],
    .object [("name", .string "a.proto")]]),
  ("t.json", [.object [("name", .string "c.proto")]])]

/-- What the caller repeats stays repeated, and of the generated files `a.proto` and `c.proto` are
added. The files of the script come first, as its name does in the bundle. -/
theorem protoc_sees_each_file_once_threeFiles :
    parse ["--proto_out=gen", "x.proto", "t.json", "s.jsonnet", "--", "--go_out=x", "b.proto",
      "x.proto", "b.proto"] = .ok passesThrough ∧
    ["--go_out=x", "b.proto", "x.proto", "b.proto"] = passesThrough.protocArguments ∧
    (∃ t', (passesThrough.run "/u" threeFilesPrograms).runOn threeFiles =
      (stage (Tools.ofTree.call "protoc" ["x.proto", "--go_out=x", "b.proto", "x.proto", "b.proto",
        "a.proto", "c.proto"])).runOn t') ∧
    [["a"], ["b", "c"], ["a"]].foldl Protoc.addFiles ⟨"protoc", ["b", "b"]⟩ =
      [["a", "b"], ["c"]].foldl Protoc.addFiles ⟨"protoc", ["b", "b"]⟩ := by
  obtain ⟨hcalls, hparse, hrun⟩ := protoc_sees_each_file_once
  have hline : parse ["--proto_out=gen", "x.proto", "t.json", "s.jsonnet", "--", "--go_out=x",
      "b.proto", "x.proto", "b.proto"] = .ok passesThrough := by decide +kernel
  have hprepare : (passesThrough.prepare "/u").runOn threeFiles = (.ok {}, threeFiles) := by
    decide +kernel
  have heval : (passesThrough.evaluate {} threeFilesPrograms).runOn threeFiles =
      (.ok threeFilesBundle, threeFiles) := by decide +kernel
  have hnone : ∀ d ∈ threeFilesBundle.documents, Bundle.failure? d = none := by
    have hempty : (threeFilesBundle.documents.filterMap Bundle.failure?).isEmpty = true := by
      decide +kernel
    exact List.filterMap_eq_nil_iff.mp (List.isEmpty_iff.mp hempty)
  have hfiles : threeFilesBundle.documents.filterMap Bundle.generated? =
      ["a.proto", "b.proto", "a.proto", "c.proto"].map fun name => ⟨name, blankText⟩ := by
    decide +kernel
  have hpaths : ((GeneratedFile.writeAll "gen"
      (threeFilesBundle.documents.filterMap Bundle.generated?)).runOn threeFiles).1 =
      .ok ["gen/a.proto", "gen/b.proto", "gen/a.proto", "gen/c.proto"] := by
    rw [hfiles]
    decide +kernel
  obtain ⟨t', hwrite⟩ := FileTask.exists_runOn_eq hpaths
  obtain ⟨hstandard, hends⟩ := hrun passesThrough "/u" threeFilesPrograms
  refine ⟨hline, (hparse _ _ hline).symm, ⟨t', ?_⟩, ?_⟩
  · rw [hstandard, (hends (.standard threeFilesPrograms.tools) {} threeFiles threeFiles hprepare).2
      (by decide +kernel) "gen" threeFilesBundle _ threeFiles t' rfl heval hnone hwrite, hfiles]
    rfl
  · obtain ⟨-, -, -, -, -, hsplit, hrepeated⟩ :=
      hcalls ⟨"protoc", ["b", "b"]⟩ [["a"], ["b", "c"]]
    rw [hsplit [["a", "b"], ["c"]] rfl]
    exact hrepeated [] ["a"] [["b", "c"]] [] rfl

end CommandLine

end ProtoSchema
