/-
Runs that end early.

A run acts on the outside in two ways: it writes generated files, and it starts the protocol
compiler. Both are parameters of a run, so that it can be said that a run did not do one of them: a
run that never came to an action is the same whatever the action does. The programs that evaluate
its inputs are parameters too, and everything here holds for all of them.

Nothing is written before every input is evaluated and every document that has to compile is
compiled, and the protocol compiler is started only if no document failed.
-/
import ProtoSchema.Proofs.Bundle.Modes
import ProtoSchema.Proofs.Bundle.Writing
import ProtoSchema.Proofs.Source.Failing
import ProtoSchema.Run

set_option autoImplicit false

namespace ProtoSchema

namespace CommandLine

/-! ## Actions that are not taken -/

section Actions

variable (line : CommandLine) (userDirectory : String) (programs : Programs) (t : FileTree)

/-- **No action is taken**: no file is written and the protocol compiler is not started. Whatever
either would do, the run ends the same. -/
def TakesNoAction : Prop :=
  ∀ actions, (line.runWith userDirectory programs actions).runOn t =
    (line.run userDirectory programs).runOn t

/-- **The protocol compiler is not started**, while files are written as ever. -/
def StartsNoProtoc : Prop :=
  ∀ actions, actions.write = GeneratedFile.writeAll →
    (line.runWith userDirectory programs actions).runOn t =
      (line.run userDirectory programs).runOn t

variable {line userDirectory programs t} {ending : Except RunFailure Unit × FileTree}

/-- An end that some actions lead to, the standard ones among them, is the end of the run. -/
theorem run_of_forall_runWith {P : Actions → Prop} (hstandard : P (.standard programs.tools))
    (h : ∀ actions, P actions → (line.runWith userDirectory programs actions).runOn t = ending) :
    (line.run userDirectory programs).runOn t = ending ∧ ∀ actions, P actions →
      (line.runWith userDirectory programs actions).runOn t =
        (line.run userDirectory programs).runOn t := by
  have hrun : (line.run userDirectory programs).runOn t = ending := h _ hstandard
  exact ⟨hrun, fun actions hactions => (h actions hactions).trans hrun.symm⟩

/-- An end that all actions lead to is the end of a run that takes none. -/
theorem takesNoAction_of_forall
    (h : ∀ actions, (line.runWith userDirectory programs actions).runOn t = ending) :
    (line.run userDirectory programs).runOn t = ending ∧
      line.TakesNoAction userDirectory programs t := by
  obtain ⟨hrun, hall⟩ :=
    run_of_forall_runWith (P := fun _ => True) trivial fun actions _ => h actions
  exact ⟨hrun, fun actions => hall actions trivial⟩

end Actions

/-! ## Where a run ends -/

section Ends

/-- A stage that ends well leaves its result and its tree to the run. -/
theorem runOn_stage_ok {α : Type} {task : FileTask Failure α} {t t' : FileTree} {a : α}
    (h : task.runOn t = (.ok a, t')) : (stage task).runOn t = (.ok a, t') := by
  rw [stage, FileTask.runOn_adapt, h]
  rfl

/-- The failure of a stage is wrapped, and the tree is left as the stage left it. -/
theorem runOn_stage_error {α : Type} {task : FileTask Failure α} {t t' : FileTree} {e : Failure}
    (h : task.runOn t = (.error e, t')) : (stage task).runOn t = (.error (.stage e), t') := by
  rw [stage, FileTask.runOn_adapt, h]
  rfl

variable {line : CommandLine} {settings : Settings} {directory userDirectory : String}
  {programs : Programs} {actions : Actions} {t t₁ : FileTree}

/-- An input that fails ends the generation. -/
theorem generateWith_of_evaluate_error {e : Failure}
    (heval : (line.evaluate settings programs).runOn t = (.error e, t₁)) :
    (line.generateWith settings directory programs actions).runOn t = (.error (.stage e), t₁) := by
  rw [generateWith, FileTask.runOn_bind, runOn_stage_error heval]

/-- So does a document that fails, if the run does not keep going. -/
theorem generateWith_of_compile_error {bundle : Bundle} {e : Failure}
    (heval : (line.evaluate settings programs).runOn t = (.ok bundle, t₁))
    (hcompile : bundle.compile line.keepGoing = .error e) :
    (line.generateWith settings directory programs actions).runOn t = (.error (.stage e), t₁) := by
  have hlift := FileTask.runOn_lift (bundle.compile line.keepGoing) t₁
  rw [hcompile] at hlift
  rw [generateWith, FileTask.runOn_bind, runOn_stage_ok heval]
  dsimp only
  rw [FileTask.runOn_bind, hcompile, runOn_stage_error hlift]

/-- **Files are written before failures count.** Then the generation ends with the names of the
files, or with the number of documents that failed. -/
theorem generateWith_of_written {bundle : Bundle} {report : Bundle.Report} {paths : List String}
    {t₂ : FileTree} (heval : (line.evaluate settings programs).runOn t = (.ok bundle, t₁))
    (hcompile : bundle.compile line.keepGoing = .ok report)
    (hwrite : (actions.write directory report.generated).runOn t₁ = (.ok paths, t₂)) :
    (line.generateWith settings directory programs actions).runOn t =
      (if report.isSuccess then .ok (report.generated.map GeneratedFile.name)
        else .error (.filesFailed report.failures.length), t₂) := by
  have hlift := FileTask.runOn_lift (bundle.compile line.keepGoing) t₁
  rw [hcompile] at hlift
  -- one stage after another: evaluating, compiling, writing
  rw [generateWith, FileTask.runOn_bind, runOn_stage_ok heval]
  dsimp only
  rw [FileTask.runOn_bind, hcompile, runOn_stage_ok hlift]
  dsimp only
  rw [FileTask.runOn_bind, runOn_stage_ok hwrite]
  dsimp only
  cases report.isSuccess with
  | true => rfl
  | false => rfl

/-- In a run that keeps going, the documents that failed are the failure of the run. -/
theorem generateWith_of_failures {bundle : Bundle} {report : Bundle.Report} {paths : List String}
    {t₂ : FileTree} (heval : (line.evaluate settings programs).runOn t = (.ok bundle, t₁))
    (hcompile : bundle.compile line.keepGoing = .ok report) (hfailed : report.isSuccess = false)
    (hwrite : (actions.write directory report.generated).runOn t₁ = (.ok paths, t₂)) :
    (line.generateWith settings directory programs actions).runOn t =
      (.error (.filesFailed report.failures.length), t₂) := by
  rw [generateWith_of_written heval hcompile hwrite, hfailed, if_neg Bool.false_ne_true]

/-- A run whose settings or log cannot be had ends before anything else. -/
theorem runWith_of_prepare_error {e : RunFailure}
    (hprepare : (line.prepare userDirectory).runOn t = (.error e, t₁)) :
    (line.runWith userDirectory programs actions).runOn t = (.error e, t₁) := by
  rw [runWith, FileTask.runOn_bind, hprepare]

/-- **A run without its files ends there**: the protocol compiler comes after them. -/
theorem runWith_of_generateWith_error {e : RunFailure} {t₂ : FileTree}
    (hprepare : (line.prepare userDirectory).runOn t = (.ok settings, t₁))
    (hschemas : (Inputs.ofPaths line.inputs).hasSchemas = true)
    (hdirectory : line.outputDirWith settings = some directory)
    (hgenerate : (line.generateWith settings directory programs actions).runOn t₁ =
      (.error e, t₂)) :
    (line.runWith userDirectory programs actions).runOn t = (.error e, t₂) := by
  -- the invocation is made after generating, so it fails too
  have hinvocation : (line.invocationWith settings programs actions).runOn t₁ =
      (.error e, t₂) := by
    rw [invocationWith, if_pos hschemas, hdirectory]
    dsimp only
    rw [FileTask.runOn_bind, hgenerate]
  rw [runWith, FileTask.runOn_bind, hprepare]
  dsimp only
  rw [FileTask.runOn_bind, hinvocation]

end Ends

/-! ## All or nothing -/

/-- A bundle with a document that fails does not compile as a whole. -/
theorem compile_stopping_of_failure {bundle : Bundle} {d : String × Json}
    (hd : d ∈ bundle.documents) (hfailed : (Bundle.failure? d).isSome) :
    ∃ x ∈ bundle.documents.filterMap Bundle.failure?,
      bundle.compile false = .error x.cause := by
  obtain ⟨x, hx⟩ := Option.isSome_iff_exists.mp hfailed
  have hmem : x ∈ bundle.documents.filterMap Bundle.failure? := List.mem_filterMap.mpr ⟨d, hd, hx⟩
  have hstop := Bundle.compileFrom_stopping {} bundle.documents
  -- the run ends with the first failure, which need not be that of the given document
  cases hfailures : bundle.documents.filterMap Bundle.failure? with
  | nil =>
    rw [hfailures] at hmem
    cases hmem
  | cons first rest =>
    rw [hfailures] at hstop
    exact ⟨first, List.mem_cons_self, hstop⟩

/-- **A run is all or nothing**, whatever the programs are that evaluate its inputs. A run that
cannot start, one with an input that fails and one that does not keep going over a document that
fails all end with that failure, on the tree that was there then, and take no action. A run that
keeps going over `k` documents that fail writes exactly the files of the others, reports `k`
failures and does not start the protocol compiler. -/
theorem run_all_or_nothing (line : CommandLine) (userDirectory : String) (programs : Programs)
    (t : FileTree) (hschemas : (Inputs.ofPaths line.inputs).hasSchemas = true) :
    (∀ e t₁, (line.prepare userDirectory).runOn t = (.error e, t₁) →
      (line.run userDirectory programs).runOn t = (.error e, t₁) ∧
      line.TakesNoAction userDirectory programs t) ∧
    ∀ settings directory t₁, (line.prepare userDirectory).runOn t = (.ok settings, t₁) →
      line.outputDirWith settings = some directory →
      (∀ e t₂, (Inputs.ofPaths line.inputs).Fails programs (line.searchPathsWith settings)
          settings.nickelTool t₁ e t₂ →
        (line.run userDirectory programs).runOn t = (.error (.stage e), t₂) ∧
        line.TakesNoAction userDirectory programs t) ∧
      ∀ bundle t₂, (line.evaluate settings programs).runOn t₁ = (.ok bundle, t₂) →
        (line.keepGoing = false →
          (∃ d ∈ bundle.documents, (Bundle.failure? d).isSome) →
          ∃ x ∈ bundle.documents.filterMap Bundle.failure?,
            (line.run userDirectory programs).runOn t = (.error (.stage x.cause), t₂) ∧
            line.TakesNoAction userDirectory programs t) ∧
        (line.keepGoing = true → ∀ k paths t₃, 0 < k →
          bundle.documents.countP (fun d => (Bundle.failure? d).isSome) = k →
          (GeneratedFile.writeAll directory
            (bundle.documents.filterMap Bundle.generated?)).runOn t₂ = (.ok paths, t₃) →
          (line.run userDirectory programs).runOn t = (.error (.filesFailed k), t₃) ∧
          line.StartsNoProtoc userDirectory programs t ∧
          GeneratedFile.Written directory
            (bundle.documents.filterMap Bundle.generated?) t₂ t₃) := by
  refine ⟨fun e t₁ hprepare => takesNoAction_of_forall fun actions =>
    runWith_of_prepare_error hprepare, ?_⟩
  intro settings directory t₁ hprepare hdirectory
  refine ⟨?_, fun bundle t₂ heval => ⟨?_, ?_⟩⟩
  · intro e t₂ hfails
    have heval : (line.evaluate settings programs).runOn t₁ = (.error e, t₂) :=
      Inputs.evaluate_eq_error.mpr hfails
    refine takesNoAction_of_forall fun actions => ?_
    exact runWith_of_generateWith_error hprepare hschemas hdirectory
      (generateWith_of_evaluate_error heval)
  · -- compiling ends with the first failure, before anything is written
    rintro hkeep ⟨d, hd, hfailed⟩
    obtain ⟨x, hx, hcompile⟩ := compile_stopping_of_failure hd hfailed
    rw [← hkeep] at hcompile
    refine ⟨x, hx, takesNoAction_of_forall fun actions => ?_⟩
    exact runWith_of_generateWith_error hprepare hschemas hdirectory
      (generateWith_of_compile_error heval hcompile)
  · intro hkeep k paths t₃ hk hcount hwrite
    have hcompile := Bundle.compileFrom_keepGoing {} bundle.documents
    rw [List.nil_append, List.nil_append, ← hkeep] at hcompile
    have hlength : (bundle.documents.filterMap Bundle.failure?).length = k := by
      rw [List.length_filterMap_eq_countP, hcount]
    -- the report has failures, since they are counted
    have hfailed : (bundle.documents.filterMap Bundle.failure?).isEmpty = false := by
      rw [List.isEmpty_eq_false_iff, ← List.length_pos_iff, hlength]
      exact hk
    have hrun : ∀ actions, actions.write = GeneratedFile.writeAll →
        (line.runWith userDirectory programs actions).runOn t = (.error (.filesFailed k), t₃) := by
      intro actions hactions
      rw [← hactions] at hwrite
      rw [← hlength]
      exact runWith_of_generateWith_error hprepare hschemas hdirectory
        (generateWith_of_failures heval hcompile hfailed hwrite)
    obtain ⟨hend, hprotoc⟩ :=
      run_of_forall_runWith (P := fun actions => actions.write = GeneratedFile.writeAll) rfl hrun
    exact ⟨hend, hprotoc, (GeneratedFile.written_of_writeAll hwrite).2⟩

/-- A tree with a source of two documents, the second of which is a number, and two nickel scripts,
one of them unfinished. -/
def halfBroken : FileTree where
  nodes := [
    (["a.json"], .file (Utf8.bytes "[\x7b\"name\":\"a.proto\"\x7d,3]") false),
    (["b.ncl"], .file (Utf8.bytes "\x7b name = \"b.proto\" \x7d") false),
    (["c.ncl"], .file (Utf8.bytes "\x7b name = ") false)]

/-- Nickel on the two scripts: it exports the one and complains about the other. -/
def nickelOnly : Programs where
  tools := {
    locate := fun tool =>
      if tool = "nickel" then pure "/usr/bin/nickel" else throw (.toolNotFound tool)
    execute := fun _ arguments =>
      if arguments.getLast? = some "b.ncl" then
        pure { output := Utf8.bytes "\x7b\n  \"name\": \"b.proto\"\n\x7d" }
      else pure { status := 1, errors := Utf8.bytes "error: unexpected end of file" } }
  interpreter := .absent

/-- A run that asks for both generated files and an output of the protocol compiler. -/
def generateGo (inputs : List String) (keepGoing : Bool) : CommandLine where
  outputDir := some "gen"
  keepGoing := keepGoing
  inputs := inputs
  protocArguments := ["--go_out=x"]

/-- What evaluating the finished script and the source gives. -/
def halfBrokenBundle : Bundle := [
  ("a.json", [.object [("name", .string "a.proto")], .int 3]),
  ("b.ncl", [.object [("name", .string "b.proto")]])]

/-- The text of a file without declarations. -/
def blankText : String := "// Generated by protoweavec. DO NOT EDIT!\n\nsyntax = \"proto3\";\n\n"

/-- The two documents that compile. -/
def halfBrokenFiles : List GeneratedFile := [⟨"a.proto", blankText⟩, ⟨"b.proto", blankText⟩]

theorem prepare_generateGo (inputs : List String) (keepGoing : Bool) :
    ((generateGo inputs keepGoing).prepare "/u").runOn halfBroken = (.ok {}, halfBroken) := by
  -- neither the inputs nor the mode matter before the sources are evaluated
  change ((generateGo [] false).prepare "/u").runOn halfBroken = _
  decide +kernel

/-- Nickel complains about the unfinished script, so the inputs fail. -/
theorem fails_unfinished :
    (Inputs.ofPaths ["c.ncl", "a.json"]).Fails nickelOnly [] "nickel" halfBroken
      (.inFile "c.ncl" (.toolFailed "nickel" 1 "error: unexpected end of file")) halfBroken := by
  have hjsonnet : (Jsonnet.evaluate .absent [] []).runOn halfBroken = (.ok [], halfBroken) := rfl
  have hscripts : ["c.ncl"] = [] ++ "c.ncl" :: [] := rfl
  have hlocate : (nickelOnly.tools.locate "nickel").runOn halfBroken =
      (.ok "/usr/bin/nickel", halfBroken) := rfl
  have hexport : (Nickel.exportScript nickelOnly.tools "nickel" "/usr/bin/nickel"
      "c.ncl").runOn halfBroken = (.error (.inFile "c.ncl"
        (.toolFailed "nickel" 1 "error: unexpected end of file")), halfBroken) := by
    decide +kernel
  exact .nickel hjsonnet (.script hscripts hlocate rfl hexport)

/-- The two files stand under different paths, so both can be read once they are written. -/
theorem readBytes_halfBrokenFiles {paths : List String} {t' : FileTree}
    (hwrite : (GeneratedFile.writeAll "gen" halfBrokenFiles).runOn halfBroken = (.ok paths, t')) :
    t'.readBytes "gen/a.proto" = .ok (Utf8.bytes blankText) ∧
      t'.readBytes "gen/b.proto" = .ok (Utf8.bytes blankText) := by
  have htree : t' = ((GeneratedFile.writeAll "gen" halfBrokenFiles).runOn halfBroken).2 := by
    rw [hwrite]
  rw [htree]
  decide +kernel

/-- A script that fails ends the run, and so does the broken document unless the run keeps going:
nothing is written then. If it does keep going, the two documents that compile are written. The
protocol compiler is not started in any of the three runs. -/
theorem run_all_or_nothing_halfBroken :
    (((generateGo ["c.ncl", "a.json"] true).run "/u" nickelOnly).runOn halfBroken =
        (.error (.stage (.inFile "c.ncl"
          (.toolFailed "nickel" 1 "error: unexpected end of file"))), halfBroken) ∧
      (generateGo ["c.ncl", "a.json"] true).TakesNoAction "/u" nickelOnly halfBroken) ∧
    (∃ e, ((generateGo ["b.ncl", "a.json"] false).run "/u" nickelOnly).runOn halfBroken =
        (.error (.stage e), halfBroken) ∧
      (generateGo ["b.ncl", "a.json"] false).TakesNoAction "/u" nickelOnly halfBroken) ∧
    ∃ t', ((generateGo ["b.ncl", "a.json"] true).run "/u" nickelOnly).runOn halfBroken =
        (.error (.filesFailed 1), t') ∧
      (generateGo ["b.ncl", "a.json"] true).StartsNoProtoc "/u" nickelOnly halfBroken ∧
      GeneratedFile.Written "gen" halfBrokenFiles halfBroken t' ∧
      t'.readBytes "gen/a.proto" = .ok (Utf8.bytes blankText) ∧
      t'.readBytes "gen/b.proto" = .ok (Utf8.bytes blankText) := by
  have heval : ∀ keepGoing, ((generateGo ["b.ncl", "a.json"] keepGoing).evaluate {}
      nickelOnly).runOn halfBroken = (.ok halfBrokenBundle, halfBroken) := by decide +kernel
  have hall := fun inputs keepGoing hschemas =>
    (run_all_or_nothing (generateGo inputs keepGoing) "/u" nickelOnly halfBroken hschemas).2 {}
      "gen" halfBroken (prepare_generateGo inputs keepGoing) rfl
  refine ⟨?_, ?_, ?_⟩
  · exact (hall ["c.ncl", "a.json"] true (by decide +kernel)).1 _ _ fails_unfinished
  · have hfailed : (Bundle.failure? ("a.json", .int 3)).isSome := by decide +kernel
    have hmem : ("a.json", .int 3) ∈ halfBrokenBundle.documents := by
      simp [halfBrokenBundle, Bundle.documents]
    obtain ⟨x, -, hend⟩ := ((hall _ false (by decide +kernel)).2 _ _ (heval false)).1 rfl
      ⟨_, hmem, hfailed⟩
    exact ⟨x.cause, hend⟩
  · have hfiles : halfBrokenBundle.documents.filterMap Bundle.generated? = halfBrokenFiles := by
      decide +kernel
    have hcount : halfBrokenBundle.documents.countP (fun d => (Bundle.failure? d).isSome) = 1 := by
      decide +kernel
    have hpaths : ((GeneratedFile.writeAll "gen" halfBrokenFiles).runOn halfBroken).1 =
        .ok ["gen/a.proto", "gen/b.proto"] := by decide +kernel
    obtain ⟨t', hwrite⟩ := FileTask.exists_runOn_eq hpaths
    have hkeep := ((hall _ true (by decide +kernel)).2 _ _ (heval true)).2 rfl 1
      ["gen/a.proto", "gen/b.proto"] t' Nat.one_pos hcount
    rw [hfiles] at hkeep
    obtain ⟨hend, hprotoc, hexact⟩ := hkeep hwrite
    exact ⟨t', hend, hprotoc, hexact, readBytes_halfBrokenFiles hwrite⟩

end CommandLine

end ProtoSchema
