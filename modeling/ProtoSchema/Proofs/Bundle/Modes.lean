/-
The two modes of compiling a bundle.

Three loops run over the documents of a bundle: one that compiles them and collects failures, one
that compiles them up to the first failure, and one that only decodes them. Each document has an
outcome of its own, which depends on nothing but its source and its value. The report of the
first loop lists these outcomes (`compileFrom_keepGoing`), the second loop ends with the first
failure of that list (`compileFrom_stopping`), and the third with its first decoding failure
(`fault?_mapM_decodeEntry`).
-/
import ProtoSchema.Bundle.Compile
import ProtoSchema.Proofs.KeyMap
import ProtoSchema.Proofs.Outcome

set_option autoImplicit false

namespace ProtoSchema

open Outcome

/-- Whether a document failed to be decoded. -/
def Failure.isDecode : Failure → Bool
  | .decode _ _ => true
  | _ => false

namespace Bundle

/-! ## Bundle order -/

/-- **Documents in bundle order**: sources ascend, and those of one source stand as it lists
them. -/
structure InOrder (bundle : Bundle) (documents : List (String × Json)) : Prop where
  ascending : documents.Pairwise fun d e => d.1 ≤ e.1
  ofSource : ∀ source, documents.filter (·.1 = source) =
    ((bundle.find? source).getD []).map fun doc => (source, doc)

theorem documents_cons (source : String) (docs : List Json) (rest : Bundle) :
    documents ((source, docs) :: rest) = (docs.map fun doc => (source, doc)) ++ documents rest :=
  rfl

/-- Every document comes from a source of the bundle. -/
theorem mem_keys_of_mem_documents {bundle : Bundle} {d : String × Json}
    (h : d ∈ bundle.documents) : d.1 ∈ bundle.keys := by
  obtain ⟨e, he, hd⟩ := List.mem_flatMap.mp h
  obtain ⟨doc, -, rfl⟩ := List.mem_map.mp hd
  exact KeyMap.mem_keys.mpr ⟨e.2, he⟩

/-- The documents come in the order of their sources. -/
theorem pairwise_documents {bundle : Bundle} (h : bundle.Ascending) :
    bundle.documents.Pairwise fun d e => d.1 ≤ e.1 := by
  induction bundle with
  | nil => exact .nil
  | cons entry rest ih =>
    obtain ⟨source, docs⟩ := entry
    -- all documents of a source stand under it, and those after them under later ones
    obtain ⟨hfirst, hrest⟩ := KeyMap.ascending_cons.mp h
    rw [documents_cons, List.pairwise_append]
    refine ⟨?_, ih hrest, ?_⟩
    · rw [List.pairwise_map]
      exact List.pairwise_of_forall fun _ _ => le_refl source
    · intro d hd e he
      obtain ⟨doc, -, rfl⟩ := List.mem_map.mp hd
      exact le_of_lt (hfirst e.1 (mem_keys_of_mem_documents he))

/-- The documents of one source come in the order in which the source gives them. -/
theorem filter_documents {bundle : Bundle} (h : bundle.Ascending) (source : String) :
    bundle.documents.filter (·.1 = source) =
      ((bundle.find? source).getD []).map fun doc => (source, doc) := by
  induction bundle with
  | nil => rfl
  | cons entry rest ih =>
    obtain ⟨key, docs⟩ := entry
    obtain ⟨-, hrest⟩ := KeyMap.ascending_cons.mp h
    rw [documents_cons, List.filter_append, ih hrest, KeyMap.find?_cons]
    by_cases hkey : key = source
    · -- no later entry has documents of this source
      subst hkey
      simp [h.find?_tail, List.filter_map, Function.comp_def]
    · simp [hkey, List.filter_map, Function.comp_def]

/-- **The documents of a bundle are in order**: by source, and within a source as given. -/
theorem inOrder_documents {bundle : Bundle} (h : bundle.Ascending) :
    InOrder bundle bundle.documents :=
  ⟨pairwise_documents h, filter_documents h⟩

/-! ## Outcomes of documents -/

/-- The file that a document is compiled to. -/
def generated? (d : String × Json) : Option GeneratedFile :=
  (Schema.File.ofJson d.2).toOption.bind fun f => f.compile.toOption

/-- **The failure of a document**: it cannot be decoded, or the file that it declares cannot be
compiled. -/
def failure? (d : String × Json) : Option DocumentFailure :=
  match Schema.File.ofJson d.2 with
  | .error e => some { source := d.1, file := none, cause := .decode d.1 e }
  | .ok f => (fault? f.compile).map fun e =>
    { source := d.1, file := some f.name, cause := .inFile f.name e }

/-- **What became of the documents**, as a report has it: every document has a generated file or
a failure and not both, the files and the failures stand in the order of their documents, and a
failure names a file just if its document could be decoded. -/
structure Report.Records (report : Report) (documents : List (String × Json)) : Prop where
  generated : report.generated = documents.filterMap generated?
  failures : report.failures = documents.filterMap failure?
  oneOutcome : ∀ d ∈ documents, (generated? d).isSome = !(failure? d).isSome
  length_add : report.generated.length + report.failures.length = documents.length
  file_eq_some : ∀ d ∈ documents, ∀ x, failure? d = some x → ∀ name,
    x.file = some name ↔ ∃ f, Schema.File.ofJson d.2 = .ok f ∧ f.name = name

/-- **A document has a generated file or a failure**, and compiling it yields the file or the
cause, from which the rest of the failure can be told. -/
theorem compileDocument_cases (d : String × Json) :
    (∃ g, generated? d = some g ∧ failure? d = none ∧ compileDocument d.1 d.2 = .ok g) ∨
    ∃ cause, generated? d = none ∧
      failure? d = some { source := d.1, file := failedFile? cause, cause } ∧
      compileDocument d.1 d.2 = .error cause := by
  unfold generated? failure? compileDocument decodeDocument
  cases Schema.File.ofJson d.2 with
  | error e => exact .inr ⟨.decode d.1 e, rfl, rfl, rfl⟩
  | ok f =>
    simp only [Except.toOption, Option.bind_some, bind, Except.bind]
    cases f.compile with
    | ok g => exact .inl ⟨g, rfl, rfl, rfl⟩
    | error e => exact .inr ⟨.inFile f.name e, rfl, rfl, rfl⟩

/-- A document cannot be decoded just if that is why it failed. -/
theorem fault?_decodeDocument (d : String × Json) :
    fault? (decodeDocument d.1 d.2) =
      ((failure? d).map DocumentFailure.cause).filter Failure.isDecode := by
  unfold decodeDocument failure?
  cases Schema.File.ofJson d.2 with
  | error e => rfl
  | ok f =>
    dsimp only
    cases f.compile with
    | ok g => rfl
    | error e => rfl

/-- **Every document is compiled or has failed**, and none is both. -/
theorem length_filterMap_add (documents : List (String × Json)) :
    (documents.filterMap generated?).length + (documents.filterMap failure?).length =
      documents.length := by
  induction documents with
  | nil => rfl
  | cons d documents ih =>
    rw [List.length_cons, ← ih]
    obtain ⟨g, hg, hx, -⟩ | ⟨cause, hg, hx, -⟩ := compileDocument_cases d
    · rw [List.filterMap_cons_some hg, List.filterMap_cons_none hx, List.length_cons]
      omega
    · rw [List.filterMap_cons_none hg, List.filterMap_cons_some hx, List.length_cons]
      omega

/-- The outcomes of all documents in order record what became of them. -/
theorem records_filterMap (documents : List (String × Json)) :
    Report.Records ⟨documents.filterMap generated?, documents.filterMap failure?⟩ documents where
  generated := rfl
  failures := rfl
  oneOutcome d _ := by
    obtain ⟨g, hg, hx, -⟩ | ⟨cause, hg, hx, -⟩ := compileDocument_cases d
    · rw [hg, hx]
      rfl
    · rw [hg, hx]
      rfl
  length_add := length_filterMap_add documents
  file_eq_some d _ x hx name := by
    unfold failure? at hx
    cases hf : Schema.File.ofJson d.2 with
    | error e =>
      rw [hf] at hx
      cases hx
      simp
    | ok f =>
      rw [hf] at hx
      obtain ⟨e, -, rfl⟩ := Option.map_eq_some_iff.mp hx
      simp

/-! ## Three loops over the documents -/

/-- **The step of a run**: a generated file joins the report, and so does a failure unless it
ends the run. -/
theorem compileFrom_cons (keepGoing : Bool) (report : Report) (d : String × Json)
    (documents : List (String × Json)) :
    (∃ g, generated? d = some g ∧ failure? d = none ∧
      compileFrom keepGoing report (d :: documents) =
        compileFrom keepGoing { report with generated := report.generated ++ [g] } documents) ∨
    ∃ x, generated? d = none ∧ failure? d = some x ∧
      compileFrom keepGoing report (d :: documents) =
        if keepGoing then
          compileFrom keepGoing { report with failures := report.failures ++ [x] } documents
        else .error x.cause := by
  obtain ⟨g, hg, hx, hd⟩ | ⟨cause, hg, hx, hd⟩ := compileDocument_cases d
  · refine .inl ⟨g, hg, hx, ?_⟩
    rw [compileFrom, hd]
  · refine .inr ⟨_, hg, hx, ?_⟩
    rw [compileFrom, hd]

/-- **A run that keeps going** adds the outcomes of all documents to its report. -/
theorem compileFrom_keepGoing (report : Report) (documents : List (String × Json)) :
    compileFrom true report documents = .ok {
      generated := report.generated ++ documents.filterMap generated?
      failures := report.failures ++ documents.filterMap failure? } := by
  induction documents generalizing report with
  | nil => simp [compileFrom]
  | cons d documents ih =>
    obtain ⟨g, hg, hx, hstep⟩ | ⟨x, hg, hx, hstep⟩ := compileFrom_cons true report d documents
    · rw [hstep, ih, List.filterMap_cons_some hg, List.filterMap_cons_none hx]
      simp only [List.append_assoc, List.singleton_append]
    · rw [hstep, if_pos rfl, ih, List.filterMap_cons_none hg, List.filterMap_cons_some hx]
      simp only [List.append_assoc, List.singleton_append]

/-- **A run that stops** ends with the first failure, or without one adds all generated files to
its report. -/
theorem compileFrom_stopping (report : Report) (documents : List (String × Json)) :
    compileFrom false report documents =
      match documents.filterMap failure? with
      | [] => .ok { report with generated := report.generated ++ documents.filterMap generated? }
      | x :: _ => .error x.cause := by
  induction documents generalizing report with
  | nil => simp [compileFrom]
  | cons d documents ih =>
    obtain ⟨g, hg, hx, hstep⟩ | ⟨x, hg, hx, hstep⟩ := compileFrom_cons false report d documents
    · rw [hstep, ih, List.filterMap_cons_some hg, List.filterMap_cons_none hx]
      simp only [List.append_assoc, List.singleton_append]
    · rw [hstep, if_neg Bool.false_ne_true, List.filterMap_cons_some hx]

/-- The files of a report are those of the documents, in bundle order. -/
theorem generated_of_compile {bundle : Bundle} {keepGoing : Bool} {report : Report}
    (h : bundle.compile keepGoing = .ok report) :
    report.generated = bundle.documents.filterMap generated? := by
  cases keepGoing with
  | true =>
    rw [compile, compileFrom_keepGoing] at h
    cases h
    exact List.nil_append _
  | false =>
    rw [compile, compileFrom_stopping] at h
    split at h
    · cases h
      exact List.nil_append _
    · cases h

/-- Without failures both modes report all files. -/
theorem compile_of_no_failures {bundle : Bundle} (keepGoing : Bool) {files : List GeneratedFile}
    (hnone : (bundle.documents.filterMap failure?).isEmpty = true)
    (hfiles : bundle.documents.filterMap generated? = files) :
    bundle.compile keepGoing = .ok { generated := files } := by
  rw [List.isEmpty_iff] at hnone
  cases keepGoing with
  | true => rw [compile, compileFrom_keepGoing, hnone, hfiles, List.nil_append, List.nil_append]
  | false =>
    rw [compile, compileFrom_stopping, hnone, hfiles]
    dsimp only
    rw [List.nil_append]

/-- The decoded document of one place in a bundle. -/
def decodeEntry (d : String × Json) : Except Failure (String × Schema.File) :=
  (fun f => (d.1, f)) <$> decodeDocument d.1 d.2

theorem decode_eq_mapM (bundle : Bundle) : decode bundle = bundle.documents.mapM decodeEntry := rfl

/-- **A run that only decodes** ends with the first failure of decoding. -/
theorem fault?_mapM_decodeEntry (documents : List (String × Json)) :
    fault? (documents.mapM decodeEntry) =
      ((documents.filterMap failure?).map DocumentFailure.cause).find? Failure.isDecode := by
  induction documents with
  | nil => rfl
  | cons d documents ih =>
    -- the later documents fail alike, whatever file was decoded before them
    have hrest : ∀ file, fault? (documents.mapM decodeEntry >>= fun files => pure (file :: files)) =
        fault? (documents.mapM decodeEntry) := by
      intro file
      rw [bind_pure_comp, fault?_map]
    rw [List.mapM_cons, fault?_bind _ hrest, ih, decodeEntry, fault?_map, fault?_decodeDocument]
    cases hx : failure? d with
    | none =>
      rw [List.filterMap_cons_none hx]
      rfl
    | some x =>
      rw [List.filterMap_cons_some hx, List.map_cons, List.find?_cons, Option.map_some,
        Option.filter_some]
      cases x.cause.isDecode with
      | true => rfl
      | false => rfl

/-- An entry is decoded to the file of its document, under the same source. -/
theorem decodeEntry_eq_ok {d : String × Json} {e : String × Schema.File} :
    decodeEntry d = .ok e ↔ e.1 = d.1 ∧ Schema.File.ofJson d.2 = .ok e.2 := by
  rw [decodeEntry, map_eq_ok, decodeDocument]
  cases Schema.File.ofJson d.2 with
  | error _ => simp
  | ok f =>
    obtain ⟨source, file⟩ := e
    simp [eq_comm]

/-! ## The modes agree -/

/-- **The modes of a run agree.** A run that keeps going reports the outcome of every document;
one that stops succeeds with the same files if that report has no failures and ends with the
first of them otherwise; and decoding succeeds if none of them is a failure of decoding and ends
with the first such one otherwise. -/
theorem compile_modes_agree {bundle : Bundle} (h : bundle.Ascending) :
    InOrder bundle bundle.documents ∧
    ∃ report, compile true bundle = .ok report ∧ report.Records bundle.documents ∧
      (∀ r, compile false bundle = .ok r ↔
        report.failures = [] ∧ r = { generated := report.generated, failures := [] }) ∧
      (∀ e, compile false bundle = .error e ↔
        (report.failures.map DocumentFailure.cause).head? = some e) ∧
      ((∃ files, decode bundle = .ok files) ↔
        ∀ x ∈ report.failures, x.cause.isDecode = false) ∧
      (∀ e, decode bundle = .error e ↔
        (report.failures.map DocumentFailure.cause).find? Failure.isDecode = some e) ∧
      ∀ files, decode bundle = .ok files ↔ List.Forall₂
        (fun d e => e.1 = d.1 ∧ Schema.File.ofJson d.2 = .ok e.2) bundle.documents files := by
  have hdecode := fault?_mapM_decodeEntry bundle.documents
  have hkeep := compileFrom_keepGoing {} bundle.documents
  have hstop := compileFrom_stopping {} bundle.documents
  -- both loops start from an empty report, so their reports are those of the documents alone
  rw [List.nil_append, List.nil_append] at hkeep
  refine ⟨inOrder_documents h, _, hkeep, records_filterMap _, ?_, ?_, ?_, ?_, ?_⟩
  · intro r
    rw [compile, hstop]
    cases bundle.documents.filterMap failure? with
    | nil => simp [eq_comm]
    | cons x xs => simp
  · intro e
    rw [compile, hstop]
    cases bundle.documents.filterMap failure? with
    | nil => simp
    | cons x xs => simp
  · rw [decode_eq_mapM, ← fault?_eq_none, hdecode, List.find?_eq_none, List.forall_mem_map]
    simp only [Bool.not_eq_true]
  · intro e
    rw [decode_eq_mapM, ← fault?_eq_some, hdecode]
  · intro files
    rw [decode_eq_mapM, mapM_eq_ok]
    simp only [decodeEntry_eq_ok]

/-- A bundle of two sources: a file and one that sets an option to null, then a value that is no
document and another file. -/
def mixed : Bundle := [
  ("a", [
    .object [("name", .string "a.proto")],
    .object [
      ("name", .string "o.proto"),
      ("options", .array [.object [("type", .object [("name", .string "o")])]])]]),
  ("b", [.null, .object [("name", .string "b.proto")]])]

/-- Two of its documents fail; the first failure stops a run, the second one the decoding. -/
theorem compile_modes_agree_mixed :
    let first : Failure := .inFile "o.proto" (.print (.unsupportedValue "o" "null"))
    let second : Failure := .decode "b" (.invalidType Json.null.shape (.record "FileDef"))
    mixed.Ascending ∧
    ∃ report, compile true mixed = .ok report ∧
      report.generated.map GeneratedFile.name = ["a.proto", "b.proto"] ∧
      report.failures.map (fun x => (x.source, x.file)) = [("a", some "o.proto"), ("b", none)] ∧
      compile false mixed = .error first ∧ decode mixed = .error second := by
  intro first second
  have h : mixed.Ascending := by
    rw [mixed, KeyMap.Ascending, List.pairwise_pair]
    decide
  obtain ⟨-, report, hkeep, hrecords, -, hstop, -, hdecode, -⟩ := compile_modes_agree h
  rw [hrecords.failures] at hstop hdecode
  refine ⟨h, report, hkeep, ?_, ?_, (hstop first).mpr rfl, (hdecode second).mpr rfl⟩
  · rw [hrecords.generated]
    rfl
  · rw [hrecords.failures]
    rfl

end Bundle

end ProtoSchema
