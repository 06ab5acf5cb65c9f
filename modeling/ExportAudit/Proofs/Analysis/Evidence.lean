import ExportAudit.Proofs.Analysis.DumpQueries
import ExportAudit.Proofs.Source.Acceptance
import ExportAudit.Proofs.Text.BlankLines

/-!
# The evidence of an inconclusive dump

A dump without nodes says nothing of exports or usages.  The issue that is raised for it shows
what it says instead: how many lines it has, and the first of them that is not blank.

The source of dumps has looked for a character that is not a blank in the text as a whole, and
the issue looks for one line by line, long after.  Both find one or neither does.  **So the
issue is never raised without a line to show**, and every dump that an analysis asks for and
that has no nodes has its issue.
-/

namespace ExportAudit.Analysis

set_option autoImplicit false

open ExportAudit.Text ExportAudit.Export ExportAudit.Source

variable {setup : Setup} {input : ModuleInput} {options : CoverageOptions} {path file : Path}
  {source dump : String} {issue : Issue}

/-! ## What an issue shows -/

/-- An issue is the evidence of a file's dump, which has no nodes: it tells how many lines the
dump has, of which there is one at least, and it shows the core of the first that is not
blank. -/
inductive Evident (setup : Setup) (file : Path) : Issue → Prop where
  | intro {dump firstLine : String} (produced : setup.dumps.dump file = .ok dump)
      (nodeless : Nodeless dump) (hasLine : 1 ≤ (lines dump.toList).length)
      (firstCore : FirstCore dump.toList firstLine.toList) :
      Evident setup file
        { path := file.text
          finding := .inconclusiveDump (lines dump.toList).length (some firstLine) }

theorem Evident.rule (evident : Evident setup file issue) : issue.rule = .inconclusiveDump := by
  cases evident
  rfl

/-- **Of a dump that has content the issue shows a line.** -/
theorem evident_of_hasContent (produced : setup.dumps.dump file = .ok dump)
    (nodeless : Nodeless dump) (content : HasContent dump) :
    Evident setup file (inconclusiveIssue file dump) := by
  obtain ⟨core, found, firstCore⟩ := exists_firstCore (hasContent_iff.1 content)
  have isIssue : inconclusiveIssue file dump =
      { path := file.text
        finding := .inconclusiveDump (lines dump.toList).length (some (String.ofList core)) } := by
    simp only [inconclusiveIssue, List.length_map, found, Option.map_some]
  obtain ⟨c, member, -⟩ := content
  have hasLine : 1 ≤ (lines dump.toList).length :=
    List.length_pos_iff.2 (lines_ne_nil (List.ne_nil_of_mem member))
  rw [isIssue]
  exact .intro produced nodeless hasLine (by rwa [String.toList_ofList])

/-- If nothing but nodes is lacking, the issue is the evidence of it. -/
theorem Lacking.evident {dumpNeeded : Prop} (lacking : Lacking setup file dumpNeeded issue)
    (standard : setup.dumps.Standard) (rule : issue.rule = .inconclusiveDump) :
    dumpNeeded ∧ (∃ source, setup.files.readText file = .ok source) ∧
      Evident setup file issue := by
  cases lacking with
  | unreadable => cases rule
  | noDump => cases rule
  | nodeless needed readable produced nodeless =>
    exact ⟨needed, ⟨_, readable⟩,
      evident_of_hasContent produced nodeless (standard.hasContent produced)⟩

/-- An inconclusive dump is an error. -/
theorem severity_of_inconclusive (rule : issue.rule = .inconclusiveDump) :
    issue.severity = .error := by
  rw [Issue.severity, rule]

/-- Issues tell which of the dumps that were asked for have no nodes. -/
structure TellsNodeless (setup : Setup) (asked : Path → Prop) (issues : List Issue) : Prop where
  /-- Each issue of an inconclusive dump is the evidence of one that was asked for. -/
  evident : ∀ issue ∈ issues, issue.rule = .inconclusiveDump →
    ∃ file, asked file ∧ Evident setup file issue
  /-- No dump is passed over. -/
  complete : ∀ file dump, asked file → setup.dumps.dump file = .ok dump → Nodeless dump →
    ∃ issue ∈ issues, Evident setup file issue

/-! ## Validations -/

/-- A validation asks for the dump of its module, if the source can be read. -/
def ValidationAsks (setup : Setup) (path file : Path) : Prop :=
  file = path ∧ ∃ source, setup.files.readText path = .ok source

/-- A judgement raises warnings and a mismatch, none of which is an inconclusive dump. -/
theorem rule_ne_of_mem_judge {notes : List String} {listOnly : Bool}
    (member : issue ∈ (judge setup.config.qualifier path source (setup.scanOf path dump) notes
      listOnly).issues) : issue.rule ≠ .inconclusiveDump := by
  intro rule
  obtain ⟨warnings, areWarnings, issues⟩ :=
    exists_warnings_judge setup path source dump notes listOnly
  rw [issues] at member
  rcases List.mem_append.1 member with isWarning | isMismatch
  · cases (areWarnings issue isWarning).symm.trans (severity_of_inconclusive rule)
  · split at isMismatch
    · cases isMismatch
    · rw [List.mem_singleton.1 isMismatch] at rule
      cases rule

/-- **A validation tells whether the dump of its module has no nodes.** -/
theorem tellsNodeless_validateModule (standard : setup.dumps.Standard) (path : Path)
    (listOnly : Bool) :
    TellsNodeless setup (ValidationAsks setup path) (validateModule setup path listOnly).issues := by
  rcases validateModule_ends setup path listOnly with
    ⟨raised, lacking, -, issues⟩ | ⟨source, dump, notes, conclusive, judged⟩
  · rw [issues]
    refine ⟨fun issue member rule => ?_, ?_⟩
    · rw [List.mem_singleton.1 member] at rule ⊢
      obtain ⟨-, readable, evident⟩ := lacking.evident standard rule
      exact ⟨path, ⟨rfl, readable⟩, evident⟩
    · rintro file dump ⟨rfl, source, readable⟩ produced nodeless
      have isRaised := lacking.unique (.nodeless trivial readable produced nodeless)
      exact ⟨raised, List.mem_singleton_self raised,
        isRaised ▸ evident_of_hasContent produced nodeless (standard.hasContent produced)⟩
  · rw [judged]
    refine ⟨fun issue member rule => absurd rule (rule_ne_of_mem_judge member), ?_⟩
    rintro file dump' ⟨rfl, -⟩ produced nodeless
    cases produced.symm.trans conclusive.produced
    exact absurd conclusive.hasNode nodeless

/-! ## Measurements -/

/-- **Each inconclusive dump in the course of a measurement is one that it asks for.** -/
theorem Course.evident (standard : setup.dumps.Standard) {result : ModuleCoverage}
    (course : Course setup input options result) (member : issue ∈ result.issues)
    (rule : issue.rule = .inconclusiveDump) :
    ∃ file, Asks setup input options file ∧ Evident setup file issue := by
  have noWarning {found : Exports} : issue ∉ emptyWarnings input options found := fun isWarning =>
    severity_of_mem_emptyWarnings isWarning (severity_of_inconclusive rule)
  cases course with
  | skipped skips =>
    rw [List.mem_singleton.1 member] at rule
    cases rule
  | noExports goesOn failed =>
    rw [List.mem_singleton.1 member] at rule ⊢
    obtain ⟨fromDump, ⟨source, readable⟩, evident⟩ :=
      (lacking_of_exports failed).evident standard rule
    exact ⟨_, .moduleDump goesOn readable fromDump, evident⟩
  | noTest goesOn exports failed =>
    rw [List.mem_singleton.1 ((List.mem_append.1 member).resolve_left noWarning)] at rule ⊢
    obtain ⟨walks, ⟨source, readable⟩, evident⟩ := (lacking_of_testOf failed).evident standard rule
    exact ⟨_, .testDump goesOn exports readable walks, evident⟩
  | measured => exact absurd member noWarning

/-- **A dump without nodes that is asked for ends the measurement.** -/
theorem Asks.nodeless (asks : Asks setup input options file)
    (produced : setup.dumps.dump file = .ok dump) (nodeless : Nodeless dump) :
    ∃ result, measure setup input options = .ok result ∧
      ∃ others, result.issues = others ++ [inconclusiveIssue file dump] := by
  cases asks with
  | moduleDump goesOn readable fromDump =>
    exact exists_measure_of_module goesOn (.nodeless fromDump readable produced nodeless)
  | testDump goesOn exports readable walks =>
    exact exists_measure_of_test goesOn exports (.nodeless walks readable produced nodeless)

/-- **A measurement tells which of the dumps that it asks for have no nodes.** -/
theorem exists_tellsNodeless_measure (standard : setup.dumps.Standard) (input : ModuleInput)
    (options : CoverageOptions) :
    ∃ result, measure setup input options = .ok result ∧
      TellsNodeless setup (Asks setup input options) result.issues := by
  obtain ⟨result, measured, course⟩ := exists_course setup input options
  refine ⟨result, measured, fun issue => course.evident standard, ?_⟩
  intro file dump asks produced nodeless
  obtain ⟨result', measured', others, issues⟩ := asks.nodeless produced nodeless
  cases measured.symm.trans measured'
  refine ⟨inconclusiveIssue file dump, ?_,
    evident_of_hasContent produced nodeless (standard.hasContent produced)⟩
  rw [issues]
  exact List.mem_append_right others (List.mem_singleton_self _)

/-! ## Both sources, both analyses -/

/-- **An inconclusive dump always comes with evidence.**  A dump from the compiler or from a
directory has content.  Of the dumps that a validation or a measurement asks for, each that has
no nodes, and no other, has an issue, which counts its lines and shows the first that is not
blank. -/
theorem inconclusiveDump_evident (setup : Setup) (standard : setup.dumps.Standard) :
    (∀ file dump, setup.dumps.dump file = .ok dump → HasContent dump) ∧
      (∀ path listOnly, TellsNodeless setup (ValidationAsks setup path)
        (validateModule setup path listOnly).issues) ∧
      ∀ input options, ∃ result, measure setup input options = .ok result ∧
        TellsNodeless setup (Asks setup input options) result.issues :=
  ⟨fun _ _ produced => standard.hasContent produced, tellsNodeless_validateModule standard,
    exists_tellsNodeless_measure standard⟩

/-! ## A compiler that complains -/

/-- What a compiler prints in place of a dump.  Its second line consists of blanks, some of
which separate lines elsewhere. -/
def complaint : String :=
  "\n\x0c \u2028\u00a0\r\n\t1 error generated. \r\nstopped"

example : inconclusiveIssue ⟨"src/f.cppm"⟩ complaint =
    { path := "src/f.cppm", finding := .inconclusiveDump 4 (some "1 error generated.") } := by
  decide +kernel

/-- A project whose compiler complains, and is allowed to end with the exit code 1. -/
def complaining : Setup :=
  { oneModule with
    dumps := ofCompiler
      (fun _ _ _ => .ok { exitCode := some 1, output := complaint, errors := "" })
      { program := "clang++", args := [], timeoutMillis := 1000, allowedExitCodes := [0, 1] } }

/-- The module and its test. -/
def complainingInput : ModuleInput :=
  complaining.pair ⟨"src/f.cppm"⟩

theorem nodeless_complaint : Nodeless complaint := by
  rw [nodeless_iff_any]
  decide +kernel

theorem produced_complaint (file : Path) : complaining.dumps.dump file = .ok complaint :=
  CompilerSettings.dump_eq_ok_iff.2
    ⟨_, rfl, ⟨1, by decide, by decide⟩, rfl, hasContent_iff.2 (by decide +kernel)⟩

theorem asks_complaining :
    Asks complaining complainingInput ⟨.tree, .heuristic, false⟩ complainingInput.testPath := by
  have goesOn : ¬ Skips complaining complainingInput ⟨.tree, .heuristic, false⟩ := by simp [Skips]
  have exports : ExportsFound complaining complainingInput .heuristic
      { names := statementNames complaining.config.qualifier "using std::go;"
        catalog := []
        notes := [] } := rfl
  have readable : complaining.files.readText complainingInput.testPath =
      .ok "int x = std::go();" := by decide +kernel
  exact .testDump goesOn exports readable rfl

/-- The complaint is evidence for the module when it is validated, and for its test when that
is to be walked. -/
theorem inconclusiveDump_evident_complaint :
    complaining.dumps.Standard ∧ HasContent complaint ∧
      (∃ issue ∈ (validateModule complaining complainingInput.modulePath true).issues,
        issue.rule = .inconclusiveDump ∧
          Evident complaining complainingInput.modulePath issue) ∧
      ∃ result, measure complaining complainingInput ⟨.tree, .heuristic, false⟩ = .ok result ∧
        ∃ issue ∈ result.issues, issue.rule = .inconclusiveDump ∧
          Evident complaining complainingInput.testPath issue := by
  have standard : complaining.dumps.Standard := .compiler _ _
  obtain ⟨content, validated, measured⟩ := inconclusiveDump_evident complaining standard
  have isModule : ValidationAsks complaining complainingInput.modulePath
      complainingInput.modulePath := ⟨rfl, "using std::go;", rfl⟩
  obtain ⟨issue, raised, evident⟩ := (validated complainingInput.modulePath true).complete _ _
    isModule (produced_complaint _) nodeless_complaint
  obtain ⟨result, isResult, told⟩ := measured complainingInput ⟨.tree, .heuristic, false⟩
  obtain ⟨issue', raised', evident'⟩ :=
    told.complete _ _ asks_complaining (produced_complaint _) nodeless_complaint
  exact ⟨standard, content ⟨"src/f.cppm"⟩ complaint (produced_complaint _),
    ⟨issue, raised, evident.rule, evident⟩, result, isResult, issue', raised', evident'.rule,
    evident'⟩

end ExportAudit.Analysis
