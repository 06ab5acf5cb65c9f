import ExportAudit.Proofs.Analysis.Measurement
import Mathlib.Algebra.GroupWithZero.Nat
import Mathlib.Algebra.Order.BigOperators.Group.List
import Mathlib.Algebra.Order.Group.Nat
import Mathlib.Data.List.Forall2

/-!
# The account of a measurement

A run over some modules has one result for each of them, in their order, whatever is wrong
with any of them.  What became of a module is told twice, by the status of its result and by
its issues, **and the two agree**: a module that is measured has a report and no error, a
module that failed has no report and ends in its one error, and a module that is skipped has
one warning.

The totals of a run count each module once, and they add up the reports of the modules that
were measured.
-/

namespace ExportAudit.Analysis

set_option autoImplicit false

open ExportAudit.Dump ExportAudit.Export ExportAudit.Source ExportAudit.Usage

variable {setup : Setup} {input : ModuleInput} {options : CoverageOptions}

/-! ## Setbacks -/

/-- Two steps fail if the first does, or if the second does on what the first has found. -/
theorem bind_eq_error_iff {ε α β : Type} {first : Except ε α} {next : α → Except ε β} {error : ε} :
    first >>= next = .error error ↔
      first = .error error ∨ ∃ value, first = .ok value ∧ next value = .error error := by
  cases first with
  | error lacking => simp [bind, Except.bind]
  | ok value => simp [bind, Except.bind]

/-- A setback that is an error. -/
def Setback.Fatal (setback : Setback) : Prop :=
  FailureFinding setback.issue.finding

theorem Setback.Fatal.severity_eq {setback : Setback} (fatal : setback.Fatal) :
    setback.issue.severity = .error :=
  FailureFinding.severity_eq fatal setback.issue.path

variable {path : Path} {notes : List String} {setback : Setback}

theorem lacking_of_sourceOf (failed : sourceOf setup path notes = .error setback)
    (dumpNeeded : Prop) : Lacking setup path dumpNeeded setback.issue := by
  rw [sourceOf] at failed
  split at failed
  · cases failed
  · next unreadable =>
    cases failed
    exact .unreadable unreadable

theorem readable_of_sourceOf {source : String} (found : sourceOf setup path notes = .ok source) :
    setup.files.readText path = .ok source := by
  rw [sourceOf] at found
  split at found
  · next readable =>
    cases found
    exact readable
  · cases found

theorem lacking_of_dumpOf {dumpNeeded : Prop} {source : String} (needed : dumpNeeded)
    (readable : setup.files.readText path = .ok source)
    (failed : dumpOf setup path notes = .error setback) :
    Lacking setup path dumpNeeded setback.issue := by
  rw [dumpOf] at failed
  split at failed
  · cases failed
  · next fails =>
    cases failed
    exact .noDump needed readable fails

theorem produced_of_dumpOf {dump : String} {noted : List String}
    (found : dumpOf setup path notes = .ok (dump, noted)) : setup.dumps.dump path = .ok dump := by
  rw [dumpOf] at found
  split at found
  · next produced =>
    cases found
    exact produced
  · cases found

theorem nodeless_iff_any {dump : String} :
    Nodeless dump ↔ ¬ (parseDump dump).any Line.isNode = true := by
  rw [Nodeless, List.any_eq_true]

/-- **What keeps the exports from being found is lacking of the module**, and its dump is needed
only if the exports come from there. -/
theorem lacking_of_exports {place : ExportsSource}
    (failed : sourceOf setup input.modulePath [] >>= exportsOf setup input place =
      .error setback) : Lacking setup input.modulePath (place = .dump) setback.issue := by
  rcases bind_eq_error_iff.1 failed with unreadable | ⟨source, found, failed⟩
  · exact lacking_of_sourceOf unreadable _
  cases place with
  | heuristic => cases failed
  | dump =>
    rcases bind_eq_error_iff.1 failed with noDump | ⟨⟨dump, noted⟩, hasDump, failed⟩
    · exact lacking_of_dumpOf rfl (readable_of_sourceOf found) noDump
    dsimp only at failed
    split at failed
    · next inconclusive =>
      cases failed
      exact .nodeless rfl (readable_of_sourceOf found) (produced_of_dumpOf hasDump)
        ((isInconclusive_scanExports_iff dump _).1 inconclusive)
    · cases failed

/-- **What keeps the test from being made ready is lacking of the test**, and its dump is needed
only if it is to be walked. -/
theorem lacking_of_testOf {strategy : UsageStrategy}
    (failed : testOf setup input strategy notes = .error setback) :
    Lacking setup input.testPath (strategy = .tree) setback.issue := by
  rcases bind_eq_error_iff.1 failed with unreadable | ⟨source, found, failed⟩
  · exact lacking_of_sourceOf unreadable _
  rcases bind_eq_error_iff.1 failed with failed | ⟨ready, -, made⟩
  · cases strategy with
    | fast => cases failed
    | tree =>
      rcases bind_eq_error_iff.1 failed with noDump | ⟨⟨dump, noted⟩, hasDump, failed⟩
      · exact lacking_of_dumpOf rfl (readable_of_sourceOf found) noDump
      dsimp only at failed
      split at failed
      · cases failed
      · next noNode =>
        cases failed
        exact .nodeless rfl (readable_of_sourceOf found) (produced_of_dumpOf hasDump)
          (nodeless_iff_any.2 noNode)
  · cases made

/-- What is lacking of the module keeps the exports from being found. -/
theorem exists_setback_of_module {place : ExportsSource} {issue : Issue}
    (lacking : Lacking setup input.modulePath (place = .dump) issue) :
    ∃ setback, sourceOf setup input.modulePath [] >>= exportsOf setup input place =
      .error setback ∧ setback.issue = issue := by
  rw [sourceOf]
  cases lacking with
  | unreadable unreadable =>
    rw [unreadable]
    exact ⟨_, rfl, rfl⟩
  | @noDump source failure needed readable fails =>
    rw [readable, needed]
    change ∃ setback, exportsOf setup input .dump source = _ ∧ _
    rw [exportsOf, dumpOf, fails]
    exact ⟨_, rfl, rfl⟩
  | @nodeless source dump needed readable produced nodeless =>
    have inconclusive := (isInconclusive_scanExports_iff dump (setup.scanOptions input.name)).2
      nodeless
    rw [readable, needed]
    change ∃ setback, exportsOf setup input .dump source = _ ∧ _
    rw [exportsOf, dumpOf, produced]
    exact ⟨_, if_pos inconclusive, rfl⟩

/-- What is lacking of the test keeps it from being made ready. -/
theorem exists_setback_of_test {strategy : UsageStrategy} {issue : Issue}
    (lacking : Lacking setup input.testPath (strategy = .tree) issue) (notes : List String) :
    ∃ setback, testOf setup input strategy notes = .error setback ∧ setback.issue = issue := by
  have needsDump : (setup.locator .tree).needsDump = true := rfl
  rw [testOf, sourceOf]
  cases lacking with
  | unreadable unreadable =>
    rw [unreadable]
    exact ⟨_, rfl, rfl⟩
  | noDump needed readable fails =>
    rw [readable, needed, testDumpOf, if_pos needsDump, dumpOf, fails]
    exact ⟨_, rfl, rfl⟩
  | @nodeless source dump needed readable produced nodeless =>
    have noNode : ¬ (parseDump dump).any Line.isNode = true := nodeless_iff_any.1 nodeless
    have failed : testDumpOf setup input (setup.locator .tree) notes =
        .error { issue := inconclusiveIssue input.testPath dump
                 notes := notes ++ [setup.dumps.describe input.testPath] } := by
      rw [testDumpOf, if_pos needsDump, dumpOf, produced]
      exact if_neg noNode
    rw [readable, needed, failed]
    exact ⟨_, rfl, rfl⟩

/-- Whatever keeps the exports from being found is an error. -/
theorem fatal_of_exports {place : ExportsSource}
    (failed : sourceOf setup input.modulePath [] >>= exportsOf setup input place =
      .error setback) : setback.Fatal :=
  (lacking_of_exports failed).failure

/-- Whatever keeps the test from being made ready is an error. -/
theorem fatal_of_testOf {strategy : UsageStrategy}
    (failed : testOf setup input strategy notes = .error setback) : setback.Fatal :=
  (lacking_of_testOf failed).failure

/-! ## One module -/

/-- The status of a result and the rest of it agree. -/
structure Accounted (setup : Setup) (options : CoverageOptions) (input : ModuleInput)
    (result : ModuleCoverage) : Prop where
  /-- The result is about the module and its test. -/
  subject : result.moduleName = input.name ∧ result.path = input.modulePath ∧
    result.testPath = input.testPath
  report_iff : result.report.isSome = true ↔ result.status = .measured
  used_le : ∀ report ∈ result.report, report.used ≤ report.total
  measured : result.status = .measured → ∀ issue ∈ result.issues, issue.severity ≠ .error
  /-- A failure ends in its one error. -/
  failed : result.status = .failed → ∃ others error, result.issues = others ++ [error] ∧
    error.severity = .error ∧ ∀ issue ∈ others, issue.severity ≠ .error
  skipped_iff : result.status = .skipped ↔
    setup.files.isFile input.testPath = false ∧ options.skipMissingTests = true
  skipped : result.status = .skipped → ∃ warning, result.issues = [warning] ∧
    warning.severity = .warning ∧ warning.path = input.modulePath.text ∧
    warning.finding = .noTestFile input.testPath.text

theorem severity_of_mem_emptyWarnings {found : Exports} {issue : Issue}
    (member : issue ∈ emptyWarnings input options found) : issue.severity ≠ .error := by
  rw [emptyWarnings] at member
  split at member
  · rw [List.mem_singleton.1 member]
    exact Severity.noConfusion
  · cases member

theorem CoverageReport.used_le_total (usages : UsageMap) (catalog : List Symbol) :
    (CoverageReport.ofUsages usages catalog).used ≤
      (CoverageReport.ofUsages usages catalog).total :=
  List.countP_le_length

/-- **What a measurement goes through accounts for its result.** -/
theorem Course.accounted {result : ModuleCoverage} (course : Course setup input options result) :
    Accounted setup options input result := by
  cases course with
  | skipped skips =>
    exact
      { subject := ⟨rfl, rfl, rfl⟩
        report_iff := by simp [resultFor]
        used_le := by simp [resultFor]
        measured := by simp [resultFor]
        failed := by simp [resultFor]
        skipped_iff := iff_of_true rfl skips
        skipped := fun _ => ⟨missingTest input, rfl, rfl, rfl, rfl⟩ }
  | noExports goesOn lacking =>
    exact
      { subject := ⟨rfl, rfl, rfl⟩
        report_iff := by simp [resultFor]
        used_le := by simp [resultFor]
        measured := by simp [resultFor]
        failed := fun _ => ⟨[], _, rfl, (fatal_of_exports lacking).severity_eq, by simp⟩
        skipped_iff := iff_of_false CoverageStatus.noConfusion goesOn
        skipped := by simp [resultFor] }
  | noTest goesOn exports lacking =>
    exact
      { subject := ⟨rfl, rfl, rfl⟩
        report_iff := by simp [resultFor]
        used_le := by simp [resultFor]
        measured := by simp [resultFor]
        failed := fun _ => ⟨_, _, rfl, (fatal_of_testOf lacking).severity_eq,
          fun _ => severity_of_mem_emptyWarnings⟩
        skipped_iff := iff_of_false CoverageStatus.noConfusion goesOn
        skipped := by simp [resultFor] }
  | measured goesOn exports prepared located =>
    exact
      { subject := ⟨rfl, rfl, rfl⟩
        report_iff := by simp [resultFor]
        used_le := by
          intro report isReport
          rw [← Option.some.inj isReport]
          exact CoverageReport.used_le_total _ _
        measured := fun _ _ => severity_of_mem_emptyWarnings
        failed := by simp [resultFor]
        skipped_iff := iff_of_false CoverageStatus.noConfusion goesOn
        skipped := by simp [resultFor] }

/-! ## Totals -/

/-- Totals add up some results, one for each input. -/
structure AddsUp (inputs : List ModuleInput) (results : List ModuleCoverage)
    (totals : CoverageTotals) : Prop where
  measured : totals.measured = results.countP (·.status == .measured)
  skipped : totals.skipped = results.countP (·.status == .skipped)
  failed : totals.failed = results.countP (·.status == .failed)
  /-- Every input is counted once. -/
  complete : totals.measured + totals.skipped + totals.failed = inputs.length
  /-- The sums are over the reports of the modules that were measured. -/
  sums : ∃ reports : List CoverageReport,
    (results.filter (·.status == .measured)).map (·.report) = reports.map some ∧
      totals.used = (reports.map (·.used)).sum ∧ totals.total = (reports.map (·.total)).sum
  used_le_total : totals.used ≤ totals.total

/-- **Each module is counted by its one status.** -/
theorem countP_status (results : List ModuleCoverage) :
    results.countP (·.status == .measured) + results.countP (·.status == .skipped) +
      results.countP (·.status == .failed) = results.length := by
  induction results with
  | nil => rfl
  | cons result results ih =>
    simp only [List.countP_cons, List.length_cons]
    cases result.status <;> simp <;> omega

/-- The reports are those of the modules that were measured. -/
theorem map_report_filter_measured {results : List ModuleCoverage}
    (agree : ∀ result ∈ results, result.report.isSome = true ↔ result.status = .measured) :
    (results.filter (·.status == .measured)).map (·.report) =
      (results.filterMap (·.report)).map some := by
  induction results with
  | nil => rfl
  | cons result results ih =>
    have here := agree result List.mem_cons_self
    have later := ih fun other member => agree other (List.mem_cons_of_mem _ member)
    cases isReport : result.report with
    | none =>
      have notMeasured : ¬ result.status = .measured := fun measured => by
        simp [isReport] at here
        exact here measured
      rw [List.filter_cons_of_neg (by simpa using notMeasured),
        List.filterMap_cons_none isReport, later]
    | some report =>
      have measured : result.status = .measured := here.1 (by rw [isReport]; rfl)
      rw [List.filter_cons_of_pos (by simp [measured]), List.filterMap_cons_some isReport,
        List.map_cons, List.map_cons, isReport, later]

/-- What is on the right of some related lists is related to something on the left. -/
theorem exists_left_of_mem_right {α β : Type} {relation : α → β → Prop} {items : List α}
    {values : List β} (related : List.Forall₂ relation items values) :
    ∀ value ∈ values, ∃ item, relation item value := by
  induction related with
  | nil => intro value member; cases member
  | cons here _ ih =>
    intro value member
    rcases List.mem_cons.1 member with rfl | member
    · exact ⟨_, here⟩
    · exact ih value member

/-- **Results that are accounted for add up.** -/
theorem addsUp_ofModules {inputs : List ModuleInput} {results : List ModuleCoverage}
    (accounted : List.Forall₂ (Accounted setup options) inputs results) :
    AddsUp inputs results (.ofModules results) := by
  have each := exists_left_of_mem_right accounted
  have reports : (results.filter (·.status == .measured)).map (·.report) =
      (results.filterMap (·.report)).map some := by
    refine map_report_filter_measured fun result member => ?_
    obtain ⟨input, agrees⟩ := each result member
    exact agrees.report_iff
  have used_le : ∀ report ∈ results.filterMap (·.report), report.used ≤ report.total := by
    intro report member
    obtain ⟨result, isResult, isReport⟩ := List.mem_filterMap.1 member
    obtain ⟨input, agrees⟩ := each result isResult
    exact agrees.used_le report isReport
  exact
    { measured := rfl
      skipped := rfl
      failed := rfl
      complete := (countP_status results).trans accounted.length_eq.symm
      sums := ⟨_, reports, rfl, rfl⟩
      used_le_total := List.sum_le_sum used_le }

/-! ## A run -/

/-- A function that has a value for every item has the values of a list of items. -/
theorem exists_mapM_ok {α β ε : Type} {f : α → Except ε β} {relation : α → β → Prop}
    (each : ∀ item, ∃ value, f item = .ok value ∧ relation item value) (items : List α) :
    ∃ values, items.mapM f = .ok values ∧
      List.Forall₂ (fun item value => f item = .ok value ∧ relation item value) items values := by
  induction items with
  | nil => exact ⟨[], rfl, .nil⟩
  | cons item items ih =>
    obtain ⟨value, found, related⟩ := each item
    obtain ⟨values, rest, allRelated⟩ := ih
    refine ⟨value :: values, ?_, .cons ⟨found, related⟩ allRelated⟩
    rw [List.mapM_cons, found, rest]
    rfl

/-- **A run always ends with one result for each module, in order, every result is accounted
for, and the totals add the results up.** -/
theorem measureAll_accounted (setup : Setup) (inputs : List ModuleInput)
    (options : CoverageOptions) :
    ∃ results, measureAll setup inputs options = .ok results ∧
      List.Forall₂ (fun input result =>
        measure setup input options = .ok result ∧ Accounted setup options input result)
        inputs results ∧
      AddsUp inputs results (.ofModules results) := by
  have each (input : ModuleInput) : ∃ result, measure setup input options = .ok result ∧
      Accounted setup options input result := by
    obtain ⟨result, measured, course⟩ := exists_course setup input options
    exact ⟨result, measured, course.accounted⟩
  obtain ⟨results, run, related⟩ := exists_mapM_ok each inputs
  exact ⟨results, run, related, addsUp_ofModules (related.imp fun _ _ both => both.2)⟩

end ExportAudit.Analysis
