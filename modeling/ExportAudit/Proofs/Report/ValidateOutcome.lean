import ExportAudit.Proofs.Analysis.Verdict
import ExportAudit.Proofs.Report.FailureLine

/-!
# The outcome of a validation

The exit status of a validation is computed from the severities of its issues, and what
it prints from the verdicts on its modules.  The two are set apart from each other, **and
they agree**: every module that did not pass has one error, every other module has none,
and so the errors of a validation are as many as its failures.
-/

namespace ExportAudit.Report

set_option autoImplicit false

open ExportAudit.Analysis ExportAudit.Text

/-- The lines of the text report of a validation. -/
def reportLines (width : Width) (style : OutputStyle) (summary : ValidateSummary)
    (outcome : Outcome) : List String :=
  validateLines width style summary ++ problemLines style outcome

/-- The results of a validation and its outcome agree. -/
structure OutcomeAgrees (modules : List Path) (summary : ValidateSummary) (outcome : Outcome) :
    Prop where
  /-- There is one result for each path, in order. -/
  paths : summary.modules.map (·.path) = modules
  failure_iff_error : ∀ result ∈ summary.modules, result.isFailure = true ↔
    ∃ issue ∈ result.issues, issue.severity = .error
  one_error : ∀ result ∈ summary.modules, result.isFailure = true →
    result.issues.countP (·.severity == .error) = 1
  errorCount_eq : outcome.errorCount = summary.failedCount
  exitStatus_iff : outcome.exitStatus = .failure ↔ 0 < summary.failedCount
  output_eq : ∀ width style, style.format = .text →
    (outcome.print width style).output = ofLines (reportLines width style summary outcome)
  /-- The line of failure, whatever it counts, is printed only on failure. -/
  failureLine_iff : ∀ width style,
    (∃ failed count, failureLine style failed count ∈ reportLines width style summary outcome) ↔
      outcome.exitStatus = .failure
  /-- On failure it counts the failures, and only the count of problems follows it. -/
  failureLine_suffix : ∀ width style, outcome.exitStatus = .failure →
    ["", failureLine style summary.failedCount modules.length] <:+
      validateLines width style summary

/-- The summary of a validation. -/
def validateSummary (setup : Setup) (modules : List Path) (listOnly : Bool) : ValidateSummary :=
  { modules := validateModules setup modules listOnly, listOnly }

variable {setup : Setup} {modules : List Path} {listOnly : Bool}

theorem validateModules_paths :
    (validateModules setup modules listOnly).map (·.path) = modules := by
  rw [validateModules, List.map_map]
  exact List.map_id'' (fun path => validateModule_path setup path listOnly) modules

/-- What holds of every validation holds of each result. -/
theorem forall_mem_validateModules {property : ModuleValidation → Prop}
    (each : ∀ path, property (validateModule setup path listOnly)) :
    ∀ result ∈ validateModules setup modules listOnly, property result := by
  intro result member
  obtain ⟨path, -, rfl⟩ := List.mem_map.1 member
  exact each path

/-- **The errors of a validation are as many as its failures.** -/
theorem countP_error_validateModules :
    ((validateModules setup modules listOnly).flatMap (·.issues)).countP (·.severity == .error) =
      (validateModules setup modules listOnly).countP (·.isFailure) := by
  induction modules with
  | nil => rfl
  | cons path modules ih =>
    rw [validateModules, List.map_cons, List.flatMap_cons, List.countP_append,
      List.countP_cons, countP_error_validateModule, Nat.add_comm]
    exact congrArg (· + _) ih

theorem errorCount_finish_validate :
    (finish (.validate (validateSummary setup modules listOnly)) true).errorCount =
      (validateSummary setup modules listOnly).failedCount :=
  countP_error_validateModules

theorem exitStatus_finish_validate :
    (finish (.validate (validateSummary setup modules listOnly)) true).exitStatus = .failure ↔
      0 < (validateSummary setup modules listOnly).failedCount := by
  rw [Outcome.exitStatus, errorCount_finish_validate]
  simp [finish]

/-- **Every validation and its outcome agree.** -/
theorem outcomeAgrees_validate (setup : Setup) (modules : List Path) (listOnly : Bool) :
    OutcomeAgrees modules (validateSummary setup modules listOnly)
      (finish (.validate (validateSummary setup modules listOnly)) true) := by
  have length : (validateSummary setup modules listOnly).modules.length = modules.length :=
    List.length_map _
  refine ⟨validateModules_paths, ?_, ?_, errorCount_finish_validate, exitStatus_finish_validate,
    ?_, ?_, ?_⟩
  · refine forall_mem_validateModules fun path => ?_
    exact isFailure_validateModule_iff setup path listOnly
  · refine forall_mem_validateModules fun path failure => ?_
    rw [countP_error_validateModule, if_pos failure]
  · intro width style text
    simp [Outcome.print, printReport, finish, text, reportLines]
  · intro width style
    rw [exitStatus_finish_validate]
    constructor
    · rintro ⟨failed, count, member⟩
      rcases List.mem_append.1 member with member | member
      · exact failedCount_pos_of_mem_validateLines member
      · have ends := endsOtherwise_of_mem_problemLines member
        exact absurd rfl (ne_failureLine_of_endsOtherwise ends failed count)
    · intro someFailed
      have suffix := failureLine_suffix_validateLines width style someFailed
      exact ⟨_, _, List.mem_append_left _ (suffix.mem (List.mem_cons_of_mem _ List.mem_cons_self))⟩
  · intro width style failure
    have someFailed := exitStatus_finish_validate.1 failure
    rw [← length]
    exact failureLine_suffix_validateLines width style someFailed

end ExportAudit.Report
