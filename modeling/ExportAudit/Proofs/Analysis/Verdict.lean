import ExportAudit.Analysis.Validation
import ExportAudit.Proofs.Export.ScanCatalog

/-!
# The verdict of a validation

A validation has two ways to end.  If the source cannot be read, the dump is not to be
had, or the dump has no nodes, the module has failed, and its result holds one issue and
nothing else.  Otherwise it is judged, and then the verdict says exactly what the two sets
of names say: it has passed if they agree, and it is a mismatch, **with the two
differences in its one issue**, if they do not.

That the sets are compared by their members rests on two facts: a set built from a list
holds the names of the list, and a catalog lists each name once.
-/

namespace ExportAudit

set_option autoImplicit false

namespace Analysis

open ExportAudit.Dump ExportAudit.Export ExportAudit.Source

/-! ## What a verdict depends on -/

/-- The source of a module can be read, and its dump is produced and has a node. -/
structure Conclusive (setup : Setup) (path : Path) (source dump : String) : Prop where
  readable : setup.files.readText path = .ok source
  produced : setup.dumps.dump path = .ok dump
  hasNode : ∃ node ∈ parseDump dump, node.isNode = true

/-- The scan of a module's dump. -/
def Setup.scanOf (setup : Setup) (path : Path) (dump : String) : ExportScan :=
  scanExports dump (setup.scanOptions (moduleName path))

/-- The catalog of a module's dump has a name. -/
def Cataloged (setup : Setup) (path : Path) (dump name : String) : Prop :=
  ∃ symbol ∈ (setup.scanOf path dump).symbols, symbol.name = name

/-- The source of a module states the export of a name. -/
def Stated (setup : Setup) (source name : String) : Prop :=
  name ∈ statementNames setup.config.qualifier source

/-- The dump and the source of a module export the same names. -/
def SameExports (setup : Setup) (path : Path) (source dump : String) : Prop :=
  ∀ name, Cataloged setup path dump name ↔ Stated setup source name

/-- Two lists are the differences between the exports of a dump and those of a source. -/
structure Differences (setup : Setup) (path : Path) (source dump : String)
    (onlyDump onlyHeuristic : List String) : Prop where
  mem_onlyDump : ∀ name, name ∈ onlyDump ↔
    Cataloged setup path dump name ∧ ¬ Stated setup source name
  mem_onlyHeuristic : ∀ name, name ∈ onlyHeuristic ↔
    Stated setup source name ∧ ¬ Cataloged setup path dump name
  increasing_onlyDump : onlyDump.Pairwise (· < ·)
  increasing_onlyHeuristic : onlyHeuristic.Pairwise (· < ·)
  disjoint : ∀ name ∈ onlyDump, name ∉ onlyHeuristic
  notBothEmpty : ¬ (onlyDump = [] ∧ onlyHeuristic = [])

/-- A result is the one that the files and the dumps call for. -/
structure IsVerdict (setup : Setup) (path : Path) (listOnly : Bool) (result : ModuleValidation) :
    Prop where
  passed_iff : result.status = .passed ↔ listOnly = false ∧
    ∃ source dump, Conclusive setup path source dump ∧ SameExports setup path source dump
  mismatch_iff : result.status = .mismatch ↔ listOnly = false ∧
    ∃ source dump, Conclusive setup path source dump ∧ ¬ SameExports setup path source dump
  /-- A mismatch has one issue of its kind, which lists the two differences. -/
  mismatch_issue : result.status = .mismatch →
    ∃ source dump onlyDump onlyHeuristic, Conclusive setup path source dump ∧
      result.issues.filter (·.rule == .mismatch) =
        [{ path := path.text, finding := .mismatch onlyDump onlyHeuristic }] ∧
      Differences setup path source dump onlyDump onlyHeuristic
  listed_iff : result.status = .listed ↔ listOnly = true ∧
    ∃ source dump, Conclusive setup path source dump
  failed_iff : result.status = .failed ↔ ¬ ∃ source dump, Conclusive setup path source dump
  /-- A module that has failed leaves nothing but its issue. -/
  failed_empty : result.status = .failed →
    result.symbols = [] ∧ result.heuristic = none ∧ result.reconciliation = none
  heuristic_iff : result.heuristic.isSome ↔ result.status = .passed ∨ result.status = .mismatch
  reconciliation_iff : result.reconciliation.isSome ↔
    result.status = .passed ∨ result.status = .mismatch

variable {setup : Setup} {path : Path} {source dump : String}

theorem Conclusive.unique {source' dump' : String}
    (first : Conclusive setup path source dump) (second : Conclusive setup path source' dump') :
    source = source' ∧ dump = dump' :=
  ⟨Except.ok.inj (first.readable.symm.trans second.readable),
    Except.ok.inj (first.produced.symm.trans second.produced)⟩

/-- A scan is inconclusive if the dump has no nodes, whatever it was scanned for. -/
theorem isInconclusive_scanExports_iff (dump : String) (options : ScanOptions) :
    (scanExports dump options).isInconclusive = true ↔
      ¬ ∃ node ∈ parseDump dump, node.isNode = true := by
  have catalog := isCatalog_scanExports dump options
  simp [ExportScan.isInconclusive, catalog.nodeLines, List.countP_eq_zero]

theorem Setup.isInconclusive_scanOf_iff :
    (setup.scanOf path dump).isInconclusive = true ↔
      ¬ ∃ node ∈ parseDump dump, node.isNode = true :=
  isInconclusive_scanExports_iff dump _

theorem mem_names_scanOf_iff {name : String} :
    name ∈ (setup.scanOf path dump).names ↔ Cataloged setup path dump name :=
  ExportScan.mem_names_iff

/-- The comparison that a judgement makes. -/
def Setup.comparison (setup : Setup) (path : Path) (source dump : String) : Reconciliation :=
  .compare (setup.scanOf path dump).names (statementNames setup.config.qualifier source)

/-- The issue that lists what the comparison leaves over. -/
def Setup.mismatchOf (setup : Setup) (path : Path) (source dump : String) : Issue :=
  { path := path.text
    finding := .mismatch (setup.comparison path source dump).onlyAuthoritative.toList
      (setup.comparison path source dump).onlyHeuristic.toList }

theorem Setup.isExact_comparison_iff :
    (setup.comparison path source dump).isExact = true ↔ SameExports setup path source dump := by
  simp only [comparison, Reconciliation.isExact_compare_iff, mem_names_scanOf_iff]
  rfl

/-- **The remainders of an inexact comparison are the differences.** -/
theorem differences_comparison (notSame : ¬ SameExports setup path source dump) :
    Differences setup path source dump
      (setup.comparison path source dump).onlyAuthoritative.toList
      (setup.comparison path source dump).onlyHeuristic.toList := by
  have onlyDump : ∀ name, name ∈ (setup.comparison path source dump).onlyAuthoritative.toList ↔
      Cataloged setup path dump name ∧ ¬ Stated setup source name := by
    intro name
    rw [NameSet.mem_toList, Setup.comparison, Reconciliation.compare, NameSet.mem_diff,
      mem_names_scanOf_iff]
    rfl
  have onlyHeuristic : ∀ name, name ∈ (setup.comparison path source dump).onlyHeuristic.toList ↔
      Stated setup source name ∧ ¬ Cataloged setup path dump name := by
    intro name
    rw [NameSet.mem_toList, Setup.comparison, Reconciliation.compare, NameSet.mem_diff,
      mem_names_scanOf_iff]
    rfl
  refine ⟨onlyDump, onlyHeuristic, NameSet.increasing _, NameSet.increasing _, ?_, ?_⟩
  · intro name inDump inHeuristic
    exact ((onlyHeuristic name).1 inHeuristic).2 ((onlyDump name).1 inDump).1
  · rintro ⟨noneLeft, noneRight⟩
    refine notSame (Setup.isExact_comparison_iff.1 ?_)
    simp [Reconciliation.isExact, NameSet.isEmpty, noneLeft, noneRight]

/-! ## The two ways to end -/

/-- What a failure finds: a missing file, a missing dump, or a dump without nodes. -/
inductive FailureFinding : Finding → Prop where
  | fileNotFound (reason : String) : FailureFinding (.fileNotFound reason)
  | toolFailure (failure : ToolFailure) : FailureFinding (.toolFailure failure)
  | inconclusiveDump (lineCount : Nat) (firstLine : Option String) :
      FailureFinding (.inconclusiveDump lineCount firstLine)

/-- A result of a module that has failed. -/
structure IsFailed (path : Path) (result : ModuleValidation) : Prop where
  status : result.status = .failed
  symbols : result.symbols = []
  heuristic : result.heuristic = none
  reconciliation : result.reconciliation = none
  issues : ∃ finding, FailureFinding finding ∧ result.issues = [{ path := path.text, finding }]

/-- No line of a dump is a node. -/
def Nodeless (dump : String) : Prop :=
  ¬ ∃ node ∈ parseDump dump, node.isNode = true

/-- What an analysis lacks of a file, with the issue that says so: the file cannot be read, or
its dump is needed and is not to be had or has no nodes. -/
inductive Lacking (setup : Setup) (file : Path) (dumpNeeded : Prop) : Issue → Prop where
  | unreadable {error : FileError} (unreadable : setup.files.readText file = .error error) :
      Lacking setup file dumpNeeded
        { path := file.text, finding := .fileNotFound error.message }
  | noDump {source : String} {failure : ToolFailure} (needed : dumpNeeded)
      (readable : setup.files.readText file = .ok source)
      (fails : setup.dumps.dump file = .error failure) :
      Lacking setup file dumpNeeded { path := file.text, finding := .toolFailure failure }
  | nodeless {source dump : String} (needed : dumpNeeded)
      (readable : setup.files.readText file = .ok source)
      (produced : setup.dumps.dump file = .ok dump) (nodeless : Nodeless dump) :
      Lacking setup file dumpNeeded (inconclusiveIssue file dump)

theorem Lacking.failure {dumpNeeded : Prop} {issue : Issue}
    (lacking : Lacking setup path dumpNeeded issue) : FailureFinding issue.finding := by
  cases lacking with
  | unreadable => exact .fileNotFound _
  | noDump => exact .toolFailure _
  | nodeless => exact .inconclusiveDump _ _

/-- A module that lacks something is not conclusive. -/
theorem Lacking.not_conclusive {dumpNeeded : Prop} {issue : Issue}
    (lacking : Lacking setup path dumpNeeded issue) :
    ¬ ∃ source dump, Conclusive setup path source dump := by
  rintro ⟨source, dump, conclusive⟩
  cases lacking with
  | unreadable unreadable => cases unreadable.symm.trans conclusive.readable
  | noDump _ _ fails => cases fails.symm.trans conclusive.produced
  | nodeless _ _ produced nodeless =>
    cases produced.symm.trans conclusive.produced
    exact nodeless conclusive.hasNode

/-- One thing at most is lacking of a file. -/
theorem Lacking.unique {dumpNeeded : Prop} {issue issue' : Issue}
    (first : Lacking setup path dumpNeeded issue) (second : Lacking setup path dumpNeeded issue') :
    issue = issue' := by
  cases first with
  | unreadable unreadable =>
    cases second with
    | unreadable unreadable' =>
      cases unreadable.symm.trans unreadable'
      rfl
    | noDump _ readable => cases unreadable.symm.trans readable
    | nodeless _ readable => cases unreadable.symm.trans readable
  | noDump _ readable fails =>
    cases second with
    | unreadable unreadable => cases unreadable.symm.trans readable
    | noDump _ _ fails' =>
      cases fails.symm.trans fails'
      rfl
    | nodeless _ _ produced => cases fails.symm.trans produced
  | nodeless _ readable produced =>
    cases second with
    | unreadable unreadable => cases unreadable.symm.trans readable
    | noDump _ _ fails => cases fails.symm.trans produced
    | nodeless _ _ produced' =>
      cases produced.symm.trans produced'
      rfl

/-- **A validation lacks something, and then the issue that says so is its only one, or it
judges a conclusive dump.** -/
theorem validateModule_ends (setup : Setup) (path : Path) (listOnly : Bool) :
    (∃ issue, Lacking setup path True issue ∧
        IsFailed path (validateModule setup path listOnly) ∧
        (validateModule setup path listOnly).issues = [issue]) ∨
      ∃ source dump notes, Conclusive setup path source dump ∧
        validateModule setup path listOnly =
          judge setup.config.qualifier path source (setup.scanOf path dump) notes listOnly := by
  rw [validateModule]
  cases readable : setup.files.readText path with
  | error error =>
    have lacking : Lacking setup path True _ := .unreadable readable
    exact .inl ⟨_, lacking, ⟨rfl, rfl, rfl, rfl, _, lacking.failure, rfl⟩, rfl⟩
  | ok source =>
    cases produced : setup.dumps.dump path with
    | error failure =>
      have lacking : Lacking setup path True _ := .noDump trivial readable produced
      exact .inl ⟨_, lacking, ⟨rfl, rfl, rfl, rfl, _, lacking.failure, rfl⟩, rfl⟩
    | ok dump =>
      simp only
      split
      · next inconclusive =>
        have lacking : Lacking setup path True _ := .nodeless trivial readable produced
          (Setup.isInconclusive_scanOf_iff.1 inconclusive)
        exact .inl ⟨_, lacking, ⟨rfl, rfl, rfl, rfl, _, lacking.failure, rfl⟩, rfl⟩
      · next conclusive =>
        refine .inr ⟨source, dump, _, ⟨readable, produced, ?_⟩, rfl⟩
        exact Classical.byContradiction fun none =>
          conclusive (Setup.isInconclusive_scanOf_iff.2 none)

/-- **A validation fails, or it judges a conclusive dump.** -/
theorem validateModule_cases (setup : Setup) (path : Path) (listOnly : Bool) :
    ((¬ ∃ source dump, Conclusive setup path source dump) ∧
        IsFailed path (validateModule setup path listOnly)) ∨
      ∃ source dump notes, Conclusive setup path source dump ∧
        validateModule setup path listOnly =
          judge setup.config.qualifier path source (setup.scanOf path dump) notes listOnly := by
  rcases validateModule_ends setup path listOnly with ⟨issue, lacking, failed, -⟩ | judged
  · exact .inl ⟨lacking.not_conclusive, failed⟩
  · exact .inr judged

/-! ## Judgements -/

theorem severity_of_mem_catalogIssues {scan : ExportScan} {issue : Issue}
    (member : issue ∈ catalogIssues path scan) : issue.severity = .warning := by
  rcases List.mem_append.1 member with member | member
  · obtain ⟨gap, -, rfl⟩ := List.mem_map.1 member
    rfl
  · split at member
    · rw [List.mem_singleton.1 member]
      rfl
    · cases member

/-- **A judgement raises warnings, and then one mismatch unless the comparison is exact or
is not made.** -/
theorem exists_warnings_judge (setup : Setup) (path : Path) (source dump : String)
    (notes : List String) (listOnly : Bool) :
    ∃ warnings : List Issue, (∀ issue ∈ warnings, issue.severity = .warning) ∧
      (judge setup.config.qualifier path source (setup.scanOf path dump) notes listOnly).issues =
        warnings ++
          if listOnly || (setup.comparison path source dump).isExact then []
          else [setup.mismatchOf path source dump] := by
  cases listOnly with
  | true =>
    exact ⟨_, fun _ => severity_of_mem_catalogIssues, (List.append_nil _).symm⟩
  | false =>
    refine ⟨_, ?_, rfl⟩
    intro issue member
    rcases List.mem_append.1 member with member | member
    · exact severity_of_mem_catalogIssues member
    · split at member
      · rw [List.mem_singleton.1 member]
        rfl
      · cases member

theorem rule_ne_mismatch_of_warning {issue : Issue} (warning : issue.severity = .warning) :
    issue.rule ≠ .mismatch := by
  intro rule
  simp [Issue.severity, rule] at warning

theorem status_judge (setup : Setup) (path : Path) (source dump : String) (notes : List String)
    (listOnly : Bool) :
    (judge setup.config.qualifier path source (setup.scanOf path dump) notes listOnly).status =
      if listOnly then .listed
      else if (setup.comparison path source dump).isExact then .passed else .mismatch := by
  cases listOnly <;> rfl

/-- Both the names of the source and the comparison are kept unless the catalog is only
listed. -/
theorem isSome_judge (qualifier : String) (path : Path) (source : String) (scan : ExportScan)
    (notes : List String) (listOnly : Bool) :
    (judge qualifier path source scan notes listOnly).heuristic.isSome = !listOnly ∧
      (judge qualifier path source scan notes listOnly).reconciliation.isSome = !listOnly := by
  cases listOnly <;> exact ⟨rfl, rfl⟩

/-- The mismatches that a judgement raises. -/
theorem mismatches_judge (setup : Setup) (path : Path) (source dump : String)
    (notes : List String) (listOnly : Bool) :
    (judge setup.config.qualifier path source (setup.scanOf path dump) notes
        listOnly).issues.filter (·.rule == .mismatch) =
      if listOnly || (setup.comparison path source dump).isExact then []
      else [setup.mismatchOf path source dump] := by
  obtain ⟨warnings, areWarnings, issues⟩ :=
    exists_warnings_judge setup path source dump notes listOnly
  have noneBefore : warnings.filter (·.rule == .mismatch) = [] := by
    rw [List.filter_eq_nil_iff]
    intro issue member
    simpa using rule_ne_mismatch_of_warning (areWarnings issue member)
  rw [issues, List.filter_append, noneBefore, List.nil_append]
  split <;> rfl

/-! ## Verdicts -/

/-- Nothing about a conclusive module is left open, so what holds of some source and dump
holds of the ones at hand. -/
theorem Conclusive.exists_iff (conclusive : Conclusive setup path source dump)
    (property : String → String → Prop) :
    (∃ source dump, Conclusive setup path source dump ∧ property source dump) ↔
      property source dump := by
  constructor
  · rintro ⟨source', dump', conclusive', holds⟩
    obtain ⟨rfl, rfl⟩ := conclusive.unique conclusive'
    exact holds
  · exact fun holds => ⟨source, dump, conclusive, holds⟩

/-- **A judgement is the verdict on a conclusive module.** -/
theorem isVerdict_judge (conclusive : Conclusive setup path source dump) (notes : List String)
    (listOnly : Bool) :
    IsVerdict setup path listOnly
      (judge setup.config.qualifier path source (setup.scanOf path dump) notes listOnly) := by
  have available : ∃ source dump, Conclusive setup path source dump := ⟨_, _, conclusive⟩
  have onSame := conclusive.exists_iff (SameExports setup path)
  have onDifferent := conclusive.exists_iff fun source dump => ¬ SameExports setup path source dump
  have exact : (setup.comparison path source dump).isExact = true ↔
      SameExports setup path source dump := Setup.isExact_comparison_iff
  have status := status_judge setup path source dump notes listOnly
  have compared :=
    isSome_judge setup.config.qualifier path source (setup.scanOf path dump) notes listOnly
  rw [← exact] at onSame onDifferent
  exact
    { passed_iff := by
        rw [status, onSame]
        cases listOnly <;> simp
      mismatch_iff := by
        rw [status, onDifferent]
        cases listOnly <;> simp
      mismatch_issue := by
        rw [status]
        intro mismatch
        have inexact : ¬ (listOnly || (setup.comparison path source dump).isExact) = true := by
          cases listOnly <;> simp at mismatch ⊢
          exact mismatch
        have mismatches := mismatches_judge setup path source dump notes listOnly
        rw [if_neg inexact] at mismatches
        refine ⟨source, dump, _, _, conclusive, mismatches, differences_comparison ?_⟩
        exact fun same => inexact (by simp [exact.2 same])
      listed_iff := by
        rw [status]
        cases listOnly <;> cases (setup.comparison path source dump).isExact <;> simp [available]
      failed_iff := by
        rw [status]
        cases listOnly <;> cases (setup.comparison path source dump).isExact <;> simp [available]
      failed_empty := by
        rw [status]
        cases listOnly <;> cases (setup.comparison path source dump).isExact <;> simp
      heuristic_iff := by
        rw [status, compared.1]
        cases listOnly <;> simp
      reconciliation_iff := by
        rw [status, compared.2]
        cases listOnly <;> simp }

/-- **A failure is the verdict on a module that is not conclusive.** -/
theorem isVerdict_of_isFailed {listOnly : Bool} {result : ModuleValidation}
    (inconclusive : ¬ ∃ source dump, Conclusive setup path source dump)
    (failed : IsFailed path result) : IsVerdict setup path listOnly result := by
  have none_of (property : String → String → Prop) :
      ¬ ∃ source dump, Conclusive setup path source dump ∧ property source dump := by
    rintro ⟨source, dump, conclusive, -⟩
    exact inconclusive ⟨source, dump, conclusive⟩
  exact
    { passed_iff := by simp [failed.status, none_of]
      mismatch_iff := by simp [failed.status, none_of]
      mismatch_issue := by simp [failed.status]
      listed_iff := by simp [failed.status, inconclusive]
      failed_iff := by simp [failed.status, inconclusive]
      failed_empty := fun _ => ⟨failed.symbols, failed.heuristic, failed.reconciliation⟩
      heuristic_iff := by simp [failed.status, failed.heuristic]
      reconciliation_iff := by simp [failed.status, failed.reconciliation] }

/-- **Every validation ends in the verdict that its source and its dump call for.** -/
theorem validateModule_isVerdict (setup : Setup) (path : Path) (listOnly : Bool) :
    IsVerdict setup path listOnly (validateModule setup path listOnly) := by
  rcases validateModule_cases setup path listOnly with
    ⟨inconclusive, failed⟩ | ⟨source, dump, notes, conclusive, judged⟩
  · exact isVerdict_of_isFailed inconclusive failed
  · rw [judged]
    exact isVerdict_judge conclusive notes listOnly

/-! ## Results -/

theorem validateModule_path (setup : Setup) (path : Path) (listOnly : Bool) :
    (validateModule setup path listOnly).path = path := by
  unfold validateModule
  split
  · rfl
  · dsimp only
    split
    · rfl
    · split
      · rfl
      · cases listOnly <;> rfl

theorem FailureFinding.severity_eq {finding : Finding} (failure : FailureFinding finding)
    (text : String) : Issue.severity { path := text, finding } = .error := by
  cases failure <;> rfl

theorem isFailure_judge (setup : Setup) (path : Path) (source dump : String)
    (notes : List String) (listOnly : Bool) :
    (judge setup.config.qualifier path source (setup.scanOf path dump) notes listOnly).isFailure =
      !(listOnly || (setup.comparison path source dump).isExact) := by
  rw [ModuleValidation.isFailure, status_judge]
  cases listOnly <;> cases (setup.comparison path source dump).isExact <;> rfl

/-- **A module that did not pass has one error, and a module that did has none.** -/
theorem countP_error_validateModule (setup : Setup) (path : Path) (listOnly : Bool) :
    (validateModule setup path listOnly).issues.countP (·.severity == .error) =
      if (validateModule setup path listOnly).isFailure then 1 else 0 := by
  rcases validateModule_cases setup path listOnly with
    ⟨-, failed⟩ | ⟨source, dump, notes, -, judged⟩
  · obtain ⟨finding, failure, issues⟩ := failed.issues
    simp [issues, ModuleValidation.isFailure, failed.status, failure.severity_eq]
  · obtain ⟨warnings, areWarnings, issues⟩ :=
      exists_warnings_judge setup path source dump notes listOnly
    have noErrors : warnings.countP (·.severity == .error) = 0 := by
      rw [List.countP_eq_zero]
      intro issue member
      simp [areWarnings issue member]
    rw [judged, issues, isFailure_judge, List.countP_append, noErrors, Nat.zero_add]
    cases listOnly || (setup.comparison path source dump).isExact <;> rfl

theorem isFailure_validateModule_iff (setup : Setup) (path : Path) (listOnly : Bool) :
    (validateModule setup path listOnly).isFailure = true ↔
      ∃ issue ∈ (validateModule setup path listOnly).issues, issue.severity = .error := by
  have positive := List.countP_pos_iff (p := (·.severity == .error))
    (l := (validateModule setup path listOnly).issues)
  rw [countP_error_validateModule] at positive
  cases failure : (validateModule setup path listOnly).isFailure <;>
    simpa [failure] using positive

end Analysis

end ExportAudit
