import ExportAudit.Proofs.Analysis.Account

/-!
# Gaps and their warnings

A symbol whose line was not recovered is a gap of its catalog.  A validation of a module
whose dump has nodes warns of every gap, once and by name, and of nothing that is not one,
whether the catalog is compared or only listed.

A measurement scans the dump in the same way, and it keeps the names and the catalog of the
scan, but **it raises no warning of a gap at all**.  So it has reported the gaps of a module
only if there are none.
-/

namespace ExportAudit.Analysis

set_option autoImplicit false

open ExportAudit.Dump ExportAudit.Export ExportAudit.Source ExportAudit.Usage

variable {setup : Setup} {path : Path} {source dump : String}

/-- The warning of a gap. -/
def gapIssue (path : Path) (symbol : Symbol) : Issue :=
  { path := path.text, finding := .correlationGap symbol.name }

/-- The issues that warn of gaps are one for each symbol without a line. -/
def GapsReported (path : Path) (symbols : List Symbol) (issues : List Issue) : Prop :=
  (issues.filter (·.rule == .correlationGap)).Perm
    ((symbols.filter (·.line.isNone)).map (gapIssue path))

/-! ## Issues of other rules -/

/-- No issue of a list warns of a gap. -/
def Gapless (issues : List Issue) : Prop :=
  ∀ issue ∈ issues, issue.rule ≠ .correlationGap

@[simp]
theorem gapless_nil : Gapless [] := by
  simp [Gapless]

@[simp]
theorem gapless_singleton {issue : Issue} : Gapless [issue] ↔ issue.rule ≠ .correlationGap := by
  simp [Gapless]

@[simp]
theorem gapless_append {first second : List Issue} :
    Gapless (first ++ second) ↔ Gapless first ∧ Gapless second := by
  simp [Gapless, or_imp, forall_and]

theorem Gapless.filter_eq_nil {issues : List Issue} (gapless : Gapless issues) :
    issues.filter (·.rule == .correlationGap) = [] := by
  rw [List.filter_eq_nil_iff]
  intro issue member
  simpa using gapless issue member

/-- **Issues that warn of no gap report those of a catalog that has none.** -/
theorem Gapless.gapsReported_iff {issues : List Issue} (gapless : Gapless issues)
    (symbols : List Symbol) :
    GapsReported path symbols issues ↔ ∀ symbol ∈ symbols, symbol.line.isSome = true := by
  rw [GapsReported, gapless.filter_eq_nil, List.nil_perm, List.map_eq_nil_iff,
    List.filter_eq_nil_iff]
  simp [Option.isSome_iff_ne_none]

/-! ## Validations -/

/-- The warnings of the gaps are the first issues of a catalog. -/
theorem filter_gap_catalogIssues (path : Path) (scan : ExportScan) :
    (catalogIssues path scan).filter (·.rule == .correlationGap) =
      (scan.symbols.filter (·.line.isNone)).map (gapIssue path) := by
  have rest : Gapless
      (if scan.isEmpty then [{ path := path.text, finding := .emptyExtraction .dump }] else []) := by
    split <;> simp [Issue.rule]
  rw [catalogIssues, List.filter_append, rest.filter_eq_nil, List.append_nil, List.filter_eq_self.2]
  · rfl
  · intro issue member
    obtain ⟨gap, -, rfl⟩ := List.mem_map.1 member
    rfl

/-- **A judgement adds no warning of a gap to those of its catalog.** -/
theorem exists_gapless_judge (qualifier : String) (path : Path) (source : String)
    (scan : ExportScan) (notes : List String) (listOnly : Bool) :
    ∃ others, (judge qualifier path source scan notes listOnly).issues =
      catalogIssues path scan ++ others ∧ Gapless others := by
  cases listOnly with
  | true => exact ⟨[], (List.append_nil _).symm, gapless_nil⟩
  | false =>
    refine ⟨_, List.append_assoc _ _ _, gapless_append.2 ⟨?_, ?_⟩⟩
    · split <;> simp [Issue.rule]
    · split <;> simp [Issue.rule]

/-- **A validation of a conclusive dump reports its gaps.** -/
theorem gapsReported_validateModule (conclusive : Conclusive setup path source dump)
    (listOnly : Bool) :
    GapsReported path (setup.scanOf path dump).symbols
      (validateModule setup path listOnly).issues := by
  rcases validateModule_cases setup path listOnly with
    ⟨inconclusive, -⟩ | ⟨source', dump', notes, conclusive', judged⟩
  · exact absurd ⟨source, dump, conclusive⟩ inconclusive
  · obtain ⟨rfl, rfl⟩ := conclusive.unique conclusive'
    obtain ⟨others, issues, gapless⟩ := exists_gapless_judge setup.config.qualifier path source
      (setup.scanOf path dump) notes listOnly
    rw [judged, GapsReported, issues, List.filter_append, gapless.filter_eq_nil, List.append_nil,
      filter_gap_catalogIssues]

/-! ## Measurements -/

variable {input : ModuleInput} {options : CoverageOptions}

theorem Setback.Fatal.rule_ne {setback : Setback} (fatal : setback.Fatal) :
    setback.issue.rule ≠ .correlationGap := by
  intro rule
  have error := fatal.severity_eq
  rw [Issue.severity, rule] at error
  cases error

theorem gapless_emptyWarnings (input : ModuleInput) (options : CoverageOptions)
    (found : Exports) : Gapless (emptyWarnings input options found) := by
  rw [emptyWarnings]
  split <;> simp [Issue.rule]

/-- **No course of a measurement raises a warning of a gap.** -/
theorem Course.gapless {result : ModuleCoverage} (course : Course setup input options result) :
    Gapless result.issues := by
  cases course with
  | skipped skips => exact gapless_singleton.2 Rule.noConfusion
  | noExports goesOn lacking => exact gapless_singleton.2 (fatal_of_exports lacking).rule_ne
  | noTest goesOn exports lacking =>
    exact gapless_append.2
      ⟨gapless_emptyWarnings _ _ _, gapless_singleton.2 (fatal_of_testOf lacking).rule_ne⟩
  | measured goesOn exports prepared located => exact gapless_emptyWarnings _ _ _

theorem gapless_of_measure {result : ModuleCoverage}
    (measured : measure setup input options = .ok result) : Gapless result.issues := by
  obtain ⟨result', measured', course⟩ := exists_course setup input options
  cases measured.symm.trans measured'
  exact course.gapless

/-- **Every validation of a conclusive dump reports the gaps of its catalog, and a
measurement from a dump reports them only if there are none.** -/
theorem gapsReported_validateModule_measure (setup : Setup) :
    (∀ path source dump listOnly, Conclusive setup path source dump →
      GapsReported path (setup.scanOf path dump).symbols
        (validateModule setup path listOnly).issues) ∧
    ∀ input strategy skipMissingTests dump result,
      setup.dumps.dump input.modulePath = .ok dump →
      measure setup input ⟨strategy, .dump, skipMissingTests⟩ = .ok result →
      (GapsReported input.modulePath (scanExports dump (setup.scanOptions input.name)).symbols
          result.issues ↔
        ∀ symbol ∈ (scanExports dump (setup.scanOptions input.name)).symbols,
          symbol.line.isSome = true) := by
  refine ⟨fun path source dump listOnly conclusive => ?_, ?_⟩
  · exact gapsReported_validateModule conclusive listOnly
  · intro input strategy skipMissingTests dump result _ measured
    exact (gapless_of_measure measured).gapsReported_iff _

/-! ## A module in one line -/

/-- A dump of a module that stands in one line, so no using declaration repeats it. -/
def oneLine : String :=
  "TranslationUnitDecl 0x1 <<invalid sloc>> <invalid sloc>
\x60-ExportDecl 0x2 <f.cppm:1:18, col:55> col:18 in f
  \x60-NamespaceDecl 0x3 <col:25, col:55> col:35 in f hidden std
    |-UsingDecl 0x4 <col:41, col:52> col:52 in f hidden std::go
    \x60-UsingShadowDecl 0x5 <col:52> col:52 in f hidden implicit Function 0x6 'go'
"

/-- A project of that module and its test. -/
def oneLineModule : Setup :=
  { oneModule with dumps := { oneModule.dumps with dump := fun _ => .ok oneLine } }

/-- The module and its test. -/
def oneLineInput : ModuleInput :=
  oneLineModule.pair ⟨"src/f.cppm"⟩

theorem symbols_oneLine :
    (scanExports oneLine (oneLineModule.scanOptions "f")).symbols = [⟨"go", .function, none⟩] := by
  rw [scanExports, parseDump, oneLine, String.toList_ofList]
  decide +kernel

theorem conclusive_oneLine :
    Conclusive oneLineModule ⟨"src/f.cppm"⟩ "using std::go;" oneLine := by
  refine ⟨rfl, rfl, ?_⟩
  rw [parseDump, oneLine, String.toList_ofList]
  decide +kernel

theorem exists_measured_oneLine :
    ∃ result, measure oneLineModule oneLineInput ⟨.fast, .dump, false⟩ = .ok result ∧
      result.status = .measured := by
  have ready : TestReady oneLineModule oneLineInput .fast
      ⟨⟨"test/test_f.cpp"⟩, "int x = std::go();", none⟩ := ⟨rfl, rfl, .fast⟩
  exact exists_measured (by simp [Skips]) (exportsFound_dump conclusive_oneLine) ready

/-- The one symbol of the module has no line. -/
theorem not_allLines_oneLine :
    ¬ ∀ symbol ∈ (scanExports oneLine (oneLineModule.scanOptions "f")).symbols,
      symbol.line.isSome = true := by
  rw [symbols_oneLine]
  decide

theorem gapsReported_oneLine :
    Conclusive oneLineModule ⟨"src/f.cppm"⟩ "using std::go;" oneLine ∧
      GapsReported ⟨"src/f.cppm"⟩ (oneLineModule.scanOf ⟨"src/f.cppm"⟩ oneLine).symbols
        (validateModule oneLineModule ⟨"src/f.cppm"⟩ false).issues ∧
      ∃ result, measure oneLineModule oneLineInput ⟨.fast, .dump, false⟩ = .ok result ∧
        (GapsReported oneLineInput.modulePath
            (scanExports oneLine (oneLineModule.scanOptions oneLineInput.name)).symbols
            result.issues ↔
          ∀ symbol ∈ (scanExports oneLine (oneLineModule.scanOptions oneLineInput.name)).symbols,
            symbol.line.isSome = true) := by
  obtain ⟨validated, measuredOnly⟩ := gapsReported_validateModule_measure oneLineModule
  obtain ⟨result, measured, -⟩ := exists_measured_oneLine
  exact ⟨conclusive_oneLine, validated _ _ _ false conclusive_oneLine, result, measured,
    measuredOnly oneLineInput .fast false oneLine result rfl measured⟩

/-- **A module that is measured, and whose gap is not reported.** -/
theorem not_gapsReported_oneLine :
    oneLineModule.dumps.dump oneLineInput.modulePath = .ok oneLine ∧
      ∃ result, measure oneLineModule oneLineInput ⟨.fast, .dump, false⟩ = .ok result ∧
        result.status = .measured ∧
        ¬ GapsReported oneLineInput.modulePath
          (scanExports oneLine (oneLineModule.scanOptions oneLineInput.name)).symbols
          result.issues := by
  obtain ⟨result, measured, status⟩ := exists_measured_oneLine
  refine ⟨rfl, result, measured, status, fun reported => ?_⟩
  have allLines := ((gapless_of_measure measured).gapsReported_iff _).1 reported
  rw [show oneLineInput.name = "f" by decide] at allLines
  exact not_allLines_oneLine allLines

end ExportAudit.Analysis
