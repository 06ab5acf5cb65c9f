import ExportAudit.CommandLine.Run
import ExportAudit.Proofs.Analysis.DumpQueries

/-!
# When dumps are checked

A run that measures coverage checks its source of dumps before it looks at any module, and a
check that fails is the end of the run.  Whether it checks is decided from the options alone,
and whether a dump is read is decided module by module, much later.  The two decisions are one:
**the check is left out exactly if no dump can matter.**

Without a need for dumps the run never starts the compiler, so it is the same whatever starting
it would do.  With that need each module that can be read with its test consults some dump, and
a run whose compiler cannot tell its version does not happen.
-/

namespace ExportAudit.CommandLine

set_option autoImplicit false

open ExportAudit.Analysis ExportAudit.Machine ExportAudit.Report ExportAudit.Source
open ExportAudit.Usage

variable {arguments : CoverageArguments} {files : Files} {launch : Launcher}

/-! ## The parts of a run -/

/-- How the arguments of a measurement have it done. -/
def CoverageArguments.options (arguments : CoverageArguments) : CoverageOptions :=
  { strategy := arguments.strategy
    exports := arguments.exports
    skipMissingTests := arguments.pair.isNone }

/-- The modules that a run measures, each with its test. -/
def inputsOf (setup : Setup) (arguments : CoverageArguments) : RunM (List ModuleInput) :=
  match arguments.pair with
  | some pair => pure [pair.input]
  | none => do return (← discover setup).map setup.pair

/-- What a run does once its inputs are known. -/
def reportOn (setup : Setup) (arguments : CoverageArguments) (inputs : List ModuleInput) :
    RunM Outcome := do
  let modules ← orFatal .notLocated (measureAll setup inputs arguments.options)
  return finish
    (.coverage
      { modules
        totals := .ofModules modules
        strategy := arguments.strategy
        exports := arguments.exports })
    false

/-- What a run does once it is set up. -/
def coverageOf (setup : Setup) (arguments : CoverageArguments) : RunM Outcome := do
  let inputs ← inputsOf setup arguments
  if arguments.options.needsDumps then checkDumps setup
  reportOn setup arguments inputs

theorem runCoverage_eq (files : Files) (launch : Launcher) (arguments : CoverageArguments) :
    runCoverage files launch arguments =
      setUp files launch arguments.common >>= fun setup => coverageOf setup arguments := by
  simp only [runCoverage, coverageOf, reportOn, inputsOf, CoverageArguments.options]
  congr 1
  funext setup
  cases arguments.pair with
  | some pair => rfl
  | none =>
    simp only [bind_assoc, pure_bind]
    rfl

/-- A run that needs no dumps is the same with every source of dumps. -/
theorem coverageOf_withDumps (noNeed : arguments.options.needsDumps = false) (setup : Setup)
    (other : DumpSource) :
    coverageOf (setup.withDumps other) arguments = coverageOf setup arguments := by
  have sameInputs : inputsOf (setup.withDumps other) arguments = inputsOf setup arguments := rfl
  simp only [coverageOf, sameInputs, noNeed, reportOn,
    measureAll_withDumps noNeed setup _ other]
  rfl

/-! ## Without a need for dumps -/

/-- **A run that needs no dumps never starts the compiler**: starting it may do what it
likes. -/
theorem runCoverage_launch (noNeed : arguments.options.needsDumps = false) (files : Files)
    (launch other : Launcher) :
    runCoverage files launch arguments = runCoverage files other arguments := by
  rw [runCoverage_eq, runCoverage_eq]
  simp only [setUp, bind_assoc, pure_bind]
  congr 1
  funext loaded
  congr 1
  funext _
  rw [dumpSource, dumpSource]
  cases arguments.common.dumpDir with
  | some directory => rfl
  | none =>
    simp only [pure_bind]
    have isOther (root : Path) (config : Config) (settings : CompilerSettings) :
        Setup.ofParts root config files (ofCompiler launch settings) =
          (Setup.ofParts root config files (ofCompiler other settings)).withDumps
            (ofCompiler launch settings) := rfl
    rw [isOther, coverageOf_withDumps noNeed]

/-! ## With a need for dumps -/

/-- A part of a run, whatever notes were taken before it, finds that the run cannot happen. -/
def Fails {α : Type} (part : RunM α) : Prop :=
  ∀ notes, ∃ cause, (part.run.run notes).1 = .error cause

section Fails

variable {α β : Type} {first : RunM α} {next : α → RunM β}

/-- A part of a run and what goes on from it. -/
theorem run_bind (first : RunM α) (next : α → RunM β) (notes : List RunNote) :
    (first >>= next).run.run notes =
      match first.run.run notes with
      | (.ok value, noted) => (next value).run.run noted
      | (.error cause, noted) => (.error cause, noted) := by
  rw [ExceptT.run_bind, StateT.run_bind]
  cases first.run.run notes with
  | mk result noted =>
    cases result with
    | ok value => rfl
    | error cause => rfl

/-- A run that cannot go on does not happen, wherever it has got to. -/
theorem fails_bind (goesNowhere : ∀ value, Fails (next value)) : Fails (first >>= next) := by
  intro notes
  rw [run_bind]
  split
  · exact goesNowhere _ _
  · exact ⟨_, rfl⟩

/-- A run that cannot happen does not go on. -/
theorem Fails.bind (fails : Fails first) (next : α → RunM β) : Fails (first >>= next) := by
  intro notes
  obtain ⟨cause, ended⟩ := fails notes
  rw [run_bind]
  split
  · next isOk =>
    rw [isOk] at ended
    cases ended
  · exact ⟨_, rfl⟩

theorem fails_orFatal {ε : Type} (cause : ε → FatalError) (error : ε) :
    Fails (orFatal cause (.error error : Except ε α)) :=
  fun _ => ⟨cause error, rfl⟩

end Fails

/-- The compiler cannot tell its version, however it is configured. -/
def NoCompiler (launch : Launcher) : Prop :=
  ∀ settings : CompilerSettings, ∃ failure, settings.preflight launch = .error failure

theorem fails_checkDumps {setup : Setup} {failure : ToolFailure}
    (unusable : setup.dumps.preflight = .error failure) : Fails (checkDumps setup) := by
  rw [checkDumps, unusable]
  exact fails_bind fun _ => fails_orFatal _ _

/-- A run that needs dumps checks their source. -/
theorem fails_coverageOf {setup : Setup} {failure : ToolFailure}
    (needsDumps : arguments.options.needsDumps = true)
    (unusable : setup.dumps.preflight = .error failure) : Fails (coverageOf setup arguments) := by
  rw [coverageOf]
  refine fails_bind fun inputs => ?_
  rw [if_pos needsDumps]
  exact (fails_checkDumps unusable).bind _

/-- **A run that needs dumps from a compiler that cannot be used does not happen.** -/
theorem fails_runCoverage (needsDumps : arguments.options.needsDumps = true)
    (fromCompiler : arguments.common.dumpDir = none) (noCompiler : NoCompiler launch)
    (files : Files) : Fails (runCoverage files launch arguments) := by
  rw [runCoverage_eq]
  simp only [setUp, dumpSource, fromCompiler, bind_assoc, pure_bind]
  refine fails_bind fun loaded => fails_bind fun _ => ?_
  obtain ⟨failure, unusable⟩ :=
    noCompiler (compilerSettings (arguments.common.override loaded.config).compiler)
  exact fails_coverageOf needsDumps unusable

/-! ## The decision -/

/-- **The check of the source of dumps is left out exactly if no dump can matter.**  Without a
need for dumps every source of dumps gives the same results, and a run is the same however its
compiler behaves.  With a need for them every module that can be read with its test consults a
dump, and a run whose compiler cannot be used does not happen. -/
theorem needsDumps_exact (options : CoverageOptions) :
    (options.needsDumps = false → ∀ setup inputs other,
        measureAll (Setup.withDumps setup other) inputs options =
          measureAll setup inputs options) ∧
      (options.needsDumps = true → ∀ setup input, Proceeds setup input options →
        ∃ path, Consults setup input options path) ∧
      (DumpsMatter options ↔ options.needsDumps = true) ∧
      ∀ arguments : CoverageArguments, arguments.options = options →
        (options.needsDumps = false → ∀ files launch other,
          runCoverage files launch arguments = runCoverage files other arguments) ∧
        (options.needsDumps = true → arguments.common.dumpDir = none → ∀ files launch,
          NoCompiler launch → Fails (runCoverage files launch arguments)) := by
  refine ⟨measureAll_withDumps, ?_, dumpsMatter_iff, ?_⟩
  · intro needsDumps setup input proceeds
    obtain ⟨path, asks⟩ := proceeds.exists_asks needsDumps
    exact ⟨path, consults_iff_asks.2 asks⟩
  · rintro arguments rfl
    exact ⟨runCoverage_launch, fun needsDumps fromCompiler files launch noCompiler =>
      fails_runCoverage needsDumps fromCompiler noCompiler files⟩

/-- A machine without programs. -/
def noPrograms : Launcher := fun _ _ _ => .error .notFound

/-- A machine on which every program prints the root of a tree. -/
def rootPrinter : Launcher := fun _ _ _ =>
  .ok { exitCode := some 0, output := "TranslationUnitDecl 0x1", errors := "" }

/-- A measurement of all modules of a project, located with a strategy. -/
def measuring (strategy : UsageStrategy) : CoverageArguments :=
  { pair := none, strategy, exports := .heuristic, common := {} }

theorem needsDumps_exact_oneModule :
    ((measuring .fast).options.needsDumps = false ∧
        runCoverage oneModule.files noPrograms (measuring .fast) =
          runCoverage oneModule.files rootPrinter (measuring .fast)) ∧
      (measuring .tree).options.needsDumps = true ∧
      Proceeds oneModule (oneModule.pair ⟨"src/f.cppm"⟩) (measuring .tree).options ∧
      (∃ path, Consults oneModule (oneModule.pair ⟨"src/f.cppm"⟩) (measuring .tree).options path) ∧
      NoCompiler noPrograms ∧
      Fails (runCoverage oneModule.files noPrograms (measuring .tree)) := by
  have noNeed : (measuring .fast).options.needsDumps = false := by decide
  have needsDumps : (measuring .tree).options.needsDumps = true := by decide
  have noCompiler : NoCompiler noPrograms := fun settings => ⟨.notFound settings.program, rfl⟩
  have proceeds := proceeds_oneModule (measuring .tree).options
  obtain ⟨-, consulted, -, checked⟩ := needsDumps_exact (measuring .tree).options
  obtain ⟨-, -, -, unchecked⟩ := needsDumps_exact (measuring .fast).options
  exact ⟨⟨noNeed, (unchecked _ rfl).1 noNeed _ _ _⟩, needsDumps, proceeds,
    consulted needsDumps _ _ proceeds, noCompiler,
    (checked _ rfl).2 needsDumps rfl _ _ noCompiler⟩

end ExportAudit.CommandLine
