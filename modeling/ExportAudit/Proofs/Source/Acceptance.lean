import ExportAudit.Source.DumpSource

/-!
# Which dumps a source hands over

A directory hands over the text of the file that stands for the dump.  The compiler hands
over what it printed, if it ran to its end in time and ended with one of the exit codes that
are allowed; what ended by a signal has no exit code.  Neither source looks at what the text
says, but each turns away a text of blanks.  **So every dump has content**, whichever of the
two it comes from.
-/

namespace ExportAudit.Source

set_option autoImplicit false

open ExportAudit.Text ExportAudit.Machine

/-- A text has a character that is not a blank. -/
def HasContent (text : String) : Prop :=
  ∃ c ∈ text.toList, isBlank c = false

theorem hasContent_iff {text : String} : HasContent text ↔ allBlank text.toList = false := by
  simp [HasContent, allBlank]

theorem nonBlank_eq_ok_iff {tool printed dump : String} :
    nonBlank tool printed = .ok dump ↔ printed = dump ∧ HasContent dump := by
  rw [nonBlank, hasContent_iff]
  cases blank : allBlank printed.toList with
  | false =>
    refine ⟨fun accepted => ?_, fun same => congrArg Except.ok same.1⟩
    cases accepted
    exact ⟨rfl, blank⟩
  | true =>
    constructor
    · intro accepted
      cases accepted
    · rintro ⟨rfl, notBlank⟩
      cases blank.symm.trans notBlank

/-- **A directory hands over exactly the texts of its files that have content.** -/
theorem readDump_eq_ok_iff {files : Files} {directory file : Path} {dump : String} :
    readDump files directory file = .ok dump ↔
      files.isFile (dumpPath directory file) = true ∧
        files.readText (dumpPath directory file) = .ok dump ∧ HasContent dump := by
  rw [readDump]
  cases isFile : files.isFile (dumpPath directory file) with
  | false => simp
  | true =>
    cases readable : files.readText (dumpPath directory file) with
    | error error => simp
    | ok text =>
      simp only [Bool.not_true, Bool.false_eq_true, if_false, true_and, Except.ok.injEq]
      exact nonBlank_eq_ok_iff

namespace CompilerSettings

variable {settings : CompilerSettings} {execution : Execution}

theorem allows_iff :
    settings.allows execution = true ↔
      ∃ code ∈ settings.allowedExitCodes, execution.exitCode = some code.toInt := by
  cases ended : execution.exitCode with
  | none => simp [allows, ended]
  | some code =>
    simp only [allows, ended, Option.any_some, List.any_eq_true, beq_iff_eq, Option.some.injEq]
    exact exists_congr fun allowed => and_congr_right fun _ => eq_comm

/-- **The compiler hands over exactly what an allowed execution has printed, if that has
content.** -/
theorem dump_eq_ok_iff {launch : Launcher} {file : Path} {dump : String} :
    settings.dump launch file = .ok dump ↔
      ∃ execution,
        launch settings.program (settings.arguments file) settings.timeoutMillis = .ok execution ∧
        (∃ code ∈ settings.allowedExitCodes, execution.exitCode = some code.toInt) ∧
        execution.output = dump ∧ HasContent dump := by
  rw [CompilerSettings.dump, start]
  cases launched : launch settings.program (settings.arguments file) settings.timeoutMillis with
  | error error =>
    change Except.error (settings.launchFailure error) = .ok dump ↔ _
    simp
  | ok execution =>
    change (if settings.allows execution then nonBlank settings.program execution.output
      else .error (settings.exitFailure execution)) = .ok dump ↔ _
    simp only [Except.ok.injEq, exists_eq_left', ← allows_iff]
    cases allowed : settings.allows execution with
    | false => simp
    | true =>
      simp only [if_true, true_and]
      exact nonBlank_eq_ok_iff

end CompilerSettings

namespace DumpSource

/-- One of the two sources: the compiler, however it is set up and whatever starting it does,
or a directory, whatever its files hold. -/
inductive Standard : DumpSource → Prop where
  | compiler (launch : Launcher) (settings : CompilerSettings) :
      Standard (ofCompiler launch settings)
  | directory (files : Files) (directory : Path) : Standard (ofDirectory files directory)

/-- **A dump from either source has content.** -/
theorem Standard.hasContent {source : DumpSource} (standard : source.Standard) {file : Path}
    {dump : String} (produced : source.dump file = .ok dump) : HasContent dump := by
  cases standard with
  | compiler launch settings =>
    obtain ⟨execution, -, -, -, hasContent⟩ := CompilerSettings.dump_eq_ok_iff.1 produced
    exact hasContent
  | directory files directory => exact (readDump_eq_ok_iff.1 produced).2.2

end DumpSource

end ExportAudit.Source
