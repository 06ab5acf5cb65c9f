import ExportAudit.Proofs.Report.EscapeFree
import ExportAudit.Report.Printed
import Mathlib.Data.List.Forall2

/-!
# Color changes nothing but escape sequences

A painted report shows what the plain one shows: once the sequences are removed from either
channel, the two are equal character by character, columns included.

How wide a text is, is for the terminal to say, and nothing is assumed of it: a cell is filled up
by the width of what stands in it, before any paint.

The reason is one relation between texts, `Shows`, which says that a painted text becomes a
plain one by removing sequences **whatever stands behind it.**  Paint puts a text there that
shows what was painted, a text without escape characters shows itself, and the relation goes
through when texts are put together.  So a report is followed line by line, as it is built.

An escape character in a string could open a sequence of its own, which would be removed as
well, so the strings of a result are assumed to have none.
-/

namespace ExportAudit.Report

set_option autoImplicit false

open ExportAudit.Text ExportAudit.Analysis ExportAudit.Usage ExportAudit.Export

/-! ## Sequences -/

/-- A character that may stand in the codes of a sequence. -/
def isCode (c : Char) : Bool :=
  isAsciiDigit c || c == ';'

/-- The length of the sequence that a text begins with, if it does. -/
def sequenceLength? : List Char → Option ℕ
  | '\x1b' :: '[' :: rest =>
    let codes := rest.takeWhile isCode
    if (rest.drop codes.length).head? = some 'm' then some (codes.length + 3) else none
  | _ => none

/-- A text without its sequences, from a place at which some characters of one are left. -/
def dropSequences : ℕ → List Char → List Char
  | _, [] => []
  | skip + 1, _ :: rest => dropSequences skip rest
  | 0, c :: rest =>
    match sequenceLength? (c :: rest) with
    | some length => dropSequences (length - 1) rest
    | none => c :: dropSequences 0 rest

/-- A text without its sequences. -/
def uncolored (text : String) : String :=
  String.ofList (dropSequences 0 text.toList)

/-- What is printed, without sequences. -/
def Printed.uncolored (printed : Printed) : Printed :=
  { output := Report.uncolored printed.output, errors := Report.uncolored printed.errors }

theorem dropSequences_skip (skip : ℕ) (text : List Char) :
    dropSequences skip text = dropSequences 0 (text.drop skip) := by
  induction skip generalizing text with
  | zero => rfl
  | succ skip ih =>
    cases text with
    | nil => simp [dropSequences]
    | cons c rest => rw [dropSequences, ih, List.drop_succ_cons]

theorem dropSequences_cons {c : Char} (plain : c ≠ '\x1b') (rest : List Char) :
    dropSequences 0 (c :: rest) = c :: dropSequences 0 rest := by
  have noSequence : sequenceLength? (c :: rest) = none := by
    unfold sequenceLength?
    split
    · rename_i same
      exact absurd (List.cons.inj same).1 plain
    · rfl
  rw [dropSequences, noSequence]

/-- **A sequence in front of a text is removed.** -/
theorem dropSequences_sequence {codes : List Char} (all : ∀ c ∈ codes, isCode c = true)
    (rest : List Char) :
    dropSequences 0 ('\x1b' :: '[' :: (codes ++ 'm' :: rest)) = dropSequences 0 rest := by
  -- The codes end at the first character that is none, which is the mark.
  have taken : (codes ++ 'm' :: rest).takeWhile isCode = codes := by
    rw [List.takeWhile_append_of_pos all, List.takeWhile_cons_of_neg (by decide), List.append_nil]
  have found : sequenceLength? ('\x1b' :: '[' :: (codes ++ 'm' :: rest)) =
      some (codes.length + 3) := by
    simp [sequenceLength?, taken]
  rw [dropSequences, found]
  dsimp only
  rw [dropSequences_skip]
  congr 1
  have cut : '[' :: (codes ++ 'm' :: rest) = ('[' :: (codes ++ ['m'])) ++ rest := by simp
  rw [cut]
  exact List.drop_left' (by simp)

theorem dropSequences_append {front : List Char} (plain : '\x1b' ∉ front) (rest : List Char) :
    dropSequences 0 (front ++ rest) = front ++ dropSequences 0 rest := by
  induction front with
  | nil => rfl
  | cons c front ih =>
    rw [List.mem_cons, not_or] at plain
    rw [List.cons_append, dropSequences_cons (Ne.symm plain.1), ih plain.2, List.cons_append]

/-! ## Painted texts and what they show -/

/-- A painted text becomes a plain one by removing sequences, whatever stands behind it. -/
def Shows (painted plain : String) : Prop :=
  ∀ rest, dropSequences 0 (painted.toList ++ rest) = plain.toList ++ dropSequences 0 rest

/-- A style without its color. -/
def OutputStyle.plain (style : OutputStyle) : OutputStyle :=
  { style with color := false }

section Shows

variable {painted plain painted' plain' text : String}

theorem Shows.uncolored_eq (shown : Shows painted plain) : uncolored painted = plain := by
  have whole := shown []
  rw [List.append_nil] at whole
  simp [uncolored, whole, dropSequences]

theorem EscapeFree.shows (clean : EscapeFree text) : Shows text text :=
  dropSequences_append clean

theorem Shows.append (front : Shows painted plain) (back : Shows painted' plain') :
    Shows (painted ++ painted') (plain ++ plain') := by
  intro rest
  simp only [String.toList_append, List.append_assoc]
  rw [front, back]

theorem Shows.append_right (front : Shows painted plain) (clean : EscapeFree text) :
    Shows (painted ++ text) (plain ++ text) :=
  front.append clean.shows

/-- **A sequence shows nothing.** -/
theorem shows_sequence {codes : String} (all : codes.toList.all isCode = true) :
    Shows ("\x1b[" ++ codes ++ "m") "" := by
  intro rest
  have isText : ("\x1b[" ++ codes ++ "m").toList ++ rest =
      '\x1b' :: '[' :: (codes.toList ++ 'm' :: rest) := by simp
  rw [isText, dropSequences_sequence (List.all_eq_true.1 all)]
  rfl

theorem all_isCode_codes (paint : Paint) : paint.codes.toList.all isCode = true := by
  cases paint <;> decide

theorem Paint.shows_apply (paint : Paint) (clean : EscapeFree text) :
    Shows (paint.apply text) text := by
  unfold Paint.apply
  split
  · exact clean.shows
  · have opening := shows_sequence (all_isCode_codes paint)
    have closing : Shows "\x1b[0m" "" := @shows_sequence "0" (by decide)
    simpa using (opening.append_right clean).append closing

/-- **A text in a paint shows the text without it.** -/
theorem shows_paint (style : OutputStyle) (paint : Paint) (clean : EscapeFree text) :
    Shows (style.paint paint text) (style.plain.paint paint text) := by
  cases color : style.color with
  | false =>
    rw [OutputStyle.paint, color]
    exact clean.shows
  | true =>
    rw [OutputStyle.paint, color]
    exact paint.shows_apply clean

end Shows

/-! ## Lines -/

/-- Painted lines show plain ones, each its own. -/
abbrev LinesShow (painted plain : List String) : Prop :=
  List.Forall₂ Shows painted plain

section Lines

variable {α : Type} {items : List α} {painted plain : List String}

theorem linesShow_of_clean (clean : Clean painted) : LinesShow painted painted :=
  List.forall₂_same.2 fun line member => (clean line member).shows

theorem LinesShow.append {painted' plain' : List String} (front : LinesShow painted plain)
    (back : LinesShow painted' plain') : LinesShow (painted ++ painted') (plain ++ plain') :=
  List.rel_append front back

theorem linesShow_map {line line' : α → String}
    (each : ∀ item ∈ items, Shows (line item) (line' item)) :
    LinesShow (items.map line) (items.map line') := by
  rw [LinesShow, List.forall₂_map_left_iff, List.forall₂_map_right_iff]
  exact List.forall₂_same.2 each

theorem linesShow_flatMap {lines lines' : α → List String}
    (each : ∀ item ∈ items, LinesShow (lines item) (lines' item)) :
    LinesShow (items.flatMap lines) (items.flatMap lines') := by
  induction items with
  | nil => exact .nil
  | cons item rest ih =>
    rw [List.forall_mem_cons] at each
    exact each.1.append (ih each.2)

theorem shows_ofLines (all : LinesShow painted plain) :
    Shows (ofLines painted) (ofLines plain) := by
  induction all with
  | nil => exact EscapeFree.shows (by decide)
  | cons line rest ih =>
    simp only [ofLines, List.map_cons, String.join_cons]
    exact (line.append_right (by decide)).append ih

end Lines

/-! ## The strings of a result

Those are listed that lines of text show.  What JSON alone shows, such as the names that were
compared, is free to have any characters.
-/

/-- The strings that an issue brings along. -/
def issueStrings (issue : Issue) : List String :=
  issue.path :: findingStrings issue.finding

/-- The strings of a module's result that its lines show. -/
def validationStrings (result : ModuleValidation) : List String :=
  result.moduleName :: result.path.text :: result.symbols.map (·.name) ++
    result.issues.flatMap issueStrings ++ result.notes

/-- The strings of an export that its lines show. -/
def coveredStrings (symbol : CoveredSymbol) : List String :=
  symbol.name :: symbol.records.map (·.context)

/-- The strings of a module's coverage that its lines show. -/
def moduleCoverageStrings (result : ModuleCoverage) : List String :=
  result.moduleName :: result.path.text :: result.testPath.text ::
    (result.report.toList.flatMap fun report => report.symbols.flatMap coveredStrings) ++
    result.issues.flatMap issueStrings ++ result.notes

/-- The strings of a summary that its report shows. -/
def Summary.strings : Summary → List String
  | .validate summary => summary.modules.flatMap validationStrings
  | .coverage summary => summary.modules.flatMap moduleCoverageStrings
  | .init summary => summary.path.text :: summary.error.toList

/-! ## Issues -/

section Reports

variable (width : Width) (style : OutputStyle)

theorem shows_markOf (good : Bool) : Shows (markOf style good) (markOf style.plain good) := by
  cases good
  · exact shows_paint style .red (by decide)
  · exact shows_paint style .green (by decide)

theorem shows_severityText (severity : Severity) :
    Shows (severityText style severity) (severityText style.plain severity) := by
  cases severity
  · exact shows_paint style .boldRed (by decide)
  · exact shows_paint style .boldYellow (by decide)

theorem shows_remark (paint : Paint) {label text : String} (ofLabel : EscapeFree label)
    (clean : EscapeFree text) :
    Shows ("  " ++ style.paint .blue "=" ++ " " ++ style.paint paint label ++ " " ++ text)
      ("  " ++ style.plain.paint .blue "=" ++ " " ++ style.plain.paint paint label ++ " " ++
        text) :=
  EscapeFree.shows (by decide) |>.append (shows_paint style .blue (by decide))
    |>.append_right (by decide) |>.append (shows_paint style paint ofLabel)
    |>.append_right (by decide) |>.append_right clean

theorem linesShow_issueLines {issue : Issue} (clean : Clean (issueStrings issue)) :
    LinesShow (issueLines style issue) (issueLines style.plain issue) := by
  rw [issueStrings, clean_cons] at clean
  obtain ⟨ofPath, ofFinding⟩ := clean
  refine (LinesShow.append (.cons ?headline (.cons ?place .nil)) (linesShow_map ?details)).append
    (linesShow_map ?hints)
  case headline =>
    exact shows_severityText style issue.severity |>.append_right (by decide)
      |>.append_right (escapeFree_message ofFinding) |>.append_right (by decide)
      |>.append (shows_paint style .dimmedCyan (escapeFree_ruleLabel issue.rule))
  case place =>
    exact EscapeFree.shows (by decide) |>.append (shows_paint style .blue (by decide))
      |>.append_right (by decide) |>.append_right ofPath
  case details =>
    exact fun detail member =>
      shows_remark style .bold (by decide) (clean_details ofFinding detail member)
  case hints =>
    exact fun hint member =>
      shows_remark style .boldCyan (by decide) (escapeFree_of_hint? (Option.mem_toList.1 member))

theorem linesShow_issuesLines {issues : List Issue}
    (clean : ∀ issue ∈ issues, Clean (issueStrings issue)) :
    LinesShow (issuesLines style issues) (issuesLines style.plain issues) :=
  linesShow_flatMap fun issue member =>
    linesShow_issueLines style (clean issue (List.mem_mergeSort.1 member))

theorem linesShow_problemLines (outcome : Outcome) :
    LinesShow (problemLines style outcome) (problemLines style.plain outcome) := by
  unfold problemLines
  dsimp only
  split
  · exact .nil
  · refine .cons (Shows.append ?errors ?warnings) .nil
    case errors =>
      exact shows_paint style .red (by decide) |>.append_right (by decide)
        |>.append_right (escapeFree_repr _) |>.append_right (by decide)
        |>.append_right (escapeFree_repr _) |>.append_right (by decide)
        |>.append (shows_paint style .red (by simp +decide)) |>.append_right (by decide)
    case warnings =>
      exact EscapeFree.shows (escapeFree_repr _) |>.append_right (by decide)
        |>.append (shows_paint style .yellow (by simp +decide)) |>.append_right (by decide)

/-! ## Validation -/

theorem shows_validationHeading {result : ModuleValidation}
    (ofName : EscapeFree result.moduleName) (ofPath : EscapeFree result.path.text) :
    Shows (validationHeading style result) (validationHeading style.plain result) := by
  have ofTitle : EscapeFree (result.moduleName ++ " (" ++ result.path.text ++ ")") := by
    simp +decide [ofName, ofPath]
  have ofExports : EscapeFree (pluralize result.symbols.length "export") := by simp +decide
  have title := shows_paint style .bold ofTitle
  unfold validationHeading
  cases result.status with
  | passed | mismatch =>
    exact shows_markOf style _ |>.append_right (by decide) |>.append title
      |>.append_right (by decide) |>.append_right ofExports |>.append_right (by decide)
      |>.append_right (by split <;> simp +decide) |>.append_right (by decide)
  | listed => exact title.append_right (by decide) |>.append_right ofExports
  | failed =>
    exact shows_markOf style false |>.append_right (by decide) |>.append title
      |>.append_right (by decide)

theorem clean_symbolLines {symbols : List Symbol}
    (ofNames : ∀ symbol ∈ symbols, EscapeFree symbol.name) : Clean (symbolLines width symbols) := by
  intro line member
  obtain ⟨symbol, isSymbol, rfl⟩ := List.mem_map.1 member
  cases number : symbol.line <;> simp +decide [ofNames symbol isSymbol]

theorem linesShow_validationLines {result : ModuleValidation} (withTable : Bool)
    (clean : Clean (validationStrings result)) :
    LinesShow (validationLines width style withTable result)
      (validationLines width style.plain withTable result) := by
  simp only [validationStrings, clean_cons, clean_append, clean_flatMap] at clean
  obtain ⟨⟨⟨ofName, ofPath, ofSymbols⟩, ofIssues⟩, -⟩ := clean
  refine (LinesShow.append (.cons ?heading .nil) ?table).append
    (linesShow_issuesLines style ofIssues)
  case heading => exact shows_validationHeading style ofName ofPath
  case table =>
    split
    · exact linesShow_of_clean (clean_symbolLines width (List.forall_mem_map.1 ofSymbols))
    · exact .nil

theorem linesShow_validateLines {summary : ValidateSummary}
    (clean : ∀ result ∈ summary.modules, Clean (validationStrings result)) :
    LinesShow (validateLines width style summary) (validateLines width style.plain summary) := by
  unfold validateLines
  dsimp only
  refine ((linesShow_flatMap ?modules).append ?listing).append ?closing
  case modules =>
    exact fun result member => linesShow_validationLines width style _ (clean result member)
  case listing =>
    split
    · exact linesShow_of_clean (by simp +decide)
    · exact .nil
  case closing =>
    split
    · refine .cons (EscapeFree.shows (by decide)) (.cons ?_ .nil)
      exact shows_markOf style false |>.append_right (by decide)
        |>.append (shows_paint style .red (by simp +decide))
    · split
      · refine .cons (EscapeFree.shows (by decide)) (.cons ?_ .nil)
        exact shows_markOf style true |>.append_right (by decide)
          |>.append (shows_paint style .green (by simp +decide))
      · exact .nil

/-! ## Coverage -/

theorem linesShow_siteLines {records : List UsageRecord}
    (ofContexts : ∀ record ∈ records, EscapeFree record.context) :
    LinesShow (siteLines style records) (siteLines style.plain records) := by
  unfold siteLines
  dsimp only
  refine linesShow_map fun ⟨record, place⟩ member => ?_
  have ofContext : EscapeFree record.context :=
    ofContexts record (List.mem_of_mem_take (List.fst_mem_of_mem_zipIdx member))
  dsimp only
  exact EscapeFree.shows (by decide) |>.append (shows_paint style .cyan (by simp))
    |>.append_right (by decide) |>.append_right (escapeFree_repr _) |>.append_right (by decide)
    |>.append_right ofContext |>.append_right (by simp +decide)

@[simp] theorem escapeFree_kindText (symbol : CoveredSymbol) : EscapeFree (kindText symbol) := by
  unfold kindText
  split <;> simp +decide

theorem linesShow_coveredLines {symbols : List CoveredSymbol}
    (clean : ∀ symbol ∈ symbols, Clean (coveredStrings symbol)) :
    LinesShow (coveredLines width style symbols) (coveredLines width style.plain symbols) := by
  unfold coveredLines
  dsimp only
  refine linesShow_flatMap fun symbol member => ?_
  obtain ⟨ofName, ofContexts⟩ := clean_cons.1 (clean symbol member)
  refine .cons ?_ (linesShow_siteLines style (List.forall_mem_map.1 ofContexts))
  -- Cells are padded by their own width, and only the mark in front of them is painted.
  exact EscapeFree.shows (by decide) |>.append (shows_markOf style _) |>.append_right (by decide)
    |>.append_right (escapeFree_pad.2 ofName) |>.append_right (by decide)
    |>.append_right (by simp +decide) |>.append_right (by simp +decide)

theorem linesShow_moduleCoverageLines {result : ModuleCoverage}
    (clean : Clean (moduleCoverageStrings result)) :
    LinesShow (moduleCoverageLines width style result)
      (moduleCoverageLines width style.plain result) := by
  simp only [moduleCoverageStrings, clean_cons, clean_append, clean_flatMap,
    Option.mem_toList] at clean
  obtain ⟨⟨⟨ofName, ofPath, ofTestPath, ofReport⟩, ofIssues⟩, -⟩ := clean
  have ofTitle : EscapeFree (result.moduleName ++ " (" ++ result.path.text ++ " -> " ++
      result.testPath.text ++ ")") := by
    simp +decide [ofName, ofPath, ofTestPath]
  have title := shows_paint style .bold ofTitle
  have failure := shows_markOf style false |>.append_right (by decide : EscapeFree " ")
    |>.append title |>.append_right (by decide : EscapeFree ": failed")
  refine LinesShow.append ?body (linesShow_issuesLines style ofIssues)
  cases result.status with
  | measured =>
    cases isReport : result.report with
    | none => exact .cons failure .nil
    | some report =>
      refine .cons ?_ (linesShow_coveredLines width style (ofReport report isReport))
      dsimp only
      cases report.ratio with
      | none => exact title.append_right (by decide)
      | some ratio =>
        exact title.append_right (by decide) |>.append_right (escapeFree_repr _)
          |>.append_right (by decide) |>.append_right (escapeFree_repr _)
          |>.append_right (by decide) |>.append_right (escapeFree_renderPercent ratio)
          |>.append_right (by decide)
  | skipped =>
    refine .cons ?_ .nil
    exact shows_paint style .dimmed (by decide) |>.append_right (by decide)
      |>.append (shows_paint style .bold ofName) |>.append_right (by decide)
  | failed => exact .cons failure .nil

theorem escapeFree_totalsText (totals : CoverageTotals) : EscapeFree (totalsText totals) := by
  unfold totalsText
  cases totals.ratio <;> simp +decide

theorem linesShow_coverageLines {summary : CoverageSummary}
    (clean : ∀ result ∈ summary.modules, Clean (moduleCoverageStrings result)) :
    LinesShow (coverageLines width style summary) (coverageLines width style.plain summary) := by
  refine (linesShow_flatMap ?modules).append
    (.cons (EscapeFree.shows (by decide)) (.cons ?totals .nil))
  case modules =>
    exact fun result member => linesShow_moduleCoverageLines width style (clean result member)
  case totals => exact shows_paint style .bold (escapeFree_totalsText summary.totals)

/-! ## Notes and initialisation -/

theorem linesShow_noteLines {moduleName : String} {notes : List String}
    (ofName : EscapeFree moduleName) (clean : Clean notes) :
    LinesShow (noteLines style moduleName notes) (noteLines style.plain moduleName notes) :=
  linesShow_map fun note member =>
    shows_paint style .bold (by decide) |>.append_right (by decide) |>.append_right ofName
      |>.append_right (by decide) |>.append_right (clean note member)

theorem linesShow_notesLines {summary : Summary} (clean : Clean summary.strings) :
    LinesShow (notesLines style summary) (notesLines style.plain summary) := by
  cases summary with
  | validate summary =>
    refine linesShow_flatMap fun result member => ?_
    have each : Clean (validationStrings result) := clean_flatMap.1 clean result member
    simp only [validationStrings, clean_cons, clean_append] at each
    exact linesShow_noteLines style each.1.1.1 each.2
  | coverage summary =>
    refine linesShow_flatMap fun result member => ?_
    have each : Clean (moduleCoverageStrings result) := clean_flatMap.1 clean result member
    simp only [moduleCoverageStrings, clean_cons, clean_append] at each
    exact linesShow_noteLines style each.1.1.1 each.2
  | init summary => exact .nil

theorem shows_createdLine {path : Path} (clean : EscapeFree path.text) :
    Shows (createdLine style path) (createdLine style.plain path) :=
  shows_markOf style true |>.append_right (by decide)
    |>.append (shows_paint style .green (by simp +decide [clean]))

/-! ## Reports -/

/-- What is printed on either channel shows what is printed there without color. -/
structure Printed.Shows (painted plain : Printed) : Prop where
  output : Report.Shows painted.output plain.output
  errors : Report.Shows painted.errors plain.errors

theorem Printed.Shows.uncolored_eq {painted plain : Printed} (shown : painted.Shows plain) :
    painted.uncolored = plain := by
  rw [Printed.uncolored, shown.output.uncolored_eq, shown.errors.uncolored_eq]

theorem shows_empty : Shows "" "" :=
  EscapeFree.shows (by decide)

theorem shows_printInit {summary : InitSummary} (clean : Clean (Summary.init summary).strings) :
    (printInit style summary).Shows (printInit style.plain summary) := by
  obtain ⟨ofPath, ofError⟩ := clean_cons.1 clean
  unfold printInit
  cases isError : summary.error with
  | none =>
    exact ⟨shows_ofLines (.cons (shows_createdLine style ofPath) .nil), shows_empty⟩
  | some error =>
    have message : EscapeFree error := clean_toList.1 ofError error isError
    have line : LinesShow ["Error: " ++ error] ["Error: " ++ error] :=
      linesShow_of_clean (by simp +decide [message])
    exact ⟨shows_empty, shows_ofLines line⟩

theorem shows_printReport (outcome : Outcome) (clean : Clean outcome.summary.strings) :
    (printReport width style outcome).Shows (printReport width style.plain outcome) := by
  have problems := linesShow_problemLines style outcome
  have inJson : LinesShow [outcome.summary.toJson.pretty] [outcome.summary.toJson.pretty] :=
    .cons (escapeFree_pretty_toJson outcome.summary).shows .nil
  obtain ⟨color, form, verbose⟩ := style
  obtain ⟨summary, errorCount, warningCount, exitOnErrors⟩ := outcome
  cases summary with
  | init summary => exact shows_printInit _ clean
  | validate summary =>
    cases form with
    | json => exact ⟨shows_ofLines inJson, shows_empty⟩
    | text =>
      have modules := linesShow_validateLines width ⟨color, .text, verbose⟩ (clean_flatMap.1 clean)
      exact ⟨shows_ofLines (modules.append problems), shows_empty⟩
  | coverage summary =>
    cases form with
    | json => exact ⟨shows_ofLines inJson, shows_empty⟩
    | text =>
      have modules := linesShow_coverageLines width ⟨color, .text, verbose⟩ (clean_flatMap.1 clean)
      exact ⟨shows_ofLines (modules.append problems), shows_empty⟩

/-- What an outcome prints in a style shows what it prints in the same style without color. -/
theorem shows_print (outcome : Outcome) (clean : Clean outcome.summary.strings) :
    (outcome.print width style).Shows (outcome.print width style.plain) := by
  have report := shows_printReport width style outcome clean
  have notes := shows_ofLines (linesShow_notesLines style clean)
  refine ⟨report.output, Shows.append ?_ report.errors⟩
  -- Color has no say in whether notes are printed.
  change Shows (if style.verbose then _ else "") (if style.verbose then _ else "")
  split
  · exact notes
  · exact shows_empty

end Reports

/-- **What is printed with color is, without its sequences, what is printed without color**, on
both channels, in either form, with or without notes, and whatever width texts have. -/
theorem uncolored_print (outcome : Outcome) (width : Width) (style : OutputStyle)
    (clean : Clean outcome.summary.strings) :
    (outcome.print width { style with color := true }).uncolored =
      outcome.print width { style with color := false } :=
  (shows_print width { style with color := true } outcome clean).uncolored_eq

example :
    (printInit { color := true } ⟨⟨".modcovrc.json"⟩, none⟩).output =
        "\x1b[32m\u2713\x1b[0m \x1b[32mCreated .modcovrc.json\x1b[0m\n" ∧
      uncolored "\x1b[32m\u2713\x1b[0m \x1b[32mCreated .modcovrc.json\x1b[0m\n" =
        "\u2713 Created .modcovrc.json\n" := by
  decide

/-- A measurement that finds five sites of one export and none of another, whose name takes two
columns a character. -/
def wideNames : Outcome :=
  finish (.coverage {
    modules := [{
      moduleName := "fs"
      path := ⟨"src/fs.cppm"⟩
      testPath := ⟨"tests/test_fs.cpp"⟩
      status := .measured
      report := some {
        symbols := [
          ⟨"path", some .classType, 5,
            [1, 2, 3, 4, 5].map fun line => ⟨"path", .call, line, "std::path (\"[0m\")"⟩⟩,
          ⟨"\u8def\u5f84", none, 0, []⟩]
        used := 1
        total := 2
        ratio := some ⟨1, 2⟩ }
      issues := [⟨"src/fs.cppm", .correlationGap "path"⟩]
      notes := ["1 of 2 exports used"] }]
    totals := ⟨1, 0, 0, 1, 2, some ⟨1, 2⟩⟩
    strategy := .tree
    exports := .dump }) false

/-- The width of the texts that stand in the columns of that measurement. -/
def wideNamesWidth : Width := fun text =>
  if text = "\u8def\u5f84" then 4 else text.length

/-- The wide name lacks no blank to the other one, though it has half as many characters. -/
theorem uncolored_print_wideNames :
    Clean wideNames.summary.strings ∧
      (pad wideNamesWidth "\u8def\u5f84" (columnWidth wideNamesWidth ["path", "\u8def\u5f84"]) =
        "\u8def\u5f84") ∧
      (wideNames.print wideNamesWidth { color := true, verbose := true }).uncolored =
        wideNames.print wideNamesWidth { color := false, verbose := true } := by
  have clean : Clean wideNames.summary.strings := by decide
  exact ⟨clean, by decide, uncolored_print wideNames wideNamesWidth { verbose := true } clean⟩

end ExportAudit.Report
