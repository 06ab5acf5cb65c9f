import ExportAudit.Proofs.Json.ReadBack
import ExportAudit.Report.Json
import ExportAudit.Report.Text

/-!
# Texts without escape characters

Texts put together of texts without escape characters have none, and numbers are written
without them.  So the wording of an issue, a cell of a table and a counted noun have none if
the strings that they are made of have none.

A report in JSON is another matter: there a control character of a string is printed by its
code, so **a report in JSON has no escape character whatever strings it reports.**  Only the
literals of its numbers are printed as they are.
-/

namespace ExportAudit.Report

set_option autoImplicit false

open ExportAudit.Text ExportAudit.Analysis ExportAudit.Usage ExportAudit.Export
open ExportAudit.Source

/-- A text has no escape character. -/
def EscapeFree (text : String) : Prop :=
  '\x1b' ∉ text.toList

instance (text : String) : Decidable (EscapeFree text) :=
  inferInstanceAs (Decidable ('\x1b' ∉ text.toList))

/-- None of some texts has an escape character. -/
def Clean (texts : List String) : Prop :=
  ∀ text ∈ texts, EscapeFree text

instance (texts : List String) : Decidable (Clean texts) :=
  inferInstanceAs (Decidable (∀ text ∈ texts, EscapeFree text))

@[simp] theorem clean_nil : Clean [] :=
  List.forall_mem_nil _

@[simp] theorem clean_cons {text : String} {texts : List String} :
    Clean (text :: texts) ↔ EscapeFree text ∧ Clean texts :=
  List.forall_mem_cons

@[simp] theorem clean_append {texts more : List String} :
    Clean (texts ++ more) ↔ Clean texts ∧ Clean more :=
  List.forall_mem_append

@[simp] theorem clean_flatMap {α : Type} {items : List α} {texts : α → List String} :
    Clean (items.flatMap texts) ↔ ∀ item ∈ items, Clean (texts item) := by
  simp only [Clean, List.mem_flatMap]
  grind

@[simp] theorem clean_toList {text : Option String} :
    Clean text.toList ↔ ∀ line, text = some line → EscapeFree line := by
  simp [Clean]

/-! ## Texts -/

@[simp] theorem escapeFree_append {front back : String} :
    EscapeFree (front ++ back) ↔ EscapeFree front ∧ EscapeFree back := by
  simp [EscapeFree]

@[simp] theorem escapeFree_ofList {characters : List Char} :
    EscapeFree (String.ofList characters) ↔ '\x1b' ∉ characters := by
  simp [EscapeFree]

@[simp] theorem escapeFree_toString {text : String} :
    EscapeFree (toString text) ↔ EscapeFree text :=
  Iff.rfl

@[simp] theorem escapeFree_ite {p : Prop} [Decidable p] {text other : String} :
    EscapeFree (if p then text else other) ↔
      (p → EscapeFree text) ∧ (¬ p → EscapeFree other) := by
  split <;> simp [*]

theorem escapeFree_intercalate {separator : String} (apart : EscapeFree separator)
    {texts : List String} (clean : Clean texts) : EscapeFree (separator.intercalate texts) := by
  induction texts with
  | nil => exact List.not_mem_nil
  | cons text rest ih =>
    cases rest with
    | nil =>
      rw [String.intercalate_singleton]
      exact (clean_cons.1 clean).1
    | cons next rest =>
      rw [clean_cons] at clean
      rw [String.intercalate_cons_cons, escapeFree_append, escapeFree_append]
      exact ⟨⟨clean.1, apart⟩, ih clean.2⟩

/-! ## Numbers -/

theorem escape_notMem_decimal (number : ℕ) : '\x1b' ∉ decimal number := fun member =>
  absurd (isAsciiDigit_of_mem_decimal member) (by decide)

@[simp] theorem escapeFree_repr (number : ℕ) : EscapeFree number.repr := by
  rw [EscapeFree, ← Nat.toString_eq_repr, Json.toList_toString_nat]
  exact escape_notMem_decimal number

@[simp] theorem escapeFree_intRepr (number : ℤ) : EscapeFree number.repr := by
  have isText : number.repr = toString number := by simp
  rw [isText, EscapeFree, Json.toList_toString_int, List.mem_append, not_or]
  refine ⟨?_, escape_notMem_decimal _⟩
  cases decide (number < 0) <;> decide

@[simp] theorem escapeFree_pluralize {count : ℕ} {noun : String} :
    EscapeFree (pluralize count noun) ↔ EscapeFree noun := by
  simp +decide [pluralize]

@[simp] theorem escapeFree_pad {width : Width} {text : String} {columns : ℕ} :
    EscapeFree (pad width text columns) ↔ EscapeFree text := by
  simp [pad, List.mem_replicate]

@[simp] theorem escapeFree_renderPercent (ratio : Fraction) :
    EscapeFree (Decimal.renderPercent ratio) := by
  simp +decide [Decimal.renderPercent, Decimal.renderTenths]

/-- The digits of a decimal are cut by a point and filled up with zeros, or an exponent follows. -/
theorem escapeFree_render (number : Decimal.Scientific) : EscapeFree number.render := by
  have digits : '\x1b' ∉ (toString number.digits).toList := by
    rw [Json.toList_toString_nat]
    exact escape_notMem_decimal _
  unfold Decimal.Scientific.render
  generalize (toString number.digits).toList = text at digits
  rw [escapeFree_ofList]
  split_ifs
  · simp [digits, List.mem_replicate]
  · simp only [List.mem_append, List.mem_singleton, not_or]
    exact ⟨⟨fun member => digits (List.mem_of_mem_take member), by decide⟩,
      fun member => digits (List.mem_of_mem_drop member)⟩
  · simp [digits, List.mem_replicate]
  · simp only [List.mem_append, List.mem_singleton, not_or]
    refine ⟨⟨?_, by decide⟩, by simpa [EscapeFree] using escapeFree_intRepr _⟩
    match text with
    | [] => exact List.not_mem_nil
    | [digit] => exact digits
    | first :: second :: rest => simpa using digits

@[simp] theorem escapeFree_renderRatio (ratio : Fraction) :
    EscapeFree (Decimal.renderRatio ratio) := by
  unfold Decimal.renderRatio Decimal.renderDouble
  split
  · decide
  · exact escapeFree_render _

/-! ## The wording of issues -/

/-- The strings that a failure brings along. -/
def failureStrings : ToolFailure → List String
  | .notFound program => [program]
  | .spawn program reason => [program, reason]
  | .timeout program _ => [program]
  | .exitStatus program _ stderr => [program, stderr]
  | .emptyOutput tool => [tool]
  | .io path reason => [path.text, reason]
  | .missingDump path => [path.text]

/-- The strings that a finding brings along. -/
def findingStrings : Finding → List String
  | .fileNotFound reason => [reason]
  | .toolFailure failure => failureStrings failure
  | .inconclusiveDump _ firstLine => firstLine.toList
  | .mismatch onlyDump onlyHeuristic => onlyDump ++ onlyHeuristic
  | .emptyExtraction _ => []
  | .correlationGap symbol => [symbol]
  | .noTestFile expected => [expected]

@[simp] theorem escapeFree_ruleLabel (rule : Rule) : EscapeFree rule.label := by
  cases rule <;> decide

@[simp] theorem escapeFree_extractorLabel (extractor : Extractor) : EscapeFree extractor.label := by
  cases extractor <;> decide

@[simp] theorem escapeFree_kindLabel (kind : SymbolKind) : EscapeFree kind.label := by
  cases kind <;> decide

@[simp] theorem escapeFree_useLabel (kind : UsageKind) : EscapeFree kind.label := by
  cases kind <;> decide

theorem escapeFree_failureMessage {failure : ToolFailure} (clean : Clean (failureStrings failure)) :
    EscapeFree failure.message := by
  -- Unfolded before the cases: an equation for each case would be slow to derive.
  unfold ToolFailure.message
  cases failure with
  | exitStatus program code stderr =>
    simp only [failureStrings, clean_cons] at clean
    obtain ⟨ofProgram, ofStderr, -⟩ := clean
    cases code <;> dsimp only <;> split <;> simp +decide [ofProgram, ofStderr]
  | _ => simp_all +decide [failureStrings]

theorem escapeFree_message {issue : Issue} (clean : Clean (findingStrings issue.finding)) :
    EscapeFree issue.message := by
  obtain ⟨path, finding⟩ := issue
  cases finding with
  | toolFailure failure =>
    have ofFailure : EscapeFree failure.message := escapeFree_failureMessage clean
    simp +decide [Issue.message, ofFailure]
  | mismatch onlyDump onlyHeuristic => simp +decide [Issue.message]
  | _ => simp_all +decide [findingStrings, Issue.message]

theorem clean_listing {label : String} {names : List String} (ofLabel : EscapeFree label)
    (clean : Clean names) : Clean (Issue.listing label names) := by
  unfold Issue.listing
  split
  · exact clean_nil
  · have all : EscapeFree (", ".intercalate names) := escapeFree_intercalate (by decide) clean
    simp [ofLabel, all]

theorem clean_details {issue : Issue} (clean : Clean (findingStrings issue.finding)) :
    Clean issue.details := by
  obtain ⟨path, finding⟩ := issue
  cases finding with
  | inconclusiveDump lineCount firstLine =>
    cases firstLine with
    | none => exact clean_nil
    | some line =>
      have ofLine : EscapeFree line := (clean_cons.1 clean).1
      simp +decide [Issue.details, ofLine]
  | mismatch onlyDump onlyHeuristic =>
    obtain ⟨ofDump, ofHeuristic⟩ := clean_append.1 clean
    exact clean_append.2 ⟨clean_listing (by decide) ofDump, clean_listing (by decide) ofHeuristic⟩
  | _ => exact clean_nil

theorem escapeFree_of_hint? {issue : Issue} {hint : String} (isHint : issue.hint? = some hint) :
    EscapeFree hint := by
  unfold Issue.hint? at isHint
  split at isHint <;> cases isHint <;> decide

/-! ## Values -/

section Values

open Json

theorem hexDigit_ne_escape {n : ℕ} (small : n < 16) : hexDigit n ≠ '\x1b' := by
  revert n
  decide

/-- **An escape character in a string is printed by its code.** -/
theorem escape_notMem_escape (c : Char) : '\x1b' ∉ escape c := by
  unfold escape
  split_ifs with _ _ _ _ _ _ _ control
  iterate 7 decide
  · have high : hexDigit (c.toNat / 16) ≠ '\x1b' := hexDigit_ne_escape (by omega)
    have low : hexDigit (c.toNat % 16) ≠ '\x1b' := hexDigit_ne_escape (by omega)
    simp [high.symm, low.symm]
  · rw [List.mem_singleton]
    rintro rfl
    exact control (by decide)

theorem escape_notMem_quote (text : String) : '\x1b' ∉ quote text := by
  simp [quote, escape_notMem_escape]

theorem escape_notMem_newLine (level : ℕ) : '\x1b' ∉ newLine level := by
  simp [newLine, List.mem_replicate]

/-- The literals of the numbers in a value have no escape character. -/
inductive PlainNumbers : Json → Prop where
  | null : PlainNumbers .null
  | bool (value : Bool) : PlainNumbers (.bool value)
  | number {literal : String} (clean : EscapeFree literal) : PlainNumbers (.number literal)
  | string (value : String) : PlainNumbers (.string value)
  | array {items : List Json} (each : ∀ item ∈ items, PlainNumbers item) :
      PlainNumbers (.array items)
  | object {members : List (String × Json)} (each : ∀ member ∈ members, PlainNumbers member.2) :
      PlainNumbers (.object members)

mutual
/-- **A value is printed without escape characters if its numbers are.** -/
theorem escape_notMem_prettyChars (level : ℕ) {value : Json} (plain : PlainNumbers value) :
    '\x1b' ∉ prettyChars level value := by
  match value, plain with
  | .null, _ =>
    rw [prettyChars]
    decide
  | .bool value, _ =>
    rw [prettyChars]
    cases value <;> decide
  | .number literal, .number clean => exact clean
  | .string text, _ => exact escape_notMem_quote text
  | .array [], _ =>
    rw [prettyChars]
    decide
  | .array (item :: rest), .array each =>
    have ofItem := escape_notMem_prettyChars (level + 1) (each item List.mem_cons_self)
    have ofRest := escape_notMem_prettyItems (level + 1) fun item member =>
      each item (List.mem_cons_of_mem _ member)
    simp [prettyChars, escape_notMem_newLine, ofItem, ofRest]
  | .object [], _ =>
    rw [prettyChars]
    decide
  | .object ((name, value) :: rest), .object each =>
    have ofValue := escape_notMem_prettyChars (level + 1) (each (name, value) List.mem_cons_self)
    have ofRest := escape_notMem_prettyMembers (level + 1) fun member isMember =>
      each member (List.mem_cons_of_mem _ isMember)
    simp [prettyChars, escape_notMem_newLine, escape_notMem_quote, ofValue, ofRest]

theorem escape_notMem_prettyItems (level : ℕ) {items : List Json}
    (plain : ∀ item ∈ items, PlainNumbers item) : '\x1b' ∉ prettyItems level items := by
  match items with
  | [] => exact List.not_mem_nil
  | item :: rest =>
    have ofItem := escape_notMem_prettyChars level (plain item List.mem_cons_self)
    have ofRest := escape_notMem_prettyItems level fun item member =>
      plain item (List.mem_cons_of_mem _ member)
    simp [prettyItems, escape_notMem_newLine, ofItem, ofRest]

theorem escape_notMem_prettyMembers (level : ℕ) {members : List (String × Json)}
    (plain : ∀ member ∈ members, PlainNumbers member.2) :
    '\x1b' ∉ prettyMembers level members := by
  match members with
  | [] => exact List.not_mem_nil
  | (name, value) :: rest =>
    have ofValue := escape_notMem_prettyChars level (plain (name, value) List.mem_cons_self)
    have ofRest := escape_notMem_prettyMembers level fun member isMember =>
      plain member (List.mem_cons_of_mem _ isMember)
    simp [prettyMembers, escape_notMem_newLine, escape_notMem_quote, ofValue, ofRest]
end

/-! ## Reports in JSON -/

attribute [simp] PlainNumbers.null PlainNumbers.bool PlainNumbers.string

@[simp] theorem plainNumbers_array {items : List Json} :
    PlainNumbers (.array items) ↔ ∀ item ∈ items, PlainNumbers item :=
  ⟨fun | .array each => each, .array⟩

@[simp] theorem plainNumbers_object {members : List (String × Json)} :
    PlainNumbers (.object members) ↔ ∀ member ∈ members, PlainNumbers member.2 :=
  ⟨fun | .object each => each, .object⟩

@[simp] theorem plainNumbers_ofNat (number : ℕ) : PlainNumbers (ofNat number) :=
  .number (escapeFree_repr number)

@[simp] theorem plainNumbers_ofFraction (ratio : Fraction) : PlainNumbers (ofFraction ratio) :=
  .number (escapeFree_renderRatio ratio)

@[simp] theorem plainNumbers_ofStrings (texts : List String) : PlainNumbers (ofStrings texts) := by
  simp [ofStrings]

theorem plainNumbers_ofOption {α : Type} {encode : α → Json}
    (each : ∀ value, PlainNumbers (encode value)) (value : Option α) :
    PlainNumbers (ofOption encode value) := by
  cases value with
  | none => exact .null
  | some value => exact each value

theorem plainNumbers_optionalMember {α : Type} {name : String} {encode : α → Json}
    (each : ∀ value, PlainNumbers (encode value)) (value : Option α) :
    ∀ member ∈ optionalMember name encode value, PlainNumbers member.2 := by
  cases value with
  | none => exact List.forall_mem_nil _
  | some value => exact List.forall_mem_singleton.2 (each value)

theorem plainNumbers_issue (issue : Issue) : PlainNumbers issue.toJson := by
  unfold Issue.toJson
  split <;> simp

theorem plainNumbers_symbol (symbol : Symbol) : PlainNumbers (symbolJson symbol) := by
  simp [symbolJson, plainNumbers_ofOption]

theorem plainNumbers_names (names : NameSet) : PlainNumbers (namesJson names) :=
  plainNumbers_ofStrings names.toList

theorem plainNumbers_reconciliation (comparison : Reconciliation) :
    PlainNumbers (reconciliationJson comparison) := by
  simp [reconciliationJson, plainNumbers_names]

theorem plainNumbers_validation (result : ModuleValidation) :
    PlainNumbers (validationJson result) := by
  rw [validationJson, plainNumbers_object]
  simp only [List.forall_mem_append]
  refine ⟨⟨⟨?_, plainNumbers_optionalMember plainNumbers_names _⟩,
    plainNumbers_optionalMember plainNumbers_reconciliation _⟩, ?_⟩
  · simp [plainNumbers_symbol]
  · simp [plainNumbers_issue]

theorem plainNumbers_record (record : UsageRecord) : PlainNumbers (recordJson record) := by
  simp [recordJson]

theorem plainNumbers_covered (symbol : CoveredSymbol) : PlainNumbers (coveredJson symbol) := by
  rw [coveredJson, plainNumbers_object]
  simp only [List.forall_mem_append]
  refine ⟨⟨⟨by simp, plainNumbers_optionalMember (fun _ => .string _) _⟩, by simp⟩, ?_⟩
  split <;> simp [plainNumbers_record]

theorem plainNumbers_coverageReport (report : CoverageReport) :
    PlainNumbers (coverageReportJson report) := by
  simp [coverageReportJson, plainNumbers_covered, plainNumbers_ofOption]

theorem plainNumbers_moduleCoverage (result : ModuleCoverage) :
    PlainNumbers (moduleCoverageJson result) := by
  rw [moduleCoverageJson, plainNumbers_object]
  simp only [List.forall_mem_append]
  refine ⟨⟨by simp, plainNumbers_optionalMember plainNumbers_coverageReport _⟩, ?_⟩
  simp [plainNumbers_issue]

theorem plainNumbers_toJson (summary : Summary) : PlainNumbers summary.toJson := by
  cases summary with
  | validate summary => simp [Summary.toJson, plainNumbers_validation]
  | coverage summary =>
    simp [Summary.toJson, totalsJson, plainNumbers_moduleCoverage, plainNumbers_ofOption]
  | init summary => simp [Summary.toJson, plainNumbers_ofOption]

/-- **The report of a summary in JSON has no escape character.** -/
theorem escapeFree_pretty_toJson (summary : Summary) : EscapeFree summary.toJson.pretty :=
  escapeFree_ofList.2 (escape_notMem_prettyChars 0 (plainNumbers_toJson summary))

end Values

end ExportAudit.Report
