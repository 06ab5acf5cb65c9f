import ExportAudit.Proofs.Analysis.Gaps
import ExportAudit.Report.Printed
import Mathlib.Data.List.Nodup
import Mathlib.Data.List.Pairwise
import Mathlib.Data.Prod.Lex
import Mathlib.Data.String.Basic

/-!
# The order of the issues of a module

The issues of a module are printed in their order, which looks at paths, rules and messages
and at nothing else.  Issues that agree in all three are tied, and tied issues are printed as
they arrive, whatever else they say.

No two issues of a validation are tied.  It raises at most one issue of a rule, with two
exceptions: a warning that nothing was found names the place that was searched, and the
warning of a gap names its symbol, **and a catalog lists each name once.**  So what is printed
depends on the issues alone and not on how they arrive: group after group of one rule, with
each gap once among the gaps.
-/

namespace ExportAudit

set_option autoImplicit false

/-! ## Rules -/

namespace Rule

/-- The rules in their order. -/
def inOrder : List Rule :=
  [.fileNotFound, .toolFailure, .inconclusiveDump, .mismatch, .emptyExtraction, .correlationGap,
    .noTestFile]

/-- The rank of a rule is its place. -/
theorem getElem?_rank (rule : Rule) : inOrder[rule.rank]? = some rule := by
  cases rule <;> rfl

theorem rank_injective : Function.Injective rank := by
  intro first second same
  refine Option.some.inj ((getElem?_rank first).symm.trans ?_)
  rw [same, getElem?_rank]

theorem pairwise_inOrder : inOrder.Pairwise (fun first second => first.rank < second.rank) := by
  decide

theorem sum_inOrder (rule : Rule) (count : ℕ) :
    (inOrder.map fun other => if rule = other then count else 0).sum = count := by
  cases rule <;> simp [inOrder]

end Rule

/-! ## Ties -/

namespace Issue

/-- What the order of issues looks at. -/
def key (issue : Issue) : String ×ₗ ℕ ×ₗ String :=
  toLex (issue.path, toLex (issue.rule.rank, issue.message))

theorem precedes_iff {a b : Issue} : a.precedes b = true ↔ a.key ≤ b.key := by
  rw [key, key, Prod.Lex.toLex_le_toLex, Prod.Lex.toLex_le_toLex, precedes]
  by_cases path : a.path = b.path
  · by_cases rule : a.rule = b.rule
    · simp [path, rule]
    · have rank : a.rule.rank ≠ b.rule.rank := fun same => rule (Rule.rank_injective same)
      simp [path, rule, rank]
  · simp [path]

/-- The order does not tell two issues apart. -/
def Tied (a b : Issue) : Prop :=
  a.precedes b = true ∧ b.precedes a = true

theorem tied_iff_key {a b : Issue} : a.Tied b ↔ a.key = b.key := by
  rw [Tied, precedes_iff, precedes_iff, le_antisymm_iff]

/-- **Issues are tied exactly if they agree in path, rule and message.** -/
theorem tied_iff {a b : Issue} :
    a.Tied b ↔ a.path = b.path ∧ a.rule = b.rule ∧ a.message = b.message := by
  rw [tied_iff_key, key, key, toLex_inj, Prod.mk.injEq, toLex_inj, Prod.mk.injEq,
    Rule.rank_injective.eq_iff]

instance : Std.Symm fun a b : Issue => ¬ a.Tied b :=
  ⟨fun _ _ apart again => apart again.symm⟩

/-- No two issues of a list are tied. -/
def Untied (issues : List Issue) : Prop :=
  issues.Pairwise fun a b => ¬ a.Tied b

/-- Tied issues of an untied list are one issue. -/
theorem Untied.eq_of_tied {issues : List Issue} (untied : Untied issues) {a b : Issue}
    (first : a ∈ issues) (second : b ∈ issues) (tied : a.Tied b) : a = b := by
  by_contra different
  exact List.Pairwise.forall untied first second different tied

theorem Untied.perm {issues others : List Issue} (untied : Untied issues)
    (perm : issues.Perm others) : Untied others :=
  List.Pairwise.perm untied perm fun apart again => apart again.symm

theorem Untied.nodup {issues : List Issue} (untied : Untied issues) : issues.Nodup := by
  refine List.Pairwise.imp (fun {a b} apart same => apart ?_) untied
  rw [same]
  exact tied_iff.2 ⟨rfl, rfl, rfl⟩

theorem untied_append {first second : List Issue} :
    Untied (first ++ second) ↔
      Untied first ∧ Untied second ∧ ∀ a ∈ first, ∀ b ∈ second, ¬ a.Tied b :=
  List.pairwise_append

theorem not_tied_of_rule_ne {a b : Issue} (different : a.rule ≠ b.rule) : ¬ a.Tied b :=
  fun tied => different (tied_iff.1 tied).2.1

/-! ## Sorted issues -/

theorem sorted_perm (issues : List Issue) : (sorted issues).Perm issues :=
  List.mergeSort_perm issues precedes

theorem pairwise_sorted (issues : List Issue) :
    (sorted issues).Pairwise (fun a b => a.key ≤ b.key) := by
  have ordered : (sorted issues).Pairwise (fun a b => a.precedes b = true) := by
    refine List.pairwise_mergeSort (fun a b c first second => ?_) (fun a b => ?_) issues
    · rw [precedes_iff] at first second ⊢
      exact first.trans second
    · rw [Bool.or_eq_true, precedes_iff, precedes_iff]
      exact le_total a.key b.key
  exact ordered.imp precedes_iff.1

/-- **Untied issues can be put in order in one way only.** -/
theorem Untied.eq_of_perm {issues others : List Issue} (untied : Untied issues)
    (perm : issues.Perm others) (ordered : issues.Pairwise (fun a b => a.key ≤ b.key))
    (ordered' : others.Pairwise (fun a b => a.key ≤ b.key)) : issues = others := by
  refine List.Perm.eq_of_pairwise (fun a b first second less greater => ?_) ordered ordered' perm
  exact untied.eq_of_tied first (perm.symm.subset second)
    (tied_iff_key.2 (le_antisymm less greater))

/-- **So their order does not depend on how they arrive.** -/
theorem Untied.sorted_eq {issues arrived : List Issue} (untied : Untied issues)
    (perm : arrived.Perm issues) : sorted arrived = sorted issues := by
  have untied' : Untied (sorted arrived) := untied.perm (perm.symm.trans (sorted_perm arrived).symm)
  exact untied'.eq_of_perm ((sorted_perm arrived).trans (perm.trans (sorted_perm issues).symm))
    (pairwise_sorted arrived) (pairwise_sorted issues)

/-! ## Groups of one rule -/

/-- The issues of one rule. -/
def ofRule (rule : Rule) (issues : List Issue) : List Issue :=
  issues.filter (·.rule == rule)

theorem count_ofRule (rule : Rule) (issues : List Issue) (issue : Issue) :
    (ofRule rule issues).count issue = if issue.rule = rule then issues.count issue else 0 := by
  split
  · next same => exact List.count_filter (by simpa using same)
  · next other =>
    rw [List.count_eq_zero]
    intro member
    exact other (by simpa using (List.mem_filter.1 member).2)

theorem perm_flatMap_ofRule (issues : List Issue) :
    (Rule.inOrder.flatMap fun rule => ofRule rule issues).Perm issues := by
  refine List.perm_iff_count.2 fun issue => ?_
  rw [List.count_flatMap, ← Rule.sum_inOrder issue.rule (issues.count issue)]
  simp only [Function.comp_def, count_ofRule]

/-- **Untied issues of one file are ordered group by group.** -/
theorem Untied.sorted_eq_flatMap {issues : List Issue} (untied : Untied issues) {path : String}
    (onePath : ∀ issue ∈ issues, issue.path = path) :
    sorted issues = Rule.inOrder.flatMap fun rule => sorted (ofRule rule issues) := by
  have perm : (sorted issues).Perm
      (Rule.inOrder.flatMap fun rule => sorted (ofRule rule issues)) :=
    (sorted_perm issues).trans <| (perm_flatMap_ofRule issues).symm.trans <|
      List.Perm.flatMap_left _ fun rule _ => (sorted_perm _).symm
  refine (untied.perm (sorted_perm issues).symm).eq_of_perm perm (pairwise_sorted issues) ?_
  refine List.pairwise_flatMap.2 ⟨fun rule _ => pairwise_sorted _, ?_⟩
  -- An issue of an earlier rule comes first, for both are about one file.
  refine Rule.pairwise_inOrder.imp fun {first second} earlier a inFirst b inSecond => ?_
  obtain ⟨memberA, ruleA⟩ := List.mem_filter.1 ((sorted_perm _).subset inFirst)
  obtain ⟨memberB, ruleB⟩ := List.mem_filter.1 ((sorted_perm _).subset inSecond)
  rw [beq_iff_eq] at ruleA ruleB
  have samePath : a.path = b.path := (onePath a memberA).trans (onePath b memberB).symm
  rw [key, key, Prod.Lex.toLex_le_toLex, Prod.Lex.toLex_le_toLex]
  exact .inr ⟨samePath, .inl (by rwa [ruleA, ruleB])⟩

end Issue

/-! ## The issues of a validation -/

namespace Analysis

open ExportAudit.Export

variable {setup : Setup} {path : Path}

/-- The message of a gap names its symbol. -/
theorem name_eq_of_tied {first second : Symbol}
    (tied : (gapIssue path first).Tied (gapIssue path second)) : first.name = second.name := by
  have messages := (Issue.tied_iff.1 tied).2.2
  simpa [Issue.message, gapIssue, toString] using messages

/-- The warning that an extractor found nothing. -/
def emptyIssue (path : Path) (extractor : Extractor) : Issue :=
  { path := path.text, finding := .emptyExtraction extractor }

/-- The message of an empty extraction names the place that was searched. -/
theorem not_tied_emptyIssue :
    ¬ (emptyIssue path .dump).Tied (emptyIssue path .heuristic) := by
  intro tied
  have messages := (Issue.tied_iff.1 tied).2.2
  simp [Issue.message, emptyIssue, Extractor.label, toString] at messages

theorem untied_gaps {symbols : List Symbol}
    (distinct : symbols.Pairwise (fun a b => a.name ≠ b.name)) :
    Issue.Untied ((symbols.filter (·.line.isNone)).map (gapIssue path)) := by
  refine List.pairwise_map.2 ((distinct.filter _).imp fun {first second} different tied => ?_)
  exact different (name_eq_of_tied tied)

/-- A warning that nothing was found, if it is raised. -/
theorem mem_emptyIssue {extractor : Extractor} {raised : Bool} {issue : Issue}
    (member : issue ∈ if raised then [emptyIssue path extractor] else []) :
    issue = emptyIssue path extractor := by
  cases raised with
  | true => exact List.mem_singleton.1 member
  | false => cases member

theorem untied_emptyIssue (path : Path) (extractor : Extractor) (raised : Bool) :
    Issue.Untied (if raised then [emptyIssue path extractor] else []) := by
  cases raised with
  | true => exact List.pairwise_singleton ..
  | false => exact List.Pairwise.nil

/-- The issues of a catalog are gaps, and a warning if it is empty. -/
theorem mem_catalogIssues {scan : ExportScan} {issue : Issue}
    (member : issue ∈ catalogIssues path scan) :
    (∃ symbol, issue = gapIssue path symbol) ∨ issue = emptyIssue path .dump := by
  rcases List.mem_append.1 member with member | member
  · obtain ⟨symbol, -, rfl⟩ := List.mem_map.1 member
    exact .inl ⟨symbol, rfl⟩
  · exact .inr (mem_emptyIssue member)

theorem untied_catalogIssues {scan : ExportScan}
    (distinct : scan.symbols.Pairwise (fun a b => a.name ≠ b.name)) :
    Issue.Untied (catalogIssues path scan) := by
  refine Issue.untied_append.2 ⟨untied_gaps distinct, untied_emptyIssue path .dump scan.isEmpty, ?_⟩
  intro gap isGap warning isWarning
  obtain ⟨symbol, -, rfl⟩ := List.mem_map.1 isGap
  rw [mem_emptyIssue isWarning]
  exact Issue.not_tied_of_rule_ne Rule.noConfusion

/-- A judgement raises the issues of its catalog, and when it compares, a warning if the
source states nothing and a mismatch if the two sets differ. -/
theorem issues_judge (setup : Setup) (path : Path) (source dump : String) (notes : List String)
    (listOnly : Bool) :
    (judge setup.config.qualifier path source (setup.scanOf path dump) notes listOnly).issues =
      if listOnly then catalogIssues path (setup.scanOf path dump)
      else catalogIssues path (setup.scanOf path dump) ++
        (if (statementNames setup.config.qualifier source).isEmpty then
          [emptyIssue path .heuristic] else []) ++
        if (setup.comparison path source dump).isExact then []
        else [setup.mismatchOf path source dump] := by
  cases listOnly <;> rfl

/-- **No two issues of a judgement are tied.** -/
theorem untied_judge (setup : Setup) (path : Path) (source dump : String) (notes : List String)
    (listOnly : Bool) : Issue.Untied
      (judge setup.config.qualifier path source (setup.scanOf path dump) notes listOnly).issues := by
  have catalog := isCatalog_scanExports dump (setup.scanOptions (moduleName path))
  have found : Issue.Untied (catalogIssues path (setup.scanOf path dump)) :=
    untied_catalogIssues catalog.distinct
  rw [issues_judge]
  cases listOnly with
  | true => exact found
  | false =>
    refine Issue.untied_append.2 ⟨Issue.untied_append.2
      ⟨found, untied_emptyIssue path .heuristic _, fun issue isFound warning isWarning => ?_⟩, ?_, ?_⟩
    · rw [mem_emptyIssue isWarning]
      rcases mem_catalogIssues isFound with ⟨symbol, rfl⟩ | rfl
      · exact Issue.not_tied_of_rule_ne Rule.noConfusion
      · exact not_tied_emptyIssue
    · split
      · exact List.Pairwise.nil
      · exact List.pairwise_singleton ..
    · intro warning isWarning mismatch isMismatch
      split at isMismatch
      · cases isMismatch
      · rw [List.mem_singleton.1 isMismatch]
        rcases List.mem_append.1 isWarning with isFound | isWarning
        · rcases mem_catalogIssues isFound with ⟨symbol, rfl⟩ | rfl <;>
            exact Issue.not_tied_of_rule_ne Rule.noConfusion
        · rw [mem_emptyIssue isWarning]
          exact Issue.not_tied_of_rule_ne Rule.noConfusion

theorem untied_validateModule (setup : Setup) (path : Path) (listOnly : Bool) :
    Issue.Untied (validateModule setup path listOnly).issues := by
  rcases validateModule_cases setup path listOnly with
    ⟨-, failed⟩ | ⟨source, dump, notes, -, judged⟩
  · obtain ⟨finding, -, issues⟩ := failed.issues
    rw [issues]
    exact List.pairwise_singleton ..
  · rw [judged]
    exact untied_judge setup path source dump notes listOnly

/-- The issues of a judgement are gaps, warnings that nothing was found, and a mismatch. -/
theorem mem_issues_judge {source dump : String} {notes : List String} {listOnly : Bool}
    {issue : Issue} (member : issue ∈
      (judge setup.config.qualifier path source (setup.scanOf path dump) notes listOnly).issues) :
    (∃ symbol, issue = gapIssue path symbol) ∨ (∃ extractor, issue = emptyIssue path extractor) ∨
      issue = setup.mismatchOf path source dump := by
  have inCatalog : issue ∈ catalogIssues path (setup.scanOf path dump) →
      (∃ symbol, issue = gapIssue path symbol) ∨ ∃ extractor, issue = emptyIssue path extractor :=
    fun isFound => (mem_catalogIssues isFound).imp_right fun same => ⟨.dump, same⟩
  rw [issues_judge] at member
  cases listOnly with
  | true => exact (inCatalog member).imp_right .inl
  | false =>
    rcases List.mem_append.1 member with isWarning | isMismatch
    · rcases List.mem_append.1 isWarning with isFound | isWarning
      · exact (inCatalog isFound).imp_right .inl
      · exact .inr (.inl ⟨.heuristic, mem_emptyIssue isWarning⟩)
    · split at isMismatch
      · cases isMismatch
      · exact .inr (.inr (List.mem_singleton.1 isMismatch))

/-- Every issue of a validation is about the module's file. -/
theorem path_of_mem_issues {listOnly : Bool} {issue : Issue}
    (member : issue ∈ (validateModule setup path listOnly).issues) : issue.path = path.text := by
  rcases validateModule_cases setup path listOnly with
    ⟨-, failed⟩ | ⟨source, dump, notes, -, judged⟩
  · obtain ⟨finding, -, issues⟩ := failed.issues
    rw [issues] at member
    rw [List.mem_singleton.1 member]
  · rw [judged] at member
    rcases mem_issues_judge member with ⟨symbol, rfl⟩ | ⟨extractor, rfl⟩ | rfl <;> rfl

/-! ## Gaps -/

/-- A validation warns of the gaps of the catalog that it keeps, if it keeps one. -/
theorem gapsReported_symbols (setup : Setup) (path : Path) (listOnly : Bool) :
    GapsReported path (validateModule setup path listOnly).symbols
      (validateModule setup path listOnly).issues := by
  rcases validateModule_cases setup path listOnly with
    ⟨-, failed⟩ | ⟨source, dump, notes, conclusive, judged⟩
  · obtain ⟨finding, failure, issues⟩ := failed.issues
    have gapless : Gapless (validateModule setup path listOnly).issues := by
      rw [issues, gapless_singleton]
      cases failure <;> exact Rule.noConfusion
    rw [failed.symbols, gapless.gapsReported_iff]
    exact fun symbol member => absurd member List.not_mem_nil
  · have reported := gapsReported_validateModule conclusive listOnly
    have symbols : (validateModule setup path listOnly).symbols =
        (setup.scanOf path dump).symbols := by
      rw [judged]
      cases listOnly <;> rfl
    rwa [symbols]

/-- Untied issues that report the gaps of a catalog hold each of them once. -/
theorem GapsReported.count_eq_one {symbols : List Symbol} {issues : List Issue}
    (reported : GapsReported path symbols issues) (untied : Issue.Untied issues) {symbol : Symbol}
    (member : symbol ∈ symbols) (gap : symbol.line = none) :
    issues.count (gapIssue path symbol) = 1 := by
  have raised : gapIssue path symbol ∈ issues := by
    have isGap : gapIssue path symbol ∈ (symbols.filter (·.line.isNone)).map (gapIssue path) :=
      List.mem_map_of_mem (List.mem_filter.2 ⟨member, by simp [gap]⟩)
    exact (List.mem_filter.1 (reported.symm.subset isGap)).1
  exact List.nodup_iff_count_eq_one.1 untied.nodup _ raised

end Analysis

/-! ## What is printed -/

namespace Report

open ExportAudit.Analysis

/-- The lines of issues depend on their order alone. -/
theorem issuesLines_eq_of_sorted_eq {issues others : List Issue} (style : OutputStyle)
    (same : Issue.sorted issues = Issue.sorted others) :
    issuesLines style issues = issuesLines style others := by
  rw [issuesLines, issuesLines, same]

/-- The issues of a result have one order, and they are printed in it. -/
structure OneOrder (path : Path) (result : ModuleValidation) : Prop where
  /-- Any two issues differ in path, rule or message. -/
  untied : Issue.Untied result.issues
  /-- However they arrive, the same text is printed. -/
  printed : ∀ style arrived, arrived.Perm result.issues →
    ofLines (issuesLines style arrived) = ofLines (issuesLines style result.issues)
  /-- The text has the rules in their order, and under each of them its issues. -/
  grouped : ∀ style, issuesLines style result.issues =
    Rule.inOrder.flatMap fun rule => issuesLines style (Issue.ofRule rule result.issues)
  /-- A gap of the catalog is printed once. -/
  gap_once : ∀ symbol ∈ result.symbols, symbol.line = none →
    (Issue.sorted result.issues).count (gapIssue path symbol) = 1
  /-- Nothing else is printed as a gap. -/
  only_gaps : ∀ issue ∈ Issue.sorted result.issues, issue.rule = .correlationGap →
    ∃ symbol ∈ result.symbols, symbol.line = none ∧ issue = gapIssue path symbol

/-- **The issues of every validation have one order.** -/
theorem oneOrder_validateModule (setup : Setup) (path : Path) (listOnly : Bool) :
    OneOrder path (validateModule setup path listOnly) := by
  have untied := untied_validateModule setup path listOnly
  have reported := gapsReported_symbols setup path listOnly
  refine ⟨untied, fun style arrived perm => ?_, fun style => ?_, fun symbol member gap => ?_,
    fun issue member rule => ?_⟩
  · rw [issuesLines_eq_of_sorted_eq style (untied.sorted_eq perm)]
  · rw [issuesLines, untied.sorted_eq_flatMap fun issue => path_of_mem_issues, List.flatMap_assoc]
    rfl
  · rw [(Issue.sorted_perm _).count_eq]
    exact reported.count_eq_one untied member gap
  · have inGaps := reported.subset
      (List.mem_filter.2 ⟨(Issue.sorted_perm _).subset member, beq_iff_eq.2 rule⟩)
    obtain ⟨symbol, isGap, same⟩ := List.mem_map.1 inGaps
    obtain ⟨inCatalog, noLine⟩ := List.mem_filter.1 isGap
    exact ⟨symbol, inCatalog, Option.isNone_iff_eq_none.1 noLine, same.symm⟩

end Report

end ExportAudit
