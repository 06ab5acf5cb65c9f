import ExportAudit.Proofs.Export.ScopeRun
import Mathlib.Data.List.TakeWhile

/-!
# A scan finds the declared catalog

The correlation keeps pace with the scope.  Its buffer ends with the import that waits,
whatever older imports are still in front of it, and its catalog holds the symbols that
have entered so far.  Imports leave the buffer only when something else is recorded or
resolved, **so the import that waits is missing at its shadow exactly when it is out of
the window.**

A scan is one pass over the lines.  What one line keeps, a whole pass keeps, and after the
last line nothing but the order of the names is left to be settled.
-/

namespace ExportAudit.Export

set_option autoImplicit false

open ExportAudit.Dump

/-! ## The buffer -/

/-- **The last import of the buffer is found within the window and lost outside it.** -/
theorem Correlator.lineOf?_evict {correlator : Correlator} {earlier : List RecentImport}
    {origin place : Nat} {name : String} {line : Option Nat}
    (recent : correlator.recent = earlier ++ [{ index := origin, name, line }])
    (past : ∀ seen ∈ earlier, seen.index < origin) :
    (correlator.evict place).lineOf? name =
      if place - origin < correlator.window then line else none := by
  simp only [Correlator.lineOf?, Correlator.evict, recent]
  split
  · next near =>
    have stays : ¬ correlator.window ≤ place - origin := by omega
    rw [List.dropWhile_append]
    split <;> simp [stays]
  · next far =>
    have none : ∀ seen ∈ earlier ++ [{ index := origin, name, line }],
        decide (correlator.window ≤ place - seen.index) = true := by
      intro seen member
      have old : seen.index ≤ origin := by
        rcases List.mem_append.1 member with member | member
        · exact Nat.le_of_lt (past seen member)
        · rw [List.mem_singleton.1 member]
      simp only [decide_eq_true_eq]
      omega
    rw [List.dropWhile_eq_nil_iff.2 none]
    rfl

variable (options : ScanOptions) (lines : List Line)

/-- The correlation before a position agrees with the lines before it. -/
structure CorrelatorAgrees (place : Nat) (correlator : Correlator) : Prop where
  window : correlator.window = options.window
  past : ∀ seen ∈ correlator.recent, seen.index < place
  latest : ∀ {origin name line}, Awaits options lines origin place name line →
    ∃ earlier, correlator.recent = earlier ++ [{ index := origin, name, line }] ∧
      ∀ seen ∈ earlier, seen.index < origin
  entries : ∀ symbol, symbol ∈ correlator.symbols ↔
    ∃ first, first < place ∧ EntersAt options lines symbol first
  distinct : correlator.symbols.Pairwise (fun a b => a.name ≠ b.name)

variable {options lines}

namespace CorrelatorAgrees

variable {place : Nat} {correlator : Correlator}

/-- The catalog knows the names that are resolved before the position. -/
theorem knows_iff (agrees : CorrelatorAgrees options lines place correlator) (name : String) :
    correlator.knows name = true ↔
      ∃ earlier, earlier < place ∧ ResolvedAt options lines earlier name := by
  simp only [Correlator.knows, List.any_eq_true, beq_iff_eq]
  constructor
  · rintro ⟨symbol, member, rfl⟩
    obtain ⟨first, before, enters⟩ := (agrees.entries symbol).1 member
    exact ⟨first, before, enters.resolvedAt⟩
  · rintro ⟨earlier, before, resolved⟩
    obtain ⟨symbol, first, same, le, enters⟩ := resolved.exists_entersAt
    exact ⟨symbol, (agrees.entries symbol).2 ⟨first, Nat.lt_of_le_of_lt le before, enters⟩, same⟩

theorem mem_of_mem_evict {seen : RecentImport}
    (member : seen ∈ (correlator.evict place).recent) : seen ∈ correlator.recent :=
  (List.dropWhile_sublist _).mem member

/-- Where no name is resolved, no symbol enters. -/
theorem entries_succ (agrees : CorrelatorAgrees options lines place correlator)
    (unresolved : ∀ name, ¬ ResolvedAt options lines place name) (symbol : Symbol) :
    symbol ∈ correlator.symbols ↔
      ∃ first, first < place + 1 ∧ EntersAt options lines symbol first := by
  rw [agrees.entries]
  constructor
  · rintro ⟨first, before, enters⟩
    exact ⟨first, Nat.lt_succ_of_lt before, enters⟩
  · rintro ⟨first, before, enters⟩
    rcases Nat.lt_succ_iff_lt_or_eq.1 before with before | rfl
    · exact ⟨first, before, enters⟩
    · exact absurd enters.resolvedAt (unresolved symbol.name)

/-- A line without a step. -/
theorem skip (agrees : CorrelatorAgrees options lines place correlator)
    (noImport : ∀ name line, ¬ ActiveImport options lines place name line)
    (unresolved : ∀ name, ¬ ResolvedAt options lines place name) :
    CorrelatorAgrees options lines (place + 1) correlator where
  window := agrees.window
  past seen member := Nat.lt_succ_of_lt (agrees.past seen member)
  latest awaits := by
    rcases awaits.succ_cases with ⟨-, imported⟩ | ⟨awaits, -, -⟩
    · exact absurd imported (noImport _ _)
    · exact agrees.latest awaits
  entries := agrees.entries_succ unresolved
  distinct := agrees.distinct

/-- A line that makes an import. -/
theorem recordImport (agrees : CorrelatorAgrees options lines place correlator) {name : String}
    {line : Option Nat} (imported : ActiveImport options lines place name line) :
    CorrelatorAgrees options lines (place + 1) (correlator.recordImport place name line) where
  window := agrees.window
  past seen member := by
    rcases List.mem_append.1 member with member | member
    · exact Nat.lt_succ_of_lt (agrees.past seen (mem_of_mem_evict member))
    · rw [List.mem_singleton.1 member]
      exact Nat.lt_succ_self place
  latest awaits := by
    rcases awaits.succ_cases with ⟨rfl, again⟩ | ⟨-, noImport, -⟩
    · have same := imported.role.unique again.role
      simp only [Role.usingName.injEq] at same
      obtain ⟨rfl, rfl⟩ := same
      exact ⟨_, rfl, fun seen member => agrees.past seen (mem_of_mem_evict member)⟩
    · exact absurd imported (noImport name line)
  entries := by
    refine agrees.entries_succ fun other ⟨_, _, _, found⟩ => ?_
    exact Role.noConfusion (found.shadow.role.unique imported.role)
  distinct := agrees.distinct

/-- A name that has entered before enters no second time. -/
theorem entries_of_known (agrees : CorrelatorAgrees options lines place correlator) {name : String}
    (onlyName : ∀ {other}, ResolvedAt options lines place other → other = name)
    (known : correlator.knows name = true) (symbol : Symbol) :
    symbol ∈ correlator.symbols ↔
      ∃ first, first < place + 1 ∧ EntersAt options lines symbol first := by
  obtain ⟨earlier, before, resolved⟩ := (agrees.knows_iff name).1 known
  refine (agrees.entries symbol).trans ⟨fun ⟨first, ahead, enters⟩ =>
    ⟨first, Nat.lt_succ_of_lt ahead, enters⟩, ?_⟩
  rintro ⟨first, ahead, enters⟩
  rcases Nat.lt_succ_iff_lt_or_eq.1 ahead with ahead | rfl
  · exact ⟨first, ahead, enters⟩
  · have same := onlyName enters.resolvedAt
    exact absurd (same ▸ resolved) (enters.first earlier before)

/-- A symbol that enters is added to the catalog. -/
theorem entries_of_fresh (agrees : CorrelatorAgrees options lines place correlator)
    {entered : Symbol} (enters : EntersAt options lines entered place)
    (onlyName : ∀ {other}, ResolvedAt options lines place other → other = entered.name)
    (symbol : Symbol) :
    symbol ∈ correlator.symbols ++ [entered] ↔
      ∃ first, first < place + 1 ∧ EntersAt options lines symbol first := by
  rw [List.mem_append, List.mem_singleton, agrees.entries]
  constructor
  · rintro (⟨first, before, earlier⟩ | rfl)
    · exact ⟨first, Nat.lt_succ_of_lt before, earlier⟩
    · exact ⟨place, Nat.lt_succ_self place, enters⟩
  · rintro ⟨first, ahead, again⟩
    rcases Nat.lt_succ_iff_lt_or_eq.1 ahead with ahead | rfl
    · exact .inl ⟨first, ahead, again⟩
    · exact .inr (again.unique enters (onlyName again.resolvedAt))

theorem distinct_of_fresh (agrees : CorrelatorAgrees options lines place correlator)
    {entered : Symbol} (enters : EntersAt options lines entered place) :
    (correlator.symbols ++ [entered]).Pairwise (fun a b => a.name ≠ b.name) := by
  refine List.pairwise_append.2 ⟨agrees.distinct, List.pairwise_singleton .., ?_⟩
  intro symbol member new isNew same
  rw [List.mem_singleton.1 isNew] at same
  obtain ⟨first, before, earlier⟩ := (agrees.entries symbol).1 member
  have resolved := earlier.resolvedAt
  rw [same] at resolved
  exact enters.first first before resolved

/-- A line that resolves a name. -/
theorem resolve (agrees : CorrelatorAgrees options lines place correlator) {origin : Nat}
    {name declaration : String} {line : Option Nat}
    (found : Resolves options lines origin place name declaration line) :
    CorrelatorAgrees options lines (place + 1) (correlator.resolve place name declaration).1 := by
  have noneWaits : ∀ {origin' name' line'},
      ¬ Awaits options lines origin' (place + 1) name' line' := by
    intro origin' name' line' awaits
    rcases awaits.succ_cases with ⟨-, imported⟩ | ⟨awaits, -, noShadow⟩
    · exact Role.noConfusion (found.shadow.role.unique imported.role)
    · obtain ⟨rfl, -⟩ := found.awaited.name_unique awaits
      exact noShadow declaration found.shadow
  have onlyName : ∀ {other}, ResolvedAt options lines place other → other = name := by
    rintro other ⟨_, _, _, again⟩
    exact (found.awaited.name_unique again.awaited).1.symm
  have past : ∀ seen ∈ (correlator.evict place).recent, seen.index < place + 1 :=
    fun seen member => Nat.lt_succ_of_lt (agrees.past seen (mem_of_mem_evict member))
  have sameKnown : (correlator.evict place).knows name = correlator.knows name := rfl
  simp only [Correlator.resolve, sameKnown]
  by_cases known : correlator.knows name = true
  · -- an overload: the name has entered before, so nothing enters here
    rw [if_pos known]
    exact ⟨agrees.window, past, fun awaits => absurd awaits noneWaits,
      agrees.entries_of_known onlyName known, agrees.distinct⟩
  · rw [if_neg known]
    obtain ⟨older, recent, inOrder⟩ := agrees.latest found.awaited
    have recovered : (correlator.evict place).lineOf? name =
        if place - origin < options.window then line else none := by
      rw [← agrees.window]
      exact Correlator.lineOf?_evict recent inOrder
    have enters : EntersAt options lines
        ⟨name, .ofDeclaration declaration, (correlator.evict place).lineOf? name⟩ place := by
      refine ⟨fun earlier before resolved => ?_, origin, declaration, line, found, rfl, recovered⟩
      exact known ((agrees.knows_iff name).2 ⟨earlier, before, resolved⟩)
    exact ⟨agrees.window, past, fun awaits => absurd awaits noneWaits,
      agrees.entries_of_fresh enters onlyName, agrees.distinct_of_fresh enters⟩

/-- **The correlation keeps pace with a step that says what happens.** -/
theorem feed (agrees : CorrelatorAgrees options lines place correlator) {step : Step}
    (stepAgrees : StepAgrees options lines place step) :
    CorrelatorAgrees options lines (place + 1) (ScanState.feed correlator place step) := by
  cases stepAgrees with
  | skip noImport unresolved => exact agrees.skip noImport unresolved
  | imports imported => exact agrees.recordImport imported
  | resolves found => exact agrees.resolve found

end CorrelatorAgrees

/-! ## One pass -/

variable (options lines) in
/-- A scan before a position agrees with the lines before it. -/
structure ScanAgrees (place : Nat) (state : ScanState) : Prop where
  scope : ScopeAgrees options lines place state.scope
  correlator : CorrelatorAgrees options lines place state.correlator
  nodeLines : state.nodeLines = (lines.take place).countP Line.isNode
  exportBlocks : state.exportBlocks = (lines.take place).countP fun line => line.isNode &&
    decide (Role.of line options.moduleName options.namespaces.qualifier = .exportBlock true)

/-- Before the first line nothing has happened. -/
theorem ScanAgrees.start : ScanAgrees options lines 0 (.start options.window) where
  scope := .outside fun _ block => absurd block.before (Nat.not_lt_zero _)
  correlator :=
    { window := rfl
      past := by simp [ScanState.start, Correlator.start]
      latest := fun awaits => absurd awaits.before (Nat.not_lt_zero _)
      entries := by simp [ScanState.start, Correlator.start]
      distinct := List.Pairwise.nil }
  nodeLines := by simp [ScanState.start]
  exportBlocks := by simp [ScanState.start]

/-- **A line keeps the agreement.** -/
theorem ScanAgrees.next {place : Nat} {state : ScanState} {line : Line}
    (agrees : ScanAgrees options lines place state) (found : lines[place]? = some line)
    (index : line.index = place) :
    ScanAgrees options lines (place + 1) (state.next options line) := by
  have taken : lines.take (place + 1) = lines.take place ++ [line] := by
    rw [List.take_add_one, found]
    rfl
  by_cases isNode : line.isNode = true
  · obtain ⟨scope, step⟩ := agrees.scope.advance ⟨found, isNode⟩
    have correlator := agrees.correlator.feed step
    rw [ScanState.next, if_pos isNode, index]
    refine ⟨scope, correlator, ?_, ?_⟩
    · simp [taken, isNode, agrees.nodeLines]
    · simp [taken, isNode, agrees.exportBlocks, List.countP_cons]
  · have none : ∀ node, ¬ NodeAt lines place node := by
      rintro node ⟨here, nodeIs⟩
      obtain rfl : line = node := Option.some.inj (found.symm.trans here)
      exact isNode nodeIs
    rw [ScanState.next, if_neg isNode]
    refine ⟨agrees.scope.pass none, agrees.correlator.feed (.skip_of_no_node none), ?_, ?_⟩
    · simp [taken, isNode, agrees.nodeLines]
    · simp [taken, isNode, agrees.exportBlocks]

/-- **A pass keeps it, over any number of lines.** -/
theorem scanAgrees_foldl (indexed : Indexed lines) :
    ∀ count, count ≤ lines.length → ScanAgrees options lines count
      ((lines.take count).foldl (ScanState.next options) (.start options.window))
  | 0, _ => ScanAgrees.start
  | count + 1, within => by
    have found : lines[count]? = some lines[count] := List.getElem?_eq_getElem within
    have before := scanAgrees_foldl indexed count (Nat.le_of_succ_le within)
    rw [List.take_add_one, found, Option.toList_some, List.foldl_append]
    exact before.next found (indexed found)

/-! ## The catalog of a scan -/

/-- Sorting symbols of distinct names puts the names in increasing order. -/
theorem increasing_mergeSort {symbols : List Symbol}
    (distinct : symbols.Pairwise (fun a b => a.name ≠ b.name)) :
    (symbols.mergeSort fun a b => decide (a.name ≤ b.name)).Pairwise
      (fun a b => a.name < b.name) := by
  have sorted : (symbols.mergeSort fun a b => decide (a.name ≤ b.name)).Pairwise
      (fun a b => decide (a.name ≤ b.name) = true) := by
    refine List.pairwise_mergeSort (fun a b c first second => ?_) (fun a b => ?_) symbols
    · simp only [decide_eq_true_eq] at first second ⊢
      exact String.le_trans first second
    · simp only [Bool.or_eq_true, decide_eq_true_eq]
      exact String.le_total a.name b.name
  have apart : (symbols.mergeSort fun a b => decide (a.name ≤ b.name)).Pairwise
      (fun a b => a.name ≠ b.name) :=
    distinct.perm (List.mergeSort_perm symbols _).symm fun different => different.symm
  refine (sorted.and apart).imp fun {a b} ⟨le, different⟩ => ?_
  refine String.not_le.1 fun ge => different ?_
  exact String.le_antisymm (by simpa using le) ge

/-- **What the last line leaves is the declared catalog, once it is sorted.** -/
theorem isCatalog_ofLines (indexed : Indexed lines) :
    IsCatalog options lines (.ofLines options lines) := by
  have agrees : ScanAgrees options lines lines.length
      (lines.foldl (ScanState.next options) (.start options.window)) := by
    simpa only [List.take_length] using scanAgrees_foldl indexed lines.length (Nat.le_refl _)
  have entries : ∀ symbol, symbol ∈ (ExportScan.ofLines options lines).symbols ↔
      ∃ place, EntersAt options lines symbol place := by
    intro symbol
    rw [ExportScan.ofLines, List.mem_mergeSort, agrees.correlator.entries]
    constructor
    · rintro ⟨place, -, enters⟩
      exact ⟨place, enters⟩
    · rintro ⟨place, enters⟩
      exact ⟨place, enters.resolvedAt.lt_length, enters⟩
  refine ⟨entries, exists_name_iff_of_entries entries, ?_, ?_, ?_⟩
  · exact increasing_mergeSort agrees.correlator.distinct
  · exact agrees.nodeLines.trans (by rw [List.take_length])
  · exact agrees.exportBlocks.trans (by rw [List.take_length])

theorem IsCatalog.distinct {scan : ExportScan} (catalog : IsCatalog options lines scan) :
    scan.symbols.Pairwise (fun a b => a.name ≠ b.name) := by
  refine catalog.increasing.imp fun {a b} less same => ?_
  rw [same] at less
  exact String.lt_irrefl b.name less

theorem IsCatalog.nodup {scan : ExportScan} (catalog : IsCatalog options lines scan) :
    scan.symbols.Nodup :=
  catalog.distinct.imp fun different same => different (congrArg Symbol.name same)

/-- **Some lines declare one catalog.** -/
theorem IsCatalog.unique {scan scan' : ExportScan} (first : IsCatalog options lines scan)
    (second : IsCatalog options lines scan') : scan = scan' := by
  have asymmetric : ∀ a b : Symbol, a ∈ scan.symbols → b ∈ scan'.symbols →
      a.name < b.name → b.name < a.name → a = b := by
    intro a b _ _ less greater
    exact absurd (String.lt_trans less greater) (String.lt_irrefl _)
  have sameMembers : scan.symbols.Perm scan'.symbols :=
    (List.perm_ext_iff_of_nodup first.nodup second.nodup).2 fun symbol =>
      (first.entries symbol).trans (second.entries symbol).symm
  have sameSymbols : scan.symbols = scan'.symbols :=
    List.Perm.eq_of_pairwise asymmetric first.increasing second.increasing sameMembers
  have sameNodes := first.nodeLines.trans second.nodeLines.symm
  have sameBlocks := first.exportBlocks.trans second.exportBlocks.symm
  cases scan
  cases scan'
  simp_all

/-- Without an own export block nothing is active, so the catalog is empty. -/
theorem IsCatalog.symbols_eq_nil {scan : ExportScan} (catalog : IsCatalog options lines scan)
    (noBlock : scan.exportBlocks = 0) : scan.symbols = [] := by
  refine List.eq_nil_iff_forall_not_mem.2 fun symbol member => ?_
  obtain ⟨place, enters⟩ := (catalog.entries symbol).1 member
  obtain ⟨_, _, _, found⟩ := enters.resolvedAt
  obtain ⟨start, block, -, -⟩ := found.shadow.active
  obtain ⟨node, nodeAt, own⟩ := block.own
  rw [catalog.exportBlocks, List.countP_eq_zero] at noBlock
  exact noBlock node (List.mem_of_getElem? nodeAt.1) (by simp [nodeAt.2, own])

/-- **A scan of a dump finds the catalog that the dump declares.** -/
theorem isCatalog_scanExports (dump : String) (options : ScanOptions) :
    IsCatalog options (parseDump dump) (scanExports dump options) :=
  isCatalog_ofLines (indexed_parseDump dump)

/-- **It finds nothing else**, and a dump without an own export block declares nothing. -/
theorem scanExports_eq_iff_isCatalog (dump : String) (options : ScanOptions) :
    (∀ scan, scanExports dump options = scan ↔ IsCatalog options (parseDump dump) scan) ∧
      ((scanExports dump options).exportBlocks = 0 →
        (scanExports dump options).symbols = []) := by
  have catalog := isCatalog_scanExports dump options
  refine ⟨fun scan => ⟨?_, fun declared => catalog.unique declared⟩, catalog.symbols_eq_nil⟩
  rintro rfl
  exact catalog

end ExportAudit.Export
