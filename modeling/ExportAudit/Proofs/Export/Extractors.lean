import ExportAudit.Proofs.Export.CanonicalModule
import ExportAudit.Proofs.Export.ScanCatalog
import ExportAudit.Proofs.Export.StatementGrammar
import ExportAudit.Reconciliation

/-!
# Two extractors on one module

A module's exports are found in its dump by a scan and in its source by its using
statements.  The scan takes an export in two lines: the using declaration makes its name
pending, and the shadow right behind it resolves the name.  So after some exports the
catalog holds the first of each name, and **on a canonical module the two extractors find
the same names.**
-/

namespace ExportAudit.Export

set_option autoImplicit false

open ExportAudit.Text ExportAudit.Dump

/-! ## What is to be found -/

/-- The symbol of an export that the catalog did not know. -/
def ListedExport.symbol (listed : ListedExport) (window : Nat) : Symbol where
  name := listed.name.text
  kind := .ofDeclaration listed.declaration.text
  line := if 2 ≤ window then some listed.line else none

/-- A symbol is that of the first export of its name. -/
def IsFirst (exports : List ListedExport) (window : Nat) (symbol : Symbol) : Prop :=
  ∃ listed, exports.find? (·.name.text == symbol.name) = some listed ∧
    symbol = listed.symbol window

/-- Some export has a name exactly when some first one has. -/
theorem exists_isFirst_iff (window : Nat) {exports : List ListedExport} {name : String} :
    (∃ symbol, IsFirst exports window symbol ∧ symbol.name = name) ↔
      name ∈ exports.map (·.name.text) := by
  rw [List.mem_map]
  constructor
  · rintro ⟨symbol, ⟨listed, found, -⟩, rfl⟩
    exact ⟨listed, List.mem_of_find?_eq_some found, by simpa using List.find?_some found⟩
  · rintro ⟨listed, member, rfl⟩
    have some : (exports.find? (·.name.text == listed.name.text)).isSome := by
      rw [List.find?_isSome]
      exact ⟨listed, member, beq_self_eq_true _⟩
    obtain ⟨first, found⟩ := Option.isSome_iff_exists.1 some
    have sameName : first.name.text = listed.name.text := by simpa using List.find?_some found
    exact ⟨first.symbol window, ⟨first, by rw [← found, ← sameName]; rfl, rfl⟩, sameName⟩

/-- **One more export is the first of its name unless the name has been listed.** -/
theorem isFirst_append_singleton_iff {exports : List ListedExport} {window : Nat}
    {listed : ListedExport} {symbol : Symbol} :
    IsFirst (exports ++ [listed]) window symbol ↔ IsFirst exports window symbol ∨
      (listed.name.text ∉ exports.map (·.name.text) ∧ symbol = listed.symbol window) := by
  rw [IsFirst, IsFirst, List.find?_append]
  cases found : exports.find? (·.name.text == symbol.name) with
  | some earlier =>
    rw [Option.some_or]
    refine ⟨.inl, ?_⟩
    rintro (first | ⟨fresh, rfl⟩)
    · exact first
    · have sameName := List.find?_some found
      have member := List.mem_of_find?_eq_some found
      exact absurd (List.mem_map.2 ⟨earlier, member, beq_iff_eq.1 sameName⟩) fresh
  | none =>
    have fresh : symbol.name ∉ exports.map (·.name.text) := by
      simpa [List.find?_eq_none] using found
    simp only [Option.none_or, List.find?_singleton, reduceCtorEq, false_and, exists_false,
      false_or]
    constructor
    · rintro ⟨other, isListed, rfl⟩
      split at isListed
      · cases isListed
        exact ⟨fresh, rfl⟩
      · cases isListed
    · rintro ⟨-, rfl⟩
      exact ⟨listed, if_pos (beq_self_eq_true _), rfl⟩

namespace CanonicalModule

variable (canonical : CanonicalModule)

/-- The scan for the exports of the module in its namespace. -/
def options (nested : List String) (window : Nat) : ScanOptions where
  moduleName := canonical.name.text
  namespaces := { qualifier := canonical.qualifier.text, nested }
  window := window

/-- The names of the exports. -/
def names : NameSet :=
  .ofList (canonical.exports.map (·.name.text))

end CanonicalModule

/-! ## One export -/

namespace Correlator

variable {correlator : Correlator} {index : Nat} {name declaration : String} {line : Option Nat}

/-- **An import and the shadow behind it enter the name, unless it is known.** -/
theorem symbols_resolve_recordImport (past : ∀ seen ∈ correlator.recent, seen.index < index) :
    ((correlator.recordImport index name line).resolve (index + 1) name declaration).1.symbols =
      if correlator.knows name then correlator.symbols
      else correlator.symbols ++
        [⟨name, .ofDeclaration declaration, if 2 ≤ correlator.window then line else none⟩] := by
  have isLast : (correlator.recordImport index name line).recent =
      (correlator.evict index).recent ++ [⟨index, name, line⟩] := rfl
  have recovered : ((correlator.recordImport index name line).evict (index + 1)).lineOf? name =
      if index + 1 - index < correlator.window then line else none :=
    lineOf?_evict isLast fun seen member => past seen (CorrelatorAgrees.mem_of_mem_evict member)
  have near : (index + 1 - index < correlator.window) = (2 ≤ correlator.window) :=
    propext ⟨by omega, by omega⟩
  have sameKnown : ((correlator.recordImport index name line).evict (index + 1)).knows name =
      correlator.knows name := rfl
  rw [resolve, recovered, sameKnown]
  split
  · rfl
  · simp only [near]
    rfl

theorem past_resolve_recordImport (past : ∀ seen ∈ correlator.recent, seen.index < index) :
    ∀ seen ∈ ((correlator.recordImport index name line).resolve (index + 1) name
      declaration).1.recent, seen.index < index + 2 := by
  intro seen member
  have recent : ((correlator.recordImport index name line).resolve (index + 1) name
      declaration).1.recent =
        ((correlator.recordImport index name line).evict (index + 1)).recent := by
    rw [resolve]
    split <;> rfl
  rw [recent] at member
  rcases List.mem_append.1 (CorrelatorAgrees.mem_of_mem_evict member) with member | member
  · exact Nat.lt_add_right 2 (past seen (CorrelatorAgrees.mem_of_mem_evict member))
  · rw [List.mem_singleton.1 member]
    exact Nat.lt_add_of_pos_right (by decide)

theorem window_resolve (correlator : Correlator) (index : Nat) (name declaration : String) :
    (correlator.resolve index name declaration).1.window = correlator.window := by
  rw [resolve]
  split <;> rfl

end Correlator

namespace CanonicalModule

variable (canonical : CanonicalModule) (nested : List String) (window : Nat)

/-! ## One line of the dump -/

section Lines

variable {state : ScanState} (index : Nat)

/-- The state of the scan after one more line. -/
def after (state : ScanState) (index : Nat) (raw : List Char) : ScanState :=
  state.next (canonical.options nested window) (Line.parse index raw)

/-- A node moves the scope by its role, and the step feeds the correlation. -/
theorem after_of_advance {raw : List Char} {role : Role} {scope : ScopeState} (step : Step)
    {correlator : Correlator} (isNode : (Line.parse index raw).isNode = true)
    (isRole : canonical.roleOf index raw = role)
    (advances : state.scope.advance (canonical.options nested window).namespaces
      (Line.parse index raw) role = (scope, step))
    (fed : ScanState.feed state.correlator index step = correlator) :
    (canonical.after nested window state index raw).scope = scope ∧
      (canonical.after nested window state index raw).correlator = correlator := by
  subst isRole fed
  rw [after, ScanState.next, if_pos isNode]
  exact ⟨congrArg Prod.fst advances,
    congrArg (fun advanced : ScopeState × Step =>
      ScanState.feed state.correlator index advanced.2) advances⟩

/-- The root changes nothing. -/
theorem after_root (outside : state.scope = .start) :
    (canonical.after nested window state index canonical.root).scope = .start ∧
      (canonical.after nested window state index canonical.root).correlator = state.correlator := by
  have isRoot : (Line.parse index canonical.root).kind = some rootKind := canonical.isRoot
  refine canonical.after_of_advance nested window index .skip ?_
    (canonical.roleOf_root index) ?_ rfl
  · rw [Line.isNode, isRoot]
    rfl
  · rw [outside]
    rfl

/-- The block line opens the block. -/
theorem after_blockLine :
    (canonical.after nested window state index canonical.blockLine).scope = .opened 1 ∧
      (canonical.after nested window state index canonical.blockLine).correlator =
        state.correlator := by
  have read := canonical.readAs_blockLine index
  refine canonical.after_of_advance nested window index .skip read.isNode
    (canonical.roleOf_blockLine index) ?_ rfl
  rw [ScopeState.advance, if_pos rfl, read.depth]

/-- The namespace line enters the namespace. -/
theorem after_namespaceLine (opened : state.scope = .opened 1) :
    (canonical.after nested window state index canonical.namespaceLine).scope =
        { scope := .inNamespace, blockDepth := 1 } ∧
      (canonical.after nested window state index canonical.namespaceLine).correlator =
        state.correlator := by
  have read := canonical.readAs_namespaceLine index
  have accepted : (canonical.options nested window).namespaces.accepts
      canonical.qualifier.text = true := by
    simp [NamespaceFilter.accepts, options]
  refine canonical.after_of_advance nested window index .skip read.isNode
    (canonical.roleOf_namespaceLine index) ?_ rfl
  rw [opened, ScopeState.advance_deeper (by simp [ScopeState.opened])
    (by simp [ScopeState.opened, read.depth]) (by simp), ScopeState.inside, if_pos accepted]
  rfl

variable (listed : ListedExport)

/-- A using declaration makes its name pending and is remembered. -/
theorem after_usingLine (within : state.scope = { scope := .inNamespace, blockDepth := 1 }) :
    (canonical.after nested window state index
        (listed.usingLine canonical.qualifier canonical.name)).scope =
      { scope := .inNamespace, blockDepth := 1, pending := some listed.name.text } ∧
    (canonical.after nested window state index
        (listed.usingLine canonical.qualifier canonical.name)).correlator =
      state.correlator.recordImport index listed.name.text (some listed.line) := by
  have read := canonical.readAs_usingLine index listed
  refine canonical.after_of_advance nested window index
    (.imports listed.name.text (some listed.line)) read.isNode
    (canonical.roleOf_usingLine index listed) ?_ rfl
  rw [within, ScopeState.advance_deeper (by simp) (by simp [read.depth]) (by simp),
    ScopeState.inside, if_pos rfl]

/-- The shadow of a pending name resolves it. -/
theorem after_shadowLine (waiting : state.scope =
      { scope := .inNamespace, blockDepth := 1, pending := some listed.name.text }) :
    (canonical.after nested window state index listed.shadowLine).scope =
        { scope := .inNamespace, blockDepth := 1 } ∧
      (canonical.after nested window state index listed.shadowLine).correlator =
        (state.correlator.resolve index listed.name.text listed.declaration.text).1 := by
  have read := listed.readAs_shadowLine index
  refine canonical.after_of_advance nested window index
    (.resolves listed.name.text listed.declaration.text) read.isNode
    (canonical.roleOf_shadowLine index listed) ?_ rfl
  rw [waiting, ScopeState.advance_deeper (by simp) (by simp [read.depth]) (by simp),
    ScopeState.inside, if_pos ⟨rfl, rfl⟩]

end Lines

/-! ## The run over the dump -/

/-- In the namespace of the module, some exports have been taken. -/
structure Taken (exports : List ListedExport) (index : Nat) (state : ScanState) : Prop where
  scope : state.scope = { scope := .inNamespace, blockDepth := 1 }
  sameWindow : state.correlator.window = window
  past : ∀ seen ∈ state.correlator.recent, seen.index < index
  symbols : ∀ symbol, symbol ∈ state.correlator.symbols ↔ IsFirst exports window symbol

variable {window}

theorem Taken.knows_iff {exports : List ListedExport} {index : Nat} {state : ScanState}
    (taken : Taken window exports index state) (name : String) :
    state.correlator.knows name = true ↔ name ∈ exports.map (·.name.text) := by
  rw [Correlator.knows, List.any_eq_true, ← exists_isFirst_iff window]
  simp only [taken.symbols, beq_iff_eq]

/-- **A using declaration and its shadow take one export.** -/
theorem Taken.after_after {exports : List ListedExport} {index : Nat} {state : ScanState}
    (taken : Taken window exports index state) (listed : ListedExport) :
    Taken window (exports ++ [listed]) (index + 2)
      (canonical.after nested window (canonical.after nested window state index
        (listed.usingLine canonical.qualifier canonical.name)) (index + 1) listed.shadowLine) := by
  obtain ⟨waiting, recorded⟩ := canonical.after_usingLine nested window index listed taken.scope
  obtain ⟨within, resolved⟩ := canonical.after_shadowLine nested window (index + 1) listed waiting
  rw [recorded] at resolved
  refine ⟨within, ?_, ?_, fun symbol => ?_⟩
  · rw [resolved, Correlator.window_resolve]
    exact taken.sameWindow
  · rw [resolved]
    exact Correlator.past_resolve_recordImport taken.past
  · rw [resolved, Correlator.symbols_resolve_recordImport taken.past, taken.sameWindow,
      isFirst_append_singleton_iff]
    split
    · next known =>
      rw [taken.symbols]
      simp [(taken.knows_iff listed.name.text).1 known]
    · next fresh =>
      rw [taken.knows_iff] at fresh
      rw [List.mem_append, List.mem_singleton, taken.symbols]
      simp only [fresh, not_false_eq_true, true_and]
      rfl

/-- **Every further export is taken in its two lines.** -/
theorem Taken.foldl {exports : List ListedExport} {index : Nat} {state : ScanState}
    (taken : Taken window exports index state) (more : List ListedExport) :
    Taken window (exports ++ more) (index + 2 * more.length)
      ((parsedFrom index (canonical.exportLines more)).foldl
        (ScanState.next (canonical.options nested window)) state) := by
  induction more generalizing exports index state with
  | nil => simpa [exportLines, parsedFrom] using taken
  | cons listed more ih =>
    have further := ih (taken.after_after canonical nested listed)
    have isAppend : exports ++ listed :: more = exports ++ [listed] ++ more := by simp
    have isIndex : index + 2 * (more.length + 1) = index + 2 + 2 * more.length := by omega
    rw [isAppend, List.length_cons, isIndex]
    simpa only [after, exportLines, List.flatMap_cons, List.cons_append, List.nil_append,
      parsedFrom_cons, List.foldl_cons] using further

/-- The scan reaches the exports with none taken. -/
theorem taken_start : Taken window [] 3
    (canonical.after nested window (canonical.after nested window
      (canonical.after nested window (.start window) 0 canonical.root) 1 canonical.blockLine) 2
        canonical.namespaceLine) := by
  have outside : (ScanState.start window).scope = .start := rfl
  obtain ⟨-, first⟩ := canonical.after_root nested window 0 outside
  obtain ⟨opened, second⟩ := canonical.after_blockLine nested window 1
  obtain ⟨within, third⟩ := canonical.after_namespaceLine nested window 2 opened
  have fresh := third.trans (second.trans first)
  refine ⟨within, congrArg Correlator.window fresh, ?_, ?_⟩
  all_goals rw [fresh]
  · simp [ScanState.start, Correlator.start]
  · simp [ScanState.start, Correlator.start, IsFirst]

/-- The scan of the dump ends with all exports taken. -/
theorem taken_parseDump {dump : String} (isDump : lines dump.toList = canonical.dumpLines) :
    Taken window canonical.exports (3 + 2 * canonical.exports.length)
      ((parseDump dump).foldl (ScanState.next (canonical.options nested window))
        (.start window)) := by
  have parsed : parseDump dump =
      parsedFrom 0 [canonical.root, canonical.blockLine, canonical.namespaceLine] ++
        parsedFrom 3 (canonical.exportLines canonical.exports) := by
    rw [parseDump, isDump]
    rfl
  rw [parsed, List.foldl_append]
  exact (canonical.taken_start nested).foldl canonical nested canonical.exports

/-! ## The source -/

/-- A using statement exports its name. -/
theorem statementName?_sourceLine (listed : ListedExport) :
    statementName? canonical.qualifier.text (listed.sourceLine canonical.qualifier) =
      some listed.name.text := by
  have head : StatementHead canonical.qualifier.text listed.name.text
      ("    ".toList ++ ("using".toList ++ ([' '] ++ (canonical.qualifier.chars ++ (separator ++
        (chain (listed.segments.map (·.chars)) listed.name.chars ++ [])))))) :=
    .intro (by decide) (by decide) (by decide) (isRun_of_mem_map listed.segments)
      listed.name.isRun rfl
  refine statementName?_eq_some_iff.2 ⟨_, [], head, ?_⟩
  change "    using ".toList ++ (listed.qualifiedName canonical.qualifier ++ [';']) = _
  simp [ListedExport.qualifiedName, chain]

/-- **The using statements of the source export the listed names.** -/
theorem statementNames_source {source : String}
    (isSource : lines source.toList = canonical.sourceLines) :
    statementNames canonical.qualifier.text source = canonical.names := by
  rw [statementNames, isSource, sourceLines, List.filterMap_map, names]
  refine congrArg NameSet.ofList ?_
  have each : statementName? canonical.qualifier.text ∘ (·.sourceLine canonical.qualifier) =
      some ∘ fun listed : ListedExport => listed.name.text :=
    funext canonical.statementName?_sourceLine
  rw [each, List.filterMap_eq_map]

/-! ## The two extractors -/

/-- What the two extractors find of a canonical module. -/
structure Extracted (window : Nat) (scan : ExportScan) (statements : NameSet) : Prop where
  /-- The scan finds the first export of each name, with its kind and line. -/
  symbols : ∀ symbol, symbol ∈ scan.symbols ↔ IsFirst canonical.exports window symbol
  /-- It lists each name once. -/
  once : scan.symbols.map (·.name) = canonical.names.toList
  /-- Both find the listed names. -/
  scanned : scan.names = canonical.names
  stated : statements = canonical.names
  /-- The comparison is exact, and every name is shared. -/
  isExact : (Reconciliation.compare scan.names statements).isExact = true
  both : (Reconciliation.compare scan.names statements).both = canonical.names
  ratio : (Reconciliation.compare scan.names statements).matchRatio.num =
    (Reconciliation.compare scan.names statements).matchRatio.den

/-- **The scan of the dump and the reading of the source agree on every canonical module**,
whatever further namespaces the scan accepts and however far it looks back. -/
theorem extractors_agree (window : Nat) {dump source : String}
    (isDump : lines dump.toList = canonical.dumpLines)
    (isSource : lines source.toList = canonical.sourceLines) :
    canonical.Extracted window (scanExports dump (canonical.options nested window))
      (statementNames canonical.qualifier.text source) := by
  have catalog := isCatalog_scanExports dump (canonical.options nested window)
  have symbols : ∀ symbol, symbol ∈ (scanExports dump (canonical.options nested window)).symbols ↔
      IsFirst canonical.exports window symbol := by
    intro symbol
    rw [← (canonical.taken_parseDump nested isDump).symbols, scanExports,
      ExportScan.ofLines, List.mem_mergeSort]
    rfl
  have mem_names (name : String) : (∃ symbol ∈ (scanExports dump (canonical.options nested
      window)).symbols, symbol.name = name) ↔ name ∈ canonical.names := by
    simp only [symbols, exists_isFirst_iff, names, NameSet.mem_ofList]
  have scanned : (scanExports dump (canonical.options nested window)).names = canonical.names :=
    NameSet.ext fun name => ExportScan.mem_names_iff.trans (mem_names name)
  have listedOnce : (⟨(scanExports dump (canonical.options nested window)).symbols.map (·.name),
      List.pairwise_map.2 catalog.increasing⟩ : NameSet) = canonical.names :=
    NameSet.ext fun name => List.mem_map.trans (mem_names name)
  have stated := canonical.statementNames_source isSource
  obtain ⟨isExact, both, ratio⟩ := Reconciliation.compare_self canonical.names
  refine ⟨symbols, congrArg NameSet.toList listedOnce, scanned, stated, ?_, ?_, ?_⟩
  all_goals rw [scanned, stated]
  · exact isExact
  · exact both
  · exact ratio

end CanonicalModule

/-- A module that exports one name twice, the second time from a nested namespace. -/
def repeatedName : CanonicalModule where
  name := ⟨"demo", by decide⟩
  qualifier := ⟨"std", by decide⟩
  notInline := by decide
  root := "TranslationUnitDecl 0x1 <<invalid sloc>> <invalid sloc>".toList
  isRoot := by decide +kernel
  blockDrawing := ⟨"|-".toList, by decide, by decide⟩
  namespaceDrawing := ⟨"| |-".toList, by decide, by decide⟩
  exports :=
    let drawing : Drawing 3 := ⟨"| | |-".toList, by decide, by decide⟩
    [{ segments := [], name := ⟨"swap", by decide⟩, declaration := ⟨"Function", by decide⟩,
       line := 6, fits := by decide, usingDrawing := drawing, shadowDrawing := drawing },
     { segments := [⟨"ranges", by decide⟩], name := ⟨"swap", by decide⟩,
       declaration := ⟨"Var", by decide⟩, line := 7, fits := by decide, usingDrawing := drawing,
       shadowDrawing := drawing }]

/-- The source of the module. -/
def repeatedNameSource : String :=
  "    using std::swap;\n    using std::ranges::swap;\n"

/-- The dump of the module. -/
def repeatedNameDump : String :=
  String.ofList <|
    "TranslationUnitDecl 0x1 <<invalid sloc>> <invalid sloc>\n".toList ++
    "|-ExportDecl 0x2 <src/demo.cppm:5:1, line:9:1> line:5:1 in demo\n".toList ++
    "| |-NamespaceDecl 0x3 <line:5:8, line:9:1> line:5:18 in demo std\n".toList ++
    "| | |-UsingDecl 0x4 <line:6:5, col:16> col:16 in demo std::swap\n".toList ++
    "| | |-UsingShadowDecl 0x5 <col:16> col:16 hidden implicit Function 0x6 'swap'\n".toList ++
    "| | |-UsingDecl 0x4 <line:7:5, col:16> col:16 in demo std::ranges::swap\n".toList ++
    "| | |-UsingShadowDecl 0x5 <col:16> col:16 hidden implicit Var 0x6 'swap'\n".toList

/-- Both extractors find the one name of the module. -/
theorem extractors_agree_repeatedName :
    lines repeatedNameDump.toList = repeatedName.dumpLines ∧
      lines repeatedNameSource.toList = repeatedName.sourceLines ∧
      repeatedName.Extracted 2 (scanExports repeatedNameDump (repeatedName.options [] 2))
        (statementNames "std" repeatedNameSource) := by
  have isDump : lines repeatedNameDump.toList = repeatedName.dumpLines :=
    (congrArg lines String.toList_ofList).trans (by decide +kernel)
  have isSource : lines repeatedNameSource.toList = repeatedName.sourceLines := by
    decide +kernel
  exact ⟨isDump, isSource, repeatedName.extractors_agree [] 2 isDump isSource⟩

end ExportAudit.Export
