import ExportAudit.Proofs.Export.DeclarationLine
import ExportAudit.Proofs.Export.Lockstep

/-!
# Scanning with a wider window

A wider window keeps more imports in sight, older ones among them.  The scope does not look
at the window, so the same shadows resolve the same names, and the latest import of a name
is the latest in both buffers.  **A wider window can only bring lines back**: it changes no
name, no kind and no line that was found.

The import of a symbol is nearer to its shadow than the dump is long.  So a window of as many
lines as the dump has loses nothing, and a line is missing only where none was printed.  An
importing line stands at least one line in front of its shadow, **so a window of one line is
as blind as a window of none.**
-/

namespace ExportAudit.Export

set_option autoImplicit false

open ExportAudit.Dump

variable {options : ScanOptions} {lines : List Line}

/-! ## The import within the window -/

/-- **The line of a symbol is what its using declaration prints**, if that declaration is
within the window. -/
theorem ImportedAt.line_eq {symbol : Symbol} {origin : Nat}
    (imported : ImportedAt options lines symbol origin) :
    ∃ place node, origin < place ∧ place < lines.length ∧ NodeAt lines origin node ∧
      symbol.line = if place - origin < options.window then node.lineNumber? else none := by
  obtain ⟨place, declaration, line, enters, resolves⟩ := imported
  obtain ⟨origin', declaration', line', resolves', -, sameLine⟩ := enters.made
  obtain ⟨rfl, rfl, rfl⟩ := resolves.unique resolves'
  obtain ⟨node, nodeAt, role⟩ := resolves.awaited.imported.role
  refine ⟨place, node, resolves.awaited.before, enters.resolvedAt.lt_length, nodeAt, ?_⟩
  rw [sameLine, lineNumber?_of_usingName role]

/-- **A window of one line, or of none, finds no line.** -/
theorem line_eq_none_of_window_le_one {dump : String} (narrow : options.window ≤ 1)
    {symbol : Symbol} (member : symbol ∈ (scanExports dump options).symbols) :
    symbol.line = none := by
  obtain ⟨origin, imported⟩ := exists_importedAt member
  obtain ⟨place, node, before, -, -, line⟩ := imported.line_eq
  rw [line, if_neg]
  omega

/-! ## Two windows -/

/-- **Under a narrower window a scan trails.** -/
theorem trails_narrower {narrower wider : Nat} (le : narrower ≤ wider) (options : ScanOptions)
    (lines : List Line) :
    (lines.foldl (ScanState.next options) (.start wider)).Trails 0 0
      (lines.foldl (ScanState.next options) (.start narrower)) := by
  have start : (ScanState.start wider).Trails 0 0 (.start narrower) :=
    ⟨rfl, ⟨le, ⟨[], [], rfl, .nil⟩, .nil⟩, rfl, rfl⟩
  have unmoved : (fun line : Line => line.moved 0) = id := funext moved_zero
  have run := start.foldl options lines
  rwa [unmoved, List.map_id] at run

/-- **Raising the window keeps the names, the kinds and every line that was found**, and a
window as long as the dump misses only lines that were never printed. -/
theorem scanExports_widen (dump : String) (options : ScanOptions) :
    (∀ wider, options.window ≤ wider →
      let wide := scanExports dump { options with window := wider }
      wide.FadesTo (scanExports dump options) ∧
        wide.nodeLines = (scanExports dump options).nodeLines ∧
        ∀ symbol ∈ (scanExports dump options).symbols, ∀ number,
          symbol.line = some number → symbol ∈ wide.symbols) ∧
      ((parseDump dump).length ≤ options.window →
        ∀ symbol ∈ (scanExports dump options).symbols, ∃ origin node,
          (∀ other, ImportedAt options (parseDump dump) symbol other ↔ other = origin) ∧
          NodeAt (parseDump dump) origin node ∧
          (symbol.line = none ↔ node.lineNumber? = none)) := by
  constructor
  · intro wider le wide
    have trails := trails_narrower le options (parseDump dump)
    have fades : wide.FadesTo (scanExports dump options) :=
      ⟨trails.fadesTo, trails.exportBlocks⟩
    exact ⟨fades, trails.nodeLines.symm, fun symbol member number => fades.mem member⟩
  · intro whole symbol member
    obtain ⟨origin, imported⟩ := exists_importedAt member
    obtain ⟨place, node, before, within, nodeAt, line⟩ := imported.line_eq
    have near : place - origin < options.window := by omega
    rw [if_pos near] at line
    refine ⟨origin, node, fun other => ?_, nodeAt, by rw [line]⟩
    exact ⟨fun there => there.unique imported, fun same => same ▸ imported⟩

/-! ## An import three lines away -/

/-- A dump with two lines between a using declaration and its shadow, and with a using
declaration that prints no line. -/
def distantShadow : String :=
  "ExportDecl 0x1 <m.cppm:3:1, line:9:1> line:3:1 in m
|-NamespaceDecl 0x2 <line:4:1, line:8:1> line:4:11 in m std
| |-UsingDecl 0x3 <line:5:5, col:16> col:16 in m std::far
| | |-FullComment 0x4 <col:5>
| | \x60-TextComment
| |-UsingShadowDecl 0x5 <col:16> implicit Function 0x6 'far'
| |-UsingDecl 0x7 <col:20, col:30> col:30 in m std::near
| \x60-UsingShadowDecl 0x8 <col:30> implicit Var 0x9 'near'"

/-- The options of a scan for its module. -/
def distantOptions (window : Nat) : ScanOptions := ⟨"m", ⟨"std", []⟩, window⟩

theorem length_distantShadow : (parseDump distantShadow).length ≤ 8 := by
  rw [parseDump, distantShadow, String.toList_ofList]
  decide

theorem scanExports_widen_distantShadow :
    3 ≤ 8 ∧ ⟨"far", .function, none⟩ ∈ (scanExports distantShadow (distantOptions 3)).symbols ∧
      (scanExports distantShadow (distantOptions 8)).FadesTo
        (scanExports distantShadow (distantOptions 3)) ∧
      (parseDump distantShadow).length ≤ 8 ∧
      ⟨"far", .function, some 5⟩ ∈ (scanExports distantShadow (distantOptions 8)).symbols ∧
      ⟨"near", .variable, none⟩ ∈ (scanExports distantShadow (distantOptions 8)).symbols ∧
      ∀ symbol ∈ (scanExports distantShadow (distantOptions 8)).symbols, ∃ origin node,
        (∀ other, ImportedAt (distantOptions 8) (parseDump distantShadow) symbol other ↔
          other = origin) ∧
        NodeAt (parseDump distantShadow) origin node ∧
        (symbol.line = none ↔ node.lineNumber? = none) := by
  refine ⟨by decide, ?_, ((scanExports_widen distantShadow (distantOptions 3)).1 8 (by decide)).1,
    length_distantShadow, ?_, ?_,
    (scanExports_widen distantShadow (distantOptions 8)).2 length_distantShadow⟩
  all_goals
    rw [scanExports, ExportScan.ofLines, List.mem_mergeSort]
    rw [parseDump, distantShadow, String.toList_ofList]
    decide

end ExportAudit.Export
