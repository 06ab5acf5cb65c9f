import ExportAudit.Proofs.Export.Provenance
import ExportAudit.Proofs.Usage.Replay

/-!
# The line of a declaration

A catalog takes the line of a symbol from the header of its using declaration: it is the
first line number printed there.  A walk that keeps a cursor finds the declaration where
its first location puts the cursor.

Both name one line if the header begins with a line number.  If it begins with a column
alone, the declaration begins on the line printed last, and **the first number in its header
is the line where it ends.**
-/

namespace ExportAudit.Export

set_option autoImplicit false

open ExportAudit.Dump ExportAudit.Usage

variable {options : ScanOptions} {lines : List Line}

/-! ## The import of a symbol -/

variable (options lines) in
/-- A symbol enters the catalog with the import at a position. -/
def ImportedAt (symbol : Symbol) (origin : Nat) : Prop :=
  ∃ place declaration line, EntersAt options lines symbol place ∧
    Resolves options lines origin place symbol.name declaration line

theorem ImportedAt.unique {symbol : Symbol} {origin other : Nat}
    (first : ImportedAt options lines symbol origin)
    (second : ImportedAt options lines symbol other) : origin = other := by
  obtain ⟨place, declaration, line, enters, resolves⟩ := first
  obtain ⟨place', declaration', line', enters', resolves'⟩ := second
  obtain rfl := enters.place_unique enters' rfl
  exact (resolves.unique resolves').1

theorem exists_importedAt {dump : String} {symbol : Symbol}
    (member : symbol ∈ (scanExports dump options).symbols) :
    ∃ origin, ImportedAt options (parseDump dump) symbol origin := by
  obtain ⟨place, enters⟩ := ((isCatalog_scanExports dump options).entries symbol).1 member
  obtain ⟨origin, declaration, line, resolves, -⟩ := enters.made
  exact ⟨origin, place, declaration, line, enters, resolves⟩

/-- The role of a using declaration holds the first line number of its header. -/
theorem lineNumber?_of_usingName {node : Line} {moduleName qualifier name : String}
    {line : Option Nat} (role : Role.of node moduleName qualifier = .usingName name line) :
    node.lineNumber? = line := by
  rw [Role.of] at role
  split at role
  · cases role
  · split at role
    · cases role
    · split at role
      · split at role <;> cases role
        rfl
      · split at role
        · split at role <;> cases role
        · cases role

/-- **The line of a symbol is the first that its using declaration prints.** -/
theorem ImportedAt.lineNumber? {symbol : Symbol} {origin number : Nat}
    (imported : ImportedAt options lines symbol origin) (recovered : symbol.line = some number) :
    ∃ node, NodeAt lines origin node ∧ node.lineNumber? = some number := by
  obtain ⟨place, declaration, line, enters, resolves⟩ := imported
  obtain ⟨origin', declaration', line', resolves', -, sameLine⟩ := enters.made
  obtain ⟨rfl, rfl, rfl⟩ := resolves.unique resolves'
  obtain ⟨node, nodeAt, role⟩ := resolves.awaited.imported.role
  rw [recovered] at sameLine
  split at sameLine
  · exact ⟨node, nodeAt, (lineNumber?_of_usingName role).trans sameLine.symm⟩
  · cases sameLine

/-! ## Where a declaration begins -/

/-- The line on which a cursor finds the beginning of the node at a position. -/
def beginLine? (lines : List Line) (place : Nat) : Option Nat :=
  (foundAt lines place).bind (·.line)

/-- The header of a node begins with a line number. -/
def BeginsNumbered (node : Line) : Prop :=
  ∃ first rest, node.locations = first :: rest ∧ first.lineNumber?.isSome = true

/-- The header of a node begins with a column alone. -/
def BeginsElided (node : Line) : Prop :=
  ∃ column rest, node.locations = .col column :: rest

/-- **A node begins on the first line it prints exactly if its header begins with it, or with
a column on the line printed last.** -/
theorem beginLine?_eq_some_iff {place number : Nat} {node : Line}
    (found : lines[place]? = some node) (prints : node.lineNumber? = some number) :
    beginLine? lines place = some number ↔ BeginsNumbered node ∨
      (BeginsElided node ∧ (lastPrinted (printedBefore lines place)).line = some number) := by
  rw [Line.lineNumber?] at prints
  cases located : node.locations with
  | nil =>
    rw [located] at prints
    cases prints
  | cons first rest =>
    have begins : beginLine? lines place = some number ↔ first ≠ .invalid ∧
        ((lastPrinted (printedBefore lines place)).move first).line = some number := by
      by_cases invalid : first = .invalid <;>
        simp [beginLine?, foundAt, found, located, cursorBefore_eq, Position.advance, invalid]
    rw [located, List.findSome?_cons] at prints
    rw [begins, BeginsNumbered, BeginsElided, located]
    cases first with
    | invalid => simp [Location.lineNumber?]
    | col column => simp [Location.lineNumber?, Position.move]
    | file path line column =>
      obtain rfl := Option.some.inj prints
      simp [Location.lineNumber?, Position.move]
    | line line column =>
      obtain rfl := Option.some.inj prints
      simp [Location.lineNumber?, Position.move]

/-! ## The lines of a catalog -/

/-- **The line of a symbol is the first that its using declaration prints**, and the
declaration begins there exactly if its header begins with a line number, or with a column
on the line printed last. -/
theorem line_of_mem_symbols (dump : String) (options : ScanOptions) :
    ∀ symbol ∈ (scanExports dump options).symbols, ∀ number, symbol.line = some number →
      ∃ origin node,
        (∀ other, ImportedAt options (parseDump dump) symbol other ↔ other = origin) ∧
        NodeAt (parseDump dump) origin node ∧ node.lineNumber? = some number ∧
        (beginLine? (parseDump dump) origin = some number ↔ BeginsNumbered node ∨
          (BeginsElided node ∧
            (lastPrinted (printedBefore (parseDump dump) origin)).line = some number)) := by
  intro symbol member number recovered
  obtain ⟨origin, imported⟩ := exists_importedAt member
  obtain ⟨node, nodeAt, prints⟩ := imported.lineNumber? recovered
  refine ⟨origin, node, fun other => ?_, nodeAt, prints, beginLine?_eq_some_iff nodeAt.1 prints⟩
  exact ⟨fun there => there.unique imported, fun same => same ▸ imported⟩

/-- A using declaration that begins on the line of its namespace and ends on the next. -/
def splitUsing : String :=
  "ExportDecl 0x1 <m.cppm:2:1, line:3:11> line:2:1 in m
|-NamespaceDecl 0x2 <col:8, line:3:11> line:2:18 in m std
| |-UsingDecl 0x3 <col:24, line:3:8> col:8 in m std::a
| |-UsingShadowDecl 0x4 <col:8> implicit Function 0x5 'a'"

/-- The options of a scan for its module. -/
def splitOptions : ScanOptions := ⟨"m", ⟨"std", []⟩, 10⟩

/-- The symbol of the using declaration, with the line where it ends. -/
def splitSymbol : Symbol := ⟨"a", .function, some 3⟩

theorem splitSymbol_mem : splitSymbol ∈ (scanExports splitUsing splitOptions).symbols := by
  rw [scanExports, ExportScan.ofLines, List.mem_mergeSort]
  rw [parseDump, splitUsing, String.toList_ofList]
  decide

theorem outline_splitUsing : outline splitOptions (parseDump splitUsing) =
    [(true, 0, .exportBlock true), (true, 1, .namespaceBlock (some "std")),
      (true, 2, .usingName "a" (some 3)), (true, 2, .shadow "Function" "a")] := by
  rw [parseDump, splitUsing, String.toList_ofList]
  decide

theorem line_of_mem_symbols_splitUsing :
    splitSymbol ∈ (scanExports splitUsing splitOptions).symbols ∧ splitSymbol.line = some 3 ∧
      ∃ origin node,
        (∀ other, ImportedAt splitOptions (parseDump splitUsing) splitSymbol other ↔
          other = origin) ∧
        NodeAt (parseDump splitUsing) origin node ∧ node.lineNumber? = some 3 ∧
        (beginLine? (parseDump splitUsing) origin = some 3 ↔ BeginsNumbered node ∨
          (BeginsElided node ∧
            (lastPrinted (printedBefore (parseDump splitUsing) origin)).line = some 3)) :=
  ⟨splitSymbol_mem, rfl,
    line_of_mem_symbols splitUsing splitOptions splitSymbol splitSymbol_mem 3 rfl⟩

/-- The line of every symbol is the one on which a cursor finds its using declaration. -/
def LinesBegin (dump : String) (options : ScanOptions) : Prop :=
  ∀ symbol ∈ (scanExports dump options).symbols, ∀ number, symbol.line = some number →
    ∀ origin, ImportedAt options (parseDump dump) symbol origin →
      beginLine? (parseDump dump) origin = some number

/-- **A catalog that names the line where a declaration ends.** -/
theorem not_linesBegin_splitUsing : ¬ LinesBegin splitUsing splitOptions := by
  intro agree
  obtain ⟨origin, imported⟩ := exists_importedAt splitSymbol_mem
  have begins := agree splitSymbol splitSymbol_mem 3 rfl origin imported
  obtain ⟨place, declaration, line, -, resolves⟩ := imported
  obtain ⟨depth, there⟩ := resolves.awaited.imported.role.getElem?_outline
  rw [outline_splitUsing] at there
  have second : origin = 2 := by
    rcases origin with _ | _ | _ | _ | origin <;> simp [splitSymbol] at there
    rfl
  have line : beginLine? (parseDump splitUsing) 2 = some 2 := by
    rw [parseDump, splitUsing, String.toList_ofList]
    decide
  rw [second, line] at begins
  cases begins

end ExportAudit.Export
