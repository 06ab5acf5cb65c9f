import ExportAudit.Proofs.Dump.PrintedNode
import ExportAudit.Proofs.Export.Lockstep

/-!
# Lines that a scan takes no notice of

A compiler prints more than declarations into a dump: diagnostics, detail lines, comments,
nodes of other kinds.  A line is noise where it stands if it is no node, or a node of
another kind that is deeper than the last own export block above it, so that it does not
end the block.

Noise does not move the scope, whether it falls outside every block, inside one, or between
a using declaration and its shadow.  But every line counts in the distances that the window
bounds.  **So noise can cost a symbol its line, and nothing else**: the lines behind it are
scanned as before, only further on, and a buffer that sees imports further away forgets
them earlier.
-/

namespace ExportAudit.Dump

set_option autoImplicit false

open ExportAudit.Text

/-- Lines counted from one further on are the lines moved along by one. -/
theorem parsedFrom_succ (index : Nat) (texts : List (List Char)) :
    parsedFrom (index + 1) texts = (parsedFrom index texts).map (·.moved 1) := by
  induction texts generalizing index with
  | nil => rfl
  | cons raw texts ih =>
    have head : Line.parse (index + 1) raw = (Line.parse index raw).moved 1 := by
      simp [Line.parse, Line.moved, Nat.add_comm]
    rw [parsedFrom_cons, parsedFrom_cons, List.map_cons, ih, head]

/-- A dump is another one with a line put in, behind so many of its lines. -/
def AddsLine (dump longer : String) (place : Nat) (raw : List Char) : Prop :=
  ∃ front back, front.length = place ∧ lines dump.toList = front ++ back ∧
    lines longer.toList = front ++ raw :: back

/-- **A line is put in where whole lines end.** -/
theorem addsLine_text {before line : String} (whole : WholeLines before.toList)
    (isLine : IsLine line.toList) (after : String) :
    AddsLine (before ++ after) (before ++ (line ++ "\n" ++ after)) (lines before.toList).length
      line.toList := by
  refine ⟨lines before.toList, lines after.toList, rfl, ?_, ?_⟩
  · rw [String.toList_append, lines_append whole]
  · have split : (before ++ (line ++ "\n" ++ after)).toList =
        before.toList ++ (line.toList ++ '\n' :: after.toList) := by
      simp
    rw [split, lines_append whole, lines_line isLine]

/-- **The lines in front of a line put in stay, and those behind it move on by one.** -/
theorem AddsLine.exists_parseDump {dump longer : String} {place : Nat} {raw : List Char}
    (adds : AddsLine dump longer place raw) :
    ∃ front back, front.length = place ∧ parseDump dump = front ++ back ∧
      parseDump longer = front ++ Line.parse place raw :: back.map (·.moved 1) := by
  obtain ⟨front, back, rfl, same, added⟩ := adds
  refine ⟨parsedFrom 0 front, parsedFrom front.length back, length_parsedFrom 0 front, ?_, ?_⟩
  · rw [parseDump, same, ← parsedFrom, parsedFrom_append, Nat.zero_add]
  · rw [parseDump, added, ← parsedFrom, parsedFrom_append, parsedFrom_cons, Nat.zero_add,
      parsedFrom_succ]

end ExportAudit.Dump

namespace ExportAudit.Export

set_option autoImplicit false

open ExportAudit.Dump ExportAudit.Text

/-! ## Noise -/

/-- The kinds of the nodes that a scan reads. -/
def readKinds : List String := [exportKind, namespaceKind, usingKind, shadowKind]

/-- A line is noise at a position of a dump: it is no node, or a node of another kind that is
deeper than the last own export block above it, if there is one. -/
def IsNoise (options : ScanOptions) (lines : List Line) (place : Nat) (line : Line) : Prop :=
  line.isNode = true → (∀ kind ∈ readKinds, line.kind ≠ some kind) ∧
    ∀ start opener, LastBlock options lines start place → NodeAt lines start opener →
      opener.depth < line.depth

variable {options : ScanOptions} {lines : List Line} {place : Nat}

/-- A node of a kind that is not read has no role. -/
theorem roleOf_eq_other {line : Line} (unread : ∀ kind ∈ readKinds, line.kind ≠ some kind)
    (moduleName qualifier : String) : Role.of line moduleName qualifier = .other := by
  simp only [readKinds, List.forall_mem_cons, List.not_mem_nil, false_implies, implies_true,
    and_true] at unread
  obtain ⟨notExport, notNamespace, notUsing, notShadow⟩ := unread
  rw [Role.of, if_neg notExport, if_neg notNamespace, if_neg notUsing, if_neg notShadow]

/-- A node without a role that does not end the block changes nothing. -/
theorem ScopeAgrees.advance_other {state : ScopeState} {node : Line}
    (agrees : ScopeAgrees options lines place state)
    (deeper : ∀ start opener, LastBlock options lines start place → NodeAt lines start opener →
      opener.depth < node.depth) :
    state.advance options.namespaces node .other = (state, .skip) := by
  cases agrees with
  | outside closed => rfl
  | @inside start opener _ block _ openerAt depth within _ _ =>
    rw [ScopeState.advance_deeper within (depth ▸ deeper start opener block openerAt) (by simp)]
    rfl

/-- **Noise is counted if it is a node, and that is all it does.** -/
theorem ScanState.next_of_isNoise {state : ScanState} {line : Line}
    (agrees : ScopeAgrees options lines place state.scope)
    (noise : IsNoise options lines place line) :
    state.next options line =
      { state with nodeLines := state.nodeLines + if line.isNode then 1 else 0 } := by
  by_cases isNode : line.isNode = true
  · obtain ⟨unread, deeper⟩ := noise isNode
    simp only [ScanState.next, if_pos isNode, roleOf_eq_other unread,
      agrees.advance_other deeper]
    rfl
  · rw [ScanState.next_of_not_isNode isNode, if_neg isNode]
    rfl

/-! ## A dump with a noisy line -/

/-- A scan trails behind itself once further lines are counted. -/
theorem ScanState.trails_self (state : ScanState) (offset extra : Nat) :
    state.Trails offset extra { state with nodeLines := state.nodeLines + extra } where
  scope := rfl
  correlator :=
    { window := Nat.le_refl _
      recent := ⟨[], state.correlator.recent, rfl, List.forall₂_same.2 fun _ _ =>
        ⟨rfl, rfl, Nat.le_add_left ..⟩⟩
      symbols := List.forall₂_same.2 fun symbol _ => .refl symbol }
  nodeLines := rfl
  exportBlocks := rfl

/-- **A line of noise, wherever it is put in, leaves the names and kinds of the catalog and
the number of blocks alone.  It is counted if it is a node, and a symbol keeps its line or
loses it.** -/
theorem scanExports_addsLine (options : ScanOptions) {dump longer : String} {place : Nat}
    {raw : List Char} (adds : AddsLine dump longer place raw)
    (noise : IsNoise options (parseDump dump) place (Line.parse place raw)) :
    (scanExports dump options).FadesTo (scanExports longer options) ∧
      (scanExports longer options).nodeLines =
        (scanExports dump options).nodeLines + if (Line.parse place raw).isNode then 1 else 0 := by
  obtain ⟨front, back, length, same, added⟩ := adds.exists_parseDump
  have within : place ≤ (parseDump dump).length := by
    rw [same, List.length_append, length]
    exact Nat.le_add_right place back.length
  have taken : (parseDump dump).take place = front := by rw [same, List.take_left' length]
  have agrees : ScanAgrees options (parseDump dump) place
      (front.foldl (ScanState.next options) (.start options.window)) := by
    rw [← taken]
    exact scanAgrees_foldl (indexed_parseDump dump) place within
  generalize reached : front.foldl (ScanState.next options) (.start options.window) = state
    at agrees
  have trails :=
    (state.trails_self 1 (if (Line.parse place raw).isNode then 1 else 0)).foldl options back
  rw [← ScanState.next_of_isNoise agrees.scope noise] at trails
  have before : (parseDump dump).foldl (ScanState.next options) (.start options.window) =
      back.foldl (ScanState.next options) state := by
    rw [same, List.foldl_append, reached]
  have after : (parseDump longer).foldl (ScanState.next options) (.start options.window) =
      (back.map (·.moved 1)).foldl (ScanState.next options)
        (state.next options (Line.parse place raw)) := by
    rw [added, List.foldl_append, reached, List.foldl_cons]
  rw [← before, ← after] at trails
  exact ⟨⟨trails.fadesTo, trails.exportBlocks⟩, trails.nodeLines⟩

/-! ## A comment between a using declaration and its shadow -/

/-- A dump up to a using declaration. -/
def upToUsing : String :=
  "ExportDecl 0x1 <m.cppm:3:1, line:9:1> line:3:1 in m
|-NamespaceDecl 0x2 <line:4:1, line:8:1> line:4:11 in m std
| |-UsingDecl 0x3 <line:5:5, col:16> col:16 in m std::near
"

/-- The shadow that follows. -/
def fromShadow : String :=
  "| \x60-UsingShadowDecl 0x4 <col:16> implicit Function 0x5 'near'"

/-- The comment of the using declaration. -/
def usingComment : String := "| | \x60-FullComment 0x6 <col:5>"

/-- A scan that looks no further back than to the line before. -/
def adjacentOptions : ScanOptions := ⟨"m", ⟨"std", []⟩, 2⟩

theorem addsLine_usingComment :
    AddsLine (upToUsing ++ fromShadow) (upToUsing ++ (usingComment ++ "\n" ++ fromShadow)) 3
      usingComment.toList := by
  have three : (Text.lines upToUsing.toList).length = 3 := by
    rw [upToUsing, String.toList_ofList]
    decide
  rw [← three]
  refine addsLine_text ?_ ?_ fromShadow
  · rw [upToUsing, String.toList_ofList]
    decide
  · rw [usingComment, String.toList_ofList]
    decide

theorem isNoise_usingComment :
    IsNoise adjacentOptions (parseDump (upToUsing ++ fromShadow)) 3
      (Line.parse 3 usingComment.toList) := by
  intro _
  constructor
  · rw [usingComment, String.toList_ofList]
    decide
  · have deepest : ∀ line ∈ parseDump (upToUsing ++ fromShadow),
        line.depth < (Line.parse 3 usingComment.toList).depth := by
      rw [parseDump, String.toList_append, upToUsing, fromShadow, usingComment,
        String.toList_ofList, String.toList_ofList, String.toList_ofList]
      decide
    intro start opener _ openerAt
    exact deepest opener (List.mem_of_getElem? openerAt.1)

/-- The comment costs the symbol its line. -/
theorem scanExports_addsLine_usingComment :
    AddsLine (upToUsing ++ fromShadow) (upToUsing ++ (usingComment ++ "\n" ++ fromShadow)) 3
        usingComment.toList ∧
      IsNoise adjacentOptions (parseDump (upToUsing ++ fromShadow)) 3
        (Line.parse 3 usingComment.toList) ∧
      ⟨"near", .function, some 5⟩ ∈
        (scanExports (upToUsing ++ fromShadow) adjacentOptions).symbols ∧
      ⟨"near", .function, none⟩ ∈
        (scanExports (upToUsing ++ (usingComment ++ "\n" ++ fromShadow)) adjacentOptions).symbols ∧
      (scanExports (upToUsing ++ fromShadow) adjacentOptions).FadesTo
        (scanExports (upToUsing ++ (usingComment ++ "\n" ++ fromShadow)) adjacentOptions) ∧
      (scanExports (upToUsing ++ (usingComment ++ "\n" ++ fromShadow)) adjacentOptions).nodeLines =
        (scanExports (upToUsing ++ fromShadow) adjacentOptions).nodeLines +
          if (Line.parse 3 usingComment.toList).isNode then 1 else 0 := by
  refine ⟨addsLine_usingComment, isNoise_usingComment, ?_, ?_,
    scanExports_addsLine adjacentOptions addsLine_usingComment isNoise_usingComment⟩
  all_goals
    rw [scanExports, ExportScan.ofLines, List.mem_mergeSort, parseDump]
    simp only [String.toList_append]
    rw [upToUsing, fromShadow, String.toList_ofList, String.toList_ofList]
  · decide
  · rw [usingComment, String.toList_ofList]
    decide

end ExportAudit.Export
