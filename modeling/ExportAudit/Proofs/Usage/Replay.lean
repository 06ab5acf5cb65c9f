import ExportAudit.Proofs.Dump.PrintedNode
import ExportAudit.Proofs.Usage.Located
import ExportAudit.Proofs.Usage.WalkUses

/-!
# Replaying the printed locations

What a dump has printed last is the last file and the last line among the locations so far,
and the cursor of the walk holds just that for the lines that it is moved over.

The walk moves it over nodes.  A detail line that is drawn under a node prints locations
like any other line, and what comes after it leaves out what it printed.  So **the records
carry the files and lines of the whole dump as long as no detail line prints a line
number**; behind one that does, they carry what the nodes alone printed last.
-/

namespace ExportAudit

set_option autoImplicit false

open ExportAudit.Text ExportAudit.Dump

/-- The file that a location prints. -/
def Dump.Location.file? : Location → Option String
  | .file path _ _ => some path
  | .invalid | .line _ _ | .col _ => none

namespace Usage

/-! ## What is printed last -/

/-- The last file and the last line among some locations. -/
def lastPrinted (locations : List Location) : Position where
  file := (locations.filterMap Location.file?).getLast?
  line := (locations.filterMap Location.lineNumber?).getLast?

theorem lastPrinted_concat (locations : List Location) (location : Location) :
    lastPrinted (locations ++ [location]) = (lastPrinted locations).move location := by
  cases location <;>
    simp [lastPrinted, Position.move, Location.file?, Location.lineNumber?]

/-- **A cursor moved over some locations holds what they print last.** -/
theorem Position.foldl_move (locations : List Location) :
    locations.foldl Position.move .start = lastPrinted locations := by
  induction locations using List.reverseRecOn with
  | nil => rfl
  | append_singleton locations location ih =>
    rw [List.foldl_append, ih, lastPrinted_concat]
    rfl

/-! ## Lines that count -/

/-- The locations printed on a line. -/
def locationsOn (raw : List Char) : List Location :=
  (Line.parse 0 raw).locations

/-- A line is a node. -/
def isNodeLine (raw : List Char) : Bool :=
  (Line.parse 0 raw).isNode

/-- The end of the drawing in front of a child that others follow. -/
def childMark : List Char := ['|', '-']

/-- A line is drawn under another. -/
def isDrawn (raw : List Char) : Bool :=
  let drawing := raw.takeWhile isGlyph
  childMark.isSuffixOf drawing || lastChildMark.isSuffixOf drawing

/-- A line belongs to the tree: it is a node, or a detail drawn under one. -/
def isTreeLine (raw : List Char) : Bool :=
  isNodeLine raw || isDrawn raw

/-- The locations that some lines print, of those that count. -/
def printedOn (counts : List Char → Bool) (raws : List (List Char)) : List Location :=
  (raws.filter counts).flatMap locationsOn

/-- Where the line at a place begins, once the lines before it that count are replayed. -/
def beginsAt (counts : List Char → Bool) (raws : List (List Char)) (place : Nat) :
    Option Position :=
  (raws[place]?.bind fun raw => (locationsOn raw).head?).bind fun first =>
    if first = .invalid then none
    else some (lastPrinted (printedOn counts (raws.take place) ++ [first]))

/-! ## The cursor of the walk -/

theorem Position.advance_eq_foldl (position : Position) (locations : List Location) :
    position.advance locations = (locations.foldl Position.move position,
      locations.head?.bind fun first =>
        if first = .invalid then none else some (position.move first)) := by
  cases locations <;> rfl

/-- A cursor that is fed the nodes before a position in order. -/
def cursorBefore (lines : List Line) (place : Nat) : Position :=
  ((lines.take place).filter Line.isNode).foldl
    (fun position node => (position.advance node.locations).1) .start

/-- The locations that the nodes before a position print. -/
def printedBefore (lines : List Line) (place : Nat) : List Location :=
  ((lines.take place).filter Line.isNode).flatMap Line.locations

/-- **Such a cursor holds what the nodes print last.** -/
theorem cursorBefore_eq (lines : List Line) (place : Nat) :
    cursorBefore lines place = lastPrinted (printedBefore lines place) := by
  rw [← Position.foldl_move, printedBefore, List.foldl_flatMap, cursorBefore]
  simp only [Position.advance_eq_foldl]

theorem cursorBefore_succ {lines : List Line} {place : Nat} {line : Line}
    (found : lines[place]? = some line) :
    cursorBefore lines (place + 1) =
      if line.isNode then ((cursorBefore lines place).advance line.locations).1
      else cursorBefore lines place := by
  rw [cursorBefore, List.take_add_one, found, List.filter_append, List.foldl_append]
  cases isNode : line.isNode <;> simp [isNode, cursorBefore]

/-- Where such a cursor finds the beginning of the line at a position. -/
def foundAt (lines : List Line) (place : Nat) : Option Position := do
  let line ← lines[place]?
  ((cursorBefore lines place).advance line.locations).2

/-- The state of the walk when it comes to a position. -/
def stateBefore (lines : List Line) (place : Nat) : WalkState where
  position := cursorBefore lines place
  calls := callsBefore lines place

/-- The site at a position. -/
def siteAt (lines : List Line) (place : Nat) : Option Site :=
  (useAt lines place).map fun (name, kind) => { name, kind, place := foundAt lines place }

theorem next_stateBefore {lines : List Line} {place : Nat} {line : Line}
    (found : lines[place]? = some line) :
    (stateBefore lines place).next line = (stateBefore lines (place + 1), siteAt lines place) := by
  have begins : foundAt lines place =
      ((cursorBefore lines place).advance line.locations).2 := by
    rw [foundAt, found]
    rfl
  rw [stateBefore, stateBefore, cursorBefore_succ found, callsBefore_succ found, siteAt, begins,
    WalkState.next, Line.isNode, callsAfter]
  cases isKind : line.kind with
  | none =>
    have uses : useAt lines place = none := by simp [useAt, found, isKind]
    rw [uses]
    rfl
  | some kind =>
    have uses : useAt lines place =
        (useOfNode (callsBefore lines place) (.ofKind kind) line).2 := by
      simp [useAt, found, isKind]
    rw [uses]
    rfl

/-- **The sites of a walk, position by position.** -/
theorem sites_stateBefore {lines : List Line} (count place : Nat)
    (whole : place + count = lines.length) :
    (stateBefore lines place).sites (lines.drop place) =
      (List.range' place count).filterMap (siteAt lines) := by
  induction count generalizing place with
  | zero =>
    have atEnd : lines.length ≤ place := Nat.le_of_eq whole.symm
    rw [List.drop_eq_nil_of_le atEnd]
    rfl
  | succ count ih =>
    have inside : place < lines.length := by omega
    have next := next_stateBefore (List.getElem?_eq_getElem inside)
    rw [List.drop_eq_getElem_cons inside, WalkState.sites, next, List.range'_succ,
      List.filterMap_cons]
    dsimp only
    rw [ih (place + 1) (by omega)]
    cases siteAt lines place <;> rfl

theorem take_parsedFrom (index : Nat) (raws : List (List Char)) (place : Nat) :
    (parsedFrom index raws).take place = parsedFrom index (raws.take place) := by
  induction raws generalizing index place with
  | nil => simp [parsedFrom]
  | cons raw raws ih =>
    cases place with
    | zero => rfl
    | succ place =>
      rw [List.take_succ_cons, parsedFrom_cons, parsedFrom_cons, List.take_succ_cons, ih]

theorem getElem?_parsedFrom (raws : List (List Char)) (place : Nat) :
    (parsedFrom 0 raws)[place]? = raws[place]?.map (Line.parse place) := by
  rw [parsedFrom, List.getElem?_map, List.getElem?_zipIdx, Option.map_map, Nat.zero_add]
  rfl

theorem flatMap_parsedFrom (index : Nat) (raws : List (List Char)) :
    ((parsedFrom index raws).filter Line.isNode).flatMap Line.locations =
      printedOn isNodeLine raws := by
  induction raws generalizing index with
  | nil => rfl
  | cons raw raws ih =>
    have same : (Line.parse index raw).isNode = isNodeLine raw := rfl
    rw [printedOn] at ih ⊢
    rw [parsedFrom_cons, List.filter_cons, List.filter_cons, same]
    split
    · rw [List.flatMap_cons, List.flatMap_cons, ih]
      rfl
    · exact ih (index + 1)

/-- **A cursor finds a node where replaying the nodes before it puts it.** -/
theorem foundAt_parsedFrom (raws : List (List Char)) (place : Nat) :
    foundAt (parsedFrom 0 raws) place = beginsAt isNodeLine raws place := by
  rw [foundAt, beginsAt, getElem?_parsedFrom]
  cases raws[place]? with
  | none => rfl
  | some raw =>
    have printed : printedBefore (parsedFrom 0 raws) place =
        printedOn isNodeLine (raws.take place) := by
      rw [printedBefore, take_parsedFrom, flatMap_parsedFrom]
    rw [cursorBefore_eq, printed]
    simp only [lastPrinted_concat, Option.map_some, Option.bind_eq_bind, Option.bind_some,
      Position.advance_eq_foldl]
    rfl

/-! ## Records -/

/-- The record of the line at a place, if it uses a symbol in a file.  Its line is where
the node begins once the lines before it that count are replayed. -/
def recordAt (counts : List Char → Bool) (test : TestInput) (dump : String) (contextTokens : Nat)
    (symbol : String) (place : Nat) : Option UsageRecord := do
  let (name, kind) ← useAt (parseDump dump) place
  let position ← beginsAt counts (lines dump.toList) place
  let file ← position.file
  let line := position.line.getD 0
  if name = symbol ∧ sameFile file test.path then
    some { symbol := name, kind, line, context := lineContext test.source line contextTokens }
  else none

/-- The records of a symbol in a dump, line by line. -/
def recordsIn (counts : List Char → Bool) (test : TestInput) (dump : String) (contextTokens : Nat)
    (symbol : String) : List UsageRecord :=
  (List.range (lines dump.toList).length).filterMap
    (recordAt counts test dump contextTokens symbol)

/-- The tree strategy attributes its records by replaying the lines that count. -/
def AttributesBy (counts : List Char → Bool) (test : TestInput) (dump : String)
    (contextTokens : Nat) (symbols : NameSet) : Prop :=
  locateTree contextTokens symbols { test with dump := some dump } =
    .ok (symbols.toList.map fun symbol =>
      let records := recordsIn counts test dump contextTokens symbol
      (symbol, { count := records.length, records }))

/-- **The sites of a symbol in the test's file make the records of a replay of the nodes.** -/
theorem usageAmong_sitesOf (test : TestInput) (dump : String) (contextTokens : Nat)
    (symbol : String) :
    (((sitesOf dump).filter fun site => site.name == symbol && site.isIn test.path).map
      (·.toRecord test.source contextTokens)) =
        recordsIn isNodeLine test dump contextTokens symbol := by
  have sites : sitesOf dump = (List.range (lines dump.toList).length).filterMap
      (siteAt (parsedFrom 0 (lines dump.toList))) := by
    have whole : 0 + (lines dump.toList).length = (parsedFrom 0 (lines dump.toList)).length := by
      simp [parsedFrom]
    have walked := sites_stateBefore _ 0 whole
    rw [List.drop_zero, ← List.range_eq_range'] at walked
    exact walked
  rw [sites, recordsIn, List.filter_filterMap, List.map_filterMap]
  refine List.filterMap_congr fun place _ => ?_
  rw [siteAt, foundAt_parsedFrom]
  have parsed : parseDump dump = parsedFrom 0 (lines dump.toList) := rfl
  rw [recordAt, parsed]
  cases useAt (parsedFrom 0 (lines dump.toList)) place with
  | none => rfl
  | some use =>
    obtain ⟨name, kind⟩ := use
    cases beginsAt isNodeLine (lines dump.toList) place with
    | none => simp [Site.isIn]
    | some position =>
      cases inFile : position.file <;>
        simp [Site.isIn, Site.toRecord, Site.line, inFile, Option.filter]

/-! ## Detail lines -/

/-- No detail line among some lines prints a line number. -/
def HasQuietDetails (raws : List (List Char)) : Prop :=
  ∀ raw ∈ raws, isTreeLine raw = true → isNodeLine raw = false →
    ∀ location ∈ locationsOn raw, location.lineNumber? = none

/-- What is read off locations with a line number is read off the nodes alone if the other
lines print none. -/
theorem filterMap_printedOn {Value : Type} {read? : Location → Option Value}
    (numbered : ∀ location : Location, location.lineNumber? = none → read? location = none)
    {raws : List (List Char)} (quiet : HasQuietDetails raws) :
    (printedOn isTreeLine raws).filterMap read? = (printedOn isNodeLine raws).filterMap read? := by
  induction raws with
  | nil => rfl
  | cons raw raws ih =>
    rw [HasQuietDetails, List.forall_mem_cons] at quiet
    have later := ih quiet.2
    rw [printedOn, printedOn] at later ⊢
    cases isNode : isNodeLine raw with
    | true =>
      have inTree : isTreeLine raw = true := by rw [isTreeLine, isNode, Bool.true_or]
      rw [List.filter_cons_of_pos inTree, List.filter_cons_of_pos isNode, List.flatMap_cons,
        List.flatMap_cons, List.filterMap_append, List.filterMap_append, later]
    | false =>
      rw [List.filter_cons_of_neg (p := isNodeLine) (by simp [isNode]), ← later, List.filter_cons]
      split
      · next inTree =>
        have nothing : (locationsOn raw).filterMap read? = [] :=
          List.filterMap_eq_nil_iff.2 fun location printed =>
            numbered location (quiet.1 inTree isNode location printed)
        rw [List.flatMap_cons, List.filterMap_append, nothing, List.nil_append]
      · rfl

theorem beginsAt_isTreeLine {raws : List (List Char)} (quiet : HasQuietDetails raws)
    (place : Nat) : beginsAt isTreeLine raws place = beginsAt isNodeLine raws place := by
  have front : HasQuietDetails (raws.take place) :=
    fun raw member => quiet raw (List.mem_of_mem_take member)
  have file (location : Location) (noNumber : location.lineNumber? = none) :
      location.file? = none := by
    cases location <;> first | rfl | cases noNumber
  have same : lastPrinted (printedOn isTreeLine (raws.take place)) =
      lastPrinted (printedOn isNodeLine (raws.take place)) := by
    rw [lastPrinted, lastPrinted, filterMap_printedOn file front,
      filterMap_printedOn (fun _ noNumber => noNumber) front]
  simp only [beginsAt, lastPrinted_concat, same]

/-- **The tree strategy replays the nodes, and with them the whole tree if its detail lines
print no line numbers.** -/
theorem locateTree_attribution (test : TestInput) (dump : String) (contextTokens : Nat)
    (symbols : NameSet) :
    AttributesBy isNodeLine test dump contextTokens symbols ∧
      (HasQuietDetails (lines dump.toList) →
        AttributesBy isTreeLine test dump contextTokens symbols) := by
  have byNodes : AttributesBy isNodeLine test dump contextTokens symbols := by
    rw [AttributesBy, locateTree_of_dump _ contextTokens rfl]
    simp only [usageAmong, usageAmong_sitesOf]
  refine ⟨byNodes, fun quiet => ?_⟩
  have same : recordAt isTreeLine test dump contextTokens =
      recordAt isNodeLine test dump contextTokens := by
    funext symbol place
    rw [recordAt, recordAt, beginsAt_isTreeLine quiet]
  simpa only [AttributesBy, recordsIn, same] using byNodes

/-- A function that refers to a name behind a detail line with a column alone. -/
def quietDetail : String :=
  "FunctionDecl 0x1 <t.cpp:7:1, line:12:1> line:7:6 use 'void ()'
|-CompoundStmt 0x2 <line:8:3, line:11:3>
| |-TemplateArgument <col:5> type 'int'
| |-DeclRefExpr 0x3 <col:14> 'void (int)' Function 0x4 'format' 'void (int)'"

/-- The same with a line number on the detail line. -/
def numberedDetail : String :=
  "FunctionDecl 0x1 <t.cpp:7:1, line:12:1> line:7:6 use 'void ()'
|-CompoundStmt 0x2 <line:8:3, line:11:3>
| |-TemplateArgument <line:9:5> type 'int'
| |-DeclRefExpr 0x3 <col:14> 'void (int)' Function 0x4 'format' 'void (int)'"

/-- The test that the reference stands in. -/
def referenceTest : TestInput where
  path := ⟨"t.cpp"⟩
  source := "1\n2\n3\n4\n5\n6\n7\n8\nnine\n10\neleven\n12"
  dump := none

instance (raws : List (List Char)) : Decidable (HasQuietDetails raws) :=
  inferInstanceAs (Decidable (∀ raw ∈ raws, _))

/-- What the four lines of such a dump use. -/
def referenceUses : List (Option Use) :=
  [none, none, none, some ("format", .reference)]

/-- The records of such a dump, given where its reference begins. -/
theorem recordsIn_of_uses {counts : List Char → Bool} {dump : String} {line : Nat}
    (uses : (List.range (lines dump.toList).length).map (useAt (parseDump dump)) = referenceUses)
    (begins : beginsAt counts (lines dump.toList) 3 = some ⟨some "t.cpp", some line⟩) :
    recordsIn counts referenceTest dump 10 "format" =
      [⟨"format", .reference, line, lineContext referenceTest.source line 10⟩] := by
  have four : (lines dump.toList).length = 4 := by
    simpa [referenceUses] using congrArg List.length uses
  have inFile : sameFile "t.cpp" referenceTest.path = true := by decide
  rw [four] at uses
  simp only [List.range_succ, List.range_zero, List.nil_append, List.cons_append, List.map_cons,
    List.map_nil, referenceUses, List.cons.injEq] at uses
  simp [recordsIn, recordAt, four, List.range_succ, uses, begins, inFile]

theorem uses_quietDetail : (List.range (lines quietDetail.toList).length).map
    (useAt (parseDump quietDetail)) = referenceUses := by
  rw [parseDump, quietDetail, String.toList_ofList]
  decide

theorem uses_numberedDetail : (List.range (lines numberedDetail.toList).length).map
    (useAt (parseDump numberedDetail)) = referenceUses := by
  rw [parseDump, numberedDetail, String.toList_ofList]
  decide

theorem locateTree_attribution_quietDetail :
    HasQuietDetails (lines quietDetail.toList) ∧
      AttributesBy isTreeLine referenceTest quietDetail 10 (.ofList ["format"]) ∧
      recordsIn isTreeLine referenceTest quietDetail 10 "format" =
        [⟨"format", .reference, 11, lineContext referenceTest.source 11 10⟩] := by
  have quiet : HasQuietDetails (lines quietDetail.toList) := by
    rw [quietDetail, String.toList_ofList]
    decide
  have begins : beginsAt isTreeLine (lines quietDetail.toList) 3 =
      some ⟨some "t.cpp", some 11⟩ := by
    rw [quietDetail, String.toList_ofList]
    decide
  exact ⟨quiet, (locateTree_attribution referenceTest quietDetail 10 _).2 quiet,
    recordsIn_of_uses uses_quietDetail begins⟩

/-- **A detail line with a line number misleads what comes after it.**  The reference behind
it stands on its line, and is recorded on the line where the statement ends. -/
theorem not_attributesBy_isTreeLine :
    ¬ AttributesBy isTreeLine referenceTest numberedDetail 10 (.ofList ["format"]) := by
  have byNodes : beginsAt isNodeLine (lines numberedDetail.toList) 3 =
      some ⟨some "t.cpp", some 11⟩ := by
    rw [numberedDetail, String.toList_ofList]
    decide
  have byTree : beginsAt isTreeLine (lines numberedDetail.toList) 3 =
      some ⟨some "t.cpp", some 9⟩ := by
    rw [numberedDetail, String.toList_ofList]
    decide
  have asked : (NameSet.ofList ["format"]).toList = ["format"] := by decide
  intro attributes
  rw [AttributesBy, locateTree_of_dump _ 10 rfl] at attributes
  simp [usageAmong, usageAmong_sitesOf, asked, recordsIn_of_uses uses_numberedDetail byNodes,
    recordsIn_of_uses uses_numberedDetail byTree] at attributes

end Usage

end ExportAudit
