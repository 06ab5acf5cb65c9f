import ExportAudit.Proofs.Usage.Located
import ExportAudit.Proofs.Usage.Replay

/-!
# What is located for one symbol

A locator goes through a test once for all the symbols it is asked for.  The frames of the
walk and its cursor move alike whatever is looked up, so the usages of some symbols are
those of any larger set, restricted to them.

A record is made at a node that uses its symbol in the test's file.  A location that names a
file prints a line as well: **once the file is known the line is known**, and a record
never falls back on line zero.
-/

namespace ExportAudit

set_option autoImplicit false

open ExportAudit.Text ExportAudit.Dump

theorem NameSet.inter_eq_of_subset {asked more : NameSet}
    (within : ∀ name ∈ asked, name ∈ more) : more.inter asked = asked :=
  ext fun name => by
    rw [mem_inter]
    exact ⟨And.right, fun member => ⟨within name member, member⟩⟩

namespace Usage

/-! ## Fewer symbols -/

/-- The usages of those symbols that a set holds. -/
def restrictTo (asked : NameSet) (usages : UsageMap) : UsageMap :=
  usages.filter fun entry => decide (entry.1 ∈ asked)

/-- What is found symbol by symbol is found for fewer symbols by leaving the others out. -/
theorem restrictTo_map {asked more : NameSet} (within : ∀ name ∈ asked, name ∈ more)
    (found : String → SymbolUsage) :
    restrictTo asked (more.toList.map fun name => (name, found name)) =
      asked.toList.map fun name => (name, found name) := by
  rw [restrictTo, List.filter_map]
  conv_rhs => rw [← NameSet.inter_eq_of_subset within]
  rfl

/-- **The usages of some symbols are those of more symbols, restricted.** -/
theorem Locator.locate_eq_restrictTo (locator : Locator) (test : TestInput)
    {asked more : NameSet} (within : ∀ name ∈ asked, name ∈ more) :
    locator.locate asked test = (locator.locate more test).map (restrictTo asked) := by
  rw [locate, locate]
  cases locator.strategy with
  | fast => exact congrArg Except.ok (restrictTo_map within _).symm
  | tree =>
    cases dump : test.dump with
    | none => simp only [locateTree_of_none dump, Except.map]
    | some text =>
      simp only [locateTree_of_dump test locator.contextTokens dump, Except.map]
      exact congrArg Except.ok (restrictTo_map within _).symm

/-! ## A known file has a known line -/

variable {locations : List Location} {lines : List Line} {place : Nat}

theorem exists_line_of_file {file : String} (known : (lastPrinted locations).file = some file) :
    ∃ number, (lastPrinted locations).line = some number := by
  obtain ⟨location, printed, names⟩ := List.mem_filterMap.1 (List.mem_of_getLast? known)
  have numbered : ∃ number, location.lineNumber? = some number := by
    cases location with
    | file path number column => exact ⟨number, rfl⟩
    | invalid => cases names
    | line number column => cases names
    | col column => cases names
  obtain ⟨number, isNumber⟩ := numbered
  have member : number ∈ locations.filterMap Location.lineNumber? :=
    List.mem_filterMap.2 ⟨location, printed, isNumber⟩
  exact ⟨_, List.getLast?_eq_some_getLast (List.ne_nil_of_mem member)⟩

/-- The last line is one that some location prints. -/
theorem exists_location_of_line {number : Nat}
    (known : (lastPrinted locations).line = some number) :
    ∃ location ∈ locations, location.lineNumber? = some number :=
  List.mem_filterMap.1 (List.mem_of_getLast? known)

theorem exists_node_of_mem_printedBefore {location : Location}
    (printed : location ∈ printedBefore lines place) :
    ∃ earlier < place, ∃ node, NodeAt lines earlier node ∧ location ∈ node.locations := by
  obtain ⟨node, member, printed⟩ := List.mem_flatMap.1 printed
  obtain ⟨taken, isNode⟩ := List.mem_filter.1 member
  obtain ⟨earlier, found⟩ := List.mem_iff_getElem?.1 taken
  rw [List.getElem?_take] at found
  split at found
  · next before => exact ⟨earlier, before, node, ⟨found, isNode⟩, printed⟩
  · cases found

/-- **A node begins where the nodes up to it print last.** -/
theorem exists_first_of_foundAt {position : Position}
    (begins : foundAt lines place = some position) :
    ∃ line first, lines[place]? = some line ∧ first ∈ line.locations ∧
      position = lastPrinted (printedBefore lines place ++ [first]) := by
  obtain ⟨line, isLine, begins⟩ := Option.bind_eq_some_iff.1 begins
  rw [Position.advance_eq_foldl] at begins
  obtain ⟨first, isFirst, begins⟩ := Option.bind_eq_some_iff.1 begins
  split at begins
  · cases begins
  · rw [cursorBefore_eq, ← lastPrinted_concat, Option.some_inj] at begins
    exact ⟨line, first, isLine, List.mem_of_head? isFirst, begins.symm⟩

/-- A line number is printed by a node, at a position or before it. -/
def PrintedUpTo (lines : List Line) (place number : Nat) : Prop :=
  ∃ earlier ≤ place, ∃ node, NodeAt lines earlier node ∧
    ∃ location ∈ node.locations, location.lineNumber? = some number

/-- **Where a node begins in a file, a node up to it prints the line.** -/
theorem exists_line_of_foundAt {position : Position} {node : Line} {file : String}
    (nodeAt : NodeAt lines place node) (begins : foundAt lines place = some position)
    (inFile : position.file = some file) :
    ∃ number, position.line = some number ∧ PrintedUpTo lines place number := by
  obtain ⟨line, first, isLine, isFirst, rfl⟩ := exists_first_of_foundAt begins
  obtain ⟨number, isNumber⟩ := exists_line_of_file inFile
  refine ⟨number, isNumber, ?_⟩
  obtain ⟨location, member, prints⟩ := exists_location_of_line isNumber
  rcases List.mem_append.1 member with before | here
  · obtain ⟨earlier, before, node, nodeAt, printed⟩ := exists_node_of_mem_printedBefore before
    exact ⟨earlier, Nat.le_of_lt before, node, nodeAt, location, printed, prints⟩
  · obtain rfl := List.mem_singleton.1 here
    obtain rfl := Option.some_inj.1 (isLine.symm.trans nodeAt.1)
    exact ⟨place, Nat.le_refl place, line, nodeAt, location, isFirst, prints⟩

/-! ## Contexts -/

/-- **The context of a line has no more tokens than the limit.** -/
theorem length_tokens_lineContext (source : String) (line limit : Nat) :
    (tokens (lineContext source line limit).toList).length ≤ limit := by
  rw [lineContext]
  split
  · exact Nat.zero_le limit
  · split
    · exact Nat.zero_le limit
    · next text _ =>
      have solid : ∀ word ∈ (tokens text).take limit, Solid word := by
        intro word member
        have spec := tokens_spec text word (List.mem_of_mem_take member)
        exact ⟨spec.1, by simpa using spec.2⟩
      rw [String.toList_ofList, tokens_intercalate solid]
      exact List.length_take_le limit (tokens text)

/-! ## Records -/

/-- A record of a symbol tells of the node at a position of a dump. -/
structure TellsOf (test : TestInput) (dump : String) (contextTokens : Nat) (symbol : String)
    (record : UsageRecord) (place : Nat) : Prop where
  named : record.symbol = symbol
  uses : useAt (parseDump dump) place = some (symbol, record.kind)
  /-- The node begins in the test's file, on the line of the record. -/
  begins : ∃ file, foundAt (parseDump dump) place = some ⟨some file, some record.line⟩ ∧
    sameFile file test.path = true
  printed : PrintedUpTo (parseDump dump) place record.line
  context : record.context = lineContext test.source record.line contextTokens
  short : (tokens record.context.toList).length ≤ contextTokens

variable {test : TestInput} {dump symbol : String} {contextTokens : Nat} {record : UsageRecord}

theorem tellsOf_of_recordAt
    (made : recordAt isNodeLine test dump contextTokens symbol place = some record) :
    TellsOf test dump contextTokens symbol record place := by
  obtain ⟨⟨name, kind⟩, uses, inDump⟩ := Option.bind_eq_some_iff.1 made
  obtain ⟨position, begins, inPlace⟩ := Option.bind_eq_some_iff.1 inDump
  obtain ⟨file, inFile, isRecord⟩ := Option.bind_eq_some_iff.1 inPlace
  dsimp only at isRecord
  split at isRecord
  · next here =>
    obtain ⟨rfl, same⟩ := here
    rw [← foundAt_parsedFrom] at begins
    obtain ⟨node, nodeAt⟩ := exists_nodeAt_of_useAt uses
    obtain ⟨number, isNumber, printed⟩ := exists_line_of_foundAt nodeAt begins inFile
    rw [isNumber, Option.getD_some, Option.some_inj] at isRecord
    subst isRecord
    have isPosition : position = ⟨some file, some number⟩ := by
      rw [← inFile, ← isNumber]
    exact ⟨rfl, uses, ⟨file, isPosition ▸ begins, same⟩, printed, rfl,
      length_tokens_lineContext test.source number contextTokens⟩
  · cases isRecord

/-- **Every record of a symbol tells of a node.** -/
theorem exists_tellsOf
    (recorded : record ∈ (usageAmong (sitesOf dump) test contextTokens symbol).records) :
    ∃ place, TellsOf test dump contextTokens symbol record place := by
  rw [usageAmong, usageAmong_sitesOf] at recorded
  obtain ⟨place, -, made⟩ := List.mem_filterMap.1 recorded
  exact ⟨place, tellsOf_of_recordAt made⟩

/-- The usages that a locator finds for some symbols keep to them, symbol by symbol. -/
structure KeepsTo (locator : Locator) (test : TestInput) (asked : NameSet) (usages : UsageMap) :
    Prop where
  symbols : usages.map (·.1) = asked.toList
  fast : locator.strategy = .fast → ∀ entry ∈ usages, entry.2.records = []
  tree : locator.strategy = .tree → ∃ dump, test.dump = some dump ∧
    ∀ entry ∈ usages, entry.2.count = entry.2.records.length ∧
      ∀ record ∈ entry.2.records,
        ∃ place, TellsOf test dump locator.contextTokens entry.1 record place

theorem Locator.keepsTo_of_locate {locator : Locator} {asked : NameSet} {usages : UsageMap}
    (located : locator.locate asked test = .ok usages) : KeepsTo locator test asked usages := by
  refine ⟨map_fst_locate located, fun isFast => ?_, fun isTree => ?_⟩
  · rw [locate, isFast] at located
    cases located
    intro entry member
    obtain ⟨name, -, rfl⟩ := List.mem_map.1 member
    rfl
  · cases isDump : test.dump with
    | none =>
      simp only [locate, isTree, locateTree_of_none isDump] at located
      cases located
    | some dump =>
      simp only [locate, isTree, locateTree_of_dump test _ isDump] at located
      cases located
      refine ⟨dump, rfl, fun entry member => ?_⟩
      obtain ⟨name, -, rfl⟩ := List.mem_map.1 member
      exact ⟨rfl, fun record recorded => exists_tellsOf recorded⟩

/-- **What is located for a symbol does not depend on what else is looked for.**  The usages
of some symbols are those of more symbols, restricted, and locating the ones fails just as
locating the others does; and the usages keep to the symbols asked for. -/
theorem Locator.locate_independent (locator : Locator) (test : TestInput) {asked more : NameSet}
    (within : ∀ name ∈ asked, name ∈ more) :
    locator.locate asked test = (locator.locate more test).map (restrictTo asked) ∧
      ∀ usages, locator.locate asked test = .ok usages → KeepsTo locator test asked usages :=
  ⟨locator.locate_eq_restrictTo test within, fun _ located => keepsTo_of_locate located⟩

/-- A walk that keeps ten tokens of a line. -/
def tenTokens : Locator where
  strategy := .tree
  qualifier := "std"
  contextTokens := 10

/-- The test of a reference, with the dump that it is printed in. -/
def quietTest : TestInput :=
  { referenceTest with dump := some quietDetail }

/-- The usages of a name that is referred to once, on the eleventh line. -/
def eleventhLine : UsageMap :=
  let record : UsageRecord :=
    ⟨"format", .reference, 11, lineContext referenceTest.source 11 10⟩
  [("format", { count := 1, records := [record] })]

theorem locate_independent_quietDetail :
    (∀ name ∈ NameSet.ofList ["format"], name ∈ NameSet.ofList ["format", "print"]) ∧
      (tenTokens.locate (.ofList ["format", "print"]) quietTest).map
        (restrictTo (.ofList ["format"])) = .ok eleventhLine ∧
      KeepsTo tenTokens quietTest (.ofList ["format"]) eleventhLine := by
  have within : ∀ name ∈ NameSet.ofList ["format"], name ∈ NameSet.ofList ["format", "print"] := by
    simp [NameSet.mem_ofList]
  have begins : beginsAt isNodeLine (lines quietDetail.toList) 3 =
      some ⟨some "t.cpp", some 11⟩ := by
    rw [quietDetail, String.toList_ofList]
    decide
  have recorded : recordsIn isNodeLine quietTest quietDetail 10 "format" =
      [⟨"format", .reference, 11, lineContext referenceTest.source 11 10⟩] :=
    recordsIn_of_uses uses_quietDetail begins
  have asked : (NameSet.ofList ["format"]).toList = ["format"] := by decide
  have present : quietTest.dump = some quietDetail := rfl
  have located : tenTokens.locate (.ofList ["format"]) quietTest = .ok eleventhLine := by
    simp only [Locator.locate, tenTokens, locateTree_of_dump quietTest 10 present, asked,
      List.map_cons, List.map_nil, usageAmong, usageAmong_sitesOf, recorded]
    rfl
  have independent := tenTokens.locate_independent quietTest within
  exact ⟨within, independent.1.symm.trans located, independent.2 _ located⟩

end Usage

end ExportAudit
