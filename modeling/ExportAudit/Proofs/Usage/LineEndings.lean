import ExportAudit.Export.Scan
import ExportAudit.Export.Statement
import ExportAudit.Proofs.Text.LineEndings
import ExportAudit.Proofs.Usage.Located
import ExportAudit.Proofs.Usage.QualifiedNames

/-!
# Line ends do not matter

Every reading of a dump, and the reading of exports off a source, goes line by line, and
so does the context that a record keeps.  None of them can tell how the lines of a text
were ended.  Counting full names is different: it searches the raw text, returns and all.

A full name holds no newline if the namespace and the symbol hold none, since everything
between them is a word character or a colon.  What ends it is looked at for one character
only, and there a return and a newline are alike: neither is a word character.  **So all
four readings give the same results on a text and on the same text with a carriage return
in front of every newline.**
-/

namespace ExportAudit.Usage

set_option autoImplicit false

open ExportAudit.Text ExportAudit.Export ExportAudit.Dump

/-! ## Counting -/

/-- Where segments start does not depend on how lines are ended. -/
theorem segmentStarts_addReturns (inside : Bool) (text : List Char) :
    segmentStarts inside (addReturns text) = (segmentStarts inside text).map addReturns := by
  fun_induction segmentStarts inside text with
  | case1 => rfl
  | case2 rest ih =>
    rw [addReturns_cons (by decide), addReturns_cons (by decide), segmentStarts, if_pos rfl, ih,
      List.map_cons]
  | case3 inside rest notInside =>
    rw [addReturns_cons (by decide), addReturns_cons (by decide), segmentStarts,
      if_neg notInside]
    rfl
  | case4 inside c rest notSeparator isWordChar ih =>
    rw [addReturns_cons (ne_newline_of_isWord isWordChar), segmentStarts_word inside isWordChar, ih]
  | case5 inside c rest notSeparator notWord =>
    have noSeparator : after? separator (c :: rest) = none := by
      cases found : after? separator (c :: rest) with
      | none => rfl
      | some after =>
        obtain ⟨isColon, isRest⟩ := List.cons.inj (after?_eq_some_iff.1 found)
        exact absurd isRest fun isRest => notSeparator after isColon isRest
    have ends : after? separator (addReturns (c :: rest)) = none := by
      rw [after?_addReturns (by decide), noSeparator, Option.map_none]
    by_cases newline : c = '\n'
    · rw [newline, addReturns_newline] at ends ⊢
      exact segmentStarts_end inside (by decide) ends
    · rw [addReturns_cons newline] at ends ⊢
      exact segmentStarts_end inside (by simpa using notWord) ends

theorem afterSymbol?_addReturns {symbol : List Char} (oneLine : OnOneLine symbol)
    (segment : List Char) :
    afterSymbol? symbol (addReturns segment) = (afterSymbol? symbol segment).map addReturns := by
  have atHead := after?_addReturns oneLine segment
  rw [afterSymbol?, afterSymbol?, atHead]
  cases after? symbol segment with
  | none => rfl
  | some rest =>
    simp only [Option.map_some, Option.bind_eq_bind, Option.bind_some, isBoundary_addReturns]
    split <;> rfl

theorem nameEnd?_addReturns {symbol : List Char} (oneLine : OnOneLine symbol)
    (chain : List Char) :
    nameEnd? symbol (addReturns chain) = (nameEnd? symbol chain).map addReturns := by
  have each : afterSymbol? symbol ∘ addReturns = Option.map addReturns ∘ afterSymbol? symbol :=
    funext (afterSymbol?_addReturns oneLine)
  rw [nameEnd?, nameEnd?, segmentStarts_addReturns, ← List.map_cons, ← List.map_reverse,
    List.findSome?_map, each, List.map_findSome?]

/-- What stands in front of a segment is on one line. -/
theorem exists_front_of_mem_segmentStarts {inside : Bool} {text segment : List Char}
    (member : segment ∈ segmentStarts inside text) :
    ∃ front, text = front ++ segment ∧ '\n' ∉ front := by
  fun_induction segmentStarts inside text with
  | case1 => cases member
  | case2 rest ih =>
    rcases List.mem_cons.1 member with rfl | member
    · exact ⟨separator, rfl, by decide⟩
    · obtain ⟨front, rfl, noNewline⟩ := ih member
      exact ⟨':' :: ':' :: front, rfl, by simpa using noNewline⟩
  | case3 => cases member
  | case4 inside c rest notSeparator isWordChar ih =>
    obtain ⟨front, rfl, noNewline⟩ := ih member
    exact ⟨c :: front, rfl, by simpa [noNewline] using (ne_newline_of_isWord isWordChar).symm⟩
  | case5 => cases member

/-- **What a name takes up behind the namespace is on one line.** -/
theorem exists_front_of_nameEnd? {symbol chain rest : List Char} (oneLine : OnOneLine symbol)
    (found : nameEnd? symbol chain = some rest) :
    ∃ front, chain = front ++ rest ∧ '\n' ∉ front := by
  obtain ⟨segment, member, ends⟩ := List.exists_of_findSome?_eq_some found
  have atSegment : segment = symbol ++ rest := by
    obtain ⟨after, starts, atBoundary⟩ := Option.bind_eq_some_iff.1 ends
    split at atBoundary
    · cases atBoundary
      exact after?_eq_some_iff.1 starts
    · cases atBoundary
  have noNewline := oneLine.newline_notMem
  rcases List.mem_cons.1 (List.mem_reverse.1 member) with rfl | member
  · exact ⟨symbol, atSegment, noNewline⟩
  · obtain ⟨front, isChain, clean⟩ := exists_front_of_mem_segmentStarts member
    refine ⟨front ++ symbol, by rw [isChain, atSegment, List.append_assoc], ?_⟩
    simp [clean, noNewline]

/-- A name takes up a front part of the text, and that part is on one line. -/
theorem exists_front_of_qualifiedAt? {qualifier symbol text : List Char} {before : Option Char}
    {answer : Unit} {used : Nat} (oneLine : OnOneLine qualifier) (oneLine' : OnOneLine symbol)
    (found : qualifiedAt? qualifier symbol before text = some (answer, used)) :
    ∃ front rest, text = front ++ rest ∧ front.length = used ∧ '\n' ∉ front := by
  rw [qualifiedAt?_eq] at found
  split at found
  · obtain ⟨chain, starts, named⟩ := Option.bind_eq_some_iff.1 found
    obtain ⟨rest, ends, isAnswer⟩ := Option.map_eq_some_iff.1 named
    obtain ⟨front, isChain, clean⟩ := exists_front_of_nameEnd? oneLine' ends
    have isText := after?_eq_some_iff.1 starts
    rw [isChain, ← List.append_assoc] at isText
    refine ⟨qualifier ++ separator ++ front, rest, isText, ?_, ?_⟩
    · rw [← (Prod.mk.inj isAnswer).2, isText, length_front]
    · have separated : '\n' ∉ separator := by decide
      simp [clean, separated, oneLine.newline_notMem]
  · cases found

theorem qualifiedAt?_addReturns {qualifier symbol : List Char} (oneLine : OnOneLine qualifier)
    (oneLine' : OnOneLine symbol) (before : Option Char) (text : List Char) :
    qualifiedAt? qualifier symbol before (addReturns text) =
      qualifiedAt? qualifier symbol before text := by
  have lead : OnOneLine (qualifier ++ separator) := oneLine.append (by decide)
  rw [qualifiedAt?_eq, qualifiedAt?_eq, isBoundary_addReturns, after?_addReturns lead]
  split
  · cases starts : after? (qualifier ++ separator) text with
    | none => rfl
    | some chain =>
      rw [Option.map_some, Option.bind_some, Option.bind_some, nameEnd?_addReturns oneLine']
      cases ends : nameEnd? symbol chain with
      | none => rfl
      | some rest =>
        -- what the name takes up is as long on either text
        obtain ⟨front, isChain, clean⟩ := exists_front_of_nameEnd? oneLine' ends
        have isText := after?_eq_some_iff.1 starts
        rw [isChain, ← List.append_assoc] at isText
        have unbroken : '\n' ∉ qualifier ++ separator ++ front := fun member =>
          (List.mem_append.1 member).elim lead.newline_notMem clean
        rw [isText, addReturns_append, addReturns_eq_self unbroken, Option.map_some,
          Option.map_some, Option.map_some, length_front, length_front]
  · rfl

/-- **Counting full names ignores how lines are ended.** -/
theorem ignoresReturns_qualifiedAt? {qualifier symbol : List Char}
    (oneLine : OnOneLine qualifier) (oneLine' : OnOneLine symbol) :
    IgnoresReturns (qualifiedAt? qualifier symbol) where
  same before text := qualifiedAt?_addReturns oneLine oneLine' before text
  within found := by
    obtain ⟨front, rest, rfl, rfl, clean⟩ := exists_front_of_qualifiedAt? oneLine oneLine' found
    rwa [List.take_left]
  newline before rest := by
    have lead : OnOneLine (qualifier ++ separator) := oneLine.append (by decide)
    have noLead : after? (qualifier ++ separator) ('\n' :: rest) = none := by
      cases found : after? (qualifier ++ separator) ('\n' :: rest) with
      | none => rfl
      | some chain =>
        have isLead := after?_eq_some_iff.1 found
        obtain ⟨c, more, isCons⟩ := List.exists_cons_of_ne_nil
          (List.append_ne_nil_of_right_ne_nil qualifier (by decide : separator ≠ []))
        rw [isCons] at isLead lead
        obtain ⟨rfl, -⟩ := List.cons.inj isLead
        exact absurd rfl (lead '\n' List.mem_cons_self).1
    rw [qualifiedAt?_eq, noLead]
    split <;> rfl

theorem countQualified_withReturns {qualifier symbol : String}
    (oneLine : OnOneLine qualifier.toList) (oneLine' : OnOneLine symbol.toList)
    (source : String) :
    countQualified qualifier symbol (withReturns source) =
      countQualified qualifier symbol source := by
  rw [countQualified, countQualified, toList_withReturns,
    (ignoresReturns_qualifiedAt? oneLine oneLine').all_addReturns]

/-! ## Reading lines -/

theorem parseDump_withReturns {dump : String} (noReturn : '\r' ∉ dump.toList) :
    parseDump (withReturns dump) = parseDump dump := by
  rw [parseDump, parseDump, toList_withReturns, lines_addReturns noReturn]

theorem statementNames_withReturns {source : String} (noReturn : '\r' ∉ source.toList)
    (qualifier : String) :
    statementNames qualifier (withReturns source) = statementNames qualifier source := by
  rw [statementNames, statementNames, toList_withReturns, lines_addReturns noReturn]

theorem lineContext_withReturns {source : String} (noReturn : '\r' ∉ source.toList)
    (line limit : Nat) :
    lineContext (withReturns source) line limit = lineContext source line limit := by
  rw [lineContext, lineContext, toList_withReturns, lines_addReturns noReturn]

/-! ## Locating -/

/-- A test whose source and dump are stored with carriage returns. -/
def TestInput.withReturns (input : TestInput) : TestInput :=
  { input with
    source := Text.withReturns input.source
    dump := input.dump.map Text.withReturns }

/-- No text of a test holds a carriage return. -/
structure TestInput.NoReturns (input : TestInput) : Prop where
  source : '\r' ∉ input.source.toList
  dump : ∀ dump ∈ input.dump, '\r' ∉ dump.toList

theorem locateFast_withReturns {qualifier : String} {symbols : NameSet}
    (oneLine : OnOneLine qualifier.toList)
    (oneLines : ∀ symbol ∈ symbols, OnOneLine symbol.toList) (source : String) :
    locateFast qualifier symbols (withReturns source) = locateFast qualifier symbols source := by
  refine List.map_congr_left fun symbol member => ?_
  rw [countQualified_withReturns oneLine (oneLines symbol member)]

theorem locateTree_withReturns {input : TestInput} (noReturns : input.NoReturns)
    (contextTokens : Nat) (symbols : NameSet) :
    locateTree contextTokens symbols input.withReturns =
      locateTree contextTokens symbols input := by
  have sameRecord : ∀ site : Site, site.toRecord (Text.withReturns input.source) contextTokens =
      site.toRecord input.source contextTokens := by
    intro site
    rw [Site.toRecord, Site.toRecord, lineContext_withReturns noReturns.source]
  have sameUsage : ∀ sites symbol, usageAmong sites input.withReturns contextTokens symbol =
      usageAmong sites input contextTokens symbol := by
    intro sites symbol
    simp only [usageAmong, TestInput.withReturns, sameRecord]
  cases given : input.dump with
  | none =>
    have without : input.withReturns.dump = none := by rw [TestInput.withReturns, given]; rfl
    rw [locateTree_of_none given, locateTree_of_none without]
    rfl
  | some dump =>
    have stored : input.withReturns.dump = some (Text.withReturns dump) := by
      rw [TestInput.withReturns, given]
      rfl
    have sameSites : sitesOf (Text.withReturns dump) = sitesOf dump := by
      rw [sitesOf, sitesOf, parseDump_withReturns (noReturns.dump dump given)]
    rw [locateTree_of_dump _ contextTokens given, locateTree_of_dump _ contextTokens stored]
    simp only [sameSites, sameUsage]

/-- **No reading can tell how lines are ended.**  For texts without carriage returns of
their own, and for names on one line, a carriage return in front of every newline changes
neither the scan of a dump, nor the exports read off a source, nor what either strategy
locates in a test: its counts, and the kinds, lines and contexts of its records. -/
theorem readings_withReturns (options : ScanOptions) (qualifier : String) (locator : Locator)
    (symbols : NameSet) (dump source : String) (input : TestInput) (dumpPlain : '\r' ∉ dump.toList)
    (sourcePlain : '\r' ∉ source.toList) (inputPlain : input.NoReturns)
    (qualifierOnOneLine : OnOneLine locator.qualifier.toList)
    (symbolsOnOneLine : ∀ symbol ∈ symbols, OnOneLine symbol.toList) :
    scanExports (withReturns dump) options = scanExports dump options ∧
      statementNames qualifier (withReturns source) = statementNames qualifier source ∧
      locator.locate symbols input.withReturns = locator.locate symbols input := by
  refine ⟨?_, statementNames_withReturns sourcePlain qualifier, ?_⟩
  · rw [scanExports, scanExports, parseDump_withReturns dumpPlain]
  · rw [Locator.locate, Locator.locate]
    cases locator.strategy with
    | fast =>
      have counted := locateFast_withReturns qualifierOnOneLine symbolsOnOneLine input.source
      exact congrArg Except.ok counted
    | tree => exact locateTree_withReturns inputPlain locator.contextTokens symbols

/-! ## A name at the end of a line -/

/-- A test of two lines that end with the name of a symbol, and its dump. -/
def nameAtLineEnd : TestInput where
  path := ⟨"t.cpp"⟩
  source := "auto f = std::go\n;auto g = std::\ngo"
  dump := some "TranslationUnitDecl 0x1\n`-VarDecl 0x2 <t.cpp:1:1, col:12> col:6 f 'std::go'\n"

/-- The module whose exports the test uses. -/
def namedModule : String :=
  "export namespace std \x7b\n    using std::go;\n\x7d\n"

/-- The dump of that module, up to its using declaration. -/
def namedModuleDump : String :=
  "`-ExportDecl 0x2 <m.cppm:1:1, line:3:1> col:1 in m\n  `-UsingDecl 0x4 <line:2:5> col:16 std::go"

/-- At the end of a line the name counts with and without a return, and broken over two
lines it counts in neither form. -/
theorem readings_withReturns_nameAtLineEnd :
    scanExports (withReturns namedModuleDump) ⟨"m", ⟨"std", []⟩, 10⟩ =
        scanExports namedModuleDump ⟨"m", ⟨"std", []⟩, 10⟩ ∧
      statementNames "std" (withReturns namedModule) = statementNames "std" namedModule ∧
      Locator.locate ⟨.fast, "std", 3⟩ (.ofList ["go"]) nameAtLineEnd.withReturns =
        Locator.locate ⟨.fast, "std", 3⟩ (.ofList ["go"]) nameAtLineEnd ∧
      countQualified "std" "go" nameAtLineEnd.source = 1 := by
  have plain : nameAtLineEnd.NoReturns := ⟨by decide, by decide⟩
  have oneLine : OnOneLine "std".toList := by decide
  have oneLines : ∀ symbol ∈ NameSet.ofList ["go"], OnOneLine symbol.toList := by decide
  obtain ⟨sameScan, sameNames, sameUsages⟩ := readings_withReturns ⟨"m", ⟨"std", []⟩, 10⟩ "std"
    ⟨.fast, "std", 3⟩ (.ofList ["go"]) namedModuleDump namedModule nameAtLineEnd (by decide)
    (by decide) plain oneLine oneLines
  exact ⟨sameScan, sameNames, sameUsages, by decide⟩

end ExportAudit.Usage
