import ExportAudit.Usage.CoverageReport
import ExportAudit.Usage.Locator

/-!
# What locating and reporting keep

A walk keeps one map for all symbols and pushes a site into the entry of its name.  From site
to site the entry of a symbol holds the sites of that symbol so far, and so **the map is what
each symbol would have gathered by itself.**

A locator answers about the symbols it was asked for, in their order, and it can only
fail for want of a dump.  A report keeps what was located, symbol by symbol; the catalog
it is given adds the kinds of the names it knows and **has no part in anything else.**
-/

namespace ExportAudit.Usage

set_option autoImplicit false

open ExportAudit.Export

/-! ## Recording sites -/

/-- The usages of one symbol among some sites. -/
def usageAmong (sites : List Site) (input : TestInput) (contextTokens : Nat) (symbol : String) :
    SymbolUsage :=
  let records := (sites.filter fun site => site.name == symbol && site.isIn input.path).map
    (·.toRecord input.source contextTokens)
  { count := records.length, records }

section Recording

variable (input : TestInput) (contextTokens : Nat)

/-- **One more site is one more push for its own symbol**, and nothing for any other. -/
theorem usageAmong_concat (sites : List Site) (site : Site) (symbol : String) :
    usageAmong (sites ++ [site]) input contextTokens symbol =
      if site.isIn input.path ∧ symbol = site.name then
        (usageAmong sites input contextTokens symbol).push
          (site.toRecord input.source contextTokens)
      else usageAmong sites input contextTokens symbol := by
  by_cases recorded : site.isIn input.path ∧ symbol = site.name
  · obtain ⟨inTest, rfl⟩ := recorded
    simp [usageAmong, SymbolUsage.push, inTest]
  · have skipped : (site.name == symbol && site.isIn input.path) = false := by
      refine Bool.eq_false_iff.2 fun both => recorded ?_
      obtain ⟨named, inTest⟩ := Bool.and_eq_true_iff.1 both
      exact ⟨inTest, (beq_iff_eq.1 named).symm⟩
    rw [if_neg recorded]
    simp [usageAmong, skipped]

/-- What a site does to the map it does to each symbol. -/
theorem recordSite_usageAmong (names : List String) (sites : List Site) (site : Site) :
    recordSite input contextTokens
        (names.map fun name => (name, usageAmong sites input contextTokens name)) site =
      names.map fun name => (name, usageAmong (sites ++ [site]) input contextTokens name) := by
  simp only [usageAmong_concat]
  cases inTest : site.isIn input.path with
  | false => simp [recordSite, inTest]
  | true =>
    simp only [recordSite, inTest, UsageMap.change, if_true, true_and, List.map_map]
    refine List.map_congr_left fun name _ => ?_
    dsimp only [Function.comp_apply]
    split <;> rfl

/-- **After some sites the map holds for each symbol what is its own among them**, by induction
on the sites, with those that came before as the accumulator. -/
theorem foldl_recordSite (names : List String) (earlier sites : List Site) :
    sites.foldl (recordSite input contextTokens)
        (names.map fun name => (name, usageAmong earlier input contextTokens name)) =
      names.map fun name => (name, usageAmong (earlier ++ sites) input contextTokens name) := by
  induction sites generalizing earlier with
  | nil => rw [List.append_nil, List.foldl_nil]
  | cons site sites ih =>
    rw [List.foldl_cons, recordSite_usageAmong, ih, List.append_assoc, List.singleton_append]

/-- **Walking the tree finds for each symbol its usages among the sites of the dump.** -/
theorem locateTree_of_dump {dump : String} (given : input.dump = some dump) (symbols : NameSet) :
    locateTree contextTokens symbols input =
      .ok (symbols.toList.map fun symbol =>
        (symbol, usageAmong (sitesOf dump) input contextTokens symbol)) := by
  rw [locateTree, given]
  exact congrArg Except.ok (foldl_recordSite input contextTokens symbols.toList [] (sitesOf dump))

end Recording

theorem locateTree_of_none {input : TestInput} (missing : input.dump = none) (contextTokens : Nat)
    (symbols : NameSet) : locateTree contextTokens symbols input = .error (.noDump input.path) := by
  rw [locateTree, missing]

/-! ## Locating -/

/-- **A locator that has the dump it needs finds usages.** -/
theorem Locator.exists_locate (locator : Locator) {test : TestInput}
    (ready : locator.strategy = .tree → test.dump.isSome = true) (names : NameSet) :
    ∃ usages, locator.locate names test = .ok usages := by
  rw [locate]
  cases strategy : locator.strategy with
  | fast => exact ⟨_, rfl⟩
  | tree =>
    obtain ⟨dump, present⟩ := Option.isSome_iff_exists.1 (ready strategy)
    exact ⟨_, locateTree_of_dump test locator.contextTokens present names⟩

/-- **The symbols of the usages are the names asked for**, in their order. -/
theorem Locator.map_fst_locate {locator : Locator} {names : NameSet} {test : TestInput}
    {usages : UsageMap} (located : locator.locate names test = .ok usages) :
    usages.map (·.1) = names.toList := by
  rw [locate] at located
  split at located
  · cases located
    simp [locateFast, Function.comp_def]
  · cases given : test.dump with
    | none =>
      rw [locateTree_of_none given] at located
      cases located
    | some dump =>
      rw [locateTree_of_dump test _ given] at located
      cases located
      simp [Function.comp_def]

/-! ## Reporting -/

/-- A symbol whose kind is forgotten. -/
def CoveredSymbol.withoutKind (symbol : CoveredSymbol) : CoveredSymbol :=
  { symbol with kind := none }

/-- A report in which every kind is forgotten. -/
def CoverageReport.withoutKinds (report : CoverageReport) : CoverageReport :=
  { report with symbols := report.symbols.map CoveredSymbol.withoutKind }

/-- **A catalog adds kinds to a report, and nothing else.** -/
theorem CoverageReport.withoutKinds_ofUsages (usages : UsageMap) (catalog : List Symbol) :
    (ofUsages usages catalog).withoutKinds = ofUsages usages [] := by
  simp [withoutKinds, ofUsages, CoveredSymbol.withoutKind, CoveredSymbol.isUsed,
    Function.comp_def, List.countP_map]

/-- A report from a catalog that names every symbol has a kind for each. -/
theorem CoverageReport.kind_isSome_of_mem {usages : UsageMap} {catalog : List Symbol}
    (named : ∀ name ∈ usages.map (·.1), ∃ symbol ∈ catalog, symbol.name = name) :
    ∀ symbol ∈ (ofUsages usages catalog).symbols, symbol.kind.isSome = true := by
  intro symbol member
  obtain ⟨⟨name, usage⟩, isUsage, rfl⟩ := List.mem_map.1 member
  obtain ⟨exported, isExported, same⟩ := named name (List.mem_map_of_mem isUsage)
  rw [Option.isSome_map, List.find?_isSome]
  exact ⟨exported, isExported, by simpa using same⟩

end ExportAudit.Usage
