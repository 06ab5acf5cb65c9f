import ExportAudit.Proofs.Export.ScanCatalog
import Mathlib.Data.Finset.Card

/-!
# Modules that own no block in common

An export block names its owner, and a module owns the block if the owner is the module
itself or a dotted name that ends in it.  Both cases are one: **behind a dot, the module ends
what the owner is behind a dot.**  Of two ends of one text the shorter ends the longer, so an
owner shared by two different modules makes one of them end in a dot and the other.

Two modules of which neither does so are unrelated.  No line opens a block of both, and the
blocks that two scans of one dump count are different lines, whatever owners it prints.
-/

namespace ExportAudit.Export

set_option autoImplicit false

open ExportAudit.Dump

/-! ## Owners -/

theorem isOwnedBy_iff {owner moduleName : List Char} :
    isOwnedBy owner moduleName = true ↔ '.' :: moduleName <:+ '.' :: owner := by
  rw [isOwnedBy, Bool.or_eq_true, beq_iff_eq, List.isSuffixOf_iff_suffix, List.suffix_cons_iff,
    List.cons.injEq, eq_comm]
  simp

/-- Two modules differ, and neither ends in a dot and the other. -/
structure Unrelated (first second : String) : Prop where
  different : first ≠ second
  first_ends : ¬ '.' :: second.toList <:+ first.toList
  second_ends : ¬ '.' :: first.toList <:+ second.toList

instance (first second : String) : Decidable (Unrelated first second) :=
  decidable_of_iff (first ≠ second ∧ ¬ '.' :: second.toList <:+ first.toList ∧
      ¬ '.' :: first.toList <:+ second.toList)
    ⟨fun ⟨different, first, second⟩ => ⟨different, first, second⟩,
      fun unrelated => ⟨unrelated.different, unrelated.first_ends, unrelated.second_ends⟩⟩

/-- A module that ends another, both behind a dot, is that module or is related to it. -/
theorem not_suffix_of_ne {first second : String} (different : first ≠ second)
    (ends : ¬ '.' :: first.toList <:+ second.toList) :
    ¬ '.' :: first.toList <:+ '.' :: second.toList := by
  rw [List.suffix_cons_iff, List.cons.injEq]
  rintro (⟨-, same⟩ | suffix)
  · exact different (String.toList_inj.1 same)
  · exact ends suffix

/-- **Two modules are unrelated exactly if no owner is an owner for both.** -/
theorem unrelated_iff {first second : String} :
    Unrelated first second ↔ ∀ owner,
      ¬ (isOwnedBy owner first.toList = true ∧ isOwnedBy owner second.toList = true) := by
  simp only [isOwnedBy_iff]
  constructor
  · rintro ⟨different, firstEnds, secondEnds⟩ owner ⟨ownsFirst, ownsSecond⟩
    rcases List.suffix_or_suffix_of_suffix ownsFirst ownsSecond with suffix | suffix
    · exact not_suffix_of_ne different secondEnds suffix
    · exact not_suffix_of_ne different.symm firstEnds suffix
  · intro apart
    refine ⟨?_, fun suffix => ?_, fun suffix => ?_⟩
    · rintro rfl
      exact apart first.toList ⟨List.suffix_rfl, List.suffix_rfl⟩
    · exact apart first.toList ⟨List.suffix_rfl, suffix.trans (List.suffix_cons _ _)⟩
    · exact apart second.toList ⟨suffix.trans (List.suffix_cons _ _), List.suffix_rfl⟩

/-! ## Lines that open a block -/

theorem role_eq_exportBlock_iff {line : Line} {moduleName qualifier : String} {own : Bool} :
    Role.of line moduleName qualifier = .exportBlock own ↔
      line.kind = some exportKind ∧ ownedBy line moduleName = own := by
  rw [Role.of]
  split
  · next isBlock => simp [isBlock]
  · next otherKind =>
    simp only [otherKind, false_and, iff_false]
    split
    · exact Role.noConfusion
    · split
      · split <;> exact Role.noConfusion
      · split
        · split <;> exact Role.noConfusion
        · exact Role.noConfusion

/-- **No line opens a block of two unrelated modules**, whatever qualifies their imports. -/
theorem Unrelated.not_own_of_own {first second : String} (unrelated : Unrelated first second)
    {line : Line} {qualifier qualifier' : String}
    (ownsFirst : Role.of line first qualifier = .exportBlock true) :
    Role.of line second qualifier' ≠ .exportBlock true := by
  intro ownsSecond
  obtain ⟨owner, isOwner, first⟩ := (Option.any_eq_true ..).1 (role_eq_exportBlock_iff.1 ownsFirst).2
  obtain ⟨owner', isOwner', second⟩ :=
    (Option.any_eq_true ..).1 (role_eq_exportBlock_iff.1 ownsSecond).2
  obtain rfl := Option.some.inj (isOwner.symm.trans isOwner')
  exact unrelated_iff.1 unrelated owner ⟨first, second⟩

/-! ## The lines of a dump that a scan counts -/

/-- The positions of the lines of a dump that pass a test. -/
def placesOf (dump : String) (passes : Line → Bool) : Finset ℕ :=
  (((parseDump dump).filter passes).map (·.index)).toFinset

theorem mem_placesOf {dump : String} {passes : Line → Bool} {place : ℕ} :
    place ∈ placesOf dump passes ↔
      ∃ line, (parseDump dump)[place]? = some line ∧ passes line = true := by
  simp only [placesOf, List.mem_toFinset, List.mem_map, List.mem_filter]
  constructor
  · rintro ⟨line, ⟨member, passes⟩, rfl⟩
    obtain ⟨place, found⟩ := List.mem_iff_getElem?.1 member
    exact ⟨line, (indexed_parseDump dump found).symm ▸ found, passes⟩
  · rintro ⟨line, found, passes⟩
    exact ⟨line, ⟨List.mem_of_getElem? found, passes⟩, indexed_parseDump dump found⟩

theorem map_index_parseDump (dump : String) :
    (parseDump dump).map (·.index) = List.range (parseDump dump).length := by
  refine List.ext_getElem? fun place => ?_
  rw [List.getElem?_map]
  by_cases within : place < (parseDump dump).length
  · have found : (parseDump dump)[place]? = some (parseDump dump)[place] :=
      List.getElem?_eq_getElem within
    rw [found, Option.map_some, indexed_parseDump dump found, List.getElem?_range within]
  · simp [within]

/-- **Lines are as many as their positions.** -/
theorem card_placesOf (dump : String) (passes : Line → Bool) :
    (placesOf dump passes).card = (parseDump dump).countP passes := by
  have distinct : (((parseDump dump).filter passes).map (·.index)).Nodup := by
    have all : ((parseDump dump).map (·.index)).Nodup := by
      rw [map_index_parseDump]
      exact List.nodup_range
    exact all.sublist (List.filter_sublist.map _)
  rw [placesOf, List.toFinset_card_of_nodup distinct, List.length_map, List.countP_eq_length_filter]

/-- The positions of the export declarations of a dump. -/
def exportLines (dump : String) : Finset ℕ :=
  placesOf dump fun line => decide (line.kind = some exportKind)

/-- The positions of the blocks that a scan of a dump takes for the module's own. -/
def ownBlocks (options : ScanOptions) (dump : String) : Finset ℕ :=
  placesOf dump fun line => line.isNode &&
    decide (Role.of line options.moduleName options.namespaces.qualifier = .exportBlock true)

theorem mem_ownBlocks {options : ScanOptions} {dump : String} {place : ℕ} :
    place ∈ ownBlocks options dump ↔
      RoleAt options (parseDump dump) place (.exportBlock true) := by
  simp only [ownBlocks, mem_placesOf, RoleAt, NodeAt, Bool.and_eq_true, decide_eq_true_eq, and_assoc]

theorem ownBlocks_subset_exportLines (options : ScanOptions) (dump : String) :
    ownBlocks options dump ⊆ exportLines dump := by
  intro place member
  obtain ⟨line, ⟨found, -⟩, own⟩ := mem_ownBlocks.1 member
  refine mem_placesOf.2 ⟨line, found, ?_⟩
  simpa using (role_eq_exportBlock_iff.1 own).1

/-- A scan counts the positions of its own blocks. -/
theorem exportBlocks_scanExports (options : ScanOptions) (dump : String) :
    (scanExports dump options).exportBlocks = (ownBlocks options dump).card :=
  (isCatalog_scanExports dump options).exportBlocks.trans (card_placesOf dump _).symm

theorem Unrelated.disjoint_ownBlocks {options options' : ScanOptions}
    (unrelated : Unrelated options.moduleName options'.moduleName) (dump : String) :
    Disjoint (ownBlocks options dump) (ownBlocks options' dump) := by
  rw [Finset.disjoint_left]
  intro place first second
  obtain ⟨line, lineAt, own⟩ := mem_ownBlocks.1 first
  obtain ⟨line', lineAt', own'⟩ := mem_ownBlocks.1 second
  obtain rfl := lineAt.unique lineAt'
  exact unrelated.not_own_of_own own own'

/-- Two scans of a dump count disjoint sets of export declarations. -/
structure CountApart (options options' : ScanOptions) (dump : String) : Prop where
  first : (scanExports dump options).exportBlocks = (ownBlocks options dump).card
  second : (scanExports dump options').exportBlocks = (ownBlocks options' dump).card
  disjoint : Disjoint (ownBlocks options dump) (ownBlocks options' dump)
  declarations : ownBlocks options dump ∪ ownBlocks options' dump ⊆ exportLines dump

/-- **No line opens a block of two unrelated modules, and scans for them count disjoint sets
of export declarations.** -/
theorem exportBlocks_apart (options options' : ScanOptions)
    (unrelated : Unrelated options.moduleName options'.moduleName) :
    (∀ line qualifier qualifier',
      ¬ (Role.of line options.moduleName qualifier = .exportBlock true ∧
        Role.of line options'.moduleName qualifier' = .exportBlock true)) ∧
      ∀ dump, CountApart options options' dump := by
  refine ⟨fun line qualifier qualifier' ⟨own, own'⟩ => unrelated.not_own_of_own own own', ?_⟩
  intro dump
  exact
    { first := exportBlocks_scanExports options dump
      second := exportBlocks_scanExports options' dump
      disjoint := unrelated.disjoint_ownBlocks dump
      declarations := Finset.union_subset (ownBlocks_subset_exportLines options dump)
        (ownBlocks_subset_exportLines options' dump) }

/-! ## A dump with dotted owners -/

/-- Two blocks of one module and two of another whose name begins like its own. -/
def dottedOwners : String :=
  "ExportDecl 0x1 <io.cppm:1:1> in io
ExportDecl 0x2 <io.cppm:5:1> in std_module.io
ExportDecl 0x3 <iostream.cppm:1:1> in std_module.iostream
ExportDecl 0x4 <iostream.cppm:9:1> in io.iostream
"

/-- A scan for a module, with the usual namespace and window. -/
def scanFor (moduleName : String) : ScanOptions :=
  ⟨moduleName, ⟨"std", []⟩, 10⟩

theorem exportBlocks_apart_dottedOwners :
    Unrelated "io" "iostream" ∧
      (scanExports dottedOwners (scanFor "io")).exportBlocks = 2 ∧
      (scanExports dottedOwners (scanFor "iostream")).exportBlocks = 2 ∧
      Disjoint (ownBlocks (scanFor "io") dottedOwners)
        (ownBlocks (scanFor "iostream") dottedOwners) := by
  have unrelated : Unrelated "io" "iostream" := by decide
  have apart := (exportBlocks_apart (scanFor "io") (scanFor "iostream") unrelated).2 dottedOwners
  refine ⟨unrelated, ?_, ?_, apart.disjoint⟩
  · rw [scanExports, parseDump, dottedOwners, String.toList_ofList]
    decide
  · rw [scanExports, parseDump, dottedOwners, String.toList_ofList]
    decide

end ExportAudit.Export
