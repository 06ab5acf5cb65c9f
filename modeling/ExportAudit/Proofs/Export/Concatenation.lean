import ExportAudit.Proofs.Export.ScanCatalog
import ExportAudit.Proofs.Text.Lines

/-!
# Scanning one dump behind another

A dump that starts over at depth zero does not see what stands before it: its first node
ends every block that is still open, so no block of the earlier dump holds any of its
nodes, and a name that was waiting there waits in vain.  **The only trace that the earlier
dump leaves is its names**, which do not enter the catalog a second time.

What is active, what waits and what is resolved is a matter of positions, and positions
count only by their distances.  So the argument is made once, for an excerpt: some
consecutive lines of a dump that no earlier block reaches.  The earlier dump is an excerpt
of the two together because nothing stands before it, the later one because it starts over.
-/

namespace ExportAudit.Dump

set_option autoImplicit false

open ExportAudit.Text

/-! ## Lines moved along -/

/-- A line, so many positions further on. -/
def Line.moved (line : Line) (offset : Nat) : Line :=
  { line with index := offset + line.index }

theorem moved_zero (line : Line) : line.moved 0 = line := by
  simp [Line.moved]

@[simp]
theorem isNode_moved (line : Line) (offset : Nat) : (line.moved offset).isNode = line.isNode := rfl

@[simp]
theorem depth_moved (line : Line) (offset : Nat) : (line.moved offset).depth = line.depth := rfl

/-- **The lines of a dump behind whole lines are its own, moved along.** -/
theorem parseDump_append {before : String} (whole : WholeLines before.toList) (after : String) :
    parseDump (before ++ after) =
      parseDump before ++ (parseDump after).map (·.moved (parseDump before).length) := by
  simp only [parseDump, String.toList_append, lines_append whole, List.zipIdx_append,
    List.map_append, List.length_map, List.length_zipIdx, List.append_cancel_left_eq]
  rw [Nat.zero_add, List.zipIdx_eq_map_add, List.map_map, List.map_map]
  rfl

end ExportAudit.Dump

namespace ExportAudit.Export

set_option autoImplicit false

open ExportAudit.Dump ExportAudit.Text

@[simp]
theorem roleOf_moved (line : Line) (offset : Nat) (moduleName qualifier : String) :
    Role.of (line.moved offset) moduleName qualifier = Role.of line moduleName qualifier := rfl

/-! ## Excerpts -/

/-- Some consecutive lines of others, from an offset up to a limit, that no earlier block
reaches. -/
structure Excerpt (whole part : List Line) (offset limit : Nat) : Prop where
  same : ∀ place, place < limit →
    whole[offset + place]? = (part[place]?).map (·.moved offset)
  fresh : ∀ start opener place node, start < offset → place < limit →
    NodeAt whole start opener → NodeAt whole (offset + place) node →
      ¬ DeeperBetween whole start (offset + place + 1)

variable {options : ScanOptions}

namespace Excerpt

variable {whole part : List Line} {offset limit place : Nat}

theorem nodeAt_iff (excerpt : Excerpt whole part offset limit) (within : place < limit)
    {node : Line} : NodeAt whole (offset + place) node ↔
      ∃ inner, NodeAt part place inner ∧ inner.moved offset = node := by
  simp only [NodeAt, excerpt.same place within, Option.map_eq_some_iff]
  constructor
  · rintro ⟨⟨inner, found, rfl⟩, isNode⟩
    exact ⟨inner, ⟨found, isNode⟩, rfl⟩
  · rintro ⟨inner, ⟨found, isNode⟩, rfl⟩
    exact ⟨⟨inner, found, rfl⟩, isNode⟩

/-- A line has its role wherever it stands. -/
theorem roleAt_iff (excerpt : Excerpt whole part offset limit) (within : place < limit)
    {role : Role} : RoleAt options whole (offset + place) role ↔
      RoleAt options part place role := by
  constructor
  · rintro ⟨node, nodeAt, rfl⟩
    obtain ⟨inner, innerAt, moved⟩ := (excerpt.nodeAt_iff within).1 nodeAt
    exact ⟨inner, innerAt, by rw [← moved, roleOf_moved]⟩
  · rintro ⟨inner, innerAt, rfl⟩
    exact ⟨inner.moved offset, (excerpt.nodeAt_iff within).2 ⟨inner, innerAt, rfl⟩, rfl⟩

theorem deeperBetween_iff (excerpt : Excerpt whole part offset limit) {above below : Nat}
    (above_lt : above < limit) (below_le : below ≤ limit) :
    DeeperBetween whole (offset + above) (offset + below) ↔ DeeperBetween part above below := by
  constructor
  · intro deeper outer inner place outerAt innerAt after before
    have within : place < limit := Nat.lt_of_lt_of_le before below_le
    have outerAt_whole := (excerpt.nodeAt_iff above_lt).2 ⟨outer, outerAt, rfl⟩
    have innerAt_whole := (excerpt.nodeAt_iff within).2 ⟨inner, innerAt, rfl⟩
    have less := deeper outerAt_whole innerAt_whole (Nat.add_lt_add_left after offset)
      (Nat.add_lt_add_left before offset)
    exact less
  · intro deeper outer inner place outerAt innerAt after before
    obtain ⟨place, rfl⟩ := Nat.exists_eq_add_of_le
      (Nat.le_trans (Nat.le_add_right offset above) (Nat.le_of_lt after))
    have within : place < limit :=
      Nat.lt_of_lt_of_le (Nat.lt_of_add_lt_add_left before) below_le
    obtain ⟨outer', outerAt', rfl⟩ := (excerpt.nodeAt_iff above_lt).1 outerAt
    obtain ⟨inner', innerAt', rfl⟩ := (excerpt.nodeAt_iff within).1 innerAt
    have less := deeper outerAt' innerAt' (Nat.lt_of_add_lt_add_left after)
      (Nat.lt_of_add_lt_add_left before)
    exact less

theorem lastBlock_iff (excerpt : Excerpt whole part offset limit) {start : Nat}
    (within : place ≤ limit) : LastBlock options whole (offset + start) (offset + place) ↔
      LastBlock options part start place := by
  constructor
  · intro block
    have before := Nat.lt_of_add_lt_add_left block.before
    refine ⟨before, (excerpt.roleAt_iff (Nat.lt_of_lt_of_le before within)).1 block.own, ?_⟩
    intro between behind ahead own
    exact block.last (offset + between) (Nat.add_lt_add_left behind offset)
      (Nat.add_lt_add_left ahead offset)
      ((excerpt.roleAt_iff (Nat.lt_of_lt_of_le ahead within)).2 own)
  · intro block
    refine ⟨Nat.add_lt_add_left block.before offset,
      (excerpt.roleAt_iff (Nat.lt_of_lt_of_le block.before within)).2 block.own, ?_⟩
    intro between behind ahead own
    obtain ⟨between, rfl⟩ := Nat.exists_eq_add_of_le
      (Nat.le_trans (Nat.le_add_right offset start) (Nat.le_of_lt behind))
    have ahead := Nat.lt_of_add_lt_add_left ahead
    exact block.last between (Nat.lt_of_add_lt_add_left behind) ahead
      ((excerpt.roleAt_iff (Nat.lt_of_lt_of_le ahead within)).1 own)

theorem qualified_iff (excerpt : Excerpt whole part offset limit) {start : Nat}
    (within : place ≤ limit) : Qualified options whole (offset + start) (offset + place) ↔
      Qualified options part start place := by
  constructor
  · rintro ⟨marker, name, behind, ahead, role, accepted⟩
    obtain ⟨marker, rfl⟩ := Nat.exists_eq_add_of_le
      (Nat.le_trans (Nat.le_add_right offset start) (Nat.le_of_lt behind))
    have ahead := Nat.lt_of_add_lt_add_left ahead
    exact ⟨marker, name, Nat.lt_of_add_lt_add_left behind, ahead,
      (excerpt.roleAt_iff (Nat.lt_of_lt_of_le ahead within)).1 role, accepted⟩
  · rintro ⟨marker, name, behind, ahead, role, accepted⟩
    exact ⟨offset + marker, name, Nat.add_lt_add_left behind offset,
      Nat.add_lt_add_left ahead offset,
      (excerpt.roleAt_iff (Nat.lt_of_lt_of_le ahead within)).2 role, accepted⟩

/-- **A block that holds a node of an excerpt begins in it.** -/
theorem exists_start (excerpt : Excerpt whole part offset limit) (within : place < limit)
    {start : Nat} {node : Line} (block : LastBlock options whole start (offset + place))
    (deeper : DeeperBetween whole start (offset + place + 1))
    (nodeAt : NodeAt whole (offset + place) node) : ∃ inner, start = offset + inner := by
  refine Nat.exists_eq_add_of_le (Nat.le_of_not_lt fun earlier => ?_)
  obtain ⟨opener, openerAt, -⟩ := block.own
  exact excerpt.fresh start opener place node earlier within openerAt nodeAt deeper

/-! ## What happens in an excerpt -/

/-- Whether a node is active is settled within the excerpt. -/
theorem active_iff (excerpt : Excerpt whole part offset limit) (within : place < limit)
    {node : Line} (nodeAt : NodeAt part place node) :
    Active options whole (offset + place) ↔ Active options part place := by
  have nodeAt_whole : NodeAt whole (offset + place) (node.moved offset) :=
    (excerpt.nodeAt_iff within).2 ⟨node, nodeAt, rfl⟩
  constructor
  · rintro ⟨start, block, deeper, qualified⟩
    obtain ⟨start, rfl⟩ := excerpt.exists_start within block deeper nodeAt_whole
    have block := (excerpt.lastBlock_iff (Nat.le_of_lt within)).1 block
    exact ⟨start, block,
      (excerpt.deeperBetween_iff (Nat.lt_trans block.before within) within).1 deeper,
      (excerpt.qualified_iff (Nat.le_of_lt within)).1 qualified⟩
  · rintro ⟨start, block, deeper, qualified⟩
    exact ⟨offset + start, (excerpt.lastBlock_iff (Nat.le_of_lt within)).2 block,
      (excerpt.deeperBetween_iff (Nat.lt_trans block.before within) within).2 deeper,
      (excerpt.qualified_iff (Nat.le_of_lt within)).2 qualified⟩

theorem active_and_roleAt_iff (excerpt : Excerpt whole part offset limit)
    (within : place < limit) {role : Role} :
    Active options whole (offset + place) ∧ RoleAt options whole (offset + place) role ↔
      Active options part place ∧ RoleAt options part place role := by
  rw [excerpt.roleAt_iff within]
  refine and_congr_left fun ⟨node, nodeAt, _⟩ => ?_
  exact excerpt.active_iff within nodeAt

theorem activeImport_iff (excerpt : Excerpt whole part offset limit) (within : place < limit)
    {name : String} {line : Option Nat} :
    ActiveImport options whole (offset + place) name line ↔
      ActiveImport options part place name line := by
  have both : Active options whole (offset + place) ∧
      RoleAt options whole (offset + place) (.usingName name line) ↔
        Active options part place ∧ RoleAt options part place (.usingName name line) :=
    excerpt.active_and_roleAt_iff within
  constructor
  · rintro ⟨active, role⟩
    obtain ⟨active, role⟩ := both.1 ⟨active, role⟩
    exact ⟨active, role⟩
  · rintro ⟨active, role⟩
    obtain ⟨active, role⟩ := both.2 ⟨active, role⟩
    exact ⟨active, role⟩

theorem activeShadow_iff (excerpt : Excerpt whole part offset limit) (within : place < limit)
    {name declaration : String} :
    ActiveShadow options whole (offset + place) name declaration ↔
      ActiveShadow options part place name declaration := by
  have both : Active options whole (offset + place) ∧
      RoleAt options whole (offset + place) (.shadow declaration name) ↔
        Active options part place ∧ RoleAt options part place (.shadow declaration name) :=
    excerpt.active_and_roleAt_iff within
  constructor
  · rintro ⟨active, role⟩
    obtain ⟨active, role⟩ := both.1 ⟨active, role⟩
    exact ⟨active, role⟩
  · rintro ⟨active, role⟩
    obtain ⟨active, role⟩ := both.2 ⟨active, role⟩
    exact ⟨active, role⟩

/-- What waits in an excerpt waits there alone as well. -/
theorem awaits_iff (excerpt : Excerpt whole part offset limit) (within : place ≤ limit)
    {origin : Nat} {name : String} {line : Option Nat} :
    Awaits options whole (offset + origin) (offset + place) name line ↔
      Awaits options part origin place name line := by
  constructor
  · intro awaits
    have before := Nat.lt_of_add_lt_add_left awaits.before
    have origin_lt := Nat.lt_of_lt_of_le before within
    have imported := (excerpt.activeImport_iff origin_lt).1 awaits.imported
    refine ⟨imported, before, ?_, ?_, ?_⟩
    · -- the block of the import is the last one up to the place
      obtain ⟨start, block, earlier⟩ := awaits.sameBlock
      obtain ⟨own, ownBlock, -⟩ := imported.active
      have same : start = offset + own :=
        (block.restrict earlier (Nat.le_of_lt awaits.before)).unique
          ((excerpt.lastBlock_iff (Nat.le_of_lt origin_lt)).2 ownBlock)
      rw [same] at block
      exact ⟨own, (excerpt.lastBlock_iff within).1 block, ownBlock.before⟩
    · intro between behind ahead other number again
      exact awaits.latest (offset + between) (Nat.add_lt_add_left behind offset)
        (Nat.add_lt_add_left ahead offset) other number
        ((excerpt.activeImport_iff (Nat.lt_of_lt_of_le ahead within)).2 again)
    · intro between behind ahead declaration shadow
      exact awaits.unresolved (offset + between) (Nat.add_lt_add_left behind offset)
        (Nat.add_lt_add_left ahead offset) declaration
        ((excerpt.activeShadow_iff (Nat.lt_of_lt_of_le ahead within)).2 shadow)
  · intro awaits
    have origin_lt := Nat.lt_of_lt_of_le awaits.before within
    refine ⟨(excerpt.activeImport_iff origin_lt).2 awaits.imported,
      Nat.add_lt_add_left awaits.before offset, ?_, ?_, ?_⟩
    · obtain ⟨start, block, earlier⟩ := awaits.sameBlock
      exact ⟨offset + start, (excerpt.lastBlock_iff within).2 block,
        Nat.add_lt_add_left earlier offset⟩
    · intro between behind ahead other number again
      obtain ⟨between, rfl⟩ := Nat.exists_eq_add_of_le
        (Nat.le_trans (Nat.le_add_right offset origin) (Nat.le_of_lt behind))
      have ahead := Nat.lt_of_add_lt_add_left ahead
      exact awaits.latest between (Nat.lt_of_add_lt_add_left behind) ahead other number
        ((excerpt.activeImport_iff (Nat.lt_of_lt_of_le ahead within)).1 again)
    · intro between behind ahead declaration shadow
      obtain ⟨between, rfl⟩ := Nat.exists_eq_add_of_le
        (Nat.le_trans (Nat.le_add_right offset origin) (Nat.le_of_lt behind))
      have ahead := Nat.lt_of_add_lt_add_left ahead
      exact awaits.unresolved between (Nat.lt_of_add_lt_add_left behind) ahead declaration
        ((excerpt.activeShadow_iff (Nat.lt_of_lt_of_le ahead within)).1 shadow)

theorem resolves_iff (excerpt : Excerpt whole part offset limit) (within : place < limit)
    {origin : Nat} {name declaration : String} {line : Option Nat} :
    Resolves options whole (offset + origin) (offset + place) name declaration line ↔
      Resolves options part origin place name declaration line := by
  constructor
  · rintro ⟨shadow, awaited⟩
    exact ⟨(excerpt.activeShadow_iff within).1 shadow,
      (excerpt.awaits_iff (Nat.le_of_lt within)).1 awaited⟩
  · rintro ⟨shadow, awaited⟩
    exact ⟨(excerpt.activeShadow_iff within).2 shadow,
      (excerpt.awaits_iff (Nat.le_of_lt within)).2 awaited⟩

/-- **An import that is resolved in an excerpt was made in it.** -/
theorem exists_origin (excerpt : Excerpt whole part offset limit) (within : place < limit)
    {origin : Nat} {name declaration : String} {line : Option Nat}
    (resolves : Resolves options whole origin (offset + place) name declaration line) :
    ∃ inner, origin = offset + inner := by
  obtain ⟨start, block, deeper, -⟩ := resolves.shadow.active
  obtain ⟨node, nodeAt, -⟩ := resolves.shadow.role
  obtain ⟨start, rfl⟩ := excerpt.exists_start within block deeper nodeAt
  obtain ⟨start', block', earlier⟩ := resolves.awaited.sameBlock
  rw [block'.unique block] at earlier
  exact Nat.exists_eq_add_of_le (Nat.le_of_lt (Nat.lt_of_le_of_lt (Nat.le_add_right _ _) earlier))

theorem resolvedAt_iff (excerpt : Excerpt whole part offset limit) (within : place < limit)
    {name : String} : ResolvedAt options whole (offset + place) name ↔
      ResolvedAt options part place name := by
  constructor
  · rintro ⟨origin, declaration, line, resolves⟩
    obtain ⟨origin, rfl⟩ := excerpt.exists_origin within resolves
    exact ⟨origin, declaration, line, (excerpt.resolves_iff within).1 resolves⟩
  · rintro ⟨origin, declaration, line, resolves⟩
    exact ⟨offset + origin, declaration, line, (excerpt.resolves_iff within).2 resolves⟩

/-- **A symbol enters in an excerpt as it does there alone, unless its name was resolved
before the excerpt.** -/
theorem entersAt_iff (excerpt : Excerpt whole part offset limit) (within : place < limit)
    {symbol : Symbol} : EntersAt options whole symbol (offset + place) ↔
      EntersAt options part symbol place ∧
        ∀ earlier, earlier < offset → ¬ ResolvedAt options whole earlier symbol.name := by
  constructor
  · rintro ⟨first, origin, declaration, line, resolves, kind, recovered⟩
    obtain ⟨origin, rfl⟩ := excerpt.exists_origin within resolves
    rw [Nat.add_sub_add_left] at recovered
    refine ⟨⟨fun earlier before resolved => ?_, origin, declaration, line,
      (excerpt.resolves_iff within).1 resolves, kind, recovered⟩, fun earlier before => ?_⟩
    · exact first (offset + earlier) (Nat.add_lt_add_left before offset)
        ((excerpt.resolvedAt_iff (Nat.lt_trans before within)).2 resolved)
    · exact first earlier (Nat.lt_of_lt_of_le before (Nat.le_add_right offset place))
  · rintro ⟨⟨first, origin, declaration, line, resolves, kind, recovered⟩, notBefore⟩
    refine ⟨fun earlier before resolved => ?_, offset + origin, declaration, line,
      (excerpt.resolves_iff within).2 resolves, kind, by rwa [Nat.add_sub_add_left]⟩
    rcases Nat.lt_or_ge earlier offset with outside | inside
    · exact notBefore earlier outside resolved
    · obtain ⟨earlier, rfl⟩ := Nat.exists_eq_add_of_le inside
      have before := Nat.lt_of_add_lt_add_left before
      exact first earlier before
        ((excerpt.resolvedAt_iff (Nat.lt_trans before within)).1 resolved)

end Excerpt

/-! ## Two dumps as excerpts of one -/

/-- Some lines start over: their first node, if they have any, has depth zero. -/
def StartsOver (lines : List Line) : Prop :=
  ∀ node, lines.find? Line.isNode = some node → node.depth = 0

instance (lines : List Line) : Decidable (StartsOver lines) :=
  decidable_of_iff (∀ node ∈ lines.find? Line.isNode, node.depth = 0) Iff.rfl

theorem StartsOver.tail {line : Line} {lines : List Line} (startsOver : StartsOver (line :: lines))
    (notNode : line.isNode = false) : StartsOver lines := by
  rwa [StartsOver, List.find?_cons_of_neg (by simp [notNode])] at startsOver

theorem StartsOver.depth_eq {line : Line} {lines : List Line}
    (startsOver : StartsOver (line :: lines)) (isNode : line.isNode = true) : line.depth = 0 :=
  startsOver line (List.find?_cons_of_pos isNode)

variable {before after : List Line}

/-- What stands in front is an excerpt, since nothing is earlier. -/
theorem excerpt_before (before after : List Line) :
    Excerpt (before ++ after) before 0 before.length where
  same place within := by
    have unmoved : (fun line : Line => line.moved 0) = id := funext moved_zero
    rw [Nat.zero_add, List.getElem?_append_left within, unmoved, Option.map_id, id]
  fresh _ _ _ _ earlier := absurd earlier (Nat.not_lt_zero _)

/-- **Lines that start over are an excerpt**: their first node is no deeper than anything
before it. -/
theorem excerpt_after (startsOver : StartsOver after) :
    Excerpt (before ++ after.map (·.moved before.length)) after before.length after.length where
  same place _ := by
    rw [List.getElem?_append_right (Nat.le_add_right _ _), Nat.add_sub_cancel_left,
      List.getElem?_map]
  fresh start opener place node earlier within openerAt nodeAt deeper := by
    obtain ⟨found, isNode⟩ := nodeAt
    rw [List.getElem?_append_right (Nat.le_add_right _ _), Nat.add_sub_cancel_left,
      List.getElem?_map, Option.map_eq_some_iff] at found
    obtain ⟨inner, found, rfl⟩ := found
    -- the first node stands at the place or before it
    have isSome : (after.find? Line.isNode).isSome := by
      rw [List.find?_isSome]
      exact ⟨inner, List.mem_of_getElem? found, isNode⟩
    obtain ⟨top, isTop⟩ := Option.isSome_iff_exists.1 isSome
    obtain ⟨topIsNode, first, first_lt, topAt, noneBefore⟩ :=
      List.find?_eq_some_iff_getElem.1 isTop
    have reached : first ≤ place := by
      refine Nat.le_of_not_lt fun later => ?_
      have notNode := noneBefore place later
      rw [List.getElem?_eq_getElem within, Option.some.injEq] at found
      have innerIsNode : inner.isNode = true := isNode
      simp [found, innerIsNode] at notNode
    have topAt_whole : NodeAt (before ++ after.map (·.moved before.length))
        (before.length + first) (top.moved before.length) := by
      refine ⟨?_, topIsNode⟩
      rw [List.getElem?_append_right (Nat.le_add_right _ _), Nat.add_sub_cancel_left,
        List.getElem?_map, List.getElem?_eq_getElem first_lt, topAt]
      rfl
    have less := deeper openerAt topAt_whole (by omega) (by omega)
    rw [depth_moved, startsOver top isTop] at less
    exact Nat.not_lt_zero _ less

/-- A symbol enters in front, or it enters behind and its name is not resolved in front. -/
theorem exists_entersAt_append_iff (startsOver : StartsOver after) (symbol : Symbol) :
    (∃ place, EntersAt options (before ++ after.map (·.moved before.length)) symbol place) ↔
      (∃ place, EntersAt options before symbol place) ∨
        (∃ place, EntersAt options after symbol place) ∧
          ∀ place, ¬ ResolvedAt options before place symbol.name := by
  have front := excerpt_before before (after.map (·.moved before.length))
  have back : Excerpt (before ++ after.map (·.moved before.length)) after before.length
      after.length := excerpt_after startsOver
  have entersAt_front {place : Nat} (within : place < before.length) :
      EntersAt options (before ++ after.map (·.moved before.length)) symbol place ↔
        EntersAt options before symbol place := by
    have sameThere : EntersAt options _ symbol (0 + place) ↔ _ := front.entersAt_iff within
    simpa using sameThere
  have resolvedAt_front {place : Nat} (within : place < before.length) :
      ResolvedAt options (before ++ after.map (·.moved before.length)) place symbol.name ↔
        ResolvedAt options before place symbol.name := by
    have sameThere : ResolvedAt options _ (0 + place) symbol.name ↔ _ :=
      front.resolvedAt_iff within
    rwa [Nat.zero_add] at sameThere
  constructor
  · rintro ⟨place, enters⟩
    rcases Nat.lt_or_ge place before.length with within | beyond
    · exact .inl ⟨place, (entersAt_front within).1 enters⟩
    · obtain ⟨place, rfl⟩ := Nat.exists_eq_add_of_le beyond
      have within : place < after.length := by
        have inside := enters.resolvedAt.lt_length
        rw [List.length_append, List.length_map] at inside
        exact Nat.lt_of_add_lt_add_left inside
      obtain ⟨enters, notBefore⟩ := (back.entersAt_iff within).1 enters
      refine .inr ⟨⟨place, enters⟩, fun earlier resolved => ?_⟩
      have inFront := resolved.lt_length
      exact notBefore earlier inFront ((resolvedAt_front inFront).2 resolved)
  · rintro (⟨place, enters⟩ | ⟨⟨place, enters⟩, unresolved⟩)
    · exact ⟨place, (entersAt_front enters.resolvedAt.lt_length).2 enters⟩
    · refine ⟨before.length + place,
        (back.entersAt_iff enters.resolvedAt.lt_length).2 ⟨enters, ?_⟩⟩
      intro earlier inFront resolved
      exact unresolved earlier ((resolvedAt_front inFront).1 resolved)

/-! ## One scan behind another -/

/-- What two scans find together: the first catalog, the symbols of the second whose names
it lacks, and the sums of the counts. -/
def ExportScan.followedBy (first second : ExportScan) : ExportScan :=
  let added := second.symbols.filter fun symbol => decide (symbol.name ∉ first.names)
  { symbols := (first.symbols ++ added).mergeSort fun a b => decide (a.name ≤ b.name)
    nodeLines := first.nodeLines + second.nodeLines
    exportBlocks := first.exportBlocks + second.exportBlocks }

theorem ExportScan.mem_followedBy {first second : ExportScan} {symbol : Symbol} :
    symbol ∈ (first.followedBy second).symbols ↔
      symbol ∈ first.symbols ∨ symbol ∈ second.symbols ∧ symbol.name ∉ first.names := by
  simp [ExportScan.followedBy, List.mem_mergeSort]

/-- **Two catalogs together are the catalog of the two dumps together.** -/
theorem isCatalog_followedBy {first second : ExportScan}
    (catalog : IsCatalog options before first) (later : IsCatalog options after second)
    (startsOver : StartsOver after) :
    IsCatalog options (before ++ after.map (·.moved before.length))
      (first.followedBy second) := by
  have entries : ∀ symbol, symbol ∈ (first.followedBy second).symbols ↔
      ∃ place, EntersAt options (before ++ after.map (·.moved before.length)) symbol place := by
    intro symbol
    rw [ExportScan.mem_followedBy, exists_entersAt_append_iff startsOver, catalog.entries,
      later.entries, ExportScan.mem_names_iff, catalog.names, not_exists]
  refine ⟨entries, exists_name_iff_of_entries entries, ?_, ?_, ?_⟩
  · refine increasing_mergeSort (List.pairwise_append.2
      ⟨catalog.distinct, later.distinct.filter _, ?_⟩)
    intro symbol member added isAdded same
    have unnamed := (List.mem_filter.1 isAdded).2
    rw [decide_eq_true_eq, ExportScan.mem_names_iff] at unnamed
    exact unnamed ⟨symbol, member, same⟩
  · rw [List.countP_append, List.countP_map, ← catalog.nodeLines]
    exact congrArg (first.nodeLines + ·) later.nodeLines
  · rw [List.countP_append, List.countP_map, ← catalog.exportBlocks]
    exact congrArg (first.exportBlocks + ·) later.exportBlocks

/-- **Nothing leaks past a dump of whole lines into one that starts over**: the scan of the
two together is what the two scans find together. -/
theorem scanExports_append (options : ScanOptions) (before after : String)
    (whole : WholeLines before.toList) (startsOver : StartsOver (parseDump after)) :
    scanExports (before ++ after) options =
      (scanExports before options).followedBy (scanExports after options) := by
  have together := isCatalog_followedBy (isCatalog_scanExports before options)
    (isCatalog_scanExports after options) startsOver
  rw [← parseDump_append whole after] at together
  exact (isCatalog_scanExports (before ++ after) options).unique together

/-- A dump that ends in an open block, with a name that waits for its shadow. -/
def leftOpen : String :=
  "ExportDecl 0x1 in m\n  NamespaceDecl 0x2 std\n    UsingDecl 0x3 <line:5:5> std::swap\n"

/-- A dump with a shadow of that name, and with no import of it. -/
def loneShadow : String :=
  "ExportDecl 0x4 in m\n  NamespaceDecl 0x5 std\n" ++
    "    UsingShadowDecl 0x6 implicit Function 0x7 'swap'"

theorem scanExports_append_loneShadow :
    WholeLines leftOpen.toList ∧ StartsOver (parseDump loneShadow) ∧
      scanExports (leftOpen ++ loneShadow) ⟨"m", ⟨"std", []⟩, 10⟩ =
        (scanExports leftOpen ⟨"m", ⟨"std", []⟩, 10⟩).followedBy
          (scanExports loneShadow ⟨"m", ⟨"std", []⟩, 10⟩) :=
  ⟨by decide, by decide +kernel,
    scanExports_append _ leftOpen loneShadow (by decide) (by decide +kernel)⟩

end ExportAudit.Export
