import ExportAudit.Proofs.Dump.Forest
import ExportAudit.Proofs.Export.ScanCatalog

/-!
# Where exports come from

Every export comes from a using declaration, and the forest of the dump tells where that
declaration lies.  An own export block holds it, and the same block holds an accepted
namespace that begins before it.

More is not true.  A scan remembers that an accepted namespace has begun in a block, and
it forgets this only when the block ends.  **So the namespace need not hold the using
declaration**: one that stands in a later namespace of the block, which nothing accepts,
exports its name like any other.
-/

namespace ExportAudit.Export

set_option autoImplicit false

open ExportAudit.Dump

variable (options : ScanOptions) (lines : List Line)

/-! ## Using declarations and what holds them -/

/-- An accepted namespace begins at a position. -/
def AcceptedAt (place : Nat) : Prop :=
  ∃ name, RoleAt options lines place (.namespaceBlock (some name)) ∧
    options.namespaces.accepts name = true

/-- A symbol comes from the using declaration at a position: its name is declared there,
and its line, if it has one, is the line printed there. -/
def ComesFrom (symbol : Symbol) (place : Nat) : Prop :=
  ∃ line, RoleAt options lines place (.usingName symbol.name line) ∧
    (symbol.line = none ∨ symbol.line = line)

/-- A symbol comes from a using declaration in an accepted namespace of an own export
block. -/
structure DeclaredInside (symbol : Symbol) (block marker place : Nat) : Prop where
  own : RoleAt options lines block (.exportBlock true)
  accepted : AcceptedAt options lines marker
  origin : ComesFrom options lines symbol place
  blockHolds : Ancestor lines block marker
  namespaceHolds : Ancestor lines marker place

/-- A symbol comes from a using declaration in an own export block, behind the beginning of
an accepted namespace of the block. -/
structure DeclaredBehind (symbol : Symbol) (block marker place : Nat) : Prop where
  own : RoleAt options lines block (.exportBlock true)
  accepted : AcceptedAt options lines marker
  origin : ComesFrom options lines symbol place
  blockHolds : Ancestor lines block marker
  behind : marker < place
  holds : Ancestor lines block place

variable {options lines}

/-! ## What is known of an export -/

/-- What a block holds up to a position encloses every node on the way there. -/
theorem encloses_of_deeperBetween {start place last : Nat} {role role' : Role}
    (opens : RoleAt options lines start role) (found : RoleAt options lines place role')
    (after : start < place) (upTo : place ≤ last) (deeper : DeeperBetween lines start (last + 1)) :
    Encloses lines start place := by
  obtain ⟨outer, outerAt, -⟩ := opens
  obtain ⟨inner, innerAt, -⟩ := found
  exact ⟨after, ⟨outer, outerAt⟩, ⟨inner, innerAt⟩, deeper.mono (Nat.succ_le_succ upTo)⟩

/-- **The import that a symbol enters with lies in an own block, behind an accepted
namespace of the block.** -/
theorem EntersAt.exists_declaredBehind (preorder : IsPreorder lines) {symbol : Symbol}
    {place : Nat} (enters : EntersAt options lines symbol place) :
    ∃ block marker origin, DeclaredBehind options lines symbol block marker origin := by
  obtain ⟨origin, declaration, line, resolves, -, recovered⟩ := enters.made
  have imported := resolves.awaited.imported
  obtain ⟨start, block, deeper, marker, name, after, before, role, accepted⟩ := imported.active
  have holdsMarker : Encloses lines start marker :=
    encloses_of_deeperBetween block.own role after (Nat.le_of_lt before) deeper
  have holdsOrigin : Encloses lines start origin :=
    encloses_of_deeperBetween block.own imported.role block.before (Nat.le_refl origin) deeper
  have sameLine : symbol.line = none ∨ symbol.line = line := by
    rw [recovered]
    split
    · exact .inr rfl
    · exact .inl rfl
  exact ⟨start, marker, origin, block.own, ⟨name, role, accepted⟩,
    ⟨line, imported.role, sameLine⟩, (ancestor_iff_encloses preorder).2 holdsMarker, before,
    (ancestor_iff_encloses preorder).2 holdsOrigin⟩

/-- **Every export comes from a using declaration that an own export block holds, behind an
accepted namespace that the block holds as well.** -/
theorem declaredBehind_of_mem_symbols (dump : String) (options : ScanOptions)
    (preorder : IsPreorder (parseDump dump)) :
    ∀ symbol ∈ (scanExports dump options).symbols, ∃ block marker place,
      DeclaredBehind options (parseDump dump) symbol block marker place := by
  intro symbol member
  obtain ⟨place, enters⟩ := ((isCatalog_scanExports dump options).entries symbol).1 member
  exact enters.exists_declaredBehind preorder

/-! ## The outline of a dump -/

variable (options lines) in
/-- What a scan reads off each line: whether it is a node, its depth, and its role. -/
def outline : List (Bool × Nat × Role) :=
  lines.map fun line =>
    (line.isNode, line.depth, Role.of line options.moduleName options.namespaces.qualifier)

theorem RoleAt.getElem?_outline {place : Nat} {role : Role}
    (found : RoleAt options lines place role) :
    ∃ depth, (outline options lines)[place]? = some (true, depth, role) := by
  obtain ⟨node, nodeAt, rfl⟩ := found
  exact ⟨node.depth, by rw [outline, List.getElem?_map, nodeAt.1, Option.map_some, nodeAt.2]⟩

theorem exists_nodeAt_of_outline {place depth : Nat} {role : Role}
    (entry : (outline options lines)[place]? = some (true, depth, role)) :
    ∃ node, NodeAt lines place node ∧ node.depth = depth := by
  rw [outline, List.getElem?_map, Option.map_eq_some_iff] at entry
  obtain ⟨node, found, same⟩ := entry
  simp only [Prod.mk.injEq] at same
  exact ⟨node, ⟨found, same.1⟩, same.2.1⟩

/-! ## An export that no accepted namespace holds -/

/-- A dump of one export block.  A using declaration stands in its accepted namespace, and
another in the namespace after it. -/
def strayUsing : String :=
  "TranslationUnitDecl 0x1 <<invalid sloc>> <invalid sloc>
\x60-ExportDecl 0x2 <m.cppm:3:1, line:11:1> line:3:1 in m
  |-NamespaceDecl 0x3 <line:4:1, line:6:1> line:4:11 in m hidden std
  | |-UsingDecl 0x4 <line:5:5, col:16> col:16 in m hidden std::kept
  | \x60-UsingShadowDecl 0x5 <col:16> col:16 in m hidden implicit Function 0x6 'kept'
  \x60-NamespaceDecl 0x7 <line:8:1, line:10:1> line:8:11 in m hidden detail
    |-UsingDecl 0x8 <line:9:5, col:16> col:16 in m hidden std::stray
    \x60-UsingShadowDecl 0x9 <col:16> col:16 in m hidden implicit Function 0xa 'stray'
"

/-- The options of a scan for its module. -/
def strayOptions : ScanOptions := ⟨"m", ⟨"std", ["filesystem", "ranges"]⟩, 10⟩

/-- The symbol of the second using declaration. -/
def straySymbol : Symbol := ⟨"stray", .function, some 9⟩

theorem outline_strayUsing : outline strayOptions (parseDump strayUsing) =
    [(true, 0, .other), (true, 1, .exportBlock true), (true, 2, .namespaceBlock (some "std")),
      (true, 3, .usingName "kept" (some 5)), (true, 3, .shadow "Function" "kept"),
      (true, 2, .namespaceBlock (some "detail")), (true, 3, .usingName "stray" (some 9)),
      (true, 3, .shadow "Function" "stray")] := by
  rw [parseDump, strayUsing, String.toList_ofList]
  decide

theorem isPreorder_strayUsing : IsPreorder (parseDump strayUsing) := by
  rw [parseDump, strayUsing, String.toList_ofList]
  decide

theorem straySymbol_mem : straySymbol ∈ (scanExports strayUsing strayOptions).symbols := by
  rw [scanExports, ExportScan.ofLines, List.mem_mergeSort]
  rw [parseDump, strayUsing, String.toList_ofList]
  decide

theorem declaredBehind_strayUsing :
    IsPreorder (parseDump strayUsing) ∧
      straySymbol ∈ (scanExports strayUsing strayOptions).symbols ∧
      ∃ block marker place,
        DeclaredBehind strayOptions (parseDump strayUsing) straySymbol block marker place :=
  ⟨isPreorder_strayUsing, straySymbol_mem,
    declaredBehind_of_mem_symbols strayUsing strayOptions isPreorder_strayUsing straySymbol
      straySymbol_mem⟩

/-- The second using declaration is the only one of its name. -/
theorem place_of_comesFrom_strayUsing {place : Nat}
    (origin : ComesFrom strayOptions (parseDump strayUsing) straySymbol place) : place = 6 := by
  obtain ⟨line, role, -⟩ := origin
  obtain ⟨depth, there⟩ := role.getElem?_outline
  rw [outline_strayUsing] at there
  rcases place with _ | _ | _ | _ | _ | _ | _ | _ | place <;> simp [straySymbol] at there
  rfl

/-- The first namespace is the only one that is accepted. -/
theorem marker_of_acceptedAt_strayUsing {marker : Nat}
    (acceptedAt : AcceptedAt strayOptions (parseDump strayUsing) marker) : marker = 2 := by
  obtain ⟨name, role, accepted⟩ := acceptedAt
  obtain ⟨depth, there⟩ := role.getElem?_outline
  rw [outline_strayUsing] at there
  rcases marker with _ | _ | _ | _ | _ | _ | _ | _ | marker <;> simp at there
  · rfl
  · rw [← there.2] at accepted
    exact absurd accepted (by decide)

/-- **An export that comes from no using declaration in an accepted namespace.**  The only
one of its name stands in the second namespace, where the first has ended. -/
theorem not_declaredInside_strayUsing :
    IsPreorder (parseDump strayUsing) ∧
      straySymbol ∈ (scanExports strayUsing strayOptions).symbols ∧
      ¬ ∃ block marker place,
        DeclaredInside strayOptions (parseDump strayUsing) straySymbol block marker place := by
  refine ⟨isPreorder_strayUsing, straySymbol_mem, ?_⟩
  rintro ⟨block, marker, place, inside⟩
  have encloses := (ancestor_iff_encloses isPreorder_strayUsing).1 inside.namespaceHolds
  rw [place_of_comesFrom_strayUsing inside.origin,
    marker_of_acceptedAt_strayUsing inside.accepted] at encloses
  -- the second namespace begins between the two, at the depth of the first
  have firstEntry : (outline strayOptions (parseDump strayUsing))[2]? =
      some (true, 2, .namespaceBlock (some "std")) := by
    rw [outline_strayUsing]
    rfl
  have secondEntry : (outline strayOptions (parseDump strayUsing))[5]? =
      some (true, 2, .namespaceBlock (some "detail")) := by
    rw [outline_strayUsing]
    rfl
  obtain ⟨first, firstAt, firstDepth⟩ := exists_nodeAt_of_outline firstEntry
  obtain ⟨second, secondAt, secondDepth⟩ := exists_nodeAt_of_outline secondEntry
  have less := encloses.deeper firstAt secondAt (by decide) (by decide)
  rw [firstDepth, secondDepth] at less
  exact Nat.lt_irrefl 2 less

end ExportAudit.Export
