import ExportAudit.Export.Scan
import ExportAudit.Proofs.Dump.Nesting
import Mathlib.Data.Nat.Find

/-!
# The catalog that a dump declares

What a module exports can be read off a dump without any state.  A position is active
when the last own export block before it still holds it and an accepted namespace has
begun in that block.  An import is an active using declaration, and it waits for its
shadow until another import or a shadow of its name.  **The shadow that ends the waiting
resolves the name**, and the first position that resolves a name enters it into the
catalog, with the kind that the shadow tells and the line that the using declaration
prints, unless that is too far away.

Nothing here runs through the dump: every notion is a statement about positions.
-/

namespace ExportAudit.Export

set_option autoImplicit false

open ExportAudit.Dump

variable (options : ScanOptions) (lines : List Line)

/-! ## Blocks and active positions -/

/-- A node with a role stands at a position. -/
def RoleAt (place : Nat) (role : Role) : Prop :=
  ∃ node, NodeAt lines place node ∧
    Role.of node options.moduleName options.namespaces.qualifier = role

/-- The last own export block that begins before a position begins at another. -/
structure LastBlock (start place : Nat) : Prop where
  before : start < place
  own : RoleAt options lines start (.exportBlock true)
  last : ∀ between, start < between → between < place →
    ¬ RoleAt options lines between (.exportBlock true)

/-- An accepted namespace begins between two positions. -/
def Qualified (start place : Nat) : Prop :=
  ∃ marker name, start < marker ∧ marker < place ∧
    RoleAt options lines marker (.namespaceBlock (some name)) ∧
    options.namespaces.accepts name = true

/-- The last own export block before a position holds it, the position included, and an
accepted namespace has begun in the block. -/
def Active (place : Nat) : Prop :=
  ∃ start, LastBlock options lines start place ∧ DeeperBetween lines start (place + 1) ∧
    Qualified options lines start place

/-! ## Imports and their shadows -/

/-- An active using declaration. -/
structure ActiveImport (place : Nat) (name : String) (line : Option Nat) : Prop where
  active : Active options lines place
  role : RoleAt options lines place (.usingName name line)

/-- An active shadow. -/
structure ActiveShadow (place : Nat) (name declaration : String) : Prop where
  active : Active options lines place
  role : RoleAt options lines place (.shadow declaration name)

/-- At a position the last active import of the block is the one at the origin, and no
active shadow of its name has followed it. -/
structure Awaits (origin place : Nat) (name : String) (line : Option Nat) : Prop where
  imported : ActiveImport options lines origin name line
  before : origin < place
  sameBlock : ∃ start, LastBlock options lines start place ∧ start < origin
  latest : ∀ between, origin < between → between < place →
    ∀ other number, ¬ ActiveImport options lines between other number
  unresolved : ∀ between, origin < between → between < place →
    ∀ declaration, ¬ ActiveShadow options lines between name declaration

/-- The active shadow at a position resolves the import at the origin. -/
structure Resolves (origin place : Nat) (name declaration : String) (line : Option Nat) :
    Prop where
  shadow : ActiveShadow options lines place name declaration
  awaited : Awaits options lines origin place name line

/-- Some import of a name is resolved at a position. -/
def ResolvedAt (place : Nat) (name : String) : Prop :=
  ∃ origin declaration line, Resolves options lines origin place name declaration line

/-! ## The catalog -/

/-- A position is the first that resolves the name of a symbol, and the symbol has the
kind of that shadow and the line of the import, if the import is within the window. -/
structure EntersAt (symbol : Symbol) (place : Nat) : Prop where
  first : ∀ earlier, earlier < place → ¬ ResolvedAt options lines earlier symbol.name
  made : ∃ origin declaration line,
    Resolves options lines origin place symbol.name declaration line ∧
    symbol.kind = .ofDeclaration declaration ∧
    symbol.line = if place - origin < options.window then line else none

/-- A scan found exactly what some lines declare. -/
structure IsCatalog (scan : ExportScan) : Prop where
  /-- The symbols are those that enter somewhere. -/
  entries : ∀ symbol, symbol ∈ scan.symbols ↔ ∃ place, EntersAt options lines symbol place
  /-- Their names are those that are resolved somewhere. -/
  names : ∀ name, (∃ symbol ∈ scan.symbols, symbol.name = name) ↔
    ∃ place, ResolvedAt options lines place name
  /-- They are listed in increasing order of names, so each name is listed once. -/
  increasing : scan.symbols.Pairwise (fun a b => a.name < b.name)
  nodeLines : scan.nodeLines = lines.countP Line.isNode
  exportBlocks : scan.exportBlocks = lines.countP fun line => line.isNode &&
    decide (Role.of line options.moduleName options.namespaces.qualifier = .exportBlock true)

variable {options lines}

/-! ## What is determined -/

theorem RoleAt.unique {place : Nat} {role role' : Role} (first : RoleAt options lines place role)
    (second : RoleAt options lines place role') : role = role' := by
  obtain ⟨node, nodeAt, rfl⟩ := first
  obtain ⟨node', nodeAt', rfl⟩ := second
  rw [nodeAt.unique nodeAt']

theorem RoleAt.of_nodeAt {place : Nat} {node : Line} (nodeAt : NodeAt lines place node) :
    RoleAt options lines place
      (Role.of node options.moduleName options.namespaces.qualifier) :=
  ⟨node, nodeAt, rfl⟩

theorem LastBlock.unique {start other place : Nat} (first : LastBlock options lines start place)
    (second : LastBlock options lines other place) : start = other := by
  rcases Nat.lt_trichotomy start other with less | same | greater
  · exact absurd second.own (first.last other less second.before)
  · exact same
  · exact absurd first.own (second.last start greater first.before)

/-- A block that is the last before a position is the last before every position
between them. -/
theorem LastBlock.restrict {start place nearer : Nat} (block : LastBlock options lines start place)
    (after : start < nearer) (near : nearer ≤ place) : LastBlock options lines start nearer where
  before := after
  own := block.own
  last between behind ahead := block.last between behind (Nat.lt_of_lt_of_le ahead near)

/-- **A name waits for one import only.** -/
theorem Awaits.origin_unique {origin other place : Nat} {name name' : String}
    {line line' : Option Nat} (first : Awaits options lines origin place name line)
    (second : Awaits options lines other place name' line') : origin = other := by
  rcases Nat.lt_trichotomy origin other with less | same | greater
  · exact absurd second.imported (first.latest other less second.before name' line')
  · exact same
  · exact absurd first.imported (second.latest origin greater first.before name line)

theorem Awaits.name_unique {origin other place : Nat} {name name' : String}
    {line line' : Option Nat} (first : Awaits options lines origin place name line)
    (second : Awaits options lines other place name' line') : name = name' ∧ line = line' := by
  have same := first.origin_unique second
  subst same
  have roles := first.imported.role.unique second.imported.role
  simpa using roles

theorem Resolves.unique {origin other place : Nat} {name declaration declaration' : String}
    {line line' : Option Nat}
    (first : Resolves options lines origin place name declaration line)
    (second : Resolves options lines other place name declaration' line') :
    origin = other ∧ declaration = declaration' ∧ line = line' := by
  have roles := first.shadow.role.unique second.shadow.role
  exact ⟨first.awaited.origin_unique second.awaited, by simpa using roles,
    (first.awaited.name_unique second.awaited).2⟩

/-! ## First resolutions -/

theorem EntersAt.resolvedAt {symbol : Symbol} {place : Nat}
    (enters : EntersAt options lines symbol place) :
    ResolvedAt options lines place symbol.name := by
  obtain ⟨origin, declaration, line, resolves, -⟩ := enters.made
  exact ⟨origin, declaration, line, resolves⟩

/-- **A name that is resolved somewhere enters somewhere**, no later. -/
theorem ResolvedAt.exists_entersAt {place : Nat} {name : String}
    (resolved : ResolvedAt options lines place name) :
    ∃ symbol first, symbol.name = name ∧ first ≤ place ∧ EntersAt options lines symbol first := by
  classical
  have some : ∃ place, ResolvedAt options lines place name := ⟨place, resolved⟩
  obtain ⟨origin, declaration, line, resolves⟩ := Nat.find_spec some
  refine ⟨⟨name, .ofDeclaration declaration,
    if Nat.find some - origin < options.window then line else none⟩, Nat.find some, rfl,
    Nat.find_min' some resolved, ?_, origin, declaration, line, resolves, rfl, rfl⟩
  intro earlier before
  exact Nat.find_min some before

theorem ResolvedAt.lt_length {place : Nat} {name : String}
    (resolved : ResolvedAt options lines place name) : place < lines.length := by
  obtain ⟨_, _, _, found⟩ := resolved
  obtain ⟨node, nodeAt, -⟩ := found.shadow.role
  exact (List.getElem?_eq_some_iff.1 nodeAt.1).1

/-- The names of the symbols that enter are those that are resolved. -/
theorem exists_name_iff_of_entries {symbols : List Symbol}
    (entries : ∀ symbol, symbol ∈ symbols ↔ ∃ place, EntersAt options lines symbol place)
    (name : String) : (∃ symbol ∈ symbols, symbol.name = name) ↔
      ∃ place, ResolvedAt options lines place name := by
  constructor
  · rintro ⟨symbol, member, rfl⟩
    obtain ⟨place, enters⟩ := (entries symbol).1 member
    exact ⟨place, enters.resolvedAt⟩
  · rintro ⟨place, resolved⟩
    obtain ⟨symbol, first, same, -, enters⟩ := resolved.exists_entersAt
    exact ⟨symbol, (entries symbol).2 ⟨first, enters⟩, same⟩

theorem EntersAt.place_unique {symbol other : Symbol} {place place' : Nat}
    (first : EntersAt options lines symbol place) (second : EntersAt options lines other place')
    (sameName : symbol.name = other.name) : place = place' := by
  rcases Nat.lt_trichotomy place place' with less | same | greater
  · exact absurd (sameName ▸ first.resolvedAt) (second.first place less)
  · exact same
  · exact absurd (sameName ▸ second.resolvedAt) (first.first place' greater)

/-- **A name enters at one position, and with one symbol.** -/
theorem EntersAt.unique {symbol other : Symbol} {place place' : Nat}
    (first : EntersAt options lines symbol place) (second : EntersAt options lines other place')
    (sameName : symbol.name = other.name) : symbol = other := by
  have samePlace := first.place_unique second sameName
  subst samePlace
  obtain ⟨origin, declaration, line, resolves, kind, recovered⟩ := first.made
  obtain ⟨origin', declaration', line', resolves', kind', recovered'⟩ := second.made
  obtain ⟨name, _, _⟩ := symbol
  obtain ⟨name', _, _⟩ := other
  cases sameName
  obtain ⟨rfl, rfl, rfl⟩ := resolves.unique resolves'
  simp_all

end ExportAudit.Export
