import ExportAudit.Proofs.Export.Catalog

/-!
# The scope follows the blocks

Before each position the state of the scope says where the position lies.  Outside, no
own export block reaches it.  Inside, the last own export block does, the state has the
depth of that block, it knows whether an accepted namespace has begun there, and the
pending name is the one that waits for its shadow.

**One line keeps the agreement**, and the step it makes says what happens at its
position: an import is made, a waiting name is resolved, or neither.
-/

namespace ExportAudit.Export

set_option autoImplicit false

open ExportAudit.Dump

variable (options : ScanOptions) (lines : List Line)

/-- The state of the scope before a position agrees with the lines before it. -/
inductive ScopeAgrees (place : Nat) : ScopeState → Prop where
  /-- No block reaches the position. -/
  | outside (closed : ∀ start, LastBlock options lines start place →
      ¬ DeeperBetween lines start place) : ScopeAgrees place .start
  /-- The last block reaches it. -/
  | inside {start : Nat} {opener : Line} {state : ScopeState}
      (block : LastBlock options lines start place)
      (deeper : DeeperBetween lines start place)
      (openerAt : NodeAt lines start opener)
      (depth : state.blockDepth = opener.depth)
      (within : state.scope ≠ .outside)
      (qualified : state.scope = .inNamespace ↔ Qualified options lines start place)
      (pending : ∀ name, state.pending = some name ↔
        ∃ origin line, Awaits options lines origin place name line) :
      ScopeAgrees place state

/-- A step says what happens at a position. -/
inductive StepAgrees (place : Nat) : Step → Prop where
  | skip (noImport : ∀ name line, ¬ ActiveImport options lines place name line)
      (unresolved : ∀ name, ¬ ResolvedAt options lines place name) : StepAgrees place .skip
  | imports {name : String} {line : Option Nat}
      (imported : ActiveImport options lines place name line) :
      StepAgrees place (.imports name line)
  | resolves {origin : Nat} {name declaration : String} {line : Option Nat}
      (found : Resolves options lines origin place name declaration line) :
      StepAgrees place (.resolves name declaration)

variable {options lines}

/-! ## From one position to the next -/

/-- A line that opens no own block leaves the last block where it is. -/
theorem LastBlock.succ {start place : Nat} (block : LastBlock options lines start place)
    (notOwn : ¬ RoleAt options lines place (.exportBlock true)) :
    LastBlock options lines start (place + 1) where
  before := Nat.lt_succ_of_lt block.before
  own := block.own
  last between behind ahead := by
    rcases Nat.lt_succ_iff_lt_or_eq.1 ahead with ahead | rfl
    · exact block.last between behind ahead
    · exact notOwn

theorem lastBlock_succ_iff {start place : Nat}
    (notOwn : ¬ RoleAt options lines place (.exportBlock true)) :
    LastBlock options lines start (place + 1) ↔ LastBlock options lines start place := by
  refine ⟨fun block => block.restrict ?_ (Nat.le_succ place), fun block => block.succ notOwn⟩
  rcases Nat.lt_succ_iff_lt_or_eq.1 block.before with before | rfl
  · exact before
  · exact absurd block.own notOwn

theorem qualified_succ_iff {start place : Nat} (after : start < place) :
    Qualified options lines start (place + 1) ↔
      Qualified options lines start place ∨
        ∃ name, RoleAt options lines place (.namespaceBlock (some name)) ∧
          options.namespaces.accepts name = true := by
  constructor
  · rintro ⟨marker, name, behind, ahead, role, accepted⟩
    rcases Nat.lt_succ_iff_lt_or_eq.1 ahead with ahead | rfl
    · exact .inl ⟨marker, name, behind, ahead, role, accepted⟩
    · exact .inr ⟨name, role, accepted⟩
  · rintro (⟨marker, name, behind, ahead, role, accepted⟩ | ⟨name, role, accepted⟩)
    · exact ⟨marker, name, behind, Nat.lt_succ_of_lt ahead, role, accepted⟩
    · exact ⟨place, name, after, Nat.lt_succ_self place, role, accepted⟩

/-- A line that begins no accepted namespace qualifies nothing. -/
theorem qualified_succ_of_no_marker {start place : Nat} (after : start < place)
    (noMarker : ∀ name, RoleAt options lines place (.namespaceBlock (some name)) →
      ¬ options.namespaces.accepts name = true) :
    Qualified options lines start (place + 1) ↔ Qualified options lines start place := by
  rw [qualified_succ_iff after]
  refine ⟨?_, .inl⟩
  rintro (qualified | ⟨name, role, accepted⟩)
  · exact qualified
  · exact absurd accepted (noMarker name role)

/-- What waits after a line was imported by it, or waited before. -/
theorem Awaits.succ_cases {origin place : Nat} {name : String} {line : Option Nat}
    (awaits : Awaits options lines origin (place + 1) name line) :
    (origin = place ∧ ActiveImport options lines place name line) ∨
      (Awaits options lines origin place name line ∧
        (∀ other number, ¬ ActiveImport options lines place other number) ∧
        ∀ declaration, ¬ ActiveShadow options lines place name declaration) := by
  rcases Nat.lt_succ_iff_lt_or_eq.1 awaits.before with before | rfl
  · refine .inr ⟨⟨awaits.imported, before, ?_, ?_, ?_⟩,
      awaits.latest place before (Nat.lt_succ_self place),
      awaits.unresolved place before (Nat.lt_succ_self place)⟩
    · obtain ⟨start, block, earlier⟩ := awaits.sameBlock
      exact ⟨start, block.restrict (Nat.lt_trans earlier before) (Nat.le_succ place), earlier⟩
    · intro between behind ahead
      exact awaits.latest between behind (Nat.lt_succ_of_lt ahead)
    · intro between behind ahead
      exact awaits.unresolved between behind (Nat.lt_succ_of_lt ahead)
  · exact .inl ⟨rfl, awaits.imported⟩

/-- What waits goes on waiting at a line that opens no own block, makes no import and is
no active shadow of the name. -/
theorem Awaits.succ {origin place : Nat} {name : String} {line : Option Nat}
    (awaits : Awaits options lines origin place name line)
    (notOwn : ¬ RoleAt options lines place (.exportBlock true))
    (noImport : ∀ other number, ¬ ActiveImport options lines place other number)
    (noShadow : ∀ declaration, ¬ ActiveShadow options lines place name declaration) :
    Awaits options lines origin (place + 1) name line where
  imported := awaits.imported
  before := Nat.lt_succ_of_lt awaits.before
  sameBlock := by
    obtain ⟨start, block, earlier⟩ := awaits.sameBlock
    exact ⟨start, block.succ notOwn, earlier⟩
  latest between behind ahead := by
    rcases Nat.lt_succ_iff_lt_or_eq.1 ahead with ahead | rfl
    · exact awaits.latest between behind ahead
    · exact noImport
  unresolved between behind ahead := by
    rcases Nat.lt_succ_iff_lt_or_eq.1 ahead with ahead | rfl
    · exact awaits.unresolved between behind ahead
    · exact noShadow

/-- An active import waits from the next position on. -/
theorem ActiveImport.awaits {place : Nat} {name : String} {line : Option Nat}
    (imported : ActiveImport options lines place name line) :
    Awaits options lines place (place + 1) name line where
  imported := imported
  before := Nat.lt_succ_self place
  sameBlock := by
    obtain ⟨start, block, -, -⟩ := imported.active
    refine ⟨start, block.succ fun own => ?_, block.before⟩
    exact Role.noConfusion (own.unique imported.role)
  latest between behind ahead := by omega
  unresolved between behind ahead := by omega

/-! ## Positions without a step -/

/-- A position that no block holds has no step. -/
theorem StepAgrees.skip_of_not_active {place : Nat} (still : ¬ Active options lines place) :
    StepAgrees options lines place .skip :=
  .skip (fun _ _ imported => still imported.active)
    fun _ ⟨_, _, _, found⟩ => still found.shadow.active

/-- A line that is no node has no step. -/
theorem StepAgrees.skip_of_no_node {place : Nat} (none : ∀ node, ¬ NodeAt lines place node) :
    StepAgrees options lines place .skip := by
  refine .skip (fun name line imported => ?_) ?_
  · obtain ⟨node, nodeAt, -⟩ := imported.role
    exact none node nodeAt
  · rintro name ⟨_, _, _, found⟩
    obtain ⟨node, nodeAt, -⟩ := found.shadow.role
    exact none node nodeAt

/-- A role other than the two active ones has no step. -/
theorem StepAgrees.skip_of_role {place : Nat} {role : Role}
    (roleAt : RoleAt options lines place role) (noImport : ∀ name line, role ≠ .usingName name line)
    (noShadow : ∀ declaration name, role ≠ .shadow declaration name) :
    StepAgrees options lines place .skip :=
  .skip (fun name line imported => noImport name line (roleAt.unique imported.role))
    fun name ⟨_, declaration, _, found⟩ =>
      noShadow declaration name (roleAt.unique found.shadow.role)

/-! ## Lines that change little -/

/-- A line without a step does not change which name waits. -/
theorem StepAgrees.pending_succ {place : Nat} (still : StepAgrees options lines place .skip)
    (notOwn : ¬ RoleAt options lines place (.exportBlock true)) (name : String) :
    (∃ origin line, Awaits options lines origin (place + 1) name line) ↔
      ∃ origin line, Awaits options lines origin place name line := by
  cases still with
  | skip noImport unresolved =>
    constructor
    · rintro ⟨origin, line, awaits⟩
      rcases awaits.succ_cases with ⟨-, imported⟩ | ⟨awaits, -, -⟩
      · exact absurd imported (noImport name line)
      · exact ⟨origin, line, awaits⟩
    · rintro ⟨origin, line, awaits⟩
      refine ⟨origin, line, awaits.succ notOwn noImport fun declaration shadow => ?_⟩
      exact unresolved name ⟨origin, declaration, line, shadow, awaits⟩

/-- **A line without a step, and that neither ends a block nor begins an accepted
namespace, keeps the agreement.** -/
theorem ScopeAgrees.keep {place : Nat} {state : ScopeState}
    (agrees : ScopeAgrees options lines place state)
    (notOwn : ¬ RoleAt options lines place (.exportBlock true))
    (deeper : ∀ start, LastBlock options lines start place →
      DeeperBetween lines start place → DeeperBetween lines start (place + 1))
    (noMarker : ∀ name, RoleAt options lines place (.namespaceBlock (some name)) →
      ¬ options.namespaces.accepts name = true)
    (still : StepAgrees options lines place .skip) :
    ScopeAgrees options lines (place + 1) state := by
  cases agrees with
  | outside closed =>
    refine .outside fun start block deep => ?_
    exact closed start ((lastBlock_succ_iff notOwn).1 block) (deep.mono (Nat.le_succ place))
  | inside block deep openerAt depth within qualified pending =>
    refine .inside (block.succ notOwn) (deeper _ block deep) openerAt depth within ?_ ?_
    · rw [qualified, qualified_succ_of_no_marker block.before noMarker]
    · intro name
      rw [pending, still.pending_succ notOwn]

/-- An own export block begins. -/
theorem ScopeAgrees.opened {place : Nat} {node : Line} (nodeAt : NodeAt lines place node)
    (own : RoleAt options lines place (.exportBlock true)) :
    ScopeAgrees options lines (place + 1) (.opened node.depth) := by
  have block : LastBlock options lines place (place + 1) :=
    ⟨Nat.lt_succ_self place, own, fun between behind ahead => by omega⟩
  refine .inside block (fun _ _ _ _ _ behind ahead => by omega) nodeAt rfl
    (by simp [ScopeState.opened]) ?_ ?_
  · refine ⟨fun inNamespace => by simp [ScopeState.opened] at inNamespace, ?_⟩
    rintro ⟨marker, _, behind, ahead, -⟩
    omega
  · intro name
    refine ⟨fun waits => by simp [ScopeState.opened] at waits, ?_⟩
    rintro ⟨origin, line, awaits⟩
    obtain ⟨start, lastBlock, earlier⟩ := awaits.sameBlock
    have same := lastBlock.unique block
    have before := awaits.before
    omega

/-- A node that is not deeper than the block ends it. -/
theorem ScopeAgrees.closed {start place : Nat} {opener node : Line}
    (block : LastBlock options lines start place) (openerAt : NodeAt lines start opener)
    (nodeAt : NodeAt lines place node) (shallow : node.depth ≤ opener.depth) :
    ∀ start, LastBlock options lines start place → ¬ DeeperBetween lines start (place + 1) := by
  intro start' block' deeper
  obtain rfl := block.unique block'
  have inside := deeper openerAt nodeAt block.before (Nat.lt_succ_self place)
  omega

/-! ## Inside a block -/

/-- The last block holds a position, itself included, and the state before the position
agrees with the lines before it. -/
structure HeldAt (options : ScanOptions) (lines : List Line) (start place : Nat) (opener : Line)
    (state : ScopeState) : Prop where
  block : LastBlock options lines start place
  deeper : DeeperBetween lines start (place + 1)
  openerAt : NodeAt lines start opener
  depth : state.blockDepth = opener.depth
  within : state.scope ≠ .outside
  qualified : state.scope = .inNamespace ↔ Qualified options lines start place
  pending : ∀ name, state.pending = some name ↔
    ∃ origin line, Awaits options lines origin place name line

namespace HeldAt

variable {start place : Nat} {opener : Line} {state : ScopeState}

theorem agrees (held : HeldAt options lines start place opener state) :
    ScopeAgrees options lines place state :=
  .inside held.block (held.deeper.mono (Nat.le_succ place)) held.openerAt held.depth held.within
    held.qualified held.pending

theorem active_iff (held : HeldAt options lines start place opener state) :
    Active options lines place ↔ state.scope = .inNamespace := by
  rw [held.qualified]
  constructor
  · rintro ⟨start', block', -, qualified⟩
    rwa [held.block.unique block']
  · exact fun qualified => ⟨start, held.block, held.deeper, qualified⟩

/-- Whenever the state stays and nothing happens, the agreement is kept. -/
theorem stays (held : HeldAt options lines start place opener state)
    (notOwn : ¬ RoleAt options lines place (.exportBlock true))
    (noMarker : ∀ name, RoleAt options lines place (.namespaceBlock (some name)) →
      ¬ options.namespaces.accepts name = true)
    (still : StepAgrees options lines place .skip) :
    ScopeAgrees options lines (place + 1) state ∧ StepAgrees options lines place .skip := by
  refine ⟨held.agrees.keep notOwn ?_ noMarker still, still⟩
  intro start' block' _
  obtain rfl := held.block.unique block'
  exact held.deeper

/-- An accepted namespace qualifies what follows it in the block. -/
theorem namespaceBlock (held : HeldAt options lines start place opener state) {name : String}
    (roleAt : RoleAt options lines place (.namespaceBlock (some name)))
    (accepted : options.namespaces.accepts name = true) :
    ScopeAgrees options lines (place + 1) { state with scope := .inNamespace } ∧
      StepAgrees options lines place .skip := by
  have notOwn : ¬ RoleAt options lines place (.exportBlock true) :=
    fun own => Role.noConfusion (roleAt.unique own)
  have still : StepAgrees options lines place .skip := .skip_of_role roleAt (by simp) (by simp)
  refine ⟨.inside (held.block.succ notOwn) held.deeper held.openerAt held.depth (by simp) ?_ ?_,
    still⟩
  · refine ⟨fun _ => ?_, fun _ => rfl⟩
    exact (qualified_succ_iff held.block.before).2 (.inr ⟨name, roleAt, accepted⟩)
  · intro other
    rw [held.pending, still.pending_succ notOwn]

/-- An active using declaration is the import that waits next. -/
theorem usingName (held : HeldAt options lines start place opener state) {name : String}
    {line : Option Nat} (roleAt : RoleAt options lines place (.usingName name line))
    (inNamespace : state.scope = .inNamespace) :
    ScopeAgrees options lines (place + 1) { state with pending := some name } ∧
      StepAgrees options lines place (.imports name line) := by
  have notOwn : ¬ RoleAt options lines place (.exportBlock true) :=
    fun own => Role.noConfusion (roleAt.unique own)
  have imported : ActiveImport options lines place name line :=
    ⟨held.active_iff.2 inNamespace, roleAt⟩
  refine ⟨.inside (held.block.succ notOwn) held.deeper held.openerAt held.depth held.within ?_ ?_,
    .imports imported⟩
  · rw [held.qualified, qualified_succ_of_no_marker held.block.before]
    exact fun other marker => Role.noConfusion (roleAt.unique marker)
  · intro other
    constructor
    · intro same
      obtain rfl : name = other := by simpa using same
      exact ⟨place, line, imported.awaits⟩
    · rintro ⟨origin, number, awaits⟩
      rcases awaits.succ_cases with ⟨-, again⟩ | ⟨-, noImport, -⟩
      · have same := roleAt.unique again.role
        simp only [Role.usingName.injEq] at same
        rw [same.1]
      · exact absurd imported (noImport name line)

/-- The active shadow of the name that waits resolves it, and then no name waits. -/
theorem shadow (held : HeldAt options lines start place opener state) {name declaration : String}
    (roleAt : RoleAt options lines place (.shadow declaration name))
    (inNamespace : state.scope = .inNamespace) (waits : state.pending = some name) :
    ScopeAgrees options lines (place + 1) { state with pending := none } ∧
      StepAgrees options lines place (.resolves name declaration) := by
  have notOwn : ¬ RoleAt options lines place (.exportBlock true) :=
    fun own => Role.noConfusion (roleAt.unique own)
  obtain ⟨origin, line, awaits⟩ := (held.pending name).1 waits
  have shadow : ActiveShadow options lines place name declaration :=
    ⟨held.active_iff.2 inNamespace, roleAt⟩
  refine ⟨.inside (held.block.succ notOwn) held.deeper held.openerAt held.depth held.within ?_ ?_,
    .resolves ⟨shadow, awaits⟩⟩
  · rw [held.qualified, qualified_succ_of_no_marker held.block.before]
    exact fun other marker => Role.noConfusion (roleAt.unique marker)
  · intro other
    refine ⟨fun none => by simp at none, ?_⟩
    rintro ⟨origin', line', later⟩
    rcases later.succ_cases with ⟨-, imported⟩ | ⟨waited, -, noShadow⟩
    · exact Role.noConfusion (roleAt.unique imported.role)
    · obtain ⟨rfl, -⟩ := awaits.name_unique waited
      exact absurd shadow (noShadow declaration)

/-- A shadow that is not active, or whose name does not wait, resolves nothing. -/
theorem skip_shadow (held : HeldAt options lines start place opener state)
    {name declaration : String} (roleAt : RoleAt options lines place (.shadow declaration name))
    (idle : ¬ (state.scope = .inNamespace ∧ state.pending = some name)) :
    StepAgrees options lines place .skip := by
  refine .skip (fun _ _ imported => Role.noConfusion (roleAt.unique imported.role)) ?_
  rintro other ⟨origin, declaration', line, shadow, awaits⟩
  have same := roleAt.unique shadow.role
  simp only [Role.shadow.injEq] at same
  obtain ⟨-, rfl⟩ := same
  exact idle ⟨held.active_iff.1 shadow.active, (held.pending name).2 ⟨origin, line, awaits⟩⟩

/-- **Inside a block a line has its effect.** -/
theorem inside (held : HeldAt options lines start place opener state) {role : Role}
    (roleAt : RoleAt options lines place role) (notOwn : role ≠ .exportBlock true) :
    ScopeAgrees options lines (place + 1) (state.inside options.namespaces role).1 ∧
      StepAgrees options lines place (state.inside options.namespaces role).2 := by
  have notOwnAt : ¬ RoleAt options lines place (.exportBlock true) :=
    fun own => notOwn (roleAt.unique own)
  have noMarker (other : ∀ name, role ≠ .namespaceBlock (some name)) (name : String)
      (marker : RoleAt options lines place (.namespaceBlock (some name))) :
      ¬ options.namespaces.accepts name = true := absurd (roleAt.unique marker) (other name)
  cases role with
  | exportBlock own =>
    exact held.stays notOwnAt (noMarker (by simp)) (.skip_of_role roleAt (by simp) (by simp))
  | other =>
    exact held.stays notOwnAt (noMarker (by simp)) (.skip_of_role roleAt (by simp) (by simp))
  | namespaceBlock found =>
    have still : StepAgrees options lines place .skip := .skip_of_role roleAt (by simp) (by simp)
    cases found with
    | none => exact held.stays notOwnAt (noMarker (by simp)) still
    | some name =>
      simp only [ScopeState.inside]
      split
      · next accepted => exact held.namespaceBlock roleAt accepted
      · next rejected =>
        refine held.stays notOwnAt (fun other marker => ?_) still
        obtain rfl : name = other := by simpa using roleAt.unique marker
        exact rejected
  | usingName name line =>
    simp only [ScopeState.inside]
    split
    · next inNamespace => exact held.usingName roleAt inNamespace
    · next notIn =>
      exact held.stays notOwnAt (noMarker (by simp))
        (.skip_of_not_active fun active => notIn (held.active_iff.1 active))
  | shadow declaration name =>
    simp only [ScopeState.inside]
    split
    · next here => exact held.shadow roleAt here.1 here.2
    · next idle =>
      exact held.stays notOwnAt (noMarker (by simp)) (held.skip_shadow roleAt idle)

end HeldAt

/-! ## The next state -/

/-- A node deeper than the block does not end it. -/
theorem ScopeState.advance_deeper {scope : ScopeState} {line : Line} {role : Role}
    {filter : NamespaceFilter} (inside : scope.scope ≠ .outside)
    (deeper : scope.blockDepth < line.depth) (notOwn : role ≠ .exportBlock true) :
    scope.advance filter line role = scope.inside filter role := by
  have goesOn : scope.endsAt line = false := by
    simp [endsAt, Nat.not_le.2 deeper]
  rw [advance, if_neg notOwn, if_neg (by simp [goesOn]), if_neg inside]

/-- **A node keeps the agreement, and its step says what happens.** -/
theorem ScopeAgrees.advance {place : Nat} {state : ScopeState} {node : Line}
    (agrees : ScopeAgrees options lines place state) (nodeAt : NodeAt lines place node) :
    let result := state.advance options.namespaces node
      (Role.of node options.moduleName options.namespaces.qualifier)
    ScopeAgrees options lines (place + 1) result.1 ∧ StepAgrees options lines place result.2 := by
  have roleAt : RoleAt options lines place _ := .of_nodeAt nodeAt
  generalize Role.of node options.moduleName options.namespaces.qualifier = role at roleAt
  simp only [ScopeState.advance]
  by_cases own : role = .exportBlock true
  · subst own
    rw [if_pos rfl]
    exact ⟨.opened nodeAt roleAt, .skip_of_role roleAt (by simp) (by simp)⟩
  · rw [if_neg own]
    have notOwnAt : ¬ RoleAt options lines place (.exportBlock true) :=
      fun ownAt => own (roleAt.unique ownAt)
    -- Where no block goes on, nothing is active and the scope is back at its start.
    have leaves (closed : ∀ start, LastBlock options lines start place →
        ¬ DeeperBetween lines start (place + 1)) :
        ScopeAgrees options lines (place + 1) .start ∧ StepAgrees options lines place .skip :=
      ⟨.outside fun start block => closed start ((lastBlock_succ_iff notOwnAt).1 block),
        .skip_of_not_active fun ⟨start, block, deeper, _⟩ => closed start block deeper⟩
    cases agrees with
    | outside closed =>
      have endsNothing : ScopeState.start.endsAt node = false := rfl
      have isOutside : ScopeState.start.scope = .outside := rfl
      rw [endsNothing, if_neg Bool.false_ne_true, if_pos isOutside]
      exact leaves fun start block deeper => closed start block (deeper.mono (Nat.le_succ place))
    | inside block deeper openerAt depth within qualified pending =>
      by_cases ends : node.depth ≤ state.blockDepth
      · rw [if_pos (by simp [ScopeState.endsAt, within, nodeAt.2, ends])]
        exact leaves (ScopeAgrees.closed block openerAt nodeAt (depth ▸ ends))
      · rw [if_neg (by simp [ScopeState.endsAt, ends]), if_neg within]
        have goesOn : DeeperBetween lines _ (place + 1) :=
          (deeperBetween_succ_iff block.before).2 ⟨deeper, fun outer inner outerAt innerAt => by
            rw [outerAt.unique openerAt, innerAt.unique nodeAt, ← depth]
            omega⟩
        exact HeldAt.inside ⟨block, goesOn, openerAt, depth, within, qualified, pending⟩ roleAt own

/-- **A line that is no node keeps the agreement.** -/
theorem ScopeAgrees.pass {place : Nat} {state : ScopeState}
    (agrees : ScopeAgrees options lines place state)
    (none : ∀ node, ¬ NodeAt lines place node) : ScopeAgrees options lines (place + 1) state := by
  have noRole : ∀ role, ¬ RoleAt options lines place role :=
    fun role ⟨node, nodeAt, _⟩ => none node nodeAt
  exact agrees.keep (noRole _) (fun _ _ deeper => deeper.succ_of_no_node none)
    (fun name marker => absurd marker (noRole _)) (.skip_of_no_node none)

end ExportAudit.Export
