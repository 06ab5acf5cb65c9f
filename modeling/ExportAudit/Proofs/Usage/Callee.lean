import ExportAudit.Proofs.Dump.Forest
import ExportAudit.Usage.Walk

/-!
# What a node of a test uses

The use of a node depends on where it stands in the forest that the dump draws.  The call
that matters to a node is the nearest one above it, and the callee of a call is what stands
in the subtree of its first child.  The first node there that names something, or calls
something itself, takes the callee, and **only if that node is a name is the callee used.**

Nothing here mentions the walk: uses are defined by ancestors and first children.
-/

namespace ExportAudit.Usage

set_option autoImplicit false

open ExportAudit.Dump

/-! ## The parts that nodes play -/

/-- The nodes of this role name what they use. -/
def NodeRole.isNaming : NodeRole → Bool
  | .reference | .unresolved | .member | .dependentMember => true
  | .call | .variable | .plain => false

/-- A node at a position plays a part. -/
def PlaysAt (lines : List Line) (place : Nat) (role : NodeRole) (node : Line) : Prop :=
  lines[place]? = some node ∧ node.kind.map .ofKind = some role

/-- A call stands at a position. -/
def CallAt (lines : List Line) (place : Nat) : Prop :=
  ∃ node, PlaysAt lines place .call node

/-- A node at a position names what it uses. -/
def NamesAt (lines : List Line) (place : Nat) : Prop :=
  ∃ role node, PlaysAt lines place role node ∧ role.isNaming = true

/-! ## Calls and their callees -/

/-- The nearest call above a node. -/
structure NearestCall (lines : List Line) (call place : Nat) : Prop where
  isCall : CallAt lines call
  ancestor : Ancestor lines call place
  nearest : ∀ ⦃farther : Nat⦄, CallAt lines farther → Ancestor lines farther place →
    farther = call ∨ Ancestor lines farther call

/-- A node stands where the callee of its nearest call is named: it is in the subtree of
the call's first child, and nothing before it there belongs to the same call and names or
calls something. -/
def AtCallee (lines : List Line) (place : Nat) : Prop :=
  ∃ call first, NearestCall lines call place ∧ FirstChild lines call first ∧
    InSubtree lines first place ∧
    ∀ earlier < place, InSubtree lines first earlier → NearestCall lines call earlier →
      ¬ (NamesAt lines earlier ∨ CallAt lines earlier)

/-- What a node uses, and how. -/
inductive UsesAt (lines : List Line) (place : Nat) : Use → Prop where
  /-- A name at the callee is called. -/
  | call {role : NodeRole} {node : Line} {name : List Char} (plays : PlaysAt lines place role node)
      (naming : role.isNaming = true) (atCallee : AtCallee lines place)
      (named : role.usedName? node.rest = some name) :
      UsesAt lines place (String.ofList name, .call)
  /-- Elsewhere references and unresolved names refer; members do not. -/
  | reference {role : NodeRole} {node : Line} {name : List Char}
      (plays : PlaysAt lines place role node) (refers : role = .reference ∨ role = .unresolved)
      (elsewhere : ¬ AtCallee lines place) (named : role.usedName? node.rest = some name) :
      UsesAt lines place (String.ofList name, .reference)
  /-- A variable declares the outermost name of its type, wherever it stands. -/
  | declaration {node : Line} {name : List Char} (plays : PlaysAt lines place .variable node)
      (named : node.firstQuoted?.bind outerTypeName? = some name) :
      UsesAt lines place (String.ofList name, .declaration)

variable {lines : List Line}

theorem PlaysAt.nodeAt {place : Nat} {role : NodeRole} {node : Line}
    (plays : PlaysAt lines place role node) : NodeAt lines place node := by
  obtain ⟨kind, isKind, -⟩ := Option.map_eq_some_iff.1 plays.2
  exact ⟨plays.1, by simp [Line.isNode, isKind]⟩

theorem exists_playsAt {place : Nat} {node : Line} (nodeAt : NodeAt lines place node) :
    ∃ role, PlaysAt lines place role node := by
  obtain ⟨kind, isKind⟩ := Option.isSome_iff_exists.1 nodeAt.2
  exact ⟨.ofKind kind, nodeAt.1, by rw [isKind, Option.map_some]⟩

theorem PlaysAt.unique {place : Nat} {role role' : NodeRole} {node node' : Line}
    (first : PlaysAt lines place role node) (second : PlaysAt lines place role' node') :
    role = role' ∧ node = node' := by
  obtain rfl := first.nodeAt.unique second.nodeAt
  exact ⟨Option.some.inj (first.2.symm.trans second.2), rfl⟩

theorem PlaysAt.callAt_iff {place : Nat} {role : NodeRole} {node : Line}
    (plays : PlaysAt lines place role node) : CallAt lines place ↔ role = .call := by
  constructor
  · rintro ⟨node', plays'⟩
    exact (plays.unique plays').1
  · rintro rfl
    exact ⟨node, plays⟩

theorem PlaysAt.namesAt_iff {place : Nat} {role : NodeRole} {node : Line}
    (plays : PlaysAt lines place role node) : NamesAt lines place ↔ role.isNaming = true := by
  constructor
  · rintro ⟨role', node', plays', naming⟩
    rwa [(plays.unique plays').1]
  · exact fun naming => ⟨role, node, plays, naming⟩

theorem UsesAt.exists_playsAt {place : Nat} {use : Use} (uses : UsesAt lines place use) :
    ∃ role node, PlaysAt lines place role node := by
  cases uses with
  | call plays | reference plays | declaration plays => exact ⟨_, _, plays⟩

/-! ## The nearest call among the depths -/

/-- **The nearest call above a node is the last call that encloses it.** -/
theorem nearestCall_iff (preorder : IsPreorder lines) {call place : Nat} :
    NearestCall lines call place ↔ CallAt lines call ∧ Encloses lines call place ∧
      ∀ farther, CallAt lines farther → Encloses lines farther place → farther ≤ call := by
  constructor
  · rintro ⟨isCall, ancestor, nearest⟩
    refine ⟨isCall, (ancestor_iff_encloses preorder).1 ancestor, fun farther isCall' encloses => ?_⟩
    rcases nearest isCall' ((ancestor_iff_encloses preorder).2 encloses) with same | above
    · exact Nat.le_of_eq same
    · exact Nat.le_of_lt ((ancestor_iff_encloses preorder).1 above).before
  · rintro ⟨isCall, encloses, last⟩
    refine ⟨isCall, (ancestor_iff_encloses preorder).2 encloses, fun farther isCall' above => ?_⟩
    have encloses' := (ancestor_iff_encloses preorder).1 above
    rcases Nat.eq_or_lt_of_le (last farther isCall' encloses') with same | before
    · exact .inl same
    · exact .inr ((ancestor_iff_encloses preorder).2 (encloses'.nested encloses before))

theorem NearestCall.unique (preorder : IsPreorder lines) {call call' place : Nat}
    (first : NearestCall lines call place) (second : NearestCall lines call' place) :
    call = call' := by
  obtain ⟨isCall, encloses, last⟩ := (nearestCall_iff preorder).1 first
  obtain ⟨isCall', encloses', last'⟩ := (nearestCall_iff preorder).1 second
  exact Nat.le_antisymm (last' call isCall encloses) (last call' isCall' encloses')

end ExportAudit.Usage
