import ExportAudit.Proofs.Usage.Callee

/-!
# The frames of open calls

Between two lines the walk holds one frame for each call that has not been left, innermost
first.  A frame knows how many children of its call stand before the position, and whether
the callee of the call has been taken before it.  **The frames say this at every position
of a preorder listing**, and one line changes at most the innermost of those that stay.

The number of children is known exactly only while it matters: none, one, or more.
-/

namespace ExportAudit.Usage

set_option autoImplicit false

open ExportAudit.Dump

/-! ## What a frame knows -/

/-- A number stands for the children of a call before a position. -/
inductive ChildrenBefore (lines : List Line) (place call : Nat) : Nat → Prop where
  | none (nowhere : ∀ child < place, ¬ Parent lines call child) : ChildrenBefore lines place call 0
  | one {child : Nat} (edge : Parent lines call child) (before : child < place)
      (only : ∀ other < place, Parent lines call other → other = child) :
      ChildrenBefore lines place call 1
  | more {first second count : Nat} (edge : Parent lines call first)
      (edge' : Parent lines call second) (apart : first < second) (before : second < place) :
      ChildrenBefore lines place call (count + 2)

/-- The callee of a call is taken before a position. -/
def CalleeTaken (lines : List Line) (place call : Nat) : Prop :=
  ∃ first earlier, FirstChild lines call first ∧ earlier < place ∧
    InSubtree lines first earlier ∧ NearestCall lines call earlier ∧
    (NamesAt lines earlier ∨ CallAt lines earlier)

/-- A frame is the frame of a call at a position. -/
structure FrameAgrees (lines : List Line) (place call : Nat) (frame : CallFrame) : Prop where
  depth : ∀ node, NodeAt lines call node → frame.depth = node.depth
  children : ChildrenBefore lines place call frame.children
  calleeSeen : frame.calleeSeen = true ↔ CalleeTaken lines place call

variable {lines : List Line} {place call : Nat}

theorem ChildrenBefore.keep {count : Nat} (children : ChildrenBefore lines place call count)
    (noChild : ¬ Parent lines call place) : ChildrenBefore lines (place + 1) call count := by
  have earlier : ∀ child < place + 1, Parent lines call child → child < place := by
    intro child before edge
    rcases Nat.lt_succ_iff_lt_or_eq.1 before with before | rfl
    · exact before
    · exact absurd edge noChild
  cases children with
  | none nowhere =>
    exact .none fun child before edge => nowhere child (earlier child before edge) edge
  | one edge before only =>
    exact .one edge (Nat.lt_succ_of_lt before)
      fun other before edge => only other (earlier other before edge) edge
  | more edge edge' apart before =>
    exact .more edge edge' apart (Nat.lt_succ_of_lt before)

theorem ChildrenBefore.count {count : Nat} (children : ChildrenBefore lines place call count)
    (child : Parent lines call place) : ChildrenBefore lines (place + 1) call (count + 1) := by
  cases children with
  | none nowhere =>
    refine .one child (Nat.lt_succ_self place) fun other before edge => ?_
    rcases Nat.lt_succ_iff_lt_or_eq.1 before with before | same
    · exact absurd edge (nowhere other before)
    · exact same
  | one edge before only => exact .more edge child before (Nat.lt_succ_self place)
  | more edge edge' apart before => exact .more edge edge' apart (Nat.lt_succ_of_lt before)

/-- **One child has been seen exactly as long as the position is in the first child.** -/
theorem ChildrenBefore.eq_one_iff (preorder : IsPreorder lines) {count : Nat}
    (children : ChildrenBefore lines (place + 1) call count)
    (encloses : Encloses lines call place) :
    count = 1 ↔ ∃ first, FirstChild lines call first ∧ InSubtree lines first place := by
  obtain ⟨child, edge, inside⟩ := encloses.exists_child preorder
  have upTo := inside.le
  constructor
  · rintro rfl
    cases children with
    | one edge' before only =>
      have same := only child (Nat.lt_succ_of_le upTo) edge
      refine ⟨child, ⟨edge, fun sibling edge'' => ?_⟩, inside⟩
      refine Nat.le_of_not_lt fun before => ?_
      have same' := only sibling (by omega) edge''
      omega
  · rintro ⟨first, isFirst, inside'⟩
    cases children with
    | none nowhere => exact absurd edge (nowhere child (Nat.lt_succ_of_le upTo))
    | one => rfl
    | more edge' edge'' apart before =>
      have behind := Nat.lt_of_le_of_lt (isFirst.first edge') apart
      exact absurd inside'
        (isFirst.edge.not_inSubtree preorder edge'' behind (Nat.le_of_lt_succ before))

/-- One more position takes the callee if it takes any. -/
theorem calleeTaken_succ_iff :
    CalleeTaken lines (place + 1) call ↔ CalleeTaken lines place call ∨
      NearestCall lines call place ∧ (NamesAt lines place ∨ CallAt lines place) ∧
        ∃ first, FirstChild lines call first ∧ InSubtree lines first place := by
  constructor
  · rintro ⟨first, earlier, isFirst, before, inside, nearest, takes⟩
    rcases Nat.lt_succ_iff_lt_or_eq.1 before with before | rfl
    · exact .inl ⟨first, earlier, isFirst, before, inside, nearest, takes⟩
    · exact .inr ⟨nearest, takes, first, isFirst, inside⟩
  · rintro (⟨first, earlier, isFirst, before, inside, nearest, takes⟩ |
      ⟨nearest, takes, first, isFirst, inside⟩)
    · exact ⟨first, earlier, isFirst, Nat.lt_succ_of_lt before, inside, nearest, takes⟩
    · exact ⟨first, place, isFirst, Nat.lt_succ_self place, inside, nearest, takes⟩

/-- A position stands at the callee of its nearest call if it is in the call's first child
and the callee is not taken. -/
theorem NearestCall.atCallee_iff (preorder : IsPreorder lines)
    (nearest : NearestCall lines call place) :
    AtCallee lines place ↔
      (∃ first, FirstChild lines call first ∧ InSubtree lines first place) ∧
        ¬ CalleeTaken lines place call := by
  constructor
  · rintro ⟨call', first, nearest', isFirst, inside, free⟩
    obtain rfl := nearest.unique preorder nearest'
    refine ⟨⟨first, isFirst, inside⟩, ?_⟩
    rintro ⟨first', earlier, isFirst', before, inside', nearest'', takes⟩
    obtain rfl := isFirst.unique isFirst'
    exact free earlier before inside' nearest'' takes
  · rintro ⟨⟨first, isFirst, inside⟩, free⟩
    refine ⟨call, first, nearest, isFirst, inside, fun earlier before inside' nearest' takes => ?_⟩
    exact free ⟨first, earlier, isFirst, before, inside', nearest', takes⟩

/-! ## One frame -/

/-- A frame passes a position whose nearest call, if any, is another. -/
theorem FrameAgrees.pass {frame : CallFrame} (agrees : FrameAgrees lines place call frame)
    (noChild : ¬ Parent lines call place) (notNearest : ¬ NearestCall lines call place) :
    FrameAgrees lines (place + 1) call frame := by
  refine ⟨agrees.depth, agrees.children.keep noChild, agrees.calleeSeen.trans ?_⟩
  rw [calleeTaken_succ_iff]
  constructor
  · exact .inl
  · rintro (taken | ⟨nearest, -⟩)
    · exact taken
    · exact absurd nearest notNearest

/-- The frame of a call that begins. -/
theorem FrameAgrees.opened {node : Line} (nodeAt : NodeAt lines place node) :
    FrameAgrees lines (place + 1) place { depth := node.depth } := by
  have childless : ∀ child < place + 1, ¬ Parent lines place child := by
    intro child before edge
    have after := edge.before
    omega
  refine ⟨fun node' nodeAt' => by rw [nodeAt'.unique nodeAt], .none childless, ?_⟩
  constructor
  · intro seen
    cases seen
  · rintro ⟨first, earlier, isFirst, before, inside, -⟩
    exact absurd isFirst.edge (childless first (Nat.lt_of_le_of_lt inside.le before))

/-- The nodes of this role take the callee that they stand at. -/
def NodeRole.takesCallee (role : NodeRole) : Bool :=
  role.isNaming || role == .call

theorem PlaysAt.takesCallee_iff {role : NodeRole} {node : Line}
    (plays : PlaysAt lines place role node) :
    NamesAt lines place ∨ CallAt lines place ↔ role.takesCallee = true := by
  rw [plays.namesAt_iff, plays.callAt_iff, NodeRole.takesCallee, Bool.or_eq_true, beq_iff_eq]

/-- The innermost frame after a node inside its call. -/
def innermostAfter (frame : CallFrame) (role : NodeRole) (depth : Nat) : CallFrame :=
  let entered := frame.enter depth
  if entered.awaitsCallee && role.takesCallee then { entered with calleeSeen := true } else entered

theorem depth_enter (frame : CallFrame) (depth : Nat) :
    (frame.enter depth).depth = frame.depth := by
  unfold CallFrame.enter
  split <;> rfl

theorem calleeSeen_enter (frame : CallFrame) (depth : Nat) :
    (frame.enter depth).calleeSeen = frame.calleeSeen := by
  unfold CallFrame.enter
  split <;> rfl

variable {frame : CallFrame} {role : NodeRole} {node : Line}

/-- Entering a node counts it if it is a child. -/
theorem FrameAgrees.enter_children (agrees : FrameAgrees lines place call frame)
    (encloses : Encloses lines call place) (nodeAt : NodeAt lines place node) :
    ChildrenBefore lines (place + 1) call (frame.enter node.depth).children := by
  obtain ⟨outer, outerAt⟩ := encloses.outer
  have edge := encloses.parent_iff outerAt nodeAt
  rw [← agrees.depth outer outerAt] at edge
  unfold CallFrame.enter
  split
  · next level => exact agrees.children.count (edge.2 level)
  · next level => exact agrees.children.keep (mt edge.1 level)

/-- **The innermost frame awaits its callee exactly at the callee.** -/
theorem FrameAgrees.awaitsCallee_iff (preorder : IsPreorder lines)
    (agrees : FrameAgrees lines place call frame) (nearest : NearestCall lines call place)
    (nodeAt : NodeAt lines place node) :
    (frame.enter node.depth).awaitsCallee = true ↔ AtCallee lines place := by
  have encloses := (ancestor_iff_encloses preorder).1 nearest.ancestor
  have children := agrees.enter_children encloses nodeAt
  rw [nearest.atCallee_iff preorder, ← children.eq_one_iff preorder encloses,
    ← agrees.calleeSeen, CallFrame.awaitsCallee, calleeSeen_enter]
  simp

/-- **The innermost frame agrees after a node inside its call.** -/
theorem FrameAgrees.innermost (preorder : IsPreorder lines)
    (agrees : FrameAgrees lines place call frame) (nearest : NearestCall lines call place)
    (plays : PlaysAt lines place role node) :
    FrameAgrees lines (place + 1) call (innermostAfter frame role node.depth) := by
  have encloses := (ancestor_iff_encloses preorder).1 nearest.ancestor
  have children := agrees.enter_children encloses plays.nodeAt
  have awaits := agrees.awaitsCallee_iff preorder nearest plays.nodeAt
  have taken : CalleeTaken lines (place + 1) call ↔ frame.calleeSeen = true ∨
      AtCallee lines place ∧ role.takesCallee = true := by
    rw [calleeTaken_succ_iff, ← plays.takesCallee_iff, nearest.atCallee_iff preorder,
      agrees.calleeSeen]
    tauto
  rw [← awaits] at taken
  have depth : ∀ outer, NodeAt lines call outer → (frame.enter node.depth).depth = outer.depth := by
    intro outer outerAt
    rw [depth_enter, agrees.depth outer outerAt]
  simp only [innermostAfter, Bool.and_eq_true]
  split
  · next takes =>
    exact ⟨depth, children, iff_of_true rfl (taken.2 (.inr takes))⟩
  · next takes =>
    refine ⟨depth, children, ?_⟩
    rw [calleeSeen_enter, taken, or_iff_left takes]

/-! ## All frames -/

/-- The frames of the open calls that stand before a limit, innermost first. -/
inductive Stacked (isOpen : Nat → Prop) (agrees : Nat → CallFrame → Prop) :
    Nat → CallStack → Prop where
  | nil {limit : Nat} (none : ∀ call < limit, ¬ isOpen call) : Stacked isOpen agrees limit []
  | cons {limit call : Nat} {frame : CallFrame} {outer : CallStack} (before : call < limit)
      (opened : isOpen call) (last : ∀ later < limit, isOpen later → later ≤ call)
      (agree : agrees call frame) (rest : Stacked isOpen agrees call outer) :
      Stacked isOpen agrees limit (frame :: outer)

namespace Stacked

variable {isOpen isOpen' : Nat → Prop} {agrees agrees' : Nat → CallFrame → Prop}
  {limit limit' : Nat} {calls : CallStack}

theorem imp (stacked : Stacked isOpen agrees limit calls)
    (same : ∀ call < limit, isOpen call ↔ isOpen' call)
    (step : ∀ call < limit, isOpen call → ∀ frame, agrees call frame → agrees' call frame) :
    Stacked isOpen' agrees' limit calls := by
  induction stacked with
  | nil none => exact .nil fun call before opened => none call before ((same call before).2 opened)
  | cons before opened last agree rest ih =>
    refine .cons before ((same _ before).1 opened) ?_ (step _ before opened _ agree) ?_
    · exact fun later before opened => last later before ((same later before).2 opened)
    · exact ih (fun call inside => same call (Nat.lt_trans inside before))
        fun call inside => step call (Nat.lt_trans inside before)

/-- Without open calls behind it a limit can be raised. -/
theorem raise (stacked : Stacked isOpen agrees limit calls) (upTo : limit ≤ limit')
    (none : ∀ call < limit', isOpen call → call < limit) :
    Stacked isOpen agrees limit' calls := by
  cases stacked with
  | nil nowhere =>
    exact .nil fun call before opened => nowhere call (none call before opened) opened
  | cons before opened last agree rest =>
    exact .cons (Nat.lt_of_lt_of_le before upTo) opened
      (fun later before opened => last later (none later before opened) opened) agree rest

end Stacked

/-- A call is open at a position: nothing has ended it. -/
structure OpenCall (lines : List Line) (place call : Nat) : Prop where
  isCall : CallAt lines call
  deeper : DeeperBetween lines call place

/-- **The frames of the walk are those of the calls open at a position.** -/
def StackAgrees (lines : List Line) (place : Nat) (calls : CallStack) : Prop :=
  Stacked (OpenCall lines place) (FrameAgrees lines place) place calls

/-- At a node the calls that stay open are those that enclose it. -/
theorem openCall_succ_iff (nodeAt : NodeAt lines place node) (before : call < place) :
    OpenCall lines (place + 1) call ↔ CallAt lines call ∧ Encloses lines call place := by
  constructor
  · rintro ⟨isCall, deeper⟩
    obtain ⟨outer, plays⟩ := isCall
    exact ⟨⟨outer, plays⟩, before, ⟨outer, plays.nodeAt⟩, ⟨node, nodeAt⟩, deeper⟩
  · rintro ⟨isCall, encloses⟩
    exact ⟨isCall, encloses.deeper⟩

/-- **Closing leaves the frames of the calls that enclose the node.** -/
theorem close_stacked (nodeAt : NodeAt lines place node) {limit : Nat} {calls : CallStack}
    (upTo : limit ≤ place)
    (stacked : Stacked (OpenCall lines place) (FrameAgrees lines place) limit calls) :
    Stacked (OpenCall lines (place + 1)) (FrameAgrees lines place) limit
      (calls.close node.depth) := by
  have still : ∀ call, OpenCall lines (place + 1) call → OpenCall lines place call :=
    fun call opened => ⟨opened.isCall, opened.deeper.mono (Nat.le_succ place)⟩
  induction stacked with
  | nil none => exact .nil fun call before opened => none call before (still call opened)
  | @cons limit call frame outer before opened last agree rest ih =>
    obtain ⟨top, plays⟩ := opened.isCall
    have depth := agree.depth top plays.nodeAt
    have inPlace : call < place := Nat.lt_of_lt_of_le before upTo
    by_cases left : node.depth ≤ frame.depth
    · -- the node is not inside this call, so the frame goes
      rw [CallStack.close, List.dropWhile_cons_of_pos (by simpa using left)]
      refine (ih (Nat.le_of_lt inPlace)).raise (Nat.le_of_lt before) ?_
      intro later before opened'
      refine Nat.lt_of_le_of_ne (last later before (still later opened')) ?_
      rintro rfl
      have less := opened'.deeper plays.nodeAt nodeAt inPlace (Nat.lt_succ_self place)
      omega
    · -- the node is inside this call, and so inside all calls around it
      rw [CallStack.close, List.dropWhile_cons_of_neg (by simpa using left)]
      refine (Stacked.cons before opened last agree rest).imp ?_ fun _ _ _ _ agree => agree
      intro farther before'
      refine ⟨fun opened' => ⟨opened'.isCall, ?_⟩, still farther⟩
      refine (deeperBetween_succ_iff (Nat.lt_of_lt_of_le before' upTo)).2 ⟨opened'.deeper, ?_⟩
      intro outer' inner outerAt innerAt
      rw [innerAt.unique nodeAt]
      rcases Nat.eq_or_lt_of_le (last farther before' opened') with rfl | around
      · rw [outerAt.unique plays.nodeAt]
        omega
      · have less := opened'.deeper outerAt plays.nodeAt around inPlace
        omega

/-! ## One line -/

/-- The innermost call that encloses a node is its nearest. -/
theorem nearestCall_of_last (preorder : IsPreorder lines) (nodeAt : NodeAt lines place node)
    (before : call < place) (opened : OpenCall lines (place + 1) call)
    (last : ∀ later < place, OpenCall lines (place + 1) later → later ≤ call) :
    NearestCall lines call place := by
  obtain ⟨isCall, encloses⟩ := (openCall_succ_iff nodeAt before).1 opened
  refine (nearestCall_iff preorder).2 ⟨isCall, encloses, fun farther isCall' encloses' => ?_⟩
  have opened' := (openCall_succ_iff nodeAt encloses'.before).2 ⟨isCall', encloses'⟩
  exact last farther encloses'.before opened'

/-- A call around the nearest call of a node is neither its nearest call nor its parent. -/
theorem FrameAgrees.pass_around (preorder : IsPreorder lines) {farther : Nat}
    (nearest : NearestCall lines call place) (around : farther < call)
    (agrees : FrameAgrees lines place farther frame) :
    FrameAgrees lines (place + 1) farther frame := by
  have encloses := (ancestor_iff_encloses preorder).1 nearest.ancestor
  refine agrees.pass ?_ ?_
  · intro edge
    obtain ⟨outer, inner, outerAt, innerAt, level⟩ := edge.level
    obtain ⟨between, betweenAt⟩ := encloses.outer
    have above := edge.deeper outerAt betweenAt around encloses.before
    have below := encloses.depth_lt betweenAt innerAt
    omega
  · intro nearest'
    have same := nearest.unique preorder nearest'
    omega

/-- What a node does to the open calls, in two steps: it may take the callee, and it may be
a call itself. -/
theorem useOfNode_calls (calls : CallStack) (role : NodeRole) (line : Line) :
    (useOfNode calls role line).1 =
      let inner := match calls.close line.depth with
        | [] => []
        | frame :: outer => innermostAfter frame role line.depth :: outer
      if role = .call then { depth := line.depth } :: inner else inner := by
  cases closed : calls.close line.depth with
  | nil =>
    cases role <;>
      simp [useOfNode, closed, CallStack.enter, CallStack.inCallee]
  | cons frame outer =>
    cases awaits : (frame.enter line.depth).awaitsCallee <;> cases role <;>
      simp [useOfNode, closed, CallStack.enter, CallStack.inCallee, CallStack.markCallee, awaits,
        innermostAfter, NodeRole.takesCallee, NodeRole.isNaming]

/-- **A line that is no node changes nothing.** -/
theorem StackAgrees.skip {calls : CallStack} (agrees : StackAgrees lines place calls)
    (none : ∀ node, ¬ NodeAt lines place node) : StackAgrees lines (place + 1) calls := by
  have passed : Stacked (OpenCall lines (place + 1)) (FrameAgrees lines (place + 1)) place
      calls := by
    refine agrees.imp ?_ ?_
    · intro call before
      constructor
      · exact fun opened => ⟨opened.isCall, opened.deeper.succ_of_no_node none⟩
      · exact fun opened => ⟨opened.isCall, opened.deeper.mono (Nat.le_succ place)⟩
    · intro call before opened frame agree
      refine agree.pass ?_ ?_
      · intro edge
        obtain ⟨-, inner, -, innerAt, -⟩ := edge.level
        exact none inner innerAt
      · intro nearest
        obtain ⟨inner, innerAt⟩ := nearest.ancestor.exists_node
        exact none inner innerAt
  refine passed.raise (Nat.le_succ place) fun call before opened => ?_
  rcases Nat.lt_succ_iff_lt_or_eq.1 before with before | rfl
  · exact before
  · obtain ⟨node, plays⟩ := opened.isCall
    exact absurd plays.nodeAt (none node)

/-- The frames around a node become those behind it, with one more if it is a call. -/
theorem Stacked.push {inner : CallStack}
    (stacked : Stacked (OpenCall lines (place + 1)) (FrameAgrees lines (place + 1)) place inner)
    (plays : PlaysAt lines place role node) :
    StackAgrees lines (place + 1)
      (if role = .call then { depth := node.depth } :: inner else inner) := by
  split
  · next isCall =>
    have here : OpenCall lines (place + 1) place := by
      refine ⟨plays.callAt_iff.2 isCall, fun outer inner between _ _ after before => ?_⟩
      omega
    exact .cons (Nat.lt_succ_self place) here (fun later before _ => Nat.le_of_lt_succ before)
      (.opened plays.nodeAt) stacked
  · next noCall =>
    refine stacked.raise (Nat.le_succ place) fun call before opened => ?_
    rcases Nat.lt_succ_iff_lt_or_eq.1 before with before | rfl
    · exact before
    · exact absurd (plays.callAt_iff.1 opened.isCall) noCall

/-- **A node keeps the agreement, and the walk is at the callee where the node is.** -/
theorem StackAgrees.next (preorder : IsPreorder lines) {calls : CallStack}
    (agrees : StackAgrees lines place calls) (plays : PlaysAt lines place role node) :
    StackAgrees lines (place + 1) (useOfNode calls role node).1 ∧
      (((calls.close node.depth).enter node.depth).inCallee = true ↔ AtCallee lines place) := by
  have closed := close_stacked plays.nodeAt (Nat.le_refl place) agrees
  rw [useOfNode_calls]
  generalize calls.close node.depth = staying at closed ⊢
  cases closed with
  | nil nowhere =>
    refine ⟨Stacked.push (.nil nowhere) plays, ?_⟩
    constructor
    · intro inCallee
      cases inCallee
    · rintro ⟨call, -, nearest, -⟩
      have encloses := (ancestor_iff_encloses preorder).1 nearest.ancestor
      have opened := (openCall_succ_iff plays.nodeAt encloses.before).2 ⟨nearest.isCall, encloses⟩
      exact absurd opened (nowhere call encloses.before)
  | cons before opened last agree rest =>
    have nearest := nearestCall_of_last preorder plays.nodeAt before opened last
    have around := rest.imp (fun _ _ => Iff.rfl) fun farther inside _ frame agree =>
      agree.pass_around preorder nearest inside
    refine ⟨Stacked.push (.cons before opened last ?_ around) plays, ?_⟩
    · exact agree.innermost preorder nearest plays
    · exact agree.awaitsCallee_iff preorder nearest plays.nodeAt

end ExportAudit.Usage
