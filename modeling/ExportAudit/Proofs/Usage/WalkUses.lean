import ExportAudit.Proofs.Usage.CallFrames

/-!
# What the walk finds

The walk goes through the lines of a dump once and compares depths.  On a dump that lists
a forest in preorder it finds at every node **the use that the node has by its ancestors
and first children**, and its sites are these uses in order.
-/

namespace ExportAudit.Usage

set_option autoImplicit false

open ExportAudit.Dump

/-! ## The walk, position by position -/

/-- The open calls after a line. -/
def callsAfter (calls : CallStack) (line : Line) : CallStack :=
  match line.kind with
  | none => calls
  | some kind => (useOfNode calls (.ofKind kind) line).1

/-- The open calls when the walk comes to a position. -/
def callsBefore (lines : List Line) (place : Nat) : CallStack :=
  (lines.take place).foldl callsAfter []

/-- The walk takes the node at a position for the callee of the innermost call. -/
def walkAtCallee (lines : List Line) (place : Nat) (node : Line) : Bool :=
  (((callsBefore lines place).close node.depth).enter node.depth).inCallee

/-- What the walk finds at a position. -/
def useAt (lines : List Line) (place : Nat) : Option Use := do
  let line ← lines[place]?
  let kind ← line.kind
  (useOfNode (callsBefore lines place) (.ofKind kind) line).2

/-- The use at a site. -/
def Site.use (site : Site) : Use :=
  (site.name, site.kind)

variable {lines : List Line} {place : Nat} {role : NodeRole} {node : Line}

theorem callsBefore_succ {line : Line} (found : lines[place]? = some line) :
    callsBefore lines (place + 1) = callsAfter (callsBefore lines place) line := by
  rw [callsBefore, List.take_add_one, found, List.foldl_append]
  rfl

theorem callsBefore_succ_of_none (atEnd : lines[place]? = none) :
    callsBefore lines (place + 1) = callsBefore lines place := by
  rw [callsBefore, List.take_add_one, atEnd, Option.toList_none, List.append_nil, callsBefore]

theorem PlaysAt.callsBefore_succ (plays : PlaysAt lines place role node) :
    callsBefore lines (place + 1) = (useOfNode (callsBefore lines place) role node).1 := by
  obtain ⟨kind, isKind, rfl⟩ := Option.map_eq_some_iff.1 plays.2
  rw [Usage.callsBefore_succ plays.1, callsAfter, isKind]

theorem PlaysAt.useAt_eq (plays : PlaysAt lines place role node) :
    useAt lines place = (useOfNode (callsBefore lines place) role node).2 := by
  obtain ⟨kind, isKind, rfl⟩ := Option.map_eq_some_iff.1 plays.2
  simp [useAt, plays.1, isKind]

theorem exists_nodeAt_of_useAt {use : Use} (uses : useAt lines place = some use) :
    ∃ node, NodeAt lines place node := by
  obtain ⟨line, isLine, uses⟩ := Option.bind_eq_some_iff.1 uses
  obtain ⟨kind, isKind, -⟩ := Option.bind_eq_some_iff.1 uses
  exact ⟨line, isLine, by rw [Line.isNode, isKind, Option.isSome_some]⟩

/-- **The frames of the walk agree with the open calls at every position.** -/
theorem stackAgrees_callsBefore (preorder : IsPreorder lines) (place : Nat) :
    StackAgrees lines place (callsBefore lines place) := by
  induction place with
  | zero => exact .nil fun call before => absurd before (Nat.not_lt_zero call)
  | succ place ih =>
    by_cases isNode : ∃ node, NodeAt lines place node
    · obtain ⟨node, nodeAt⟩ := isNode
      obtain ⟨role, plays⟩ := exists_playsAt nodeAt
      rw [plays.callsBefore_succ]
      exact (ih.next preorder plays).1
    · have skipped : callsBefore lines (place + 1) = callsBefore lines place := by
        cases found : lines[place]? with
        | none => exact callsBefore_succ_of_none found
        | some line =>
          have noKind : line.kind = none := by
            refine Option.not_isSome_iff_eq_none.1 fun isSome => isNode ⟨line, found, isSome⟩
          rw [Usage.callsBefore_succ found, callsAfter, noKind]
      rw [skipped]
      exact ih.skip fun node nodeAt => isNode ⟨node, nodeAt⟩

/-- **The sites of a walk are the uses of its positions, in order.** -/
theorem sites_use (count : Nat) (place : Nat) (state : WalkState)
    (whole : place + count = lines.length) (calls : state.calls = callsBefore lines place) :
    (state.sites (lines.drop place)).map Site.use =
      (List.range' place count).filterMap (useAt lines) := by
  induction count generalizing place state with
  | zero =>
    have atEnd : lines.length ≤ place := Nat.le_of_eq whole.symm
    rw [List.drop_eq_nil_of_le atEnd]
    rfl
  | succ count ih =>
    have inside : place < lines.length := by omega
    have found : lines[place]? = some lines[place] := List.getElem?_eq_getElem inside
    have next := callsBefore_succ found
    rw [List.drop_eq_getElem_cons inside, WalkState.sites, List.range'_succ]
    have here : (state.next lines[place]).2.map Site.use = useAt lines place := by
      simp only [useAt, found, WalkState.next, Option.bind_eq_bind, Option.bind_some]
      cases lines[place].kind <;> simp [calls, Site.use, Function.comp_def]
    have there : (state.next lines[place]).1.calls = callsBefore lines (place + 1) := by
      rw [next, callsAfter, WalkState.next]
      cases lines[place].kind <;> simp [calls]
    change ((state.next lines[place]).2.toList ++
      (state.next lines[place]).1.sites (lines.drop (place + 1))).map Site.use = _
    rw [List.map_append, ih (place + 1) _ (by omega) there, List.filterMap_cons, ← here]
    cases (state.next lines[place]).2 <;> rfl

/-- What a node uses depends on its role, and for a name on whether the walk is at the
callee. -/
theorem useOfNode_use (calls : CallStack) (role : NodeRole) (line : Line) :
    (useOfNode calls role line).2 =
      let asUse (kind : UsageKind) (name : Option (List Char)) : Option Use :=
        name.map fun characters => (String.ofList characters, kind)
      if role.isNaming then
        if ((calls.close line.depth).enter line.depth).inCallee then
          asUse .call (role.usedName? line.rest)
        else if role = .reference ∨ role = .unresolved then
          asUse .reference (role.usedName? line.rest)
        else none
      else if role = .variable then asUse .declaration (line.firstQuoted?.bind outerTypeName?)
      else none := by
  cases inCallee : ((calls.close line.depth).enter line.depth).inCallee <;> cases role <;>
    simp [useOfNode, inCallee, NodeRole.isNaming]

/-- Where the walk is right about the callee, it finds the use that the node has. -/
theorem useOfNode_eq_some_iff {calls : CallStack} (plays : PlaysAt lines place role node)
    (callee : ((calls.close node.depth).enter node.depth).inCallee = true ↔ AtCallee lines place)
    (use : Use) : (useOfNode calls role node).2 = some use ↔ UsesAt lines place use := by
  rw [useOfNode_use]
  dsimp only
  constructor
  · intro uses
    split at uses
    · next naming =>
      split at uses
      · next inCallee =>
        obtain ⟨name, named, rfl⟩ := Option.map_eq_some_iff.1 uses
        exact .call plays naming (callee.1 inCallee) named
      · next notCallee =>
        split at uses
        · next refers =>
          obtain ⟨name, named, rfl⟩ := Option.map_eq_some_iff.1 uses
          exact .reference plays refers (mt callee.2 notCallee) named
        · cases uses
    · split at uses
      · next isVariable =>
        obtain ⟨name, named, rfl⟩ := Option.map_eq_some_iff.1 uses
        exact .declaration (isVariable ▸ plays) named
      · cases uses
  · intro uses
    cases uses with
    | call plays' naming atCallee named =>
      obtain ⟨rfl, rfl⟩ := plays.unique plays'
      rw [if_pos naming, if_pos (callee.2 atCallee), named, Option.map_some]
    | reference plays' refers elsewhere named =>
      obtain ⟨rfl, rfl⟩ := plays.unique plays'
      have naming : role.isNaming = true := by
        rcases refers with rfl | rfl <;> rfl
      rw [if_pos naming, if_neg (mt callee.1 elsewhere), if_pos refers, named, Option.map_some]
    | declaration plays' named =>
      obtain ⟨rfl, rfl⟩ := plays.unique plays'
      simp [NodeRole.isNaming, named]

theorem useAt_eq_some_iff (preorder : IsPreorder lines) (use : Use) :
    useAt lines place = some use ↔ UsesAt lines place use := by
  by_cases isNode : ∃ node, NodeAt lines place node
  · obtain ⟨node, nodeAt⟩ := isNode
    obtain ⟨role, plays⟩ := exists_playsAt nodeAt
    have callee := ((stackAgrees_callsBefore preorder place).next preorder plays).2
    rw [plays.useAt_eq]
    exact useOfNode_eq_some_iff plays callee use
  · constructor
    · exact fun found => absurd (exists_nodeAt_of_useAt found) isNode
    · intro uses
      obtain ⟨role, node, plays⟩ := uses.exists_playsAt
      exact absurd ⟨node, plays.nodeAt⟩ isNode

/-- **The walk classifies the nodes of a preorder listing as its forest does.**  Its sites
are what it finds position by position; it is at a callee where the node is, whether or not
a name can be read there; and what it finds is what the node uses. -/
theorem walk_classifies (dump : String) (preorder : IsPreorder (parseDump dump)) :
    (sitesOf dump).map Site.use =
        (List.range (parseDump dump).length).filterMap (useAt (parseDump dump)) ∧
      (∀ place node, NodeAt (parseDump dump) place node →
        (walkAtCallee (parseDump dump) place node = true ↔ AtCallee (parseDump dump) place)) ∧
      ∀ place use, useAt (parseDump dump) place = some use ↔ UsesAt (parseDump dump) place use := by
  refine ⟨?_, ?_, fun place use => useAt_eq_some_iff preorder use⟩
  · rw [List.range_eq_range']
    exact sites_use _ 0 {} (Nat.zero_add _) rfl
  · intro place node nodeAt
    obtain ⟨role, plays⟩ := exists_playsAt nodeAt
    exact ((stackAgrees_callsBefore preorder place).next preorder plays).2

/-- A call of a function on what a member of a variable returns. -/
def nestedCalls : String :=
  "CallExpr 0x1\n  DeclRefExpr 0x2 Function 0x3 'f'\n" ++
    "  CallExpr 0x4\n    MemberExpr 0x5 .m 0x6\n      DeclRefExpr 0x7 Var 0x8 'x'"

theorem isPreorder_nestedCalls : IsPreorder (parseDump nestedCalls) := by
  decide +kernel

theorem walk_classifies_nestedCalls :
    IsPreorder (parseDump nestedCalls) ∧
      UsesAt (parseDump nestedCalls) 1 ("f", .call) ∧
      UsesAt (parseDump nestedCalls) 3 ("m", .call) ∧
      UsesAt (parseDump nestedCalls) 4 ("x", .reference) :=
  ⟨isPreorder_nestedCalls,
    ((walk_classifies nestedCalls isPreorder_nestedCalls).2.2 1 _).1 (by decide +kernel),
    ((walk_classifies nestedCalls isPreorder_nestedCalls).2.2 3 _).1 (by decide +kernel),
    ((walk_classifies nestedCalls isPreorder_nestedCalls).2.2 4 _).1 (by decide +kernel)⟩

end ExportAudit.Usage
