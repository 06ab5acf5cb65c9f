import ExportAudit.Usage.Cursor
import ExportAudit.Usage.NodeName
import ExportAudit.Usage.Record

/-!
# Walking the tree of a test

The tree strategy walks the nodes of a test's dump in the order printed.  Each
open call keeps a frame: its depth, the number of its direct children seen, and
whether its callee has been named.  The first child of a call is its callee, so a
name is a call when the innermost open call is still in its first child and has no
callee yet.  A call in that position uses the callee up: what the outer call calls
is whatever the inner one returns.

Outside callee position a reference is a reference, a member access is nothing, and
the type of a variable is a declaration wherever it stands.  **Which symbols are
looked for plays no part in the walk.**
-/

namespace ExportAudit.Usage

set_option autoImplicit false

open ExportAudit.Text ExportAudit.Dump

/-! ## Node kinds -/

/-- How a node takes part in the walk. -/
inductive NodeRole where
  /-- A call, whose first child is the callee. -/
  | call
  /-- A reference to a declaration. -/
  | reference
  /-- A name before overload resolution. -/
  | unresolved
  /-- A member access. -/
  | member
  /-- A member access that depends on a template. -/
  | dependentMember
  /-- A variable. -/
  | variable
  /-- Any other node. -/
  | plain
  deriving DecidableEq, Repr

/-- The part that a node kind plays. -/
def NodeRole.ofKind : String → NodeRole
  | "CallExpr" | "CXXMemberCallExpr" | "CXXOperatorCallExpr" => .call
  | "DeclRefExpr" => .reference
  | "UnresolvedLookupExpr" => .unresolved
  | "MemberExpr" => .member
  | "UnresolvedMemberExpr" | "CXXDependentScopeMemberExpr" => .dependentMember
  | "VarDecl" => .variable
  | _ => .plain

/-- The name that a naming node uses. -/
def NodeRole.usedName? (role : NodeRole) (rest : List Char) : Option (List Char) :=
  match role with
  | .reference => referencedName? rest
  | .unresolved => unresolvedName? rest
  | .member => memberName? rest
  | .dependentMember => unresolvedName? rest <|> dependentMemberName? rest
  | .call | .variable | .plain => none

/-! ## Open calls -/

/-- An open call. -/
structure CallFrame where
  depth : Nat
  /-- Direct children seen so far. -/
  children : Nat := 0
  calleeSeen : Bool := false
  deriving DecidableEq, Repr

/-- The frame after a node inside the call. -/
def CallFrame.enter (frame : CallFrame) (depth : Nat) : CallFrame :=
  if depth = frame.depth + 1 then { frame with children := frame.children + 1 } else frame

/-- The walk is in the callee and has not named it. -/
def CallFrame.awaitsCallee (frame : CallFrame) : Bool :=
  frame.children == 1 && !frame.calleeSeen

/-- The open calls, innermost first. -/
abbrev CallStack := List CallFrame

namespace CallStack

/-- The calls still open at a node of some depth. -/
def close (calls : CallStack) (depth : Nat) : CallStack :=
  calls.dropWhile fun frame => depth ≤ frame.depth

/-- Counts a node in the innermost call. -/
def enter (calls : CallStack) (depth : Nat) : CallStack :=
  match calls with
  | [] => []
  | frame :: outer => frame.enter depth :: outer

/-- The node at hand stands where the innermost call's callee is named. -/
def inCallee (calls : CallStack) : Bool :=
  calls.head?.any CallFrame.awaitsCallee

/-- The innermost call has its callee. -/
def markCallee (calls : CallStack) : CallStack :=
  match calls with
  | [] => []
  | frame :: outer => { frame with calleeSeen := true } :: outer

end CallStack

/-! ## One node -/

/-- A name and how it is used. -/
abbrev Use := String × UsageKind

/-- The open calls after a node, and what the node uses. -/
def useOfNode (calls : CallStack) (role : NodeRole) (line : Line) : CallStack × Option Use :=
  let entered := (calls.close line.depth).enter line.depth
  let asUse (kind : UsageKind) (name : Option (List Char)) : Option Use :=
    name.map fun characters => (String.ofList characters, kind)
  match role with
  | .call =>
    let marked := if entered.inCallee then entered.markCallee else entered
    ({ depth := line.depth } :: marked, none)
  | .variable => (entered, asUse .declaration (line.firstQuoted?.bind outerTypeName?))
  | .plain => (entered, none)
  | .reference | .unresolved | .member | .dependentMember =>
    if entered.inCallee then (entered.markCallee, asUse .call (role.usedName? line.rest))
    else if role = .reference ∨ role = .unresolved then
      (entered, asUse .reference (role.usedName? line.rest))
    else (entered, none)

/-! ## The walk -/

/-- A use found by the walk, and where its node begins. -/
structure Site where
  name : String
  kind : UsageKind
  place : Option Position
  deriving DecidableEq, Repr

/-- The state of the walk between two lines. -/
structure WalkState where
  position : Position := .start
  calls : CallStack := []
  deriving DecidableEq, Repr

/-- The state after a line, and the site that the line is. -/
def WalkState.next (state : WalkState) (line : Line) : WalkState × Option Site :=
  match line.kind with
  | none => (state, none)
  | some kind =>
    let (position, place) := state.position.advance line.locations
    let (calls, use) := useOfNode state.calls (.ofKind kind) line
    ({ position, calls }, use.map fun (name, kind) => { name, kind, place })

/-- The sites of some lines, in order. -/
def WalkState.sites : WalkState → List Line → List Site
  | _, [] => []
  | state, line :: rest =>
    let (after, site) := state.next line
    site.toList ++ after.sites rest

/-- The sites of a dump. -/
def sitesOf (dump : String) : List Site :=
  WalkState.sites {} (parseDump dump)

end ExportAudit.Usage
