import ExportAudit.Proofs.Usage.Located
import ExportAudit.Proofs.Usage.WalkUses
import Mathlib.Combinatorics.Enumerative.DoubleCounting

/-!
# At most one callee for each call

The frames of the walk are those of open calls only on a listing of a forest.  Whatever the
lines are, each frame belongs to the call that pushed it: a node closes the frames that are
no shallower than itself, changes at most the innermost of the rest, and pushes one if it is
a call.  So the depths of the frames always increase inwards.

A frame gets its callee **at most once**, and a name is found to be called only where a frame
gets its callee.  Charging each such name to the call of the frame, a dump has no more called
names than calls, and the records of any symbols are among them.
-/

namespace ExportAudit.Usage

set_option autoImplicit false

open ExportAudit.Dump

/-! ## The kinds of calls -/

/-- The kinds of the nodes that are calls. -/
def callKinds : List String :=
  ["CallExpr", "CXXMemberCallExpr", "CXXOperatorCallExpr"]

theorem NodeRole.ofKind_eq_call_iff {kind : String} : ofKind kind = .call ↔ kind ∈ callKinds := by
  unfold ofKind
  split <;> simp_all [callKinds]

/-- A line is a node of the kind of a call. -/
def isCallLine (line : Line) : Bool :=
  line.kind.any fun kind => decide (kind ∈ callKinds)

/-! ## Frames and their calls -/

/-- A frame with the position of the call that pushed it. -/
structure LabelledFrame where
  call : Nat
  frame : CallFrame

/-- The frames that a node of some depth leaves open. -/
def openAt (calls : List LabelledFrame) (depth : Nat) : List LabelledFrame :=
  calls.dropWhile fun labelled => depth ≤ labelled.frame.depth

/-- The innermost frame is changed by a node. -/
def touchInnermost (role : NodeRole) (depth : Nat) : List LabelledFrame → List LabelledFrame
  | [] => []
  | ⟨call, frame⟩ :: outer => ⟨call, innermostAfter frame role depth⟩ :: outer

/-- The labelled frames after the line at a position. -/
def labelledAfter (place : Nat) (calls : List LabelledFrame) (line : Line) : List LabelledFrame :=
  match line.kind with
  | none => calls
  | some kind =>
    let inner := touchInnermost (.ofKind kind) line.depth (openAt calls line.depth)
    if NodeRole.ofKind kind = .call then ⟨place, { depth := line.depth }⟩ :: inner else inner

/-- The labelled frames when the walk comes to a position. -/
def labelledBefore (lines : List Line) : Nat → List LabelledFrame
  | 0 => []
  | place + 1 =>
    match lines[place]? with
    | none => labelledBefore lines place
    | some line => labelledAfter place (labelledBefore lines place) line

variable {lines : List Line} {place call : Nat} {calls : List LabelledFrame}

theorem close_map_frame (calls : List LabelledFrame) (depth : Nat) :
    CallStack.close (calls.map (·.frame)) depth = (openAt calls depth).map (·.frame) :=
  List.dropWhile_map

theorem map_frame_labelledAfter (place : Nat) (calls : List LabelledFrame) (line : Line) :
    (labelledAfter place calls line).map (·.frame) = callsAfter (calls.map (·.frame)) line := by
  rw [labelledAfter, callsAfter]
  cases line.kind with
  | none => rfl
  | some kind =>
    simp only [useOfNode_calls, close_map_frame]
    cases openAt calls line.depth <;> split <;> rfl

/-- **Without their labels they are the frames of the walk.** -/
theorem map_frame_labelledBefore (lines : List Line) (place : Nat) :
    (labelledBefore lines place).map (·.frame) = callsBefore lines place := by
  induction place with
  | zero => rfl
  | succ place ih =>
    rw [labelledBefore]
    cases found : lines[place]? with
    | none => rw [callsBefore_succ_of_none found, ← ih]
    | some line => rw [map_frame_labelledAfter, ih, callsBefore_succ found]

/-! ## Depths increase inwards -/

theorem depth_innermostAfter (frame : CallFrame) (role : NodeRole) (depth : Nat) :
    (innermostAfter frame role depth).depth = frame.depth := by
  simp only [innermostAfter]
  split <;> exact depth_enter frame depth

/-- One call was pushed after another and is deeper. -/
def LabelledFrame.IsInside (inner outer : LabelledFrame) : Prop :=
  outer.call < inner.call ∧ outer.frame.depth < inner.frame.depth

/-- The labelled frames at a position stand in each other, and each belongs to a call before
the position. -/
structure Nested (lines : List Line) (place : Nat) (calls : List LabelledFrame) : Prop where
  inside : calls.Pairwise LabelledFrame.IsInside
  before : ∀ labelled ∈ calls, labelled.call < place
  isCall : ∀ labelled ∈ calls, lines[labelled.call]?.any isCallLine = true

theorem openAt_sublist (calls : List LabelledFrame) (depth : Nat) :
    (openAt calls depth).Sublist calls :=
  List.dropWhile_sublist _

theorem Nested.openAt (nested : Nested lines place calls) (depth : Nat) :
    Nested lines place (openAt calls depth) where
  inside := nested.inside.sublist (openAt_sublist calls depth)
  before labelled member := nested.before labelled ((openAt_sublist calls depth).subset member)
  isCall labelled member := nested.isCall labelled ((openAt_sublist calls depth).subset member)

theorem Nested.succ (nested : Nested lines place calls) : Nested lines (place + 1) calls where
  inside := nested.inside
  before labelled member := Nat.lt_succ_of_lt (nested.before labelled member)
  isCall := nested.isCall

theorem Nested.touchInnermost (nested : Nested lines place calls) (role : NodeRole)
    (depth : Nat) : Nested lines place (touchInnermost role depth calls) := by
  cases calls with
  | nil => exact nested
  | cons labelled outer =>
    obtain ⟨inside, before, isCall⟩ := nested
    rw [List.forall_mem_cons] at before isCall
    refine ⟨?_, List.forall_mem_cons.2 before, List.forall_mem_cons.2 isCall⟩
    rw [List.pairwise_cons] at inside
    refine List.pairwise_cons.2 ⟨fun other member => ?_, inside.2⟩
    have below := inside.1 other member
    exact ⟨below.1, (depth_innermostAfter labelled.frame role depth).symm ▸ below.2⟩

/-- What a node leaves open is shallower than the node. -/
theorem Nested.depth_lt_of_mem_openAt (nested : Nested lines place calls) {depth : Nat}
    {labelled : LabelledFrame} (member : labelled ∈ Usage.openAt calls depth) :
    labelled.frame.depth < depth := by
  have inside := (nested.openAt depth).inside
  have head := List.head?_dropWhile_not (fun labelled => depth ≤ labelled.frame.depth) calls
  rw [← Usage.openAt] at head
  cases isOpen : Usage.openAt calls depth with
  | nil => simp [isOpen] at member
  | cons first outer =>
    rw [isOpen] at member inside head
    have shallow : first.frame.depth < depth := by simpa using head
    rcases List.mem_cons.1 member with rfl | around
    · exact shallow
    · exact Nat.lt_trans ((List.pairwise_cons.1 inside).1 labelled around).2 shallow

/-- A frame that a node touches keeps its call and its depth, and a callee that it has. -/
theorem exists_of_mem_touchInnermost {role : NodeRole} {depth : Nat} {later : LabelledFrame}
    (member : later ∈ touchInnermost role depth calls) :
    ∃ earlier ∈ calls, earlier.call = later.call ∧ earlier.frame.depth = later.frame.depth ∧
      (earlier.frame.calleeSeen = true → later.frame.calleeSeen = true) := by
  cases calls with
  | nil => cases member
  | cons labelled outer =>
    rcases List.mem_cons.1 member with rfl | around
    · refine ⟨labelled, List.mem_cons_self, rfl, (depth_innermostAfter _ _ _).symm, fun seen => ?_⟩
      simp only [innermostAfter]
      split
      · rfl
      · rw [calleeSeen_enter, seen]
    · exact ⟨later, List.mem_cons_of_mem labelled around, rfl, rfl, id⟩

/-- **The frames after a node**: the one it pushes, and those it leaves open. -/
theorem mem_labelledAfter {line : Line} (isNode : line.isNode = true) {later : LabelledFrame}
    (member : later ∈ labelledAfter place calls line) :
    later.call = place ∧ later.frame.depth = line.depth ∧ isCallLine line = true ∨
      ∃ earlier ∈ openAt calls line.depth, earlier.call = later.call ∧
        earlier.frame.depth = later.frame.depth ∧
        (earlier.frame.calleeSeen = true → later.frame.calleeSeen = true) := by
  obtain ⟨kind, isKind⟩ := Option.isSome_iff_exists.1 isNode
  simp only [labelledAfter, isKind] at member
  split at member
  · next isCall =>
    rcases List.mem_cons.1 member with rfl | inner
    · refine .inl ⟨rfl, rfl, ?_⟩
      simpa [isCallLine, isKind] using NodeRole.ofKind_eq_call_iff.1 isCall
    · exact .inr (exists_of_mem_touchInnermost inner)
  · exact .inr (exists_of_mem_touchInnermost member)

/-- **A line keeps the frames nested.** -/
theorem Nested.after {line : Line} (nested : Nested lines place calls)
    (found : lines[place]? = some line) :
    Nested lines (place + 1) (labelledAfter place calls line) := by
  cases isKind : line.kind with
  | none =>
    simp only [labelledAfter, isKind]
    exact nested.succ
  | some kind =>
    have isNode : line.isNode = true := by rw [Line.isNode, isKind, Option.isSome_some]
    have inner := (nested.openAt line.depth).touchInnermost (.ofKind kind) line.depth
    refine ⟨?_, fun later member => ?_, fun later member => ?_⟩
    · simp only [labelledAfter, isKind]
      split
      · refine List.pairwise_cons.2 ⟨fun other member => ?_, inner.inside⟩
        obtain ⟨earlier, isOpen, -, sameDepth, -⟩ := exists_of_mem_touchInnermost member
        have shallow := nested.depth_lt_of_mem_openAt isOpen
        exact ⟨inner.before other member, sameDepth ▸ shallow⟩
      · exact inner.inside
    · rcases mem_labelledAfter isNode member with ⟨here, -⟩ | ⟨earlier, isOpen, same, -⟩
      · exact here ▸ Nat.lt_succ_self place
      · exact same ▸ Nat.lt_succ_of_lt ((nested.openAt line.depth).before earlier isOpen)
    · rcases mem_labelledAfter isNode member with ⟨here, -, isCall⟩ | ⟨earlier, isOpen, same, -⟩
      · rwa [here, found, Option.any_some]
      · exact same ▸ (nested.openAt line.depth).isCall earlier isOpen

/-- **The frames are nested at every position, whatever the lines are.** -/
theorem nested_labelledBefore (lines : List Line) (place : Nat) :
    Nested lines place (labelledBefore lines place) := by
  induction place with
  | zero => exact ⟨.nil, by simp [labelledBefore], by simp [labelledBefore]⟩
  | succ place ih =>
    rw [labelledBefore]
    cases found : lines[place]? with
    | none => exact ih.succ
    | some line => exact ih.after found

/-- One call has one frame. -/
theorem Nested.unique (nested : Nested lines place calls) {first second : LabelledFrame}
    (isFirst : first ∈ calls) (isSecond : second ∈ calls) (same : first.call = second.call) :
    first = second := by
  have distinct : (calls.map (·.call)).Nodup :=
    List.pairwise_map.2 (nested.inside.imp fun inside => (Nat.ne_of_lt inside.1).symm)
  exact List.inj_on_of_nodup_map distinct isFirst isSecond same

/-! ## Callees -/

/-- The frame of a call gets its callee at a position. -/
def GetsCallee (lines : List Line) (call place : Nat) : Prop :=
  ∃ before after : CallFrame,
    ⟨call, before⟩ ∈ labelledBefore lines place ∧ before.calleeSeen = false ∧
      ⟨call, after⟩ ∈ labelledBefore lines (place + 1) ∧ after.calleeSeen = true

/-- A frame behind a line that was there before it had no callee if it has none. -/
theorem exists_unseen_of_succ {frame : CallFrame} (before : call < place)
    (present : ⟨call, frame⟩ ∈ labelledBefore lines (place + 1))
    (unseen : frame.calleeSeen = false) :
    ∃ earlier : CallFrame, ⟨call, earlier⟩ ∈ labelledBefore lines place ∧
      earlier.calleeSeen = false := by
  rw [labelledBefore] at present
  cases found : lines[place]? with
  | none => exact ⟨frame, by simpa only [found] using present, unseen⟩
  | some line =>
    simp only [found] at present
    cases isNode : line.isNode with
    | false =>
      have noKind : line.kind = none := by simpa [Line.isNode] using isNode
      simp only [labelledAfter, noKind] at present
      exact ⟨frame, present, unseen⟩
    | true =>
      rcases mem_labelledAfter isNode present with ⟨here, -⟩ | ⟨⟨_, earlier⟩, isOpen, rfl, -, kept⟩
      · exact absurd here (Nat.ne_of_lt before)
      · refine ⟨earlier, (openAt_sublist _ _).subset isOpen, ?_⟩
        exact Bool.eq_false_iff.2 fun seen => Bool.false_ne_true (unseen.symm.trans (kept seen))

theorem exists_unseen {frame : CallFrame} (count : Nat) (before : call < place)
    (present : ⟨call, frame⟩ ∈ labelledBefore lines (place + count))
    (unseen : frame.calleeSeen = false) :
    ∃ earlier : CallFrame, ⟨call, earlier⟩ ∈ labelledBefore lines place ∧
      earlier.calleeSeen = false := by
  induction count generalizing frame with
  | zero => exact ⟨frame, present, unseen⟩
  | succ count ih =>
    obtain ⟨earlier, isEarlier, stillUnseen⟩ :=
      exists_unseen_of_succ (Nat.lt_add_right count before) present unseen
    exact ih isEarlier stillUnseen

/-- **A frame that has its callee does not get another.** -/
theorem GetsCallee.not_before {first second : Nat} (earlier : GetsCallee lines call first)
    (later : GetsCallee lines call second) : ¬ first < second := by
  intro behind
  obtain ⟨frame, seen, isFrame, -, isSeen, hasCallee⟩ := earlier
  obtain ⟨again, -, isAgain, unseen, -⟩ := later
  have pushed : call < first := (nested_labelledBefore lines first).before _ isFrame
  obtain ⟨count, rfl⟩ := Nat.exists_eq_add_of_lt behind
  rw [Nat.add_right_comm] at isAgain
  obtain ⟨between, isBetween, noCallee⟩ :=
    exists_unseen count (Nat.lt_succ_of_lt pushed) isAgain unseen
  have same := (nested_labelledBefore lines (first + 1)).unique isBetween isSeen rfl
  cases same
  simp [noCallee] at hasCallee

theorem GetsCallee.unique {first second : Nat} (isFirst : GetsCallee lines call first)
    (isSecond : GetsCallee lines call second) : first = second :=
  Nat.le_antisymm (Nat.le_of_not_lt (isSecond.not_before isFirst))
    (Nat.le_of_not_lt (isFirst.not_before isSecond))

/-- A call use comes from a name at which the innermost frame awaits its callee. -/
theorem inCallee_of_useOfNode {calls : CallStack} {role : NodeRole} {line : Line} {name : String}
    (uses : (useOfNode calls role line).2 = some (name, .call)) :
    role.isNaming = true ∧ ((calls.close line.depth).enter line.depth).inCallee = true := by
  rw [useOfNode_use] at uses
  dsimp only at uses
  split at uses
  · next naming =>
    refine ⟨naming, ?_⟩
    split at uses
    · next inCallee => exact inCallee
    · split at uses
      · obtain ⟨_, -, same⟩ := Option.map_eq_some_iff.1 uses
        cases same
      · cases uses
  · split at uses
    · obtain ⟨_, -, same⟩ := Option.map_eq_some_iff.1 uses
      cases same
    · cases uses

/-- **A name is called only where a frame gets its callee.** -/
theorem exists_getsCallee {name : String} (uses : useAt lines place = some (name, .call)) :
    ∃ call, GetsCallee lines call place := by
  obtain ⟨line, found, inLine⟩ := Option.bind_eq_some_iff.1 uses
  obtain ⟨kind, isKind, ofNode⟩ := Option.bind_eq_some_iff.1 inLine
  obtain ⟨naming, inCallee⟩ := inCallee_of_useOfNode ofNode
  rw [← map_frame_labelledBefore, close_map_frame] at inCallee
  cases isOpen : openAt (labelledBefore lines place) line.depth with
  | nil => simp [isOpen, CallStack.enter, CallStack.inCallee] at inCallee
  | cons innermost outer =>
    have awaits : (innermost.frame.enter line.depth).awaitsCallee = true := by
      simpa [isOpen, CallStack.enter, CallStack.inCallee] using inCallee
    have unseen : innermost.frame.calleeSeen = false := by
      rw [CallFrame.awaitsCallee, calleeSeen_enter] at awaits
      simpa using (Bool.and_eq_true_iff.1 awaits).2
    have member : innermost ∈ labelledBefore lines place :=
      (openAt_sublist _ line.depth).subset (isOpen ▸ List.mem_cons_self)
    refine ⟨innermost.call, innermost.frame,
      innermostAfter innermost.frame (.ofKind kind) line.depth, member, unseen, ?_, ?_⟩
    · rw [labelledBefore]
      simp only [found, labelledAfter, isKind, isOpen]
      split
      · exact List.mem_cons_of_mem _ List.mem_cons_self
      · exact List.mem_cons_self
    · simp [innermostAfter, awaits, NodeRole.takesCallee, naming]

/-! ## Counting calls -/

theorem countP_range (keep : Line → Bool) (lines : List Line) :
    (List.range lines.length).countP (fun place => lines[place]?.any keep) =
      lines.countP keep := by
  have listed : (List.range lines.length).map (lines[·]?) = lines.map some :=
    List.ext_getElem (by simp) fun place inside _ => by simp at inside ⊢
  have counted := congrArg (List.countP (Option.any keep)) listed
  simpa [List.countP_map, Function.comp_def] using counted

theorem card_filter_range (keep : Nat → Bool) (count : Nat) :
    ((Finset.range count).filter (keep ·)).card = (List.range count).countP keep := by
  rw [List.countP_eq_length_filter]
  change ((List.range count).filter fun place => decide (keep place = true)).length = _
  simp only [Bool.decide_eq_true]

/-- A use is a call. -/
def Use.isCall (use : Use) : Bool :=
  decide (use.2 = .call)

/-- **There are no more called names than calls.**  Each is charged to the call whose frame
gets its callee there. -/
theorem countP_useAt_le (lines : List Line) :
    (List.range lines.length).countP (fun place => (useAt lines place).any Use.isCall) ≤
      lines.countP isCallLine := by
  rw [← countP_range, ← card_filter_range, ← card_filter_range]
  refine Finset.card_le_card_of_forall_subsingleton
    (fun place call => GetsCallee lines call place) ?_ ?_
  · intro place isUse
    obtain ⟨inside, uses⟩ := Finset.mem_filter.1 isUse
    obtain ⟨⟨name, kind⟩, uses, isCall⟩ := Option.any_eq_true _ _ |>.1 uses
    obtain rfl : kind = .call := of_decide_eq_true isCall
    obtain ⟨call, gets⟩ := exists_getsCallee uses
    obtain ⟨frame, -, isFrame, -⟩ := id gets
    have nested := nested_labelledBefore lines place
    have before : call < lines.length :=
      Nat.lt_trans (nested.before _ isFrame) (Finset.mem_range.1 inside)
    exact ⟨call, Finset.mem_filter.2 ⟨Finset.mem_range.2 before, nested.isCall _ isFrame⟩, gets⟩
  · rintro call - first ⟨-, isFirst⟩ second ⟨-, isSecond⟩
    exact isFirst.unique isSecond

/-- The sites of a walk that call a name are no more than the calls. -/
theorem countP_sites_le (lines : List Line) :
    (WalkState.sites {} lines).countP (·.use.isCall) ≤ lines.countP isCallLine := by
  have uses : (WalkState.sites {} lines).map Site.use =
      (List.range lines.length).filterMap (useAt lines) := by
    rw [List.range_eq_range']
    exact sites_use lines.length 0 {} (Nat.zero_add _) rfl
  have walked : (WalkState.sites {} lines).countP (·.use.isCall) =
      (List.range lines.length).countP fun place => (useAt lines place).any Use.isCall := by
    have counted := congrArg (List.countP Use.isCall) uses
    rw [List.countP_map, List.countP_filterMap] at counted
    refine counted.trans (List.countP_congr fun place _ => ?_)
    cases useAt lines place <;> rfl
  exact walked.le.trans (countP_useAt_le lines)

/-! ## Counting records -/

/-- The number of call records among the usages of some symbols. -/
def callRecords (usages : UsageMap) : Nat :=
  (usages.map fun entry => entry.2.records.countP fun record => decide (record.kind = .call)).sum

/-- Counting name by name counts nothing twice. -/
theorem sum_countP_le {names : List String} (distinct : names.Nodup) (keep : Site → Bool)
    (sites : List Site) :
    (names.map fun name => sites.countP fun site => site.name == name && keep site).sum ≤
      sites.countP keep := by
  induction names generalizing keep with
  | nil => simp
  | cons name names ih =>
    obtain ⟨new, distinct⟩ := List.nodup_cons.1 distinct
    have others := ih distinct fun site => keep site && !(site.name == name)
    have same : ∀ other ∈ names,
        (sites.countP fun site => site.name == other && keep site) =
          sites.countP fun site => site.name == other && (keep site && !(site.name == name)) := by
      intro other member
      refine List.countP_congr fun site _ => ?_
      have apart : other ≠ name := fun equal => new (equal ▸ member)
      by_cases named : site.name = other <;> simp [named, apart]
    rw [List.map_cons, List.sum_cons, List.map_congr_left same,
      List.countP_eq_countP_filter_add sites keep (·.name == name), List.countP_filter,
      List.countP_filter]
    simp only [Bool.and_comm] at others ⊢
    omega

/-- The call records of any symbols are made at sites that call a name. -/
theorem callRecords_usageAmong_le (sites : List Site) (test : TestInput) (contextTokens : Nat)
    (symbols : NameSet) :
    callRecords (symbols.toList.map fun symbol =>
      (symbol, usageAmong sites test contextTokens symbol)) ≤ sites.countP (·.use.isCall) := by
  have recorded : ∀ symbol, (usageAmong sites test contextTokens symbol).records.countP
      (fun record => decide (record.kind = .call)) =
        sites.countP fun site =>
          site.name == symbol && (site.isIn test.path && site.use.isCall) := by
    intro symbol
    rw [usageAmong, List.countP_map, List.countP_filter]
    refine List.countP_congr fun site _ => ?_
    rw [Bool.and_comm, Bool.and_assoc]
    rfl
  rw [callRecords, List.map_map]
  simp only [Function.comp_def, recorded]
  refine (sum_countP_le symbols.nodup_toList _ sites).trans ?_
  exact List.countP_mono_left fun site _ isCall => (Bool.and_eq_true_iff.1 isCall).2

/-! ## Any dump -/

/-- What holds of the frames of a walk over any lines.  A frame is known by the position of
the call that pushed it. -/
structure FramesHold (lines : List Line) : Prop where
  frames : ∀ place, (labelledBefore lines place).map (·.frame) = callsBefore lines place
  pushed : ∀ place, ∀ labelled ∈ labelledBefore lines place,
    labelled.call < place ∧ lines[labelled.call]?.any isCallLine = true
  apart : ∀ place, (labelledBefore lines place).Pairwise fun inner outer => outer.call < inner.call
  /-- Depths increase strictly, from the outermost frame to the innermost. -/
  increasing : ∀ place, (callsBefore lines place).Pairwise fun inner outer =>
    outer.depth < inner.depth
  bounded : ∀ place node, NodeAt lines place node →
    ∀ frame ∈ callsBefore lines (place + 1), frame.depth ≤ node.depth
  /-- A frame gets its callee at one position at most. -/
  once : ∀ call first second, GetsCallee lines call first → GetsCallee lines call second →
    first = second
  charged : ∀ place name, useAt lines place = some (name, .call) →
    ∃ call, GetsCallee lines call place

theorem framesHold (lines : List Line) : FramesHold lines where
  frames := map_frame_labelledBefore lines
  pushed place labelled member :=
    ⟨(nested_labelledBefore lines place).before labelled member,
      (nested_labelledBefore lines place).isCall labelled member⟩
  apart place := (nested_labelledBefore lines place).inside.imp And.left
  increasing place := by
    rw [← map_frame_labelledBefore, List.pairwise_map]
    exact (nested_labelledBefore lines place).inside.imp And.right
  bounded place node nodeAt frame member := by
    rw [← map_frame_labelledBefore] at member
    obtain ⟨later, isLater, rfl⟩ := List.mem_map.1 member
    rw [labelledBefore, nodeAt.1] at isLater
    rcases mem_labelledAfter nodeAt.2 isLater with ⟨-, same, -⟩ | ⟨earlier, isOpen, -, same, -⟩
    · exact same.le
    · have shallow := (nested_labelledBefore lines place).depth_lt_of_mem_openAt isOpen
      exact same ▸ shallow.le
  once _ _ _ isFirst isSecond := isFirst.unique isSecond
  charged _ _ uses := exists_getsCallee uses

/-- **No walk records more called names than its lines have calls**, whether or not they list
a forest: each frame gets its callee once. -/
theorem callRecords_le (lines : List Line) (test : TestInput) (dump : String)
    (contextTokens : Nat) (symbols : NameSet) :
    FramesHold lines ∧
      (WalkState.sites {} lines).countP (·.use.isCall) ≤ lines.countP isCallLine ∧
      ∃ usages, locateTree contextTokens symbols { test with dump := some dump } = .ok usages ∧
        callRecords usages ≤ (parseDump dump).countP isCallLine := by
  refine ⟨framesHold lines, countP_sites_le lines, _,
    locateTree_of_dump { test with dump := some dump } contextTokens rfl symbols, ?_⟩
  exact (callRecords_usageAmong_le _ _ contextTokens symbols).trans
    (countP_sites_le (parseDump dump))

end ExportAudit.Usage
