import ExportAudit.Proofs.Dump.Nesting
import Mathlib.Data.List.Chain
import Mathlib.Data.Nat.Find
import Mathlib.Logic.Relation

/-!
# The forest that a dump draws

The nodes of a dump list a forest in preorder if the first is a root and none is more
than one level below the node before it.  The parent of a node is then the last node one
level above it, and everything else about the forest follows from parents.

In such a listing **the ancestors of a node are the nodes whose depth has not been reached
again**: whatever stands between an ancestor and the node is deeper than the ancestor.  So
the forest, which is defined by paths, can be read off by comparing depths.
-/

namespace ExportAudit.Dump

set_option autoImplicit false

/-! ## Preorder -/

/-- The depths of the nodes, in order. -/
def nodeDepths (lines : List Line) : List Nat :=
  (lines.filter (·.isNode)).map (·.depth)

/-- The nodes list a forest in preorder. -/
def IsPreorder (lines : List Line) : Prop :=
  (∀ depth ∈ (nodeDepths lines).head?, depth = 0) ∧
    (nodeDepths lines).IsChain fun before after => after ≤ before + 1

instance (lines : List Line) : Decidable (IsPreorder lines) :=
  inferInstanceAs (Decidable (_ ∧ _))

/-- What a filter keeps side by side stood next to each other but for what it drops. -/
theorem isChain_filter_next {α : Type} {keep : α → Bool} {relation : α → α → Prop}
    {items : List α} (chain : (items.filter keep).IsChain relation) {i j : Nat} {a b : α}
    (before : i < j) (first : items[i]? = some a) (second : items[j]? = some b)
    (keepFirst : keep a = true) (keepSecond : keep b = true)
    (drop : ∀ k c, i < k → k < j → items[k]? = some c → keep c = false) : relation a b := by
  induction items generalizing i j with
  | nil => cases first
  | cons item items ih =>
    obtain ⟨j, rfl⟩ : ∃ j', j = j' + 1 := ⟨j - 1, by omega⟩
    rw [List.getElem?_cons_succ] at second
    have dropLater : ∀ k c, i < k + 1 → k < j → items[k]? = some c → keep c = false :=
      fun k c after before found => drop (k + 1) c after (Nat.succ_lt_succ before) found
    cases i with
    | zero =>
      obtain rfl : item = a := by simpa using first
      have next : (items.filter keep).head? = some b := by
        obtain ⟨inside, found⟩ := List.getElem?_eq_some_iff.1 second
        rw [List.head?_filter, List.find?_eq_some_iff_getElem]
        refine ⟨keepSecond, j, inside, found, fun k kept => ?_⟩
        simp [dropLater k _ (Nat.succ_pos k) kept (List.getElem?_eq_getElem _)]
      obtain ⟨rest, split⟩ := List.head?_eq_some_iff.1 next
      rw [List.filter_cons_of_pos keepFirst, split] at chain
      exact (List.isChain_cons_cons.1 chain).1
    | succ i =>
      have later : (items.filter keep).IsChain relation := by
        rw [List.filter_cons] at chain
        split at chain
        · exact chain.tail
        · exact chain
      rw [List.getElem?_cons_succ] at first
      exact ih later (Nat.lt_of_succ_lt_succ before) first second
        fun k c after => dropLater k c (Nat.succ_lt_succ after)

variable {lines : List Line}

/-- The next node is at most one level deeper. -/
theorem IsPreorder.depth_next (preorder : IsPreorder lines) {place next : Nat} {outer inner : Line}
    (before : place < next) (outerAt : NodeAt lines place outer) (innerAt : NodeAt lines next inner)
    (none : ∀ between node, place < between → between < next → ¬ NodeAt lines between node) :
    inner.depth ≤ outer.depth + 1 := by
  have chain := preorder.2
  rw [nodeDepths, List.isChain_map] at chain
  refine isChain_filter_next chain before outerAt.1 innerAt.1 outerAt.2 innerAt.2 ?_
  intro between node after before found
  exact Bool.eq_false_iff.2 fun isNode => none between node after before ⟨found, isNode⟩

/-- Before a node behind another, or at it, some node is at most one level below the other. -/
theorem IsPreorder.exists_next (preorder : IsPreorder lines) {place below : Nat}
    {outer inner : Line} (before : place < below) (outerAt : NodeAt lines place outer)
    (innerAt : NodeAt lines below inner) :
    ∃ next node, place < next ∧ next ≤ below ∧ NodeAt lines next node ∧
      node.depth ≤ outer.depth + 1 := by
  classical
  have behind : ∃ next, place < next ∧ ∃ node, NodeAt lines next node :=
    ⟨below, before, inner, innerAt⟩
  obtain ⟨after, node, nodeAt⟩ := Nat.find_spec behind
  refine ⟨Nat.find behind, node, after, Nat.find_min' behind ⟨before, inner, innerAt⟩, nodeAt, ?_⟩
  refine preorder.depth_next after outerAt nodeAt ?_
  intro between node' after' before' nodeAt'
  exact Nat.find_min behind before' ⟨after', node', nodeAt'⟩

/-! ## Parents and ancestors -/

/-- The node at one position is the parent of the node at another: it is one level above,
and nothing between them is as high. -/
structure Parent (lines : List Line) (parent child : Nat) : Prop where
  before : parent < child
  level : ∃ outer inner, NodeAt lines parent outer ∧ NodeAt lines child inner ∧
    inner.depth = outer.depth + 1
  deeper : DeeperBetween lines parent child

/-- **A node has at most one parent**, so the parents make a forest. -/
theorem Parent.unique {parent parent' child : Nat} (first : Parent lines parent child)
    (second : Parent lines parent' child) : parent = parent' := by
  obtain ⟨outer, inner, outerAt, innerAt, level⟩ := first.level
  obtain ⟨outer', inner', outerAt', innerAt', level'⟩ := second.level
  obtain rfl := innerAt.unique innerAt'
  rcases Nat.lt_trichotomy parent parent' with less | same | greater
  · have deeper := first.deeper outerAt outerAt' less second.before
    omega
  · exact same
  · have deeper := second.deeper outerAt' outerAt greater first.before
    omega

/-- The proper ancestors of a node. -/
def Ancestor (lines : List Line) : Nat → Nat → Prop :=
  Relation.TransGen (Parent lines)

/-- The nodes of the subtree at a node, itself among them. -/
def InSubtree (lines : List Line) : Nat → Nat → Prop :=
  Relation.ReflTransGen (Parent lines)

/-- The first child of a node. -/
structure FirstChild (lines : List Line) (parent child : Nat) : Prop where
  edge : Parent lines parent child
  first : ∀ ⦃sibling : Nat⦄, Parent lines parent sibling → child ≤ sibling

theorem Ancestor.exists_node {above below : Nat} (path : Ancestor lines above below) :
    ∃ node, NodeAt lines below node := by
  obtain ⟨_, -, edge⟩ := Relation.TransGen.tail'_iff.1 path
  obtain ⟨-, node, -, nodeAt, -⟩ := edge.level
  exact ⟨node, nodeAt⟩

/-- No node of a subtree stands before its root. -/
theorem InSubtree.le {root place : Nat} (inside : InSubtree lines root place) : root ≤ place := by
  induction inside with
  | refl => exact Nat.le_refl root
  | tail _ edge ih => exact Nat.le_trans ih (Nat.le_of_lt edge.before)

theorem FirstChild.unique {parent child child' : Nat} (first : FirstChild lines parent child)
    (second : FirstChild lines parent child') : child = child' :=
  Nat.le_antisymm (first.first second.edge) (second.first first.edge)

/-! ## Reading the forest off the depths -/

/-- A node is deeper than an earlier one, and so is everything between them. -/
structure Encloses (lines : List Line) (above below : Nat) : Prop where
  before : above < below
  outer : ∃ outer, NodeAt lines above outer
  inner : ∃ inner, NodeAt lines below inner
  deeper : DeeperBetween lines above (below + 1)

theorem Encloses.depth_lt {above below : Nat} {outer inner : Line}
    (encloses : Encloses lines above below) (outerAt : NodeAt lines above outer)
    (innerAt : NodeAt lines below inner) : outer.depth < inner.depth :=
  encloses.deeper outerAt innerAt encloses.before (Nat.lt_succ_self below)

theorem Parent.encloses {parent child : Nat} (edge : Parent lines parent child) :
    Encloses lines parent child := by
  obtain ⟨outer, inner, outerAt, innerAt, level⟩ := edge.level
  refine ⟨edge.before, ⟨outer, outerAt⟩, ⟨inner, innerAt⟩, ?_⟩
  refine (deeperBetween_succ_iff edge.before).2 ⟨edge.deeper, ?_⟩
  intro outer' inner' outerAt' innerAt'
  rw [outerAt'.unique outerAt, innerAt'.unique innerAt, level]
  exact Nat.lt_succ_self outer.depth

/-- What a node encloses is its child if it is one level below. -/
theorem Encloses.parent_iff {above below : Nat} {outer inner : Line}
    (encloses : Encloses lines above below) (outerAt : NodeAt lines above outer)
    (innerAt : NodeAt lines below inner) :
    Parent lines above below ↔ inner.depth = outer.depth + 1 := by
  constructor
  · intro edge
    obtain ⟨outer', inner', outerAt', innerAt', level⟩ := edge.level
    rwa [outerAt.unique outerAt', innerAt.unique innerAt']
  · intro level
    exact ⟨encloses.before, ⟨outer, inner, outerAt, innerAt, level⟩,
      encloses.deeper.mono (Nat.le_succ below)⟩

theorem Encloses.trans {above middle below : Nat} (first : Encloses lines above middle)
    (second : Encloses lines middle below) : Encloses lines above below := by
  refine ⟨Nat.lt_trans first.before second.before, first.outer, second.inner, ?_⟩
  intro outer inner place outerAt innerAt after before
  obtain ⟨between, betweenAt⟩ := first.inner
  rcases Nat.lt_or_ge middle place with behind | notBehind
  · exact Nat.lt_trans (first.depth_lt outerAt betweenAt)
      (second.deeper betweenAt innerAt behind before)
  · exact first.deeper outerAt innerAt after (Nat.lt_succ_of_le notBehind)

/-- Of two nodes that enclose a third, the earlier encloses the later. -/
theorem Encloses.nested {outer inner below : Nat} (far : Encloses lines outer below)
    (near : Encloses lines inner below) (before : outer < inner) : Encloses lines outer inner :=
  ⟨before, far.outer, near.outer, far.deeper.mono (Nat.le_succ_of_le near.before)⟩

/-- **A node that something encloses has a parent, which is the encloser or is enclosed by
it.** -/
theorem IsPreorder.exists_parent (preorder : IsPreorder lines) {above below : Nat}
    (encloses : Encloses lines above below) :
    ∃ parent, Parent lines parent below ∧ (above = parent ∨ Encloses lines above parent) := by
  classical
  obtain ⟨top, topAt⟩ := encloses.outer
  obtain ⟨inner, innerAt⟩ := encloses.inner
  -- the parent is the last node before that is less deep
  let shallower (place : Nat) : Prop :=
    place < below ∧ ∃ node, NodeAt lines place node ∧ node.depth < inner.depth
  have start : shallower above := ⟨encloses.before, top, topAt, encloses.depth_lt topAt innerAt⟩
  obtain ⟨before, outer, outerAt, less⟩ :=
    Nat.findGreatest_spec (Nat.le_of_lt encloses.before) start
  have reached : above ≤ Nat.findGreatest shallower below :=
    Nat.le_findGreatest (Nat.le_of_lt encloses.before) start
  have last : ∀ place, Nat.findGreatest shallower below < place → place ≤ below →
      ¬ shallower place := fun place => Nat.findGreatest_is_greatest
  generalize Nat.findGreatest shallower below = parent at before outerAt reached last
  have notShallower : ∀ place node, parent < place → place < below → NodeAt lines place node →
      inner.depth ≤ node.depth := by
    intro place node after earlier nodeAt
    exact Nat.le_of_not_lt fun less =>
      last place after (Nat.le_of_lt earlier) ⟨earlier, node, nodeAt, less⟩
  have deeper : DeeperBetween lines parent below := by
    intro outer' node place outerAt' nodeAt after earlier
    rw [outerAt'.unique outerAt]
    exact Nat.lt_of_lt_of_le less (notShallower place node after earlier nodeAt)
  have level : inner.depth = outer.depth + 1 := by
    refine Nat.le_antisymm ?_ less
    obtain ⟨next, node, after, upTo, nodeAt, near⟩ := preorder.exists_next before outerAt innerAt
    rcases Nat.eq_or_lt_of_le upTo with rfl | earlier
    · rwa [innerAt.unique nodeAt]
    · exact Nat.le_trans (notShallower next node after earlier nodeAt) near
  refine ⟨parent, ⟨before, ⟨outer, inner, outerAt, innerAt, level⟩, deeper⟩, ?_⟩
  rcases Nat.eq_or_lt_of_le reached with same | behind
  · exact .inl same
  · exact .inr ⟨behind, encloses.outer, ⟨outer, outerAt⟩,
      encloses.deeper.mono (Nat.succ_le_succ (Nat.le_of_lt before))⟩

/-- **The ancestors of a node are the nodes that enclose it.** -/
theorem ancestor_iff_encloses (preorder : IsPreorder lines) {above below : Nat} :
    Ancestor lines above below ↔ Encloses lines above below := by
  constructor
  · intro path
    induction path with
    | single edge => exact edge.encloses
    | tail _ edge ih => exact ih.trans edge.encloses
  · intro encloses
    induction below using Nat.strong_induction_on with
    | _ below ih =>
      obtain ⟨parent, edge, same | nearer⟩ := preorder.exists_parent encloses
      · rw [same]
        exact .single edge
      · exact .tail (ih parent edge.before nearer) edge

/-- A subtree holds its root and what the root encloses. -/
theorem inSubtree_iff (preorder : IsPreorder lines) {root place : Nat} :
    InSubtree lines root place ↔ place = root ∨ Encloses lines root place := by
  rw [← ancestor_iff_encloses preorder]
  exact Relation.reflTransGen_iff_eq_or_transGen

/-- What a node encloses lies in the subtree of one of its children. -/
theorem Encloses.exists_child (preorder : IsPreorder lines) {above below : Nat}
    (encloses : Encloses lines above below) :
    ∃ child, Parent lines above child ∧ InSubtree lines child below :=
  Relation.TransGen.head'_iff.1 ((ancestor_iff_encloses preorder).2 encloses)

/-- A subtree ends before the next sibling. -/
theorem Parent.not_inSubtree (preorder : IsPreorder lines) {parent child sibling place : Nat}
    (first : Parent lines parent child) (second : Parent lines parent sibling)
    (before : child < sibling) (reached : sibling ≤ place) : ¬ InSubtree lines child place := by
  intro inside
  obtain ⟨outer, inner, outerAt, innerAt, level⟩ := first.level
  obtain ⟨outer', inner', outerAt', innerAt', level'⟩ := second.level
  rw [outerAt'.unique outerAt] at level'
  rcases (inSubtree_iff preorder).1 inside with same | encloses
  · omega
  · have deeper := encloses.deeper innerAt innerAt' before (Nat.lt_succ_of_le reached)
    omega

end ExportAudit.Dump
