import ExportAudit.Dump.Line

/-!
# Positions in a dump

A position is the index of a line, counted over all lines, nodes or not.  What a dump
says about nesting is read off the depths of its nodes alone: the nodes behind a
position belong below it as long as they are deeper than the node that stands there,
and **the first node that is not deeper ends what it holds.**
-/

namespace ExportAudit.Dump

set_option autoImplicit false

/-! ## Lines and their positions -/

/-- Every line knows its position. -/
def Indexed (lines : List Line) : Prop :=
  ∀ ⦃place : Nat⦄ ⦃line : Line⦄, lines[place]? = some line → line.index = place

/-- **The lines of a dump know their positions.** -/
theorem indexed_parseDump (dump : String) : Indexed (parseDump dump) := by
  intro place line found
  simp only [parseDump, List.getElem?_map, List.getElem?_zipIdx, Option.map_map] at found
  obtain ⟨raw, -, same⟩ := Option.map_eq_some_iff.1 found
  rw [← same]
  simp [Line.parse]

/-- A node stands at a position. -/
def NodeAt (lines : List Line) (place : Nat) (node : Line) : Prop :=
  lines[place]? = some node ∧ node.isNode = true

variable {lines : List Line}

theorem NodeAt.unique {place : Nat} {node other : Line} (first : NodeAt lines place node)
    (second : NodeAt lines place other) : node = other :=
  Option.some.inj (first.1.symm.trans second.1)

/-! ## What lies below a position -/

/-- Every node after one position and before another is deeper than the node at the first. -/
def DeeperBetween (lines : List Line) (above below : Nat) : Prop :=
  ∀ ⦃outer inner : Line⦄ ⦃place : Nat⦄, NodeAt lines above outer → NodeAt lines place inner →
    above < place → place < below → outer.depth < inner.depth

theorem DeeperBetween.mono {above below nearer : Nat} (deeper : DeeperBetween lines above below)
    (near : nearer ≤ below) : DeeperBetween lines above nearer :=
  fun _ _ _ outerAt innerAt after before =>
    deeper outerAt innerAt after (Nat.lt_of_lt_of_le before near)

/-- One more position adds at most one node to be compared. -/
theorem deeperBetween_succ_iff {above below : Nat} (after : above < below) :
    DeeperBetween lines above (below + 1) ↔
      DeeperBetween lines above below ∧
        ∀ outer inner, NodeAt lines above outer → NodeAt lines below inner →
          outer.depth < inner.depth := by
  constructor
  · intro deeper
    exact ⟨deeper.mono (Nat.le_succ below),
      fun outer inner outerAt innerAt => deeper outerAt innerAt after (Nat.lt_succ_self below)⟩
  · rintro ⟨deeper, here⟩ outer inner place outerAt innerAt behind before
    rcases Nat.lt_succ_iff_lt_or_eq.1 before with before | rfl
    · exact deeper outerAt innerAt behind before
    · exact here outer inner outerAt innerAt

/-- A line that is no node ends nothing. -/
theorem DeeperBetween.succ_of_no_node {above below : Nat}
    (deeper : DeeperBetween lines above below) (none : ∀ node, ¬ NodeAt lines below node) :
    DeeperBetween lines above (below + 1) := by
  intro outer inner place outerAt innerAt after before
  rcases Nat.lt_succ_iff_lt_or_eq.1 before with before | rfl
  · exact deeper outerAt innerAt after before
  · exact absurd innerAt (none inner)

end ExportAudit.Dump
