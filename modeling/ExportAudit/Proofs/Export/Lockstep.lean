import ExportAudit.Proofs.Export.Concatenation
import Mathlib.Data.List.Forall2

/-!
# Scans in lockstep

Two scans read the same lines, and the second sees less: its window is smaller, or its
lines stand further apart.  The scope takes no notice of either, so both scans take the
same steps.  Only the buffers of recent imports differ, since the second drops an import
no later than the first.

Imports leave a buffer from the front.  **So what the second still remembers is an end of
what the first remembers**, and the latest import of a name is the same in both, or the
second has lost it with everything before it.  A symbol of the second catalog then has the
line that it has in the first, or none.
-/

namespace ExportAudit.Export

set_option autoImplicit false

open ExportAudit.Dump

/-! ## Catalogs that lose lines -/

/-- A symbol is another one that may have lost its line. -/
structure Symbol.FadesTo (symbol faded : Symbol) : Prop where
  name : faded.name = symbol.name
  kind : faded.kind = symbol.kind
  line : faded.line = symbol.line ∨ faded.line = none

theorem Symbol.FadesTo.refl (symbol : Symbol) : symbol.FadesTo symbol :=
  ⟨rfl, rfl, .inl rfl⟩

/-- A scan found the names and kinds of another one and the same number of export blocks, but
it may have lost lines. -/
structure ExportScan.FadesTo (scan faded : ExportScan) : Prop where
  symbols : List.Forall₂ Symbol.FadesTo scan.symbols faded.symbols
  exportBlocks : faded.exportBlocks = scan.exportBlocks

/-- Related lists have related members. -/
theorem exists_mem_of_forall₂ {α : Type} {related : α → α → Prop} {first second : List α}
    (pointwise : List.Forall₂ related first second) {b : α} (member : b ∈ second) :
    ∃ a ∈ first, related a b := by
  induction pointwise with
  | nil => cases member
  | cons head _ ih =>
    rcases List.mem_cons.1 member with rfl | member
    · exact ⟨_, List.mem_cons_self, head⟩
    · obtain ⟨a, earlier, holds⟩ := ih member
      exact ⟨a, List.mem_cons_of_mem _ earlier, holds⟩

/-- **A symbol that still has a line is a symbol of the first catalog.** -/
theorem ExportScan.FadesTo.mem {scan faded : ExportScan} (fades : scan.FadesTo faded)
    {symbol : Symbol} (member : symbol ∈ faded.symbols) {number : Nat}
    (recovered : symbol.line = some number) : symbol ∈ scan.symbols := by
  obtain ⟨whole, wholeMember, sameName, sameKind, line⟩ :=
    exists_mem_of_forall₂ fades.symbols member
  rcases line with sameLine | lost
  · obtain ⟨name, kind, line⟩ := symbol
    obtain ⟨name', kind', line'⟩ := whole
    cases sameName
    cases sameKind
    cases sameLine
    exact wholeMember
  · rw [recovered] at lost
    cases lost

/-- Sorting by a key that related items share keeps lists related. -/
theorem forall₂_mergeSort {α : Type} {related : α → α → Prop} {le : α → α → Bool}
    (sameKey : ∀ a b a' b', related a a' → related b b' → le a b = le a' b')
    {first second : List α} (pointwise : List.Forall₂ related first second) :
    List.Forall₂ related (first.mergeSort le) (second.mergeSort le) := by
  -- sorted as pairs, the two lists are sorted alike
  let pairs := first.zip second
  have members : ∀ pair ∈ pairs, related pair.1 pair.2 :=
    fun pair member => List.forall₂_zip pointwise member
  have lefts : pairs.map Prod.fst = first :=
    List.map_fst_zip (Nat.le_of_eq pointwise.length_eq)
  have rights : pairs.map Prod.snd = second :=
    List.map_snd_zip (Nat.le_of_eq pointwise.length_eq.symm)
  let lePair := fun pair other : α × α => le pair.1 other.1
  have sortedLefts : (pairs.mergeSort lePair).map Prod.fst = first.mergeSort le := by
    rw [List.map_mergeSort, lefts]
    exact fun _ _ _ _ => rfl
  have sortedRights : (pairs.mergeSort lePair).map Prod.snd = second.mergeSort le := by
    rw [List.map_mergeSort, rights]
    exact fun pair member other otherMember =>
      sameKey _ _ _ _ (members pair member) (members other otherMember)
  rw [← sortedLefts, ← sortedRights, List.forall₂_map_left_iff, List.forall₂_map_right_iff,
    List.forall₂_same]
  exact fun pair member => members pair (List.mem_mergeSort.1 member)

/-! ## Buffers of which one is an end of the other -/

/-- A list ends in items that are related to those of another. -/
def EndsLike {α : Type} (related : α → α → Prop) (whole ending : List α) : Prop :=
  ∃ lost kept, whole = lost ++ kept ∧ List.Forall₂ related kept ending

namespace EndsLike

variable {α : Type} {related : α → α → Prop} {whole ending : List α}

/-- What is left of an end is an end. -/
theorem drop (ends : EndsLike related whole ending) (count : Nat) :
    EndsLike related whole (ending.drop count) := by
  obtain ⟨lost, kept, rfl, pointwise⟩ := ends
  refine ⟨lost ++ kept.take count, kept.drop count, ?_, List.forall₂_drop count pointwise⟩
  rw [List.append_assoc, List.take_append_drop]

/-- **What drops more from the front leaves an end of what drops less.** -/
theorem dropWhile {narrow wide : α → Bool}
    (imp : ∀ a b, related a b → narrow a = true → wide b = true)
    (ends : EndsLike related whole ending) :
    EndsLike related (whole.dropWhile narrow) (ending.dropWhile wide) := by
  induction whole generalizing ending with
  | nil =>
    rw [List.dropWhile_nil, List.dropWhile_eq_drop_findIdx_not]
    exact ends.drop _
  | cons a rest ih =>
    by_cases dropped : narrow a = true
    · rw [List.dropWhile_cons_of_pos dropped]
      obtain ⟨lost, kept, split, pointwise⟩ := ends
      cases lost with
      | nil =>
        rw [List.nil_append] at split
        subst split
        cases pointwise with
        | @cons _ b _ ending head tail =>
          rw [List.dropWhile_cons_of_pos (imp a b head dropped)]
          exact ih ⟨[], rest, rfl, tail⟩
      | cons c lost =>
        rw [List.cons_append, List.cons.injEq] at split
        exact ih ⟨lost, kept, split.2, pointwise⟩
    · rw [List.dropWhile_cons_of_neg dropped, List.dropWhile_eq_drop_findIdx_not]
      exact ends.drop _

theorem concat (ends : EndsLike related whole ending) {a b : α} (last : related a b) :
    EndsLike related (whole ++ [a]) (ending ++ [b]) := by
  obtain ⟨lost, kept, rfl, pointwise⟩ := ends
  exact ⟨lost, kept ++ [a], List.append_assoc .., List.rel_append pointwise (.cons last .nil)⟩

end EndsLike

/-! ## Correlations that fall behind -/

/-- An import is another one, at most so many lines further on. -/
structure RecentImport.Trails (offset : Nat) (seen trailing : RecentImport) : Prop where
  name : trailing.name = seen.name
  line : trailing.line = seen.line
  index : trailing.index ≤ offset + seen.index

/-- A correlation is another one with a smaller window at most, and lines so many positions
further on: it has forgotten more of the imports, and some lines are missing from its
catalog. -/
structure Correlator.Trails (offset : Nat) (correlator trailing : Correlator) : Prop where
  window : trailing.window ≤ correlator.window
  recent : EndsLike (RecentImport.Trails offset) correlator.recent trailing.recent
  symbols : List.Forall₂ Symbol.FadesTo correlator.symbols trailing.symbols

/-- The latest import of a name has the same line in lists of the same imports. -/
theorem bind_line_find? {offset : Nat} {imports trailing : List RecentImport}
    (pointwise : List.Forall₂ (RecentImport.Trails offset) imports trailing) (name : String) :
    (trailing.find? (·.name == name)).bind (·.line) =
      (imports.find? (·.name == name)).bind (·.line) := by
  induction pointwise with
  | nil => rfl
  | @cons seen behind _ _ head _ ih =>
    rw [List.find?_cons, List.find?_cons, head.name]
    split
    · exact head.line
    · exact ih

namespace Correlator.Trails

variable {offset : Nat} {correlator trailing : Correlator}

theorem evict (trails : correlator.Trails offset trailing) (index : Nat) :
    (correlator.evict index).Trails offset (trailing.evict (offset + index)) where
  window := trails.window
  recent := by
    refine trails.recent.dropWhile fun seen behind same far => ?_
    have narrower := trails.window
    have near := same.index
    rw [decide_eq_true_eq] at far ⊢
    omega
  symbols := trails.symbols

/-- **The line of a name is the same, or it is forgotten.** -/
theorem lineOf? (trails : correlator.Trails offset trailing) (name : String) :
    trailing.lineOf? name = correlator.lineOf? name ∨ trailing.lineOf? name = none := by
  obtain ⟨lost, kept, split, pointwise⟩ := trails.recent
  have same := bind_line_find? (List.forall₂_reverse_iff.2 pointwise) name
  rw [Correlator.lineOf?, Correlator.lineOf?, split, List.reverse_append, List.find?_append, same]
  cases kept.reverse.find? (·.name == name) with
  | none => exact .inr rfl
  | some latest => exact .inl rfl

theorem knows (trails : correlator.Trails offset trailing) (name : String) :
    trailing.knows name = correlator.knows name := by
  have symbols := trails.symbols
  rw [Correlator.knows, Correlator.knows]
  generalize correlator.symbols = first, trailing.symbols = second at symbols
  induction symbols with
  | nil => rfl
  | cons head _ ih => rw [List.any_cons, List.any_cons, head.name, ih]

theorem recordImport (trails : correlator.Trails offset trailing) (index : Nat) (name : String)
    (line : Option Nat) :
    (correlator.recordImport index name line).Trails offset
      (trailing.recordImport (offset + index) name line) where
  window := trails.window
  recent := (trails.evict index).recent.concat ⟨rfl, rfl, Nat.le_refl _⟩
  symbols := trails.symbols

theorem resolve (trails : correlator.Trails offset trailing) (index : Nat)
    (name declaration : String) :
    (correlator.resolve index name declaration).1.Trails offset
      (trailing.resolve (offset + index) name declaration).1 := by
  have evicted := trails.evict index
  simp only [Correlator.resolve, evicted.knows]
  split
  · exact evicted
  · refine ⟨evicted.window, evicted.recent, ?_⟩
    exact List.rel_append evicted.symbols (.cons ⟨rfl, rfl, evicted.lineOf? name⟩ .nil)

/-- **Whatever a step asks for, the correlation that trails goes on trailing.** -/
theorem feed (trails : correlator.Trails offset trailing) (index : Nat) (step : Step) :
    (ScanState.feed correlator index step).Trails offset
      (ScanState.feed trailing (offset + index) step) := by
  cases step with
  | skip => exact trails
  | imports name line => exact trails.recordImport index name line
  | resolves name declaration => exact trails.resolve index name declaration

end Correlator.Trails

/-! ## Scans that fall behind -/

/-- A scan is in the scope of another one, its correlation trails, and it has counted so many
nodes more. -/
structure ScanState.Trails (offset extra : Nat) (state trailing : ScanState) : Prop where
  scope : trailing.scope = state.scope
  correlator : state.correlator.Trails offset trailing.correlator
  nodeLines : trailing.nodeLines = state.nodeLines + extra
  exportBlocks : trailing.exportBlocks = state.exportBlocks

/-- A line that is no node changes nothing. -/
theorem ScanState.next_of_not_isNode {options : ScanOptions} {state : ScanState} {line : Line}
    (notNode : ¬ line.isNode = true) : state.next options line = state :=
  if_neg notNode

namespace ScanState.Trails

variable {offset extra : Nat} {state trailing : ScanState}

/-- A line, and the same line further on. -/
theorem next (trails : state.Trails offset extra trailing) (options : ScanOptions) (line : Line) :
    (state.next options line).Trails offset extra (trailing.next options (line.moved offset)) := by
  have sameNode := isNode_moved line offset
  by_cases isNode : line.isNode = true
  · rw [ScanState.next, ScanState.next, if_pos isNode, if_pos (sameNode.trans isNode),
      trails.scope]
    refine ⟨rfl, trails.correlator.feed line.index _, ?_, ?_⟩
    · exact (congrArg (· + 1) trails.nodeLines).trans (Nat.add_right_comm ..)
    · exact congrArg (· + _) trails.exportBlocks
  · rw [next_of_not_isNode isNode, next_of_not_isNode (sameNode ▸ isNode)]
    exact trails

/-- **Any number of lines, and the same lines further on.** -/
theorem foldl (trails : state.Trails offset extra trailing) (options : ScanOptions)
    (lines : List Line) :
    (lines.foldl (ScanState.next options) state).Trails offset extra
      ((lines.map (·.moved offset)).foldl (ScanState.next options) trailing) := by
  induction lines generalizing state trailing with
  | nil => exact trails
  | cons line lines ih => exact ih (trails.next options line)

/-- **The catalog of a scan that trails has lost lines at most.** -/
theorem fadesTo (trails : state.Trails offset extra trailing) :
    List.Forall₂ Symbol.FadesTo
      (state.correlator.symbols.mergeSort fun a b => decide (a.name ≤ b.name))
      (trailing.correlator.symbols.mergeSort fun a b => decide (a.name ≤ b.name)) := by
  refine forall₂_mergeSort (fun a b a' b' first second => ?_) trails.correlator.symbols
  rw [first.name, second.name]

end ScanState.Trails

end ExportAudit.Export
