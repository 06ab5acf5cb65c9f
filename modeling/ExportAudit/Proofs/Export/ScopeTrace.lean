import ExportAudit.Proofs.Export.ScanCatalog

/-!
# The trace of the scope

A trace follows the scope over all lines, nodes or not, and notes what each line does.
It says the same as the declared catalog: **the step at a position tells what happens
there**, and a name is resolved at a position exactly if the step resolves it.

Two steps that stand side by side tell even more.  An import that is resolved on the very
next line is the import that the shadow resolves, since nothing stands between the two.
-/

namespace ExportAudit.Export

set_option autoImplicit false

open ExportAudit.Dump

variable {options : ScanOptions} {lines : List Line} {place : Nat}

/-! ## The agreement along a trace -/

/-- A line that is no node leaves the scope alone. -/
theorem ScopeState.advance_of_not_isNode {state : ScopeState} {filter : NamespaceFilter}
    {line : Line} (notNode : ¬ line.isNode = true) (moduleName qualifier : String) :
    state.advance filter line (Role.of line moduleName qualifier) = (state, .skip) := by
  have noKind : line.kind = none := by simpa [Line.isNode] using notNode
  have noRole : Role.of line moduleName qualifier = .other := by simp [Role.of, noKind]
  simp [ScopeState.advance, noRole, ScopeState.endsAt, notNode, ScopeState.inside]

/-- **A line keeps the agreement, and its step says what happens.** -/
theorem ScopeAgrees.read {state : ScopeState} {line : Line}
    (agrees : ScopeAgrees options lines place state) (found : lines[place]? = some line) :
    let result := state.advance options.namespaces line
      (Role.of line options.moduleName options.namespaces.qualifier)
    ScopeAgrees options lines (place + 1) result.1 ∧ StepAgrees options lines place result.2 := by
  by_cases isNode : line.isNode = true
  · exact agrees.advance ⟨found, isNode⟩
  · have none : ∀ node, ¬ NodeAt lines place node := by
      rintro node ⟨here, nodeIs⟩
      obtain rfl : line = node := Option.some.inj (found.symm.trans here)
      exact isNode nodeIs
    rw [ScopeState.advance_of_not_isNode isNode]
    exact ⟨agrees.pass none, .skip_of_no_node none⟩

/-- A trace of the lines from a position on begins with the line there. -/
theorem traceScope_drop {state : ScopeState} {line : Line} (found : lines[place]? = some line) :
    traceScope options.moduleName options.namespaces state (lines.drop place) =
      let result := state.advance options.namespaces line
        (Role.of line options.moduleName options.namespaces.qualifier)
      { step := result.2, after := result.1 } ::
        traceScope options.moduleName options.namespaces result.1 (lines.drop (place + 1)) := by
  obtain ⟨within, isLine⟩ := List.getElem?_eq_some_iff.1 found
  rw [List.drop_eq_getElem_cons within, isLine, traceScope]

theorem exists_line_of_traced {state : ScopeState} {offset : Nat} {entry : TraceEntry}
    (noted : (traceScope options.moduleName options.namespaces state (lines.drop place))[offset]? =
      some entry) : ∃ line, lines[place]? = some line := by
  refine ⟨_, List.getElem?_eq_getElem (Nat.lt_of_not_le fun beyond => ?_)⟩
  simp [List.drop_eq_nil_of_le beyond, traceScope] at noted

/-- **What one line keeps, a trace keeps.** -/
theorem ScopeAgrees.trace {state : ScopeState} (agrees : ScopeAgrees options lines place state)
    {offset : Nat} {entry : TraceEntry}
    (noted : (traceScope options.moduleName options.namespaces state (lines.drop place))[offset]? =
      some entry) :
    StepAgrees options lines (place + offset) entry.step ∧
      ScopeAgrees options lines (place + offset + 1) entry.after := by
  induction offset generalizing place state with
  | zero =>
    obtain ⟨line, found⟩ := exists_line_of_traced noted
    obtain ⟨after, step⟩ := agrees.read found
    rw [traceScope_drop found, List.getElem?_cons_zero, Option.some.injEq] at noted
    rw [← noted]
    exact ⟨step, after⟩
  | succ offset ih =>
    obtain ⟨line, found⟩ := exists_line_of_traced noted
    rw [traceScope_drop found, List.getElem?_cons_succ] at noted
    have later := ih (agrees.read found).1 noted
    rwa [Nat.add_assoc place 1 offset, Nat.add_comm 1 offset] at later

theorem length_traceScope (moduleName : String) (filter : NamespaceFilter) (state : ScopeState)
    (lines : List Line) : (traceScope moduleName filter state lines).length = lines.length := by
  induction lines generalizing state with
  | nil => rfl
  | cons line lines ih => rw [traceScope, List.length_cons, ih, List.length_cons]

/-! ## The step at a position -/

/-- What the scope does at a position. -/
def stepAt (options : ScanOptions) (lines : List Line) (place : Nat) : Option Step :=
  (traceScope options.moduleName options.namespaces .start lines)[place]?.map (·.step)

/-- **The step at a position says what happens there.** -/
theorem stepAgrees_stepAt {step : Step} (taken : stepAt options lines place = some step) :
    StepAgrees options lines place step := by
  obtain ⟨entry, noted, rfl⟩ := Option.map_eq_some_iff.1 taken
  have start : ScopeAgrees options lines 0 .start :=
    .outside fun _ block => absurd block.before (Nat.not_lt_zero _)
  rw [← List.drop_zero (l := lines)] at noted
  have agrees := (start.trace noted).1
  rwa [Nat.zero_add] at agrees

/-- Something happens at every position, if only nothing. -/
theorem exists_stepAt (within : place < lines.length) :
    ∃ step, stepAt options lines place = some step := by
  have traced : place < (traceScope options.moduleName options.namespaces .start lines).length := by
    rwa [length_traceScope]
  exact ⟨_, by rw [stepAt, List.getElem?_eq_getElem traced, Option.map_some]⟩

theorem StepAgrees.imported {name : String} {line : Option Nat}
    (agrees : StepAgrees options lines place (.imports name line)) :
    ActiveImport options lines place name line := by
  cases agrees with
  | imports imported => exact imported

theorem StepAgrees.resolved {name declaration : String}
    (agrees : StepAgrees options lines place (.resolves name declaration)) :
    ∃ origin line, Resolves options lines origin place name declaration line := by
  cases agrees with
  | resolves found => exact ⟨_, _, found⟩

/-- **Where a name is resolved, the step resolves it.** -/
theorem ResolvedAt.exists_stepAt {name : String} (resolved : ResolvedAt options lines place name) :
    ∃ declaration, stepAt options lines place = some (.resolves name declaration) := by
  obtain ⟨step, taken⟩ : ∃ step, stepAt options lines place = some step :=
    ExportAudit.Export.exists_stepAt resolved.lt_length
  rw [taken]
  obtain ⟨origin, declaration, line, found⟩ := resolved
  cases stepAgrees_stepAt taken with
  | skip _ unresolved => exact absurd ⟨origin, declaration, line, found⟩ (unresolved name)
  | imports imported => exact Role.noConfusion (imported.role.unique found.shadow.role)
  | @resolves _ other declaration' _ found' =>
    obtain ⟨rfl, -⟩ := found.awaited.name_unique found'.awaited
    exact ⟨declaration', rfl⟩

/-! ## An import and its shadow on neighbouring lines -/

variable (options lines) in
/-- An import prints a line number, the very next line resolves it, and no line before
resolves its name. -/
structure ResolvedNext (place : Nat) (name declaration : String) (number : Nat) : Prop where
  imports : stepAt options lines place = some (.imports name (some number))
  resolves : stepAt options lines (place + 1) = some (.resolves name declaration)
  new : ∀ earlier, earlier < place → ∀ other,
    stepAt options lines earlier ≠ some (.resolves name other)

/-- **The symbol of an import that is resolved on the next line has its line exactly if the
window is longer than one line.** -/
theorem ResolvedNext.entersAt {name declaration : String} {number : Nat}
    (next : ResolvedNext options lines place name declaration number) :
    EntersAt options lines
      ⟨name, .ofDeclaration declaration, if 1 < options.window then some number else none⟩
      (place + 1) := by
  have imported := (stepAgrees_stepAt next.imports).imported
  obtain ⟨origin, line, found⟩ := (stepAgrees_stepAt next.resolves).resolved
  obtain rfl := found.awaited.origin_unique imported.awaits
  obtain ⟨-, rfl⟩ := found.awaited.name_unique imported.awaits
  refine ⟨fun earlier before resolved => ?_, origin, declaration, some number, found, rfl, ?_⟩
  · obtain ⟨other, taken⟩ := resolved.exists_stepAt
    rcases Nat.lt_succ_iff_lt_or_eq.1 before with before | rfl
    · exact next.new earlier before other taken
    · rw [next.imports] at taken
      cases taken
  · rw [Nat.add_sub_cancel_left]

end ExportAudit.Export
