import ExportAudit.Proofs.Analysis.Measurement
import ExportAudit.Proofs.Export.ScopeTrace
import ExportAudit.Proofs.Export.WiderWindow

/-!
# The narrowest window of a sound configuration

A shadow sees the imports that are nearer than the window: from the line before it back to one
line short of the window.  So a window of two lines reaches the line before the shadow, and from
there on an import that is resolved on the next line always gives its line away.

A sound configuration has a window of one line at least.  A window of one line reaches only the
shadow itself, and there is nothing to search before it.  **So the narrowest window that passes
for sound recovers no line of any dump**, just like the empty one, which does not pass.
-/

namespace ExportAudit.Analysis

set_option autoImplicit false

open ExportAudit.Dump ExportAudit.Export

/-- A sound configuration has a window. -/
theorem correlationWindow_ne_zero {config : Config} (sound : config.unsound? = none) :
    config.correlationWindow ≠ 0 := by
  intro empty
  rw [Config.unsound?, if_pos empty] at sound
  split at sound
  · cases sound
  · split at sound <;> cases sound

/-- Whatever is scanned, an import that is resolved on the very next line, and whose name is
new, gives its symbol the line that it prints. -/
def RecoversNextLine (setup : Setup) : Prop :=
  ∀ (moduleName dump : String) (place : Nat) (name declaration : String) (number : Nat),
    ResolvedNext (setup.scanOptions moduleName) (parseDump dump) place name declaration number →
      ∃ symbol ∈ (scanExports dump (setup.scanOptions moduleName)).symbols,
        symbol.name = name ∧ symbol.line = some number

/-- The window of a sound configuration is longer than one line, or it is one line. -/
theorem one_lt_window {setup : Setup} (sound : setup.config.unsound? = none)
    (wider : setup.config.correlationWindow ≠ 1) (moduleName : String) :
    1 < (setup.scanOptions moduleName).window := by
  have notZero : setup.config.correlationWindow.toNat ≠ 0 := fun zero =>
    correlationWindow_ne_zero sound (UInt64.toNat_inj.1 zero)
  have notOne : setup.config.correlationWindow.toNat ≠ 1 := fun one =>
    wider (UInt64.toNat_inj.1 one)
  change 1 < setup.config.correlationWindow.toNat
  omega

/-- **Under a sound configuration the next line is recovered, unless the window is one line;
then no line is.** -/
theorem recoversNextLine_of_sound (setup : Setup) (sound : setup.config.unsound? = none) :
    (setup.config.correlationWindow ≠ 1 → RecoversNextLine setup) ∧
      (setup.config.correlationWindow = 1 → ∀ moduleName dump,
        ∀ symbol ∈ (scanExports dump (setup.scanOptions moduleName)).symbols,
          symbol.line = none) := by
  constructor
  · intro wider moduleName dump place name declaration number next
    have enters := next.entersAt
    rw [if_pos (one_lt_window sound wider moduleName)] at enters
    have member := ((isCatalog_scanExports dump _).entries _).2 ⟨_, enters⟩
    exact ⟨_, member, rfl, rfl⟩
  · intro narrow moduleName dump symbol member
    refine line_eq_none_of_window_le_one ?_ member
    change setup.config.correlationWindow.toNat ≤ 1
    rw [narrow]
    exact Nat.le_refl 1

/-! ## One import under the narrowest window -/

/-- A dump in which an import with a line number is resolved on the next line. -/
def nextLine : String :=
  "TranslationUnitDecl 0x1 <<invalid sloc>> <invalid sloc>
\x60-ExportDecl 0x2 <src/f.cppm:1:1, line:3:1> line:1:1 in f
  \x60-NamespaceDecl 0x3 <col:8, line:3:1> line:1:18 in f std
    |-UsingDecl 0x4 <line:2:3, col:14> col:14 in f std::go
    \x60-UsingShadowDecl 0x5 <col:14> col:14 in f implicit Function 0x6 'go'
"

/-- A project of one module with a window of so many lines. -/
def windowed (window : UInt64) : Setup :=
  { oneModule with config := { oneModule.config with correlationWindow := window } }

theorem steps_nextLine (window : UInt64) (place : Nat) :
    stepAt ((windowed window).scanOptions "f") (parseDump nextLine) place =
      [.skip, .skip, .skip, .imports "go" (some 2), .resolves "go" "Function"][place]? := by
  have steps : (traceScope "f" ⟨"std", ["filesystem", "ranges"]⟩ .start (parseDump nextLine)).map
      (·.step) = [.skip, .skip, .skip, .imports "go" (some 2), .resolves "go" "Function"] := by
    rw [parseDump, nextLine, String.toList_ofList]
    decide
  rw [← steps, List.getElem?_map]
  rfl

theorem resolvedNext_nextLine (window : UInt64) :
    ResolvedNext ((windowed window).scanOptions "f") (parseDump nextLine) 3 "go" "Function" 2 where
  imports := steps_nextLine window 3
  resolves := steps_nextLine window 4
  new earlier before other := by
    rw [steps_nextLine]
    rcases earlier with _ | _ | _ | earlier
    · simp
    · simp
    · simp
    · omega

theorem sound_windowed_one : (windowed 1).config.unsound? = none := by
  decide

theorem sound_windowed_two : (windowed 2).config.unsound? = none := by
  decide

/-- A window of two lines is enough for the import; a window of one line is not. -/
theorem recoversNextLine_windowed :
    (windowed 2).config.unsound? = none ∧ (windowed 2).config.correlationWindow ≠ 1 ∧
      ResolvedNext ((windowed 2).scanOptions "f") (parseDump nextLine) 3 "go" "Function" 2 ∧
      (∃ symbol ∈ (scanExports nextLine ((windowed 2).scanOptions "f")).symbols,
        symbol.name = "go" ∧ symbol.line = some 2) ∧
      (windowed 1).config.unsound? = none ∧ (windowed 1).config.correlationWindow = 1 ∧
      ∀ symbol ∈ (scanExports nextLine ((windowed 1).scanOptions "f")).symbols,
        symbol.line = none :=
  ⟨sound_windowed_two, by decide, resolvedNext_nextLine 2,
    (recoversNextLine_of_sound (windowed 2) sound_windowed_two).1 (by decide) "f" nextLine 3 "go"
      "Function" 2 (resolvedNext_nextLine 2),
    sound_windowed_one, rfl,
    (recoversNextLine_of_sound (windowed 1) sound_windowed_one).2 rfl "f" nextLine⟩

/-- **A sound configuration that recovers no line of an import right in front of its shadow.** -/
theorem not_recoversNextLine_windowed :
    ¬ ∀ setup : Setup, setup.config.unsound? = none → RecoversNextLine setup := by
  intro recovers
  obtain ⟨symbol, member, -, line⟩ :=
    recovers (windowed 1) sound_windowed_one "f" nextLine 3 "go" "Function" 2
      (resolvedNext_nextLine 1)
  have narrow : ((windowed 1).scanOptions "f").window ≤ 1 := Nat.le_refl 1
  rw [line_eq_none_of_window_le_one narrow member] at line
  cases line

end ExportAudit.Analysis
