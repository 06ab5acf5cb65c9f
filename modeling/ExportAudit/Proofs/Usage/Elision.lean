import ExportAudit.Proofs.Dump.PrintedNode
import ExportAudit.Usage.Walk

/-!
# Positions printed and found again

A dumper remembers the last file and line it printed and leaves out what has not changed.
A cursor over the same dump remembers the last file and line it read.  Both memories move
alike at every location, since a location prints exactly what the dumper's memory lacks.
So **the cursor finds every node where it begins**, however far back its file was printed.
-/

namespace ExportAudit.Usage

set_option autoImplicit false

open ExportAudit.Text ExportAudit.Dump

/-! ## One location -/

/-- A place in a source file. -/
structure Spot where
  file : String
  line : Nat
  col : Nat
  named : IsFileName file
  lineFits : line ≤ maxLineNumber
  colFits : col ≤ maxLineNumber

/-- The file and the line of a spot. -/
def Spot.position (spot : Spot) : Position :=
  { file := some spot.file, line := some spot.line }

namespace Position

variable (last : Position) (spot : Option Spot)

/-- What a dumper prints for a spot, or for no spot, after the last file and line. -/
def elide : Option Spot → Location
  | none => .invalid
  | some spot =>
    if last.file ≠ some spot.file then .file spot.file spot.line spot.col
    else if last.line ≠ some spot.line then .line spot.line spot.col
    else .col spot.col

/-- The last file and line once a spot is printed; an invalid location prints neither. -/
def seen : Option Spot → Position
  | none => last
  | some spot => spot.position

theorem isPrintable_elide : (last.elide spot).IsPrintable := by
  cases spot with
  | none => exact trivial
  | some spot =>
    rw [elide]
    split
    · exact ⟨spot.named, spot.lineFits, spot.colFits⟩
    · split
      · exact ⟨spot.lineFits, spot.colFits⟩
      · exact spot.colFits

/-- **A cursor that knows what the dumper printed last knows it after one more location.** -/
theorem move_elide : last.move (last.elide spot) = last.seen spot := by
  cases spot with
  | none => rfl
  | some spot =>
    rw [elide]
    split
    · rfl
    · next sameFile =>
      have sameFile := Decidable.not_not.1 sameFile
      split
      · simp [move, seen, Spot.position, sameFile]
      · next sameLine =>
        have sameLine := Decidable.not_not.1 sameLine
        simp [move, seen, Spot.position, ← sameFile, ← sameLine]

theorem elide_eq_invalid_iff : last.elide spot = .invalid ↔ spot = none := by
  cases spot with
  | none => simp [elide]
  | some spot =>
    rw [elide]
    split <;> [skip; split] <;> simp

end Position

/-! ## One node -/

/-- A node with the spots that its header prints. -/
structure SpottedNode where
  head : NodeHead
  begins : Option Spot
  ends : Option Spot
  named : Option Spot
  /-- The quoted part behind the spots, if any. -/
  quoted : Option (List Char)

/-- A quoted part with the blank in front of it. -/
def quotedText : Option (List Char) → List Char
  | none => []
  | some part => ' ' :: '\'' :: (part ++ ['\''])

namespace SpottedNode

variable (node : SpottedNode) (last : Position) (index : Nat)

/-- The locations that the header prints. -/
def locations : List Location :=
  [last.elide node.begins, (last.seen node.begins).elide node.ends,
    ((last.seen node.begins).seen node.ends).elide node.named]

/-- The last file and line printed with the node. -/
def after : Position :=
  ((last.seen node.begins).seen node.ends).seen node.named

/-- The line that a dumper prints for the node. -/
def text : List Char :=
  node.head.text ((last.elide node.begins).render ++ ([',', ' '] ++
    (((last.seen node.begins).elide node.ends).render ++ (['>', ' '] ++
      ((((last.seen node.begins).seen node.ends).elide node.named).render ++
        quotedText node.quoted)))))

/-- A header ends with the last spot, but for a blank in front of the quoted part. -/
theorem separates_quotedText (quoted : Option (List Char)) :
    Location.Separates (headerOf (quotedText quoted)) := by
  cases quoted with
  | none => exact fun c member => absurd member List.not_mem_nil
  | some part => exact (show Location.Separates [' '] by decide)

/-- **The locations printed are the locations read.** -/
theorem locations_parse : (Line.parse index (node.text last)).locations = node.locations last := by
  have printable := Position.isPrintable_elide
  have unquoted (position : Position) (spot : Option Spot) :=
    Location.ne_quote_of_mem_render (printable position spot)
  have comma : Location.Separates [',', ' '] := by decide
  have bracket : Location.Separates ['>', ' '] := by decide
  have trail := separates_quotedText node.quoted
  have stops := trail.stops [] (.inl stops_nil)
  have nothing (before : Option Char) :
      allFrom Location.at? 0 before (headerOf (quotedText node.quoted)) = [] := by
    have passed : allFrom Location.at? 0 before (headerOf (quotedText node.quoted) ++ []) = [] :=
      allFrom_passes (trail.passes [])
    rwa [List.append_nil] at passed
  rw [List.append_nil] at stops
  rw [text, node.head.locations_parse_text (printable _ _) (comma.stops _ (.inr (by simp))),
    headerOf_append (by simp), headerOf_append (unquoted _ _), headerOf_append (by simp),
    headerOf_append (unquoted _ _),
    Location.allFrom_gap (printable _ _) (comma.isGap _ (by decide) (by simp))
      (bracket.stops _ (.inr (by simp))),
    Location.allFrom_gap (printable _ _) (bracket.isGap _ (by decide) (by simp)) stops, nothing]
  rfl

/-- **A cursor reads a node as the dumper printed it**: it ends where the dumper's memory
does, and finds where the node begins. -/
theorem advance_parse : last.advance (Line.parse index (node.text last)).locations =
    (node.after last, node.begins.map Spot.position) := by
  rw [locations_parse, locations, Position.advance, List.foldl_cons, List.foldl_cons,
    List.foldl_nil, Position.move_elide, Position.move_elide, Position.move_elide]
  simp only [Position.elide_eq_invalid_iff]
  cases begins : node.begins <;> simp [after, begins, Position.seen]

end SpottedNode

/-! ## The whole dump -/

/-- The lines that a dumper prints for some nodes, in order. -/
def printedFrom : Position → List SpottedNode → List (List Char)
  | _, [] => []
  | last, node :: nodes => node.text last :: printedFrom (node.after last) nodes

/-- Where a cursor finds the nodes of some lines, in order. -/
def placesFrom : Position → List Line → List (Option Position)
  | _, [] => []
  | position, line :: lines =>
    (position.advance line.locations).2 :: placesFrom (position.advance line.locations).1 lines

/-- **Reading undoes the elision**: a cursor that starts with the dumper's memory finds
every node at the file and line where it begins, and finds no place for a node without
one. -/
theorem placesFrom_printedFrom (last : Position) (nodes : List SpottedNode) (index : Nat) :
    placesFrom last (parsedFrom index (printedFrom last nodes)) =
      nodes.map fun node => node.begins.map Spot.position := by
  induction nodes generalizing last index with
  | nil => rfl
  | cons node nodes ih =>
    rw [printedFrom, parsedFrom_cons, placesFrom, node.advance_parse, List.map_cons, ih]

/-- The dumper's memory is printed line by line; the node heads play no part in it. -/
example :
    let file : IsFileName "a.cpp" := by decide
    let spot (line col : Nat) (small : line ≤ maxLineNumber ∧ col ≤ maxLineNumber) : Spot :=
      ⟨"a.cpp", line, col, file, small.1, small.2⟩
    let head : NodeHead :=
      ⟨['|', '-'], "VarDecl".toList, ['1'], by decide, by decide, by decide, by decide⟩
    printedFrom .start
        [⟨head, some (spot 3 1 (by decide)), some (spot 9 1 (by decide)),
            some (spot 9 6 (by decide)), none⟩,
          ⟨head, none, none, some (spot 10 2 (by decide)), some ['x']⟩] =
      ["|-VarDecl 0x1 <a.cpp:3:1, line:9:1> col:6".toList,
        "|-VarDecl 0x1 <<invalid sloc>, <invalid sloc>> line:10:2 'x'".toList] := by
  decide +kernel

/-! ## The walk -/

/-- The walk moves its cursor over every node, whatever the node uses. -/
theorem WalkState.next_parse (state : WalkState) (node : SpottedNode) (index : Nat) :
    (state.next (Line.parse index (node.text state.position))).1.position =
        node.after state.position ∧
      ∀ site ∈ (state.next (Line.parse index (node.text state.position))).2,
        site.place = node.begins.map Spot.position := by
  have advanced := node.advance_parse state.position index
  have isNode : (Line.parse index (node.text state.position)).kind =
      some (String.ofList node.head.kind) := by
    rw [SpottedNode.text, NodeHead.parse_text]
  rw [WalkState.next, isNode]
  simp only [advanced, Option.mem_def, Option.map_eq_some_iff]
  refine ⟨trivial, ?_⟩
  rintro site ⟨use, -, rfl⟩
  rfl

/-- **The sites of the walk stand where their nodes begin**, in the order of the nodes. -/
theorem WalkState.places_sites (state : WalkState) (nodes : List SpottedNode) (index : Nat) :
    ((state.sites (parsedFrom index (printedFrom state.position nodes))).map (·.place)).Sublist
      (nodes.map fun node => node.begins.map Spot.position) := by
  induction nodes generalizing state index with
  | nil => exact List.Sublist.refl []
  | cons node nodes ih =>
    obtain ⟨moved, placed⟩ := state.next_parse node index
    have later := ih (state.next (Line.parse index (node.text state.position))).1 (index + 1)
    rw [moved] at later
    rw [printedFrom, parsedFrom_cons, WalkState.sites, List.map_append, List.map_cons]
    cases found : (state.next (Line.parse index (node.text state.position))).2 with
    | none => exact later.cons _
    | some site =>
      rw [← placed site (Option.mem_def.2 found)]
      exact later.cons_cons _

end ExportAudit.Usage
