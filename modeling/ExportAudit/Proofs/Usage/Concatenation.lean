import ExportAudit.Proofs.Export.Concatenation
import ExportAudit.Proofs.Usage.Located

/-!
# Walking one dump behind another

A walk carries two things from line to line, the open calls and the position last printed.
A node of depth zero closes every call, and a location that tells its file replaces the
position.  So a dump that starts over at depth zero, and whose first location tells its
file, does not see what was walked before it, **and the usages of two such dumps together
are the usages of the first followed by those of the second.**

Until that first location the two positions may differ.  They are not looked at: where a
node begins is known only from a location of its own.
-/

namespace ExportAudit.Dump

set_option autoImplicit false

/-! ## The first location -/

/-- The location tells its file. -/
def Location.tellsFile : Location → Bool
  | .file _ _ _ => true
  | .invalid | .line _ _ | .col _ => false

/-- The first valid location among some. -/
def firstValid? (locations : List Location) : Option Location :=
  locations.find? fun location => decide (location ≠ .invalid)

theorem firstValid?_cons (location : Location) (locations : List Location) :
    firstValid? (location :: locations) =
      if location = .invalid then firstValid? locations else some location := by
  rw [firstValid?, List.find?_cons]
  split <;> simp_all [firstValid?]

/-- The locations of the nodes, in order. -/
def nodeLocations (lines : List Line) : List Location :=
  (lines.filter (·.isNode)).flatMap (·.locations)

/-- The first valid location of the nodes tells its file, if there is one. -/
def StartsInFile (lines : List Line) : Prop :=
  ∀ location ∈ firstValid? (nodeLocations lines), location.tellsFile = true

instance (lines : List Line) : Decidable (StartsInFile lines) :=
  inferInstanceAs (Decidable (∀ location ∈ firstValid? (nodeLocations lines), _))

section StartsInFile

variable {line : Line} {lines : List Line}

theorem StartsInFile.tail (starts : StartsInFile (line :: lines))
    (notNode : line.isNode = false) : StartsInFile lines := by
  rwa [StartsInFile, nodeLocations, List.filter_cons_of_neg (by simp [notNode])] at starts

theorem firstValid?_nodeLocations_cons (isNode : line.isNode = true) :
    firstValid? (nodeLocations (line :: lines)) =
      (firstValid? line.locations).or (firstValid? (nodeLocations lines)) := by
  rw [nodeLocations, List.filter_cons_of_pos isNode, List.flatMap_cons, firstValid?,
    List.find?_append]
  rfl

/-- Nodes without a valid location leave the first one to the nodes behind them. -/
theorem StartsInFile.tail_of_invalid (starts : StartsInFile (line :: lines))
    (isNode : line.isNode = true) (invalid : firstValid? line.locations = none) :
    StartsInFile lines := by
  rwa [StartsInFile, firstValid?_nodeLocations_cons isNode, invalid, Option.none_or] at starts

theorem StartsInFile.tellsFile (starts : StartsInFile (line :: lines))
    (isNode : line.isNode = true) {location : Location}
    (valid : firstValid? line.locations = some location) : location.tellsFile = true := by
  refine starts location ?_
  rw [firstValid?_nodeLocations_cons isNode, valid, Option.some_or, Option.mem_some]

end StartsInFile

end ExportAudit.Dump

namespace ExportAudit.Usage

set_option autoImplicit false

open ExportAudit.Dump ExportAudit.Export ExportAudit.Text

/-! ## Positions -/

namespace Position

variable {location : Location} {locations : List Location}

theorem foldl_move_of_invalid (position : Position) (invalid : firstValid? locations = none) :
    locations.foldl move position = position := by
  induction locations with
  | nil => rfl
  | cons first rest ih =>
    rw [firstValid?_cons] at invalid
    split at invalid
    · next isInvalid =>
      rw [isInvalid]
      exact ih invalid
    · cases invalid

/-- A location that tells its file puts every position in the same place. -/
theorem move_eq (tellsFile : location.tellsFile = true) (first second : Position) :
    first.move location = second.move location := by
  cases location with
  | file path number col => rfl
  | invalid => cases tellsFile
  | line number col => cases tellsFile
  | col col => cases tellsFile

theorem foldl_move_eq (valid : firstValid? locations = some location)
    (tellsFile : location.tellsFile = true) (first second : Position) :
    locations.foldl move first = locations.foldl move second := by
  induction locations with
  | nil => cases valid
  | cons head rest ih =>
    rw [firstValid?_cons] at valid
    split at valid
    · next isInvalid =>
      rw [isInvalid]
      exact ih valid
    · obtain rfl := Option.some.inj valid
      rw [List.foldl_cons, List.foldl_cons, move_eq tellsFile first second]

/-- Invalid locations leave the position where it is, and no node begins there. -/
theorem advance_of_invalid (position : Position) (invalid : firstValid? locations = none) :
    position.advance locations = (position, none) := by
  cases locations with
  | nil => rfl
  | cons head rest =>
    have stays := foldl_move_of_invalid position invalid
    rw [firstValid?_cons] at invalid
    split at invalid
    · next isInvalid =>
      rw [advance, if_pos isInvalid]
      exact congrArg (·, none) stays
    · cases invalid

/-- **Locations of which the first valid one tells its file are read alike from every
position.** -/
theorem advance_eq (valid : firstValid? locations = some location)
    (tellsFile : location.tellsFile = true) (first second : Position) :
    first.advance locations = second.advance locations := by
  cases locations with
  | nil => cases valid
  | cons head rest =>
    have reached := foldl_move_eq valid tellsFile first second
    rw [firstValid?_cons] at valid
    rw [advance, advance]
    split at valid
    · next isInvalid =>
      rw [if_pos isInvalid, if_pos isInvalid]
      exact congrArg (·, none) reached
    · obtain rfl := Option.some.inj valid
      rw [move_eq tellsFile first second]

/-- Positions that some nodes do not tell apart let the first of them begin in one place, and
the others do not tell the next positions apart. -/
theorem advance_alike {line : Line} {lines : List Line} {first second : Position}
    (alike : first = second ∨ StartsInFile (line :: lines)) (isNode : line.isNode = true) :
    (first.advance line.locations).2 = (second.advance line.locations).2 ∧
      ((first.advance line.locations).1 = (second.advance line.locations).1 ∨
        StartsInFile lines) := by
  rcases alike with same | starts
  · rw [same]
    exact ⟨rfl, .inl rfl⟩
  · cases valid : firstValid? line.locations with
    | none =>
      rw [advance_of_invalid first valid, advance_of_invalid second valid]
      exact ⟨rfl, .inr (starts.tail_of_invalid isNode valid)⟩
    | some location =>
      rw [advance_eq valid (starts.tellsFile isNode valid) first second]
      exact ⟨rfl, .inl rfl⟩

end Position

/-! ## One walk behind another -/

namespace WalkState

/-- The state of a walk after some lines. -/
def run (state : WalkState) (lines : List Line) : WalkState :=
  lines.foldl (fun state line => (state.next line).1) state

theorem sites_cons (state : WalkState) (line : Line) (lines : List Line) :
    state.sites (line :: lines) = (state.next line).2.toList ++ (state.next line).1.sites lines :=
  rfl

/-- **A walk over two lists of lines goes on where it has come to.** -/
theorem sites_append (state : WalkState) (first second : List Line) :
    state.sites (first ++ second) = state.sites first ++ (state.run first).sites second := by
  induction first generalizing state with
  | nil => rfl
  | cons line first ih =>
    rw [List.cons_append, sites_cons, sites_cons, ih, List.append_assoc]
    rfl

/-- The index of a line plays no part in the walk. -/
theorem next_moved (state : WalkState) (line : Line) (offset : Nat) :
    state.next (line.moved offset) = state.next line := rfl

theorem sites_moved (state : WalkState) (lines : List Line) (offset : Nat) :
    state.sites (lines.map (·.moved offset)) = state.sites lines := by
  induction lines generalizing state with
  | nil => rfl
  | cons line lines ih => rw [List.map_cons, sites_cons, sites_cons, next_moved, ih]

end WalkState

/-- **A node of depth zero closes every call.** -/
theorem CallStack.close_zero (calls : CallStack) : CallStack.close calls 0 = [] :=
  List.dropWhile_eq_nil_iff.2 fun _ _ => by simp

/-- A node does not see the calls that it closes. -/
theorem useOfNode_eq_of_close {first second : CallStack} {line : Line}
    (same : first.close line.depth = second.close line.depth) (role : NodeRole) :
    useOfNode first role line = useOfNode second role line := by
  simp only [useOfNode, same]

/-- Two states of a walk that some lines do not tell apart: what differs is replaced before
it is looked at. -/
structure Alike (lines : List Line) (first second : WalkState) : Prop where
  calls : first.calls = second.calls ∨ StartsOver lines
  position : first.position = second.position ∨ StartsInFile lines

/-- **From two such states one line finds the same, and the lines behind it do not tell the
next states apart.** -/
theorem Alike.next {line : Line} {lines : List Line} {first second : WalkState}
    (alike : Alike (line :: lines) first second) :
    (first.next line).2 = (second.next line).2 ∧
      Alike lines (first.next line).1 (second.next line).1 := by
  cases isKind : line.kind with
  | none =>
    have notNode : line.isNode = false := by simp [Line.isNode, isKind]
    simp only [WalkState.next, isKind]
    exact ⟨trivial, alike.calls.imp_right (·.tail notNode),
      alike.position.imp_right (·.tail notNode)⟩
  | some kind =>
    have isNode : line.isNode = true := by simp [Line.isNode, isKind]
    have sameOpen : first.calls.close line.depth = second.calls.close line.depth := by
      rcases alike.calls with same | startsOver
      · rw [same]
      · rw [startsOver.depth_eq isNode, CallStack.close_zero, CallStack.close_zero]
    have sameUse := useOfNode_eq_of_close sameOpen (.ofKind kind)
    obtain ⟨samePlace, position⟩ := Position.advance_alike alike.position isNode
    simp only [WalkState.next, isKind, sameUse, samePlace]
    exact ⟨trivial, .inl rfl, position⟩

/-- **Lines find the same from two states that they do not tell apart.** -/
theorem Alike.sites_eq {lines : List Line} {first second : WalkState}
    (alike : Alike lines first second) : first.sites lines = second.sites lines := by
  induction lines generalizing first second with
  | nil => rfl
  | cons line lines ih =>
    obtain ⟨sameSite, alike⟩ := alike.next
    rw [WalkState.sites_cons, WalkState.sites_cons, sameSite, ih alike]

/-- **The sites of two dumps together are those of the first and then those of the second.** -/
theorem sitesOf_append {before after : String} (whole : WholeLines before.toList)
    (startsOver : StartsOver (parseDump after)) (startsInFile : StartsInFile (parseDump after)) :
    sitesOf (before ++ after) = sitesOf before ++ sitesOf after := by
  have alike : Alike (parseDump after) (WalkState.run {} (parseDump before)) {} :=
    ⟨.inr startsOver, .inr startsInFile⟩
  rw [sitesOf, parseDump_append whole, WalkState.sites_append, WalkState.sites_moved,
    alike.sites_eq, sitesOf, sitesOf]

/-! ## The usages of two dumps -/

/-- The usages of a symbol, and after them further ones of the same symbol. -/
def SymbolUsage.followedBy (first second : SymbolUsage) : SymbolUsage :=
  { count := first.count + second.count, records := first.records ++ second.records }

/-- The usages of the same symbols in two tests together, symbol by symbol. -/
def UsageMap.followedBy (first second : UsageMap) : UsageMap :=
  first.zipWith (fun entry further => (entry.1, entry.2.followedBy further.2)) second

theorem usageAmong_append (first second : List Site) (input : TestInput) (contextTokens : Nat)
    (symbol : String) :
    usageAmong (first ++ second) input contextTokens symbol =
      (usageAmong first input contextTokens symbol).followedBy
        (usageAmong second input contextTokens symbol) := by
  simp [usageAmong, SymbolUsage.followedBy]

/-- **The usages that are located in a dump of whole lines and one that starts over in a file
are, symbol by symbol, those in the first followed by those in the second.** -/
theorem locateTree_append (contextTokens : Nat) (symbols : NameSet) (path : Path)
    (source before after : String) (whole : WholeLines before.toList)
    (startsOver : StartsOver (parseDump after)) (startsInFile : StartsInFile (parseDump after)) :
    ∃ first second,
      locateTree contextTokens symbols ⟨path, source, some before⟩ = .ok first ∧
      locateTree contextTokens symbols ⟨path, source, some after⟩ = .ok second ∧
      first.map (·.1) = symbols.toList ∧ second.map (·.1) = symbols.toList ∧
      locateTree contextTokens symbols ⟨path, source, some (before ++ after)⟩ =
        .ok (first.followedBy second) := by
  refine ⟨_, _, locateTree_of_dump _ contextTokens rfl symbols,
    locateTree_of_dump _ contextTokens rfl symbols, ?_, ?_, ?_⟩
  · simp [Function.comp_def]
  · simp [Function.comp_def]
  · rw [locateTree_of_dump _ contextTokens rfl]
    simp only [UsageMap.followedBy, List.zipWith_map, List.zipWith_self,
      sitesOf_append whole startsOver startsInFile, usageAmong_append]
    rfl

/-- A dump of a test that ends in a call whose callee is still to come. -/
def openCall : String :=
  "VarDecl 0x1 <t.cpp:3:1> 'std::f'\nCallExpr 0x2 <line:4:1>\n"

/-- A dump of the same test that refers to a function in another line. -/
def laterReference : String :=
  "DeclRefExpr 0x3 <<invalid sloc>, <invalid sloc>> Function 0x4 'f'
DeclRefExpr 0x5 <t.cpp:9:1> Function 0x4 'f'"

theorem locateTree_append_openCall :
    WholeLines openCall.toList ∧ StartsOver (parseDump laterReference) ∧
      StartsInFile (parseDump laterReference) ∧
      ∃ first second,
        locateTree 10 (.ofList ["f"]) ⟨⟨"test/t.cpp"⟩, "", some openCall⟩ = .ok first ∧
        locateTree 10 (.ofList ["f"]) ⟨⟨"test/t.cpp"⟩, "", some laterReference⟩ = .ok second ∧
        first.map (·.1) = ["f"] ∧ second.map (·.1) = ["f"] ∧
        locateTree 10 (.ofList ["f"]) ⟨⟨"test/t.cpp"⟩, "", some (openCall ++ laterReference)⟩ =
          .ok (first.followedBy second) := by
  have whole : WholeLines openCall.toList := by
    rw [openCall, String.toList_ofList]
    decide
  have startsOver : StartsOver (parseDump laterReference) := by
    rw [parseDump, laterReference, String.toList_ofList]
    decide
  have startsInFile : StartsInFile (parseDump laterReference) := by
    rw [parseDump, laterReference, String.toList_ofList]
    decide
  exact ⟨whole, startsOver, startsInFile,
    locateTree_append 10 (.ofList ["f"]) ⟨"test/t.cpp"⟩ "" openCall laterReference whole startsOver
      startsInFile⟩

end ExportAudit.Usage
