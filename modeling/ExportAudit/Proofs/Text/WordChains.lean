import ExportAudit.Proofs.Text.Runs
import ExportAudit.Text.Qualified
import Mathlib.Data.List.SplitBy

/-!
# The chains of a text

A text falls into pieces: the maximal runs of word characters, and the maximal runs of
other characters that separate them.  Two neighbouring runs belong to one chain if exactly
a double colon separates them, so the chains are what is left when the pieces are cut at
every other separator.  Nothing is said about where a chain may stand.

**Every text with a word in it is a gap, a chain, and a rest that does not go on with the
chain**, and its chains are that chain and the chains of the rest.  A double colon at the
very end of a text leads nowhere and belongs to no chain.
-/

namespace ExportAudit.Text

set_option autoImplicit false

/-! ## Pieces and chains -/

/-- A nonempty run of word characters. -/
def IsRun (run : List Char) : Prop :=
  run ≠ [] ∧ ∀ c ∈ run, isWord c = true

instance (run : List Char) : Decidable (IsRun run) :=
  decidable_of_iff (run ≠ [] ∧ run.all isWord = true) (by simp [IsRun])

/-- The pieces of a text: neighbouring characters share a piece if both or neither of
them are word characters. -/
def pieces (text : List Char) : List (List Char) :=
  text.splitBy fun a b => isWord a == isWord b

/-- A piece of word characters. -/
def isWordPiece (piece : List Char) : Bool :=
  piece.all isWord

/-- A piece that separates chains: a gap other than a double colon. -/
def isBreak (piece : List Char) : Bool :=
  !isWordPiece piece && piece != separator

/-- The chains of some pieces, each the list of its runs. -/
def chainsOf (pieces : List (List Char)) : List (List (List Char)) :=
  ((pieces.splitOnP isBreak).map (·.filter isWordPiece)).filter (!·.isEmpty)

/-- The chains of a text. -/
def wordChains (text : List Char) : List (List (List Char)) :=
  chainsOf (pieces text)

example : wordChains "::a::b:::c a::d::".toList = [["a", "b"], ["c"], ["a", "d"]].map
    (·.map String.toList) := by decide

variable {run gap rest : List Char} {runs : List (List Char)}

/-! ## Cutting a text into pieces -/

/-- **A run of one kind that stops is the first piece.** -/
theorem pieces_append {piece : List Char} {kind : Bool} (nonempty : piece ≠ [])
    (all : ∀ c ∈ piece, isWord c = kind) (stops : ∀ c ∈ rest.head?, isWord c ≠ kind) :
    pieces (piece ++ rest) = piece :: pieces rest := by
  have apart : ∀ c ∈ piece.getLast?, ∀ d ∈ rest.head?, (isWord c == isWord d) = false := by
    intro c last d head
    rw [all c (List.mem_of_getLast? last), beq_eq_false_iff_ne]
    exact (stops d head).symm
  have alike : piece.IsChain fun a b => (isWord a == isWord b) = true := by
    refine List.Pairwise.isChain (List.pairwise_of_forall_mem_list fun a first b second => ?_)
    rw [all a first, all b second, beq_self_eq_true]
  rw [pieces, List.splitBy_append apart, List.splitBy_of_isChain nonempty alike]
  rfl

theorem pieces_run (isRun : IsRun run) (stops : Stops isWord rest) :
    pieces (run ++ rest) = run :: pieces rest := by
  refine pieces_append isRun.1 isRun.2 fun c head => ?_
  simp [stops c head]

theorem pieces_gap (nonempty : gap ≠ []) (all : ∀ c ∈ gap, isWord c = false)
    (stops : Stops (!isWord ·) rest) : pieces (gap ++ rest) = gap :: pieces rest := by
  refine pieces_append nonempty all fun c head => ?_
  simpa using stops c head

/-! ## Cutting pieces into chains -/

theorem isWordPiece_run (isRun : IsRun run) : isWordPiece run = true :=
  List.all_eq_true.2 isRun.2

theorem isWordPiece_gap (nonempty : gap ≠ []) (all : ∀ c ∈ gap, isWord c = false) :
    isWordPiece gap = false := by
  obtain ⟨c, gap, rfl⟩ := List.exists_cons_of_ne_nil nonempty
  simp [isWordPiece, all c List.mem_cons_self]

theorem chainsOf_nil : chainsOf [] = [] := by
  simp [chainsOf]

/-- A gap in front of some pieces is part of no chain, whether it is a double colon or not. -/
theorem chainsOf_gap {piece : List Char} (notWord : isWordPiece piece = false)
    (more : List (List Char)) : chainsOf (piece :: more) = chainsOf more := by
  rw [chainsOf, List.splitOnP_cons_eq_if_modifyHead]
  split
  · rfl
  · obtain ⟨first, others, split⟩ := List.exists_cons_of_ne_nil (List.splitOnP_ne_nil isBreak more)
    simp [chainsOf, split, notWord]

/-- The pieces of a chain behind its first run. -/
def linkPieces (runs : List (List Char)) : List (List Char) :=
  runs.flatMap fun run => [separator, run]

/-- Pieces that do not go on with a chain: they begin with a gap other than a double
colon, or hold nothing, or a double colon and nothing behind it. -/
def PiecesEndChain (more : List (List Char)) : Prop :=
  more = [] ∨ more = [separator] ∨ ∃ piece behind, more = piece :: behind ∧ isBreak piece = true

theorem filter_linkPieces (all : ∀ run ∈ runs, IsRun run) :
    (linkPieces runs).filter isWordPiece = runs := by
  induction runs with
  | nil => rfl
  | cons run runs ih =>
    have isSeparator : isWordPiece separator = false := by decide
    have first := isWordPiece_run (all run List.mem_cons_self)
    have later := ih fun other member => all other (List.mem_cons_of_mem run member)
    rw [linkPieces, List.flatMap_cons, ← linkPieces, List.filter_append, later]
    simp [isSeparator, first]

theorem isBreak_linkPieces (all : ∀ run ∈ runs, IsRun run) :
    ∀ piece ∈ linkPieces runs, isBreak piece = false := by
  intro piece member
  obtain ⟨run, listed, member⟩ := List.mem_flatMap.1 member
  rcases List.mem_cons.1 member with rfl | member
  · decide
  · rw [List.mem_singleton.1 member, isBreak, isWordPiece_run (all run listed)]
    rfl

/-- **Pieces that begin with a chain are cut behind it.** -/
theorem chainsOf_chain (isRun : IsRun run) (all : ∀ run ∈ runs, IsRun run)
    {more : List (List Char)} (ends : PiecesEndChain more) :
    chainsOf (run :: (linkPieces runs ++ more)) = (run :: runs) :: chainsOf more := by
  have noBreak : ∀ piece ∈ run :: linkPieces runs, isBreak piece = false := by
    intro piece member
    rcases List.mem_cons.1 member with rfl | member
    · rw [isBreak, isWordPiece_run isRun]
      rfl
    · exact isBreak_linkPieces all piece member
  have words : (run :: linkPieces runs).filter isWordPiece = run :: runs := by
    rw [List.filter_cons_of_pos (isWordPiece_run isRun), filter_linkPieces all]
  rw [← List.cons_append]
  rcases ends with rfl | rfl | ⟨piece, behind, rfl, breaks⟩
  · rw [List.append_nil, chainsOf_nil, chainsOf, List.splitOnP_eq_singleton noBreak]
    simp only [List.map_cons, List.map_nil, words]
    rfl
  · have isSeparator : isBreak separator = false := by decide
    have noBreak : ∀ piece ∈ run :: linkPieces runs ++ [separator], isBreak piece = false := by
      intro piece member
      rcases List.mem_append.1 member with member | member
      · exact noBreak piece member
      · rw [List.mem_singleton.1 member, isSeparator]
    rw [chainsOf_gap (by decide), chainsOf_nil, chainsOf, List.splitOnP_eq_singleton noBreak]
    have noWord : [separator].filter isWordPiece = [] := by decide
    simp only [List.map_cons, List.map_nil, List.filter_append, words, noWord, List.append_nil]
    rfl
  · have notWord : isWordPiece piece = false := by
      simp only [isBreak, Bool.and_eq_true, Bool.not_eq_true'] at breaks
      exact breaks.1
    rw [chainsOf_gap notWord, chainsOf,
      List.splitOnP_append_cons_of_forall_mem noBreak piece breaks behind, List.map_cons, words]
    rfl

/-! ## Chains in a text -/

/-- The text of a chain behind its first run. -/
def links (runs : List (List Char)) : List Char :=
  runs.flatMap (separator ++ ·)

/-- A text that does not go on with a chain. -/
structure EndsChain (rest : List Char) : Prop where
  stops : Stops isWord rest
  leads : ∀ {behind}, after? separator rest = some behind → Stops isWord behind

theorem links_cons (run : List Char) (runs : List (List Char)) (rest : List Char) :
    links (run :: runs) ++ rest = separator ++ (run ++ (links runs ++ rest)) := by
  simp [links]

theorem links_append (first second : List (List Char)) :
    links (first ++ second) = links first ++ links second :=
  List.flatMap_append

theorem EndsChain.stops_links (ends : EndsChain rest) (runs : List (List Char)) :
    Stops isWord (links runs ++ rest) := by
  cases runs with
  | nil => exact ends.stops
  | cons run runs => exact stops_cons.2 (by decide)

theorem IsRun.stops_not (isRun : IsRun run) (rest : List Char) :
    Stops (!isWord ·) (run ++ rest) := by
  obtain ⟨c, run, rfl⟩ := List.exists_cons_of_ne_nil isRun.1
  exact stops_cons.2 (by simp [isRun.2 c List.mem_cons_self])

theorem isWord_of_mem_separator {c : Char} (member : c ∈ separator) : isWord c = false := by
  have isColon : c = ':' := by simpa [separator] using member
  rw [isColon]
  decide

/-- The pieces of a chain and a rest are its runs, the separators and the pieces of the rest. -/
theorem pieces_chain (isRun : IsRun run) (all : ∀ run ∈ runs, IsRun run) (ends : EndsChain rest) :
    pieces (run ++ (links runs ++ rest)) = run :: (linkPieces runs ++ pieces rest) := by
  induction runs generalizing run with
  | nil => exact pieces_run isRun ends.stops
  | cons next runs ih =>
    have isNext := all next List.mem_cons_self
    rw [pieces_run isRun (ends.stops_links _), links_cons,
      pieces_gap (by decide) (fun _ => isWord_of_mem_separator) (isNext.stops_not _),
      ih isNext fun other member => all other (List.mem_cons_of_mem next member)]
    rfl

/-- A rest that does not go on with a chain has pieces that do not. -/
theorem EndsChain.pieces (ends : EndsChain rest) : PiecesEndChain (pieces rest) := by
  cases rest with
  | nil => exact .inl rfl
  | cons c rest =>
    have notWord : isWord c = false := stops_cons.1 ends.stops
    -- the gap at the head, and what is behind it
    let gap := (c :: rest).takeWhile (!isWord ·)
    let behind := (c :: rest).dropWhile (!isWord ·)
    have whole : gap ++ behind = c :: rest := List.takeWhile_append_dropWhile
    have nonempty : gap ≠ [] := by simp [gap, notWord]
    have all : ∀ d ∈ gap, isWord d = false := fun d member => by
      simpa using List.mem_takeWhile_imp member
    have stops : Stops (!isWord ·) behind := stops_dropWhile _ _
    have isGap := isWordPiece_gap nonempty all
    rw [← whole, pieces_gap nonempty all stops]
    by_cases isSeparator : gap = separator
    · have noWord : Stops isWord behind := ends.leads (by rw [← whole, isSeparator, after?_append])
      have isEmpty : behind = [] := by
        cases isBehind : behind with
        | nil => rfl
        | cons d behind' =>
          rw [isBehind, stops_cons] at stops noWord
          simp [noWord] at stops
      rw [isEmpty, isSeparator]
      exact .inr (.inl rfl)
    · exact .inr (.inr ⟨gap, _, rfl, by simp [isBreak, isGap, isSeparator]⟩)

/-- **The chains of a text are its first chain and the chains of what follows it.** -/
theorem wordChains_chain (all : ∀ c ∈ gap, isWord c = false) (isRun : IsRun run)
    (allRuns : ∀ run ∈ runs, IsRun run) (ends : EndsChain rest) :
    wordChains (gap ++ (run ++ (links runs ++ rest))) = (run :: runs) :: wordChains rest := by
  have chain : chainsOf (pieces (run ++ (links runs ++ rest))) =
      (run :: runs) :: chainsOf (pieces rest) := by
    rw [pieces_chain isRun allRuns ends, chainsOf_chain isRun allRuns ends.pieces]
  by_cases empty : gap = []
  · rw [empty, List.nil_append]
    exact chain
  · rw [wordChains, pieces_gap empty all (isRun.stops_not _),
      chainsOf_gap (isWordPiece_gap empty all)]
    exact chain

/-- A text without words has no chains. -/
theorem wordChains_gap (all : ∀ c ∈ gap, isWord c = false) : wordChains gap = [] := by
  by_cases empty : gap = []
  · rw [empty]
    exact chainsOf_nil
  · have one := pieces_gap empty all stops_nil
    rw [List.append_nil] at one
    rw [wordChains, one, chainsOf_gap (isWordPiece_gap empty all)]
    exact chainsOf_nil

/-! ## Finding the first chain -/

/-- The run of word characters at the head of a text. -/
theorem exists_run {c : Char} (word : isWord c = true) (text : List Char) :
    ∃ run rest, c :: text = run ++ rest ∧ IsRun run ∧ Stops isWord rest := by
  refine ⟨(c :: text).takeWhile isWord, (c :: text).dropWhile isWord,
    List.takeWhile_append_dropWhile.symm, ⟨by simp [word], fun d member => ?_⟩,
    stops_dropWhile _ _⟩
  exact List.mem_takeWhile_imp member

/-- Behind a run, a text goes on with the chain for as long as it can. -/
theorem exists_links (text : List Char) (stops : Stops isWord text) :
    ∃ runs rest, text = links runs ++ rest ∧ (∀ run ∈ runs, IsRun run) ∧ EndsChain rest := by
  by_cases leads : ∃ c behind, after? separator text = some (c :: behind) ∧ isWord c = true
  · obtain ⟨c, behind, found, word⟩ := leads
    obtain ⟨run, rest, isBehind, isRun, restStops⟩ := exists_run word behind
    have isText : text = separator ++ (run ++ rest) := by
      rw [← isBehind]
      exact after?_eq_some_iff.1 found
    have shorter : rest.length < text.length := by
      rw [isText]
      simp [separator]
      omega
    obtain ⟨runs, last, rfl, all, ends⟩ := exists_links rest restStops
    refine ⟨run :: runs, last, by rw [isText, links_cons], ?_, ends⟩
    intro other member
    rcases List.mem_cons.1 member with rfl | member
    · exact isRun
    · exact all other member
  · refine ⟨[], text, rfl, by simp, stops, fun {behind} found => ?_⟩
    cases behind with
    | nil => exact stops_nil
    | cons c behind =>
      refine stops_cons.2 (Bool.eq_false_iff.2 fun word => leads ⟨c, behind, found, word⟩)
termination_by text.length

/-- **A text has no words, or it is a gap, a chain and a rest that does not go on with it.** -/
theorem exists_chain (text : List Char) :
    (∀ c ∈ text, isWord c = false) ∨
      ∃ gap run runs rest, text = gap ++ (run ++ (links runs ++ rest)) ∧
        (∀ c ∈ gap, isWord c = false) ∧ IsRun run ∧ (∀ run ∈ runs, IsRun run) ∧
        EndsChain rest := by
  have allGap : ∀ c ∈ text.takeWhile (!isWord ·), isWord c = false := fun c member => by
    simpa using List.mem_takeWhile_imp member
  have whole := List.takeWhile_append_dropWhile (p := (!isWord ·)) (l := text)
  have stops := stops_dropWhile (!isWord ·) text
  cases behind : text.dropWhile (!isWord ·) with
  | nil =>
    rw [behind, List.append_nil] at whole
    exact .inl (whole ▸ allGap)
  | cons c more =>
    rw [behind, stops_cons] at stops
    obtain ⟨run, afterRun, isMore, isRun, runStops⟩ := exists_run (by simpa using stops) more
    obtain ⟨runs, rest, rfl, all, ends⟩ := exists_links afterRun runStops
    rw [behind, isMore] at whole
    exact .inr ⟨_, run, runs, rest, whole.symm, allGap, isRun, all, ends⟩

end ExportAudit.Text
