import ExportAudit.Proofs.Text.WordChains
import ExportAudit.Proofs.Usage.QualifiedNames
import Mathlib.Data.List.Basic

/-!
# Counting full names counts chains

The fast strategy goes over a text from left to right, and behind a full name it goes on
where the name ends.  The chains of a text are found in another way, by cutting it into
runs of word characters.  **The strategy counts the chains in which the namespace stands
somewhere in front of the symbol**, each of them once.

A full name begins at a word boundary, so at the first character of a run, and the run is
the namespace.  What is matched behind it never leaves the chain.  It ends at the last
place of the chain where the symbol stands, so nothing of that chain is left that could
count again.

Namespace and symbol are runs themselves.  A namespace of several segments begins and ends
inside a chain like any other text, and then chains say nothing about it.
-/

namespace ExportAudit.Usage

set_option autoImplicit false

open ExportAudit.Text

/-! ## Chains that name a symbol in full -/

/-- A chain holds the namespace, and the symbol somewhere behind it. -/
def Names (qualifier symbol : List Char) (chain : List (List Char)) : Prop :=
  ∃ i j : Nat, i < j ∧ chain[i]? = some qualifier ∧ chain[j]? = some symbol

variable {qualifier symbol : List Char}

theorem Names.mem {chain : List (List Char)} (names : Names qualifier symbol chain) :
    symbol ∈ chain := by
  obtain ⟨-, j, -, -, found⟩ := names
  exact List.mem_of_getElem? found

theorem not_names_nil : ¬ Names qualifier symbol [] := fun names => by
  cases names.mem

/-- A chain names the symbol from its first run on, or behind it. -/
theorem names_cons {run : List Char} {runs : List (List Char)} :
    Names qualifier symbol (run :: runs) ↔
      (run = qualifier ∧ symbol ∈ runs) ∨ Names qualifier symbol runs := by
  constructor
  · rintro ⟨i, j, less, atQualifier, atSymbol⟩
    obtain ⟨j, rfl⟩ := Nat.exists_eq_succ_of_ne_zero (Nat.ne_of_gt (Nat.zero_lt_of_lt less))
    rw [List.getElem?_cons_succ] at atSymbol
    cases i with
    | zero => exact .inl ⟨Option.some.inj atQualifier, List.mem_of_getElem? atSymbol⟩
    | succ i =>
      rw [List.getElem?_cons_succ] at atQualifier
      exact .inr ⟨i, j, Nat.lt_of_succ_lt_succ less, atQualifier, atSymbol⟩
  · rintro (⟨rfl, member⟩ | ⟨i, j, less, atQualifier, atSymbol⟩)
    · obtain ⟨j, found⟩ := List.mem_iff_getElem?.1 member
      exact ⟨0, j + 1, Nat.succ_pos j, rfl, found⟩
    · exact ⟨i + 1, j + 1, Nat.succ_lt_succ less, atQualifier, atSymbol⟩

instance decidableNames (qualifier symbol : List Char) :
    (chain : List (List Char)) → Decidable (Names qualifier symbol chain)
  | [] => isFalse not_names_nil
  | _ :: runs =>
    have := decidableNames qualifier symbol runs
    decidable_of_iff _ names_cons.symm

/-- The runs behind the last place where the symbol stands. -/
def behindLast? (symbol : List Char) : List (List Char) → Option (List (List Char))
  | [] => none
  | run :: runs => (behindLast? symbol runs).or (if run = symbol then some runs else none)

theorem behindLast?_cons (symbol run : List Char) (runs : List (List Char)) :
    behindLast? symbol (run :: runs) =
      (behindLast? symbol runs).or (if run = symbol then some runs else none) := rfl

theorem behindLast?_eq_none_iff {runs : List (List Char)} :
    behindLast? symbol runs = none ↔ symbol ∉ runs := by
  induction runs with
  | nil => simp [behindLast?]
  | cons run runs ih =>
    rw [behindLast?, Option.or_eq_none_iff, ih, List.mem_cons, not_or, and_comm]
    refine and_congr_left fun _ => ?_
    by_cases same : run = symbol
    · simp [same]
    · simp [same, Ne.symm same]

/-- **What is behind the last place holds the symbol no more.** -/
theorem exists_front_of_behindLast? {runs behind : List (List Char)}
    (found : behindLast? symbol runs = some behind) :
    ∃ front, runs = front ++ symbol :: behind ∧ symbol ∉ behind := by
  induction runs with
  | nil => cases found
  | cons run runs ih =>
    rw [behindLast?] at found
    cases later : behindLast? symbol runs with
    | some other =>
      rw [later, Option.some_or] at found
      obtain ⟨front, rfl, last⟩ := ih (later.trans found)
      exact ⟨run :: front, rfl, last⟩
    | none =>
      rw [later, Option.none_or] at found
      split at found
      · next same =>
        cases found
        exact ⟨[], by rw [same]; rfl, behindLast?_eq_none_iff.1 later⟩
      · cases found

/-! ## One position of a chain -/

variable {run rest : List Char} {runs : List (List Char)}

/-- A run that is not a given one goes on behind it with a word character, or differs. -/
theorem after?_run_ne {lead behind : List Char} (isLead : IsRun lead) (isRun : IsRun run)
    (stops : Stops isWord rest) (other : run ≠ lead)
    (starts : after? lead (run ++ rest) = some behind) :
    ∃ c more, behind = c :: more ∧ isWord c = true := by
  obtain ⟨more, whole⟩ := prefix_of_after? isLead.2 stops starts
  rw [← whole, List.append_assoc, after?_append] at starts
  cases more with
  | nil => exact absurd (by rw [← whole, List.append_nil]) other
  | cons c more =>
    refine ⟨c, more ++ rest, (Option.some.inj starts).symm, isRun.2 c ?_⟩
    rw [← whole]
    simp

theorem wordAt_getLast? (isRun : IsRun run) (before : Option Char) :
    wordAt (run.getLast?.or before) = true := by
  rw [List.getLast?_eq_some_getLast isRun.1, Option.some_or]
  exact isRun.2 _ (List.getLast_mem isRun.1)

theorem wordAt_head? (stops : Stops isWord rest) : wordAt rest.head? = false := by
  cases rest with
  | nil => rfl
  | cons c rest => exact stops_cons.1 stops

/-- **A segment is the symbol exactly if its run is.** -/
theorem afterSymbol?_run (isSymbol : IsRun symbol) (isRun : IsRun run)
    (stops : Stops isWord rest) :
    afterSymbol? symbol (run ++ rest) = if run = symbol then some rest else none := by
  have lastWord : wordAt (symbol.getLast?.or (some ':')) = true := wordAt_getLast? isSymbol _
  split
  · next same =>
    have boundary : isBoundary (symbol.getLast?.or (some ':')) rest.head? = true := by
      rw [isBoundary, lastWord, wordAt_head? stops]
      rfl
    rw [same, afterSymbol?, after?_append]
    exact if_pos boundary
  · next other =>
    rw [afterSymbol?]
    cases starts : after? symbol (run ++ rest) with
    | none => rfl
    | some behind =>
      obtain ⟨c, more, rfl, word⟩ := after?_run_ne isSymbol isRun stops other starts
      have noBoundary : ¬ isBoundary (symbol.getLast?.or (some ':')) (c :: more).head? = true := by
        rw [isBoundary, lastWord, List.head?_cons, wordAt, word]
        decide
      exact if_neg noBoundary

/-- No segment begins with a character that is no word character. -/
theorem afterSymbol?_stops (isSymbol : IsRun symbol) (stops : Stops isWord rest) :
    afterSymbol? symbol rest = none := by
  rw [afterSymbol?]
  cases starts : after? symbol rest with
  | none => rfl
  | some behind =>
    have starts : after? symbol ([] ++ rest) = some behind := starts
    exact absurd (List.prefix_nil.1 (prefix_of_after? isSymbol.2 stops starts)) isSymbol.1

theorem segmentStarts_stops (stops : Stops isWord rest) : segmentStarts false rest = [] := by
  cases rest with
  | nil => rfl
  | cons c rest =>
    cases found : after? separator (c :: rest) with
    | none => exact segmentStarts_end false (stops_cons.1 stops) found
    | some behind =>
      rw [after?_eq_some_iff.1 found, segmentStarts_separator]
      rfl

/-- Behind a chain no segment starts that could be the symbol. -/
theorem findSome?_segmentStarts_ends (isSymbol : IsRun symbol) (ends : EndsChain rest) :
    (segmentStarts true rest).reverse.findSome? (afterSymbol? symbol) = none := by
  cases rest with
  | nil => rfl
  | cons c rest =>
    cases found : after? separator (c :: rest) with
    | none =>
      rw [segmentStarts_end true (stops_cons.1 ends.stops) found]
      rfl
    | some behind =>
      have stops := ends.leads found
      rw [after?_eq_some_iff.1 found, segmentStarts_separator, if_pos rfl,
        segmentStarts_stops stops]
      simp [afterSymbol?_stops isSymbol stops]

/-- **A name ends behind the last run of its chain that is the symbol.** -/
theorem nameEnd?_chain (isSymbol : IsRun symbol) (isRun : IsRun run)
    (all : ∀ run ∈ runs, IsRun run) (ends : EndsChain rest) :
    nameEnd? symbol (run ++ (links runs ++ rest)) =
      (behindLast? symbol (run :: runs)).map (links · ++ rest) := by
  induction runs generalizing run with
  | nil =>
    rw [nameEnd?, segmentStarts_run false isRun.1 isRun.2, List.reverse_cons,
      List.findSome?_append, links, List.flatMap_nil, List.nil_append,
      findSome?_segmentStarts_ends isSymbol ends, Option.none_or, List.findSome?_singleton,
      afterSymbol?_run isSymbol isRun ends.stops, behindLast?, behindLast?, Option.none_or]
    split <;> rfl
  | cons next runs ih =>
    have isNext := all next List.mem_cons_self
    have later := ih isNext fun other member => all other (List.mem_cons_of_mem next member)
    rw [nameEnd?, segmentStarts_run false isRun.1 isRun.2, List.reverse_cons,
      List.findSome?_append, List.findSome?_singleton,
      afterSymbol?_run isSymbol isRun (ends.stops_links _), links_cons, segmentStarts_separator,
      if_pos rfl, ← nameEnd?, later, behindLast?_cons symbol run]
    cases behindLast? symbol (next :: runs) with
    | some behind => rfl
    | none =>
      rw [Option.map_none, Option.none_or, Option.none_or]
      split
      · rw [Option.map_some, links_cons]
      · rfl

/-- What stands at the namespace of a full name: the symbol ends it behind the last run
that is the symbol, and nothing is named if no run behind the namespace is. -/
theorem qualifiedAt?_qualifier (isQualifier : IsRun qualifier) (isSymbol : IsRun symbol)
    (all : ∀ run ∈ runs, IsRun run) (ends : EndsChain rest) {before : Option Char}
    (outside : wordAt before = false) :
    qualifiedAt? qualifier symbol before (qualifier ++ (links runs ++ rest)) =
      (behindLast? symbol runs).map fun behind =>
        ((), (qualifier ++ (links runs ++ rest)).length - (links behind ++ rest).length) := by
  have boundary : isBoundary before (qualifier ++ (links runs ++ rest)).head? = true := by
    obtain ⟨c, more, rfl⟩ := List.exists_cons_of_ne_nil isQualifier.1
    rw [isBoundary, outside, List.cons_append, List.head?_cons, wordAt,
      isQualifier.2 c List.mem_cons_self]
    decide
  have leads : after? (qualifier ++ separator) (qualifier ++ (links runs ++ rest)) =
      after? separator (links runs ++ rest) := by
    cases found : after? separator (links runs ++ rest) with
    | some behind =>
      rw [after?_eq_some_iff.1 found, ← List.append_assoc, after?_append]
    | none =>
      cases found' : after? (qualifier ++ separator) (qualifier ++ (links runs ++ rest)) with
      | none => rfl
      | some behind =>
        rw [after?_eq_some_iff, List.append_assoc, List.append_cancel_left_eq] at found'
        rw [found', after?_append] at found
        cases found
  rw [qualifiedAt?_eq, if_pos boundary, leads]
  cases runs with
  | nil =>
    rw [links, List.flatMap_nil, List.nil_append, behindLast?, Option.map_none]
    cases found : after? separator rest with
    | none => rfl
    | some behind =>
      have stops := ends.leads found
      rw [Option.bind_some, nameEnd?, segmentStarts_stops stops]
      simp [afterSymbol?_stops isSymbol stops]
  | cons next runs =>
    have isNext := all next List.mem_cons_self
    rw [links_cons, after?_append, Option.bind_some, nameEnd?_chain isSymbol isNext
      (fun other member => all other (List.mem_cons_of_mem next member)) ends, Option.map_map]
    rfl

/-- A full name begins with the namespace. -/
theorem qualifiedAt?_other (isQualifier : IsRun qualifier) (isRun : IsRun run)
    (other : run ≠ qualifier) (stops : Stops isWord rest) (before : Option Char) :
    qualifiedAt? qualifier symbol before (run ++ rest) = none := by
  have noLead : after? (qualifier ++ separator) (run ++ rest) = none := by
    cases found : after? (qualifier ++ separator) (run ++ rest) with
    | none => rfl
    | some behind =>
      rw [after?_eq_some_iff, List.append_assoc] at found
      have starts : after? qualifier (run ++ rest) = some (separator ++ behind) :=
        after?_eq_some_iff.2 found
      obtain ⟨c, more, isColon, word⟩ := after?_run_ne isQualifier isRun stops other starts
      rw [(List.cons.inj isColon).1.symm] at word
      exact absurd word (by decide)
  rw [qualifiedAt?_eq, noLead]
  split <;> rfl

/-! ## Passing over what names nothing -/

/-- Where no word begins, no full name does. -/
theorem qualifiedAt?_gap (isQualifier : IsRun qualifier) {c : Char} (notWord : isWord c = false)
    (before : Option Char) (rest : List Char) :
    qualifiedAt? qualifier symbol before (c :: rest) = none := by
  have noLead : after? (qualifier ++ separator) (c :: rest) = none := by
    obtain ⟨d, more, rfl⟩ := List.exists_cons_of_ne_nil isQualifier.1
    have other : d ≠ c := by
      rintro rfl
      rw [isQualifier.2 d List.mem_cons_self] at notWord
      cases notWord
    exact if_neg other
  rw [qualifiedAt?_eq, noLead]
  split <;> rfl

theorem passes_gap (isQualifier : IsRun qualifier) {gap : List Char}
    (all : ∀ c ∈ gap, isWord c = false) (rest : List Char) :
    Passes (qualifiedAt? qualifier symbol) gap rest := by
  intro c back behind before
  exact qualifiedAt?_gap isQualifier (all c (behind.mem List.mem_cons_self)) before _

/-- Inside a run no full name begins. -/
theorem allFrom_inside (all : ∀ c ∈ run, isWord c = true) {before : Option Char}
    (inside : wordAt before = true) (rest : List Char) :
    allFrom (qualifiedAt? qualifier symbol) 0 before (run ++ rest) =
      allFrom (qualifiedAt? qualifier symbol) 0 (run.getLast?.or before) rest := by
  induction run generalizing before with
  | nil => rfl
  | cons c run ih =>
    have word := all c List.mem_cons_self
    have nothing : qualifiedAt? qualifier symbol before (c :: (run ++ rest)) = none := by
      rw [qualifiedAt?_eq, if_neg]
      rw [isBoundary, inside, List.head?_cons, wordAt, word]
      decide
    have stillInside : wordAt (some c) = true := word
    rw [List.cons_append, allFrom, nothing]
    simp only
    rw [ih (fun d member => all d (List.mem_cons_of_mem c member)) stillInside]
    simp [List.getLast?_cons]

/-- A run at whose head nothing is named is passed over. -/
theorem allFrom_run (isRun : IsRun run) {before : Option Char}
    (nothing : qualifiedAt? qualifier symbol before (run ++ rest) = none) :
    allFrom (qualifiedAt? qualifier symbol) 0 before (run ++ rest) =
      allFrom (qualifiedAt? qualifier symbol) 0 run.getLast? rest := by
  obtain ⟨c, run, rfl⟩ := List.exists_cons_of_ne_nil isRun.1
  rw [List.cons_append] at nothing ⊢
  have inside : wordAt (some c) = true := isRun.2 c List.mem_cons_self
  rw [allFrom, nothing]
  simp only
  rw [allFrom_inside (fun d member => isRun.2 d (List.mem_cons_of_mem c member)) inside]
  simp [List.getLast?_cons]

/-- Where no word begins, a search does not look back. -/
theorem allFrom_stops (isQualifier : IsRun qualifier) (stops : Stops isWord rest)
    (before : Option Char) :
    allFrom (qualifiedAt? qualifier symbol) 0 before rest =
      all (qualifiedAt? qualifier symbol) rest := by
  cases rest with
  | nil => rfl
  | cons c rest =>
    have notWord := stops_cons.1 stops
    rw [all, allFrom, allFrom, qualifiedAt?_gap isQualifier notWord,
      qualifiedAt?_gap isQualifier notWord]

/-! ## One chain -/

/-- How often a search over a chain and the rest behind it answers. -/
def ChainCounts (qualifier symbol rest : List Char) (runs : List (List Char))
    (answers : List Unit) : Prop :=
  answers.length = (if Names qualifier symbol runs then 1 else 0) +
    (all (qualifiedAt? qualifier symbol) rest).length

/-- Behind a separator the links of a chain are a chain of their own. -/
theorem chainCounts_links (isQualifier : IsRun qualifier) (ends : EndsChain rest)
    (chainCounts : ∀ next others, runs = next :: others → ∀ before, wordAt before = false →
      ChainCounts qualifier symbol rest runs
        (allFrom (qualifiedAt? qualifier symbol) 0 before (next ++ (links others ++ rest))))
    (before : Option Char) :
    ChainCounts qualifier symbol rest runs
      (allFrom (qualifiedAt? qualifier symbol) 0 before (links runs ++ rest)) := by
  cases runs with
  | nil =>
    rw [links, List.flatMap_nil, List.nil_append, allFrom_stops isQualifier ends.stops,
      ChainCounts, if_neg not_names_nil, Nat.zero_add]
  | cons next others =>
    rw [links_cons,
      allFrom_passes (passes_gap isQualifier (fun _ => isWord_of_mem_separator) _)]
    exact chainCounts next others rfl _ rfl

/-- **A chain counts once if it names the symbol, and not at all otherwise.** -/
theorem chainCounts_chain (isQualifier : IsRun qualifier) (isSymbol : IsRun symbol)
    (ends : EndsChain rest) {run : List Char} {runs : List (List Char)} (isRun : IsRun run)
    (all : ∀ run ∈ runs, IsRun run) {before : Option Char} (outside : wordAt before = false) :
    ChainCounts qualifier symbol rest (run :: runs)
      (allFrom (qualifiedAt? qualifier symbol) 0 before (run ++ (links runs ++ rest))) := by
  -- behind an answer, or behind the first run, the search goes on with a later part of the chain
  have later : ∀ front behind, runs = front ++ behind → ∀ before,
      ChainCounts qualifier symbol rest behind
        (allFrom (qualifiedAt? qualifier symbol) 0 before (links behind ++ rest)) := by
    intro front behind isRuns
    refine chainCounts_links isQualifier ends fun next others isBehind before outside => ?_
    rw [isBehind] at isRuns ⊢
    have shorter : others.length < runs.length := by
      rw [isRuns, List.length_append, List.length_cons]
      omega
    have isNext : IsRun next := all next (by simp [isRuns])
    exact chainCounts_chain isQualifier isSymbol ends isNext
      (fun other member => all other (by simp [isRuns, member])) outside
  by_cases named : run = qualifier ∧ symbol ∈ runs
  · have counts := names_cons.2 (.inl named)
    obtain ⟨rfl, member⟩ := named
    obtain ⟨behind, found⟩ := Option.ne_none_iff_exists'.1
      fun none => behindLast?_eq_none_iff.1 none member
    obtain ⟨front, isRuns, last⟩ := exists_front_of_behindLast? found
    have regrouped : runs = (front ++ [symbol]) ++ behind := by simp [isRuns]
    have isText : run ++ (links runs ++ rest) =
        run ++ links (front ++ [symbol]) ++ (links behind ++ rest) := by
      rw [regrouped, links_append]
      simp
    have answered := qualifiedAt?_qualifier isQualifier isSymbol all ends outside
    rw [found, Option.map_some, isText, length_front] at answered
    have nonempty : run ++ links (front ++ [symbol]) ≠ [] :=
      List.append_ne_nil_of_left_ne_nil isQualifier.1 _
    have counted := later _ behind regrouped (run ++ links (front ++ [symbol])).getLast?
    rw [ChainCounts, if_neg fun names => last names.mem, Nat.zero_add] at counted
    rw [ChainCounts, if_pos counts, isText, allFrom_found nonempty answered, List.length_cons,
      counted, Nat.add_comm]
  · have nothing : qualifiedAt? qualifier symbol before (run ++ (links runs ++ rest)) = none := by
      by_cases same : run = qualifier
      · have absent : symbol ∉ runs := fun member => named ⟨same, member⟩
        rw [same, qualifiedAt?_qualifier isQualifier isSymbol all ends outside,
          behindLast?_eq_none_iff.2 absent, Option.map_none]
      · exact qualifiedAt?_other isQualifier isRun same (ends.stops_links runs) before
    have counted := later [] runs rfl run.getLast?
    rw [ChainCounts] at counted ⊢
    rw [allFrom_run isRun nothing, counted]
    simp only [names_cons, named, false_or]
termination_by runs.length

/-! ## All chains -/

/-- **The answers of a search are as many as the chains that name the symbol.** -/
theorem length_all_qualifiedAt? (isQualifier : IsRun qualifier) (isSymbol : IsRun symbol)
    (text : List Char) :
    (all (qualifiedAt? qualifier symbol) text).length =
      (wordChains text).countP fun chain => decide (Names qualifier symbol chain) := by
  rcases exists_chain text with noWord | ⟨gap, run, runs, rest, isText, isGap, isRun, isRuns, ends⟩
  · have nothing : allFrom (qualifiedAt? qualifier symbol) 0 none (text ++ []) = [] :=
      allFrom_passes (passes_gap isQualifier noWord [])
    rw [List.append_nil] at nothing
    rw [wordChains_gap noWord, all, nothing]
    rfl
  · have shorter : rest.length < text.length := by
      have := List.length_pos_of_ne_nil isRun.1
      rw [isText]
      simp only [List.length_append]
      omega
    have outside : wordAt (gap.getLast?.or none) = false := by
      cases last : gap.getLast? with
      | none => rfl
      | some c => exact isGap c (List.mem_of_getLast? last)
    have counted := chainCounts_chain isQualifier isSymbol ends isRun isRuns outside
    rw [ChainCounts, length_all_qualifiedAt? isQualifier isSymbol rest] at counted
    rw [isText, all, allFrom_passes (passes_gap isQualifier isGap _), counted,
      wordChains_chain isGap isRun isRuns ends, List.countP_cons, Nat.add_comm]
    simp only [decide_eq_true_eq]
termination_by text.length

/-- **The fast strategy counts chains.**  For a namespace and a symbol that are runs of word
characters, the count of the symbol is the number of chains of the source in which the
namespace stands somewhere in front of the symbol. -/
theorem lookup_locateFast (qualifier source : String) (symbols : NameSet) (symbol : String)
    (member : symbol ∈ symbols) (isQualifier : IsRun qualifier.toList)
    (isSymbol : IsRun symbol.toList) :
    (locateFast qualifier symbols source).lookup symbol =
      some
        { count := (wordChains source.toList).countP fun chain =>
            decide (Names qualifier.toList symbol.toList chain) } := by
  rw [locateFast, List.lookup_graph _ member, countQualified,
    length_all_qualifiedAt? isQualifier isSymbol]

/-! ## Names that repeat -/

/-- A text with seven chains, of which the first three name `go` in `std`: through another
namespace, twice in one chain, and with three colons behind it. -/
def repeatedNames : String :=
  "std::a::go std::go::std::go ::std::go:::x go::std std:: go"

/-- A chain counts once, however often it repeats a name. -/
theorem lookup_locateFast_repeatedNames :
    (wordChains repeatedNames.toList).map (·.map String.ofList) =
        [["std", "a", "go"], ["std", "go", "std", "go"], ["std", "go"], ["x"], ["go", "std"],
          ["std"], ["go"]] ∧
      (locateFast "std" (.ofList ["go"]) repeatedNames).lookup "go" = some { count := 3 } := by
  refine ⟨by decide, ?_⟩
  rw [lookup_locateFast "std" repeatedNames (.ofList ["go"]) "go" (by decide) (by decide)
    (by decide)]
  decide

end ExportAudit.Usage
