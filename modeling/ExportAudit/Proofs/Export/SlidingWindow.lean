import ExportAudit.Export.Correlation
import Mathlib.Data.List.Infix
import Mathlib.Data.List.ReduceOption

/-!
# The buffer of recent imports is exact

A correlation forgets imports: whenever something is asked of it, it drops imports from
the front of its buffer, as long as the front is out of the window.  Beside it stands a
reading of the same requests that forgets nothing.  There the answer to a request and the
symbol that enters the catalog are read off all requests before it.

**The two never differ**, whatever the window, if the requests come in the order of their
lines.  The order is what makes forgetting from the front enough.  The buffer is in the
order of the lines, so an import that is out of the window has nothing in front of it
that is in the window, and what is out of the window once stays out of it.

The order also keeps every distance what it is called: **no request stands before an import
that is still in the buffer**, so no subtraction of indices is cut off at zero.
-/

namespace ExportAudit.Export

set_option autoImplicit false

/-! ## Requests -/

/-- What is asked of a correlation, at the index of a line. -/
inductive Request where
  /-- An import is to be remembered. -/
  | imports (index : Nat) (name : String) (line : Option Nat)
  /-- A shadow asks for the line of its import. -/
  | resolves (index : Nat) (name declaration : String)
  deriving DecidableEq, Repr

namespace Request

/-- The index of the line. -/
def index : Request → Nat
  | .imports index .. | .resolves index .. => index

/-- The import that a request makes. -/
def import? : Request → Option RecentImport
  | .imports index name line => some { index, name, line }
  | .resolves .. => none

/-- The request resolves a name. -/
def asksFor (name : String) : Request → Bool
  | .imports .. => false
  | .resolves _ other _ => other == name

end Request

/-- Requests that come in the order of their lines; several may share a line. -/
def InLineOrder (requests : List Request) : Prop :=
  requests.Pairwise fun earlier later => earlier.index ≤ later.index

instance (requests : List Request) : Decidable (InLineOrder requests) :=
  inferInstanceAs (Decidable (List.Pairwise _ _))

namespace Correlator

@[simp]
theorem symbols_evict (correlator : Correlator) (index : Nat) :
    (correlator.evict index).symbols = correlator.symbols := rfl

@[simp]
theorem window_evict (correlator : Correlator) (index : Nat) :
    (correlator.evict index).window = correlator.window := rfl

@[simp]
theorem knows_evict (correlator : Correlator) (index : Nat) (name : String) :
    (correlator.evict index).knows name = correlator.knows name := rfl

variable {correlator : Correlator} {index : Nat} {name declaration : String}

/-- A known name leaves nothing behind but the eviction. -/
theorem resolve_known (known : correlator.knows name = true) :
    correlator.resolve index name declaration = (correlator.evict index, false) := by
  simp [resolve, known]

/-- A new name enters the catalog. -/
theorem resolve_new (new : correlator.knows name = false) :
    correlator.resolve index name declaration =
      ({ correlator.evict index with
          symbols := correlator.symbols ++
            [{ name, kind := .ofDeclaration declaration
               line := (correlator.evict index).lineOf? name }] }, true) := by
  simp [resolve, new]

/-- Serves a request; only a shadow is answered, with whether its name is new. -/
def serve (correlator : Correlator) : Request → Correlator × Option Bool
  | .imports index name line => (correlator.recordImport index name line, none)
  | .resolves index name declaration =>
    let (after, new) := correlator.resolve index name declaration
    (after, some new)

/-- Serves requests one after the other, and collects the answers. -/
def run (correlator : Correlator) : List Request → Correlator × List (Option Bool)
  | [] => (correlator, [])
  | request :: rest =>
    let (after, answer) := correlator.serve request
    let (final, answers) := after.run rest
    (final, answer :: answers)

end Correlator

/-! ## The reading that forgets nothing -/

/-- Every import that some requests make. -/
def importsOf (history : List Request) : List RecentImport :=
  history.filterMap Request.import?

/-- Some request resolves a name. -/
def isResolvedIn (history : List Request) (name : String) : Bool :=
  history.any (Request.asksFor name)

/-- The line that a shadow at an index takes from all imports before it: the line of the
latest import of its name, if that import is nearer than the window. -/
def lineWithin (window : Nat) (history : List Request) (index : Nat) (name : String) :
    Option Nat :=
  (importsOf history).reverse.find? (·.name == name) |>.bind fun latest =>
    if index - latest.index < window then latest.line else none

/-- The answer to a request after others: a shadow is told that its name is new exactly
when no request before resolves the name. -/
def answerAfter (history : List Request) : Request → Option Bool
  | .imports .. => none
  | .resolves _ name _ => some !isResolvedIn history name

/-- The symbol that a request adds to the catalog after others. -/
def entryAfter (window : Nat) (history : List Request) : Request → Option Symbol
  | .imports .. => none
  | .resolves index name declaration =>
    if isResolvedIn history name then none
    else some
      { name, kind := .ofDeclaration declaration, line := lineWithin window history index name }

/-- The answers to some requests behind a history, each read off all requests before it. -/
def answersAfter (history requests : List Request) : List (Option Bool) :=
  requests.inits.zipWith (fun earlier request => answerAfter (history ++ earlier) request) requests

/-- The symbols that some requests add behind a history, each read off all requests
before it. -/
def entriesAfter (window : Nat) (history requests : List Request) : List Symbol :=
  (requests.inits.zipWith (fun earlier request => entryAfter window (history ++ earlier) request)
    requests).reduceOption

theorem importsOf_append (first second : List Request) :
    importsOf (first ++ second) = importsOf first ++ importsOf second :=
  List.filterMap_append

theorem isResolvedIn_append (first second : List Request) (name : String) :
    isResolvedIn (first ++ second) name =
      (isResolvedIn first name || isResolvedIn second name) :=
  List.any_append

@[simp]
theorem answersAfter_cons (history : List Request) (request : Request) (rest : List Request) :
    answersAfter history (request :: rest) =
      answerAfter history request :: answersAfter (history ++ [request]) rest := by
  simp [answersAfter, List.zipWith_map_left]

@[simp]
theorem entriesAfter_cons (window : Nat) (history : List Request) (request : Request)
    (rest : List Request) :
    entriesAfter window history (request :: rest) =
      (entryAfter window history request).toList ++
        entriesAfter window (history ++ [request]) rest := by
  cases entered : entryAfter window history request <;>
    simp [entriesAfter, List.zipWith_map_left, entered]

/-- Every import of a history stands where one of its requests does. -/
theorem exists_index_eq_of_mem_importsOf {history : List Request} {seen : RecentImport}
    (member : seen ∈ importsOf history) : ∃ request ∈ history, request.index = seen.index := by
  obtain ⟨request, requested, made⟩ := List.mem_filterMap.1 member
  refine ⟨request, requested, ?_⟩
  cases request with
  | imports index name line => exact congrArg RecentImport.index (Option.some.inj made)
  | resolves index name declaration => cases made

/-- The imports of requests in order are in order. -/
theorem InLineOrder.importsOf {history : List Request} (inOrder : InLineOrder history) :
    (importsOf history).Pairwise fun earlier later => earlier.index ≤ later.index := by
  refine List.Pairwise.filterMap _ (fun earlier later le => ?_) inOrder
  rintro seen made seen' made'
  cases earlier <;> cases later <;> cases made <;> cases made'
  exact le

/-! ## Forgetting from the front -/

/-- Dropping with a narrow test first loses nothing that a wide test keeps. -/
theorem dropWhile_append_dropWhile {α : Type} {narrow wide : α → Bool}
    (imp : ∀ x, narrow x = true → wide x = true) (first second : List α) :
    (first.dropWhile narrow ++ second).dropWhile wide = (first ++ second).dropWhile wide := by
  induction first with
  | nil => rfl
  | cons x first ih =>
    by_cases dropped : narrow x = true
    · rw [List.dropWhile_cons_of_pos dropped, ih, List.cons_append,
        List.dropWhile_cons_of_pos (imp x dropped)]
    · rw [List.dropWhile_cons_of_neg dropped]

/-- **Among imports in order, the latest of a name survives at the front exactly within the
window.** -/
theorem line_find?_dropWhile {imports : List RecentImport}
    (inOrder : imports.Pairwise fun earlier later => earlier.index ≤ later.index)
    (window index : Nat) (name : String) :
    ((imports.dropWhile fun seen => window ≤ index - seen.index).reverse.find?
        (·.name == name)).bind (·.line) =
      (imports.reverse.find? (·.name == name)).bind fun latest =>
        if index - latest.index < window then latest.line else none := by
  induction imports with
  | nil => rfl
  | cons first rest ih =>
    obtain ⟨behind, restInOrder⟩ := List.pairwise_cons.1 inOrder
    by_cases far : window ≤ index - first.index
    · -- the front is dropped; it matters only if no later import has the name
      rw [List.dropWhile_cons_of_pos (by simpa using far), ih restInOrder, List.reverse_cons,
        List.find?_append]
      cases rest.reverse.find? (·.name == name) with
      | some latest => rfl
      | none =>
        have outside : ¬ index - first.index < window := by omega
        by_cases named : (first.name == name) = true
        · simp [named, outside]
        · simp [named]
    · -- the front stays, so everything behind it is within the window as well
      rw [List.dropWhile_cons_of_neg (by simpa using far)]
      refine Option.bind_congr fun latest found => (if_pos ?_).symm
      have member : latest ∈ first :: rest := List.mem_reverse.1 (List.mem_of_find?_eq_some found)
      have le : first.index ≤ latest.index := by
        rcases List.mem_cons.1 member with rfl | member
        · exact Nat.le_refl _
        · exact behind latest member
      omega

/-! ## One request -/

/-- A correlation remembers what counts of a history.  What it has forgotten is left out of
sight at every line from here on. -/
structure Remembers (history : List Request) (correlator : Correlator) : Prop where
  recent : ∀ index, (∀ earlier ∈ history, earlier.index ≤ index) →
    (correlator.evict index).recent =
      (importsOf history).dropWhile fun seen => correlator.window ≤ index - seen.index
  subset : ∀ seen ∈ correlator.recent, seen ∈ importsOf history
  knows : ∀ name, correlator.knows name = isResolvedIn history name

theorem Remembers.start (window : Nat) : Remembers [] (.start window) where
  recent _ _ := rfl
  subset _ member := by cases member
  knows _ := rfl

namespace Remembers

variable {history : List Request} {correlator : Correlator}

/-- Nothing in the buffer stands behind a line that no request of the history is behind. -/
theorem index_le (remembers : Remembers history correlator) {index : Nat}
    (past : ∀ earlier ∈ history, earlier.index ≤ index) :
    ∀ seen ∈ correlator.recent, seen.index ≤ index := by
  intro seen member
  obtain ⟨request, requested, same⟩ :=
    exists_index_eq_of_mem_importsOf (remembers.subset seen member)
  exact same ▸ past request requested

/-- **The line found in the buffer is the line found among all imports.** -/
theorem lineOf?_evict (remembers : Remembers history correlator) (inOrder : InLineOrder history)
    {index : Nat} (past : ∀ earlier ∈ history, earlier.index ≤ index) (name : String) :
    (correlator.evict index).lineOf? name = lineWithin correlator.window history index name := by
  rw [Correlator.lineOf?, remembers.recent index past]
  exact line_find?_dropWhile inOrder.importsOf correlator.window index name

/-- A request that keeps the evicted buffer and puts its own import behind it. -/
theorem recent_serve (remembers : Remembers history correlator) (request : Request)
    (past : ∀ earlier ∈ history, earlier.index ≤ request.index) {after : Correlator}
    (window : after.window = correlator.window)
    (recent : after.recent = (correlator.evict request.index).recent ++ request.import?.toList)
    (index : Nat) (further : ∀ earlier ∈ history ++ [request], earlier.index ≤ index) :
    (after.evict index).recent =
      (importsOf (history ++ [request])).dropWhile fun seen =>
        after.window ≤ index - seen.index := by
  have le : request.index ≤ index := further request (by simp)
  have imports : importsOf [request] = request.import?.toList := by
    cases made : request.import? <;> simp [importsOf, made]
  -- an import out of sight at the request is out of sight at every line behind it
  have stays : ∀ seen : RecentImport,
      decide (correlator.window ≤ request.index - seen.index) = true →
        decide (correlator.window ≤ index - seen.index) = true := by
    intro seen far
    rw [decide_eq_true_eq] at far ⊢
    omega
  have evicted : (after.evict index).recent =
      after.recent.dropWhile fun seen => after.window ≤ index - seen.index := rfl
  rw [evicted, recent, remembers.recent request.index past, window, importsOf_append, imports]
  exact dropWhile_append_dropWhile stays _ _

theorem mem_of_mem_evict (remembers : Remembers history correlator) {index : Nat}
    {seen : RecentImport} (member : seen ∈ (correlator.evict index).recent) :
    seen ∈ importsOf history :=
  remembers.subset seen ((List.dropWhile_sublist _).mem member)

/-- An import is served. -/
theorem imports (remembers : Remembers history correlator) {index : Nat} {name : String}
    {line : Option Nat} (past : ∀ earlier ∈ history, earlier.index ≤ index) :
    Remembers (history ++ [.imports index name line]) (correlator.recordImport index name line) where
  recent := remembers.recent_serve (.imports index name line) past rfl rfl
  subset seen member := by
    rw [importsOf_append]
    rcases List.mem_append.1 member with member | member
    · exact List.mem_append_left _ (remembers.mem_of_mem_evict member)
    · exact List.mem_append_right _ member
  knows other := by
    rw [isResolvedIn_append, ← remembers.knows]
    exact (Bool.or_false _).symm

/-- A shadow is served. -/
theorem resolves (remembers : Remembers history correlator) {index : Nat}
    {name declaration : String} (past : ∀ earlier ∈ history, earlier.index ≤ index) :
    Remembers (history ++ [.resolves index name declaration])
      (correlator.resolve index name declaration).1 := by
  have asked : ∀ other, isResolvedIn (history ++ [.resolves index name declaration]) other =
      (correlator.knows other || name == other) := by
    intro other
    simp [remembers.knows, isResolvedIn, Request.asksFor]
  have subset : ∀ seen ∈ (correlator.evict index).recent,
      seen ∈ importsOf (history ++ [.resolves index name declaration]) := by
    intro seen member
    rw [importsOf_append]
    exact List.mem_append_left _ (remembers.mem_of_mem_evict member)
  cases known : correlator.knows name with
  | true =>
    rw [Correlator.resolve_known known]
    refine ⟨remembers.recent_serve (.resolves index name declaration) past rfl
      (List.append_nil _).symm, subset, fun other => ?_⟩
    rw [asked, Correlator.knows_evict]
    by_cases same : name = other
    · rw [← same, known, Bool.true_or]
    · simp [same]
  | false =>
    rw [Correlator.resolve_new known]
    refine ⟨remembers.recent_serve (.resolves index name declaration) past rfl
      (List.append_nil _).symm, subset, fun other => ?_⟩
    rw [asked, Correlator.knows, List.any_append, List.any_cons, List.any_nil, Bool.or_false]
    rfl

/-- **A request is answered as the whole history says**, and what it leaves behind remembers
the history with the request. -/
theorem serve (remembers : Remembers history correlator) (inOrder : InLineOrder history)
    {request : Request} (past : ∀ earlier ∈ history, earlier.index ≤ request.index) :
    Remembers (history ++ [request]) (correlator.serve request).1 ∧
      (correlator.serve request).2 = answerAfter history request ∧
      (correlator.serve request).1.symbols =
        correlator.symbols ++ (entryAfter correlator.window history request).toList ∧
      (correlator.serve request).1.window = correlator.window := by
  cases request with
  | imports index name line =>
    exact ⟨remembers.imports past, rfl, (List.append_nil _).symm, rfl⟩
  | resolves index name declaration =>
    refine ⟨remembers.resolves past, ?_⟩
    cases known : correlator.knows name with
    | true =>
      have resolved := remembers.knows name ▸ known
      rw [Correlator.serve, Correlator.resolve_known known]
      simp [answerAfter, entryAfter, resolved]
    | false =>
      have unresolved := remembers.knows name ▸ known
      have sameLine : (correlator.evict index).lineOf? name =
          lineWithin correlator.window history index name :=
        remembers.lineOf?_evict inOrder past name
      rw [Correlator.serve, Correlator.resolve_new known]
      simpa [answerAfter, entryAfter, unresolved] using sameLine

/-! ## Any number of requests -/

/-- What one request keeps, a run keeps. -/
theorem run (remembers : Remembers history correlator) (requests : List Request)
    (inOrder : InLineOrder (history ++ requests)) :
    Remembers (history ++ requests) (correlator.run requests).1 ∧
      (correlator.run requests).2 = answersAfter history requests ∧
      (correlator.run requests).1.symbols =
        correlator.symbols ++ entriesAfter correlator.window history requests := by
  induction requests generalizing history correlator with
  | nil => simpa [Correlator.run, answersAfter, entriesAfter] using remembers
  | cons request rest ih =>
    obtain ⟨before, -, across⟩ := List.pairwise_append.1 inOrder
    have past : ∀ earlier ∈ history, earlier.index ≤ request.index :=
      fun earlier member => across earlier member request List.mem_cons_self
    obtain ⟨after, answer, symbols, window⟩ := remembers.serve before past
    have regrouped : history ++ request :: rest = (history ++ [request]) ++ rest := by simp
    rw [regrouped] at inOrder ⊢
    obtain ⟨final, answers, entries⟩ := ih after inOrder
    refine ⟨final, ?_, ?_⟩
    · rw [answersAfter_cons, ← answer, ← answers]
      rfl
    · rw [entriesAfter_cons, ← List.append_assoc, ← symbols, ← window, ← entries]
      rfl

end Remembers

/-- **A correlation that forgets from the front answers and collects as one that forgets
nothing**, and no request of it stands before an import in the buffer. -/
theorem run_start_exact (window : Nat) (requests : List Request)
    (inOrder : InLineOrder requests) :
    ((Correlator.start window).run requests).2 = answersAfter [] requests ∧
      ((Correlator.start window).run requests).1.symbols = entriesAfter window [] requests ∧
      ∀ before request behind, requests = before ++ request :: behind →
        ∀ seen ∈ ((Correlator.start window).run before).1.recent, seen.index ≤ request.index := by
  obtain ⟨-, answers, entries⟩ := (Remembers.start window).run requests inOrder
  refine ⟨answers, entries, ?_⟩
  rintro before request behind rfl
  obtain ⟨beforeInOrder, -, across⟩ := List.pairwise_append.1 inOrder
  obtain ⟨remembers, -, -⟩ := (Remembers.start window).run before beforeInOrder
  exact remembers.index_le fun earlier member => across earlier member request List.mem_cons_self

/-! ## Two imports of one name -/

/-- A name imported twice, on two lines of which the second is shared, and an import that is
out of a window of two lines at its shadow. -/
def importedTwice : List Request :=
  [.imports 0 "swap" (some 3), .imports 1 "move" (some 5), .imports 1 "swap" (some 4),
    .resolves 2 "swap" "Function", .resolves 3 "move" "Var", .resolves 3 "swap" "Var"]

/-- The nearer import of the two gives its line, the import at the edge gives none, and the
second shadow of a name changes nothing. -/
theorem run_start_exact_importedTwice :
    InLineOrder importedTwice ∧
      ((Correlator.start 2).run importedTwice).2 =
        [none, none, none, some true, some true, some false] ∧
      ((Correlator.start 2).run importedTwice).1.symbols =
        [⟨"swap", .function, some 4⟩, ⟨"move", .variable, none⟩] ∧
      ∀ seen ∈ ((Correlator.start 2).run (importedTwice.take 4)).1.recent, seen.index ≤ 3 := by
  have inOrder : InLineOrder importedTwice := by decide
  obtain ⟨answers, entries, past⟩ := run_start_exact 2 importedTwice inOrder
  refine ⟨inOrder, ?_, ?_, ?_⟩
  · rw [answers]
    decide
  · rw [entries]
    decide
  · exact past _ (.resolves 3 "move" "Var") _ rfl

end ExportAudit.Export
