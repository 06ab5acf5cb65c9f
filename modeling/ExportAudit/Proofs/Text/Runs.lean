import ExportAudit.Text.Pieces
import ExportAudit.Text.Search
import Mathlib.Data.List.TakeWhile

/-!
# Runs and where they stop

A run of a class of characters is read whole if what follows it does not go on with the
class.  That condition is the same wherever runs are read, so it has a name, and taking,
dropping and cutting into tokens are each said once under it.

A search that finds an answer goes on behind it, and **it passes over every stretch in
which nothing is found.**
-/

namespace ExportAudit.Text

set_option autoImplicit false

variable {accepts : Char → Bool} {run rest : List Char}

/-! ## Where a run stops -/

/-- A text does not go on with a class of characters. -/
def Stops (accepts : Char → Bool) (text : List Char) : Prop :=
  ∀ c ∈ text.head?, accepts c = false

@[simp]
theorem stops_nil : Stops accepts [] := by
  simp [Stops]

@[simp]
theorem stops_cons {c : Char} : Stops accepts (c :: rest) ↔ accepts c = false := by
  simp [Stops]

theorem Stops.takeWhile (stops : Stops accepts rest) (keep : Char → Bool) :
    Stops accepts (rest.takeWhile keep) := by
  cases rest with
  | nil => exact stops
  | cons c rest =>
    rw [List.takeWhile_cons]
    split
    · exact stops_cons.2 (stops_cons.1 stops)
    · exact stops_nil

theorem stops_dropWhile (accepts : Char → Bool) (text : List Char) :
    Stops accepts (text.dropWhile accepts) := by
  intro c head
  have notAccepted := List.head?_dropWhile_not accepts text
  rwa [Option.mem_def.1 head] at notAccepted

theorem takeWhile_run (all : ∀ c ∈ run, accepts c = true) (stops : Stops accepts rest) :
    (run ++ rest).takeWhile accepts = run := by
  rw [List.takeWhile_append_of_pos all]
  cases rest with
  | nil => simp
  | cons c rest => simp [stops_cons.1 stops]

theorem dropWhile_run (all : ∀ c ∈ run, accepts c = true) (stops : Stops accepts rest) :
    (run ++ rest).dropWhile accepts = rest := by
  rw [List.dropWhile_append_of_pos all]
  cases rest with
  | nil => rfl
  | cons c rest => simp [stops_cons.1 stops]

/-- **A run that stops is read whole.** -/
theorem run?_run (nonempty : run ≠ []) (all : ∀ c ∈ run, accepts c = true)
    (stops : Stops accepts rest) : run? accepts (run ++ rest) = some (run, rest) := by
  rw [run?, takeWhile_run all stops, dropWhile_run all stops, if_neg (by simpa using nonempty)]

/-- What follows one blank. -/
theorem afterBlanks?_blank {c : Char} (blank : isBlank c = true) (stops : Stops isBlank rest) :
    afterBlanks? (c :: rest) = some rest := by
  have isRun : run? isBlank ([c] ++ rest) = some ([c], rest) :=
    run?_run (by simp) (by simpa using blank) stops
  rw [List.singleton_append] at isRun
  rw [afterBlanks?, isRun, Option.map_some]

theorem after?_append (lead rest : List Char) : after? lead (lead ++ rest) = some rest :=
  after?_eq_some_iff.2 rfl

/-- A run begins with a lead of its class only if the lead is a front part of the run. -/
theorem prefix_of_after? {lead after : List Char} (leadAll : ∀ c ∈ lead, accepts c = true)
    (stops : Stops accepts rest) (starts : after? lead (run ++ rest) = some after) :
    lead <+: run := by
  rw [after?_eq_some_iff] at starts
  induction run generalizing lead with
  | nil =>
    cases lead with
    | nil => exact List.nil_prefix
    | cons c lead =>
      rw [List.nil_append] at starts
      rw [starts, List.cons_append, stops_cons] at stops
      exact absurd (leadAll c List.mem_cons_self) (by simp [stops])
  | cons c run ih =>
    cases lead with
    | nil => exact List.nil_prefix
    | cons d lead =>
      rw [List.cons_append, List.cons_append, List.cons.injEq] at starts
      obtain ⟨rfl, starts⟩ := starts
      exact List.prefix_cons_inj c |>.2
        (ih (fun x member => leadAll x (List.mem_cons_of_mem c member)) starts)

/-! ## Tokens -/

@[simp]
theorem tokens_blank {c : Char} (blank : isBlank c = true) : tokens (c :: rest) = tokens rest := by
  rw [tokens, if_pos blank]

/-- **A word that stops at a blank, or at the end, is the next token.** -/
theorem tokens_word (nonempty : run ≠ []) (solid : ∀ c ∈ run, isBlank c = false)
    (stops : Stops (!isBlank ·) rest) : tokens (run ++ rest) = run :: tokens rest := by
  induction run with
  | nil => exact absurd rfl nonempty
  | cons c run ih =>
    have first : ¬ isBlank c = true := by simp [solid c List.mem_cons_self]
    rw [List.cons_append, tokens, if_neg first]
    cases run with
    | nil =>
      rw [List.nil_append, if_pos]
      cases rest with
      | nil => rfl
      | cons d rest => simpa using stops
    | cons d run =>
      have goesOn : ¬ ((d :: run ++ rest).head?.all isBlank) = true := by
        simp [solid d (by simp)]
      rw [if_neg goesOn, ih (by simp) fun x member => solid x (List.mem_cons_of_mem c member)]
      rfl

/-- A word that is one token: it is not empty and holds no blank. -/
def Solid (word : List Char) : Prop :=
  word ≠ [] ∧ ∀ c ∈ word, isBlank c = false

instance (word : List Char) : Decidable (Solid word) :=
  decidable_of_iff (word ≠ [] ∧ word.all (!isBlank ·) = true) (by simp [Solid])

theorem Solid.append {first second : List Char} (left : Solid first) (right : Solid second) :
    Solid (first ++ second) := by
  refine ⟨List.append_ne_nil_of_left_ne_nil left.1 second, ?_⟩
  simp only [List.mem_append]
  rintro c (member | member)
  · exact left.2 c member
  · exact right.2 c member

/-- Blanks end where a word begins. -/
theorem Solid.stops {word : List Char} (solid : Solid word) (rest : List Char) :
    Stops isBlank (word ++ rest) := by
  obtain ⟨c, word, rfl⟩ := List.exists_cons_of_ne_nil solid.1
  exact stops_cons.2 (solid.2 c List.mem_cons_self)

/-- Words with a blank in front of each. -/
def spaced (words : List (List Char)) : List Char :=
  words.flatMap (' ' :: ·)

/-- **The tokens of spaced words are the words.** -/
theorem tokens_spaced {words : List (List Char)} (all : ∀ word ∈ words, Solid word) :
    tokens (spaced words) = words := by
  induction words with
  | nil => rfl
  | cons word words ih =>
    obtain ⟨nonempty, solid⟩ := all word List.mem_cons_self
    have stops : Stops (!isBlank ·) (spaced words) := by
      cases words with
      | nil => exact stops_nil
      | cons next words => exact stops_cons.2 (by decide)
    have isCons : spaced (word :: words) = ' ' :: (word ++ spaced words) := rfl
    rw [isCons, tokens_blank (by decide), tokens_word nonempty solid stops,
      ih fun other member => all other (List.mem_cons_of_mem word member)]

theorem spaced_eq_intercalate {words : List (List Char)} (nonempty : words ≠ []) :
    spaced words = ' ' :: [' '].intercalate words := by
  induction words with
  | nil => exact absurd rfl nonempty
  | cons word words ih =>
    cases words with
    | nil => simp [spaced]
    | cons next words =>
      have isCons : spaced (word :: next :: words) = ' ' :: (word ++ spaced (next :: words)) := rfl
      rw [isCons, ih (List.cons_ne_nil next words),
        List.intercalate_cons_of_ne_nil (List.cons_ne_nil next words), List.append_assoc,
        List.singleton_append]

/-- The tokens of words joined by blanks are the words. -/
theorem tokens_intercalate {words : List (List Char)} (all : ∀ word ∈ words, Solid word) :
    tokens ([' '].intercalate words) = words := by
  cases words with
  | nil => rfl
  | cons word words =>
    have isSpaced := spaced_eq_intercalate (List.cons_ne_nil word words)
    rw [← tokens_blank (c := ' ') (by decide), ← isSpaced, tokens_spaced all]

/-! ## Searches -/

variable {α : Type} {accept : Option Char → List Char → Option (α × Nat)}

theorem first?_found {look : Option Char → List Char → Option α} {answer : α}
    {before : Option Char} {text : List Char} (found : look before text = some answer) :
    first? look before text = some answer := by
  cases text with
  | nil => exact found
  | cons c text =>
    rw [first?, found]
    rfl

theorem allFrom_skip (run rest : List Char) (before : Option Char) :
    allFrom accept run.length before (run ++ rest) =
      allFrom accept 0 (run.getLast?.or before) rest := by
  induction run generalizing before with
  | nil => rfl
  | cons c run ih =>
    rw [List.cons_append, List.length_cons, allFrom, ih]
    simp [List.getLast?_cons]

/-- **Behind an answer a search goes on.** -/
theorem allFrom_found {answer : α} {before : Option Char} (nonempty : run ≠ [])
    (found : accept before (run ++ rest) = some (answer, run.length)) :
    allFrom accept 0 before (run ++ rest) =
      answer :: allFrom accept 0 run.getLast? rest := by
  cases run with
  | nil => exact absurd rfl nonempty
  | cons c run =>
    rw [List.cons_append] at found ⊢
    rw [allFrom, found]
    simp only [List.length_cons, Nat.add_sub_cancel]
    rw [allFrom_skip]
    simp [List.getLast?_cons]

/-- A search finds nothing at any position of a stretch. -/
def Passes (accept : Option Char → List Char → Option (α × Nat)) (run rest : List Char) : Prop :=
  ∀ c back, c :: back <:+ run → ∀ before, accept before (c :: back ++ rest) = none

@[simp]
theorem passes_nil : Passes accept [] rest := by
  simp [Passes]

@[simp]
theorem passes_cons {c : Char} : Passes accept (c :: run) rest ↔
    (∀ before, accept before (c :: (run ++ rest)) = none) ∧ Passes accept run rest := by
  constructor
  · intro passes
    exact ⟨passes c run (List.suffix_refl _),
      fun d back behind => passes d back (behind.trans (List.suffix_cons c run))⟩
  · rintro ⟨here, passes⟩ d back behind
    rcases List.suffix_cons_iff.1 behind with same | behind
    · obtain ⟨rfl, rfl⟩ := List.cons.inj same
      exact here
    · exact passes d back behind

theorem passes_append {front : List Char} : Passes accept (front ++ run) rest ↔
    Passes accept front (run ++ rest) ∧ Passes accept run rest := by
  induction front with
  | nil => simp
  | cons c front ih => simp [ih, and_assoc]

/-- **A search passes over a stretch in which nothing is found.** -/
theorem allFrom_passes {before : Option Char} (passes : Passes accept run rest) :
    allFrom accept 0 before (run ++ rest) = allFrom accept 0 (run.getLast?.or before) rest := by
  induction run generalizing before with
  | nil => rfl
  | cons c run ih =>
    obtain ⟨here, passes⟩ := passes_cons.1 passes
    rw [List.cons_append, allFrom, here]
    simp only
    rw [ih passes]
    simp [List.getLast?_cons]

end ExportAudit.Text
