import ExportAudit.Text.Blank

/-!
# Looking for a form in a text

A recogniser looks at one position of a text: at the character before it, which
decides about word boundaries, and at the text after it.  Two searches run a
recogniser over a text from left to right.  `first?` answers at the first
position where the recogniser accepts.  `all` collects every answer, and after
an answer it goes on behind the characters that the answer used, so that
**answers never overlap.**

Both searches are recursions on the text.  A recogniser that reports how many
characters it used never has to hand back a position.
-/

namespace ExportAudit.Text

set_option autoImplicit false

/-! ## Leads and runs -/

/-- What follows a given lead, if the text starts with it. -/
def after? : List Char → List Char → Option (List Char)
  | [], text => some text
  | _ :: _, [] => none
  | a :: lead, c :: rest => if a = c then after? lead rest else none

/-- **A text starts with a lead exactly when it is the lead and something more.** -/
theorem after?_eq_some_iff {lead text rest : List Char} :
    after? lead text = some rest ↔ text = lead ++ rest := by
  induction lead generalizing text with
  | nil => simp [after?, eq_comm]
  | cons a lead ih =>
    cases text with
    | nil => simp [after?]
    | cons c text =>
      by_cases same : a = c
      · simp [after?, same, ih]
      · simp [after?, same, Ne.symm same]

/-- The nonempty run of a class at the head, and what follows it. -/
def run? (accepts : Char → Bool) (text : List Char) : Option (List Char × List Char) :=
  if (text.takeWhile accepts).isEmpty then none
  else some (text.takeWhile accepts, text.dropWhile accepts)

/-- What follows a nonempty run of blanks. -/
def afterBlanks? (text : List Char) : Option (List Char) :=
  (run? isBlank text).map (·.2)

/-- Whether a text occurs inside another. -/
def occursIn (part : List Char) : List Char → Bool
  | [] => part.isEmpty
  | c :: rest => (after? part (c :: rest)).isSome || occursIn part rest

/-! ## Searches -/

/-- The answer at the first position where the recogniser accepts. -/
def first? {α : Type} (accept : Option Char → List Char → Option α) :
    Option Char → List Char → Option α
  | before, [] => accept before []
  | before, c :: rest => accept before (c :: rest) <|> first? accept (some c) rest

/-- All answers of a recogniser that reports how many characters it used, from
left to right without overlap, after skipping some characters. -/
def allFrom {α : Type} (accept : Option Char → List Char → Option (α × Nat)) :
    Nat → Option Char → List Char → List α
  | _, _, [] => []
  | skip + 1, _, c :: rest => allFrom accept skip (some c) rest
  | 0, before, c :: rest =>
    match accept before (c :: rest) with
    | some (answer, used) => answer :: allFrom accept (used - 1) (some c) rest
    | none => allFrom accept 0 (some c) rest

/-- All answers of a recogniser in a text. -/
def all {α : Type} (accept : Option Char → List Char → Option (α × Nat)) (text : List Char) :
    List α :=
  allFrom accept 0 none text

end ExportAudit.Text
