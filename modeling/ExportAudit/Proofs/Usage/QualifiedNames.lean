import ExportAudit.Proofs.Text.Identifier
import ExportAudit.Proofs.Text.Runs
import ExportAudit.Usage.Qualified

/-!
# How a full name is read

A full name begins with the namespace and its separator.  Behind them every further
segment is a place where the symbol may stand, and the last of these places is taken.
The segments are read character by character, in three cases: a word character continues
the current segment, a separator behind a nonempty segment starts the next one, and
**anything else ends the name.**
-/

namespace ExportAudit.Usage

set_option autoImplicit false

open ExportAudit.Text

variable {c : Char} {word rest : List Char}

/-! ## Segments -/

theorem segmentStarts_word (inside : Bool) (isWordChar : isWord c = true) :
    segmentStarts inside (c :: rest) = segmentStarts true rest := by
  have noSeparator : ∀ after, c = ':' → rest = ':' :: after → False :=
    fun _ isColon => absurd isColon (ne_colon_of_isWord isWordChar)
  rw [segmentStarts.eq_3 inside c rest noSeparator, if_pos isWordChar]

theorem segmentStarts_separator (inside : Bool) (rest : List Char) :
    segmentStarts inside (separator ++ rest) =
      if inside then rest :: segmentStarts false rest else [] := rfl

/-- Neither a word character nor a separator: the name ends. -/
theorem segmentStarts_end (inside : Bool) (noWord : isWord c = false)
    (noSeparator : after? separator (c :: rest) = none) :
    segmentStarts inside (c :: rest) = [] := by
  have notSeparator : ∀ after, c = ':' → rest = ':' :: after → False := by
    rintro after rfl rfl
    rw [show ':' :: ':' :: after = separator ++ after from rfl, after?_append] at noSeparator
    cases noSeparator
  rw [segmentStarts.eq_3 inside c rest notSeparator, if_neg (by simp [noWord])]

theorem segmentStarts_run (inside : Bool) (nonempty : word ≠ [])
    (all : ∀ c ∈ word, isWord c = true) :
    segmentStarts inside (word ++ rest) = segmentStarts true rest := by
  induction word generalizing inside with
  | nil => exact absurd rfl nonempty
  | cons c word ih =>
    rw [List.cons_append, segmentStarts_word inside (all c List.mem_cons_self)]
    by_cases last : word = []
    · rw [last, List.nil_append]
    · exact ih true last fun d member => all d (List.mem_cons_of_mem c member)

/-! ## The end of a name -/

/-- What follows the last segment behind the namespace that is the symbol. -/
def nameEnd? (symbol chain : List Char) : Option (List Char) :=
  (chain :: segmentStarts false chain).reverse.findSome? (afterSymbol? symbol)

/-- What a text takes up in front of what follows it. -/
theorem length_front (front rest : List Char) :
    (front ++ rest).length - rest.length = front.length := by
  rw [List.length_append, Nat.add_sub_cancel]

/-- A full name stands at a position if a word begins there, and if the namespace and its
separator are followed by a chain in which the symbol ends a name. -/
theorem qualifiedAt?_eq (qualifier symbol : List Char) (before : Option Char)
    (text : List Char) :
    qualifiedAt? qualifier symbol before text =
      if isBoundary before text.head? then
        (after? (qualifier ++ separator) text).bind fun chain =>
          (nameEnd? symbol chain).map fun rest => ((), text.length - rest.length)
      else none := by
  rw [qualifiedAt?]
  split
  · refine Option.bind_congr fun chain _ => ?_
    rw [Option.map_eq_bind]
    rfl
  · rfl

end ExportAudit.Usage
