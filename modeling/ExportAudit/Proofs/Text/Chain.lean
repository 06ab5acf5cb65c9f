import ExportAudit.Export.Statement
import ExportAudit.Proofs.Text.Identifier
import ExportAudit.Proofs.Text.WordChains

/-!
# Readings of a chain

Three readings of a qualified name occur: the test whether a token is one, the segment
behind the last double colon, and the last word of a statement.  They recurse in three
ways, and on texts that are no chains they differ.  **On a chain of words the last two find
the last word**, and the first accepts the chain if every word of it begins like an
identifier.
-/

namespace ExportAudit.Text

set_option autoImplicit false

/-- Some segments and a name, with double colons between them. -/
def chain : List (List Char) → List Char → List Char
  | [], name => name
  | segment :: segments, name => segment ++ (separator ++ chain segments name)

variable {word name : List Char} {segments : List (List Char)}

/-- A chain goes on with a word, so never with a colon. -/
theorem head_chain (all : ∀ segment ∈ segments, IsRun segment) (isName : IsRun name) :
    ∃ c rest, chain segments name = c :: rest ∧ isWord c = true := by
  cases segments with
  | nil =>
    obtain ⟨c, rest, rfl⟩ := List.exists_cons_of_ne_nil isName.1
    exact ⟨c, rest, rfl, isName.2 c List.mem_cons_self⟩
  | cons segment segments =>
    have isSegment := all segment List.mem_cons_self
    obtain ⟨c, rest, rfl⟩ := List.exists_cons_of_ne_nil isSegment.1
    exact ⟨c, _, rfl, isSegment.2 c List.mem_cons_self⟩

/-! ## Words -/

theorem isRun_of_isIdentifier (isName : isIdentifier name = true) : IsRun name :=
  ⟨ne_nil_of_isIdentifier isName,
    fun c member => isWord_of_isIdentRest (isIdentRest_of_isIdentifier isName c member)⟩

theorem IsRun.solid (isName : IsRun name) : Solid name :=
  ⟨isName.1, fun c member => isBlank_eq_false_of_isWord (isName.2 c member)⟩

/-- A chain of words is one token. -/
theorem solid_chain (all : ∀ segment ∈ segments, IsRun segment) (isName : IsRun name) :
    Solid (chain segments name) := by
  induction segments with
  | nil => exact isName.solid
  | cons segment segments ih =>
    have later := ih fun other member => all other (List.mem_cons_of_mem segment member)
    have isSeparator : Solid separator := by decide
    exact (all segment List.mem_cons_self).solid.append (isSeparator.append later)

/-! ## Tokens -/

/-- A text begins like an identifier. -/
def beginsIdentifier (text : List Char) : Bool :=
  text.head?.any isIdentStart

theorem beginsIdentifier_of_isIdentifier (isName : isIdentifier name = true) :
    beginsIdentifier name = true := by
  obtain ⟨c, rest, rfl⟩ := List.exists_cons_of_ne_nil (ne_nil_of_isIdentifier isName)
  exact (isIdentifier_cons.1 isName).1

/-- Of the words, those that may start a segment are those that may start an identifier. -/
theorem isSegmentStart_of_isWord {c : Char} (isWordChar : isWord c = true) :
    isSegmentStart c = isIdentStart c := by
  have noTilde : c ≠ '~' := by
    rintro rfl
    exact absurd isWordChar (by decide)
  simp [isSegmentStart, noTilde]

theorem isNameRest_run (goesOn : ∀ c ∈ word, isWord c = true) (rest : List Char) :
    isNameRest (word ++ rest) = isNameRest rest := by
  induction word with
  | nil => rfl
  | cons c word ih =>
    have here := goesOn c List.mem_cons_self
    have isStep : isNameRest (c :: (word ++ rest)) = (isWord c && isNameRest (word ++ rest)) :=
      isNameRest.eq_3 c _ fun _ _ isColon => absurd isColon (ne_colon_of_isWord here)
    rw [List.cons_append, isStep, here, ih fun d member => goesOn d (List.mem_cons_of_mem c member)]
    rfl

theorem isNameRest_separator (isRun : IsRun word) (rest : List Char) :
    isNameRest (separator ++ (word ++ rest)) = (beginsIdentifier word && isNameRest rest) := by
  obtain ⟨c, word, rfl⟩ := List.exists_cons_of_ne_nil isRun.1
  obtain ⟨first, goesOn⟩ := List.forall_mem_cons.1 isRun.2
  have isStep : isNameRest (separator ++ (c :: word ++ rest)) =
      (isSegmentStart c && isNameRest (word ++ rest)) := rfl
  rw [isStep, isNameRest_run goesOn, isSegmentStart_of_isWord first]
  rfl

theorem isNameRest_chain (all : ∀ segment ∈ segments, IsRun segment) (isName : IsRun name) :
    isNameRest (separator ++ chain segments name) =
      (segments ++ [name]).all beginsIdentifier := by
  induction segments with
  | nil =>
    have isRead := isNameRest_separator isName []
    rw [List.append_nil] at isRead
    rw [chain, isRead]
    simp [isNameRest]
  | cons segment segments ih =>
    rw [chain, isNameRest_separator (all segment List.mem_cons_self),
      ih fun other member => all other (List.mem_cons_of_mem segment member)]
    rfl

/-- **A chain of words is a qualified name if every word begins like an identifier.** -/
theorem isQualifiedName_chain (all : ∀ segment ∈ segments, IsRun segment) (isName : IsRun name) :
    isQualifiedName (chain segments name) = (segments ++ [name]).all beginsIdentifier := by
  obtain ⟨c, rest, isCons, first⟩ := head_chain all isName
  have isStep : isNameRest (separator ++ c :: rest) = (isSegmentStart c && isNameRest rest) := rfl
  rw [← isNameRest_chain all isName, isCons, isStep, isSegmentStart_of_isWord first,
    isQualifiedName]

/-! ## The last segment -/

theorem afterLastSeparator?_free {front : List Char} (free : ':' ∉ front) (rest : List Char) :
    afterLastSeparator? (front ++ rest) = afterLastSeparator? rest := by
  induction front with
  | nil => rfl
  | cons c front ih =>
    have other : ':' ≠ c := List.ne_of_not_mem_cons free
    rw [List.cons_append, afterLastSeparator?, ih (List.not_mem_of_not_mem_cons free), separator,
      after?, if_neg other]
    cases afterLastSeparator? rest <;> rfl

theorem afterLastSeparator?_run (goesOn : ∀ c ∈ word, isWord c = true) (rest : List Char) :
    afterLastSeparator? (word ++ rest) = afterLastSeparator? rest :=
  afterLastSeparator?_free (fun isColon => ne_colon_of_isWord (goesOn _ isColon) rfl) rest

theorem afterLastSeparator?_separator {c : Char} (other : c ≠ ':') (rest : List Char) :
    afterLastSeparator? (separator ++ c :: rest) = some (lastSegment (c :: rest)) := by
  have first : after? separator (':' :: ':' :: c :: rest) = some (c :: rest) :=
    after?_append separator (c :: rest)
  have second : after? separator (':' :: c :: rest) = none := by
    simp [separator, after?, Ne.symm other]
  rw [separator, List.cons_append, List.cons_append, List.nil_append, afterLastSeparator?,
    afterLastSeparator?, first, second, lastSegment]
  cases afterLastSeparator? (c :: rest) <;> rfl

/-- **The last segment of a chain and something behind it** is the name, with what is behind
it. -/
theorem lastSegment_chain_append (all : ∀ segment ∈ segments, IsRun segment) (isName : IsRun name)
    {rest : List Char} (free : ':' ∉ rest) :
    lastSegment (chain segments name ++ rest) = name ++ rest := by
  induction segments with
  | nil =>
    have noSeparator := afterLastSeparator?_free free []
    rw [List.append_nil] at noSeparator
    rw [chain, lastSegment, afterLastSeparator?_run isName.2, noSeparator]
    rfl
  | cons segment segments ih =>
    have later := fun other member => all other (List.mem_cons_of_mem segment member)
    obtain ⟨c, more, isCons, first⟩ := head_chain later isName
    have isText : chain segments name ++ rest = c :: (more ++ rest) := by rw [isCons]; rfl
    rw [chain, List.append_assoc, List.append_assoc, lastSegment,
      afterLastSeparator?_run (all segment List.mem_cons_self).2, isText,
      afterLastSeparator?_separator (ne_colon_of_isWord first), ← isText, ih later]
    rfl

/-- **The last segment of a chain is its name.** -/
theorem lastSegment_chain (all : ∀ segment ∈ segments, IsRun segment) (isName : IsRun name) :
    lastSegment (chain segments name) = name := by
  have noColon : ':' ∉ ([] : List Char) := List.not_mem_nil
  have isLast := lastSegment_chain_append all isName noColon
  rwa [List.append_nil, List.append_nil] at isLast

/-! ## The last word -/

open Export in
theorem lastWord?_run (goesOn : ∀ c ∈ word, isWord c = true) (before rest : List Char) :
    lastWord? before (word ++ rest) = lastWord? (word.reverse ++ before) rest := by
  induction word generalizing before with
  | nil => rfl
  | cons c word ih =>
    have here := goesOn c List.mem_cons_self
    have isStep : lastWord? before (c :: (word ++ rest)) =
        lastWord? (c :: before) (word ++ rest) := by
      rw [lastWord?.eq_3 before c _ fun _ isColon => absurd isColon (ne_colon_of_isWord here)]
      exact if_pos here
    rw [List.cons_append, isStep, ih fun d member => goesOn d (List.mem_cons_of_mem c member)]
    simp

open Export in
/-- The word at hand is the last one in front of blanks and a semicolon. -/
theorem lastWord?_semicolon (nonempty : word ≠ []) {pad : List Char}
    (blank : allBlank pad = true) (rest : List Char) :
    lastWord? word (pad ++ ';' :: rest) = some word.reverse := by
  have nonempty : ¬ word.isEmpty = true := by simpa using nonempty
  have allBlanks : ∀ c ∈ pad, isBlank c = true := List.all_eq_true.1 blank
  have trimmed : trimStart (pad ++ ';' :: rest) = ';' :: rest :=
    dropWhile_run allBlanks (stops_cons.2 (by decide))
  -- the first character ends the word, whether it is a blank or the semicolon
  obtain ⟨c, behind, isCons, notWord⟩ :
      ∃ c behind, pad ++ ';' :: rest = c :: behind ∧ isWord c = false := by
    cases pad with
    | nil => exact ⟨';', rest, rfl, by decide⟩
    | cons c pad =>
      refine ⟨c, _, rfl, Bool.eq_false_iff.2 fun isWordChar => ?_⟩
      have notBlank := isBlank_eq_false_of_isWord isWordChar
      simp [allBlanks c List.mem_cons_self] at notBlank
  have noColon : c ≠ ':' := by
    rintro rfl
    rw [isCons] at trimmed
    rw [trimStart, List.dropWhile_cons_of_neg (by decide)] at trimmed
    cases trimmed
  rw [isCons] at trimmed ⊢
  rw [lastWord?.eq_3 word c behind fun _ isColon => absurd isColon noColon,
    if_neg (by simp [notWord]), if_neg nonempty, trimmed, List.head?_cons, if_pos rfl]

open Export in
/-- **The last word of a chain in front of blanks and a semicolon is its name.** -/
theorem lastWord?_chain (all : ∀ segment ∈ segments, IsRun segment) (isName : IsRun name)
    {pad : List Char} (blank : allBlank pad = true) (rest : List Char) :
    lastWord? [] (chain segments name ++ (pad ++ ';' :: rest)) = some name := by
  induction segments with
  | nil =>
    rw [chain, lastWord?_run isName.2, List.append_nil,
      lastWord?_semicolon (List.reverse_ne_nil_iff.2 isName.1) blank, List.reverse_reverse]
  | cons segment segments ih =>
    have isSegment := all segment List.mem_cons_self
    have nonempty : ¬ segment.reverse.isEmpty = true := by simpa using isSegment.1
    rw [chain, List.append_assoc, lastWord?_run isSegment.2, List.append_nil, separator,
      List.append_assoc, List.cons_append, List.cons_append, List.nil_append, lastWord?,
      if_neg nonempty]
    exact ih fun other member => all other (List.mem_cons_of_mem segment member)

end ExportAudit.Text
