import ExportAudit.Proofs.Text.Chain
import ExportAudit.Proofs.Text.Lines
import ExportAudit.Proofs.Text.Trimmed
import Mathlib.Data.Set.Subsingleton

/-!
# The grammar of using statements

A line is a using statement of a name if, up to some semicolon, it consists of blanks, the
word `using`, at least one blank, the namespace, a double colon, words with a double colon
behind each, the name, and blanks.  What follows the semicolon does not matter.

The namespace is any text, so it may begin with blanks, and then several cuts of the blanks
behind `using` are conceivable.  But the namespace and the double colon hold a character
that is no blank, and the first such character stands at one place of the line.  So **a line
is a using statement in at most one way**, and the reader, which takes the first cut that
fits, reads exactly the statements.
-/

namespace ExportAudit.Export

set_option autoImplicit false

open ExportAudit.Text

/-! ## The grammar -/

/-- A text is a using statement of a name in front of its semicolon. -/
inductive StatementHead (qualifier name : String) : List Char → Prop where
  | intro {indent gap pad : List Char} {segments : List (List Char)}
      (indented : allBlank indent = true) (apart : gap ≠ []) (gapped : allBlank gap = true)
      (words : ∀ segment ∈ segments, IsRun segment) (isName : IsRun name.toList)
      (padded : allBlank pad = true) :
      StatementHead qualifier name (indent ++ ("using".toList ++ (gap ++ (qualifier.toList ++
        (separator ++ (chain segments name.toList ++ pad))))))

/-- A line begins with a using statement of a name. -/
def IsStatement (qualifier name : String) (line : List Char) : Prop :=
  ∃ head rest, StatementHead qualifier name head ∧ line = head ++ ';' :: rest

variable {qualifier name : String} {line text rest : List Char}

/-! ## Blanks in front -/

/-- **Blanks cannot move a text that holds another character**: its first character that is
no blank stands at one place. -/
theorem eq_nil_of_blank_front {lead gap rest' : List Char} (notBlank : allBlank lead = false)
    (blank : allBlank gap = true) (same : lead ++ rest = gap ++ (lead ++ rest')) : gap = [] := by
  obtain ⟨pad, padBlank, isLead⟩ := exists_trimStart lead
  have stops : Stops isBlank (trimStart lead) := stops_dropWhile isBlank lead
  have nonempty : trimStart lead ≠ [] := by
    intro empty
    rw [empty, List.append_nil] at isLead
    rw [isLead, padBlank] at notBlank
    cases notBlank
  have stopsWith (more : List Char) : Stops isBlank (trimStart lead ++ more) := by
    obtain ⟨c, tail, isCons⟩ := List.exists_cons_of_ne_nil nonempty
    rw [isCons] at stops ⊢
    exact stops_cons.2 (stops_cons.1 stops)
  have trimmed (front more : List Char) (frontBlank : allBlank front = true) :
      trimStart (front ++ (lead ++ more)) = trimStart lead ++ more := by
    have bothBlank : allBlank (front ++ pad) = true := by
      simpa [allBlank] using And.intro (List.all_eq_true.1 frontBlank) (List.all_eq_true.1 padBlank)
    have isAppend : front ++ (lead ++ more) = front ++ pad ++ (trimStart lead ++ more) := by
      conv_lhs => rw [isLead]
      simp
    rw [isAppend, trimStart_append bothBlank (stopsWith more)]
  have sameTail := trimmed [] rest rfl
  rw [List.nil_append, same, trimmed gap rest' blank, List.append_right_inj] at sameTail
  rw [sameTail] at same
  exact List.self_eq_append_left.1 same

/-! ## Behind the word using -/

/-- A gap of blanks in front of the namespace begins with the first of them. -/
theorem exists_gap_cons_iff {c : Char} (blank : isBlank c = true) {text behind : List Char} :
    (∃ gap, gap ≠ [] ∧ allBlank gap = true ∧ c :: text = gap ++ behind) ↔
      ∃ gap, allBlank gap = true ∧ text = gap ++ behind := by
  constructor
  · rintro ⟨gap, apart, gapped, isText⟩
    obtain ⟨d, gap, rfl⟩ := List.exists_cons_of_ne_nil apart
    rw [List.cons_append, List.cons.injEq] at isText
    exact ⟨gap, by simpa [allBlank, ← isText.1, blank] using gapped, isText.2⟩
  · rintro ⟨gap, gapped, rfl⟩
    exact ⟨c :: gap, List.cons_ne_nil c gap, by simpa [allBlank, blank] using gapped, rfl⟩

/-- **What follows the namespace is found behind every gap of blanks**, however many blanks
the namespace begins with. -/
theorem afterQualifier?_eq_some_iff {qualifier text rest : List Char} :
    afterQualifier? qualifier text = some rest ↔
      ∃ gap, gap ≠ [] ∧ allBlank gap = true ∧
        text = gap ++ (qualifier ++ separator ++ rest) := by
  have here (text rest : List Char) : (after? qualifier text >>= after? separator) = some rest ↔
      text = qualifier ++ separator ++ rest := by
    simp only [Option.bind_eq_bind, Option.bind_eq_some_iff, after?_eq_some_iff, List.append_assoc]
    exact ⟨fun ⟨_, isText, isTail⟩ => isTail ▸ isText, fun isText => ⟨_, isText, rfl⟩⟩
  have notBlank : allBlank (qualifier ++ separator) = false := by
    simp [allBlank, separator, show isBlank ':' = false by decide]
  induction text with
  | nil =>
    constructor
    · intro found
      cases found
    · rintro ⟨gap, apart, -, isText⟩
      exact absurd (List.append_eq_nil_iff.1 isText.symm).1 apart
  | cons c text ih =>
    rw [afterQualifier?]
    split
    · next blank =>
      rw [exists_gap_cons_iff blank]
      cases found : (after? qualifier text >>= after? separator) with
      | some rest' =>
        -- the first cut that fits is the only one
        have first := (here text rest').1 found
        constructor
        · rintro ⟨⟩
          exact ⟨[], rfl, first⟩
        · rintro ⟨gap, gapped, isText⟩
          have same := first.symm.trans isText
          have empty := eq_nil_of_blank_front notBlank gapped same
          rw [empty, List.nil_append, List.append_right_inj] at same
          exact congrArg some same
      | none =>
        refine ih.trans ?_
        constructor
        · rintro ⟨gap, -, gapped, isText⟩
          exact ⟨gap, gapped, isText⟩
        · rintro ⟨gap, gapped, isText⟩
          refine ⟨gap, ?_, gapped, isText⟩
          rintro rfl
          rw [(here text rest).2 isText] at found
          cases found
    · next notBlank =>
      constructor
      · intro found
        cases found
      · rintro ⟨gap, apart, gapped, isText⟩
        obtain ⟨d, gap, rfl⟩ := List.exists_cons_of_ne_nil apart
        rw [List.cons_append, List.cons.injEq] at isText
        exact absurd (List.all_eq_true.1 gapped d List.mem_cons_self) (isText.1 ▸ notBlank)

/-! ## The words -/

/-- What the reader of the words has found: the words to its left and the text at hand are
a chain, blanks and a semicolon. -/
theorem exists_chain_of_lastWord? {word text name : List Char}
    (isWordChar : ∀ c ∈ word, isWord c = true) (found : lastWord? word text = some name) :
    ∃ segments pad rest, (∀ segment ∈ segments, IsRun segment) ∧ IsRun name ∧
      allBlank pad = true ∧
      word.reverse ++ text = chain segments name ++ (pad ++ ';' :: rest) := by
  fun_induction lastWord? word text with
  | case1 => cases found
  | case2 => cases found
  | case3 word rest nonempty ih =>
    have isRun : IsRun word.reverse := ⟨by simpa using nonempty, by simpa using isWordChar⟩
    obtain ⟨segments, pad, rest', words, isName, padded, isText⟩ := ih (by simp) found
    refine ⟨word.reverse :: segments, pad, rest', ?_, isName, padded, ?_⟩
    · exact List.forall_mem_cons.2 ⟨isRun, words⟩
    · rw [List.reverse_nil, List.nil_append] at isText
      rw [isText, chain]
      simp [separator]
  | case4 word c rest noSeparator goesOn ih =>
    obtain ⟨segments, pad, rest', words, isName, padded, isText⟩ :=
      ih (List.forall_mem_cons.2 ⟨goesOn, isWordChar⟩) found
    exact ⟨segments, pad, rest', words, isName, padded, by simpa using isText⟩
  | case5 => cases found
  | case6 word c rest noSeparator notWord nonempty ends =>
    cases found
    obtain ⟨pad, padded, isText⟩ := exists_trimStart (c :: rest)
    obtain ⟨behind, isBehind⟩ := List.head?_eq_some_iff.1 ends
    refine ⟨[], pad, behind, by simp, ⟨by simpa using nonempty, by simpa using isWordChar⟩,
      padded, ?_⟩
    rw [chain, ← isBehind, ← isText]
  | case7 => cases found

theorem lastWord?_eq_some_iff {text name : List Char} :
    lastWord? [] text = some name ↔
      ∃ segments pad rest, (∀ segment ∈ segments, IsRun segment) ∧ IsRun name ∧
        allBlank pad = true ∧ text = chain segments name ++ (pad ++ ';' :: rest) := by
  constructor
  · intro found
    simpa using exists_chain_of_lastWord? (by simp) found
  · rintro ⟨segments, pad, rest, words, isName, padded, rfl⟩
    exact lastWord?_chain words isName padded rest

/-! ## Lines -/

/-- **A line is read as the using statement that it begins with.** -/
theorem statementName?_eq_some_iff :
    statementName? qualifier line = some name ↔ IsStatement qualifier name line := by
  rw [statementName?]
  simp only [Option.bind_eq_bind, Option.bind_eq_some_iff, Option.some.injEq,
    afterQualifier?_eq_some_iff, lastWord?_eq_some_iff, after?_eq_some_iff]
  constructor
  · rintro ⟨behind, trimmed, text, ⟨gap, apart, gapped, rfl⟩, word,
      ⟨segments, pad, rest, words, isName, padded, rfl⟩, rfl⟩
    obtain ⟨indent, indented, isLine⟩ := exists_trimStart line
    have isName : IsRun (String.ofList word).toList := by rwa [String.toList_ofList]
    refine ⟨_, rest, ⟨indented, apart, gapped, words, isName, padded⟩, ?_⟩
    rw [isLine, trimmed]
    simp
  · rintro ⟨head, rest, ⟨indented, apart, gapped, words, isName, padded⟩, rfl⟩
    refine ⟨_, ?_, _, ⟨_, apart, gapped, rfl⟩, name.toList,
      ⟨_, _, rest, words, isName, padded, rfl⟩, String.ofList_toList⟩
    have word : Solid "using".toList := by decide
    rw [List.append_assoc, List.append_assoc, trimStart_append indented (word.stops _)]
    simp

theorem mem_statementNames {source : String} :
    name ∈ statementNames qualifier source ↔
      ∃ line ∈ lines source.toList, IsStatement qualifier name line := by
  simp only [statementNames, NameSet.mem_ofList, List.mem_filterMap, statementName?_eq_some_iff]

theorem IsStatement.name_unique {other : String} (isStatement : IsStatement qualifier name line)
    (isOther : IsStatement qualifier other line) : name = other := by
  rw [← statementName?_eq_some_iff] at isStatement isOther
  exact Option.some.inj (isStatement.symm.trans isOther)

/-- **A return at the end of a line is part of no statement**: it stands behind the semicolon. -/
theorem isStatement_dropReturn : IsStatement qualifier name (dropReturn line) ↔
    IsStatement qualifier name line := by
  rw [dropReturn]
  split
  · next ended =>
    obtain ⟨front, rfl⟩ := List.getLast?_eq_some_iff.1 ended
    rw [List.dropLast_concat]
    constructor
    · rintro ⟨head, rest, isHead, rfl⟩
      exact ⟨head, rest ++ ['\r'], isHead, by simp⟩
    · rintro ⟨head, rest, isHead, isLine⟩
      rcases List.eq_nil_or_concat rest with rfl | ⟨rest, c, rfl⟩
      · have last := (List.append_inj' isLine rfl).2
        cases last
      · rw [List.concat_eq_append, ← List.cons_append, ← List.append_assoc] at isLine
        exact ⟨head, rest, isHead, (List.append_inj' isLine rfl).1⟩
  · rfl

theorem not_isStatement_nil : ¬ IsStatement qualifier name [] := by
  rintro ⟨head, rest, -, isEmpty⟩
  simp at isEmpty

/-- **A using statement stands in one line**, so a text and one behind it have the statements
of both. -/
theorem exists_isStatement_append {first second : List Char} :
    (∃ line ∈ lines (first ++ '\n' :: second), IsStatement qualifier name line) ↔
      (∃ line ∈ lines first, IsStatement qualifier name line) ∨
        ∃ line ∈ lines second, IsStatement qualifier name line := by
  obtain ⟨front, last, noNewline, isFirst, isBoth⟩ := exists_lines_append_newline first second
  have lastLine : (∃ line ∈ lines last, IsStatement qualifier name line) ↔
      IsStatement qualifier name last := by
    by_cases empty : last = []
    · subst empty
      simp [lines, not_isStatement_nil]
    · simp [lines_last empty noNewline]
  simp only [isFirst, isBoth, List.mem_append, List.mem_cons, or_and_right, exists_or,
    exists_eq_left, isStatement_dropReturn, lastLine, or_assoc]

/-- **The names of a source are those of the using statements its lines begin with**, one
name for each line; and the names of two texts with a newline between them are the names of
both. -/
theorem statementNames_exact (qualifier : String) :
    (∀ source name, name ∈ statementNames qualifier source ↔
      ∃ line ∈ lines source.toList, IsStatement qualifier name line) ∧
    (∀ line, {name | IsStatement qualifier name line}.Subsingleton) ∧
    ∀ first second name, name ∈ statementNames qualifier (first ++ "\n" ++ second) ↔
      name ∈ statementNames qualifier first ∨ name ∈ statementNames qualifier second := by
  refine ⟨fun source name => mem_statementNames, ?_, ?_⟩
  · intro line name isStatement other isOther
    exact isStatement.name_unique isOther
  · intro first second name
    have isText : (first ++ "\n" ++ second).toList = first.toList ++ '\n' :: second.toList := by
      simp
    rw [mem_statementNames, mem_statementNames, mem_statementNames, isText]
    exact exists_isStatement_append

end ExportAudit.Export
