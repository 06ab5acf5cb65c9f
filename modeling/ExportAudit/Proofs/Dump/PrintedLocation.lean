import ExportAudit.Dump.Location
import ExportAudit.Proofs.Text.Decimal
import ExportAudit.Proofs.Text.Identifier
import ExportAudit.Proofs.Text.Runs

/-!
# Locations as they are printed

Each of the four kinds of location has one printed form.  All of them but the invalid one
are words of path characters with a colon in them, so what a header prints between its
locations cannot be taken for one: separators are no path characters, and a word without a
colon is no location.

A path and its two numbers are told apart by counting colons.  **The file name has none,
so the longest path that two numbers can follow is the file name.**
-/

namespace ExportAudit.Dump

set_option autoImplicit false

open ExportAudit.Text

/-! ## The printed forms -/

/-- The printed form of a location. -/
def Location.render : Location → List Char
  | .invalid => invalidForm
  | .file path number place => path.toList ++ ':' :: (decimal number ++ ':' :: decimal place)
  | .line number place => lineForm ++ (decimal number ++ ':' :: decimal place)
  | .col place => colForm ++ decimal place

/-- A file name that can stand in a location: it is not empty, it has no blank and no
character with a meaning in a header, and it is no keyword. -/
structure IsFileName (name : String) : Prop where
  nonempty : name ≠ ""
  solid : ∀ c ∈ name.toList, isBlank c = false
  unmarked : ∀ c ∈ name.toList, c ∉ ['<', '>', ',', ':', '\'']
  notLine : name ≠ "line"
  notCol : name ≠ "col"

instance (name : String) : Decidable (IsFileName name) :=
  decidable_of_iff (name ≠ "" ∧ name.toList.all (!isBlank ·) = true ∧
      name.toList.all (fun c => !(['<', '>', ',', ':', '\''].contains c)) = true ∧
      name ≠ "line" ∧ name ≠ "col")
    ⟨fun ⟨nonempty, solid, unmarked, notLine, notCol⟩ =>
        ⟨nonempty, by simpa using solid, by simpa using unmarked, notLine, notCol⟩,
      fun isName => ⟨isName.nonempty, by simpa using isName.solid, by simpa using isName.unmarked,
        isName.notLine, isName.notCol⟩⟩

/-- A location that can be printed and read back: its numbers have 32 bits, and its file
has a proper name. -/
def Location.IsPrintable : Location → Prop
  | .invalid => True
  | .file path number place =>
    IsFileName path ∧ number ≤ maxLineNumber ∧ place ≤ maxLineNumber
  | .line number place => number ≤ maxLineNumber ∧ place ≤ maxLineNumber
  | .col place => place ≤ maxLineNumber

/-! ## Words -/

/-- **No digit of any script is a blank.** -/
theorem isBlank_eq_false_of_isDigit {c : Char} (digit : isDigit c = true) : isBlank c = false := by
  obtain ⟨range, inTable, low, high⟩ := Ranges.has_iff.1 digit
  by_contra blank
  have isCode := mem_blankCodes (Bool.not_eq_false _ ▸ blank)
  have apart : ∀ range ∈ digitRanges, ∀ code ∈ blankCodes, ¬ (range.1 ≤ code ∧ code ≤ range.2) := by
    decide +kernel
  exact apart range inTable _ isCode ⟨low, high⟩

theorem isPathChar_of_isDigit {c : Char} (digit : isDigit c = true) : isPathChar c = true := by
  have other (mark : Char) (notDigit : isDigit mark = false) : c ≠ mark := by
    rintro rfl
    simp [notDigit] at digit
  simp [isPathChar, isBlank_eq_false_of_isDigit digit, other '<' (by decide +kernel),
    other '>' (by decide +kernel), other ',' (by decide +kernel), other '\'' (by decide +kernel)]

/-- A word without a colon. -/
def Plain (word : List Char) : Prop :=
  ∀ c ∈ word, isPathChar c = true ∧ c ≠ ':'

theorem Plain.tail {c : Char} {word : List Char} (plain : Plain (c :: word)) : Plain word :=
  fun d member => plain d (List.mem_cons_of_mem c member)

theorem Plain.path {word : List Char} (plain : Plain word) : ∀ c ∈ word, isPathChar c = true :=
  fun c member => (plain c member).1

theorem isDigit_of_mem_decimal {number : Nat} {c : Char} (member : c ∈ decimal number) :
    isDigit c = true :=
  isDigit_of_isAsciiDigit (isAsciiDigit_of_mem_decimal member)

theorem plain_decimal (number : Nat) : Plain (decimal number) := by
  intro c member
  refine ⟨isPathChar_of_isDigit (isDigit_of_mem_decimal member), ?_⟩
  rintro rfl
  have digit := isAsciiDigit_of_mem_decimal member
  exact absurd digit (by decide)

theorem IsFileName.plain {name : String} (isName : IsFileName name) : Plain name.toList := by
  intro c member
  have unmarked := isName.unmarked c member
  simp only [List.mem_cons, List.not_mem_nil, or_false, not_or] at unmarked
  simp [isPathChar, isName.solid c member, unmarked]

theorem isPathChar_colon : isPathChar ':' = true := by
  decide

theorem ne_quote_of_isPathChar {c : Char} (path : isPathChar c = true) : c ≠ '\'' := by
  rintro rfl
  exact absurd path (by decide)

/-- What does not go on with path characters does not go on with digits. -/
theorem stops_isDigit {rest : List Char} (stops : Stops isPathChar rest) : Stops isDigit rest := by
  intro c head
  have notPath := stops c head
  by_contra digit
  simp [isPathChar_of_isDigit (Bool.not_eq_false _ ▸ digit)] at notPath

/-! ## Counting colons -/

section Colons

variable {word rest : List Char}

theorem after?_colon_of_ne_nil (plain : Plain word) (nonempty : word ≠ []) (rest : List Char) :
    after? [':'] (word ++ rest) = none := by
  cases word with
  | nil => exact absurd rfl nonempty
  | cons c word => simp [after?, Ne.symm (plain c List.mem_cons_self).2]

/-- A word without a colon is followed by none either. -/
theorem after?_colon_plain (plain : Plain word) (stops : Stops isPathChar rest) :
    after? [':'] (word ++ rest) = none := by
  cases word with
  | cons c word => exact after?_colon_of_ne_nil plain (by simp) rest
  | nil =>
    cases rest with
    | nil => rfl
    | cons c rest =>
      have other : ':' ≠ c := by
        rintro rfl
        simp [isPathChar_colon] at stops
      simp [after?, other]

/-- A pair of numbers takes a colon. -/
theorem digitsPair?_plain (plain : Plain word) (stops : Stops isPathChar rest) :
    digitsPair? (word ++ rest) = none := by
  have left : (word ++ rest).dropWhile isDigit = word.dropWhile isDigit ++ rest := by
    rw [List.dropWhile_append]
    split
    · next all =>
      rw [List.isEmpty_iff.1 all]
      have noDigit : ([] ++ rest).dropWhile isDigit = rest :=
        dropWhile_run (List.forall_mem_nil _) (stops_isDigit stops)
      exact noDigit
    · rfl
  have noColon : after? [':'] (word.dropWhile isDigit ++ rest) = none :=
    after?_colon_plain (fun c member => plain c ((List.dropWhile_sublist _).mem member)) stops
  rw [digitsPair?, run?, left]
  split
  · rfl
  · simp only [Option.bind_eq_bind, Option.bind_some, noColon, Option.bind_none]

theorem longestPath?_cons {c : Char} {rest : List Char} (path : isPathChar c = true) :
    longestPath? (c :: rest) =
      (((longestPath? rest).map fun (path, numbers, tail) => (c :: path, numbers, tail)) <|>
        (after? [':'] rest >>= digitsPair?).map fun (numbers, tail) => ([c], numbers, tail)) := by
  rw [longestPath?, if_pos path]
  cases longestPath? rest <;> rfl

/-- Without a colon there is no path with two numbers. -/
theorem longestPath?_plain (plain : Plain word) (stops : Stops isPathChar rest) :
    longestPath? (word ++ rest) = none := by
  induction word with
  | nil =>
    cases rest with
    | nil => rfl
    | cons c rest => simp [longestPath?, stops_cons.1 stops]
  | cons c word ih =>
    rw [List.cons_append, longestPath?_cons (plain c List.mem_cons_self).1, ih plain.tail,
      after?_colon_plain plain.tail stops]
    rfl

/-- One colon is not enough. -/
theorem longestPath?_one_colon {number : List Char} (plain : Plain word) (digits : Plain number)
    (stops : Stops isPathChar rest) : longestPath? (word ++ ':' :: (number ++ rest)) = none := by
  induction word with
  | nil =>
    rw [List.nil_append, longestPath?_cons isPathChar_colon, longestPath?_plain digits stops,
      after?_colon_plain digits stops]
    rfl
  | cons c word ih =>
    rw [List.cons_append, longestPath?_cons (plain c List.mem_cons_self).1, ih plain.tail]
    cases word with
    | nil =>
      have reached : after? [':'] ([] ++ ':' :: (number ++ rest)) = some (number ++ rest) := rfl
      rw [reached, Option.bind_eq_bind, Option.bind_some, digitsPair?_plain digits stops]
      rfl
    | cons d word =>
      rw [after?_colon_of_ne_nil plain.tail (by simp)]
      rfl

/-- Two numbers are read with the colon between them. -/
theorem digitsPair?_decimal (number place : Nat) (stops : Stops isPathChar rest) :
    digitsPair? (decimal number ++ ':' :: (decimal place ++ rest)) =
      some ((decimal number, decimal place), rest) := by
  have first : run? isDigit (decimal number ++ ':' :: (decimal place ++ rest)) =
      some (decimal number, ':' :: (decimal place ++ rest)) :=
    run?_run (decimal_ne_nil number) (fun c => isDigit_of_mem_decimal)
      (stops_cons.2 (by decide +kernel))
  have second : run? isDigit (decimal place ++ rest) = some (decimal place, rest) :=
    run?_run (decimal_ne_nil place) (fun c => isDigit_of_mem_decimal) (stops_isDigit stops)
  rw [digitsPair?, first]
  simp only [Option.bind_eq_bind, Option.bind_some, after?, if_true, second]

/-- **The longest path with two numbers is the file name.** -/
theorem longestPath?_file (nonempty : word ≠ []) (plain : Plain word) (number place : Nat)
    (stops : Stops isPathChar rest) :
    longestPath? (word ++ ':' :: (decimal number ++ ':' :: (decimal place ++ rest))) =
      some (word, (decimal number, decimal place), rest) := by
  induction word with
  | nil => exact absurd rfl nonempty
  | cons c word ih =>
    rw [List.cons_append, longestPath?_cons (plain c List.mem_cons_self).1]
    cases word with
    | cons d word =>
      rw [ih (by simp) plain.tail]
      rfl
    | nil =>
      have afterColon : longestPath?
          ([] ++ ':' :: (decimal number ++ ':' :: (decimal place ++ rest))) = none := by
        rw [List.nil_append, longestPath?_cons isPathChar_colon,
          longestPath?_one_colon (plain_decimal number) (plain_decimal place) stops,
          after?_colon_of_ne_nil (plain_decimal number) (decimal_ne_nil number)]
        rfl
      have reached :
          after? [':'] ([] ++ ':' :: (decimal number ++ ':' :: (decimal place ++ rest))) =
          some (decimal number ++ ':' :: (decimal place ++ rest)) := rfl
      rw [afterColon, reached, Option.bind_eq_bind, Option.bind_some,
        digitsPair?_decimal number place stops]
      rfl

end Colons

/-! ## Reading a printed location -/

namespace Location

variable {rest : List Char}

theorem invalidForm_eq : invalidForm = '<' :: "invalid sloc>".toList := by
  decide

theorem lineForm_eq : lineForm = "line".toList ++ [':'] := by
  decide

theorem colForm_eq : colForm = "col".toList ++ [':'] := by
  decide

theorem after?_invalidForm {c : Char} (other : c ≠ '<') (rest : List Char) :
    after? invalidForm (c :: rest) = none := by
  rw [invalidForm_eq, after?, if_neg (Ne.symm other)]

theorem render_ne_nil (location : Location) : location.render ≠ [] := by
  cases location with
  | invalid => exact (invalidForm_eq ▸ List.cons_ne_nil _ _ : invalidForm ≠ [])
  | file path number place => simp [render]
  | line number place => simp [render, decimal_ne_nil]
  | col place => simp [render, decimal_ne_nil]

/-- A file name before a colon is no keyword before a colon. -/
theorem after?_keyword {path keyword : List Char} (plain : Plain path) (noColon : ':' ∉ keyword)
    (other : path ≠ keyword) (rest : List Char) :
    after? (keyword ++ [':']) (path ++ ':' :: rest) = none := by
  have upToColon (word rest : List Char) (noColon : ':' ∉ word) :
      (word ++ ':' :: rest).takeWhile (· != ':') = word := by
    refine takeWhile_run (fun c member => ?_) (stops_cons.2 (by simp))
    rw [bne_iff_ne]
    rintro rfl
    exact noColon member
  rw [Option.eq_none_iff_forall_ne_some]
  intro after starts
  rw [after?_eq_some_iff, List.append_assoc] at starts
  have same := congrArg (List.takeWhile (· != ':')) starts
  rw [upToColon path rest fun member => (plain _ member).2 rfl, List.singleton_append,
    upToColon keyword after noColon] at same
  exact other same

theorem ofNumbers_decimal (make : Nat → Nat → Location) {number place : Nat}
    (small : number ≤ maxLineNumber) (smallPlace : place ≤ maxLineNumber) :
    ofNumbers make (decimal number, decimal place) = make number place := by
  rw [ofNumbers, lineNumber?_decimal small, lineNumber?_decimal smallPlace]

theorem lineAt?_eq_none {text : List Char} (notLine : after? lineForm text = none)
    (before : Option Char) : lineAt? before text = none := by
  rw [lineAt?, notLine]
  split <;> rfl

theorem colAt?_eq_none {text : List Char} (notCol : after? colForm text = none)
    (before : Option Char) : colAt? before text = none := by
  rw [colAt?, notCol]
  split <;> rfl

theorem lineAt?_render {number place : Nat} (small : number ≤ maxLineNumber)
    (smallPlace : place ≤ maxLineNumber) {before : Option Char} (starts : wordAt before = false)
    (stops : Stops isPathChar rest) :
    lineAt? before ((line number place).render ++ rest) = some (.line number place, rest) := by
  have keyword : after? lineForm ((line number place).render ++ rest) =
      some (decimal number ++ ':' :: (decimal place ++ rest)) := by
    rw [render, List.append_assoc, after?_append, List.append_assoc, List.cons_append]
  rw [lineAt?, if_neg (by simp [starts]), keyword]
  simp only [Option.bind_eq_bind, Option.bind_some, digitsPair?_decimal number place stops,
    ofNumbers_decimal _ small smallPlace]

theorem colAt?_render {place : Nat} (small : place ≤ maxLineNumber) {before : Option Char}
    (starts : wordAt before = false) (stops : Stops isPathChar rest) :
    colAt? before ((col place).render ++ rest) = some (.col place, rest) := by
  have keyword : after? colForm ((col place).render ++ rest) = some (decimal place ++ rest) := by
    rw [render, List.append_assoc, after?_append]
  have digits : run? isDigit (decimal place ++ rest) = some (decimal place, rest) :=
    run?_run (decimal_ne_nil place) (fun c => isDigit_of_mem_decimal) (stops_isDigit stops)
  rw [colAt?, if_neg (by simp [starts]), keyword]
  simp only [Option.bind_eq_bind, Option.bind_some, digits, lineNumber?_decimal small,
    Option.map_some, Option.getD_some]

theorem fileAt?_render {path : String} {number place : Nat} (isName : IsFileName path)
    (small : number ≤ maxLineNumber) (smallPlace : place ≤ maxLineNumber)
    (stops : Stops isPathChar rest) :
    fileAt? ((file path number place).render ++ rest) =
      some (.file path number place, rest) := by
  have nonempty : path.toList ≠ [] := by simpa using isName.nonempty
  have longest := longestPath?_file nonempty isName.plain number place stops
  rw [fileAt?, render, List.append_assoc, List.cons_append, List.append_assoc, List.cons_append,
    longest, Option.map_some]
  dsimp only
  rw [ofNumbers_decimal _ small smallPlace, String.ofList_toList]

/-- **A printed location is read back**, at the start of a word and where no path goes on. -/
theorem at?_render {location : Location} (printable : location.IsPrintable) {before : Option Char}
    (starts : wordAt before = false) (stops : Stops isPathChar rest) :
    at? before (location.render ++ rest) = some (location, location.render.length) := by
  have used : (location.render ++ rest).length - rest.length = location.render.length := by
    rw [List.length_append, Nat.add_sub_cancel]
  cases location with
  | invalid =>
    rw [at?, render, after?_append]
    exact congrArg (fun n => some (Location.invalid, n)) used
  | line number place =>
    obtain ⟨small, smallPlace⟩ := printable
    have notInvalid : after? invalidForm ((line number place).render ++ rest) = none := by
      rw [render, lineForm_eq]
      exact after?_invalidForm (by decide) _
    rw [at?, notInvalid, lineAt?_render small smallPlace starts stops]
    exact congrArg (fun n => some (Location.line number place, n)) used
  | col place =>
    have notInvalid : after? invalidForm ((col place).render ++ rest) = none := by
      rw [render, colForm_eq]
      exact after?_invalidForm (by decide) _
    have notLine : after? lineForm ((col place).render ++ rest) = none := by
      rw [render, colForm_eq, lineForm_eq]
      rfl
    rw [at?, notInvalid, lineAt?_eq_none notLine, colAt?_render printable starts stops]
    exact congrArg (fun n => some (Location.col place, n)) used
  | file path number place =>
    obtain ⟨isName, small, smallPlace⟩ := printable
    have notKeyword (keyword : String) (noColon : ':' ∉ keyword.toList) (other : path ≠ keyword) :
        after? (keyword.toList ++ [':']) ((file path number place).render ++ rest) = none := by
      rw [render, List.append_assoc, List.cons_append]
      exact after?_keyword isName.plain noColon (fun same => other (String.toList_injective same)) _
    have notLine := notKeyword "line" (by decide) isName.notLine
    have notCol := notKeyword "col" (by decide) isName.notCol
    rw [← lineForm_eq] at notLine
    rw [← colForm_eq] at notCol
    have notInvalid : after? invalidForm ((file path number place).render ++ rest) = none := by
      obtain ⟨c, name, isCons⟩ := List.exists_cons_of_ne_nil
        (show path.toList ≠ [] by simpa using isName.nonempty)
      rw [render, isCons]
      refine after?_invalidForm ?_ _
      have unmarked := isName.unmarked c (isCons ▸ List.mem_cons_self)
      rintro rfl
      simp at unmarked
    rw [at?, notInvalid, lineAt?_eq_none notLine, colAt?_eq_none notCol,
      fileAt?_render isName small smallPlace stops]
    exact congrArg (fun n => some (Location.file path number place, n)) used

/-! ## What is no location -/

theorem at?_eq_none {text : List Char} (notInvalid : after? invalidForm text = none)
    (notLine : after? lineForm text = none) (notCol : after? colForm text = none)
    (noPath : longestPath? text = none) (before : Option Char) : at? before text = none := by
  rw [at?, notInvalid, lineAt?_eq_none notLine, colAt?_eq_none notCol, fileAt?, noPath]
  rfl

/-- No location starts with a character that is none of a path, unless it is the invalid one. -/
theorem at?_mark {c : Char} (mark : isPathChar c = false)
    (notInvalid : after? invalidForm (c :: rest) = none) (before : Option Char) :
    at? before (c :: rest) = none := by
  have other (d : Char) (path : isPathChar d = true) : d ≠ c := by
    rintro rfl
    simp [mark] at path
  refine at?_eq_none notInvalid ?_ ?_ ?_ before
  · rw [lineForm_eq]
    exact if_neg (other 'l' (by decide))
  · rw [colForm_eq]
    exact if_neg (other 'c' (by decide))
  · rw [longestPath?, if_neg (by simp [mark])]

/-- No location starts with a separator. -/
theorem at?_separator {c : Char} (mark : isPathChar c = false) (other : c ≠ '<')
    (before : Option Char) : at? before (c :: rest) = none :=
  at?_mark mark (after?_invalidForm other rest) before

/-- **No location starts in a word without a colon.** -/
theorem passes_plain {word : List Char} (plain : Plain word) (stops : Stops isPathChar rest) :
    Passes at? word rest := by
  intro c back behind before
  have plain : Plain (c :: back) := fun d member => plain d (behind.subset member)
  have notKeyword (keyword : List Char) (path : keyword.all isPathChar = true)
      (colon : ':' ∈ keyword) : after? keyword (c :: back ++ rest) = none := by
    rw [Option.eq_none_iff_forall_ne_some]
    intro after starts
    have isFront := prefix_of_after? (List.all_eq_true.1 path) stops starts
    exact (plain ':' (isFront.subset colon)).2 rfl
  have notInvalid : after? invalidForm (c :: back ++ rest) = none := by
    refine after?_invalidForm ?_ _
    rintro rfl
    exact absurd (plain '<' List.mem_cons_self).1 (by decide)
  exact at?_eq_none notInvalid (notKeyword lineForm (by decide) (by decide))
    (notKeyword colForm (by decide) (by decide)) (longestPath?_plain plain stops) before

/-- The printed forms are words with a colon, but for the invalid one. -/
theorem isPathChar_of_mem_render {location : Location} (printable : location.IsPrintable)
    (valid : location ≠ .invalid) : ∀ c ∈ location.render, isPathChar c = true := by
  have pair (number place : Nat) :
      ∀ c ∈ decimal number ++ ':' :: decimal place, isPathChar c = true := by
    simp only [List.mem_append, List.mem_cons]
    rintro c (member | rfl | member)
    · exact (plain_decimal number).path c member
    · exact isPathChar_colon
    · exact (plain_decimal place).path c member
  cases location with
  | invalid => exact absurd rfl valid
  | file path number place =>
    simp only [render, List.mem_append, List.mem_cons]
    rintro c (member | rfl | member)
    · exact printable.1.plain.path c member
    · exact isPathChar_colon
    · exact pair number place c (by simpa using member)
  | line number place =>
    intro c member
    rcases List.mem_append.1 member with member | member
    · exact List.all_eq_true.1 (by decide : lineForm.all isPathChar = true) c member
    · exact pair number place c member
  | col place =>
    intro c member
    rcases List.mem_append.1 member with member | member
    · exact List.all_eq_true.1 (by decide : colForm.all isPathChar = true) c member
    · exact (plain_decimal place).path c member

/-- No printed form has a quote. -/
theorem ne_quote_of_mem_render {location : Location} (printable : location.IsPrintable) :
    ∀ c ∈ location.render, c ≠ '\'' := by
  by_cases valid : location = .invalid
  · subst valid
    have unquoted : '\'' ∉ invalidForm := by decide
    rintro c member rfl
    exact unquoted member
  · exact fun c member => ne_quote_of_isPathChar (isPathChar_of_mem_render printable valid c member)

theorem colon_mem_render {location : Location} (valid : location ≠ .invalid) :
    ':' ∈ location.render := by
  cases location with
  | invalid => exact absurd rfl valid
  | file path number place => simp [render]
  | line number place => simp [render]
  | col place => simp [render, colForm_eq]

/-- The bracket in front of a location does not make it the invalid one. -/
theorem at?_bracket {location : Location} (printable : location.IsPrintable)
    (stops : Stops isPathChar rest) (before : Option Char) :
    at? before ('<' :: (location.render ++ rest)) = none := by
  refine at?_mark (by decide) ?_ before
  rw [Option.eq_none_iff_forall_ne_some]
  intro after starts
  rw [after?_eq_some_iff, invalidForm_eq, List.cons_append, List.cons.injEq] at starts
  obtain ⟨-, same⟩ := starts
  by_cases valid : location = .invalid
  · rw [valid, render, invalidForm_eq, List.cons_append] at same
    exact absurd (List.cons.inj same).1 (by decide)
  · have words := congrArg (List.takeWhile isPathChar) same
    have isWord : "invalid sloc>".toList ++ after =
        "invalid".toList ++ ' ' :: ("sloc>".toList ++ after) := rfl
    rw [takeWhile_run (isPathChar_of_mem_render printable valid) stops, isWord,
      takeWhile_run (List.all_eq_true.1 (by decide : "invalid".toList.all isPathChar = true))
        (stops_cons.2 (by decide))] at words
    have colon := colon_mem_render valid
    rw [words] at colon
    exact absurd colon (by decide)

/-! ## Locations with something between them -/

/-- What stands in front of a location: no location starts in it, and it ends in no word. -/
structure IsGap (gap rest : List Char) : Prop where
  passes : Passes at? gap rest
  ends : wordAt gap.getLast? = false
  nonempty : gap ≠ []

/-- Characters in which no location starts and none goes on. -/
def Separates (marks : List Char) : Prop :=
  ∀ c ∈ marks, isPathChar c = false ∧ c ≠ '<'

instance (marks : List Char) : Decidable (Separates marks) :=
  decidable_of_iff (marks.all (fun c => !isPathChar c && c != '<') = true) (by simp [Separates])

section Separators

variable {marks : List Char} (separates : Separates marks) (rest : List Char)
include separates

theorem Separates.stops (more : Stops isPathChar rest ∨ marks ≠ []) :
    Stops isPathChar (marks ++ rest) := by
  cases marks with
  | nil => simpa using more
  | cons c marks => exact stops_cons.2 (separates c List.mem_cons_self).1

theorem Separates.passes : Passes at? marks rest := by
  induction marks with
  | nil => exact passes_nil
  | cons c marks ih =>
    obtain ⟨mark, other⟩ := separates c List.mem_cons_self
    exact passes_cons.2 ⟨at?_separator mark other,
      ih fun d member => separates d (List.mem_cons_of_mem c member)⟩

theorem Separates.isGap (ends : wordAt marks.getLast? = false) (nonempty : marks ≠ []) :
    IsGap marks rest :=
  ⟨separates.passes rest, ends, nonempty⟩

end Separators

/-- **A location behind a gap is the next one that a search finds.** -/
theorem allFrom_gap {location : Location} {gap : List Char} (printable : location.IsPrintable)
    (isGap : IsGap gap (location.render ++ rest)) (stops : Stops isPathChar rest)
    (before : Option Char) :
    allFrom at? 0 before (gap ++ (location.render ++ rest)) =
      location :: allFrom at? 0 location.render.getLast? rest := by
  have starts : wordAt (gap.getLast?.or before) = false := by
    rw [List.getLast?_eq_some_getLast isGap.nonempty, Option.some_or,
      ← List.getLast?_eq_some_getLast isGap.nonempty]
    exact isGap.ends
  rw [allFrom_passes isGap.passes,
    allFrom_found location.render_ne_nil (at?_render printable starts stops)]

end Location

end ExportAudit.Dump
