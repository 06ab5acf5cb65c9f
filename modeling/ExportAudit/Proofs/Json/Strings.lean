import ExportAudit.Proofs.Json.ReadBack

/-!
# The spelling of strings

A character of a string may stand for itself or be escaped, by a letter or by the digits of a
code unit.  A piece is one of these spellings, and a string is written as pieces in quotes.

A string may name one half of a pair of code units without the other.  Such a string stands for
no characters, so no reader of strings accepts it, but where nobody looks at it it is passed
over.  **What is passed over is the text of pieces, and it is read exactly if they stand for
characters.**
-/

namespace ExportAudit.Json

set_option autoImplicit false

/-! ## Pieces -/

/-- A piece of a string between its quotes. -/
inductive Piece where
  /-- A character that stands for itself. -/
  | plain (c : Char) (notQuote : c ≠ '"') (notBackslash : c ≠ '\\') (notControl : ¬ c.toNat < 32)
  /-- A short escape. -/
  | short (mark c : Char) (stands : shortEscape? mark = some c)
  /-- A code unit by its digits; it may be half of a pair. -/
  | unit (a b c d : Char) (code : Nat) (names : unit? a b c d = some code)

/-- A piece as it is written. -/
def Piece.text : Piece → List Char
  | plain c _ _ _ => [c]
  | short mark _ _ => ['\\', mark]
  | unit a b c d _ _ => ['\\', 'u', a, b, c, d]

/-- A string as it is written, behind its opening quote. -/
def piecesText (pieces : List Piece) : List Char :=
  pieces.flatMap Piece.text ++ ['"']

/-- The characters of a string, if every half of a pair has its other half. -/
def charsOf? : List Piece → Option (List Char)
  | [] => some []
  | .plain c _ _ _ :: rest => (charsOf? rest).map (c :: ·)
  | .short _ c _ :: rest => (charsOf? rest).map (c :: ·)
  | .unit _ _ _ _ code _ :: rest =>
    if isTrailingUnit code then none
    else if isLeadingUnit code then
      match rest with
      | .unit _ _ _ _ trailing _ :: rest =>
        if isTrailingUnit trailing then (charsOf? rest).map (pairedChar code trailing :: ·) else none
      | _ => none
    else (charsOf? rest).map (Char.ofNat code :: ·)

/-- The mark of a short escape is not that of a code unit. -/
theorem mark_ne_of_shortEscape? {mark c : Char} (stands : shortEscape? mark = some c) :
    mark ≠ 'u' := by
  rintro rfl
  have noMark : shortEscape? 'u' = none := by decide
  rw [noMark] at stands
  cases stands

theorem toOption_push (c : Char) (read : Except Fault (List Char × List Char)) :
    (push c read).toOption = read.toOption.map fun (characters, rest) => (c :: characters, rest) := by
  cases read <;> rfl

theorem exists_of_push {c : Char} {read : Except Fault (List Char × List Char)}
    {characters rest : List Char} (isRead : push c read = .ok (characters, rest)) :
    ∃ more, read = .ok (more, rest) := by
  cases read with
  | error fault => cases isRead
  | ok both =>
    obtain ⟨more, behind⟩ := both
    cases isRead
    exact ⟨more, rfl⟩

theorem readChars_short {mark c : Char} (stands : shortEscape? mark = some c) (rest : List Char) :
    readChars ('\\' :: mark :: rest) = push c (readChars rest) := by
  have notUnit := mark_ne_of_shortEscape? stands
  rw [readChars.eq_6 mark rest (fun _ _ _ _ _ same _ => notUnit same) notUnit, stands]

/-- A first half of a pair is read only with the second half behind it. -/
theorem toOption_readChars_leading {a b c d : Char} {code : Nat} (names : unit? a b c d = some code)
    (leading : isLeadingUnit code = true) {rest : List Char}
    (noUnit : ∀ behind, rest ≠ '\\' :: 'u' :: behind) :
    (readChars ('\\' :: 'u' :: a :: b :: c :: d :: rest)).toOption = none := by
  rw [readChars.eq_3, names]
  simp only [leading, if_true]
  split
  · rfl
  · split
    · exact absurd rfl (noUnit _)
    · rfl

/-- Where the next piece names no code unit, no code unit stands. -/
theorem piecesText_ne_unit {pieces : List Piece}
    (noUnit : ∀ a b c d code names behind, pieces ≠ .unit a b c d code names :: behind)
    (rest behind : List Char) : piecesText pieces ++ rest ≠ '\\' :: 'u' :: behind := by
  intro same
  cases pieces with
  | nil => cases same
  | cons piece pieces =>
    cases piece with
    | plain c _ notBackslash _ => exact notBackslash (List.cons.inj same).1
    | short mark c stands =>
      exact mark_ne_of_shortEscape? stands (List.cons.inj (List.cons.inj same).2).1
    | unit => exact noUnit _ _ _ _ _ _ _ rfl

/-- **The pieces of a string are read as the characters that they stand for.** -/
theorem readChars_pieces (pieces : List Piece) (rest : List Char) :
    (readChars (piecesText pieces ++ rest)).toOption =
      (charsOf? pieces).map fun characters => (characters, rest) := by
  fun_induction charsOf? pieces with
  | case1 => rfl
  | case2 c notQuote notBackslash notControl pieces ih =>
    have isText : piecesText (.plain c notQuote notBackslash notControl :: pieces) ++ rest =
        c :: (piecesText pieces ++ rest) := rfl
    rw [isText, readChars_plain notQuote notBackslash notControl, toOption_push, ih]
    simp only [Option.map_map]
    rfl
  | case3 mark c stands pieces ih =>
    have isText : piecesText (.short mark c stands :: pieces) ++ rest =
        '\\' :: mark :: (piecesText pieces ++ rest) := rfl
    rw [isText, readChars_short stands, toOption_push, ih]
    simp only [Option.map_map]
    rfl
  | case4 a b c d code names pieces trailing =>
    have isText : piecesText (.unit a b c d code names :: pieces) ++ rest =
        '\\' :: 'u' :: a :: b :: c :: d :: (piecesText pieces ++ rest) := rfl
    rw [isText, readChars.eq_3, names]
    simp only [trailing, if_true]
    rfl
  | case5 a b c d code names notTrailing leading e f g h trailing names' pieces isTrailing ih =>
    have isText : piecesText (.unit a b c d code names :: .unit e f g h trailing names' :: pieces) ++
        rest = '\\' :: 'u' :: a :: b :: c :: d :: '\\' :: 'u' :: e :: f :: g :: h ::
          (piecesText pieces ++ rest) := rfl
    rw [isText, readChars.eq_3, names]
    simp only [leading, names', isTrailing, if_true, if_neg notTrailing, toOption_push, ih,
      Option.map_map]
    rfl
  | case6 a b c d code names notTrailing leading e f g h trailing names' pieces notPair =>
    have isText : piecesText (.unit a b c d code names :: .unit e f g h trailing names' :: pieces) ++
        rest = '\\' :: 'u' :: a :: b :: c :: d :: '\\' :: 'u' :: e :: f :: g :: h ::
          (piecesText pieces ++ rest) := rfl
    rw [isText, readChars.eq_3, names]
    simp only [leading, names', if_true, if_neg notTrailing, if_neg notPair]
    rfl
  | case7 a b c d code names pieces notTrailing leading noUnit =>
    exact toOption_readChars_leading names leading
      (piecesText_ne_unit (fun a b c d code names behind => noUnit a b c d code names behind) rest)
  | case8 a b c d code names pieces notTrailing notLeading ih =>
    have isText : piecesText (.unit a b c d code names :: pieces) ++ rest =
        '\\' :: 'u' :: a :: b :: c :: d :: (piecesText pieces ++ rest) := rfl
    rw [isText, readChars.eq_3, names]
    simp only [if_neg notTrailing, if_neg notLeading, toOption_push, ih, Option.map_map]
    rfl

/-- **The pieces of a string are passed over, whatever they stand for.** -/
theorem skipChars_pieces (pieces : List Piece) (rest : List Char) :
    skipChars (piecesText pieces ++ rest) = .ok rest := by
  induction pieces with
  | nil => rfl
  | cons piece pieces ih =>
    cases piece with
    | plain c notQuote notBackslash notControl =>
      have isText : piecesText (.plain c notQuote notBackslash notControl :: pieces) ++ rest =
          c :: (piecesText pieces ++ rest) := rfl
      rw [isText, skipChars.eq_7 c _ notQuote (fun _ _ _ _ _ same _ => notBackslash same)
        (fun _ same _ => notBackslash same) (fun same _ => notBackslash same)
        (fun _ _ same _ => notBackslash same), if_neg notControl, ih]
    | short mark c stands =>
      have isText : piecesText (.short mark c stands :: pieces) ++ rest =
          '\\' :: mark :: (piecesText pieces ++ rest) := rfl
      have notUnit := mark_ne_of_shortEscape? stands
      rw [isText, skipChars.eq_6 mark _ (fun _ _ _ _ _ same _ => notUnit same) notUnit, stands,
        if_pos Option.isSome_some, ih]
    | unit a b c d code names =>
      have isText : piecesText (.unit a b c d code names :: pieces) ++ rest =
          '\\' :: 'u' :: a :: b :: c :: d :: (piecesText pieces ++ rest) := rfl
      rw [isText, skipChars.eq_3, names, if_pos Option.isSome_some, ih]

/-- **What is passed over as a string is the text of pieces.** -/
theorem exists_pieces_of_skipChars {text rest : List Char} (skipped : skipChars text = .ok rest) :
    ∃ pieces, text = piecesText pieces ++ rest := by
  fun_induction skipChars text with
  | case2 behind =>
    cases skipped
    exact ⟨[], rfl⟩
  | case3 a b c d behind isUnit ih =>
    obtain ⟨pieces, rfl⟩ := ih skipped
    obtain ⟨code, names⟩ := Option.isSome_iff_exists.1 isUnit
    exact ⟨.unit a b c d code names :: pieces, rfl⟩
  | case7 mark behind notUnit notMark isShort ih =>
    obtain ⟨pieces, rfl⟩ := ih skipped
    obtain ⟨c, stands⟩ := Option.isSome_iff_exists.1 isShort
    exact ⟨.short mark c stands :: pieces, rfl⟩
  | case10 c behind notQuote notUnit notShortUnit notLast notEscape notControl ih =>
    obtain ⟨pieces, rfl⟩ := ih skipped
    refine ⟨.plain c notQuote ?_ notControl :: pieces, rfl⟩
    -- behind a backslash something else stands, and each such case was taken
    rintro rfl
    cases isText : piecesText pieces ++ rest with
    | nil => exact notLast rfl isText
    | cons e more => exact notEscape e more rfl isText
  | _ => cases skipped

/-- A string that is read is passed over as well. -/
theorem skipChars_of_readChars {text characters rest : List Char}
    (isRead : readChars text = .ok (characters, rest)) : skipChars text = .ok rest := by
  fun_induction readChars text generalizing characters with
  | case2 behind =>
    cases isRead
    rfl
  | case6 a b c d code names notTrailing leading e f g h behind trailing names' isTrailing ih =>
    obtain ⟨more, isRead⟩ := exists_of_push isRead
    rw [skipChars.eq_3, names, if_pos Option.isSome_some, skipChars.eq_3, names',
      if_pos Option.isSome_some, ih isRead]
  | case9 a b c d behind code names notTrailing notLeading ih =>
    obtain ⟨more, isRead⟩ := exists_of_push isRead
    rw [skipChars.eq_3, names, if_pos Option.isSome_some, ih isRead]
  | case12 mark behind notUnit notMark c stands ih =>
    obtain ⟨more, isRead⟩ := exists_of_push isRead
    rw [skipChars.eq_6 mark behind notUnit notMark, stands, if_pos Option.isSome_some, ih isRead]
  | case15 c behind notQuote notUnit notShortUnit notLast notEscape notControl ih =>
    obtain ⟨more, isRead⟩ := exists_of_push isRead
    rw [skipChars.eq_7 c behind notQuote notUnit notShortUnit notLast notEscape,
      if_neg notControl, ih isRead]
  | _ => cases isRead

/-- **What is read as a string is the text of pieces that stand for its characters.** -/
theorem exists_pieces {text characters rest : List Char}
    (isRead : readChars text = .ok (characters, rest)) :
    ∃ pieces, text = piecesText pieces ++ rest ∧ charsOf? pieces = some characters := by
  obtain ⟨pieces, rfl⟩ := exists_pieces_of_skipChars (skipChars_of_readChars isRead)
  have decoded := readChars_pieces pieces rest
  rw [isRead] at decoded
  obtain ⟨found, isFound, same⟩ := Option.map_eq_some_iff.1 decoded.symm
  exact ⟨pieces, rfl, (Prod.mk.inj same).1 ▸ isFound⟩

end ExportAudit.Json
