import ExportAudit.Proofs.Json.Strings

/-!
# JSON texts as trees

A text says more than the value in it: where blanks stand, which characters are escaped, in
which order members come and which names they repeat.  A tree keeps all of it, and since its
parts are well formed, so is its text.

Values of unknown members are passed over for their grammar only.  **The text of every tree is
passed over, in front of a rest that does not go on with a number, and whatever is passed over is
the text of a tree.**
-/

namespace ExportAudit.Json

set_option autoImplicit false

open ExportAudit.Text

/-! ## Trees -/

/-- Blanks between the parts of a value. -/
structure Gap where
  blanks : List Char
  allSpace : AllSpace blanks

/-- Something with blanks around it. -/
structure Spaced (α : Type) where
  front : Gap
  inner : α
  back : Gap

/-- A member of an object. -/
structure Member (α : Type) where
  name : Spaced (List Piece)
  value : Spaced α

/-- A JSON value as it is written. -/
inductive Tree where
  | null
  | bool (value : Bool)
  | number (literal : NumberLiteral)
  | string (pieces : List Piece)
  /-- An array; the blanks are those behind the bracket. -/
  | array (gap : Gap) (items : List (Spaced Tree))
  /-- An object; the blanks are those behind the brace. -/
  | object (gap : Gap) (members : List (Member Tree))

/-- The comma in front of what is not the first. -/
def comma (first : Bool) : List Char :=
  if first then [] else [',']

/-- The name of a member with its colon. -/
def nameText (name : Spaced (List Piece)) : List Char :=
  name.front.blanks ++ '"' :: (piecesText name.inner ++ (name.back.blanks ++ [':']))

mutual
/-- The text of a value. -/
def Tree.text : Tree → List Char
  | .null => ['n', 'u', 'l', 'l']
  | .bool true => ['t', 'r', 'u', 'e']
  | .bool false => ['f', 'a', 'l', 's', 'e']
  | .number literal => literal.text
  | .string pieces => '"' :: piecesText pieces
  | .array gap items => '[' :: (gap.blanks ++ (itemsText true items ++ [']']))
  | .object gap members => '\x7b' :: (gap.blanks ++ (membersText true members ++ ['\x7d']))

/-- The text of the elements of an array, or of those behind the first. -/
def itemsText (first : Bool) : List (Spaced Tree) → List Char
  | [] => []
  | ⟨front, item, back⟩ :: rest =>
    comma first ++ (front.blanks ++ (item.text ++ (back.blanks ++ itemsText false rest)))

/-- The text of the members of an object, or of those behind the first. -/
def membersText (first : Bool) : List (Member Tree) → List Char
  | [] => []
  | ⟨name, ⟨front, value, back⟩⟩ :: rest =>
    comma first ++ (nameText name ++
      (front.blanks ++ (value.text ++ (back.blanks ++ membersText false rest))))
end

theorem Tree.array_append (gap : Gap) (items : List (Spaced Tree)) (rest : List Char) :
    (Tree.array gap items).text ++ rest =
      '[' :: (gap.blanks ++ (itemsText true items ++ ']' :: rest)) := by
  simp [Tree.text]

theorem Tree.object_append (gap : Gap) (members : List (Member Tree)) (rest : List Char) :
    (Tree.object gap members).text ++ rest =
      '\x7b' :: (gap.blanks ++ (membersText true members ++ '\x7d' :: rest)) := by
  simp [Tree.text]

/-! ## Where a value begins and ends -/

/-- No blanks. -/
def Gap.empty : Gap :=
  ⟨[], List.forall_mem_nil _⟩

/-- Two gaps, one behind the other. -/
def Gap.append (front back : Gap) : Gap :=
  ⟨front.blanks ++ back.blanks, List.forall_mem_append.2 ⟨front.allSpace, back.allSpace⟩⟩

/-- What is skipped in front of a text is a gap. -/
theorem exists_gap (text : List Char) : ∃ gap : Gap, text = gap.blanks ++ skipSpace text := by
  refine ⟨⟨text.takeWhile isSpace, fun c member => ?_⟩, List.takeWhile_append_dropWhile.symm⟩
  exact List.mem_takeWhile_imp member

theorem isNumberRest_of_isSpace {c : Char} (space : isSpace c = true) : isNumberRest c = false := by
  simp only [isSpace, Bool.or_eq_true, beq_iff_eq] at space
  rcases space with ((rfl | rfl) | rfl) | rfl <;> decide

/-- A number does not go on behind a gap. -/
theorem Gap.stops (gap : Gap) {rest : List Char} (stops : Stops isNumberRest rest) :
    Stops isNumberRest (gap.blanks ++ rest) := by
  obtain ⟨blanks, allSpace⟩ := gap
  cases blanks with
  | nil => exact stops
  | cons c blanks => exact stops_cons.2 (isNumberRest_of_isSpace (allSpace c List.mem_cons_self))

theorem isSpace_eq_false_of_numberStart {c : Char} (begins : c = '-' ∨ isAsciiDigit c = true) :
    isSpace c = false := by
  rcases begins with rfl | digit
  · decide
  · exact isSpace_eq_false_of_isAsciiDigit digit

/-- The characters that a value can begin with. -/
def Tree.Opens : Tree → Char → Prop
  | .null, c => c = 'n'
  | .bool _, c => c = 't' ∨ c = 'f'
  | .number _, c => c = '-' ∨ isAsciiDigit c = true
  | .string _, c => c = '"'
  | .array _ _, c => c = '['
  | .object _ _, c => c = '\x7b'

theorem Tree.exists_opens (tree : Tree) : ∃ c more, tree.text = c :: more ∧ tree.Opens c := by
  match tree with
  | .null => exact ⟨'n', _, by rw [text], rfl⟩
  | .bool true => exact ⟨'t', _, by rw [text], .inl rfl⟩
  | .bool false => exact ⟨'f', _, by rw [text], .inr rfl⟩
  | .number literal =>
    obtain ⟨c, more, isCons, begins⟩ := literal.exists_cons
    exact ⟨c, more, by rw [text, isCons], begins⟩
  | .string pieces => exact ⟨'"', _, by rw [text], rfl⟩
  | .array gap items => exact ⟨'[', _, by rw [text], rfl⟩
  | .object gap members => exact ⟨'\x7b', _, by rw [text], rfl⟩

/-- A value begins neither with a blank nor with the end of an array. -/
theorem Tree.Opens.solid {tree : Tree} {c : Char} (opens : tree.Opens c) :
    isSpace c = false ∧ c ≠ ']' := by
  cases tree with
  | number literal =>
    refine ⟨isSpace_eq_false_of_numberStart opens, ?_⟩
    rintro rfl
    exact absurd opens (by simp [Opens, isAsciiDigit])
  | bool value => rcases opens with rfl | rfl <;> decide
  | _ =>
    cases opens
    decide

/-- Only a number begins like one. -/
theorem Tree.Opens.isNumber {tree : Tree} {c : Char} (opens : tree.Opens c)
    (begins : c = '-' ∨ isAsciiDigit c = true) : ∃ literal, tree = .number literal := by
  cases tree with
  | number literal => exact ⟨literal, rfl⟩
  | bool value => rcases opens with rfl | rfl <;> exact absurd begins (by decide)
  | _ =>
    cases opens
    exact absurd begins (by decide)

/-- Only a string begins with a quote. -/
theorem Tree.Opens.isString {tree : Tree} (opens : tree.Opens '"') :
    ∃ pieces, tree = .string pieces := by
  cases tree with
  | string pieces => exact ⟨pieces, rfl⟩
  | _ => simp [Tree.Opens, isAsciiDigit] at opens

/-- Only an array begins with a bracket. -/
theorem Tree.Opens.isArray {tree : Tree} (opens : tree.Opens '[') :
    ∃ gap items, tree = .array gap items := by
  cases tree with
  | array gap items => exact ⟨gap, items, rfl⟩
  | _ => simp [Tree.Opens, isAsciiDigit] at opens

/-- Only an object begins with a brace. -/
theorem Tree.Opens.isObject {tree : Tree} (opens : tree.Opens '\x7b') :
    ∃ gap members, tree = .object gap members := by
  cases tree with
  | object gap members => exact ⟨gap, members, rfl⟩
  | _ => simp [Tree.Opens, isAsciiDigit] at opens

theorem Tree.length_pos (tree : Tree) : 0 < tree.text.length := by
  obtain ⟨c, more, isCons, -⟩ := tree.exists_opens
  rw [isCons]
  exact Nat.zero_lt_succ _

/-- Blanks in front of a value are skipped, and nothing of it. -/
theorem Gap.skipSpace_tree (gap : Gap) (tree : Tree) (rest : List Char) :
    skipSpace (gap.blanks ++ (tree.text ++ rest)) = tree.text ++ rest := by
  obtain ⟨c, more, isCons, opens⟩ := tree.exists_opens
  rw [isCons]
  exact skipSpace_append gap.allSpace (stops_cons.2 opens.solid.1)

/-- Blanks in front of a mark are skipped. -/
theorem Gap.skipSpace_cons (gap : Gap) {c : Char} (solid : isSpace c = false) (rest : List Char) :
    skipSpace (gap.blanks ++ c :: rest) = c :: rest :=
  skipSpace_append gap.allSpace (stops_cons.2 solid)

/-- The first element of an array begins where the blanks end. -/
theorem Gap.skipSpace_first (gap front : Gap) (tree : Tree) (behind : List Char) :
    skipSpace (gap.blanks ++ (comma true ++ (front.blanks ++ (tree.text ++ behind)))) =
      tree.text ++ behind := by
  have begins := (gap.append front).skipSpace_tree tree behind
  rwa [Gap.append, List.append_assoc] at begins

/-- What is not the first begins with its comma. -/
theorem Gap.skipSpace_comma (gap : Gap) (rest : List Char) :
    skipSpace (gap.blanks ++ (comma false ++ rest)) = ',' :: rest :=
  gap.skipSpace_cons (by decide) rest

/-- A number does not go on where the next element or the end of an array stands. -/
theorem stops_itemsText (items : List (Spaced Tree)) (back : Gap) (rest : List Char) :
    Stops isNumberRest (back.blanks ++ (itemsText false items ++ ']' :: rest)) := by
  refine back.stops ?_
  cases items with
  | nil => exact stops_cons.2 (by decide)
  | cons item items =>
    rw [itemsText]
    exact stops_cons.2 (by decide)

/-- A number does not go on where the next member or the end of an object stands. -/
theorem stops_membersText (members : List (Member Tree)) (back : Gap) (rest : List Char) :
    Stops isNumberRest (back.blanks ++ (membersText false members ++ '\x7d' :: rest)) := by
  refine back.stops ?_
  cases members with
  | nil => exact stops_cons.2 (by decide)
  | cons member members =>
    rw [membersText]
    exact stops_cons.2 (by decide)

theorem length_nameText (name : Spaced (List Piece)) : 1 < (nameText name).length := by
  simp only [nameText, List.length_append, List.length_cons]
  omega

/-! ## Passing over a value -/

theorem skipValue_number {fuel : Nat} (literal : NumberLiteral) (gap : Gap) {rest : List Char}
    (stops : Stops isNumberRest rest) :
    skipValue (fuel + 1) (gap.blanks ++ (literal.text ++ rest)) = .ok rest := by
  have isParts := readParts_text literal stops
  obtain ⟨c, more, isCons, begins⟩ := literal.exists_cons
  have solid := isSpace_eq_false_of_numberStart begins
  rw [isCons, List.cons_append] at isParts
  rw [isCons, List.cons_append, skipValue, gap.skipSpace_cons solid]
  split
  · next same => cases same
  all_goals first
    | next same =>
      obtain ⟨rfl, rfl⟩ := List.cons.inj same
      rw [if_pos begins, skipNumber, isParts]
    | next same =>
      rw [(List.cons.inj same).1] at begins
      exact absurd begins (by decide)

theorem skipItems_close (fuel : Nat) (first : Bool) (gap : Gap) (rest : List Char) :
    skipItems (fuel + 1) first (gap.blanks ++ ']' :: rest) = .ok rest := by
  rw [skipItems, gap.skipSpace_cons (by decide)]
  rfl

/-- An element is passed over, with the comma in front of it. -/
theorem skipItems_item {fuel : Nat} (first : Bool) (gap front : Gap) (item : Tree)
    {behind : List Char}
    (skipped : ∀ gap : Gap, skipValue fuel (gap.blanks ++ (item.text ++ behind)) = .ok behind) :
    skipItems (fuel + 1) first
        (gap.blanks ++ (comma first ++ (front.blanks ++ (item.text ++ behind)))) =
      skipItems fuel false behind := by
  cases first with
  | true =>
    have bare : skipValue fuel (item.text ++ behind) = .ok behind := skipped Gap.empty
    have begins := gap.skipSpace_first front item behind
    obtain ⟨c, more, isCons, opens⟩ := item.exists_opens
    have notEnd := opens.solid.2
    rw [isCons] at bare begins ⊢
    rw [skipItems, begins]
    simpa [notEnd, bind, Except.bind] using congrArg (· >>= skipItems fuel false) bare
  | false =>
    rw [skipItems, gap.skipSpace_comma]
    simp [skipped, bind, Except.bind]

theorem skipMembers_close (fuel : Nat) (first : Bool) (gap : Gap) (rest : List Char) :
    skipMembers (fuel + 1) first (gap.blanks ++ '\x7d' :: rest) = .ok rest := by
  rw [skipMembers, gap.skipSpace_cons (by decide)]
  rfl

theorem skipMember_text {fuel : Nat} (gap : Gap) (name : Spaced (List Piece)) (front : Gap)
    (value : Tree) {behind : List Char}
    (skipped : ∀ gap : Gap, skipValue fuel (gap.blanks ++ (value.text ++ behind)) = .ok behind) :
    skipMember (fuel + 1)
        (gap.blanks ++ (nameText name ++ (front.blanks ++ (value.text ++ behind)))) =
      skipMembers fuel false behind := by
  have opens := (gap.append name.front).skipSpace_cons (c := '"') (by decide)
    (piecesText name.inner ++ (name.back.blanks ++ ':' :: (front.blanks ++ (value.text ++ behind))))
  have colon := name.back.skipSpace_cons (c := ':') (by decide)
    (front.blanks ++ (value.text ++ behind))
  have isText : gap.blanks ++ (nameText name ++ (front.blanks ++ (value.text ++ behind))) =
      (gap.append name.front).blanks ++ '"' :: (piecesText name.inner ++
        (name.back.blanks ++ ':' :: (front.blanks ++ (value.text ++ behind)))) := by
    simp [nameText, Gap.append]
  rw [isText, skipMember, opens]
  simp only [skipChars_pieces, colon, skipped, bind, Except.bind]

/-- A member is passed over, with the comma in front of it. -/
theorem skipMembers_member {fuel : Nat} (first : Bool) (gap : Gap) (name : Spaced (List Piece))
    (front : Gap) (value : Tree) {behind : List Char}
    (skipped : ∀ gap : Gap, skipValue fuel (gap.blanks ++ (value.text ++ behind)) = .ok behind) :
    skipMembers (fuel + 2) first
        (gap.blanks ++ (comma first ++ (nameText name ++ (front.blanks ++ (value.text ++ behind))))) =
      skipMembers fuel false behind := by
  cases first with
  | true =>
    have isMember :=
      skipMember_text Gap.empty { name with front := Gap.empty } front value skipped
    have isText : gap.blanks ++ (comma true ++
          (nameText name ++ (front.blanks ++ (value.text ++ behind)))) =
        (gap.append name.front).blanks ++ '"' :: (piecesText name.inner ++
          (name.back.blanks ++ ':' :: (front.blanks ++ (value.text ++ behind)))) := by
      simp [nameText, comma, Gap.append]
    rw [isText, skipMembers, Gap.skipSpace_cons _ (by decide)]
    simpa [nameText, Gap.empty] using isMember
  | false =>
    have isMember := skipMember_text Gap.empty name front value skipped
    rw [skipMembers, gap.skipSpace_comma]
    simpa [Gap.empty] using isMember

mutual
theorem Tree.skipValue_text (tree : Tree) {fuel : Nat} {rest : List Char} (gap : Gap)
    (enough : 2 * tree.text.length ≤ fuel) (stops : Stops isNumberRest rest) :
    skipValue fuel (gap.blanks ++ (tree.text ++ rest)) = .ok rest := by
  obtain ⟨fuel, rfl⟩ : ∃ more, fuel = more + 1 :=
    Nat.exists_eq_succ_of_ne_zero (by have := tree.length_pos; omega)
  match tree with
  | .null =>
    rw [Tree.text, skipValue, List.cons_append, gap.skipSpace_cons (by decide)]
    rfl
  | .bool true =>
    rw [Tree.text, skipValue, List.cons_append, gap.skipSpace_cons (by decide)]
    rfl
  | .bool false =>
    rw [Tree.text, skipValue, List.cons_append, gap.skipSpace_cons (by decide)]
    rfl
  | .number literal =>
    rw [Tree.text]
    exact skipValue_number literal gap stops
  | .string pieces =>
    rw [Tree.text, skipValue, List.cons_append, gap.skipSpace_cons (by decide)]
    exact skipChars_pieces pieces rest
  | .array inside items =>
    rw [Tree.text, List.length_cons, List.length_append, List.length_append] at enough
    rw [Tree.array_append, skipValue, gap.skipSpace_cons (by decide)]
    exact skipItems_text items true inside rest (by omega)
  | .object inside members =>
    rw [Tree.text, List.length_cons, List.length_append, List.length_append] at enough
    rw [Tree.object_append, skipValue, gap.skipSpace_cons (by decide)]
    exact skipMembers_text members true inside rest (by omega)

theorem skipItems_text (items : List (Spaced Tree)) {fuel : Nat} (first : Bool) (gap : Gap)
    (rest : List Char) (enough : 2 * (itemsText first items).length < fuel) :
    skipItems fuel first (gap.blanks ++ (itemsText first items ++ ']' :: rest)) = .ok rest := by
  obtain ⟨fuel, rfl⟩ := Nat.exists_eq_succ_of_ne_zero (Nat.ne_of_gt (Nat.zero_lt_of_lt enough))
  match items with
  | [] =>
    rw [itemsText]
    exact skipItems_close fuel first gap rest
  | ⟨front, item, back⟩ :: items =>
    have itemPos := item.length_pos
    simp only [itemsText, List.length_append] at enough
    have skipped (before : Gap) :=
      @Tree.skipValue_text item fuel _ before (by omega) (stops_itemsText items back rest)
    rw [itemsText]
    simp only [List.append_assoc]
    rw [skipItems_item first gap front item skipped]
    exact skipItems_text items false back rest (by omega)

theorem skipMembers_text (members : List (Member Tree)) {fuel : Nat} (first : Bool) (gap : Gap)
    (rest : List Char) (enough : 2 * (membersText first members).length < fuel) :
    skipMembers fuel first (gap.blanks ++ (membersText first members ++ '\x7d' :: rest)) =
      .ok rest := by
  obtain ⟨fuel, rfl⟩ := Nat.exists_eq_succ_of_ne_zero (Nat.ne_of_gt (Nat.zero_lt_of_lt enough))
  match members with
  | [] =>
    rw [membersText]
    exact skipMembers_close fuel first gap rest
  | ⟨name, ⟨front, value, back⟩⟩ :: members =>
    have valuePos := value.length_pos
    have namePos := length_nameText name
    simp only [membersText, List.length_append] at enough
    obtain ⟨fuel, rfl⟩ : ∃ more, fuel = more + 1 := Nat.exists_eq_succ_of_ne_zero (by omega)
    have skipped (before : Gap) :=
      @Tree.skipValue_text value fuel _ before (by omega) (stops_membersText members back rest)
    rw [membersText]
    simp only [List.append_assoc]
    rw [skipMembers_member first gap name front value skipped]
    exact skipMembers_text members false back rest (by omega)
end

/-- **The text of a tree is passed over, and nothing behind it.** -/
theorem Tree.skipAny_text (tree : Tree) (gap : Gap) {rest : List Char}
    (stops : Stops isNumberRest rest) : skipAny (gap.blanks ++ (tree.text ++ rest)) = .ok rest := by
  refine tree.skipValue_text gap ?_ stops
  simp only [List.length_append]
  omega

/-! ## What is passed over -/

theorem readWord_eq_ok_iff {word text rest : List Char} :
    readWord word text = .ok rest ↔ text = word ++ rest := by
  induction word generalizing text with
  | nil => simp [readWord]
  | cons a word ih =>
    cases text with
    | nil => simp [readWord]
    | cons c text =>
      rw [readWord, List.cons_append, List.cons.injEq]
      split
      · next same => rw [ih, same]; exact (and_iff_right rfl).symm
      · next other => exact iff_of_false nofun fun both => other both.1.symm

theorem exists_literal_of_skipNumber {text rest : List Char} (skipped : skipNumber text = .ok rest) :
    ∃ literal : NumberLiteral, text = literal.text ++ rest := by
  rw [skipNumber] at skipped
  split at skipped
  · next parts behind isParts =>
    cases skipped
    obtain ⟨literal, -, whole⟩ := exists_numberLiteral isParts
    exact ⟨literal, whole⟩
  · cases skipped

/-- What is not the first is read behind a comma. -/
theorem exists_behind_comma {α : Type} {first : Bool} {c : Char} {behind : List Char}
    (next : List Char → Except Fault α) {answer : α}
    (isRead : (if first then next (c :: behind)
      else if c = ',' then next behind else .error .malformed) = .ok answer) :
    ∃ inner, c :: behind = comma first ++ inner ∧ next inner = .ok answer := by
  split at isRead
  · next isFirst => exact ⟨c :: behind, by rw [isFirst]; rfl, isRead⟩
  · next notFirst =>
    split at isRead
    · next isComma => exact ⟨behind, by rw [isComma, comma, if_neg notFirst]; rfl, isRead⟩
    · cases isRead

mutual
theorem exists_tree_of_skipValue (fuel : Nat) {text rest : List Char}
    (skipped : skipValue fuel text = .ok rest) :
    ∃ (gap : Gap) (tree : Tree), text = gap.blanks ++ (tree.text ++ rest) := by
  match fuel with
  | 0 => cases skipped
  | fuel + 1 =>
    obtain ⟨gap, isText⟩ := exists_gap text
    rw [skipValue] at skipped
    suffices isTree : ∃ tree : Tree, skipSpace text = tree.text ++ rest by
      obtain ⟨tree, isTree⟩ := isTree
      exact ⟨gap, tree, isTree ▸ isText⟩
    split at skipped
    · cases skipped
    · next behind begins =>
      obtain ⟨pieces, rfl⟩ := exists_pieces_of_skipChars skipped
      exact ⟨.string pieces, by rw [begins, Tree.text]; rfl⟩
    · next behind begins =>
      obtain ⟨inside, items, rfl⟩ := exists_items_of_skipItems fuel skipped
      exact ⟨.array inside items, begins.trans (Tree.array_append ..).symm⟩
    · next behind begins =>
      obtain ⟨inside, members, rfl⟩ := exists_members_of_skipMembers fuel skipped
      exact ⟨.object inside members, begins.trans (Tree.object_append ..).symm⟩
    · next behind begins =>
      exact ⟨.null, by rw [begins, readWord_eq_ok_iff.1 skipped, Tree.text]; rfl⟩
    · next behind begins =>
      exact ⟨.bool true, by rw [begins, readWord_eq_ok_iff.1 skipped, Tree.text]; rfl⟩
    · next behind begins =>
      exact ⟨.bool false, by rw [begins, readWord_eq_ok_iff.1 skipped, Tree.text]; rfl⟩
    · next begins =>
      split at skipped
      · obtain ⟨literal, isLiteral⟩ := exists_literal_of_skipNumber skipped
        exact ⟨.number literal, by rw [begins, isLiteral, Tree.text]⟩
      · cases skipped

theorem exists_items_of_skipItems (fuel : Nat) {first : Bool} {text rest : List Char}
    (skipped : skipItems fuel first text = .ok rest) :
    ∃ (gap : Gap) (items : List (Spaced Tree)),
      text = gap.blanks ++ (itemsText first items ++ ']' :: rest) := by
  match fuel with
  | 0 => cases skipped
  | fuel + 1 =>
    obtain ⟨gap, isText⟩ := exists_gap text
    rw [skipItems] at skipped
    suffices areItems : ∃ items, skipSpace text = itemsText first items ++ ']' :: rest by
      obtain ⟨items, areItems⟩ := areItems
      exact ⟨gap, items, areItems ▸ isText⟩
    split at skipped
    · cases skipped
    · next behind begins =>
      cases skipped
      exact ⟨[], by rw [begins, itemsText]; rfl⟩
    · next c behind notEnd begins =>
      obtain ⟨inner, isInner, skipped⟩ := exists_behind_comma
        (fun inner => skipValue fuel inner >>= skipItems fuel false) skipped
      obtain ⟨between, isItem, others⟩ := bind_eq_ok_iff.1 skipped
      obtain ⟨front, item, rfl⟩ := exists_tree_of_skipValue fuel isItem
      obtain ⟨back, items, rfl⟩ := exists_items_of_skipItems fuel others
      exact ⟨⟨front, item, back⟩ :: items, by rw [begins, isInner, itemsText]; simp⟩

theorem exists_members_of_skipMembers (fuel : Nat) {first : Bool} {text rest : List Char}
    (skipped : skipMembers fuel first text = .ok rest) :
    ∃ (gap : Gap) (members : List (Member Tree)),
      text = gap.blanks ++ (membersText first members ++ '\x7d' :: rest) := by
  match fuel with
  | 0 => cases skipped
  | fuel + 1 =>
    obtain ⟨gap, isText⟩ := exists_gap text
    rw [skipMembers] at skipped
    suffices areMembers : ∃ members, skipSpace text = membersText first members ++ '\x7d' :: rest by
      obtain ⟨members, areMembers⟩ := areMembers
      exact ⟨gap, members, areMembers ▸ isText⟩
    split at skipped
    · cases skipped
    · next behind begins =>
      cases skipped
      exact ⟨[], by rw [begins, membersText]; rfl⟩
    · next c behind notEnd begins =>
      obtain ⟨inner, isInner, skipped⟩ := exists_behind_comma (skipMember fuel) skipped
      obtain ⟨member, members, rfl⟩ := exists_member_of_skipMember fuel skipped
      exact ⟨member :: members, by rw [begins, isInner, membersText, membersText]; simp [comma]⟩

/-- A member that is passed over, and the members behind it. -/
theorem exists_member_of_skipMember (fuel : Nat) {text rest : List Char}
    (skipped : skipMember fuel text = .ok rest) :
    ∃ (member : Member Tree) (members : List (Member Tree)),
      text = membersText true (member :: members) ++ '\x7d' :: rest := by
  match fuel with
  | 0 => cases skipped
  | fuel + 1 =>
    obtain ⟨gap, isText⟩ := exists_gap text
    rw [skipMember] at skipped
    split at skipped
    · cases skipped
    · next behind begins =>
      obtain ⟨afterName, isName, answered⟩ := bind_eq_ok_iff.1 skipped
      obtain ⟨pieces, rfl⟩ := exists_pieces_of_skipChars isName
      obtain ⟨nameBack, isNameBack⟩ := exists_gap afterName
      split at answered
      · cases answered
      · next afterColon colon =>
        obtain ⟨between, isValue, others⟩ := bind_eq_ok_iff.1 answered
        obtain ⟨front, value, rfl⟩ := exists_tree_of_skipValue fuel isValue
        obtain ⟨back, members, rfl⟩ := exists_members_of_skipMembers fuel others
        refine ⟨⟨⟨gap, pieces, nameBack⟩, ⟨front, value, back⟩⟩, members, ?_⟩
        rw [isText, begins, isNameBack, colon, membersText]
        simp [nameText, comma]
      · cases answered
    · cases skipped
end

end ExportAudit.Json
