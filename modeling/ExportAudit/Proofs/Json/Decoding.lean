import ExportAudit.Proofs.Json.Records
import ExportAudit.Proofs.Json.Tree

/-!
# What typed readers make of a tree

A typed reader goes through a text once, from left to right, with nothing but characters before
it.  What it is to answer can be said on the tree of the text: the characters of a string, the
integer of a number, the elements of an array.

A reader follows a decoder of trees if in front of every tree it answers what the decoder makes of
it and leaves the rest, **and if it refuses every tree that the decoder refuses.**  It also reads
nothing but trees, so that what it has read can be taken apart.
-/

namespace ExportAudit.Json

set_option autoImplicit false

open ExportAudit.Text

/-- A reader answers what a decoder makes of the tree at hand. -/
structure Follows {α : Type} (reader : Reader α) (decode : Tree → Option α) : Prop where
  reads : ∀ (gap : Gap) (tree : Tree) {rest : List Char}, Stops isNumberRest rest →
    (reader (gap.blanks ++ (tree.text ++ rest))).toOption =
      (decode tree).map fun value => (value, rest)
  exists_tree : ∀ {text rest : List Char} {value : α}, reader text = .ok (value, rest) →
    ∃ (gap : Gap) (tree : Tree), text = gap.blanks ++ (tree.text ++ rest)

theorem toOption_map {α β : Type} (make : α → β) (read : Except Fault α) :
    (read.map make).toOption = read.toOption.map make := by
  cases read <;> rfl

theorem toOption_bind {α β : Type} (read : Except Fault α) (next : α → Except Fault β) :
    (read >>= next).toOption = read.toOption.bind fun found => (next found).toOption := by
  cases read <;> rfl

theorem toOption_eq_some_iff {α : Type} {read : Except Fault α} {found : α} :
    read.toOption = some found ↔ read = .ok found := by
  cases read <;> simp [Except.toOption]

/-! ## Strings -/

/-- The string of a tree that is one. -/
def Tree.string? : Tree → Option String
  | .string pieces => (charsOf? pieces).map String.ofList
  | _ => none

/-- **Strings are read as the characters that their pieces stand for.** -/
theorem follows_string : Follows readString Tree.string? where
  reads gap tree {rest} _ := by
    obtain ⟨c, more, isCons, opens⟩ := tree.exists_opens
    rw [readString, gap.skipSpace_tree]
    cases tree with
    | string pieces =>
      rw [Tree.text, List.cons_append, Tree.string?]
      simp only [toOption_map, readChars_pieces, Option.map_map]
      rfl
    | _ =>
      rw [isCons, List.cons_append]
      split
      · next same =>
        obtain ⟨pieces, isString⟩ := ((List.cons.inj same).1 ▸ opens).isString
        cases isString
      · rfl
  exists_tree {text rest value} isRead := by
    obtain ⟨gap, isText⟩ := exists_gap text
    rw [readString] at isRead
    split at isRead
    · next behind begins =>
      obtain ⟨⟨characters, afterString⟩, isString, answered⟩ := map_eq_ok_iff.1 isRead
      cases answered
      obtain ⟨pieces, rfl, -⟩ := exists_pieces isString
      exact ⟨gap, .string pieces, by rw [isText, begins, Tree.text]; rfl⟩
    · cases isRead

/-! ## Numbers -/

/-- What is made of a number. -/
def Tree.number? {α : Type} (make : Number → Option α) : Tree → Option α
  | .number literal => make literal.parts.toNumber
  | _ => none

/-- A literal is read as the number that its parts say, unless it is too large. -/
theorem readNumber_eq {text rest : List Char} {parts : NumberParts}
    (isParts : readParts text = .ok (parts, rest)) :
    readNumber text =
      if parts.toNumber = .float ∧ parts.isTooLarge = true then .error .malformed
      else .ok (parts.toNumber, rest) := by
  rw [readNumber, isParts]
  simp only [bind, Except.bind]
  split
  · next isFloat => simp [isFloat]
  · next notFloat => exact (if_neg fun both => notFloat both.1).symm

theorem exists_parts_of_readNumber {text rest : List Char} {number : Number}
    (isRead : readNumber text = .ok (number, rest)) :
    ∃ parts, readParts text = .ok (parts, rest) := by
  cases isParts : readParts text with
  | error fault => simp [readNumber, isParts, bind, Except.bind] at isRead
  | ok both =>
    obtain ⟨parts, behind⟩ := both
    rw [readNumber_eq isParts] at isRead
    split at isRead
    · cases isRead
    · cases isRead
      exact ⟨parts, rfl⟩

/-- **Numbers are read as what their literals say.** -/
theorem follows_number {α : Type} {make : Number → Option α} (noFloat : make .float = none) :
    Follows (readNumberAs make) (Tree.number? make) where
  reads gap tree {rest} stops := by
    obtain ⟨c, more, isCons, opens⟩ := tree.exists_opens
    rw [readNumberAs, gap.skipSpace_tree]
    cases tree with
    | number literal =>
      have begins : c = '-' ∨ isAsciiDigit c = true := opens
      have isParts := readParts_text literal stops
      rw [Tree.text] at isCons
      rw [isCons, List.cons_append] at isParts
      rw [Tree.text, isCons, List.cons_append, Tree.number?]
      dsimp only
      rw [if_pos begins, readNumber_eq isParts]
      split
      · next isFloat =>
        rw [isFloat.1, noFloat]
        rfl
      · cases isMade : make literal.parts.toNumber <;> simp [isMade, bind, Except.bind] <;> rfl
    | _ =>
      rw [isCons, List.cons_append]
      dsimp only
      split
      · next begins =>
        obtain ⟨literal, same⟩ := opens.isNumber begins
        cases same
      · rfl
  exists_tree {text rest value} isRead := by
    obtain ⟨gap, isText⟩ := exists_gap text
    rw [readNumberAs] at isRead
    split at isRead
    · next c behind begins =>
      split at isRead
      · obtain ⟨⟨number, afterNumber⟩, isNumber, answered⟩ := bind_eq_ok_iff.1 isRead
        obtain ⟨parts, isParts⟩ := exists_parts_of_readNumber isNumber
        obtain ⟨literal, -, whole⟩ := exists_numberLiteral isParts
        dsimp only at answered
        split at answered
        · cases answered
          exact ⟨gap, .number literal, by rw [isText, begins, whole, Tree.text]⟩
        · cases answered
      · cases isRead
    · cases isRead

/-- The integer that a number is spelled as, without fraction and exponent.  Zero has no sign. -/
def NumberLiteral.integer? (literal : NumberLiteral) : Option Int :=
  let magnitude := digitsValue literal.whole.text
  if literal.fraction.isSome ∨ literal.exponent.isSome then none
  else if !literal.negative then some magnitude
  else if magnitude = 0 then none
  else some (-magnitude)

/-- The integer of a tree that is one. -/
def Tree.integer? : Tree → Option Int
  | .number literal => literal.integer?
  | _ => none

/-- The word of 64 bits that an integer is. -/
def Tree.unsigned? (tree : Tree) : Option UInt64 :=
  tree.integer?.bind fun value =>
    if 0 ≤ value ∧ value < Nat.pow 2 64 then some (UInt64.ofNat value.toNat) else none

/-- The word of 32 bits with a sign that an integer is. -/
def Tree.signed? (tree : Tree) : Option Int32 :=
  tree.integer?.bind fun value =>
    if -Nat.pow 2 31 ≤ value ∧ value < Nat.pow 2 31 then some (Int32.ofInt value) else none

/-- The number that an integer is: one that fits no machine word counts as broken. -/
def Number.ofInt (value : Int) : Number :=
  if 0 ≤ value then if value < Nat.pow 2 64 then .natural value.toNat else .float
  else if -Nat.pow 2 63 ≤ value then .negative value.natAbs else .float

theorem Number.ofInt_natural {value : Int} (sign : 0 ≤ value) (small : value < Nat.pow 2 64) :
    Number.ofInt value = .natural value.toNat := by
  rw [ofInt, if_pos sign, if_pos small]

theorem Number.ofInt_negative {value : Int} (sign : ¬ 0 ≤ value) (small : -Nat.pow 2 63 ≤ value) :
    Number.ofInt value = .negative value.natAbs := by
  rw [ofInt, if_neg sign, if_pos small]

theorem Number.ofInt_float {value : Int} (large : ¬ (-Nat.pow 2 63 ≤ value ∧ value < Nat.pow 2 64)) :
    Number.ofInt value = .float := by
  by_cases sign : 0 ≤ value
  · rw [ofInt, if_pos sign, if_neg (by omega)]
  · rw [ofInt, if_neg sign, if_neg (by omega)]

/-- What number a literal is hangs on its integer alone. -/
theorem toNumber_parts (literal : NumberLiteral) :
    literal.parts.toNumber = literal.integer?.elim .float Number.ofInt := by
  rw [NumberParts.toNumber, NumberLiteral.integer?]
  by_cases broken : literal.fraction.isSome = true ∨ literal.exponent.isSome = true
  · rw [if_pos broken, if_pos (by simpa [NumberLiteral.parts] using broken), Option.elim_none]
  rw [if_neg broken, if_neg (by simpa [NumberLiteral.parts] using broken)]
  by_cases sign : (!literal.negative) = true
  · rw [if_pos sign, if_pos (show (!literal.parts.negative) = true from sign), Option.elim_some]
    by_cases small : digitsValue literal.whole.text < Nat.pow 2 64
    · rw [Number.ofInt_natural (by omega) (by omega), Int.toNat_natCast]
      exact if_pos small
    · rw [Number.ofInt_float (by omega)]
      exact if_neg small
  · rw [if_neg sign, if_neg (show ¬ (!literal.parts.negative) = true from sign)]
    by_cases zero : digitsValue literal.whole.text = 0
    · rw [if_pos zero, Option.elim_none]
      exact if_neg fun both => Nat.ne_of_gt both.1 zero
    · rw [if_neg zero, Option.elim_some]
      by_cases small : digitsValue literal.whole.text ≤ Nat.pow 2 63
      · rw [Number.ofInt_negative (by omega) (by omega), Int.natAbs_neg, Int.natAbs_natCast]
        exact if_pos ⟨Nat.pos_of_ne_zero zero, small⟩
      · rw [Number.ofInt_float (by omega)]
        exact if_neg fun both => small both.2

/-- A reader of numbers follows the decoder that makes the same of every integer. -/
theorem follows_integer {α : Type} {make : Number → Option α} {decode : Tree → Option α}
    {ofInteger : Int → Option α} (isDecoder : ∀ tree, decode tree = tree.integer?.bind ofInteger)
    (noFloat : make .float = none) (agree : ∀ value, make (.ofInt value) = ofInteger value) :
    Follows (readNumberAs make) decode := by
  have same : decode = Tree.number? make := by
    funext tree
    rw [isDecoder]
    cases tree with
    | number literal =>
      rw [Tree.integer?, Tree.number?, toNumber_parts]
      cases literal.integer? with
      | none => exact noFloat.symm
      | some value => exact (agree value).symm
    | _ => rfl
  rw [same]
  exact follows_number noFloat

/-- **Words of 64 bits are read.** -/
theorem follows_unsigned : Follows readUnsigned Tree.unsigned? := by
  refine follows_integer (fun _ => rfl) rfl fun value => ?_
  by_cases fits : 0 ≤ value ∧ value < Nat.pow 2 64
  · rw [if_pos fits, Number.ofInt_natural fits.1 fits.2]
  · rw [if_neg fits]
    by_cases small : -Nat.pow 2 63 ≤ value ∧ value < Nat.pow 2 64
    · rw [Number.ofInt_negative (by omega) small.1]
    · rw [Number.ofInt_float small]

/-- **Words of 32 bits with a sign are read.** -/
theorem follows_signed : Follows readSigned Tree.signed? := by
  have word : Nat.pow 2 64 = 2 ^ 64 := rfl
  have half : Nat.pow 2 63 = 2 ^ 63 := rfl
  have bound : Nat.pow 2 31 = 2 ^ 31 := rfl
  refine follows_integer (fun _ => rfl) rfl fun value => ?_
  by_cases large : ¬ (-Nat.pow 2 63 ≤ value ∧ value < Nat.pow 2 64)
  · rw [Number.ofInt_float large, if_neg (by omega)]
  · by_cases sign : 0 ≤ value
    · have isValue : (value.toNat : Int) = value := Int.toNat_of_nonneg sign
      rw [Number.ofInt_natural sign (by omega)]
      dsimp only
      rw [← Int32.ofInt_eq_ofNat, isValue]
      exact if_congr (by omega) rfl rfl
    · have isValue : -(value.natAbs : Int) = value := by omega
      rw [Number.ofInt_negative sign (by omega)]
      dsimp only
      rw [isValue]
      exact if_congr (by omega) rfl rfl

/-! ## Arrays -/

/-- The elements of an array, if all of them can be decoded. -/
def Tree.list? {α : Type} (decode : Tree → Option α) : Tree → Option (List α)
  | .array _ items => items.mapM fun item => decode item.inner
  | _ => none

section Arrays

variable {α : Type} {item : Reader α} {decode : Tree → Option α}

/-- An element is read behind its comma, and the elements behind it are read on. -/
theorem readItems_item (fuel : Nat) (first : Bool) (gap front : Gap) (tree : Tree)
    (behind : List Char) :
    ∃ before : Gap, readItems item (fuel + 1) first
        (gap.blanks ++ (comma first ++ (front.blanks ++ (tree.text ++ behind)))) = (do
      let (value, rest) ← item (before.blanks ++ (tree.text ++ behind))
      let (values, rest) ← readItems item fuel false rest
      .ok (value :: values, rest)) := by
  obtain ⟨c, more, isCons, opens⟩ := tree.exists_opens
  have notEnd := opens.solid.2
  cases first with
  | true =>
    have begins := gap.skipSpace_first front tree behind
    refine ⟨Gap.empty, ?_⟩
    rw [isCons] at begins ⊢
    rw [readItems, begins]
    simp [Gap.empty]
  | false =>
    have begins := front.skipSpace_tree tree behind
    refine ⟨front, ?_⟩
    rw [isCons, List.cons_append] at begins ⊢
    rw [readItems, gap.skipSpace_comma]
    simp [begins, notEnd]

/-- **The elements of an array are read one after the other.** -/
theorem readItems_text (follows : Follows item decode) (items : List (Spaced Tree)) {fuel : Nat}
    (first : Bool) (gap : Gap) (rest : List Char) (enough : items.length < fuel) :
    (readItems item fuel first (gap.blanks ++ (itemsText first items ++ ']' :: rest))).toOption =
      (items.mapM fun item => decode item.inner).map fun values => (values, rest) := by
  induction items generalizing fuel first gap with
  | nil =>
    obtain ⟨fuel, rfl⟩ := Nat.exists_eq_succ_of_ne_zero (Nat.ne_of_gt enough)
    rw [itemsText, List.nil_append, readItems_close fuel first gap.allSpace]
    rfl
  | cons spaced items ih =>
    obtain ⟨front, tree, back⟩ := spaced
    obtain ⟨fuel, rfl⟩ := Nat.exists_eq_succ_of_ne_zero (Nat.ne_of_gt (Nat.zero_lt_of_lt enough))
    obtain ⟨before, isStep⟩ := @readItems_item α item fuel first gap front tree
      (back.blanks ++ (itemsText false items ++ ']' :: rest))
    have others := ih false back (Nat.lt_of_succ_lt_succ enough)
    rw [itemsText]
    simp only [List.append_assoc]
    rw [isStep, toOption_bind, follows.reads before tree (stops_itemsText items back rest),
      List.mapM_cons]
    cases decode tree with
    | none => rfl
    | some value =>
      simp only [Option.map_some, Option.bind_some, toOption_bind, others]
      cases items.mapM fun item => decode item.inner <;> rfl

theorem length_le_itemsText (first : Bool) (items : List (Spaced Tree)) :
    items.length ≤ (itemsText first items).length := by
  induction items generalizing first with
  | nil => exact Nat.zero_le _
  | cons spaced items ih =>
    obtain ⟨front, tree, back⟩ := spaced
    have treePos := tree.length_pos
    have others := ih false
    simp only [itemsText, List.length_cons, List.length_append]
    omega

/-- What is not the first element is read behind a comma that the array does not end at. -/
theorem exists_behind_itemComma {β : Type} {first : Bool} {c : Char} {behind : List Char}
    (next : List Char → Except Fault β) {answer : β}
    (isRead : (if first then next (c :: behind)
      else if c = ',' then
        match skipSpace behind with
        | [] => .error .truncated
        | ']' :: _ => .error .malformed
        | _ => next behind
      else .error .malformed) = .ok answer) :
    ∃ inner, c :: behind = comma first ++ inner ∧ next inner = .ok answer := by
  split at isRead
  · next isFirst => exact ⟨c :: behind, by rw [isFirst]; rfl, isRead⟩
  · next notFirst =>
    split at isRead
    · next isComma =>
      split at isRead
      · cases isRead
      · cases isRead
      · exact ⟨behind, by rw [isComma, comma, if_neg notFirst]; rfl, isRead⟩
    · cases isRead

/-- The elements that are read are those of an array. -/
theorem exists_items_of_readItems (follows : Follows item decode) (fuel : Nat) {first : Bool}
    {text rest : List Char} {values : List α}
    (isRead : readItems item fuel first text = .ok (values, rest)) :
    ∃ (gap : Gap) (items : List (Spaced Tree)),
      text = gap.blanks ++ (itemsText first items ++ ']' :: rest) := by
  induction fuel generalizing first text values with
  | zero => cases isRead
  | succ fuel ih =>
    obtain ⟨gap, isText⟩ := exists_gap text
    suffices areItems : ∃ items, skipSpace text = itemsText first items ++ ']' :: rest by
      obtain ⟨items, areItems⟩ := areItems
      exact ⟨gap, items, areItems ▸ isText⟩
    rw [readItems] at isRead
    split at isRead
    · cases isRead
    · next behind begins =>
      cases isRead
      exact ⟨[], by rw [begins, itemsText]; rfl⟩
    · next c behind notEnd begins =>
      extract_lets more at isRead
      obtain ⟨inner, isInner, isRead⟩ := exists_behind_itemComma more isRead
      obtain ⟨⟨value, afterItem⟩, isItem, isRead⟩ := bind_eq_ok_iff.1 isRead
      obtain ⟨⟨others, afterItems⟩, areOthers, isRead⟩ := bind_eq_ok_iff.1 isRead
      cases isRead
      obtain ⟨front, tree, rfl⟩ := follows.exists_tree isItem
      obtain ⟨back, items, rfl⟩ := ih areOthers
      exact ⟨⟨front, tree, back⟩ :: items, by rw [begins, isInner, itemsText]; simp⟩

/-- **Arrays are read element by element.** -/
theorem follows_array (follows : Follows item decode) :
    Follows (readArray item) (Tree.list? decode) where
  reads gap tree {rest} stops := by
    obtain ⟨c, more, isCons, opens⟩ := tree.exists_opens
    cases tree with
    | array inside items =>
      have enough := length_le_itemsText true items
      rw [Tree.array_append, readArray_open gap.allSpace]
      refine readItems_text follows items true inside rest ?_
      simp only [List.length_append, List.length_cons]
      omega
    | _ =>
      rw [readArray, gap.skipSpace_tree, isCons, List.cons_append]
      split
      · next same =>
        obtain ⟨inside, items, isArray⟩ := ((List.cons.inj same).1 ▸ opens).isArray
        cases isArray
      · rfl
  exists_tree {text rest value} isRead := by
    obtain ⟨gap, isText⟩ := exists_gap text
    rw [readArray] at isRead
    split at isRead
    · next behind begins =>
      obtain ⟨inside, items, rfl⟩ := exists_items_of_readItems follows _ isRead
      exact ⟨gap, .array inside items, by rw [isText, begins, Tree.array_append]⟩
    · cases isRead

end Arrays

/-! ## Whole texts -/

section Texts

variable {α : Type} {reader : Reader α} {decode : Tree → Option α}

/-- **A text that holds one tree is read as what the decoder makes of it.** -/
theorem Follows.readAll_text (follows : Follows reader decode) (front : Gap) (tree : Tree)
    (back : Gap) :
    (readAll reader (String.ofList (front.blanks ++ (tree.text ++ back.blanks)))).toOption =
      decode tree := by
  have stops := @Gap.stops back [] stops_nil
  rw [List.append_nil] at stops
  have allBlank : skipSpace back.blanks = [] := List.dropWhile_eq_nil_iff.2 back.allSpace
  rw [readAll, String.toList_ofList, toOption_bind, follows.reads front tree stops]
  cases decode tree with
  | none => rfl
  | some value =>
    rw [Option.map_some, Option.bind_some]
    dsimp only
    rw [allBlank]
    rfl

/-- A text that is read holds one tree. -/
theorem Follows.exists_text (follows : Follows reader decode) {text : String} {value : α}
    (isRead : readAll reader text = .ok value) :
    ∃ (front : Gap) (tree : Tree) (back : Gap),
      text = String.ofList (front.blanks ++ (tree.text ++ back.blanks)) := by
  obtain ⟨⟨found, rest⟩, isFound, ends⟩ := bind_eq_ok_iff.1 isRead
  obtain ⟨front, tree, isText⟩ := follows.exists_tree isFound
  obtain ⟨back, isBack⟩ := exists_gap rest
  dsimp only at ends
  split at ends
  · next isEmpty =>
    rw [List.isEmpty_iff.1 isEmpty, List.append_nil] at isBack
    exact ⟨front, tree, back, by rw [← isBack, ← isText, String.ofList_toList]⟩
  · cases ends

end Texts

end ExportAudit.Json
