import ExportAudit.Proofs.Json.Decoding

/-!
# Records put together from the members of an object

A record is read onto its defaults, member by member in the order of the text.  A slot is a member
that the record knows: how its value is read, and where the value stands in the record.

What the loop stores can be said on the tree of the text: the members of an object go to their
slots by their names, the elements of an array by their positions.  **The reader of a record follows
this decoder**, so a record with another record in it is read in the same way.
-/

namespace ExportAudit.Json

set_option autoImplicit false

open ExportAudit.Text

/-! ## Slots -/

/-- The name of a member, if its string stands for characters. -/
def Member.name? (member : Member Tree) : Option String :=
  (charsOf? member.name.inner).map String.ofList

/-- A member that a record knows. -/
structure Slot (σ : Type) where
  name : String
  Value : Type
  reader : Reader Value
  decode : Tree → Option Value
  follows : Follows reader decode
  get : σ → Value
  set : σ → Value → σ
  get_set : ∀ record value, get (set record value) = value

variable {σ : Type}

/-- How a slot is read into a record. -/
def Slot.field (slot : Slot σ) : MemberReader σ where
  name := slot.name
  read record text := (slot.reader text).map fun (value, rest) => (slot.set record value, rest)

/-- The slot of a name. -/
def Slot.find? (slots : List (Slot σ)) (name : String) : Option (Slot σ) :=
  List.find? (·.name == name) slots

theorem find?_map_field (slots : List (Slot σ)) (name : String) :
    MemberReader.find? (slots.map Slot.field) name = (Slot.find? slots name).map Slot.field := by
  rw [MemberReader.find?, Slot.find?, List.find?_map]
  rfl

/-! ## Reading members -/

/-- The record with what one member stores. -/
def storeMember (slots : List (Slot σ)) (seen : List String) (record : σ) (name : String)
    (value : Tree) : Option σ :=
  match Slot.find? slots name with
  | none => some record
  | some slot => if name ∈ seen then none else (slot.decode value).map (slot.set record)

/-- The record with what some members store, behind others with the names seen. -/
def decodeMembers (slots : List (Slot σ)) : List String → σ → List (Member Tree) → Option σ
  | _, record, [] => some record
  | seen, record, member :: rest => do
    let name ← member.name?
    decodeMembers slots (name :: seen) (← storeMember slots seen record name member.value.inner) rest

theorem readMemberValue_text (slots : List (Slot σ)) (record : σ) (name : String) (back front : Gap)
    (tree : Tree) {behind : List Char} (stops : Stops isNumberRest behind) :
    (readMemberValue (MemberReader.find? (slots.map Slot.field) name) record
        (back.blanks ++ ':' :: (front.blanks ++ (tree.text ++ behind)))).toOption =
      (storeMember slots [] record name tree).map fun stored => (stored, behind) := by
  rw [readMemberValue, back.skipSpace_cons (by decide), find?_map_field, storeMember]
  cases Slot.find? slots name with
  | none =>
    simp only [Option.map_none, toOption_map, tree.skipAny_text front stops]
    rfl
  | some slot =>
    simp only [Option.map_some, List.not_mem_nil, if_false, Slot.field, toOption_map,
      slot.follows.reads front tree stops, Option.map_map]
    rfl

/-- Whether a member comes first or behind a comma, its name is read and then its value. -/
theorem readMembers_name {fields : List (MemberReader σ)} (fuel : Nat) (first : Bool)
    (seen : List String) (record : σ) (gap : Gap) (name : Spaced (List Piece))
    (behind : List Char) :
    readMembers fields (fuel + 1) first seen record
        (gap.blanks ++ (comma first ++ (nameText name ++ behind))) = (do
      let (characters, rest) ← readChars (piecesText name.inner ++
        (name.back.blanks ++ ':' :: behind))
      let name := String.ofList characters
      if (MemberReader.find? fields name).isSome ∧ name ∈ seen then .error .mistyped
      else
        let (record, rest) ← readMemberValue (MemberReader.find? fields name) record rest
        readMembers fields fuel false (name :: seen) record rest) := by
  have isText : nameText name ++ behind = name.front.blanks ++ '"' :: (piecesText name.inner ++
      (name.back.blanks ++ ':' :: behind)) := by
    simp [nameText]
  cases first with
  | true =>
    have begins := (gap.append name.front).skipSpace_cons (c := '"') (by decide)
      (piecesText name.inner ++ (name.back.blanks ++ ':' :: behind))
    rw [Gap.append, List.append_assoc] at begins
    rw [isText, comma, if_pos rfl, List.nil_append, readMembers, begins]
    simp [skipSpace_cons (c := '"') (by decide)]
  | false =>
    have begins := name.front.skipSpace_cons (c := '"') (by decide)
      (piecesText name.inner ++ (name.back.blanks ++ ':' :: behind))
    rw [isText, readMembers, gap.skipSpace_comma]
    simp [begins]

/-- A slot that was seen is refused; else its value is stored, as the first of its name. -/
theorem storeMember_eq (slots : List (Slot σ)) (seen : List String) (record : σ) (name : String)
    (value : Tree) :
    storeMember slots seen record name value =
      if (Slot.find? slots name).isSome ∧ name ∈ seen then none
      else storeMember slots [] record name value := by
  rw [storeMember, storeMember]
  cases Slot.find? slots name with
  | none => simp
  | some slot => by_cases isSeen : name ∈ seen <;> simp [isSeen]

/-- A member is read behind its comma, and the members behind it are read on. -/
theorem readMembers_member (slots : List (Slot σ)) (fuel : Nat) (first : Bool) (seen : List String)
    (record : σ) (gap : Gap) (member : Member Tree) {behind : List Char}
    (stops : Stops isNumberRest behind) :
    (readMembers (slots.map Slot.field) (fuel + 1) first seen record
        (gap.blanks ++ (comma first ++ (nameText member.name ++
          (member.value.front.blanks ++ (member.value.inner.text ++ behind)))))).toOption = (do
      let name ← member.name?
      let stored ← storeMember slots seen record name member.value.inner
      (readMembers (slots.map Slot.field) fuel false (name :: seen) stored behind).toOption) := by
  rw [readMembers_name, toOption_bind, readChars_pieces, Member.name?]
  cases charsOf? member.name.inner with
  | none => rfl
  | some characters =>
    simp only [Option.map_some, Option.bind_some, Option.bind_eq_bind]
    rw [storeMember_eq, find?_map_field, Option.isSome_map]
    split
    · rfl
    · rw [toOption_bind, ← find?_map_field, readMemberValue_text slots _ _ _ _ _ stops]
      cases storeMember slots [] record (String.ofList characters) member.value.inner <;> rfl

/-- **The members of an object are stored one after the other.** -/
theorem readMembers_text (slots : List (Slot σ)) (members : List (Member Tree)) {fuel : Nat}
    (first : Bool) (seen : List String) (record : σ) (gap : Gap) (rest : List Char)
    (enough : members.length < fuel) :
    (readMembers (slots.map Slot.field) fuel first seen record
        (gap.blanks ++ (membersText first members ++ '\x7d' :: rest))).toOption =
      (decodeMembers slots seen record members).map fun stored => (stored, rest) := by
  induction members generalizing fuel first seen record gap with
  | nil =>
    obtain ⟨fuel, rfl⟩ := Nat.exists_eq_succ_of_ne_zero (Nat.ne_of_gt enough)
    rw [membersText, List.nil_append, readMembers_close fuel first seen record gap.allSpace]
    rfl
  | cons member members ih =>
    obtain ⟨fuel, rfl⟩ := Nat.exists_eq_succ_of_ne_zero (Nat.ne_of_gt (Nat.zero_lt_of_lt enough))
    have stops := stops_membersText members member.value.back rest
    have isStep := readMembers_member slots fuel first seen record gap member stops
    have others (name : String) (stored : σ) := @ih fuel false (name :: seen) stored
      member.value.back (Nat.lt_of_succ_lt_succ enough)
    obtain ⟨name, front, value, back⟩ := member
    rw [membersText]
    simp only [List.append_assoc]
    rw [isStep, decodeMembers]
    simp only [others, Option.bind_eq_bind, Option.map_bind, Function.comp_def]

theorem length_le_membersText (first : Bool) (members : List (Member Tree)) :
    members.length ≤ (membersText first members).length := by
  induction members generalizing first with
  | nil => exact Nat.zero_le _
  | cons member members ih =>
    obtain ⟨name, front, value, back⟩ := member
    have valuePos := value.length_pos
    have others := ih false
    simp only [membersText, List.length_cons, List.length_append]
    omega

/-- What is read behind a name is a colon and a value. -/
theorem exists_tree_of_readMemberValue {slots : List (Slot σ)} {record stored : σ} {name : String}
    {text rest : List Char}
    (isRead : readMemberValue (MemberReader.find? (slots.map Slot.field) name) record text =
      .ok (stored, rest)) :
    ∃ (front : Gap) (tree : Tree), skipSpace text = ':' :: (front.blanks ++ (tree.text ++ rest)) := by
  rw [readMemberValue, find?_map_field] at isRead
  split at isRead
  · cases isRead
  · next behind colon =>
    suffices isTree : ∃ (front : Gap) (tree : Tree), behind = front.blanks ++ (tree.text ++ rest) by
      obtain ⟨front, tree, rfl⟩ := isTree
      exact ⟨front, tree, colon⟩
    cases found : Slot.find? slots name with
    | none =>
      rw [found] at isRead
      obtain ⟨after, skipped, answered⟩ := map_eq_ok_iff.1 isRead
      cases answered
      exact exists_tree_of_skipValue _ skipped
    | some slot =>
      rw [found] at isRead
      obtain ⟨⟨value, after⟩, isValue, answered⟩ := map_eq_ok_iff.1 isRead
      cases answered
      exact slot.follows.exists_tree isValue
  · cases isRead

/-- The members that are read are those of an object. -/
theorem exists_members_of_readMembers (slots : List (Slot σ)) (fuel : Nat) {first : Bool}
    {seen : List String} {record stored : σ} {text rest : List Char}
    (isRead : readMembers (slots.map Slot.field) fuel first seen record text = .ok (stored, rest)) :
    ∃ (gap : Gap) (members : List (Member Tree)),
      text = gap.blanks ++ (membersText first members ++ '\x7d' :: rest) := by
  induction fuel generalizing first seen record text with
  | zero => cases isRead
  | succ fuel ih =>
    obtain ⟨gap, isText⟩ := exists_gap text
    suffices areMembers : ∃ members,
        skipSpace text = membersText first members ++ '\x7d' :: rest by
      obtain ⟨members, areMembers⟩ := areMembers
      exact ⟨gap, members, areMembers ▸ isText⟩
    rw [readMembers] at isRead
    split at isRead
    · cases isRead
    · next behind begins =>
      cases isRead
      exact ⟨[], by rw [begins, membersText]; rfl⟩
    · next c behind notEnd begins =>
      extract_lets more at isRead
      obtain ⟨inner, isInner, isRead⟩ := exists_behind_comma more isRead
      obtain ⟨front, isFront⟩ := exists_gap inner
      dsimp only [more] at isRead
      split at isRead
      · cases isRead
      · next afterQuote quote =>
        obtain ⟨⟨characters, afterName⟩, isName, named⟩ := bind_eq_ok_iff.1 isRead
        obtain ⟨pieces, isPieces, -⟩ := exists_pieces isName
        obtain ⟨back, isBack⟩ := exists_gap afterName
        split at named
        · cases named
        · obtain ⟨⟨record, afterValue⟩, isValue, others⟩ := bind_eq_ok_iff.1 named
          obtain ⟨valueFront, value, isTree⟩ := exists_tree_of_readMemberValue isValue
          obtain ⟨valueBack, members, rfl⟩ := ih others
          refine ⟨⟨⟨front, pieces, back⟩, ⟨valueFront, value, valueBack⟩⟩ :: members, ?_⟩
          rw [begins, isInner, isFront, quote, isPieces, isBack, isTree, membersText]
          simp [nameText]
      · cases isRead

/-! ## Reading positions -/

/-- The record with what the elements of an array store in the slots in their order. -/
def decodePositions : List (Slot σ) → σ → List (Spaced Tree) → Option σ
  | _, record, [] => some record
  | [], _, _ :: _ => none
  | slot :: slots, record, item :: items => do
    let value ← slot.decode item.inner
    decodePositions slots (slot.set record value) items

/-- Where no slot is left no element is read. -/
theorem readPositions_full (first : Bool) (record : σ) (gap front : Gap) (tree : Tree)
    (behind : List Char) :
    readPositions [] first record
        (gap.blanks ++ (comma first ++ (front.blanks ++ (tree.text ++ behind)))) =
      .error .malformed := by
  obtain ⟨c, more, isCons, opens⟩ := tree.exists_opens
  have notEnd := opens.solid.2
  cases first with
  | true =>
    have begins := gap.skipSpace_first front tree behind
    rw [isCons] at begins ⊢
    rw [readPositions, begins]
    simp
  | false =>
    rw [readPositions, gap.skipSpace_comma]
    rfl

/-- An element is read behind its comma into the next slot. -/
theorem readPositions_item (field : MemberReader σ) (fields : List (MemberReader σ)) (first : Bool)
    (record : σ) (gap front : Gap) (tree : Tree) (behind : List Char) :
    ∃ before : Gap, readPositions (field :: fields) first record
        (gap.blanks ++ (comma first ++ (front.blanks ++ (tree.text ++ behind)))) = (do
      let (record, rest) ← field.read record (before.blanks ++ (tree.text ++ behind))
      readPositions fields false record rest) := by
  obtain ⟨c, more, isCons, opens⟩ := tree.exists_opens
  have notEnd := opens.solid.2
  cases first with
  | true =>
    have begins := gap.skipSpace_first front tree behind
    refine ⟨Gap.empty, ?_⟩
    rw [isCons] at begins ⊢
    rw [readPositions, begins]
    simp [Gap.empty]
  | false =>
    have begins := front.skipSpace_tree tree behind
    refine ⟨front, ?_⟩
    rw [isCons, List.cons_append] at begins ⊢
    rw [readPositions, gap.skipSpace_comma]
    simp [begins, notEnd]

/-- **The elements of an array are stored in the slots in their order.** -/
theorem readPositions_text (items : List (Spaced Tree)) (slots : List (Slot σ)) (first : Bool)
    (record : σ) (gap : Gap) (rest : List Char) :
    (readPositions (slots.map Slot.field) first record
        (gap.blanks ++ (itemsText first items ++ ']' :: rest))).toOption =
      (decodePositions slots record items).map fun stored => (stored, rest) := by
  induction items generalizing slots first record gap with
  | nil =>
    rw [itemsText, List.nil_append, readPositions, gap.skipSpace_cons (by decide),
      decodePositions]
    rfl
  | cons spaced items ih =>
    obtain ⟨front, tree, back⟩ := spaced
    rw [itemsText]
    simp only [List.append_assoc]
    cases slots with
    | nil =>
      rw [List.map_nil, readPositions_full]
      rfl
    | cons slot slots =>
      obtain ⟨before, isStep⟩ := readPositions_item slot.field (slots.map Slot.field) first record
        gap front tree (back.blanks ++ (itemsText false items ++ ']' :: rest))
      rw [List.map_cons, isStep, toOption_bind, Slot.field, toOption_map,
        slot.follows.reads before tree (stops_itemsText items back rest), decodePositions]
      cases slot.decode tree with
      | none => rfl
      | some value => exact ih slots false (slot.set record value) back

/-- The positions that are read are the elements of an array. -/
theorem exists_items_of_readPositions (slots : List (Slot σ)) {first : Bool} {record stored : σ}
    {text rest : List Char}
    (isRead : readPositions (slots.map Slot.field) first record text = .ok (stored, rest)) :
    ∃ (gap : Gap) (items : List (Spaced Tree)),
      text = gap.blanks ++ (itemsText first items ++ ']' :: rest) := by
  induction slots generalizing first record text with
  | nil =>
    obtain ⟨gap, isText⟩ := exists_gap text
    rw [List.map_nil, readPositions] at isRead
    split at isRead
    · cases isRead
    · next behind begins =>
      cases isRead
      exact ⟨gap, [], by rw [isText, begins, itemsText]; rfl⟩
    · cases isRead
  | cons slot slots ih =>
    obtain ⟨gap, isText⟩ := exists_gap text
    suffices areItems : ∃ items, skipSpace text = itemsText first items ++ ']' :: rest by
      obtain ⟨items, areItems⟩ := areItems
      exact ⟨gap, items, areItems ▸ isText⟩
    rw [List.map_cons, readPositions] at isRead
    split at isRead
    · cases isRead
    · next behind begins =>
      cases isRead
      exact ⟨[], by rw [begins, itemsText]; rfl⟩
    · next c behind notEnd begins =>
      obtain ⟨inner, isInner, isRead⟩ := exists_behind_itemComma (fun inner => do
        let (record, rest) ← slot.field.read record inner
        readPositions (slots.map Slot.field) false record rest) isRead
      obtain ⟨⟨next, afterItem⟩, isItem, others⟩ := bind_eq_ok_iff.1 isRead
      obtain ⟨⟨value, afterValue⟩, isValue, answered⟩ := map_eq_ok_iff.1 isItem
      cases answered
      obtain ⟨front, tree, rfl⟩ := slot.follows.exists_tree isValue
      obtain ⟨back, items, rfl⟩ := ih others
      exact ⟨⟨front, tree, back⟩ :: items, by rw [begins, isInner, itemsText]; simp⟩

/-! ## Reading records -/

/-- The record of a tree: an object with its members, or an array of their values. -/
def decodeRecord (slots : List (Slot σ)) (defaults : σ) : Tree → Option σ
  | .object _ members => decodeMembers slots [] defaults members
  | .array _ items => decodePositions slots defaults items
  | _ => none

/-- **Records are read slot by slot.** -/
theorem follows_record (slots : List (Slot σ)) (defaults : σ) :
    Follows (readRecord (slots.map Slot.field) defaults) (decodeRecord slots defaults) where
  reads gap tree {rest} stops := by
    obtain ⟨c, more, isCons, opens⟩ := tree.exists_opens
    cases tree with
    | object inside members =>
      have enough := length_le_membersText true members
      rw [Tree.object_append, readRecord_open gap.allSpace]
      refine readMembers_text slots members true [] defaults inside rest ?_
      simp only [List.length_append, List.length_cons]
      omega
    | array inside items =>
      rw [Tree.array_append, readRecord, gap.skipSpace_cons (by decide)]
      exact readPositions_text items slots true defaults inside rest
    | _ =>
      rw [readRecord, gap.skipSpace_tree, isCons, List.cons_append]
      split
      · next same =>
        obtain ⟨inside, members, isObject⟩ := ((List.cons.inj same).1 ▸ opens).isObject
        cases isObject
      · next same =>
        obtain ⟨inside, items, isArray⟩ := ((List.cons.inj same).1 ▸ opens).isArray
        cases isArray
      · rfl
  exists_tree {text rest value} isRead := by
    obtain ⟨gap, isText⟩ := exists_gap text
    rw [readRecord] at isRead
    split at isRead
    · next behind begins =>
      obtain ⟨inside, members, rfl⟩ := exists_members_of_readMembers slots _ isRead
      exact ⟨gap, .object inside members, by rw [isText, begins, Tree.object_append]⟩
    · next behind begins =>
      obtain ⟨inside, items, rfl⟩ := exists_items_of_readPositions slots isRead
      exact ⟨gap, .array inside items, by rw [isText, begins, Tree.array_append]⟩
    · cases isRead

end ExportAudit.Json
