import ExportAudit.Proofs.Text.Chain
import ExportAudit.Proofs.Text.Trimmed
import ExportAudit.Usage.Walk

/-!
# The outermost name of a type

A type is spelled as some keywords, a path that ends in its outermost name, arguments in angle
brackets, and declarators.  The name is found by taking off what is not the path: keywords in
front, everything from the first angle bracket on, and at the end references, pointers and
blanks.

That leaves two kinds of declarator standing.  A qualifier of a pointer ends in a letter, and
an extent in a bracket, so dropping stops there, and what is left stays with the name.  **So the
name is found exactly if the type has arguments, or if none of its declarators is of these
kinds**, and in the other cases what is found is no name at all.
-/

namespace ExportAudit.Usage

set_option autoImplicit false

open ExportAudit.Text ExportAudit.Dump

/-! ## Spellings -/

/-- The words that may stand in front of a type. -/
def typeKeywords : List (List Char) :=
  ["const", "volatile", "struct", "class", "enum", "union"].map String.toList

/-- A name that may stand in the path of a type: a word that is no keyword. -/
structure IsTypeWord (word : List Char) : Prop where
  isRun : IsRun word
  notKeyword : word ∉ typeKeywords

/-- What may stand behind the name of a type. -/
inductive Declarator where
  | pointer
  | lvalueReference
  | rvalueReference
  | constPointer
  | volatilePointer
  /-- The extent of an array: a number, a word, or nothing. -/
  | extent (size : List Char) (isSize : ∀ c ∈ size, isWord c = true)

namespace Declarator

/-- A declarator as it is written. -/
def text : Declarator → List Char
  | pointer => ['*']
  | lvalueReference => ['&']
  | rvalueReference => ['&', '&']
  | constPointer => '*' :: "const".toList
  | volatilePointer => '*' :: "volatile".toList
  | extent size _ => '[' :: (size ++ [']'])

/-- A declarator of marks only. -/
def isBare : Declarator → Bool
  | pointer | lvalueReference | rvalueReference => true
  | constPointer | volatilePointer | extent _ _ => false

end Declarator

/-- Some declarators, each behind a number of blanks. -/
def declaratorsText (declarators : List (Nat × Declarator)) : List Char :=
  declarators.flatMap fun (blanks, declarator) => List.replicate blanks ' ' ++ declarator.text

/-- The spelling of a type. -/
structure TypeSpelling where
  keywords : List (List Char)
  /-- The path in front of the outermost name. -/
  segments : List (List Char)
  name : List Char
  /-- What stands in angle brackets, if there is something. -/
  arguments : Option (List Char)
  declarators : List (Nat × Declarator)
  areKeywords : ∀ keyword ∈ keywords, keyword ∈ typeKeywords
  areNames : ∀ segment ∈ segments, IsTypeWord segment
  isName : IsTypeWord name

namespace TypeSpelling

/-- Arguments in their brackets. -/
def argumentsText (spelling : TypeSpelling) : List Char :=
  match spelling.arguments with
  | none => []
  | some arguments => '<' :: (arguments ++ ['>'])

/-- A type as it is spelled. -/
def text (spelling : TypeSpelling) : List Char :=
  spelling.keywords.flatMap (· ++ [' ']) ++
    (chain spelling.segments spelling.name ++
      (spelling.argumentsText ++ declaratorsText spelling.declarators))

/-- What stays with the name when the marks at the end are dropped. -/
def unread (spelling : TypeSpelling) : List Char :=
  match spelling.arguments with
  | none => dropEndWhile isDeclarator (declaratorsText spelling.declarators)
  | some _ => []

/-- The name stands clear of its declarators: arguments come between them, or all are marks. -/
def isClear (spelling : TypeSpelling) : Bool :=
  spelling.arguments.isSome || spelling.declarators.all (·.2.isBare)

end TypeSpelling

/-! ## Characters -/

theorem isDeclarator_of_isWord {c : Char} (word : isWord c = true) : isDeclarator c = false := by
  have notReference : c ≠ '&' := by
    rintro rfl
    exact absurd word (by decide)
  have notPointer : c ≠ '*' := by
    rintro rfl
    exact absurd word (by decide)
  simp [isDeclarator, notReference, notPointer, isBlank_eq_false_of_isWord word]

theorem isDeclarator_of_isBlank {c : Char} (blank : isBlank c = true) : isDeclarator c = true := by
  simp [isDeclarator, blank]

/-- A chain consists of word characters and colons. -/
theorem isWord_of_mem_chain {segments : List (List Char)} {name : List Char}
    (all : ∀ segment ∈ segments, IsRun segment) (isName : IsRun name) {c : Char}
    (member : c ∈ chain segments name) : isWord c = true ∨ c = ':' := by
  induction segments with
  | nil => exact .inl (isName.2 c member)
  | cons segment segments ih =>
    rw [chain, List.mem_append, List.mem_append] at member
    rcases member with member | member | member
    · exact .inl ((all segment List.mem_cons_self).2 c member)
    · simp only [separator, List.mem_cons, List.not_mem_nil, or_false, or_self] at member
      exact .inr member
    · exact ih (fun other isOther => all other (List.mem_cons_of_mem segment isOther)) member

/-- A chain ends with a word character. -/
theorem exists_last_chain (segments : List (List Char)) {name : List Char} (isName : IsRun name) :
    ∃ front last, chain segments name = front ++ [last] ∧ isWord last = true := by
  induction segments with
  | nil =>
    refine ⟨name.dropLast, name.getLast isName.1, (List.dropLast_append_getLast isName.1).symm, ?_⟩
    exact isName.2 _ (List.getLast_mem isName.1)
  | cons segment segments ih =>
    obtain ⟨front, last, isText, word⟩ := ih
    refine ⟨segment ++ (separator ++ front), last, ?_, word⟩
    rw [chain, isText, List.append_assoc, List.append_assoc]

/-! ## Keywords -/

theorem typeQualifiers_eq : typeQualifiers = typeKeywords.map (· ++ [' ']) := rfl

theorem isRun_of_mem_typeKeywords : ∀ keyword ∈ typeKeywords, IsRun keyword := by decide

/-- A keyword in front is taken off. -/
theorem findSome?_keyword {keyword : List Char} (isKeyword : keyword ∈ typeKeywords)
    (rest : List Char) :
    typeQualifiers.findSome? (after? · (keyword ++ ' ' :: rest)) = some rest := by
  simp only [typeKeywords, List.map_cons, List.map_nil, List.mem_cons, List.not_mem_nil,
    or_false] at isKeyword
  rcases isKeyword with rfl | rfl | rfl | rfl | rfl | rfl <;> rfl

/-- Where a word that is no keyword stands in front, nothing is taken off. -/
theorem findSome?_typeWord {word rest : List Char} (isName : IsTypeWord word)
    (stops : Stops isWord rest) : typeQualifiers.findSome? (after? · (word ++ rest)) = none := by
  rw [List.findSome?_eq_none_iff, typeQualifiers_eq, List.forall_mem_map]
  intro keyword isKeyword
  by_contra isFront
  obtain ⟨behind, isFront⟩ := Option.ne_none_iff_exists'.1 isFront
  rw [after?_eq_some_iff, List.append_assoc, List.singleton_append] at isFront
  have sameWord := congrArg (List.takeWhile isWord) isFront
  rw [takeWhile_run isName.isRun.2 stops,
    takeWhile_run (isRun_of_mem_typeKeywords keyword isKeyword).2 (stops_cons.2 (by decide))]
    at sameWord
  exact isName.notKeyword (sameWord ▸ isKeyword)

/-- **All keywords in front are taken off, and nothing else.** -/
theorem dropQualifiers_keywords {keywords : List (List Char)} {rest : List Char} {fuel : Nat}
    (areKeywords : ∀ keyword ∈ keywords, keyword ∈ typeKeywords)
    (noMore : typeQualifiers.findSome? (after? · rest) = none) (enough : keywords.length ≤ fuel) :
    dropQualifiers fuel (keywords.flatMap (· ++ [' ']) ++ rest) = rest := by
  induction keywords generalizing fuel with
  | nil =>
    cases fuel with
    | zero => rfl
    | succ fuel => rw [List.flatMap_nil, List.nil_append, dropQualifiers, noMore]
  | cons keyword keywords ih =>
    obtain ⟨isKeyword, others⟩ := List.forall_mem_cons.1 areKeywords
    obtain ⟨fuel, rfl⟩ := Nat.exists_eq_succ_of_ne_zero (Nat.ne_of_gt (Nat.zero_lt_of_lt enough))
    have isText : (keyword :: keywords).flatMap (· ++ [' ']) ++ rest =
        keyword ++ ' ' :: (keywords.flatMap (· ++ [' ']) ++ rest) := by simp
    rw [isText, dropQualifiers, findSome?_keyword isKeyword]
    exact ih others (Nat.le_of_succ_le_succ enough)

theorem length_le_keywords (keywords : List (List Char)) :
    keywords.length ≤ (keywords.flatMap (· ++ [' '])).length := by
  induction keywords with
  | nil => exact Nat.zero_le _
  | cons keyword keywords ih =>
    simp only [List.flatMap_cons, List.length_append, List.length_cons, List.length_nil]
    omega

/-! ## Declarators -/

/-- No character of a declarator opens arguments or separates segments. -/
theorem Declarator.ne_of_mem_text (declarator : Declarator) :
    ∀ c ∈ declarator.text, c ≠ '<' ∧ c ≠ ':' := by
  cases declarator with
  | extent size isSize =>
    have noMark : ∀ c ∈ size, c ≠ '<' ∧ c ≠ ':' := by
      intro c member
      refine ⟨?_, ne_colon_of_isWord (isSize c member)⟩
      rintro rfl
      exact absurd (isSize _ member) (by decide)
    simpa [text, or_imp, forall_and] using noMark
  | _ => simp [text]

theorem ne_of_mem_declaratorsText {declarators : List (Nat × Declarator)} {c : Char}
    (member : c ∈ declaratorsText declarators) : c ≠ '<' ∧ c ≠ ':' := by
  obtain ⟨⟨blanks, declarator⟩, -, member⟩ := List.mem_flatMap.1 member
  rcases List.mem_append.1 member with blank | member
  · rw [List.eq_of_mem_replicate blank]
    decide
  · exact declarator.ne_of_mem_text c member

/-- A declarator of marks only is dropped at the end of a type. -/
theorem Declarator.all_isDeclarator_iff (declarator : Declarator) :
    (∀ c ∈ declarator.text, isDeclarator c = true) ↔ declarator.isBare = true := by
  cases declarator with
  | extent size isSize => simp [text, isBare, isDeclarator, isBlank, isBlankCode]
  | _ => simp [text, isBare, isDeclarator, isBlank, isBlankCode]

theorem all_isDeclarator_declaratorsText_iff (declarators : List (Nat × Declarator)) :
    (∀ c ∈ declaratorsText declarators, isDeclarator c = true) ↔
      declarators.all (·.2.isBare) = true := by
  rw [List.all_eq_true]
  constructor
  · intro marks entry member
    refine (Declarator.all_isDeclarator_iff _).1 fun c inText => marks c ?_
    exact List.mem_flatMap.2 ⟨entry, member, List.mem_append_right _ inText⟩
  · intro bare c member
    obtain ⟨entry, isEntry, member⟩ := List.mem_flatMap.1 member
    rcases List.mem_append.1 member with blank | member
    · rw [List.eq_of_mem_replicate blank]
      decide
    · exact (Declarator.all_isDeclarator_iff _).2 (bare entry isEntry) c member

theorem stops_declaratorsText (declarators : List (Nat × Declarator)) :
    Stops isWord (declaratorsText declarators) := by
  cases declarators with
  | nil => exact stops_nil
  | cons entry declarators =>
    obtain ⟨blanks, declarator⟩ := entry
    cases blanks with
    | succ blanks => exact stops_cons.2 (by decide)
    | zero => cases declarator <;> exact stops_cons.2 (by decide)

/-! ## Reading a spelling -/

namespace TypeSpelling

variable (spelling : TypeSpelling)

/-- The path of the type, up to its outermost name. -/
def path : List Char :=
  chain spelling.segments spelling.name

/-- What stands behind the path. -/
def behind : List Char :=
  spelling.argumentsText ++ declaratorsText spelling.declarators

theorem isRun_of_mem_segments : ∀ segment ∈ spelling.segments, IsRun segment :=
  fun segment member => (spelling.areNames segment member).isRun

theorem stops_behind : Stops isWord spelling.behind := by
  rw [behind, argumentsText]
  cases spelling.arguments with
  | none => exact stops_declaratorsText spelling.declarators
  | some arguments => exact stops_cons.2 (by decide)

/-- A path begins with a word that is no keyword. -/
theorem findSome?_path {rest : List Char} (stops : Stops isWord rest) :
    typeQualifiers.findSome? (after? · (spelling.path ++ rest)) = none := by
  rw [path]
  cases inFront : spelling.segments with
  | nil => exact findSome?_typeWord spelling.isName stops
  | cons segment segments =>
    have isName := spelling.areNames segment (inFront ▸ List.mem_cons_self)
    rw [chain, List.append_assoc]
    exact findSome?_typeWord isName (stops_cons.2 (by decide))

theorem stops_text : Stops isBlank spelling.text := by
  rw [text]
  cases inFront : spelling.keywords with
  | nil => exact (solid_chain spelling.isRun_of_mem_segments spelling.isName.isRun).stops _
  | cons keyword keywords =>
    have isKeyword := isRun_of_mem_typeKeywords keyword
      (spelling.areKeywords keyword (inFront ▸ List.mem_cons_self))
    simp only [List.flatMap_cons, List.append_assoc]
    exact isKeyword.solid.stops _

/-- Of a type the blanks at the end are dropped, and none of its path. -/
theorem trim_text : trim spelling.text =
    spelling.keywords.flatMap (· ++ [' ']) ++ (spelling.path ++ trimEnd spelling.behind) := by
  have begins : trimStart spelling.text = spelling.text :=
    dropWhile_run (List.forall_mem_nil _) spelling.stops_text
  obtain ⟨front, last, isPath, word⟩ :=
    exists_last_chain spelling.segments spelling.isName.isRun
  have kept := dropEndWhile_append_of_last (isBlank_eq_false_of_isWord word)
    (spelling.keywords.flatMap (· ++ [' ']) ++ front) spelling.behind
  rw [trim, begins, trimEnd, text, path, isPath]
  simpa [behind, trimEnd] using kept

/-- **In front of the arguments the path is left, with the declarators if there are none.** -/
theorem takeWhile_behind :
    (spelling.path ++ trimEnd spelling.behind).takeWhile (· != '<') =
      spelling.path ++
        if spelling.arguments.isSome then [] else trimEnd (declaratorsText spelling.declarators) := by
  have noBracket : ∀ c ∈ spelling.path, (c != '<') = true := by
    intro c member
    rcases isWord_of_mem_chain spelling.isRun_of_mem_segments spelling.isName.isRun member with
      word | rfl
    · rw [bne_iff_ne]
      rintro rfl
      exact absurd word (by decide)
    · decide
  rw [behind, argumentsText]
  cases spelling.arguments with
  | none =>
    rw [List.takeWhile_append_of_pos noBracket]
    refine congrArg (spelling.path ++ ·) (List.takeWhile_eq_self_iff.2 fun c member => ?_)
    rw [bne_iff_ne]
    exact (ne_of_mem_declaratorsText ((prefix_dropEndWhile _ _).subset member)).1
  | some arguments =>
    have notBlank : isBlank '>' = false := by decide
    have kept := dropEndWhile_append_of_last notBlank
      ('<' :: arguments) (declaratorsText spelling.declarators)
    have isText : trimEnd ('<' :: (arguments ++ ['>']) ++ declaratorsText spelling.declarators) =
        '<' :: (arguments ++ '>' :: trimEnd (declaratorsText spelling.declarators)) := by
      simpa [trimEnd] using kept
    rw [isText, takeWhile_run noBracket (stops_cons.2 (by decide))]
    simp

/-- The marks at the end are dropped, and what they leave stays with the path. -/
theorem dropEndWhile_path :
    dropEndWhile isDeclarator ((spelling.path ++ trimEnd spelling.behind).takeWhile (· != '<')) =
      spelling.path ++ spelling.unread := by
  obtain ⟨front, last, isPath, word⟩ :=
    exists_last_chain spelling.segments spelling.isName.isRun
  have kept (rest : List Char) : dropEndWhile isDeclarator (spelling.path ++ rest) =
      spelling.path ++ dropEndWhile isDeclarator rest := by
    rw [path, isPath, List.append_assoc, List.append_assoc]
    exact dropEndWhile_append_of_last (isDeclarator_of_isWord word) front rest
  rw [takeWhile_behind, kept, unread]
  cases spelling.arguments with
  | none =>
    exact congrArg (spelling.path ++ ·)
      (dropEndWhile_dropEndWhile (fun _ => isDeclarator_of_isBlank) _)
  | some arguments => rfl

theorem colon_notMem_unread : ':' ∉ spelling.unread := by
  rw [unread]
  cases spelling.arguments with
  | none =>
    intro member
    exact (ne_of_mem_declaratorsText ((prefix_dropEndWhile _ _).subset member)).2 rfl
  | some arguments => exact List.not_mem_nil

/-- What stays of the declarators does not end with a mark or a blank. -/
theorem isBlank_getLast_unread (nonempty : spelling.unread ≠ []) :
    isBlank (spelling.unread.getLast nonempty) = false := by
  have isLeft : ∃ text, spelling.unread = dropEndWhile isDeclarator text := by
    rw [unread]
    cases spelling.arguments with
    | none => exact ⟨_, rfl⟩
    | some arguments => exact ⟨[], rfl⟩
  obtain ⟨text, isLeft⟩ := isLeft
  simp only [isLeft] at nonempty ⊢
  rw [Bool.eq_false_iff]
  intro blank
  have noMark := getLast_dropEndWhile nonempty
  rw [isDeclarator_of_isBlank blank] at noMark
  cases noMark

/-- What is found neither begins nor ends with a blank. -/
theorem trim_name : trim (spelling.name ++ spelling.unread) = spelling.name ++ spelling.unread := by
  refine trim_eq_self (spelling.isName.isRun.solid.stops _) fun nonempty => ?_
  by_cases nothing : spelling.unread = []
  · simp only [nothing, List.append_nil]
    exact isBlank_eq_false_of_isWord (spelling.isName.isRun.2 _ (List.getLast_mem _))
  · rw [List.getLast_append_of_ne_nil nonempty nothing]
    exact spelling.isBlank_getLast_unread nothing

/-- **The outermost name is found with what stays of the declarators behind it.** -/
theorem outerTypeName?_text :
    outerTypeName? spelling.text = some (spelling.name ++ spelling.unread) := by
  have enough : spelling.keywords.length ≤ spelling.text.length := by
    refine (length_le_keywords spelling.keywords).trans ?_
    rw [text, List.length_append]
    exact Nat.le_add_right ..
  have isPlain : dropQualifiers spelling.text.length (trim spelling.text) =
      spelling.path ++ trimEnd spelling.behind := by
    rw [trim_text]
    exact dropQualifiers_keywords spelling.areKeywords
      (spelling.findSome?_path (spelling.stops_behind.dropEndWhile isBlank)) enough
  have nonempty : ¬ (spelling.name ++ spelling.unread).isEmpty = true := by
    simp [spelling.isName.isRun.1]
  rw [outerTypeName?]
  simp only [isPlain, dropEndWhile_path]
  rw [path, lastSegment_chain_append spelling.isRun_of_mem_segments spelling.isName.isRun
    spelling.colon_notMem_unread, trim_name, if_neg nonempty]

theorem unread_eq_nil_iff : spelling.unread = [] ↔ spelling.isClear = true := by
  rw [unread, isClear]
  cases spelling.arguments with
  | none =>
    rw [dropEndWhile_eq_nil_iff, all_isDeclarator_declaratorsText_iff]
    rfl
  | some arguments => exact iff_of_true rfl rfl

/-- What stays of the declarators does not go on with a word. -/
theorem stops_unread : Stops isWord spelling.unread := by
  rw [unread]
  cases spelling.arguments with
  | none => exact (stops_declaratorsText spelling.declarators).dropEndWhile isDeclarator
  | some arguments => exact stops_nil

/-- With something left behind it the name is no word any more. -/
theorem not_isRun_name_unread (obscured : spelling.isClear = false) :
    ¬ IsRun (spelling.name ++ spelling.unread) := by
  intro isRun
  have left : spelling.unread ≠ [] := by
    rw [Ne, unread_eq_nil_iff, obscured]
    exact Bool.false_ne_true
  obtain ⟨c, rest, opens⟩ := List.exists_cons_of_ne_nil left
  have noWord := stops_cons.1 (opens ▸ spelling.stops_unread)
  have word := isRun.2 c (by simp [opens])
  rw [noWord] at word
  cases word

theorem outerTypeName?_eq_name_iff :
    outerTypeName? spelling.text = some spelling.name ↔ spelling.isClear = true := by
  rw [outerTypeName?_text, Option.some_inj, List.append_right_eq_self, unread_eq_nil_iff]

/-- A variable declares what is found in its type. -/
theorem useOfNode_variable (calls : CallStack) {line : Line}
    (typed : line.firstQuoted? = some spelling.text) :
    (useOfNode calls (.ofKind "VarDecl") line).2 =
      some (String.ofList (spelling.name ++ spelling.unread), .declaration) := by
  have isVariable : NodeRole.ofKind "VarDecl" = .variable := rfl
  rw [isVariable, useOfNode, typed, Option.bind_some, outerTypeName?_text]
  rfl

/-! ## Which types declare their name -/

/-- **A variable declares the outermost name of its type exactly if the name stands clear of its
declarators; where it does not, what the variable declares is no word, and so no name.** -/
theorem declares_name_iff (calls : CallStack) (line : Line)
    (typed : line.firstQuoted? = some spelling.text) :
    (outerTypeName? spelling.text = some spelling.name ↔ spelling.isClear = true) ∧
      ((useOfNode calls (.ofKind "VarDecl") line).2 =
          some (String.ofList spelling.name, .declaration) ↔ spelling.isClear = true) ∧
      ∃ found, outerTypeName? spelling.text = some found ∧
        (useOfNode calls (.ofKind "VarDecl") line).2 =
          some (String.ofList found, .declaration) ∧
        spelling.name <+: found ∧ (spelling.isClear = false → ¬ IsRun found) := by
  have declared := spelling.useOfNode_variable calls typed
  refine ⟨spelling.outerTypeName?_eq_name_iff, ?_, spelling.name ++ spelling.unread,
    spelling.outerTypeName?_text, declared, List.prefix_append .., spelling.not_isRun_name_unread⟩
  rw [declared, Option.some_inj, Prod.mk.injEq, String.ofList_inj, List.append_right_eq_self,
    unread_eq_nil_iff]
  exact and_iff_left rfl

/-- The type `const std::vector<int> *const`. -/
def constPointerToVector : TypeSpelling where
  keywords := ["const".toList]
  segments := ["std".toList]
  name := "vector".toList
  arguments := some "int".toList
  declarators := [(1, .constPointer)]
  areKeywords := by decide
  areNames := by
    intro segment member
    rw [List.mem_singleton.1 member]
    exact ⟨by decide, by decide⟩
  isName := ⟨by decide, by decide⟩

/-- A variable of the type, as a dump prints it. -/
def vectorVariable : Line :=
  Line.parse 4
    "  `-VarDecl 0x5 <col:3, col:31> col:31 kept 'const std::vector<int> *const'".toList

/-- Behind arguments even a qualifier is no hindrance. -/
theorem declares_name_iff_constPointer :
    vectorVariable.firstQuoted? = some constPointerToVector.text ∧
      constPointerToVector.isClear = true ∧
      outerTypeName? constPointerToVector.text = some "vector".toList ∧
      (useOfNode [] (.ofKind "VarDecl") vectorVariable).2 = some ("vector", .declaration) := by
  have typed : vectorVariable.firstQuoted? = some constPointerToVector.text := by decide +kernel
  have isClear : constPointerToVector.isClear = true := rfl
  have declares := constPointerToVector.declares_name_iff [] vectorVariable typed
  exact ⟨typed, isClear, declares.1.2 isClear, declares.2.1.2 isClear⟩

/-- The type `std::string[3]`. -/
def threeStrings : TypeSpelling where
  keywords := []
  segments := ["std".toList]
  name := "string".toList
  arguments := none
  declarators := [(0, .extent ['3'] (by rw [List.forall_mem_singleton]; decide))]
  areKeywords := by decide
  areNames := by
    intro segment member
    rw [List.mem_singleton.1 member]
    exact ⟨by decide, by decide⟩
  isName := ⟨by decide, by decide⟩

/-- **An extent stays with the name, so not every type gives up its outermost name.** -/
theorem not_findsName_array :
    outerTypeName? threeStrings.text = some "string[3]".toList ∧
      ¬ ∀ spelling : TypeSpelling, outerTypeName? spelling.text = some spelling.name := by
  refine ⟨by decide +kernel, fun always => ?_⟩
  exact absurd (always threeStrings) (by decide +kernel)

end TypeSpelling

end ExportAudit.Usage
