import ExportAudit.Export.Role
import ExportAudit.Proofs.Export.StatementGrammar

/-!
# Names that can be imported

A module's using declaration is read twice, from the dump line that ends in its qualified
name and from the source line that states it.  The two readings have grammars of their own.
A statement takes words of any script.  A dump line takes a qualified name whose segments
all begin like identifiers, and of that name it takes the last segment only if it is an
identifier throughout.

So they agree on a name **exactly if its segments begin like identifiers and its last
segment is one**.  An accent in front of another segment, or anywhere in the last one, gives
a name that the source exports and the dump does not.
-/

namespace ExportAudit.Export

set_option autoImplicit false

open ExportAudit.Text ExportAudit.Dump

/-! ## The two readings -/

/-- The keyword of a using statement. -/
def usingKeyword : List Char := "using".toList

/-- The using statement of a qualified name. -/
def usingStatement (qualified : List Char) : List Char :=
  usingKeyword ++ ' ' :: (qualified ++ [';'])

/-- A dump line imports the names that a source exports, and no others. -/
def ImportsAlike (line : Line) (moduleName qualifier source : String) : Prop :=
  ∀ name, (∃ number, Role.of line moduleName qualifier = .usingName name number) ↔
    name ∈ statementNames qualifier source

/-- A dump line is the using declaration of a qualified name. -/
structure Declares (line : Line) (qualified : List Char) : Prop where
  isUsing : line.kind = some usingKind
  ends : (tokens line.rest).getLast? = some qualified

/-- The segments in front of a name begin like identifiers, and the name is one. -/
def isPlainName (segments : List (List Char)) (name : String) : Bool :=
  segments.all beginsIdentifier && isIdentifier name.toList

variable {qualifier name : String} {segments : List (List Char)} {line : Line}

/-! ## Reading the dump -/

theorem trailingName?_chain (isQualifier : isIdentifier qualifier.toList = true)
    (words : ∀ segment ∈ segments, IsRun segment) (isName : IsRun name.toList)
    (ends : (tokens line.rest).getLast? = some (chain (qualifier.toList :: segments) name.toList)) :
    line.trailingName? =
      if (segments ++ [name.toList]).all beginsIdentifier then
        some (chain (qualifier.toList :: segments) name.toList)
      else none := by
  have allWords : ∀ segment ∈ qualifier.toList :: segments, IsRun segment :=
    List.forall_mem_cons.2 ⟨isRun_of_isIdentifier isQualifier, words⟩
  have isChain := isQualifiedName_chain allWords isName
  rw [List.cons_append, List.all_cons, beginsIdentifier_of_isIdentifier isQualifier,
    Bool.true_and] at isChain
  rw [Line.trailingName?, ends, Option.filter_some, isChain]

/-- **A using declaration imports the last segment of a plain name, and nothing of any
other.** -/
theorem importedName?_chain (isQualifier : isIdentifier qualifier.toList = true)
    (words : ∀ segment ∈ segments, IsRun segment) (isName : IsRun name.toList)
    (ends : (tokens line.rest).getLast? = some (chain (qualifier.toList :: segments) name.toList)) :
    importedName? line qualifier = if isPlainName segments name then some name else none := by
  have trailing := trailingName?_chain isQualifier words isName ends
  rw [List.all_append, List.all_cons, List.all_nil, Bool.and_true] at trailing
  rw [importedName?, trailing, isPlainName]
  cases inFront : segments.all beginsIdentifier with
  | false => rfl
  | true =>
    cases begins : beginsIdentifier name.toList with
    | false =>
      have noIdentifier : isIdentifier name.toList = false := by
        rw [Bool.eq_false_iff]
        intro identifier
        rw [beginsIdentifier_of_isIdentifier identifier] at begins
        cases begins
      rw [noIdentifier]
      rfl
    | true =>
      simp only [Bool.and_self, if_true, Option.bind_eq_bind, Option.bind_some, chain,
        after?_append, lastSegment_chain words isName, Bool.true_and, String.ofList_toList]

theorem roleOf_using (isUsing : line.kind = some usingKind) (moduleName : String) :
    Role.of line moduleName qualifier =
      match importedName? line qualifier with
      | some name => .usingName name line.lineNumber?
      | none => .other := by
  have notExport : line.kind ≠ some exportKind := by simp [isUsing, usingKind, exportKind]
  have notNamespace : line.kind ≠ some namespaceKind := by simp [isUsing, usingKind, namespaceKind]
  exact (if_neg notExport).trans ((if_neg notNamespace).trans (if_pos isUsing))

/-- **The role of a using declaration.** -/
theorem Declares.roleOf (isQualifier : isIdentifier qualifier.toList = true)
    (words : ∀ segment ∈ segments, IsRun segment) (isName : IsRun name.toList)
    (declares : Declares line (chain (qualifier.toList :: segments) name.toList))
    (moduleName : String) :
    Role.of line moduleName qualifier =
      if isPlainName segments name then .usingName name line.lineNumber? else .other := by
  rw [roleOf_using declares.isUsing, importedName?_chain isQualifier words isName declares.ends]
  cases isPlainName segments name <;> rfl

/-! ## Reading the source -/

theorem isStatement_usingStatement (words : ∀ segment ∈ segments, IsRun segment)
    (isName : IsRun name.toList) :
    IsStatement qualifier name
      (usingStatement (chain (qualifier.toList :: segments) name.toList)) := by
  have head : StatementHead qualifier name ([] ++ (usingKeyword ++ ([' '] ++
      (qualifier.toList ++ (separator ++ (chain segments name.toList ++ [])))))) :=
    .intro rfl (by decide) (by decide) words isName rfl
  refine ⟨_, [], head, ?_⟩
  simp only [usingStatement, chain, List.nil_append, List.append_nil, List.append_assoc,
    List.cons_append]

theorem newline_notMem_usingStatement {qualified : List Char} (solid : Solid qualified) :
    '\n' ∉ usingStatement qualified := by
  have noBreak : '\n' ∉ usingKeyword ++ [' '] := by decide
  have noBlank : '\n' ∉ qualified := fun member => absurd (solid.2 _ member) (by decide)
  rw [List.mem_append] at noBreak
  simp only [usingStatement, List.mem_append, List.mem_cons] at noBreak ⊢
  tauto

/-- **A using statement exports its last segment, whatever its script.** -/
theorem statementNames_usingStatement (isQualifier : IsRun qualifier.toList)
    (words : ∀ segment ∈ segments, IsRun segment) (isName : IsRun name.toList) :
    statementNames qualifier (String.ofList
        (usingStatement (chain (qualifier.toList :: segments) name.toList))) = .ofList [name] := by
  have isStatement : IsStatement qualifier name _ := isStatement_usingStatement words isName
  have noNewline := newline_notMem_usingStatement
    (solid_chain (List.forall_mem_cons.2 ⟨isQualifier, words⟩) isName)
  have nonempty : usingStatement (chain (qualifier.toList :: segments) name.toList) ≠ [] :=
    List.append_ne_nil_of_left_ne_nil (by decide) _
  refine NameSet.ext fun other => ?_
  rw [mem_statementNames, String.toList_ofList, lines_last nonempty noNewline, NameSet.mem_ofList,
    List.mem_singleton]
  simp only [List.mem_singleton, exists_eq_left]
  constructor
  · exact fun isOther => isOther.name_unique isStatement
  · rintro rfl
    exact isStatement

/-! ## Comparing them -/

/-- **The two readings of a name agree exactly if it is plain.**  The statement exports its
last segment in any case. -/
theorem importsAlike_iff_isPlainName (isQualifier : isIdentifier qualifier.toList = true)
    (words : ∀ segment ∈ segments, IsRun segment) (isName : IsRun name.toList)
    (declares : Declares line (chain (qualifier.toList :: segments) name.toList))
    (moduleName : String) :
    statementNames qualifier (String.ofList
        (usingStatement (chain (qualifier.toList :: segments) name.toList))) = .ofList [name] ∧
      Role.of line moduleName qualifier =
        (if isPlainName segments name then .usingName name line.lineNumber? else .other) ∧
      (ImportsAlike line moduleName qualifier (String.ofList
          (usingStatement (chain (qualifier.toList :: segments) name.toList))) ↔
        isPlainName segments name = true) := by
  have stated := statementNames_usingStatement (isRun_of_isIdentifier isQualifier) words isName
  have role := declares.roleOf isQualifier words isName moduleName
  refine ⟨stated, role, ?_⟩
  rw [ImportsAlike, stated, role]
  simp only [NameSet.mem_ofList, List.mem_singleton]
  cases isPlainName segments name with
  | false => simp
  | true => simp [eq_comm]

/-- The using declaration of a name behind a segment with an umlaut. -/
def umlautSegment : Line :=
  Line.parse 4 "|-UsingDecl 0x3 <line:8:5, col:20> col:20 in m hidden std::r\u00e4nge::swap".toList

/-- The using declaration of a name with an umlaut. -/
def umlautName : Line :=
  Line.parse 4 "|-UsingDecl 0x3 <line:8:5, col:16> col:16 in m hidden std::gr\u00f6\u00dfe".toList

theorem importsAlike_iff_isPlainName_umlautSegment :
    isIdentifier "std".toList = true ∧ (∀ segment ∈ ["r\u00e4nge".toList], IsRun segment) ∧
      IsRun "swap".toList ∧
      Declares umlautSegment (chain ["std".toList, "r\u00e4nge".toList] "swap".toList) ∧
      ImportsAlike umlautSegment "m" "std" (String.ofList
        (usingStatement (chain ["std".toList, "r\u00e4nge".toList] "swap".toList))) := by
  have isQualifier : isIdentifier "std".toList = true := by decide
  have words : ∀ segment ∈ ["r\u00e4nge".toList], IsRun segment := by decide +kernel
  have isName : IsRun "swap".toList := by decide
  have declares : Declares umlautSegment
      (chain ["std".toList, "r\u00e4nge".toList] "swap".toList) :=
    ⟨by decide +kernel, by decide +kernel⟩
  have plain : isPlainName ["r\u00e4nge".toList] "swap" = true := by decide
  exact ⟨isQualifier, words, isName, declares,
    (importsAlike_iff_isPlainName isQualifier words isName declares "m").2.2.2 plain⟩

/-- **The dump is deaf to a name that the source exports**, although the name begins like an
identifier and the dump takes it for a qualified name. -/
theorem not_importsAlike_umlautName :
    Declares umlautName (chain ["std".toList] "gr\u00f6\u00dfe".toList) ∧
      IsRun "gr\u00f6\u00dfe".toList ∧ beginsIdentifier "gr\u00f6\u00dfe".toList = true ∧
      ¬ ImportsAlike umlautName "m" "std"
        (String.ofList (usingStatement (chain ["std".toList] "gr\u00f6\u00dfe".toList))) := by
  have declares : Declares umlautName (chain ["std".toList] "gr\u00f6\u00dfe".toList) :=
    ⟨by decide +kernel, by decide +kernel⟩
  have isName : IsRun "gr\u00f6\u00dfe".toList := by decide +kernel
  have isQualifier : isIdentifier "std".toList = true := by decide
  have noSegments : ∀ segment ∈ ([] : List (List Char)), IsRun segment := by simp
  have stated := statementNames_usingStatement (isRun_of_isIdentifier isQualifier) noSegments isName
  have role := declares.roleOf isQualifier noSegments isName "m"
  have notPlain : isPlainName [] "gr\u00f6\u00dfe" = false := by decide +kernel
  refine ⟨declares, isName, by decide, fun alike => ?_⟩
  rw [ImportsAlike, stated] at alike
  obtain ⟨number, imports⟩ := (alike "gr\u00f6\u00dfe").2 (by decide)
  rw [role, notPlain] at imports
  cases imports

end ExportAudit.Export
