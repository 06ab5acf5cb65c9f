import ExportAudit.Export.Scan
import ExportAudit.Proofs.Dump.PrintedNode
import ExportAudit.Proofs.Text.Chain

/-!
# Canonical modules

A canonical module has one export block with one namespace, and in it one using
declaration for each export, on a line of its own.  Its source and its dump are written
down here, and **every line of the dump has the role it is printed for.**
-/

namespace ExportAudit.Export

set_option autoImplicit false

open ExportAudit.Text ExportAudit.Dump

/-! ## What a canonical module consists of -/

/-- An identifier. -/
structure Identifier where
  text : String
  isIdentifier : isIdentifier text.toList = true

/-- The characters of an identifier. -/
abbrev Identifier.chars (identifier : Identifier) : List Char :=
  identifier.text.toList

/-- The drawing in front of a node of some depth. -/
structure Drawing (depth : Nat) where
  glyphs : List Char
  drawn : glyphs.all isGlyph = true
  deep : glyphs.length / 2 = depth

/-- An export: a name behind some nested segments, the kind of its declaration, and the
line of its using declaration. -/
structure ListedExport where
  segments : List Identifier
  name : Identifier
  declaration : Identifier
  line : Nat
  fits : line ≤ maxLineNumber
  usingDrawing : Drawing 3
  shadowDrawing : Drawing 3

/-- A module whose exports are listed in one namespace. -/
structure CanonicalModule where
  name : Identifier
  qualifier : Identifier
  /-- The dump marks inline namespaces with this word. -/
  notInline : qualifier.text ≠ "inline"
  /-- The line of the root. -/
  root : List Char
  isRoot : (Line.parse 0 root).kind = some rootKind
  blockDrawing : Drawing 1
  namespaceDrawing : Drawing 2
  exports : List ListedExport

namespace ListedExport

variable (listed : ListedExport) (qualifier : Identifier)

/-- The name with its namespace and its segments. -/
def qualifiedName : List Char :=
  chain (qualifier.chars :: listed.segments.map (·.chars)) listed.name.chars

/-- The using statement in the source. -/
def sourceLine : List Char :=
  "    using ".toList ++ (listed.qualifiedName qualifier ++ [';'])

/-- The using declaration in the dump of a module. -/
def usingLine (moduleName : Identifier) : List Char :=
  listed.usingDrawing.glyphs ++ ("UsingDecl 0x4 <line:".toList ++ (decimal listed.line ++
    (":5, col:16> col:16 in ".toList ++ (moduleName.chars ++
      ' ' :: listed.qualifiedName qualifier))))

/-- Its shadow in the dump. -/
def shadowLine : List Char :=
  listed.shadowDrawing.glyphs ++ ("UsingShadowDecl 0x5 <col:16> col:16 hidden implicit ".toList ++
    (listed.declaration.chars ++ (" 0x6 '".toList ++ (listed.name.chars ++ ['\'']))))

end ListedExport

namespace CanonicalModule

variable (canonical : CanonicalModule)

/-- The export block in the dump. -/
def blockLine : List Char :=
  canonical.blockDrawing.glyphs ++ ("ExportDecl 0x2 <src/".toList ++ (canonical.name.chars ++
    (".cppm:5:1, line:9:1> line:5:1 in ".toList ++ canonical.name.chars)))

/-- The namespace in the dump. -/
def namespaceLine : List Char :=
  canonical.namespaceDrawing.glyphs ++
    ("NamespaceDecl 0x3 <line:5:8, line:9:1> line:5:18 in ".toList ++
      (canonical.name.chars ++ ' ' :: canonical.qualifier.chars))

/-- The lines of the source. -/
def sourceLines : List (List Char) :=
  canonical.exports.map (·.sourceLine canonical.qualifier)

/-- The lines of some exports in the dump. -/
def exportLines (exports : List ListedExport) : List (List Char) :=
  exports.flatMap fun listed =>
    [listed.usingLine canonical.qualifier canonical.name, listed.shadowLine]

/-- The lines of the dump. -/
def dumpLines : List (List Char) :=
  canonical.root :: canonical.blockLine :: canonical.namespaceLine ::
    canonical.exportLines canonical.exports

end CanonicalModule

/-! ## Reading a line of the dump -/

/-- A line is read as a node of some kind and depth, followed by some words. -/
structure ReadAs (line : Line) (depth : Nat) (kind : String) (words : List (List Char)) :
    Prop where
  kind : line.kind = some kind
  depth : line.depth = depth
  tokens : tokens line.rest = words

theorem ReadAs.isNode {line : Line} {depth : Nat} {kind : String} {words : List (List Char)}
    (read : ReadAs line depth kind words) : line.isNode = true := by
  rw [Line.isNode, read.kind]
  rfl

/-- What stands in front of the locations of a drawn node. -/
def Drawing.head {depth : Nat} (drawing : Drawing depth) (kind : String) (digit : Char)
    (isKind : Text.isIdentifier kind.toList = true) (hexadecimal : isHexDigit digit = true) :
    NodeHead where
  drawing := drawing.glyphs
  kind := kind.toList
  digits := [digit]
  glyphs := drawing.drawn
  isKind := isKind
  hexadecimal := by simpa using hexadecimal
  nonempty := by simp

theorem Drawing.readAs {depth : Nat} (drawing : Drawing depth) {kind : String} {digit : Char}
    {isKind : Text.isIdentifier kind.toList = true} {hexadecimal : isHexDigit digit = true}
    {rest : List Char} {words : List (List Char)}
    (isSpaced : ' ' :: '0' :: 'x' :: digit :: ' ' :: '<' :: rest = spaced words)
    (solid : ∀ word ∈ words, Solid word) (index : Nat) :
    ReadAs (Line.parse index ((drawing.head kind digit isKind hexadecimal).text rest)) depth kind
      words := by
  rw [NodeHead.parse_text]
  refine ⟨congrArg some String.ofList_toList, drawing.deep, ?_⟩
  exact (congrArg tokens isSpaced).trans (tokens_spaced solid)

/-- An identifier is a word. -/
theorem Identifier.isRun (identifier : Identifier) : IsRun identifier.chars :=
  isRun_of_isIdentifier identifier.isIdentifier

theorem Identifier.solid (identifier : Identifier) : Solid identifier.chars :=
  identifier.isRun.solid

theorem isRun_of_mem_map (identifiers : List Identifier) :
    ∀ segment ∈ identifiers.map (·.chars), IsRun segment := by
  simp only [List.mem_map]
  rintro segment ⟨identifier, -, rfl⟩
  exact identifier.isRun

theorem all_beginsIdentifier (identifiers : List Identifier) :
    (identifiers.map (·.chars)).all beginsIdentifier = true := by
  simp only [List.all_map, List.all_eq_true]
  exact fun identifier _ => beginsIdentifier_of_isIdentifier identifier.isIdentifier

theorem decimal_five : decimal 5 = ['5'] := by
  decide

theorem solid_decimal (number : Nat) : Solid (decimal number) :=
  ⟨decimal_ne_nil number,
    fun _ member => isBlank_eq_false_of_isDigit (isDigit_of_mem_decimal member)⟩

namespace CanonicalModule

variable (canonical : CanonicalModule) (index : Nat)

theorem blockLine_eq : canonical.blockLine =
    (canonical.blockDrawing.head exportKind '2' (by decide) (by decide)).text
      ("src/".toList ++ (canonical.name.chars ++
        (".cppm:5:1, line:9:1> line:5:1 in ".toList ++ canonical.name.chars))) := rfl

theorem readAs_blockLine : ReadAs (Line.parse index canonical.blockLine) 1 exportKind
    ["0x2".toList, "<src/".toList ++ (canonical.name.chars ++ ".cppm:5:1,".toList),
      "line:9:1>".toList, "line:5:1".toList, "in".toList, canonical.name.chars] := by
  have name := canonical.name.solid
  have path : Solid ("<src/".toList ++ (canonical.name.chars ++ ".cppm:5:1,".toList)) :=
    Solid.append (by decide) (name.append (by decide))
  rw [blockLine_eq]
  refine canonical.blockDrawing.readAs ?_ ?_ index
  · simp [spaced]
  · simp only [List.forall_mem_cons]
    exact ⟨by decide, path, by decide, by decide, by decide, name, by simp⟩

theorem namespaceLine_eq : canonical.namespaceLine =
    (canonical.namespaceDrawing.head namespaceKind '3' (by decide) (by decide)).text
      ("line:5:8, line:9:1> line:5:18 in ".toList ++ (canonical.name.chars ++
        ' ' :: canonical.qualifier.chars)) := rfl

theorem readAs_namespaceLine : ReadAs (Line.parse index canonical.namespaceLine) 2 namespaceKind
    ["0x3".toList, "<line:5:8,".toList, "line:9:1>".toList, "line:5:18".toList, "in".toList,
      canonical.name.chars, canonical.qualifier.chars] := by
  rw [namespaceLine_eq]
  refine canonical.namespaceDrawing.readAs ?_ ?_ index
  · simp [spaced]
  · simp only [List.forall_mem_cons]
    exact ⟨by decide, by decide, by decide, by decide, by decide, canonical.name.solid,
      canonical.qualifier.solid, by simp⟩

variable (listed : ListedExport)

theorem usingLine_eq : listed.usingLine canonical.qualifier canonical.name =
    (listed.usingDrawing.head usingKind '4' (by decide) (by decide)).text
      ((Location.line listed.line 5).render ++ (", col:16> col:16 in ".toList ++
        (canonical.name.chars ++ ' ' :: listed.qualifiedName canonical.qualifier))) := by
  simp only [ListedExport.usingLine, Location.render, decimal_five, List.append_assoc,
    List.cons_append]
  rfl

theorem readAs_usingLine :
    ReadAs (Line.parse index (listed.usingLine canonical.qualifier canonical.name)) 3 usingKind
      ["0x4".toList, "<line:".toList ++ (decimal listed.line ++ ":5,".toList), "col:16>".toList,
        "col:16".toList, "in".toList, canonical.name.chars,
        listed.qualifiedName canonical.qualifier] := by
  have number : Solid ("<line:".toList ++ (decimal listed.line ++ ":5,".toList)) :=
    Solid.append (by decide) ((solid_decimal listed.line).append (by decide))
  have qualified : Solid (listed.qualifiedName canonical.qualifier) :=
    solid_chain (isRun_of_mem_map (canonical.qualifier :: listed.segments)) listed.name.isRun
  rw [usingLine_eq]
  refine listed.usingDrawing.readAs ?_ ?_ index
  · simp [spaced, Location.render, lineForm, decimal_five]
  · simp only [List.forall_mem_cons]
    exact ⟨by decide, number, by decide, by decide, by decide, canonical.name.solid, qualified,
      by simp⟩

end CanonicalModule

theorem ListedExport.shadowLine_eq (listed : ListedExport) : listed.shadowLine =
    (listed.shadowDrawing.head shadowKind '5' (by decide) (by decide)).text
      ("col:16> col:16 hidden implicit ".toList ++ (listed.declaration.chars ++
        (" 0x6 '".toList ++ (listed.name.chars ++ ['\''])))) := rfl

theorem ListedExport.readAs_shadowLine (listed : ListedExport) (index : Nat) :
    ReadAs (Line.parse index listed.shadowLine) 3 shadowKind
      ["0x5".toList, "<col:16>".toList, "col:16".toList, "hidden".toList, "implicit".toList,
        listed.declaration.chars, "0x6".toList,
        '\'' :: (listed.name.chars ++ ['\''])] := by
  have quoted : Solid ('\'' :: (listed.name.chars ++ ['\''])) :=
    (show Solid ['\''] by decide).append (listed.name.solid.append (by decide))
  rw [shadowLine_eq]
  refine listed.shadowDrawing.readAs ?_ ?_ index
  · simp [spaced]
  · simp only [List.forall_mem_cons]
    exact ⟨by decide, by decide, by decide, by decide, by decide, listed.declaration.solid,
      by decide, quoted, by simp⟩

/-! ## The roles of the lines -/

namespace CanonicalModule

variable (canonical : CanonicalModule) (index : Nat)

/-- The role that a line of the dump has for its module. -/
def roleOf (raw : List Char) : Role :=
  Role.of (Line.parse index raw) canonical.name.text canonical.qualifier.text

theorem roleOf_root : canonical.roleOf index canonical.root = .other := by
  have isRoot : (Line.parse index canonical.root).kind = some rootKind := canonical.isRoot
  rw [roleOf, Role.of, isRoot]
  rfl

/-- The block line opens a block of the module's own. -/
theorem roleOf_blockLine : canonical.roleOf index canonical.blockLine = .exportBlock true := by
  have read := canonical.readAs_blockLine index
  have owner : owner? (Line.parse index canonical.blockLine) =
      some canonical.name.chars := by
    rw [owner?, read.tokens]
    rfl
  rw [roleOf, Role.of, if_pos read.kind, ownedBy, owner]
  simp [isOwnedBy]

/-- The namespace line begins the namespace. -/
theorem roleOf_namespaceLine : canonical.roleOf index canonical.namespaceLine =
    .namespaceBlock (some canonical.qualifier.text) := by
  have read := canonical.readAs_namespaceLine index
  have other : canonical.qualifier.chars ≠ "inline".toList :=
    fun same => canonical.notInline (String.toList_injective same)
  have name : namespaceName? (Line.parse index canonical.namespaceLine) =
      some canonical.qualifier.text := by
    simp only [namespaceName?, read.tokens, List.reverse_cons, List.reverse_nil, List.nil_append,
      List.cons_append, if_neg other, Option.filter_some, canonical.qualifier.isIdentifier,
      if_true, Option.map_some, String.ofList_toList]
  rw [roleOf, Role.of, if_neg (by simp [read.kind, namespaceKind, exportKind]), if_pos read.kind,
    name]

variable (listed : ListedExport)

/-- A using declaration imports its name, with the line it is on. -/
theorem roleOf_usingLine :
    canonical.roleOf index (listed.usingLine canonical.qualifier canonical.name) =
      .usingName listed.name.text (some listed.line) := by
  have read := canonical.readAs_usingLine index listed
  have nested := isRun_of_mem_map listed.segments
  have trailing : (Line.parse index (listed.usingLine canonical.qualifier
      canonical.name)).trailingName? = some (listed.qualifiedName canonical.qualifier) := by
    have qualified : isQualifiedName (listed.qualifiedName canonical.qualifier) = true := by
      have all := all_beginsIdentifier (canonical.qualifier :: listed.segments ++ [listed.name])
      rw [List.map_append] at all
      exact (isQualifiedName_chain (isRun_of_mem_map (canonical.qualifier :: listed.segments))
        listed.name.isRun).trans all
    rw [Line.trailingName?, read.tokens]
    exact (Option.filter_some ..).trans (if_pos qualified)
  have imported : importedName? (Line.parse index (listed.usingLine canonical.qualifier
      canonical.name)) canonical.qualifier.text = some listed.name.text := by
    rw [importedName?, trailing]
    simp only [Option.bind_eq_bind, Option.bind_some, ListedExport.qualifiedName, chain,
      after?_append, lastSegment_chain nested listed.name.isRun]
    rw [if_pos listed.name.isIdentifier, String.ofList_toList]
  have number : (Line.parse index (listed.usingLine canonical.qualifier
      canonical.name)).lineNumber? = some listed.line := by
    rw [Line.lineNumber?, usingLine_eq, NodeHead.locations_parse_text _ _ _ index]
    · rfl
    · exact ⟨listed.fits, by decide⟩
    · exact stops_cons.2 (by decide)
  rw [roleOf, Role.of, if_neg (by simp [read.kind, usingKind, exportKind]),
    if_neg (by simp [read.kind, usingKind, namespaceKind]), if_pos read.kind, imported, number]

/-- A quoted identifier behind an address is the next quoted word. -/
theorem quotedWord?_shadow (name : Identifier) :
    quotedWord? ("0x6 '".toList ++ (name.chars ++ ['\''])) = some name.chars := by
  have word : run? isWord (name.chars ++ ['\'']) = some (name.chars, ['\'']) :=
    run?_run name.isRun.1 name.isRun.2 (stops_cons.2 (by decide))
  have isNext : quotedWord? ("0x6 '".toList ++ (name.chars ++ ['\''])) =
      quotedWord? ('\'' :: (name.chars ++ ['\''])) := rfl
  rw [isNext, quotedWord?]
  simp [after?, word]

/-- The declaration and the name behind the word that marks a shadow. -/
theorem shadowAt?_shadow (declaration name : Identifier) :
    shadowAt? (some ' ') ("implicit".toList ++ ' ' :: (declaration.chars ++
      ' ' :: ("0x6 '".toList ++ (name.chars ++ ['\''])))) = some (declaration.text, name.text) := by
  have blank := afterBlanks?_blank (by decide : isBlank ' ' = true)
    (declaration.solid.stops (' ' :: ("0x6 '".toList ++ (name.chars ++ ['\'']))))
  have word : run? isWord (declaration.chars ++ ' ' :: ("0x6 '".toList ++
      (name.chars ++ ['\'']))) =
        some (declaration.chars, ' ' :: ("0x6 '".toList ++ (name.chars ++ ['\'']))) :=
    run?_run declaration.isRun.1 declaration.isRun.2 (stops_cons.2 (by decide))
  have nextBlank : afterBlanks? (' ' :: ("0x6 '".toList ++ (name.chars ++ ['\'']))) =
      some ("0x6 '".toList ++ (name.chars ++ ['\''])) :=
    afterBlanks?_blank (by decide) (stops_cons.2 (by decide))
  rw [shadowAt?, if_neg (by decide), after?_append]
  simp only [Option.bind_eq_bind, Option.bind_some, blank, word, nextBlank, quotedWord?_shadow,
    String.ofList_toList]

/-- Its shadow tells the kind of the declaration. -/
theorem roleOf_shadowLine : canonical.roleOf index listed.shadowLine =
    .shadow listed.declaration.text listed.name.text := by
  have isKind := (listed.readAs_shadowLine index).kind
  have rest : (Line.parse index listed.shadowLine).rest =
      " 0x5 <col:16> col:16 hidden ".toList ++ ("implicit".toList ++ ' ' ::
        (listed.declaration.chars ++ ' ' :: ("0x6 '".toList ++
          (listed.name.chars ++ ['\''])))) := by
    rw [listed.shadowLine_eq, NodeHead.parse_text]
    rfl
  have found : first? shadowAt? none (Line.parse index listed.shadowLine).rest =
      some (listed.declaration.text, listed.name.text) := by
    -- the mark stands nowhere in front of its place
    have isNext (text : List Char) :
        first? shadowAt? none (" 0x5 <col:16> col:16 hidden ".toList ++ text) =
          first? shadowAt? (some ' ') text := rfl
    rw [rest, isNext]
    exact first?_found (shadowAt?_shadow listed.declaration listed.name)
  rw [roleOf, Role.of, if_neg (by simp [isKind, shadowKind, exportKind]),
    if_neg (by simp [isKind, shadowKind, namespaceKind]),
    if_neg (by simp [isKind, shadowKind, usingKind]), if_pos isKind, found]

end CanonicalModule

end ExportAudit.Export
