import ExportAudit.Proofs.Dump.Forest
import ExportAudit.Proofs.Dump.PrintedNode
import ExportAudit.Proofs.Text.Lines

/-!
# Trees as they are printed

A compiler prints a tree one node a line, in preorder.  In front of a node stands its
drawing: a column for each node above it but the root, with a bar if that node has a later
sibling, and then an edge, which is a backquote and a dash for a last child.  The root has
no drawing.

Each line is read on its own, with no tree in memory.  That is enough, because every level
is two characters wide, no kind begins with a character of the drawing, and only the edge
of a last child holds a backquote.  **So the lines of a printed tree are its nodes in
preorder, each at its depth and with its place among its siblings.**
-/

namespace ExportAudit.Dump

set_option autoImplicit false

open ExportAudit.Text

/-! ## Trees -/

/-- What a node prints behind its drawing. -/
structure NodeText where
  kind : List Char
  rest : List Char
  isKind : isIdentifier kind = true
  /-- The rest begins with a blank and an address. -/
  addressed : ∃ digit behind, rest = ' ' :: '0' :: 'x' :: digit :: behind ∧
    isHexDigit digit = true
  /-- No line break falls into the rest.  A return at its end would make one with the
  newline behind it. -/
  isLine : IsLine rest

/-- An ordered tree of nodes. -/
inductive NodeTree where
  | node (text : NodeText) (children : List NodeTree)

/-- A node as it stands in a tree. -/
structure PlacedNode where
  text : NodeText
  depth : Nat
  /-- The node is a child that no sibling follows. -/
  lastChild : Bool

mutual
/-- The nodes of a tree in preorder. -/
def NodeTree.preorder (depth : Nat) (lastChild : Bool) : NodeTree → List PlacedNode
  | .node text children =>
    ⟨text, depth, lastChild⟩ :: NodeTree.childrenInPreorder (depth + 1) children

/-- The nodes of the trees below a node in preorder. -/
def NodeTree.childrenInPreorder (depth : Nat) : List NodeTree → List PlacedNode
  | [] => []
  | child :: later =>
    child.preorder depth later.isEmpty ++ NodeTree.childrenInPreorder depth later
end

/-! ## Printing -/

/-- The column that a node draws in front of the nodes below it. -/
def column (lastChild : Bool) : List Char :=
  if lastChild then [' ', ' '] else ['|', ' ']

/-- The edge in front of a node. -/
def edge (lastChild : Bool) : List Char :=
  if lastChild then ['\x60', '-'] else ['|', '-']

/-- The drawing of a node.  The path to it says of each node on the way from the root, which
is left out, to the node itself whether it is a last child. -/
def drawing (path : List Bool) : List Char :=
  match path.getLast? with
  | none => []
  | some lastChild => path.dropLast.flatMap column ++ edge lastChild

mutual
/-- The lines of a tree. -/
def NodeTree.texts (path : List Bool) : NodeTree → List (List Char)
  | .node text children =>
    (drawing path ++ (text.kind ++ text.rest)) :: NodeTree.childrenTexts path children

/-- The lines of the trees below a node. -/
def NodeTree.childrenTexts (path : List Bool) : List NodeTree → List (List Char)
  | [] => []
  | child :: later =>
    child.texts (path ++ [later.isEmpty]) ++ NodeTree.childrenTexts path later
end

/-- The dump of a tree, with or without a newline behind its last line. -/
def NodeTree.print (tree : NodeTree) (ended : Bool) : String :=
  String.ofList (['\n'].intercalate (tree.texts []) ++ if ended then ['\n'] else [])

/-! ## Reading a drawing -/

theorem drawing_concat (path : List Bool) (lastChild : Bool) :
    drawing (path ++ [lastChild]) = path.flatMap column ++ edge lastChild := by
  rw [drawing, List.getLast?_concat, List.dropLast_concat]

theorem all_isGlyph_drawing (path : List Bool) : (drawing path).all isGlyph = true := by
  have columns (lastChild : Bool) : (column lastChild).all isGlyph = true := by
    cases lastChild <;> decide
  have edges (lastChild : Bool) : (edge lastChild).all isGlyph = true := by
    cases lastChild <;> decide
  induction path using List.reverseRecOn with
  | nil => rfl
  | append_singleton path lastChild _ =>
    rw [drawing_concat, List.all_append, edges, Bool.and_true, List.all_flatMap]
    exact List.all_eq_true.2 fun lastChild _ => columns lastChild

/-- **Every level is two characters wide.** -/
theorem length_drawing (path : List Bool) : (drawing path).length = 2 * path.length := by
  have columns (path : List Bool) : (path.flatMap column).length = 2 * path.length := by
    induction path with
    | nil => rfl
    | cons lastChild path ih =>
      have width : (column lastChild).length = 2 := by cases lastChild <;> rfl
      rw [List.flatMap_cons, List.length_append, ih, width, List.length_cons]
      omega
  induction path using List.reverseRecOn with
  | nil => rfl
  | append_singleton path lastChild _ =>
    have width : (edge lastChild).length = 2 := by cases lastChild <;> rfl
    rw [drawing_concat, List.length_append, columns, width, List.length_append,
      List.length_singleton]
    omega

/-- **The end of a drawing tells a last child from the others and from the root.** -/
theorem isSuffixOf_drawing (path : List Bool) :
    lastChildMark.isSuffixOf (drawing path) = (path.getLast? == some true) := by
  induction path using List.reverseRecOn with
  | nil => rfl
  | append_singleton path lastChild _ =>
    rw [drawing_concat, List.getLast?_concat]
    cases lastChild with
    | true => exact List.isSuffixOf_iff_suffix.2 ⟨path.flatMap column, rfl⟩
    | false =>
      refine Bool.eq_false_iff.2 fun isSuffix => ?_
      obtain ⟨front, same⟩ := List.isSuffixOf_iff_suffix.1 isSuffix
      have ends : lastChildMark = edge false := (List.append_inj' same rfl).2
      exact absurd ends (by decide)

example : drawing [false, true, false] = ['|', ' ', ' ', ' ', '|', '-'] := rfl

/-! ## Reading a line -/

/-- The line of a node. -/
def PlacedNode.line (node : PlacedNode) (index : Nat) : Line :=
  { index
    depth := node.depth
    lastSibling := node.lastChild
    kind := some (String.ofList node.text.kind)
    rest := node.text.rest
    locations := locationsOf (headerOf node.text.rest) }

/-- A text is one line, and it is read as a node. -/
structure Prints (raw : List Char) (node : PlacedNode) : Prop where
  isLine : IsLine raw
  nonempty : raw ≠ []
  parse : ∀ index, Line.parse index raw = node.line index

namespace NodeText

variable (text : NodeText)

theorem hasAddress_rest : hasAddress text.rest = true := by
  obtain ⟨digit, behind, isRest, isDigit⟩ := text.addressed
  rw [isRest]
  exact hasAddress_of_isHexDigit isDigit behind

theorem stops_rest : Stops isIdentRest text.rest := by
  obtain ⟨digit, behind, isRest, -⟩ := text.addressed
  rw [isRest]
  exact stops_cons.2 (by decide)

theorem rest_ne_nil : text.rest ≠ [] := by
  obtain ⟨digit, behind, isRest, -⟩ := text.addressed
  simp [isRest]

/-- What stands in front of the rest holds no newline, so the line breaks are those of the
rest. -/
theorem isLine_drawn (path : List Bool) :
    IsLine (drawing path ++ (text.kind ++ text.rest)) := by
  have noGlyph : '\n' ∉ drawing path := fun member =>
    absurd (List.all_eq_true.1 (all_isGlyph_drawing path) _ member) (by decide)
  have noKind : '\n' ∉ text.kind := fun member =>
    absurd (isIdentRest_of_isIdentifier text.isKind _ member) (by decide)
  refine ⟨by simp [noGlyph, noKind, text.isLine.1], ?_⟩
  rw [← List.append_assoc, List.getLast?_append_of_ne_nil _ text.rest_ne_nil]
  exact text.isLine.2

/-- **A node is read from its line at the depth and the place its path gives it.** -/
theorem prints_drawn (path : List Bool) :
    Prints (drawing path ++ (text.kind ++ text.rest))
      ⟨text, path.length, path.getLast? == some true⟩ where
  isLine := text.isLine_drawn path
  nonempty := by simp [text.rest_ne_nil]
  parse index := by
    rw [Line.parse_drawn (all_isGlyph_drawing path) text.isKind text.stops_rest
      text.hasAddress_rest, length_drawing, isSuffixOf_drawing,
      Nat.mul_div_cancel_left _ Nat.two_pos]
    rfl

end NodeText

/-! ## Reading a tree -/

namespace NodeTree

mutual
/-- The lines of a tree are read as its nodes, by induction on the tree. -/
theorem prints_texts (path : List Bool) : ∀ tree : NodeTree,
    List.Forall₂ Prints (tree.texts path)
      (tree.preorder path.length (path.getLast? == some true))
  | .node text children => by
    rw [texts, preorder]
    exact .cons (text.prints_drawn path) (prints_childrenTexts path children)

theorem prints_childrenTexts (path : List Bool) : ∀ children : List NodeTree,
    List.Forall₂ Prints (childrenTexts path children)
      (childrenInPreorder (path.length + 1) children)
  | [] => by
    rw [childrenTexts, childrenInPreorder]
    exact .nil
  | child :: later => by
    rw [childrenTexts, childrenInPreorder]
    have first := prints_texts (path ++ [later.isEmpty]) child
    rw [List.length_append, List.length_singleton, List.getLast?_concat] at first
    refine List.rel_append ?_ (prints_childrenTexts path later)
    simpa using first
end

/-- The root has the empty path. -/
theorem prints_root (tree : NodeTree) :
    List.Forall₂ Prints (tree.texts []) (tree.preorder 0 false) :=
  tree.prints_texts []

theorem texts_ne_nil (tree : NodeTree) (path : List Bool) : tree.texts path ≠ [] := by
  cases tree
  rw [texts]
  exact List.cons_ne_nil _ _

end NodeTree

theorem parsedFrom_of_prints {raws : List (List Char)} {nodes : List PlacedNode}
    (prints : List.Forall₂ Prints raws nodes) (index : Nat) :
    parsedFrom index raws = (nodes.zipIdx index).map fun (node, index) => node.line index := by
  induction prints generalizing index with
  | nil => rfl
  | cons first _ ih =>
    rw [parsedFrom_cons, first.parse, ih, List.zipIdx_cons, List.map_cons]

theorem lines_of_prints {raws : List (List Char)} {nodes : List PlacedNode}
    (prints : List.Forall₂ Prints raws nodes) :
    ∀ raw ∈ raws, IsLine raw ∧ raw ≠ [] := by
  induction prints with
  | nil => simp
  | cons first _ ih => exact List.forall_mem_cons.2 ⟨⟨first.isLine, first.nonempty⟩, ih⟩

/-- The dump of a tree is read line by line. -/
theorem parseDump_texts (tree : NodeTree) (ended : Bool) :
    parseDump (tree.print ended) = parsedFrom 0 (tree.texts []) := by
  have each := lines_of_prints tree.prints_root
  have isLines : lines (tree.print ended).toList = tree.texts [] := by
    rw [NodeTree.print, String.toList_ofList]
    exact lines_intercalate (tree.texts_ne_nil []) (fun raw member => (each raw member).1)
      (fun raw member => (each raw member).2) ended
  rw [parseDump, isLines, parsedFrom]

/-- **The dump of a tree is read as the nodes of the tree in preorder, numbered from zero,
each with its depth, its kind, its rest, and whether it is a last child.** -/
theorem parseDump_print (tree : NodeTree) (ended : Bool) :
    parseDump (tree.print ended) =
      (tree.preorder 0 false).zipIdx.map fun (node, index) => node.line index := by
  rw [parseDump_texts]
  exact parsedFrom_of_prints tree.prints_root 0

/-- The text of a node that prints nothing behind an address of one digit. -/
def NodeText.bare (kind : String) (digit : Char) (isKind : isIdentifier kind.toList = true)
    (isDigit : isHexDigit digit = true) : NodeText where
  kind := kind.toList
  rest := [' ', '0', 'x', digit]
  isKind := isKind
  addressed := ⟨digit, [], rfl, isDigit⟩
  isLine := by
    have noBreak (mark : Char) (notDigit : isHexDigit mark = false) : digit ≠ mark := by
      rintro rfl
      exact absurd isDigit (by simp [notDigit])
    constructor
    · simpa using (noBreak '\n' (by decide)).symm
    · simpa using noBreak '\r' (by decide)

/-- A unit of two declarations.  The first has two nodes below it, so a bar runs past them; the
second is a last child with a last child. -/
def branching : NodeTree :=
  .node (.bare "TranslationUnitDecl" '1' (by decide) (by decide))
    [.node (.bare "NamespaceDecl" '2' (by decide) (by decide))
      [.node (.bare "UsingDecl" '3' (by decide) (by decide)) [],
       .node (.bare "UsingShadowDecl" '4' (by decide) (by decide)) []],
     .node (.bare "FunctionDecl" '5' (by decide) (by decide))
      [.node (.bare "CompoundStmt" 'a' (by decide) (by decide)) []]]

theorem parseDump_print_branching :
    branching.print true =
        "TranslationUnitDecl 0x1
|-NamespaceDecl 0x2
| |-UsingDecl 0x3
| \x60-UsingShadowDecl 0x4
\x60-FunctionDecl 0x5
  \x60-CompoundStmt 0xa
" ∧
      (parseDump (branching.print true)).map
          (fun line => (line.index, line.depth, line.lastSibling, line.kind)) =
        [(0, 0, false, some "TranslationUnitDecl"), (1, 1, false, some "NamespaceDecl"),
          (2, 2, false, some "UsingDecl"), (3, 2, true, some "UsingShadowDecl"),
          (4, 1, true, some "FunctionDecl"), (5, 2, true, some "CompoundStmt")] := by
  refine ⟨by decide +kernel, ?_⟩
  rw [parseDump_print branching true]
  decide

/-! ## Printed trees are preorders -/

/-- Depths that begin at a level, sink by at most one at a time, and never rise above it. -/
structure SinksFrom (level : Nat) (depths : List Nat) : Prop where
  head : ∀ depth ∈ depths.head?, depth = level
  chain : depths.IsChain fun before after => after ≤ before + 1
  below : ∀ depth ∈ depths, level ≤ depth

/-- A level has the levels below it behind it. -/
theorem SinksFrom.cons {level : Nat} {depths : List Nat} (sinks : SinksFrom (level + 1) depths) :
    SinksFrom level (level :: depths) where
  head := by simp
  chain := List.isChain_cons.2
    ⟨fun depth head => Nat.le_of_eq (sinks.head depth head), sinks.chain⟩
  below := List.forall_mem_cons.2
    ⟨Nat.le_refl level, fun depth member => Nat.le_of_succ_le (sinks.below depth member)⟩

/-- From wherever the first list has sunk to, the second begins no deeper than one below. -/
theorem SinksFrom.append {level : Nat} {depths others : List Nat} (first : SinksFrom level depths)
    (second : SinksFrom level others) : SinksFrom level (depths ++ others) where
  head depth head := by
    rw [List.head?_append] at head
    cases depths with
    | nil => exact second.head depth head
    | cons start depths => exact first.head depth head
  chain := by
    refine List.isChain_append.2 ⟨first.chain, second.chain, fun last lastOf next nextOf => ?_⟩
    have low := first.below last (List.mem_of_mem_getLast? lastOf)
    have begins := second.head next nextOf
    omega
  below := List.forall_mem_append.2 ⟨first.below, second.below⟩

mutual
theorem NodeTree.sinksFrom_preorder (depth : Nat) (lastChild : Bool) : ∀ tree : NodeTree,
    SinksFrom depth ((tree.preorder depth lastChild).map (·.depth))
  | .node text children => by
    rw [preorder, List.map_cons]
    exact (sinksFrom_childrenInPreorder (depth + 1) children).cons

theorem NodeTree.sinksFrom_childrenInPreorder (depth : Nat) : ∀ children : List NodeTree,
    SinksFrom depth ((childrenInPreorder depth children).map (·.depth))
  | [] => by
    rw [childrenInPreorder]
    exact ⟨by simp, .nil, by simp⟩
  | child :: later => by
    rw [childrenInPreorder, List.map_append]
    exact (sinksFrom_preorder depth later.isEmpty child).append
      (sinksFrom_childrenInPreorder depth later)
end

/-- **What is proved of preorders holds of every printed tree.** -/
theorem isPreorder_print (tree : NodeTree) (ended : Bool) :
    IsPreorder (parseDump (tree.print ended)) := by
  have depths : nodeDepths (parseDump (tree.print ended)) =
      (tree.preorder 0 false).map (·.depth) := by
    rw [parseDump_texts, parsedFrom_of_prints tree.prints_root, nodeDepths,
      List.filter_eq_self.2, List.map_map]
    · nth_rewrite 2 [← List.zipIdx_map_fst 0 (tree.preorder 0 false)]
      rw [List.map_map]
      rfl
    · simp only [List.mem_map]
      rintro line ⟨⟨node, index⟩, -, rfl⟩
      rfl
  have sinks := tree.sinksFrom_preorder 0 false
  rw [← depths] at sinks
  exact ⟨sinks.head, sinks.chain⟩

end ExportAudit.Dump
