import ExportAudit.Path
import Mathlib.Data.List.DropRight

/-!
# The path above a path

The parent of a path is written with the front pieces of its text, so its components can
be read off: **they are those of the path but the last.**  The root and the empty path have
none to lose, and they alone have no parent.  A parent is shorter than the path below it,
so a climb from parent to parent comes to an end.

A relative path joined to a directory adds its own components to those of the directory,
but for the dot in front of it, which counts only where the path stands alone.
-/

namespace ExportAudit.Path

set_option autoImplicit false

/-! ## Pieces -/

/-- Pieces are what the slashes of a text leave. -/
theorem pieces_eq_splitOn (text : List Char) : pieces text = text.splitOn '/' := by
  induction text with
  | nil => rfl
  | cons c rest ih =>
    rw [pieces, List.splitOn_cons_eq_if_modifyHead, ih]
    by_cases slash : c = '/'
    · simp [slash]
    · obtain ⟨piece, others, same⟩ := List.exists_cons_of_ne_nil (List.splitOn_ne_nil '/' rest)
      simp [slash, same]

theorem pieces_ne_nil (text : List Char) : pieces text ≠ [] := by
  rw [pieces_eq_splitOn]
  exact List.splitOn_ne_nil _ _

theorem pieces_slash (front back : List Char) :
    pieces (front ++ '/' :: back) = pieces front ++ pieces back := by
  simp only [pieces_eq_splitOn, List.splitOn_append_cons_self]

theorem pieces_of_notMem {text : List Char} (noSlash : '/' ∉ text) : pieces text = [text] := by
  rw [pieces_eq_splitOn, List.splitOn_eq_singleton noSlash]

theorem intercalate_pieces (text : List Char) : ['/'].intercalate (pieces text) = text := by
  rw [pieces_eq_splitOn, List.intercalate_splitOn]

/-- No piece holds a slash. -/
theorem slash_notMem_of_mem_pieces {text : List Char} :
    ∀ piece ∈ pieces text, '/' ∉ piece := by
  induction text with
  | nil => simp [pieces]
  | cons c rest ih =>
    obtain ⟨first, others, same⟩ := List.exists_cons_of_ne_nil (pieces_ne_nil rest)
    rw [same, List.forall_mem_cons] at ih
    rw [pieces, same]
    split
    · simpa using ih
    · next other =>
      rw [List.forall_mem_cons]
      refine ⟨?_, ih.2⟩
      rw [List.mem_cons, not_or]
      exact ⟨Ne.symm other, ih.1⟩

theorem pieces_intercalate {list : List (List Char)} (nonempty : list ≠ [])
    (noSlash : ∀ piece ∈ list, '/' ∉ piece) : pieces (['/'].intercalate list) = list := by
  rw [pieces_eq_splitOn, List.splitOn_intercalate '/' noSlash nonempty]

theorem intercalate_append {front back : List (List Char)} (first : front ≠ [])
    (second : back ≠ []) :
    ['/'].intercalate (front ++ back) =
      ['/'].intercalate front ++ '/' :: ['/'].intercalate back := by
  induction front with
  | nil => exact absurd rfl first
  | cons piece front ih =>
    cases front with
    | nil => simp [List.intercalate_cons_of_ne_nil second]
    | cons next front =>
      rw [List.cons_append, List.intercalate_cons_of_ne_nil (by simp), ih (by simp),
        List.intercalate_cons_of_ne_nil (List.cons_ne_nil next front)]
      simp

/-- A path is absolute if its text goes on behind an empty first piece. -/
theorem isAbsolute_iff (path : Path) :
    path.isAbsolute = true ↔ ∃ second others, pieces path.text.toList = [] :: second :: others := by
  rw [isAbsolute]
  cases path.text.toList with
  | nil => simp [pieces]
  | cons c rest =>
    obtain ⟨first, others, same⟩ := List.exists_cons_of_ne_nil (pieces_ne_nil rest)
    by_cases slash : c = '/' <;> simp [pieces, same, slash]

/-! ## Components -/

/-- Some pieces, each with the component that it stands for, if any. -/
def labelled : List (List Char) → List (List Char × Option Component)
  | [] => []
  | first :: rest =>
    (first, firstComponent? first) :: rest.map fun piece => (piece, component? piece)

theorem labelled_append {front : List (List Char)} (nonempty : front ≠ [])
    (back : List (List Char)) :
    labelled (front ++ back) =
      labelled front ++ back.map fun piece => (piece, component? piece) := by
  obtain ⟨first, rest, rfl⟩ := List.exists_cons_of_ne_nil nonempty
  simp [labelled]

theorem map_fst_labelled (list : List (List Char)) : (labelled list).map (·.1) = list := by
  cases list <;> simp [labelled, Function.comp_def]

/-- The front of labelled pieces is labelled as it would be alone. -/
theorem labelled_of_prefix {list : List (List Char)}
    {front : List (List Char × Option Component)} (isFront : front <+: labelled list) :
    labelled (front.map (·.1)) = front := by
  obtain ⟨back, whole⟩ := isFront
  cases front with
  | nil => rfl
  | cons head front =>
    cases list with
    | nil => cases whole
    | cons first rest =>
      obtain ⟨rfl, tail⟩ := List.cons.inj whole
      obtain ⟨known, unknown, rfl, rfl, rfl⟩ := List.append_eq_map_iff.1 tail
      simp [labelled, Function.comp_def]

/-- The components of a path, but for the root. -/
def inner (path : Path) : List Component :=
  (labelled (pieces path.text.toList)).filterMap (·.2)

/-- The root of a path, if it has one. -/
def origin (path : Path) : List Component :=
  if path.isAbsolute then [.root] else []

/-- **The first piece is read by a rule of its own**, by which a dot counts. -/
theorem inner_eq {path : Path} {first : List Char} {rest : List (List Char)}
    (split : pieces path.text.toList = first :: rest) :
    path.inner = (firstComponent? first).toList ++ rest.filterMap component? := by
  rw [inner, split, labelled, List.filterMap_cons, List.filterMap_map]
  cases firstComponent? first <;> rfl

theorem inner_eq_filterMap {path : Path} {first : List Char} {rest : List (List Char)}
    (split : pieces path.text.toList = first :: rest) (noDot : first ≠ ['.']) :
    path.inner = (first :: rest).filterMap component? := by
  rw [inner_eq split, firstComponent?, if_neg noDot, List.filterMap_cons]
  cases component? first <;> rfl

theorem components_eq (path : Path) : path.components = path.origin ++ path.inner := by
  obtain ⟨first, rest, same⟩ := List.exists_cons_of_ne_nil (pieces_ne_nil path.text.toList)
  rw [components, origin, inner_eq same, same]
  split <;> rfl

/-- A name among the components of a path is one of its pieces. -/
theorem exists_piece_of_mem_components {path : Path} {name : String}
    (member : .name name ∈ path.components) :
    ∃ piece ∈ pieces path.text.toList, component? piece = some (.name name) := by
  obtain ⟨first, rest, same⟩ := List.exists_cons_of_ne_nil (pieces_ne_nil path.text.toList)
  have inside : .name name ∈ path.inner := by
    rw [components_eq, List.mem_append, origin] at member
    split at member <;> simpa using member
  rw [same]
  by_cases dot : first = ['.']
  · rw [inner_eq same, dot, List.mem_append] at inside
    obtain ⟨piece, isPiece, stands⟩ := List.mem_filterMap.1 (inside.resolve_left (by
      rw [firstComponent?, if_pos rfl]
      simp))
    exact ⟨piece, List.mem_cons_of_mem first isPiece, stands⟩
  · rw [inner_eq_filterMap same dot] at inside
    obtain ⟨piece, isPiece, stands⟩ := List.mem_filterMap.1 inside
    exact ⟨piece, isPiece, stands⟩

/-- A piece that stands for a name is that name, and it is a proper one. -/
theorem proper_of_component? {piece : List Char} {name : String}
    (stands : component? piece = some (.name name)) :
    piece = name.toList ∧ name ≠ "" ∧ name ≠ "." ∧ name ≠ ".." := by
  rw [component?] at stands
  split at stands
  · cases stands
  · next neither =>
    split at stands
    · cases stands
    · next notDots =>
      obtain rfl := Component.name.inj (Option.some.inj stands)
      rw [not_or] at neither
      exact ⟨String.toList_ofList.symm,
        fun empty => neither.1 (String.ofList_injective empty),
        fun dot => neither.2 (String.ofList_injective dot),
        fun dots => notDots (String.ofList_injective dots)⟩

/-- The names among the components of a path are proper names. -/
theorem proper_of_mem_components {path : Path} {name : String}
    (member : .name name ∈ path.components) : name ≠ "" ∧ name ≠ "." ∧ name ≠ ".." := by
  obtain ⟨piece, -, stands⟩ := exists_piece_of_mem_components member
  exact (proper_of_component? stands).2

/-- No name among the components of a path holds a slash. -/
theorem slash_notMem_of_mem_components {path : Path} {name : String}
    (member : .name name ∈ path.components) : '/' ∉ name.toList := by
  obtain ⟨piece, isPiece, stands⟩ := exists_piece_of_mem_components member
  rw [← (proper_of_component? stands).1]
  exact slash_notMem_of_mem_pieces piece isPiece

/-! ## The parent -/

/-- Labelled pieces that stand for something end in a last one that does. -/
theorem exists_last {list : List (List Char × Option Component)}
    (nonempty : list.filterMap (·.2) ≠ []) :
    ∃ front piece component, list.rdropWhile (·.2.isNone) = front ++ [(piece, some component)] ∧
      list.filterMap (·.2) = front.filterMap (·.2) ++ [component] := by
  induction list using List.reverseRecOn with
  | nil => exact absurd rfl nonempty
  | append_singleton list entry ih =>
    obtain ⟨piece, label⟩ := entry
    cases label with
    | none =>
      rw [List.filterMap_append, List.filterMap_cons_none rfl, List.filterMap_nil,
        List.append_nil] at nonempty ⊢
      rw [List.rdropWhile_concat_pos _ _ _ rfl]
      exact ih nonempty
    | some component =>
      exact ⟨list, piece, component, List.rdropWhile_concat_neg _ _ _ (by simp), by simp⟩

theorem rdropWhile_eq_nil_iff {list : List (List Char × Option Component)} :
    list.rdropWhile (·.2.isNone) = [] ↔ list.filterMap (·.2) = [] := by
  simp only [List.rdropWhile_eq_nil_iff, List.filterMap_eq_nil_iff, Option.isNone_iff_eq_none]

theorem filterMap_rdropWhile (list : List (List Char × Option Component)) :
    (list.rdropWhile (·.2.isNone)).filterMap (·.2) = list.filterMap (·.2) := by
  by_cases nothing : list.filterMap (·.2) = []
  · rw [rdropWhile_eq_nil_iff.2 nothing, nothing, List.filterMap_nil]
  · obtain ⟨front, piece, component, ends, whole⟩ := exists_last nothing
    rw [ends, whole, List.filterMap_append]
    rfl

/-- The pieces that the parent of a path is written with. -/
def kept (path : Path) : List (List Char × Option Component) :=
  ((labelled (pieces path.text.toList)).rdropWhile (·.2.isNone)).dropLast.rdropWhile (·.2.isNone)

theorem parent?_eq (path : Path) :
    path.parent? =
      if path.inner = [] then none
      else if path.kept = [] then some ⟨if path.isAbsolute then "/" else ""⟩
      else some ⟨String.ofList (['/'].intercalate (path.kept.map (·.1)))⟩ := by
  obtain ⟨first, rest, same⟩ := List.exists_cons_of_ne_nil (pieces_ne_nil path.text.toList)
  have marked : (first, (firstComponent? first).isSome) ::
        rest.map (fun piece => (piece, (component? piece).isSome)) =
      (labelled (pieces path.text.toList)).map fun entry => (entry.1, entry.2.isSome) := by
    simp [same, labelled]
  have dropped (list : List (List Char × Option Component)) :
      ((list.map fun entry => (entry.1, entry.2.isSome)).reverse.dropWhile fun entry => !entry.2) =
        ((list.rdropWhile (·.2.isNone)).map fun entry => (entry.1, entry.2.isSome)).reverse := by
    have same : (fun entry : List Char × Bool => !entry.2) ∘
          (fun entry : List Char × Option Component => (entry.1, entry.2.isSome)) =
        fun entry => entry.2.isNone := funext fun entry => Option.not_isSome entry.2
    rw [← List.map_reverse, List.dropWhile_map, same, List.rdropWhile, List.map_reverse,
      List.reverse_reverse]
  rw [parent?, same]
  dsimp only
  rw [marked, dropped, inner, kept]
  by_cases nothing : (labelled (pieces path.text.toList)).filterMap (·.2) = []
  · rw [rdropWhile_eq_nil_iff.2 nothing, if_pos nothing]
    rfl
  · obtain ⟨front, piece, component, ends, -⟩ := exists_last nothing
    rw [ends, if_neg nothing, List.dropLast_concat, List.map_append, List.reverse_append,
      List.map_singleton, List.reverse_singleton, List.singleton_append]
    dsimp only
    rw [dropped]
    split
    · next empty =>
      rw [List.reverse_eq_nil_iff, List.map_eq_nil_iff] at empty
      rw [if_pos empty]
    · next other =>
      rw [if_neg (by simpa using other), List.reverse_reverse, List.map_map]
      rfl

theorem kept_prefix (path : Path) : path.kept <+: labelled (pieces path.text.toList) :=
  (List.rdropWhile_prefix _ _).trans ((List.dropLast_prefix _).trans (List.rdropWhile_prefix _ _))

/-- The pieces kept lose the last component. -/
theorem filterMap_kept {path : Path} (some : path.inner ≠ []) :
    path.kept.filterMap (·.2) = path.inner.dropLast := by
  obtain ⟨front, piece, component, ends, whole⟩ := exists_last some
  rw [kept, filterMap_rdropWhile, ends, inner, whole, List.dropLast_concat, List.dropLast_concat]

theorem filterMap_kept_ne_nil {path : Path} (kept : path.kept ≠ []) :
    path.kept.filterMap (·.2) ≠ [] := by
  rw [Path.kept, filterMap_rdropWhile]
  exact mt rdropWhile_eq_nil_iff.2 kept

/-- The pieces kept are not all. -/
theorem exists_lost {path : Path} (some : path.inner ≠ []) :
    ∃ lost, lost ≠ [] ∧ path.kept.map (·.1) ++ lost = pieces path.text.toList := by
  obtain ⟨back, whole⟩ := path.kept_prefix
  refine ⟨back.map (·.1), ?_, ?_⟩
  · intro empty
    rw [List.map_eq_nil_iff] at empty
    rw [empty, List.append_nil] at whole
    have same : path.inner.dropLast = path.inner := by
      rw [← filterMap_kept some, whole, inner]
    have shorter := congrArg List.length same
    rw [List.length_dropLast] at shorter
    have long := List.length_pos_iff.2 some
    omega
  · rw [← List.map_append, whole, map_fst_labelled]

/-- The pieces kept begin as the path does. -/
theorem absolute_kept_iff {path : Path} (some : path.inner ≠ []) (kept : path.kept ≠ []) :
    (∃ second others, path.kept.map (·.1) = [] :: second :: others) ↔
      ∃ second others, pieces path.text.toList = [] :: second :: others := by
  obtain ⟨lost, -, whole⟩ := exists_lost some
  constructor
  · rintro ⟨second, others, begins⟩
    exact ⟨second, others ++ lost, by rw [← whole, begins]; rfl⟩
  · rintro ⟨second, others, begins⟩
    have isFront := path.kept_prefix
    rw [begins] at isFront
    obtain ⟨head, tail, isCons⟩ := List.exists_cons_of_ne_nil kept
    rw [isCons, labelled, List.cons_prefix_cons] at isFront
    obtain ⟨rfl, -⟩ := isFront
    have more : tail ≠ [] := by
      rintro rfl
      exact filterMap_kept_ne_nil kept (by rw [isCons]; rfl)
    obtain ⟨next, tail, rfl⟩ := List.exists_cons_of_ne_nil more
    exact ⟨next.1, tail.map (·.1), by rw [isCons]; rfl⟩

theorem inner_root : inner ⟨"/"⟩ = [] := by decide

theorem inner_empty : inner ⟨""⟩ = [] := by decide

theorem length_empty_lt {path : Path} (some : path.inner ≠ []) : "".length < path.text.length := by
  refine Nat.pos_of_ne_zero fun empty => some ?_
  obtain ⟨text⟩ := path
  rw [String.length_eq_zero_iff] at empty
  rw [show text = "" from empty, inner_empty]

theorem length_root_lt {path : Path} (absolute : path.isAbsolute = true) (some : path.inner ≠ []) :
    "/".length < path.text.length := by
  rw [isAbsolute, beq_iff_eq] at absolute
  obtain ⟨rest, text⟩ := List.head?_eq_some_iff.1 absolute
  rw [← String.length_toList, ← String.length_toList, text]
  cases rest with
  | nil => exact absurd (by rw [inner, text]; decide) some
  | cons c rest => simp

/-- **A parent loses the last component and nothing else**, and it is shorter. -/
theorem of_parent? {path above : Path} (found : path.parent? = some above) :
    above.inner = path.inner.dropLast ∧ above.isAbsolute = path.isAbsolute ∧
      above.text.length < path.text.length := by
  rw [parent?_eq] at found
  split at found
  · cases found
  · next something =>
    split at found
    · next nothingKept =>
      obtain rfl := Option.some.inj found
      have single : path.inner.dropLast = [] := by
        rw [← filterMap_kept something, nothingKept, List.filterMap_nil]
      rw [single]
      cases absolute : path.isAbsolute with
      | true => exact ⟨inner_root, rfl, length_root_lt absolute something⟩
      | false => exact ⟨inner_empty, rfl, length_empty_lt something⟩
    · next kept =>
      obtain rfl := Option.some.inj found
      obtain ⟨lost, more, whole⟩ := exists_lost something
      have names : path.kept.map (·.1) ≠ [] := by simpa using kept
      have read : pieces (['/'].intercalate (path.kept.map (·.1))) = path.kept.map (·.1) := by
        refine pieces_intercalate names fun piece member => ?_
        refine @slash_notMem_of_mem_pieces path.text.toList piece ?_
        rw [← whole]
        exact List.mem_append_left lost member
      refine ⟨?_, ?_, ?_⟩
      · rw [inner, String.toList_ofList, read, labelled_of_prefix path.kept_prefix,
          filterMap_kept something]
      · rw [Bool.eq_iff_iff, isAbsolute_iff, isAbsolute_iff, String.toList_ofList, read,
          absolute_kept_iff something kept]
      · have text := intercalate_pieces path.text.toList
        rw [← whole, intercalate_append names more] at text
        rw [← String.length_toList, ← String.length_toList, String.toList_ofList, ← text]
        simp

theorem parent?_eq_none_iff (path : Path) : path.parent? = none ↔ path.inner = [] := by
  rw [parent?_eq]
  split
  · next nothing => simp [nothing]
  · next something =>
    rw [iff_false_right something]
    split <;> simp

/-! ## Joining -/

/-- The components that a relative path adds to a directory. -/
def added (below : String) : List Component :=
  (pieces below.toList).filterMap component?

/-- Pieces put behind those of a path add the components that they stand for. -/
theorem inner_append {path longer : Path} {more : List (List Char)}
    (split : pieces longer.text.toList = pieces path.text.toList ++ more) :
    longer.inner = path.inner ++ more.filterMap component? := by
  rw [inner, split, labelled_append (pieces_ne_nil _), List.filterMap_append, List.filterMap_map]
  rfl

/-- A path joined to a directory goes on behind the pieces of the directory, or in the place
of an empty last one. -/
theorem join_eq {path : Path} {below : String} (placed : path.text ≠ "")
    (relative : (Path.mk below).isAbsolute = false) :
    ∃ slashed, (path.join below).text.toList = slashed ++ '/' :: below.toList ∧
      (path.text.toList = slashed ∨ path.text.toList = slashed ++ ['/']) := by
  rw [join, if_neg (by simp [relative])]
  split
  · next ends =>
    have slash : path.text.toList.getLast? = some '/' := by
      rcases ends with empty | slash
      · exact absurd (String.isEmpty_iff.1 empty) placed
      · exact slash
    obtain ⟨front, text⟩ := List.getLast?_eq_some_iff.1 slash
    refine ⟨front, ?_, .inr text⟩
    rw [String.toList_append, text, List.append_assoc]
    rfl
  · exact ⟨path.text.toList, by simp [String.toList_append], .inl rfl⟩

theorem inner_join {path : Path} {below : String} (placed : path.text ≠ "")
    (relative : (Path.mk below).isAbsolute = false) :
    (path.join below).inner = path.inner ++ added below := by
  obtain ⟨slashed, joined, text | text⟩ := join_eq placed relative
  · refine inner_append ?_
    rw [joined, text, pieces_slash]
  · have blank : path.inner = inner ⟨String.ofList slashed⟩ := by
      have split : pieces path.text.toList =
          pieces (Path.mk (String.ofList slashed)).text.toList ++ [[]] := by
        rw [text, pieces_slash, String.toList_ofList]
        rfl
      rw [inner_append split]
      exact List.append_nil _
    rw [blank]
    refine inner_append ?_
    rw [joined, pieces_slash, String.toList_ofList]

theorem isAbsolute_join {path : Path} {below : String} (placed : path.text ≠ "")
    (relative : (Path.mk below).isAbsolute = false) :
    (path.join below).isAbsolute = path.isAbsolute := by
  obtain ⟨slashed, joined, same⟩ := join_eq placed relative
  have nonempty : path.text.toList ≠ [] := by simpa using placed
  rw [isAbsolute, isAbsolute, joined]
  rcases same with same | same <;> cases slashed <;> simp_all

theorem join_empty {path : Path} {below : String} (empty : path.text = "") :
    path.join below = ⟨below⟩ := by
  simp [join, empty]

theorem components_join {path : Path} {below : String} (placed : path.text ≠ "")
    (relative : (Path.mk below).isAbsolute = false) :
    (path.join below).components = path.components ++ added below := by
  rw [components_eq, components_eq, origin, isAbsolute_join placed relative,
    inner_join placed relative, ← List.append_assoc]
  rfl

theorem component?_ne_current (piece : List Char) : component? piece ≠ some .current := by
  unfold component?
  split
  · simp
  · split <;> simp

/-- No later piece stands for a dot. -/
theorem filter_filterMap_component? (list : List (List Char)) :
    (list.filterMap component?).filter (· ≠ .current) = list.filterMap component? := by
  refine List.filter_eq_self.2 fun component member => ?_
  obtain ⟨piece, -, stands⟩ := List.mem_filterMap.1 member
  have other := component?_ne_current piece
  rw [stands] at other
  simpa using other

theorem filter_added (below : String) : (added below).filter (· ≠ .current) = added below :=
  filter_filterMap_component? _

/-- **A relative path has the components that it adds**, and maybe a dot in front. -/
theorem components_relative {path : Path} (relative : path.isAbsolute = false) :
    path.components = added path.text ∨ path.components = .current :: added path.text := by
  obtain ⟨first, rest, same⟩ := List.exists_cons_of_ne_nil (pieces_ne_nil path.text.toList)
  rw [added, components_eq, origin, if_neg (by simp [relative]), List.nil_append]
  by_cases dot : first = ['.']
  · rw [inner_eq same, same, dot]
    exact .inr rfl
  · rw [inner_eq_filterMap same dot, same]
    exact .inl rfl

theorem added_eq_filter {path : Path} (relative : path.isAbsolute = false) :
    added path.text = path.components.filter (· ≠ .current) := by
  rcases components_relative relative with same | same
  · rw [same, filter_added]
  · rw [same, List.filter_cons_of_neg (by simp), filter_added]

/-- A text that is a proper name of a file. -/
structure IsName (name : String) : Prop where
  nonempty : name ≠ ""
  onePiece : '/' ∉ name.toList
  notCurrent : name ≠ "."
  notParent : name ≠ ".."

namespace IsName

variable {name : String}

theorem relative (isName : IsName name) : (Path.mk name).isAbsolute = false := by
  rw [isAbsolute]
  have onePiece := isName.onePiece
  cases text : name.toList with
  | nil => rfl
  | cons c rest =>
    rw [text, List.mem_cons, not_or] at onePiece
    simpa using Ne.symm onePiece.1

theorem component? (isName : IsName name) : Path.component? name.toList = some (.name name) := by
  have nonempty : name.toList ≠ [] := by simpa using isName.nonempty
  have notCurrent : name.toList ≠ ['.'] :=
    fun same => isName.notCurrent (String.toList_injective same)
  have notParent : name.toList ≠ ['.', '.'] :=
    fun same => isName.notParent (String.toList_injective same)
  rw [Path.component?, if_neg (by simp [nonempty, notCurrent]), if_neg notParent,
    String.ofList_toList]

theorem added (isName : IsName name) : Path.added name = [.name name] := by
  rw [Path.added, pieces_of_notMem isName.onePiece, List.filterMap_cons, isName.component?]
  rfl

/-- A name that stands alone is a component. -/
theorem components_mk (isName : IsName name) : (Path.mk name).components = [.name name] := by
  have notCurrent : name.toList ≠ ['.'] :=
    fun same => isName.notCurrent (String.toList_injective same)
  have added := isName.added
  rw [Path.added, pieces_of_notMem isName.onePiece] at added
  rw [components_eq, origin, if_neg (by simp [isName.relative]), List.nil_append,
    inner_eq_filterMap (pieces_of_notMem isName.onePiece) notCurrent, added]

/-- **A name joined to a directory is one more component.** -/
theorem components_join (isName : IsName name) (directory : Path) :
    (directory.join name).components = directory.components ++ [.name name] := by
  by_cases placed : directory.text = ""
  · rw [join_empty placed, isName.components_mk, components_eq, origin, isAbsolute, inner, placed]
    rfl
  · rw [Path.components_join placed isName.relative, isName.added]

/-- A name joined to a directory is the last piece. -/
theorem pieces_join (isName : IsName name) (directory : Path) :
    ∃ front, pieces (directory.join name).text.toList = front ++ [name.toList] := by
  by_cases placed : directory.text = ""
  · exact ⟨[], by rw [join_empty placed, pieces_of_notMem isName.onePiece, List.nil_append]⟩
  · obtain ⟨slashed, joined, -⟩ := join_eq placed isName.relative
    exact ⟨pieces slashed, by rw [joined, pieces_slash, pieces_of_notMem isName.onePiece]⟩

theorem join_ne_empty (isName : IsName name) (directory : Path) :
    (directory.join name).text ≠ "" := by
  intro empty
  obtain ⟨front, split⟩ := isName.pieces_join directory
  have last := congrArg List.getLast? split
  rw [empty, List.getLast?_concat] at last
  exact isName.nonempty (String.toList_injective (Option.some.inj last).symm)

end IsName

end ExportAudit.Path
