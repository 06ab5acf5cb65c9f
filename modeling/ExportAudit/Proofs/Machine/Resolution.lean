import ExportAudit.Machine.FileTree
import ExportAudit.Proofs.Path.Above

/-!
# What a path leads to

A resolution goes through the pieces of a path one by one.  An empty piece and a single dot
leave it where it is, so they matter only at the end of a path, where they ask for a
directory.  A path that ends in a name therefore leads where its components lead, **however
it is spelled**, and a relative path leads where it does behind the working directory, as
long as that is made of directories and not of links.

The number of steps is bounded, and the bound grows by one with each piece.  A piece that is
left out takes its step with it.
-/

namespace ExportAudit.FileTree

set_option autoImplicit false

/-! ## One piece -/

/-- A piece that leaves a resolution where it is. -/
abbrev Idle (piece : String) : Prop :=
  piece = "" ∨ piece = "."

variable (tree : FileTree)

/-- Where a piece leads, and the pieces that a link puts in its place. -/
def stepFrom (current : Address) (piece : String) : Option (Address × List String) :=
  match tree.lookup current with
  | some .directory =>
    if Idle piece then some (current, [])
    else if piece = ".." then some (current.dropLast, [])
    else
      match tree.lookup (current ++ [piece]) with
      | none => none
      | some (.link target) =>
        some (if (Path.mk target).isAbsolute then [] else current, piecesOf target)
      | some _ => some (current ++ [piece], [])
  | _ => none

variable {tree} {current address : Address} {piece : String} {rest : List String} {fuel : Nat}

/-- **A resolution that succeeds goes through its pieces step by step.** -/
theorem follow_cons_iff :
    tree.follow (fuel + 1) current (piece :: rest) = .ok address ↔
      ∃ next front, tree.stepFrom current piece = some (next, front) ∧
        tree.follow fuel next (front ++ rest) = .ok address := by
  rw [follow, stepFrom]
  cases tree.lookup current with
  | none => simp
  | some entry =>
    cases entry with
    | directory =>
      dsimp only
      split
      · simp
      · split
        · simp
        · cases tree.lookup (current ++ [piece]) with
          | none => simp
          | some below => cases below <;> simp
    | file content executable => simp
    | link target => simp

theorem stepFrom_idle (idle : Idle piece) {next : Address} {front : List String}
    (stepped : tree.stepFrom current piece = some (next, front)) : next = current ∧ front = [] := by
  unfold stepFrom at stepped
  split at stepped
  · rw [if_pos idle] at stepped
    simpa [eq_comm] using stepped
  · cases stepped

/-- Where no idle piece is passed, nothing is. -/
theorem stepFrom_of_idle {other : String} (idle : Idle piece) {next : Address} {front : List String}
    (stepped : tree.stepFrom current other = some (next, front)) :
    tree.stepFrom current piece = some (current, []) := by
  unfold stepFrom at stepped ⊢
  split at stepped
  · rw [if_pos idle]
  · cases stepped

/-- A resolution that succeeds has more steps than pieces. -/
theorem length_lt_of_follow {pieces : List String}
    (reached : tree.follow fuel current pieces = .ok address) : pieces.length < fuel := by
  induction fuel generalizing current pieces with
  | zero => cases reached
  | succ fuel ih =>
    cases pieces with
    | nil => exact Nat.succ_pos fuel
    | cons piece rest =>
      obtain ⟨next, front, -, further⟩ := follow_cons_iff.1 reached
      have shorter := ih further
      rw [List.length_append] at shorter
      rw [List.length_cons]
      omega

/-! ## Idle pieces -/

/-- The second list has the pieces of the first but for idle ones that others follow. -/
inductive SameRoute : List String → List String → Prop where
  | nil : SameRoute [] []
  | both (piece : String) {full short : List String} (rest : SameRoute full short) :
      SameRoute (piece :: full) (piece :: short)
  | idle {piece : String} {full short : List String} (idle : Idle piece) (more : short ≠ [])
      (rest : SameRoute full short) : SameRoute (piece :: full) short

namespace SameRoute

variable {full short : List String}

theorem length_le (route : SameRoute full short) : short.length ≤ full.length := by
  induction route with
  | nil => exact Nat.le_refl _
  | both piece rest ih => exact Nat.succ_le_succ ih
  | idle idle more rest ih => exact Nat.le_succ_of_le ih

theorem behind (route : SameRoute full short) (front : List String) :
    SameRoute (front ++ full) (front ++ short) := by
  induction front with
  | nil => exact route
  | cons piece front ih => exact .both piece ih

/-- The idle pieces before a proper last one can be left out. -/
theorem filter (front : List String) (last : String) (proper : ¬ Idle last) :
    SameRoute (front ++ [last]) ((front ++ [last]).filter (¬ Idle ·)) := by
  induction front with
  | nil =>
    rw [List.nil_append, List.filter_cons_of_pos (by simpa using proper)]
    exact .both last .nil
  | cons piece front ih =>
    rw [List.cons_append, List.filter_cons]
    split
    · exact .both piece ih
    · next idle =>
      refine .idle (by simpa [or_iff_not_imp_left] using idle) ?_ ih
      rw [List.filter_append, List.filter_cons_of_pos (by simpa using proper)]
      simp

/-- **Pieces along one route lead to one address**, if the steps left out are the pieces left
out. -/
theorem follow_iff (route : SameRoute full short) {fuel' : Nat}
    (balance : fuel + short.length = fuel' + full.length) :
    tree.follow fuel current full = .ok address ↔
      tree.follow fuel' current short = .ok address := by
  have shorter := route.length_le
  induction fuel generalizing current full short fuel' with
  | zero =>
    have none : fuel' = 0 := by omega
    rw [none]
    exact iff_of_false nofun nofun
  | succ fuel ih =>
    cases route with
    | nil =>
      have same : fuel' = fuel + 1 := by simpa [eq_comm] using balance
      rw [same]
    | @both piece full short rest =>
      simp only [List.length_cons] at balance
      cases fuel' with
      | zero =>
        refine iff_of_false (fun reached => ?_) nofun
        have enough := length_lt_of_follow reached
        rw [List.length_cons] at enough
        omega
      | succ fuel' =>
        rw [follow_cons_iff, follow_cons_iff]
        refine exists_congr fun next => exists_congr fun front => and_congr_right fun _ => ?_
        have route := rest.behind front
        refine ih route ?_ route.length_le
        simp only [List.length_append]
        omega
    | @idle piece full short idle more rest =>
      rw [List.length_cons] at balance
      have further : tree.follow fuel current full = .ok address ↔
          tree.follow fuel' current short = .ok address := ih rest (by omega) rest.length_le
      rw [follow_cons_iff]
      constructor
      · rintro ⟨next, front, stepped, reached⟩
        obtain ⟨rfl, rfl⟩ := stepFrom_idle idle stepped
        exact further.1 reached
      · intro reached
        obtain ⟨other, others, rfl⟩ := List.exists_cons_of_ne_nil more
        cases fuel' with
        | zero => cases reached
        | succ fuel' =>
          obtain ⟨next, front, stepped, -⟩ := follow_cons_iff.1 reached
          exact ⟨current, [], stepFrom_of_idle idle stepped, further.2 reached⟩

end SameRoute

/-! ## Paths that end in a name -/

/-- The piece that a component is written with, if it leads anywhere. -/
def stepOf? : Component → Option String
  | .root | .current => none
  | .parent => some ".."
  | .name name => some name

/-- The pieces that some components are written with. -/
def stepsOf (components : List Component) : List String :=
  components.filterMap stepOf?

theorem stepsOf_append (first second : List Component) :
    stepsOf (first ++ second) = stepsOf first ++ stepsOf second :=
  List.filterMap_append

theorem bind_stepOf?_component? (piece : List Char) :
    (Path.component? piece).bind stepOf? =
      if Idle (String.ofList piece) then none else some (String.ofList piece) := by
  have empty : String.ofList piece = "" ↔ piece = [] := String.ofList_eq_empty_iff
  have dot : String.ofList piece = "." ↔ piece = ['.'] :=
    ⟨fun same => String.ofList_injective same, fun same => by rw [same]⟩
  simp only [Path.component?, Idle, empty, dot]
  split
  · rfl
  · split
    · next dots => rw [dots]; rfl
    · rfl

theorem stepsOf_filterMap_component? (list : List (List Char)) :
    stepsOf (list.filterMap Path.component?) = (list.map String.ofList).filter (¬ Idle ·) := by
  induction list with
  | nil => rfl
  | cons piece list ih =>
    have step := bind_stepOf?_component? piece
    rw [List.map_cons, List.filter_cons, ← ih, stepsOf, List.filterMap_filterMap,
      List.filterMap_cons, step, ← List.filterMap_filterMap]
    by_cases idle : Idle (String.ofList piece) <;> simp [idle, stepsOf]

/-- **The components of a path are its pieces but for the idle ones.** -/
theorem stepsOf_components (path : Path) :
    stepsOf path.components = (piecesOf path.text).filter (¬ Idle ·) := by
  obtain ⟨first, rest, same⟩ :=
    List.exists_cons_of_ne_nil (Path.pieces_ne_nil path.text.toList)
  have noOrigin : stepsOf path.origin = [] := by
    rw [Path.origin]
    split <;> rfl
  rw [Path.components_eq, stepsOf_append, noOrigin, List.nil_append, piecesOf, same]
  by_cases dot : first = ['.']
  · rw [Path.inner_eq same, dot, stepsOf_append, stepsOf_filterMap_component?, List.map_cons,
      List.filter_cons_of_neg (by simp)]
    rfl
  · rw [Path.inner_eq_filterMap same dot, stepsOf_filterMap_component?]

theorem stepBound_append (front steps : List String) :
    tree.stepBound (front ++ steps) = front.length + tree.stepBound steps := by
  simp only [stepBound, List.length_append]
  omega

variable (tree) in
/-- Where a path starts from. -/
def startOf (path : Path) : Address :=
  if path.isAbsolute then [] else tree.workingDirectory

/-- **A path that ends in a name leads where its components do.** -/
theorem resolve_join_iff {name : String} (isName : Path.IsName name) (directory : Path) :
    tree.resolve (directory.join name) = .ok address ↔
      tree.follow (tree.stepBound (stepsOf (directory.join name).components))
        (tree.startOf (directory.join name)) (stepsOf (directory.join name).components) =
          .ok address := by
  obtain ⟨front, split⟩ := isName.pieces_join directory
  have pieces : piecesOf (directory.join name).text = front.map String.ofList ++ [name] := by
    rw [piecesOf, split, List.map_append, List.map_singleton, String.ofList_toList]
  have route := SameRoute.filter (front.map String.ofList) name
    (by simp [isName.nonempty, isName.notCurrent])
  rw [← pieces, ← stepsOf_components] at route
  rw [resolve, if_neg (by simpa using isName.join_ne_empty directory)]
  refine route.follow_iff ?_
  simp only [stepBound]
  omega

/-- Something stands at a path that leads to an address with an entry. -/
theorem present_iff (path : Path) :
    tree.files.present path = true ↔
      ∃ address, tree.resolve path = .ok address ∧ (tree.lookup address).isSome = true := by
  have asked : tree.files.present path = (tree.entryAt? path).isOk := rfl
  rw [asked, entryAt?]
  cases tree.resolve path with
  | error error =>
    exact iff_of_false (by simp [Bind.bind, Except.bind, Except.isOk, Except.toBool]) (by simp)
  | ok address =>
    cases found : tree.lookup address <;>
      simp [Bind.bind, Except.bind, Except.isOk, Except.toBool, found]

/-! ## The working directory -/

variable (tree) in
/-- An absolute path names the working directory, and the way there passes directories
only. -/
structure WorksIn (cwd : Path) : Prop where
  absolute : cwd.isAbsolute = true
  components : cwd.components = .root :: tree.workingDirectory.map .name
  stands : ∀ front, front <+: tree.workingDirectory → tree.lookup front = some .directory

/-- **A resolution passes directories by their names.** -/
theorem follow_directories {above names : Address} (steps : List String)
    (stands : ∀ front, front <+: names → tree.lookup (above ++ front) = some .directory)
    (proper : ∀ name ∈ names, ¬ Idle name ∧ name ≠ "..") :
    tree.follow (names.length + fuel) above (names ++ steps) =
      tree.follow fuel (above ++ names) steps := by
  induction names generalizing above with
  | nil => rw [List.length_nil, Nat.zero_add, List.nil_append, List.append_nil]
  | cons name names ih =>
    rw [List.forall_mem_cons] at proper
    have here : tree.lookup above = some .directory := by
      simpa using stands [] List.nil_prefix
    have below : tree.lookup (above ++ [name]) = some .directory :=
      stands [name] (by simp)
    have further : ∀ front, front <+: names →
        tree.lookup (above ++ [name] ++ front) = some .directory := by
      intro front isFront
      rw [List.append_assoc]
      exact stands (name :: front) (List.cons_prefix_cons.2 ⟨rfl, isFront⟩)
    have passed := ih further proper.2
    rw [List.append_assoc, List.singleton_append] at passed
    rw [List.length_cons, Nat.add_right_comm, List.cons_append, follow, here]
    dsimp only
    rw [if_neg proper.1.1, if_neg proper.1.2, below]
    exact passed

/-- Where a path leads from a working directory: its components behind those of the working
directory. -/
def place (cwd path : Path) : List Component :=
  (cwd.join path.text).components

variable (tree) in
/-- Something stands where some components lead from the root. -/
def standsAt (components : List Component) : Bool :=
  match tree.follow (tree.stepBound (stepsOf components)) [] (stepsOf components) with
  | .ok address => (tree.lookup address).isSome
  | .error _ => false

theorem standsAt_iff (components : List Component) :
    tree.standsAt components = true ↔ ∃ address,
      tree.follow (tree.stepBound (stepsOf components)) [] (stepsOf components) = .ok address ∧
        (tree.lookup address).isSome = true := by
  rw [standsAt]
  split
  · next address reached => simp [reached]
  · next reached => simp [reached]

section Working

variable {cwd : Path} {name : String}

theorem place_absolute {path : Path} (absolute : path.isAbsolute = true) :
    place cwd path = path.components := by
  rw [place, Path.join, if_pos absolute]

theorem WorksIn.placed (works : tree.WorksIn cwd) : cwd.text ≠ "" := by
  intro empty
  have absolute := works.absolute
  rw [Path.isAbsolute, empty] at absolute
  cases absolute

theorem WorksIn.place_relative (works : tree.WorksIn cwd) {path : Path}
    (relative : path.isAbsolute = false) :
    place cwd path = cwd.components ++ path.components.filter (· ≠ .current) := by
  rw [place, Path.components_join works.placed relative, Path.added_eq_filter relative]

theorem isAbsolute_join_name (isName : Path.IsName name) (directory : Path) :
    (directory.join name).isAbsolute = directory.isAbsolute := by
  by_cases placed : directory.text = ""
  · rw [Path.join_empty placed, isName.relative, Path.isAbsolute, placed]
    rfl
  · exact Path.isAbsolute_join placed isName.relative

/-- A name joined to a directory leads one component further. -/
theorem WorksIn.place_join (works : tree.WorksIn cwd) (isName : Path.IsName name)
    (directory : Path) : place cwd (directory.join name) = place cwd directory ++ [.name name] := by
  have joined := isAbsolute_join_name isName directory
  cases absolute : directory.isAbsolute with
  | true =>
    rw [absolute] at joined
    rw [place_absolute joined, place_absolute absolute, isName.components_join]
  | false =>
    rw [absolute] at joined
    rw [works.place_relative joined, works.place_relative absolute, isName.components_join,
      List.filter_append, List.append_assoc]
    rfl

theorem stepsOf_filter (components : List Component) :
    stepsOf (components.filter (· ≠ .current)) = stepsOf components := by
  rw [stepsOf, List.filterMap_filter, stepsOf]
  refine List.filterMap_congr fun component _ => ?_
  cases component <;> rfl

theorem WorksIn.stepsOf_components (works : tree.WorksIn cwd) :
    stepsOf cwd.components = tree.workingDirectory := by
  rw [works.components, stepsOf, List.filterMap_cons_none rfl, List.filterMap_map]
  exact List.filterMap_some

/-- The working directory is named by proper names. -/
theorem WorksIn.proper (works : tree.WorksIn cwd) :
    ∀ name ∈ tree.workingDirectory, ¬ Idle name ∧ name ≠ ".." := by
  intro name member
  have component : .name name ∈ cwd.components := by
    rw [works.components]
    exact List.mem_cons_of_mem _ (List.mem_map_of_mem member)
  obtain ⟨nonempty, notDot, notDots⟩ := Path.proper_of_mem_components component
  exact ⟨by simp [nonempty, notDot], notDots⟩

/-- **Whether a name stands in a directory depends on where the directory lies**, not on how
it is spelled. -/
theorem WorksIn.present_join (works : tree.WorksIn cwd) (isName : Path.IsName name)
    (directory : Path) :
    tree.files.present (directory.join name) =
      tree.standsAt (place cwd directory ++ [.name name]) := by
  rw [Bool.eq_iff_iff, present_iff, standsAt_iff, ← works.place_join isName]
  refine exists_congr fun address => and_congr_left fun _ => ?_
  rw [resolve_join_iff isName]
  cases absolute : (directory.join name).isAbsolute with
  | true => rw [startOf, if_pos absolute, place_absolute absolute]
  | false =>
    rw [startOf, if_neg (by simp [absolute]), works.place_relative absolute, stepsOf_append,
      works.stepsOf_components, stepsOf_filter, stepBound_append, follow_directories _
        (by simpa using works.stands) works.proper, List.nil_append]

end Working

end ExportAudit.FileTree
