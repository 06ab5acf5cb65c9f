import ExportAudit.Config.Search
import ExportAudit.Proofs.Path.Above
import Mathlib.Data.List.Infix

/-!
# Climbing in search of the configuration

A search climbs from its start: it looks at the start, then at the parent of each directory
as long as there is one.  The components of the directories are the front parts of those of
the start, so **a climb from an absolute path passes each directory on the way to the root
once, and ends at the root.**

What the search finds is the file of the nearest directory that holds it, unless a
repository lies in a directory before that one.  A repository in the same directory is no
obstacle: there the file is looked for first.
-/

namespace ExportAudit.Config

set_option autoImplicit false

/-! ## The climb -/

/-- The directories of a climb: a path, its parent, and so on up to a path without one. -/
inductive Climb : Path → List Path → Prop where
  | top {path : Path} (noParent : path.parent? = none) : Climb path [path]
  | up {path above : Path} {further : List Path} (parent : path.parent? = some above)
      (climb : Climb above further) : Climb path (path :: further)

/-- **A search passes the directories of a climb**: the length of the start is enough to
reach its end, since every parent is shorter. -/
theorem climb_upward {fuel : Nat} {start : Path} (enough : start.text.length ≤ fuel) :
    Climb start (upward fuel start) := by
  induction fuel generalizing start with
  | zero =>
    refine .top (Option.eq_none_iff_forall_ne_some.2 fun above parent => ?_)
    have shorter := (Path.of_parent? parent).2.2
    omega
  | succ fuel ih =>
    rw [upward]
    split
    · next above parent =>
      have shorter := (Path.of_parent? parent).2.2
      exact .up parent (ih (by omega))
    · next noParent => exact .top noParent

/-- The front parts of a list are those of the list without its last entry, and the list. -/
theorem inits_of_ne_nil {list : List Component} (some : list ≠ []) :
    list.inits = list.dropLast.inits ++ [list] := by
  have split := List.inits_append list.dropLast [list.getLast some]
  rw [List.dropLast_concat_getLast] at split
  rw [split]
  simp [List.dropLast_concat_getLast]

/-- **The components of the directories are the front parts of those of the start**, the
longest first. -/
theorem Climb.map_components {start : Path} {directories : List Path}
    (climb : Climb start directories) :
    directories.map Path.components = (start.inner.inits.map (start.origin ++ ·)).reverse := by
  induction climb with
  | @top path noParent =>
    have none := (Path.parent?_eq_none_iff path).1 noParent
    rw [none, List.map_singleton, Path.components_eq, none]
    rfl
  | @up path above further parent climb ih =>
    obtain ⟨inside, absolute, -⟩ := Path.of_parent? parent
    have some : path.inner ≠ [] := by
      rw [ne_eq, ← Path.parent?_eq_none_iff, parent]
      exact Option.some_ne_none above
    rw [List.map_cons, ih, inside, inits_of_ne_nil some, List.map_append, List.reverse_append,
      Path.components_eq, Path.origin, Path.origin, absolute]
    rfl

/-- From an absolute path they are all of them but the empty one. -/
theorem Climb.map_components_absolute {start : Path} {directories : List Path}
    (climb : Climb start directories) (absolute : start.isAbsolute = true) :
    directories.map Path.components = start.components.inits.tail.reverse := by
  rw [climb.map_components, Path.components_eq, Path.origin, if_pos absolute,
    List.singleton_append, List.inits_cons]
  rfl

/-! ## The nearest directory -/

/-- A directory is the nearest among some that holds the file, and no directory before it
holds a repository. -/
structure IsNearest (present : Presence) (directories : List Path) (directory : Path) : Prop where
  holds : present (directory.join fileName) = true
  reached : ∃ nearer farther, directories = nearer ++ directory :: farther ∧
    ∀ passed ∈ nearer, present (passed.join fileName) = false ∧
      present (passed.join repositoryMark) = false

variable {present : Presence}

theorem isNearest_cons_iff {first directory : Path} {above : List Path} :
    IsNearest present (first :: above) directory ↔
      (directory = first ∧ present (first.join fileName) = true) ∨
        (present (first.join fileName) = false ∧ present (first.join repositoryMark) = false ∧
          IsNearest present above directory) := by
  constructor
  · rintro ⟨holds, nearer, farther, whole, passed⟩
    cases nearer with
    | nil =>
      obtain ⟨rfl, -⟩ := List.cons.inj whole
      exact .inl ⟨rfl, holds⟩
    | cons head nearer =>
      obtain ⟨rfl, rest⟩ := List.cons.inj whole
      rw [List.forall_mem_cons] at passed
      exact .inr ⟨passed.1.1, passed.1.2, holds, nearer, farther, rest, passed.2⟩
  · rintro (⟨rfl, holds⟩ | ⟨noFile, noMark, holds, nearer, farther, rfl, passed⟩)
    · exact ⟨holds, [], above, rfl, fun _ member => absurd member List.not_mem_nil⟩
    · exact ⟨holds, first :: nearer, farther, rfl,
        List.forall_mem_cons.2 ⟨⟨noFile, noMark⟩, passed⟩⟩

/-- **What a search finds is the file of the nearest directory.** -/
theorem findIn_eq_some_iff {directories : List Path} {file : Path} :
    findIn present directories = some file ↔
      ∃ directory, IsNearest present directories directory ∧ file = directory.join fileName := by
  induction directories with
  | nil =>
    constructor
    · intro found
      cases found
    · rintro ⟨directory, ⟨-, nearer, farther, whole, -⟩, -⟩
      simp at whole
  | cons first above ih =>
    simp only [isNearest_cons_iff, findIn]
    cases present (first.join fileName) with
    | true => simp [@eq_comm _ file]
    | false =>
      cases present (first.join repositoryMark) with
      | true => simp
      | false => simpa using ih

/-- **From an absolute path a search climbs to the root, and finds the file of the nearest
directory on the way, or none if there is no such directory.** -/
theorem find?_nearest (present : Presence) (start : Path) (absolute : start.isAbsolute = true) :
    ∃ directories, Climb start directories ∧
      directories.map Path.components = start.components.inits.tail.reverse ∧
      (∀ file, find? present start = some file ↔
        ∃ directory, IsNearest present directories directory ∧ file = directory.join fileName) ∧
      (find? present start = none ↔ ∀ directory, ¬ IsNearest present directories directory) := by
  have climb := climb_upward (Nat.le_refl start.text.length)
  refine ⟨_, climb, climb.map_components_absolute absolute, fun file => findIn_eq_some_iff, ?_⟩
  rw [find?, Option.eq_none_iff_forall_ne_some]
  simp only [ne_eq, findIn_eq_some_iff]
  constructor
  · intro nothing directory nearest
    exact nothing _ ⟨directory, nearest, rfl⟩
  · rintro nowhere file ⟨directory, nearest, -⟩
    exact nowhere directory nearest

/-- A directory with the file and a repository in it, below a root with the file. -/
def besideRepository : Presence := fun path =>
  ["/.modcovrc.json", "/a/.modcovrc.json", "/a/.git"].contains path.text

theorem find?_nearest_besideRepository :
    (Path.mk "/a//b/./").isAbsolute = true ∧
      find? besideRepository ⟨"/a//b/./"⟩ = some ⟨"/a/.modcovrc.json"⟩ ∧
      ∃ directories, Climb ⟨"/a//b/./"⟩ directories ∧
        directories.map Path.components =
          [[.root, .name "a", .name "b"], [.root, .name "a"], [.root]] ∧
        ∃ directory, IsNearest besideRepository directories directory ∧
          ⟨"/a/.modcovrc.json"⟩ = directory.join fileName := by
  have absolute : (Path.mk "/a//b/./").isAbsolute = true := by decide
  have found : find? besideRepository ⟨"/a//b/./"⟩ = some ⟨"/a/.modcovrc.json"⟩ := by
    decide
  obtain ⟨directories, climb, components, finds, -⟩ :=
    find?_nearest besideRepository ⟨"/a//b/./"⟩ absolute
  refine ⟨absolute, found, directories, climb, ?_, (finds _).1 found⟩
  rw [components]
  decide

end ExportAudit.Config
