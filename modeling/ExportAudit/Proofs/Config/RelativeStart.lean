import ExportAudit.Proofs.Config.Ascent
import ExportAudit.Proofs.Machine.Resolution

/-!
# Searches from a relative start

A climb follows the text of its start.  From a relative path it ends at the empty path, which
stands for the working directory, and it passes the same places as the climb from that path
behind the working directory, but for those above the working directory.

So the two searches find the same file if it lies in the working directory or below.  **A
file above the working directory is found from the absolute spelling alone**, whatever
repositories there are.
-/

namespace ExportAudit.Config

set_option autoImplicit false

open ExportAudit.FileTree

/-! ## Searching among places -/

/-- What is decided at a place: the file stands there, or else a repository does, or
nothing is decided. -/
def verdictAt (stands : List Component → Bool) (place : List Component) :
    Option (Option (List Component)) :=
  if stands (place ++ [.name fileName]) then some (some (place ++ [.name fileName]))
  else if stands (place ++ [.name repositoryMark]) then some none
  else none

/-- The file that is found among some places. -/
def searchPlaces (stands : List Component → Bool) (places : List (List Component)) :
    Option (List Component) :=
  (places.findSome? (verdictAt stands)).join

/-- A file lies in a directory or below it. -/
def liesBelow (bottom file : List Component) : Bool :=
  bottom.isPrefixOf file.dropLast

theorem isName_fileName : Path.IsName fileName :=
  ⟨by decide, by decide, by decide, by decide⟩

theorem isName_repositoryMark : Path.IsName repositoryMark :=
  ⟨by decide, by decide, by decide, by decide⟩

variable {tree : FileTree} {cwd : Path}

/-- **What a search finds depends on the places of its directories**, not on how they are
spelled. -/
theorem map_place_findIn (works : tree.WorksIn cwd) (directories : List Path) :
    (findIn tree.files.present directories).map (place cwd) =
      searchPlaces tree.standsAt (directories.map (place cwd)) := by
  induction directories with
  | nil => rfl
  | cons directory above ih =>
    have file := works.present_join isName_fileName directory
    have mark := works.present_join isName_repositoryMark directory
    have found := works.place_join isName_fileName directory
    rw [searchPlaces] at ih ⊢
    rw [findIn, file, mark, List.map_cons, List.findSome?_cons, verdictAt]
    split
    · rw [Option.map_some, found]
      rfl
    · split
      · rfl
      · exact ih

/-- A place that is searched twice decides no more than once. -/
theorem searchPlaces_again (stands : List Component → Bool) (front : List (List Component))
    {place : List Component} (member : place ∈ front) :
    searchPlaces stands (front ++ [place]) = searchPlaces stands front := by
  rw [searchPlaces, searchPlaces, List.findSome?_append]
  cases decided : front.findSome? (verdictAt stands) with
  | some verdict => rfl
  | none =>
    rw [List.findSome?_singleton, List.findSome?_eq_none_iff.1 decided place member]
    rfl

/-- A file that is found lies at one of the places. -/
theorem exists_place_of_findSome? {stands : List Component → Bool} {places : List (List Component)}
    {file : List Component} (found : places.findSome? (verdictAt stands) = some (some file)) :
    ∃ place ∈ places, file = place ++ [.name fileName] := by
  obtain ⟨place, member, decided⟩ := List.exists_of_findSome?_eq_some found
  refine ⟨place, member, ?_⟩
  rw [verdictAt] at decided
  split at decided
  · simpa [eq_comm] using decided
  · split at decided <;> simp at decided

/-- **Of a search that goes on above a directory, the file is kept exactly if it lies in the
directory or below it.** -/
theorem filter_searchPlaces (stands : List Component → Bool)
    {front above : List (List Component)} {bottom : List Component}
    (inside : ∀ place ∈ front, bottom <+: place) (outside : ∀ place ∈ above, ¬ bottom <+: place) :
    (searchPlaces stands (front ++ above)).filter (liesBelow bottom) =
      searchPlaces stands front := by
  rw [searchPlaces, searchPlaces, List.findSome?_append]
  cases decided : front.findSome? (verdictAt stands) with
  | some file =>
    cases file with
    | none => rfl
    | some file =>
      obtain ⟨place, member, rfl⟩ := exists_place_of_findSome? decided
      simp [liesBelow, inside place member]
  | none =>
    rw [Option.none_or]
    cases decided' : above.findSome? (verdictAt stands) with
    | none => rfl
    | some file =>
      cases file with
      | none => rfl
      | some file =>
        obtain ⟨place, member, rfl⟩ := exists_place_of_findSome? decided'
        simp [liesBelow, outside place member]

/-! ## The places of a climb -/

/-- Every directory of a climb is absolute if the start is. -/
theorem Climb.isAbsolute_of_mem {start : Path} {directories : List Path}
    (climb : Climb start directories) :
    ∀ directory ∈ directories, directory.isAbsolute = start.isAbsolute := by
  induction climb with
  | top noParent => simp
  | up parent climb ih =>
    rw [List.forall_mem_cons]
    refine ⟨rfl, fun directory member => ?_⟩
    rw [ih directory member, (Path.of_parent? parent).2.1]

/-- The places from a relative path up to the working directory. -/
def placesBelow (cwd start : Path) : List (List Component) :=
  ((Path.added start.text).inits.map (cwd.components ++ ·)).reverse

/-- The places above the working directory. -/
def placesAbove (cwd : Path) : List (List Component) :=
  cwd.components.dropLast.inits.tail.reverse

/-- Front parts of what a path adds hold no dot. -/
theorem map_inits_added (cwd start : Path) :
    (Path.added start.text).inits.map (fun front => cwd.components ++ front.filter (· ≠ .current)) =
      (Path.added start.text).inits.map (cwd.components ++ ·) := by
  refine List.map_congr_left fun front isFront => ?_
  rw [List.mem_inits] at isFront
  have noDot := List.filter_eq_self.1 (Path.filter_added start.text)
  rw [List.filter_eq_self.2 fun component member => noDot component (isFront.subset member)]

/-- **From a relative start a climb ends at the working directory**, which it passes twice if
the start begins with a dot. -/
theorem places_relative (works : tree.WorksIn cwd) {start : Path} {directories : List Path}
    (climb : Climb start directories) (relative : start.isAbsolute = false) :
    directories.map (place cwd) = placesBelow cwd start ∨
      directories.map (place cwd) = placesBelow cwd start ++ [cwd.components] := by
  have inside : start.inner.inits.map (start.origin ++ ·) = start.components.inits := by
    rw [Path.components_eq, Path.origin, if_neg (by simp [relative])]
    exact List.map_id _
  have places : directories.map (place cwd) = (start.components.inits.map
      fun front => cwd.components ++ front.filter (· ≠ .current)).reverse := by
    rw [List.map_reverse.symm, ← inside, ← climb.map_components, List.map_map]
    refine List.map_congr_left fun directory member => ?_
    exact works.place_relative ((climb.isAbsolute_of_mem directory member).trans relative)
  rw [places]
  rcases Path.components_relative relative with same | same
  · rw [same, map_inits_added]
    exact .inl rfl
  · rw [same, List.inits_cons, List.map_cons, List.map_map, List.reverse_cons]
    refine .inr ?_
    have later : (fun front : List Component => cwd.components ++ front.filter (· ≠ .current)) ∘
          (Component.current :: ·) =
        fun front => cwd.components ++ front.filter (· ≠ .current) := by
      funext front
      simp
    rw [later, map_inits_added]
    simp [placesBelow]

/-- **From the absolute spelling it goes on to the root.** -/
theorem places_absolute (works : tree.WorksIn cwd) {start : Path} {directories : List Path}
    (climb : Climb (cwd.join start.text) directories) (relative : start.isAbsolute = false) :
    directories.map (place cwd) = placesBelow cwd start ++ placesAbove cwd := by
  have absolute : (cwd.join start.text).isAbsolute = true := by
    rw [Path.isAbsolute_join works.placed relative, works.absolute]
  have places : directories.map (place cwd) = directories.map Path.components := by
    refine List.map_congr_left fun directory member => ?_
    exact place_absolute ((climb.isAbsolute_of_mem directory member).trans absolute)
  have further : cwd.components ≠ [] := by
    rw [works.components]
    exact List.cons_ne_nil _ _
  have fronts : (cwd.components ++ Path.added start.text).inits =
      cwd.components.dropLast.inits ++
        (Path.added start.text).inits.map (cwd.components ++ ·) := by
    rw [List.inits_append, inits_of_ne_nil further]
    cases Path.added start.text <;> simp
  rw [places, climb.map_components_absolute absolute, Path.components_join works.placed relative,
    fronts,
    List.tail_append_of_ne_nil (List.ne_nil_of_mem ((List.mem_inits _ _).2 List.nil_prefix)),
    List.reverse_append]
  rfl

theorem prefix_of_mem_placesBelow {start : Path} :
    ∀ place ∈ placesBelow cwd start, cwd.components <+: place := by
  intro place member
  rw [placesBelow, List.mem_reverse, List.mem_map] at member
  obtain ⟨front, -, rfl⟩ := member
  exact List.prefix_append cwd.components front

theorem not_prefix_of_mem_placesAbove (works : tree.WorksIn cwd) :
    ∀ place ∈ placesAbove cwd, ¬ cwd.components <+: place := by
  intro place member below
  rw [placesAbove, List.mem_reverse] at member
  have above := ((List.mem_inits _ _).1 (List.mem_of_mem_tail member)).length_le
  have deeper := below.length_le
  have long : 0 < cwd.components.length := by
    rw [works.components]
    exact Nat.succ_pos _
  rw [List.length_dropLast] at above
  omega

theorem components_mem_placesBelow (cwd start : Path) :
    cwd.components ∈ placesBelow cwd start := by
  rw [placesBelow, List.mem_reverse, List.mem_map]
  exact ⟨[], (List.mem_inits _ _).2 List.nil_prefix, List.append_nil _⟩

/-! ## What is found -/

/-- Where a search from a start finds the file. -/
def placeFound (tree : FileTree) (cwd start : Path) : Option (List Component) :=
  (find? tree.files.present start).map (place cwd)

/-- **A search from a relative path finds what the search from the same path behind the
working directory finds, if that lies in the working directory or below, and nothing
otherwise.** -/
theorem placeFound_relative (tree : FileTree) (cwd start : Path) (works : tree.WorksIn cwd)
    (relative : start.isAbsolute = false) :
    placeFound tree cwd start =
      (placeFound tree cwd (cwd.join start.text)).filter (liesBelow cwd.components) := by
  have far := places_absolute works (climb_upward (Nat.le_refl _)) relative
  have near := places_relative works (climb_upward (Nat.le_refl start.text.length)) relative
  have found : placeFound tree cwd start =
      searchPlaces tree.standsAt (placesBelow cwd start) := by
    rw [placeFound, find?, map_place_findIn works]
    rcases near with once | twice
    · rw [once]
    · rw [twice, searchPlaces_again _ _ (components_mem_placesBelow cwd start)]
  rw [found, placeFound, find?, map_place_findIn works, far]
  exact (filter_searchPlaces _ prefix_of_mem_placesBelow
    (not_prefix_of_mem_placesAbove works)).symm

/-- A tree with the file at the root, and a directory below it to work in. -/
def fileAbove : FileTree where
  entries := [([".modcovrc.json"], .file [] false), (["project"], .directory),
    (["project", "src"], .directory)]
  workingDirectory := ["project"]

theorem worksIn_fileAbove : fileAbove.WorksIn ⟨"/project"⟩ := by
  refine ⟨by decide, by decide, fun front isFront => ?_⟩
  rw [← List.mem_inits] at isFront
  revert front
  decide

theorem placeFound_relative_fileAbove :
    fileAbove.WorksIn ⟨"/project"⟩ ∧ (Path.mk ".").isAbsolute = false ∧
      placeFound fileAbove ⟨"/project"⟩ ⟨"/project/."⟩ = some [.root, .name fileName] ∧
      placeFound fileAbove ⟨"/project"⟩ ⟨"."⟩ = none := by
  have relative : (Path.mk ".").isAbsolute = false := by decide
  have found : placeFound fileAbove ⟨"/project"⟩ ⟨"/project/."⟩ = some [.root, .name fileName] := by
    decide
  refine ⟨worksIn_fileAbove, relative, found, ?_⟩
  rw [placeFound_relative fileAbove ⟨"/project"⟩ ⟨"."⟩ worksIn_fileAbove relative]
  have joined : (Path.mk "/project").join "." = ⟨"/project/."⟩ := by decide
  rw [joined, found]
  decide

/-- A search finds the same from a relative path and from that path behind the working
directory. -/
def SearchesAgree (tree : FileTree) (cwd start : Path) : Prop :=
  placeFound tree cwd start = placeFound tree cwd (cwd.join start.text)

instance (tree : FileTree) (cwd start : Path) : Decidable (SearchesAgree tree cwd start) :=
  inferInstanceAs (Decidable (_ = _))

/-- **The searches from a relative path and from its absolute spelling part ways.** -/
theorem not_searchesAgree :
    ¬ ∀ (tree : FileTree) (cwd start : Path), tree.WorksIn cwd → start.isAbsolute = false →
      .parent ∉ start.components → SearchesAgree tree cwd start := by
  intro agree
  have same := agree fileAbove ⟨"/project"⟩ ⟨"."⟩ worksIn_fileAbove (by decide) (by decide)
  revert same
  decide

end ExportAudit.Config
