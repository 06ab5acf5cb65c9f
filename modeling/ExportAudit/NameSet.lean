/-!
# Sets of names

A set of names is the list of its names in increasing order of their characters.
The order is part of the type, so **two sets with the same names are equal**, and
a report that prints a set prints it sorted.
-/

namespace ExportAudit

set_option autoImplicit false

/-- A finite set of names. -/
structure NameSet where
  /-- The names, in increasing order. -/
  toList : List String
  increasing : toList.Pairwise (· < ·)

namespace NameSet

/-! ## Building sets -/

/-- Puts a name in its place, unless it is there. -/
def place (name : String) : List String → List String
  | [] => [name]
  | first :: rest =>
    if name < first then name :: first :: rest
    else if name = first then first :: rest
    else first :: place name rest

/-- **Placing adds the name and keeps the others.** -/
theorem mem_place {name other : String} {names : List String} :
    other ∈ place name names ↔ other = name ∨ other ∈ names := by
  induction names with
  | nil => simp [place]
  | cons first rest ih =>
    rw [place]
    split
    · simp
    · split
      · next same => simp [same]
      · simp only [List.mem_cons, ih]
        constructor <;> intro h <;> rcases h with h | h | h <;> simp [h]

theorem pairwise_place {name : String} {names : List String}
    (increasing : names.Pairwise (· < ·)) : (place name names).Pairwise (· < ·) := by
  induction names with
  | nil => simp [place]
  | cons first rest ih =>
    obtain ⟨below, restIncreasing⟩ := List.pairwise_cons.1 increasing
    rw [place]
    split
    · next less =>
      refine List.pairwise_cons.2 ⟨fun other member => ?_, increasing⟩
      rcases List.mem_cons.1 member with rfl | member
      · exact less
      · exact String.lt_trans less (below other member)
    · next notLess =>
      split
      · exact increasing
      · next different =>
        refine List.pairwise_cons.2 ⟨fun other member => ?_, ih restIncreasing⟩
        rcases mem_place.1 member with rfl | member
        · refine Classical.byContradiction fun notGreater => different ?_
          exact String.le_antisymm (String.not_lt.1 notGreater) (String.not_lt.1 notLess)
        · exact below other member

/-- The set without names. -/
def empty : NameSet := ⟨[], List.Pairwise.nil⟩

/-- The set with one more name. -/
def insert (set : NameSet) (name : String) : NameSet :=
  ⟨place name set.toList, pairwise_place set.increasing⟩

/-- The set of the names of a list. -/
def ofList (names : List String) : NameSet :=
  names.foldr (fun name set => set.insert name) empty

/-! ## Membership -/

instance : Membership String NameSet := ⟨fun set name => name ∈ set.toList⟩

theorem mem_toList {set : NameSet} {name : String} : name ∈ set.toList ↔ name ∈ set := Iff.rfl

instance (name : String) (set : NameSet) : Decidable (name ∈ set) :=
  inferInstanceAs (Decidable (name ∈ set.toList))

/-- **A set built from a list holds the names of the list.** -/
theorem mem_ofList {name : String} {names : List String} : name ∈ ofList names ↔ name ∈ names := by
  induction names with
  | nil => simp [ofList, empty, ← mem_toList]
  | cons first rest ih =>
    have step : (ofList (first :: rest)).toList = place first (ofList rest).toList := rfl
    rw [← mem_toList, step, mem_place, mem_toList, ih, List.mem_cons]

theorem nodup_toList (set : NameSet) : set.toList.Nodup := by
  refine set.increasing.imp fun {a b} less equal => ?_
  rw [equal] at less
  exact String.lt_irrefl b less

/-- **Sets with the same names are equal.** -/
theorem ext {left right : NameSet} (same : ∀ name, name ∈ left ↔ name ∈ right) : left = right := by
  have sameNames : left.toList.Perm right.toList :=
    (List.perm_ext_iff_of_nodup left.nodup_toList right.nodup_toList).2 same
  have sameList : left.toList = right.toList :=
    sameNames.eq_of_pairwise (fun _ _ _ _ less greater =>
      absurd (String.lt_trans less greater) (String.lt_irrefl _)) left.increasing right.increasing
  cases left
  cases right
  cases sameList
  rfl

/-! ## Operations -/

/-- The names of a set that pass a test. -/
def filter (set : NameSet) (keep : String → Bool) : NameSet :=
  ⟨set.toList.filter keep, set.increasing.filter _⟩

/-- The names that two sets share. -/
def inter (left right : NameSet) : NameSet :=
  left.filter fun name => decide (name ∈ right)

/-- The names of one set that another lacks. -/
def diff (left right : NameSet) : NameSet :=
  left.filter fun name => decide (name ∉ right)

/-- The number of names. -/
def size (set : NameSet) : Nat :=
  set.toList.length

/-- The set holds no name. -/
def isEmpty (set : NameSet) : Bool :=
  set.toList.isEmpty

theorem mem_inter {left right : NameSet} {name : String} :
    name ∈ left.inter right ↔ name ∈ left ∧ name ∈ right := by
  simp [inter, filter, ← mem_toList]

theorem mem_diff {left right : NameSet} {name : String} :
    name ∈ left.diff right ↔ name ∈ left ∧ name ∉ right := by
  simp [diff, filter, ← mem_toList]

end NameSet

end ExportAudit
