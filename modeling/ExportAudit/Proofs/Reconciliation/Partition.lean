import ExportAudit.Reconciliation
import Mathlib.Algebra.Field.Rat
import Mathlib.Data.Finset.Card

/-!
# A comparison splits the union

The verdict on two sets of exports looks at what either side has alone, a report prints how
much they share.  The two are computed apart, and they must not contradict each other: a
module that passes must not show a ratio below one, and one that fails must not show a full
one.

A set of names is a finite set, so the comparison is read through the usual operations.  It
splits the union of the two sides into three parts.  The shared part lies in both sides, so
it is as large as the larger side **only if it is each of them**, and that is the case of an
exact comparison.
-/

namespace ExportAudit

set_option autoImplicit false

namespace NameSet

/-! ## Names as a finite set -/

/-- The names of a set, without their order. -/
def toFinset (set : NameSet) : Finset String :=
  ⟨set.toList, set.nodup_toList⟩

@[simp]
theorem mem_toFinset {set : NameSet} {name : String} : name ∈ set.toFinset ↔ name ∈ set := Iff.rfl

@[simp]
theorem card_toFinset (set : NameSet) : set.toFinset.card = set.size := rfl

theorem toFinset_inj {left right : NameSet} : left.toFinset = right.toFinset ↔ left = right :=
  ⟨fun same => ext fun name => by rw [← mem_toFinset, same, mem_toFinset],
    fun same => by rw [same]⟩

@[simp]
theorem toFinset_inter (left right : NameSet) :
    (left.inter right).toFinset = left.toFinset ∩ right.toFinset := by
  ext name
  rw [Finset.mem_inter, mem_toFinset, mem_toFinset, mem_toFinset, mem_inter]

@[simp]
theorem toFinset_diff (left right : NameSet) :
    (left.diff right).toFinset = left.toFinset \ right.toFinset := by
  ext name
  rw [Finset.mem_sdiff, mem_toFinset, mem_toFinset, mem_toFinset, mem_diff]

theorem inter_comm (left right : NameSet) : left.inter right = right.inter left := by
  rw [← toFinset_inj, toFinset_inter, toFinset_inter, Finset.inter_comm]

/-- **Two sets share as many names as the larger one has only if they are the same.** -/
theorem size_inter_eq_max_iff {left right : NameSet} :
    (left.inter right).size = max left.size right.size ↔ left = right := by
  constructor
  · intro full
    rw [← card_toFinset, toFinset_inter] at full
    have inLeft : left.toFinset ∩ right.toFinset = left.toFinset :=
      Finset.eq_of_subset_of_card_le Finset.inter_subset_left
        (by rw [full, card_toFinset]; exact le_max_left ..)
    have inRight : left.toFinset ∩ right.toFinset = right.toFinset :=
      Finset.eq_of_subset_of_card_le Finset.inter_subset_right
        (by rw [full, card_toFinset]; exact le_max_right ..)
    exact toFinset_inj.1 (inLeft.symm.trans inRight)
  · rintro rfl
    rw [← card_toFinset, toFinset_inter, Finset.inter_self, card_toFinset, max_self]

end NameSet

/-- The rational number that a ratio of counts stands for. -/
def Fraction.toRat (ratio : Fraction) : ℚ :=
  ratio.num / ratio.den

namespace Reconciliation

variable (authoritative heuristic : NameSet)

/-! ## The parts -/

/-- The parts of a comparison split the union of two sets. -/
structure Splits (authoritative heuristic : NameSet) (comparison : Reconciliation) : Prop where
  disjoint_both_authoritative :
    Disjoint comparison.both.toFinset comparison.onlyAuthoritative.toFinset
  disjoint_both_heuristic : Disjoint comparison.both.toFinset comparison.onlyHeuristic.toFinset
  disjoint_remainders :
    Disjoint comparison.onlyAuthoritative.toFinset comparison.onlyHeuristic.toFinset
  union : comparison.both.toFinset ∪ comparison.onlyAuthoritative.toFinset ∪
    comparison.onlyHeuristic.toFinset = authoritative.toFinset ∪ heuristic.toFinset
  authoritative_eq :
    comparison.both.toFinset ∪ comparison.onlyAuthoritative.toFinset = authoritative.toFinset
  heuristic_eq : comparison.both.toFinset ∪ comparison.onlyHeuristic.toFinset = heuristic.toFinset

/-- **Comparing two sets splits their union.** -/
theorem splits_compare : Splits authoritative heuristic (compare authoritative heuristic) where
  disjoint_both_authoritative := by
    rw [compare, NameSet.toFinset_inter, NameSet.toFinset_diff]
    exact Finset.disjoint_sdiff.mono_left Finset.inter_subset_right
  disjoint_both_heuristic := by
    rw [compare, NameSet.toFinset_inter, NameSet.toFinset_diff]
    exact Finset.disjoint_sdiff.mono_left Finset.inter_subset_left
  disjoint_remainders := by
    rw [compare, NameSet.toFinset_diff, NameSet.toFinset_diff]
    exact Finset.sdiff_disjoint.mono_right Finset.sdiff_subset
  union := by
    ext name
    simp only [compare, NameSet.toFinset_inter, NameSet.toFinset_diff, Finset.mem_union,
      Finset.mem_inter, Finset.mem_sdiff]
    tauto
  authoritative_eq := by
    rw [compare, NameSet.toFinset_inter, NameSet.toFinset_diff, Finset.union_comm]
    exact Finset.sdiff_union_inter ..
  heuristic_eq := by
    rw [compare, NameSet.toFinset_inter, NameSet.toFinset_diff, Finset.union_comm,
      Finset.inter_comm]
    exact Finset.sdiff_union_inter ..

/-- A comparison is the other one seen from the other side. -/
structure Mirrors (comparison mirrored : Reconciliation) : Prop where
  both : mirrored.both = comparison.both
  matchRatio : mirrored.matchRatio = comparison.matchRatio
  onlyAuthoritative : mirrored.onlyAuthoritative = comparison.onlyHeuristic
  onlyHeuristic : mirrored.onlyHeuristic = comparison.onlyAuthoritative

/-- **Comparing the other way round swaps the remainders and nothing else.** -/
theorem mirrors_compare :
    Mirrors (compare authoritative heuristic) (compare heuristic authoritative) where
  both := NameSet.inter_comm ..
  matchRatio := by
    rw [compare, compare, NameSet.inter_comm, max_comm]
  onlyAuthoritative := rfl
  onlyHeuristic := rfl

/-! ## The ratio -/

/-- **The ratio is what the larger side shares**, and one if there is nothing to share. -/
theorem toRat_matchRatio :
    (compare authoritative heuristic).matchRatio.toRat =
      if max authoritative.size heuristic.size = 0 then 1
      else ((compare authoritative heuristic).both.size : ℚ) /
        (max authoritative.size heuristic.size : ℕ) := by
  simp only [compare, Fraction.toRat]
  split
  · rw [Nat.cast_one, div_one]
  · rfl

/-- The shared names fill the larger side exactly if the ratio is one. -/
theorem toRat_matchRatio_eq_one_iff :
    (compare authoritative heuristic).matchRatio.toRat = 1 ↔
      (compare authoritative heuristic).both.size = max authoritative.size heuristic.size := by
  rw [toRat_matchRatio]
  split
  · next noNames =>
    have bound : (authoritative.inter heuristic).size ≤ authoritative.size := by
      rw [← NameSet.card_toFinset, NameSet.toFinset_inter]
      exact Finset.card_le_card Finset.inter_subset_left
    simp only [compare, true_iff]
    omega
  · next someNames =>
    rw [div_eq_one_iff_eq (Nat.cast_ne_zero.2 someNames), Nat.cast_inj]

/-- A comparison is exact when its sides are the same set. -/
theorem isExact_compare_iff_eq :
    (compare authoritative heuristic).isExact = true ↔ authoritative = heuristic := by
  rw [isExact_compare_iff]
  exact ⟨NameSet.ext, fun same _ => by rw [same]⟩

/-! ## The comparison -/

/-- **A comparison splits the union, is symmetric, and its verdict and its ratio agree**: it is
exact if the sides are the same, which is the case if the shared names fill the larger side,
which is the case if the ratio is one. -/
theorem compare_lawful :
    Splits authoritative heuristic (compare authoritative heuristic) ∧
      Mirrors (compare authoritative heuristic) (compare heuristic authoritative) ∧
      ((compare authoritative heuristic).isExact = true ↔ authoritative = heuristic) ∧
      (authoritative = heuristic ↔ (compare authoritative heuristic).both.size =
        max authoritative.size heuristic.size) ∧
      (compare authoritative heuristic).matchRatio.toRat =
        (if max authoritative.size heuristic.size = 0 then 1
        else ((compare authoritative heuristic).both.size : ℚ) /
          (max authoritative.size heuristic.size : ℕ)) ∧
      ((compare authoritative heuristic).isExact = true ↔
        (compare authoritative heuristic).matchRatio.toRat = 1) := by
  have sameIff : authoritative = heuristic ↔ (compare authoritative heuristic).both.size =
      max authoritative.size heuristic.size := NameSet.size_inter_eq_max_iff.symm
  have exactIff := isExact_compare_iff_eq authoritative heuristic
  refine ⟨splits_compare .., mirrors_compare .., exactIff, sameIff, toRat_matchRatio .., ?_⟩
  rw [exactIff, sameIff, toRat_matchRatio_eq_one_iff]

end Reconciliation

end ExportAudit
