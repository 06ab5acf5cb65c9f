import ExportAudit.NameSet
import ExportAudit.Decimal.Fraction

/-!
# Reconciling two sets of exports

The exports found in a dump are the authority; those found in the source text
are a fast guess.  Comparing them splits their union into the shared names and
what either side has alone.  The match ratio relates the shared names to the
larger side, and it is one when both sides are empty.

**The verdict looks at the remainders alone.**
-/

namespace ExportAudit

set_option autoImplicit false

/-- The comparison of two sets of exports. -/
structure Reconciliation where
  authoritative : NameSet
  heuristic : NameSet
  both : NameSet
  onlyAuthoritative : NameSet
  onlyHeuristic : NameSet
  /-- The shared names over the larger side. -/
  matchRatio : Fraction

namespace Reconciliation

/-- Compares two sets of exports. -/
def compare (authoritative heuristic : NameSet) : Reconciliation :=
  let both := authoritative.inter heuristic
  let larger := max authoritative.size heuristic.size
  { authoritative
    heuristic
    both
    onlyAuthoritative := authoritative.diff heuristic
    onlyHeuristic := heuristic.diff authoritative
    matchRatio := if larger = 0 then ⟨1, 1⟩ else ⟨both.size, larger⟩ }

/-- Neither side has a name that the other lacks. -/
def isExact (comparison : Reconciliation) : Bool :=
  comparison.onlyAuthoritative.isEmpty && comparison.onlyHeuristic.isEmpty

/-- **A comparison is exact when both sides hold the same names.** -/
theorem isExact_compare_iff (authoritative heuristic : NameSet) :
    (Reconciliation.compare authoritative heuristic).isExact = true ↔
      ∀ name, name ∈ authoritative ↔ name ∈ heuristic := by
  simp only [isExact, compare, NameSet.isEmpty, Bool.and_eq_true, List.isEmpty_iff,
    List.eq_nil_iff_forall_not_mem, NameSet.mem_toList, NameSet.mem_diff]
  constructor
  · rintro ⟨noneLeft, noneRight⟩ name
    constructor
    · intro member
      exact Classical.byContradiction fun missing => noneLeft name ⟨member, missing⟩
    · intro member
      exact Classical.byContradiction fun missing => noneRight name ⟨member, missing⟩
  · intro same
    exact ⟨fun name ⟨member, missing⟩ => missing ((same name).1 member),
      fun name ⟨member, missing⟩ => missing ((same name).2 member)⟩

/-- **A set compared with itself is shared as a whole.** -/
theorem compare_self (names : NameSet) :
    (compare names names).isExact = true ∧ (compare names names).both = names ∧
      (compare names names).matchRatio.num = (compare names names).matchRatio.den := by
  have shared : names.inter names = names :=
    NameSet.ext fun name => NameSet.mem_inter.trans (and_self_iff)
  refine ⟨(isExact_compare_iff names names).2 fun _ => Iff.rfl, shared, ?_⟩
  simp only [compare, shared, Nat.max_self]
  split <;> rfl

end Reconciliation

end ExportAudit
