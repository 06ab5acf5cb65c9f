import ExportAudit.Proofs.Json.Slots
import Mathlib.Data.List.Nodup
import Mathlib.Logic.Relation

/-!
# Records do not depend on the order of their members

Members are stored one after the other, and the loop remembers which names have come.  Where the
slots of a record do not touch each other, nothing of that is left in the result.  **A record is
read exactly if every slot has the value of its own member, or its default if there is no such
member,** every name can be read, and no slot is named twice.

In that description the members stand in no order, and those that no slot knows appear with their
names only.  So an edit that reorders members or puts in one that nobody knows leaves the record
as it is.
-/

namespace ExportAudit.Json

set_option autoImplicit false

variable {σ : Type} {slots : List (Slot σ)} {defaults record : σ}
  {members others front back : List (Member Tree)} {member : Member Tree}

/-! ## Slots that do not touch each other -/

/-- The slots of a record have their own places, and together they are the record. -/
structure Independent (slots : List (Slot σ)) : Prop where
  distinct : (slots.map (·.name)).Nodup
  frame : ∀ slot ∈ slots, ∀ other ∈ slots, slot.name ≠ other.name →
    ∀ record value, slot.get (other.set record value) = slot.get record
  ext : ∀ {first second : σ}, (∀ slot ∈ slots, slot.get first = slot.get second) → first = second

theorem name_ne_of_find?_eq_none {name : String} (unknown : Slot.find? slots name = none) :
    ∀ slot ∈ slots, slot.name ≠ name := by
  intro slot member same
  exact List.find?_eq_none.1 unknown slot member (beq_iff_eq.2 same)

theorem mem_of_find?_eq_some {name : String} {slot : Slot σ}
    (found : Slot.find? slots name = some slot) : slot ∈ slots ∧ slot.name = name :=
  ⟨List.mem_of_find?_eq_some found, by simpa using List.find?_some found⟩

/-- A slot is known by its name. -/
theorem Independent.eq_of_name (independent : Independent slots) {slot other : Slot σ}
    (isSlot : slot ∈ slots) (isOther : other ∈ slots) (same : other.name = slot.name) :
    other = slot :=
  List.inj_on_of_nodup_map independent.distinct isOther isSlot same

/-! ## What the members say -/

/-- A slot has the value that its member gives, or its default. -/
structure Slot.Merged (slot : Slot σ) (members : List (Member Tree)) (defaults record : σ) :
    Prop where
  given : ∀ member ∈ members, member.name? = some slot.name →
    slot.decode member.value.inner = some (slot.get record)
  absent : (∀ member ∈ members, member.name? ≠ some slot.name) →
    slot.get record = slot.get defaults

/-- Two members do not name one slot. -/
def Apart (slots : List (Slot σ)) (first second : Member Tree) : Prop :=
  ∀ slot ∈ slots, first.name? = some slot.name → second.name? ≠ some slot.name

theorem Apart.symm {first second : Member Tree} (apart : Apart slots first second) :
    Apart slots second first :=
  fun slot isSlot named same => apart slot isSlot same named

/-- A record is what some members say, slot by slot. -/
structure Merges (slots : List (Slot σ)) (defaults : σ) (members : List (Member Tree))
    (record : σ) : Prop where
  named : ∀ member ∈ members, member.name?.isSome = true
  apart : members.Pairwise (Apart slots)
  merged : ∀ slot ∈ slots, slot.Merged members defaults record

/-- The order of the members plays no part. -/
theorem Merges.perm (merges : Merges slots defaults members record) (perm : members.Perm others) :
    Merges slots defaults others record where
  named member isMember := merges.named member (perm.mem_iff.2 isMember)
  apart := (perm.pairwise_iff Apart.symm).1 merges.apart
  merged slot isSlot :=
    { given := fun member isMember =>
        (merges.merged slot isSlot).given member (perm.mem_iff.2 isMember)
      absent := fun noMember => (merges.merged slot isSlot).absent fun member isMember =>
        noMember member (perm.mem_iff.1 isMember) }

/-- A member that no slot knows says nothing but its name. -/
theorem merges_cons_unknown_iff {name : String} (named : member.name? = some name)
    (unknown : ∀ slot ∈ slots, slot.name ≠ name) :
    Merges slots defaults (member :: members) record ↔ Merges slots defaults members record := by
  have other (slot : Slot σ) (isSlot : slot ∈ slots) : member.name? ≠ some slot.name := by
    rw [named]
    exact fun same => unknown slot isSlot (Option.some.inj same).symm
  constructor
  · rintro ⟨areNamed, apart, merged⟩
    refine ⟨(List.forall_mem_cons.1 areNamed).2, (List.pairwise_cons.1 apart).2,
      fun slot isSlot => ⟨(List.forall_mem_cons.1 (merged slot isSlot).given).2, ?_⟩⟩
    exact fun noMember => (merged slot isSlot).absent
      (List.forall_mem_cons.2 ⟨other slot isSlot, noMember⟩)
  · rintro ⟨areNamed, apart, merged⟩
    refine ⟨List.forall_mem_cons.2 ⟨by rw [named]; rfl, areNamed⟩, List.pairwise_cons.2 ⟨?_, apart⟩,
      fun slot isSlot => ⟨?_, ?_⟩⟩
    · exact fun _ _ slot isSlot same => absurd same (other slot isSlot)
    · exact List.forall_mem_cons.2
        ⟨fun same => absurd same (other slot isSlot), (merged slot isSlot).given⟩
    · exact fun noMember => (merged slot isSlot).absent (List.forall_mem_cons.1 noMember).2

/-! ## What the loop stores -/

/-- A member that a slot knows says what the slot holds; the rest is said of the record that holds
it, and does not name the slot again. -/
theorem Independent.merges_cons_known_iff (independent : Independent slots) {slot : Slot σ}
    (isSlot : slot ∈ slots) (named : member.name? = some slot.name) {value : slot.Value}
    (decoded : slot.decode member.value.inner = some value) :
    Merges slots defaults (member :: members) record ↔
      Merges slots (slot.set defaults value) members record ∧
        ∀ other ∈ members, other.name? ≠ some slot.name := by
  -- every other slot is untouched by the member, and by what the slot holds
  have untouched {other : Slot σ} (isOther : other ∈ slots) (differs : other.name ≠ slot.name) :
      member.name? ≠ some other.name ∧
        other.get (slot.set defaults value) = other.get defaults := by
    refine ⟨?_, independent.frame other isOther slot isSlot differs defaults value⟩
    rw [named]
    exact fun same => differs (Option.some.inj same).symm
  constructor
  · rintro ⟨areNamed, apart, merged⟩
    obtain ⟨atHead, apart⟩ := List.pairwise_cons.1 apart
    have onlyHead : ∀ other ∈ members, other.name? ≠ some slot.name :=
      fun other isOther => atHead other isOther slot isSlot named
    refine ⟨⟨(List.forall_mem_cons.1 areNamed).2, apart, fun other isOther =>
      ⟨(List.forall_mem_cons.1 (merged other isOther).given).2, fun noMember => ?_⟩⟩, onlyHead⟩
    by_cases same : other.name = slot.name
    · obtain rfl := independent.eq_of_name isSlot isOther same
      rw [other.get_set]
      have given := (merged other isOther).given member List.mem_cons_self named
      rw [decoded] at given
      exact (Option.some.inj given).symm
    · rw [(untouched isOther same).2]
      exact (merged other isOther).absent
        (List.forall_mem_cons.2 ⟨(untouched isOther same).1, noMember⟩)
  · rintro ⟨⟨areNamed, apart, merged⟩, onlyHead⟩
    refine ⟨List.forall_mem_cons.2 ⟨by rw [named]; rfl, areNamed⟩, List.pairwise_cons.2 ⟨?_, apart⟩,
      fun other isOther => ⟨List.forall_mem_cons.2 ⟨fun same => ?_, (merged other isOther).given⟩,
        fun noMember => ?_⟩⟩
    · intro later isLater other isOther same
      rw [← same, named]
      exact onlyHead later isLater
    · rw [named] at same
      obtain rfl := independent.eq_of_name isSlot isOther (Option.some.inj same).symm
      rw [decoded, (merged other isOther).absent onlyHead, other.get_set]
    · obtain ⟨notHead, noMember⟩ := List.forall_mem_cons.1 noMember
      have differs : other.name ≠ slot.name := fun same => notHead (same ▸ named)
      rw [(merged other isOther).absent noMember, (untouched isOther differs).2]

/-- No slot whose name was seen is named again. -/
def Fresh (slots : List (Slot σ)) (seen : List String) (members : List (Member Tree)) : Prop :=
  ∀ slot ∈ slots, slot.name ∈ seen → ∀ member ∈ members, member.name? ≠ some slot.name

theorem fresh_cons_unknown_iff {seen : List String} {name : String}
    (named : member.name? = some name) (unknown : ∀ slot ∈ slots, slot.name ≠ name) :
    Fresh slots (name :: seen) members ↔ Fresh slots seen (member :: members) := by
  refine forall₂_congr fun slot isSlot => ?_
  have notHead : member.name? ≠ some slot.name := by
    rw [named]
    exact fun same => unknown slot isSlot (Option.some.inj same).symm
  rw [List.mem_cons, or_iff_right (unknown slot isSlot), List.forall_mem_cons,
    and_iff_right notHead]

theorem fresh_cons_known_iff {seen : List String} {slot : Slot σ} (isSlot : slot ∈ slots)
    (named : member.name? = some slot.name) (notSeen : slot.name ∉ seen) :
    Fresh slots (slot.name :: seen) members ↔
      (∀ other ∈ members, other.name? ≠ some slot.name) ∧ Fresh slots seen (member :: members) := by
  constructor
  · intro fresh
    refine ⟨fresh slot isSlot List.mem_cons_self, fun other isOther inSeen =>
      List.forall_mem_cons.2 ⟨fun same => ?_, fresh other isOther (List.mem_cons_of_mem _ inSeen)⟩⟩
    rw [named] at same
    exact notSeen (Option.some.inj same ▸ inSeen)
  · rintro ⟨onlyHead, fresh⟩ other isOther isName
    rcases List.mem_cons.1 isName with same | inSeen
    · rw [same]
      exact onlyHead
    · exact (List.forall_mem_cons.1 (fresh other isOther inSeen)).2

/-- A member that a slot knows is stored if the slot is fresh and the value can be decoded. -/
theorem storeMember_of_find?_eq_some {seen : List String} {name : String} {value : Tree}
    {slot : Slot σ} (found : Slot.find? slots name = some slot) :
    storeMember slots seen defaults name value =
      if name ∈ seen then none else (slot.decode value).map (slot.set defaults) := by
  rw [storeMember, found]

/-- **The members are stored exactly if the record is what they say.** -/
theorem Independent.decodeMembers_eq_some_iff (independent : Independent slots)
    (seen : List String) :
    decodeMembers slots seen defaults members = some record ↔
      Merges slots defaults members record ∧ Fresh slots seen members := by
  induction members generalizing seen defaults with
  | nil =>
    rw [decodeMembers, Option.some_inj]
    constructor
    · rintro rfl
      exact ⟨⟨List.forall_mem_nil _, List.Pairwise.nil,
        fun _ _ => ⟨List.forall_mem_nil _, fun _ => rfl⟩⟩, fun _ _ _ => List.forall_mem_nil _⟩
    · rintro ⟨merges, -⟩
      exact (independent.ext fun slot isSlot =>
        (merges.merged slot isSlot).absent (List.forall_mem_nil _)).symm
  | cons member members ih =>
    rw [decodeMembers, Option.bind_eq_bind]
    cases named : member.name? with
    | none =>
      refine iff_of_false (Option.some_ne_none record).symm fun both => ?_
      have isNamed := both.1.named member List.mem_cons_self
      rw [named] at isNamed
      cases isNamed
    | some name =>
      rw [Option.bind_some, Option.bind_eq_bind]
      cases found : Slot.find? slots name with
      | none =>
        have unknown := name_ne_of_find?_eq_none found
        rw [storeMember, found]
        dsimp only
        rw [Option.bind_some, ih, merges_cons_unknown_iff named unknown,
          fresh_cons_unknown_iff named unknown]
      | some slot =>
        obtain ⟨isSlot, rfl⟩ := mem_of_find?_eq_some found
        rw [storeMember_of_find?_eq_some found]
        by_cases isSeen : slot.name ∈ seen
        · rw [if_pos isSeen]
          exact iff_of_false (Option.some_ne_none record).symm fun both =>
            both.2 slot isSlot isSeen member List.mem_cons_self named
        rw [if_neg isSeen]
        cases decoded : slot.decode member.value.inner with
        | none =>
          refine iff_of_false (Option.some_ne_none record).symm fun both => ?_
          have given := (both.1.merged slot isSlot).given member List.mem_cons_self named
          rw [decoded] at given
          cases given
        | some value =>
          rw [Option.map_some, Option.bind_some, ih,
            independent.merges_cons_known_iff isSlot named decoded, and_assoc,
            fresh_cons_known_iff isSlot named isSeen]

/-- **An object is read as a record exactly if the record is what its members say.** -/
theorem Independent.decodeRecord_object_iff (independent : Independent slots) (gap : Gap) :
    decodeRecord slots defaults (.object gap members) = some record ↔
      Merges slots defaults members record := by
  rw [decodeRecord, independent.decodeMembers_eq_some_iff]
  exact and_iff_left fun _ _ => nofun

/-! ## Edits -/

/-- Members in another order, or with one more that has none of the known names. -/
inductive Edit (known : List String) : List (Member Tree) → List (Member Tree) → Prop where
  | reorder {members others : List (Member Tree)} (perm : members.Perm others) :
    Edit known members others
  | insert (front back : List (Member Tree)) {member : Member Tree} {name : String}
    (named : member.name? = some name) (unknown : name ∉ known) :
    Edit known (front ++ back) (front ++ member :: back)

/-- **An edit leaves a record as it is.** -/
theorem Merges.edit (merges : Merges slots defaults members record)
    (edit : Edit (slots.map (·.name)) members others) : Merges slots defaults others record := by
  cases edit with
  | reorder perm => exact merges.perm perm
  | @insert front back member name named unknown =>
    have notName (slot : Slot σ) (isSlot : slot ∈ slots) : slot.name ≠ name :=
      fun same => unknown (same ▸ List.mem_map_of_mem isSlot)
    exact ((merges_cons_unknown_iff named notName).2 merges).perm List.perm_middle.symm

/-- A member may be given another value, if its slot makes the same of it. -/
theorem Merges.replace (merges : Merges slots defaults (front ++ member :: back) record)
    {value : Spaced Tree}
    (alike : ∀ slot ∈ slots, member.name? = some slot.name →
      slot.decode member.value.inner = some (slot.get record) →
      slot.decode value.inner = some (slot.get record)) :
    Merges slots defaults (front ++ { member with value } :: back) record := by
  obtain ⟨areNamed, apart, merged⟩ := merges.perm List.perm_middle
  obtain ⟨headNamed, areNamed⟩ := List.forall_mem_cons.1 areNamed
  obtain ⟨headApart, apart⟩ := List.pairwise_cons.1 apart
  -- the name is the old one, and only the value that is given has to be looked at
  have atHead : Merges slots defaults ({ member with value } :: (front ++ back)) record :=
    { named := List.forall_mem_cons.2 ⟨headNamed, areNamed⟩
      apart := List.pairwise_cons.2 ⟨headApart, apart⟩
      merged := fun slot isSlot =>
        { given := by
            obtain ⟨given, others⟩ := List.forall_mem_cons.1 (merged slot isSlot).given
            exact List.forall_mem_cons.2 ⟨fun same => alike slot isSlot same (given same), others⟩
          absent := fun noMember => by
            obtain ⟨notHead, noMember⟩ := List.forall_mem_cons.1 noMember
            exact (merged slot isSlot).absent (List.forall_mem_cons.2 ⟨notHead, noMember⟩) } }
  exact atHead.perm List.perm_middle.symm

end ExportAudit.Json
