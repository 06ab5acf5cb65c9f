import ExportAudit.Proofs.Json.ReadBack
import Mathlib.Data.List.Nodup

/-!
# Printed arrays and records are read back

The pretty text of a value depends on how deep it stands, so what is said about a value
is said for every level: a reader recovers a value from its printed form.  That property
passes from the elements to an array of them, and from the members to a record.

A record is printed and read by two separate lists, the members it prints and the members
it knows.  An entry holds one member of either list, with what its value does to the
record.  **Where the printed and the known members are those of one list of entries, with
a name for each, the record read back is the defaults with every entry stored in turn.**
-/

namespace ExportAudit.Json

set_option autoImplicit false

open ExportAudit.Text

/-- A reader reads a value back from the pretty text of its printed form, at every
level. -/
def Recovers {α : Type} (reader : Reader α) (printed : Json) (value : α) : Prop :=
  ∀ level, ReadsBack reader (prettyChars level printed) value

theorem recovers_string (value : String) : Recovers readString (.string value) value :=
  fun _ => by
    rw [prettyChars]
    exact readsBack_quote value

theorem recovers_unsigned (value : UInt64) : Recovers readUnsigned (.ofNat value.toNat) value :=
  fun _ => by
    rw [ofNat, prettyChars]
    exact readsBack_unsigned value

theorem recovers_signed (value : Int32) : Recovers readSigned (.ofInt value.toInt) value :=
  fun _ => by
    rw [ofInt, prettyChars]
    exact readsBack_signed value

/-! ## Arrays -/

section Arrays

variable {α : Type} {item : Reader α} {encode : α → Json}

theorem readItems_close (fuel : Nat) (first : Bool) {blanks : List Char}
    (allSpace : AllSpace blanks) (rest : List Char) :
    readItems item (fuel + 1) first (blanks ++ ']' :: rest) = .ok ([], rest) := by
  rw [readItems, skipSpace_append allSpace (stops_cons.2 (by decide))]
  rfl

/-- The first element of an array, and the elements after it. -/
theorem readItems_first {blanks text rest after : List Char} {value : α} {values : List α}
    {fuel : Nat} (allSpace : AllSpace blanks) (reads : ReadsBack item text value)
    (stops : Stops isNumberRest rest)
    (others : readItems item fuel false rest = .ok (values, after)) :
    readItems item (fuel + 1) true (blanks ++ (text ++ rest)) = .ok (value :: values, after) := by
  have first : item ([] ++ (text ++ rest)) = .ok (value, rest) :=
    reads.reads (List.forall_mem_nil _) stops
  obtain ⟨c, more, _, isCons, begins⟩ := reads.skipSpace allSpace rest
  rw [List.nil_append, isCons] at first
  rw [readItems, begins]
  simp [first, others, bind, Except.bind]

/-- An element after a comma, and the elements after it. -/
theorem readItems_next {blanks text rest after : List Char} {value : α} {values : List α}
    {fuel : Nat} (allSpace : AllSpace blanks) (reads : ReadsBack item text value)
    (stops : Stops isNumberRest rest)
    (others : readItems item fuel false rest = .ok (values, after)) :
    readItems item (fuel + 1) false (',' :: (blanks ++ (text ++ rest))) =
      .ok (value :: values, after) := by
  have next : item (blanks ++ (text ++ rest)) = .ok (value, rest) := reads.reads allSpace stops
  obtain ⟨c, more, notEnd, _, begins⟩ := reads.skipSpace allSpace rest
  rw [readItems, skipSpace_cons (by decide)]
  simp [begins, notEnd, next, others, bind, Except.bind]

/-- A number does not go on where the next element or the end of an array stands. -/
theorem stops_prettyItems (level outer : Nat) (items : List Json) (rest : List Char) :
    Stops isNumberRest (prettyItems level items ++ (newLine outer ++ rest)) := by
  cases items with
  | nil => exact stops_newLine outer rest
  | cons item items => exact stops_cons.2 (by decide)

theorem readItems_prettyItems (each : ∀ value, Recovers item (encode value) value)
    (level outer : Nat) (values : List α) (rest : List Char) {fuel : Nat}
    (enough : values.length < fuel) :
    readItems item fuel false
        (prettyItems level (values.map encode) ++ (newLine outer ++ ']' :: rest)) =
      .ok (values, rest) := by
  induction values generalizing fuel with
  | nil =>
    obtain ⟨fuel, rfl⟩ := Nat.exists_eq_succ_of_ne_zero (Nat.ne_of_gt enough)
    exact readItems_close fuel false (allSpace_newLine outer) rest
  | cons value values ih =>
    obtain ⟨fuel, rfl⟩ := Nat.exists_eq_succ_of_ne_zero (Nat.ne_of_gt (Nat.zero_lt_of_lt enough))
    have others := ih (Nat.lt_of_succ_lt_succ enough)
    have stops := stops_prettyItems level outer (values.map encode) (']' :: rest)
    simpa [prettyItems] using
      readItems_next (allSpace_newLine level) (each value level) stops others

theorem length_le_prettyItems (level : Nat) (items : List Json) :
    items.length ≤ (prettyItems level items).length := by
  induction items with
  | nil => exact Nat.zero_le _
  | cons item items ih =>
    simp only [prettyItems, List.length_cons, List.length_append]
    omega

theorem readArray_open {blanks : List Char} (allSpace : AllSpace blanks) (rest : List Char) :
    readArray item (blanks ++ '[' :: rest) =
      readItems item ((blanks ++ '[' :: rest).length + 1) true rest := by
  rw [readArray, skipSpace_append allSpace (stops_cons.2 (by decide))]
  rfl

/-- **An array of printed values is read back.** -/
theorem recovers_array (each : ∀ value, Recovers item (encode value) value) (values : List α) :
    Recovers (readArray item) (.array (values.map encode)) values := by
  intro level
  cases values with
  | nil =>
    have isText : prettyChars level (.array (List.map encode [])) = '[' :: [']'] := by
      rw [List.map_nil, prettyChars]
    refine ⟨⟨'[', _, isText, by decide, by decide⟩, fun {blanks rest} allSpace _ => ?_⟩
    rw [isText, List.cons_append, readArray_open allSpace]
    exact readItems_close _ true (List.forall_mem_nil _) rest
  | cons value values =>
    have isText : prettyChars level (.array (List.map encode (value :: values))) =
        '[' :: (newLine (level + 1) ++ (prettyChars (level + 1) (encode value) ++
          (prettyItems (level + 1) (values.map encode) ++ (newLine level ++ [']'])))) := by
      simp only [List.map_cons, prettyChars, List.append_assoc]
    refine ⟨⟨'[', _, isText, by decide, by decide⟩, fun {blanks rest} allSpace _ => ?_⟩
    rw [isText, List.cons_append, readArray_open allSpace]
    simp only [List.append_assoc, List.singleton_append]
    refine readItems_first (allSpace_newLine _) (each value _) (stops_prettyItems _ _ _ _)
      (readItems_prettyItems each _ _ values rest ?_)
    -- the fuel is the length of the text, and every element takes up some of it
    have printed := length_le_prettyItems (level + 1) (values.map encode)
    simp only [List.length_append, List.length_cons, List.length_map] at printed ⊢
    omega

end Arrays

/-! ## Records -/

section Records

variable {σ : Type}

/-- A member of a record as it is read and printed: under its name the printed value
stands, and reading it back does to the record what the member stores. -/
structure RecordEntry (σ : Type) where
  name : String
  read : σ → Reader σ
  printed : Json
  store : σ → σ
  recovers : ∀ record, Recovers (read record) printed (store record)

/-- The member that a record knows. -/
def RecordEntry.field (entry : RecordEntry σ) : MemberReader σ :=
  ⟨entry.name, entry.read⟩

/-- The member that is printed. -/
def RecordEntry.member (entry : RecordEntry σ) : String × Json :=
  (entry.name, entry.printed)

/-- The record with the entries stored one after the other. -/
def storeAll (entries : List (RecordEntry σ)) (record : σ) : σ :=
  entries.foldl (fun record entry => entry.store record) record

theorem name_ne_of_mem {first entry : RecordEntry σ} {entries : List (RecordEntry σ)}
    (distinct : ((first :: entries).map (·.name)).Nodup) (member : entry ∈ entries) :
    entry.name ≠ first.name := by
  intro same
  have later : entry.name ∈ entries.map (·.name) := List.mem_map_of_mem member
  rw [same] at later
  exact (List.nodup_cons.1 distinct).1 later

/-- Among members of different names each is found by its own. -/
theorem find?_field {entries : List (RecordEntry σ)} (distinct : (entries.map (·.name)).Nodup)
    {entry : RecordEntry σ} (member : entry ∈ entries) :
    MemberReader.find? (entries.map RecordEntry.field) entry.name = some entry.field := by
  induction entries with
  | nil => simp at member
  | cons first entries ih =>
    rcases List.mem_cons.1 member with rfl | member
    · exact List.find?_cons_of_pos (by simp [RecordEntry.field])
    · have other : first.name ≠ entry.name := (name_ne_of_mem distinct member).symm
      rw [← ih (List.nodup_cons.1 distinct).2 member]
      exact List.find?_cons_of_neg (by simpa [RecordEntry.field] using other)

/-- The text of a member after its opening quote, and what follows it. -/
def memberText (level : Nat) (entry : RecordEntry σ) (rest : List Char) : List Char :=
  entry.name.toList.flatMap escape ++ '"' :: ':' :: ' ' ::
    (prettyChars level entry.printed ++ rest)

theorem readChars_memberText (level : Nat) (entry : RecordEntry σ) (rest : List Char) :
    readChars (memberText level entry rest) =
      .ok (entry.name.toList, ':' :: ' ' :: (prettyChars level entry.printed ++ rest)) :=
  readChars_quoted entry.name.toList _

theorem readMemberValue_entry (entry : RecordEntry σ) (record : σ) (level : Nat) {rest : List Char}
    (stops : Stops isNumberRest rest) :
    readMemberValue (some entry.field) record
        (':' :: ' ' :: (prettyChars level entry.printed ++ rest)) =
      .ok (entry.store record, rest) := by
  have allSpace : AllSpace [' '] := by simp [AllSpace, isSpace]
  rw [readMemberValue, skipSpace_cons (by decide)]
  exact (entry.recovers record level).reads allSpace stops

section Members

variable {fields : List (MemberReader σ)} {entry : RecordEntry σ} {seen : List String}
  {blanks rest : List Char} (level : Nat)

theorem readMembers_close (fuel : Nat) (first : Bool) (seen : List String) (record : σ)
    (allSpace : AllSpace blanks) (rest : List Char) :
    readMembers fields (fuel + 1) first seen record (blanks ++ '\x7d' :: rest) =
      .ok (record, rest) := by
  rw [readMembers, skipSpace_append allSpace (stops_cons.2 (by decide))]
  rfl

/-- The first member of a record is stored, if it is known. -/
theorem readMembers_first (fuel : Nat) (record : σ) (allSpace : AllSpace blanks)
    (known : MemberReader.find? fields entry.name = some entry.field) (fresh : entry.name ∉ seen)
    (stops : Stops isNumberRest rest) :
    readMembers fields (fuel + 1) true seen record (blanks ++ '"' :: memberText level entry rest) =
      readMembers fields fuel false (entry.name :: seen) (entry.store record) rest := by
  rw [readMembers, skipSpace_append allSpace (stops_cons.2 (by decide))]
  simp [skipSpace_cons (c := '"') (by decide), readChars_memberText, known, fresh,
    readMemberValue_entry entry record level stops, bind, Except.bind]

/-- A member after a comma is stored, if it is known and was not stored before. -/
theorem readMembers_next (fuel : Nat) (record : σ) (allSpace : AllSpace blanks)
    (known : MemberReader.find? fields entry.name = some entry.field) (fresh : entry.name ∉ seen)
    (stops : Stops isNumberRest rest) :
    readMembers fields (fuel + 1) false seen record
        (',' :: (blanks ++ '"' :: memberText level entry rest)) =
      readMembers fields fuel false (entry.name :: seen) (entry.store record) rest := by
  have begins : skipSpace (blanks ++ '"' :: memberText level entry rest) =
      '"' :: memberText level entry rest := skipSpace_append allSpace (stops_cons.2 (by decide))
  rw [readMembers, skipSpace_cons (by decide)]
  simp [begins, readChars_memberText, known, fresh, readMemberValue_entry entry record level stops,
    bind, Except.bind]

end Members

/-- A number does not go on where the next member or the end of a record stands. -/
theorem stops_prettyMembers (level outer : Nat) (members : List (String × Json))
    (rest : List Char) :
    Stops isNumberRest (prettyMembers level members ++ (newLine outer ++ rest)) := by
  cases members with
  | nil => exact stops_newLine outer rest
  | cons member members => exact stops_cons.2 (by decide)

/-- **The printed members are stored one after the other.** -/
theorem readMembers_prettyMembers {fields : List (MemberReader σ)} (level outer : Nat)
    {entries : List (RecordEntry σ)} (rest : List Char) (seen : List String) (record : σ)
    {fuel : Nat}
    (known : ∀ entry ∈ entries, MemberReader.find? fields entry.name = some entry.field)
    (distinct : (entries.map (·.name)).Nodup) (fresh : ∀ entry ∈ entries, entry.name ∉ seen)
    (enough : entries.length < fuel) :
    readMembers fields fuel false seen record
        (prettyMembers level (entries.map RecordEntry.member) ++
          (newLine outer ++ '\x7d' :: rest)) =
      .ok (storeAll entries record, rest) := by
  induction entries generalizing seen record fuel with
  | nil =>
    obtain ⟨fuel, rfl⟩ := Nat.exists_eq_succ_of_ne_zero (Nat.ne_of_gt enough)
    exact readMembers_close fuel false seen record (allSpace_newLine outer) rest
  | cons entry entries ih =>
    obtain ⟨fuel, rfl⟩ := Nat.exists_eq_succ_of_ne_zero (Nat.ne_of_gt (Nat.zero_lt_of_lt enough))
    obtain ⟨knownFirst, known⟩ := List.forall_mem_cons.1 known
    obtain ⟨freshFirst, fresh⟩ := List.forall_mem_cons.1 fresh
    -- a name counts as seen from here on; the later members have other names
    have stillFresh : ∀ other ∈ entries, other.name ∉ entry.name :: seen := by
      intro other member
      exact List.not_mem_cons_of_ne_of_not_mem (name_ne_of_mem distinct member)
        (fresh other member)
    have stops := stops_prettyMembers level outer (entries.map RecordEntry.member) ('\x7d' :: rest)
    have step :=
      readMembers_next level fuel record (allSpace_newLine level) knownFirst freshFirst stops
    rw [ih (entry.name :: seen) (entry.store record) known (List.nodup_cons.1 distinct).2
      stillFresh (Nat.lt_of_succ_lt_succ enough)] at step
    simpa [prettyMembers, RecordEntry.member, memberText, quote, storeAll] using step

theorem length_le_prettyMembers (level : Nat) (members : List (String × Json)) :
    members.length ≤ (prettyMembers level members).length := by
  induction members with
  | nil => exact Nat.zero_le _
  | cons member members ih =>
    simp only [prettyMembers, List.length_cons, List.length_append]
    omega

theorem readRecord_open {fields : List (MemberReader σ)} {blanks : List Char}
    (allSpace : AllSpace blanks) (defaults : σ) (rest : List Char) :
    readRecord fields defaults (blanks ++ '\x7b' :: rest) =
      readMembers fields ((blanks ++ '\x7b' :: rest).length + 1) true [] defaults rest := by
  rw [readRecord, skipSpace_append allSpace (stops_cons.2 (by decide))]
  rfl

/-- **A record of printed members is read back**: it is the defaults with every member
stored. -/
theorem recovers_record {entries : List (RecordEntry σ)} (distinct : (entries.map (·.name)).Nodup)
    (defaults : σ) :
    Recovers (readRecord (entries.map RecordEntry.field) defaults)
      (.object (entries.map RecordEntry.member)) (storeAll entries defaults) := by
  intro level
  have known := @find?_field σ entries distinct
  cases entries with
  | nil =>
    have isText : prettyChars level (.object (List.map (@RecordEntry.member σ) [])) =
        '\x7b' :: ['\x7d'] := by rw [List.map_nil, prettyChars]
    refine ⟨⟨'\x7b', _, isText, by decide, by decide⟩, fun {blanks rest} allSpace _ => ?_⟩
    rw [isText, List.cons_append, readRecord_open allSpace]
    exact readMembers_close _ true [] defaults (List.forall_mem_nil _) rest
  | cons entry entries =>
    have isText : prettyChars level (.object ((entry :: entries).map RecordEntry.member)) =
        '\x7b' :: (newLine (level + 1) ++ '"' :: memberText (level + 1) entry
          (prettyMembers (level + 1) (entries.map RecordEntry.member) ++
            (newLine level ++ ['\x7d']))) := by
      simp [prettyChars, RecordEntry.member, memberText, quote]
    refine ⟨⟨'\x7b', _, isText, by decide, by decide⟩, fun {blanks rest} allSpace _ => ?_⟩
    rw [isText, List.cons_append, readRecord_open allSpace]
    have isRest : newLine (level + 1) ++ '"' :: memberText (level + 1) entry
        (prettyMembers (level + 1) (entries.map RecordEntry.member) ++
          (newLine level ++ ['\x7d'])) ++ rest =
        newLine (level + 1) ++ '"' :: memberText (level + 1) entry
          (prettyMembers (level + 1) (entries.map RecordEntry.member) ++
            (newLine level ++ '\x7d' :: rest)) := by simp [memberText]
    rw [isRest, readMembers_first _ _ defaults (allSpace_newLine _) (known List.mem_cons_self)
      List.not_mem_nil (stops_prettyMembers _ _ _ _)]
    refine readMembers_prettyMembers _ _ rest _ _
      (fun _ member => known (List.mem_cons_of_mem entry member))
      (List.nodup_cons.1 distinct).2 (fun _ member => ?_) ?_
    · exact List.not_mem_cons_of_ne_of_not_mem (name_ne_of_mem distinct member) List.not_mem_nil
    · have printed := length_le_prettyMembers (level + 1) (entries.map RecordEntry.member)
      simp only [memberText, List.length_append, List.length_cons, List.length_map] at printed ⊢
      omega

end Records

end ExportAudit.Json
