import ExportAudit.Proofs.Text.Runs
import Mathlib.Data.List.DropRight

/-!
# What is left of a text when its ends are dropped

Blanks and declarators are dropped from the end of a text.  **Dropping stops at the last
character that is not of the class**, so what stands in front of such a character is kept
whole, and dropping a larger class makes up for having dropped a smaller one.

Trimming drops blanks in front as well.  A text that is not blank has a core, which neither
begins nor ends with a blank, and trimming leaves it.
-/

namespace ExportAudit.Text

set_option autoImplicit false

variable {accepts : Char → Bool} {text front : List Char}

theorem dropEndWhile_concat (accepts : Char → Bool) (front : List Char) (c : Char) :
    dropEndWhile accepts (front ++ [c]) =
      if accepts c then dropEndWhile accepts front else front ++ [c] := by
  induction front with
  | nil => cases inClass : accepts c <;> simp [dropEndWhile, inClass]
  | cons d front ih =>
    have step (rest : List Char) : dropEndWhile accepts (d :: rest) =
        if (dropEndWhile accepts rest).isEmpty && accepts d then []
        else d :: dropEndWhile accepts rest := rfl
    rw [List.cons_append, step, ih]
    split
    · rfl
    · simp

/-- What is left is what the library's dropping at the right leaves. -/
theorem dropEndWhile_eq_rdropWhile (accepts : Char → Bool) (text : List Char) :
    dropEndWhile accepts text = text.rdropWhile accepts := by
  induction text using List.reverseRecOn with
  | nil => rfl
  | append_singleton front c ih => rw [dropEndWhile_concat, List.rdropWhile_concat, ih]

theorem dropEndWhile_eq_nil_iff : dropEndWhile accepts text = [] ↔ ∀ c ∈ text, accepts c = true := by
  rw [dropEndWhile_eq_rdropWhile, List.rdropWhile_eq_nil_iff]

theorem prefix_dropEndWhile (accepts : Char → Bool) (text : List Char) :
    dropEndWhile accepts text <+: text := by
  rw [dropEndWhile_eq_rdropWhile]
  exact List.rdropWhile_prefix accepts text

theorem Stops.dropEndWhile {other : Char → Bool} (stops : Stops other text)
    (accepts : Char → Bool) : Stops other (dropEndWhile accepts text) := by
  obtain ⟨lost, -, whole⟩ := dropEndWhile_append accepts text
  cases kept : Text.dropEndWhile accepts text with
  | nil => exact stops_nil
  | cons c rest =>
    rw [← whole, kept, List.cons_append, stops_cons] at stops
    exact stops_cons.2 stops

/-- What is left does not end with the class. -/
theorem getLast_dropEndWhile (nonempty : dropEndWhile accepts text ≠ []) :
    accepts ((dropEndWhile accepts text).getLast nonempty) = false := by
  simp only [dropEndWhile_eq_rdropWhile] at nonempty ⊢
  simpa using List.rdropWhile_last_not accepts text nonempty

/-- **What ends with a character of another class is kept whole**, and of what stands behind it
the end is dropped as if it stood alone. -/
theorem dropEndWhile_append_of_last {last : Char} (other : accepts last = false)
    (front back : List Char) :
    dropEndWhile accepts (front ++ last :: back) = front ++ last :: dropEndWhile accepts back := by
  induction back using List.reverseRecOn with
  | nil => rw [dropEndWhile_concat, if_neg (by simp [other])]; rfl
  | append_singleton back c ih =>
    rw [← List.cons_append, ← List.append_assoc, dropEndWhile_concat, dropEndWhile_concat, ih]
    split
    · rfl
    · simp

/-- **Dropping a larger class makes up for having dropped a smaller one.** -/
theorem dropEndWhile_dropEndWhile {more : Char → Bool}
    (included : ∀ c, accepts c = true → more c = true) (text : List Char) :
    dropEndWhile more (dropEndWhile accepts text) = dropEndWhile more text := by
  induction text using List.reverseRecOn with
  | nil => rfl
  | append_singleton front c ih =>
    rw [dropEndWhile_concat]
    split
    · next inClass => rw [ih, dropEndWhile_concat, if_pos (included c inClass)]
    · rfl

/-! ## Trimming -/

theorem trimStart_append {pad : List Char} (blank : allBlank pad = true)
    (stops : Stops isBlank text) : trimStart (pad ++ text) = text :=
  dropWhile_run (List.all_eq_true.1 blank) stops

theorem exists_trimStart (text : List Char) :
    ∃ pad, allBlank pad = true ∧ text = pad ++ trimStart text :=
  ⟨text.takeWhile isBlank, List.all_eq_true.2 fun _ member => List.mem_takeWhile_imp member,
    List.takeWhile_append_dropWhile.symm⟩

/-- A text that neither begins nor ends with a blank is left as it is. -/
theorem trim_eq_self (begins : Stops isBlank text)
    (ends : ∀ nonempty : text ≠ [], isBlank (text.getLast nonempty) = false) : trim text = text := by
  have noBlanks : trimStart text = text := dropWhile_run (List.forall_mem_nil _) begins
  rw [trim, noBlanks, trimEnd, dropEndWhile_eq_rdropWhile, List.rdropWhile_eq_self_iff]
  intro nonempty
  simp [ends nonempty]

/-- **Trimming leaves nothing of blanks alone**, and something of every other text. -/
theorem trim_eq_nil_iff : trim text = [] ↔ allBlank text = true := by
  obtain ⟨pad, padBlank, isText⟩ := exists_trimStart text
  have sameBlank : allBlank text = allBlank (trimStart text) := by
    rw [isText, allBlank, List.all_append, ← isText]
    exact (congrArg (· && _) padBlank).trans (Bool.true_and _)
  rw [trim, trimEnd, dropEndWhile_eq_nil_iff, sameBlank, allBlank, List.all_eq_true]

/-- A text has a core: it is not empty, it neither begins nor ends with a blank, and what
stands around it is blank. -/
structure IsCore (core text : List Char) : Prop where
  nonempty : core ≠ []
  begins : ∀ c ∈ core.head?, isBlank c = false
  ends : ∀ c ∈ core.getLast?, isBlank c = false
  around : ∃ front back, allBlank front = true ∧ allBlank back = true ∧
    text = front ++ (core ++ back)

/-- **What trimming leaves of a text that is not blank is its core.** -/
theorem isCore_trim (notBlank : allBlank text = false) : IsCore (trim text) text := by
  have nonempty : trim text ≠ [] := by
    rw [ne_eq, trim_eq_nil_iff, notBlank]
    exact Bool.false_ne_true
  obtain ⟨front, frontBlank, isText⟩ := exists_trimStart text
  obtain ⟨back, backBlank, isRest⟩ := dropEndWhile_append isBlank (trimStart text)
  refine ⟨nonempty, (stops_dropWhile isBlank text).dropEndWhile isBlank, fun c last => ?_,
    front, back, frontBlank, backBlank, isText.trans (congrArg (front ++ ·) isRest.symm)⟩
  rw [List.getLast?_eq_some_getLast nonempty, Option.mem_some_iff] at last
  rw [← last]
  exact getLast_dropEndWhile nonempty

end ExportAudit.Text
