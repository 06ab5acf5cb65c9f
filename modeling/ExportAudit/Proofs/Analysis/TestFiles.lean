import ExportAudit.Proofs.Analysis.Measurement
import ExportAudit.Proofs.Path.Above
import ExportAudit.Proofs.Text.Runs

/-!
# Modules and their test files

The name of a test file is a pattern with the name of its module in every place that the
pattern holds for it.  What a name leaves behind its first place is never shorter for a
longer name.  So two names that make the same test file are equally long, and since what
stands in front of the first place is the same, **they are the same name.**  Neither several
places nor names that spell a place themselves make a difference.

A sound configuration has a pattern with a place.  The path of a test file puts its name in
the directory of tests, except for a name that makes an absolute path, which stands alone.
The names of modules hold no slash, so only the empty one can make an absolute path where
another makes a relative one, and it makes the shorter of the two.
-/

namespace ExportAudit

set_option autoImplicit false

open ExportAudit.Text

/-! ## Substitution -/

namespace Config

variable {part text : List Char}

theorem substitute_skip (part replacement : List Char) (skip : ℕ) (text : List Char) :
    substitute part replacement skip text = substitute part replacement 0 (text.drop skip) := by
  induction skip generalizing text with
  | zero => rfl
  | succ skip ih =>
    cases text with
    | nil => simp [substitute]
    | cons c rest => rw [substitute, ih, List.drop_succ_cons]

/-- A part in front of a text is replaced. -/
theorem substitute_append (nonempty : part ≠ []) (replacement rest : List Char) :
    substitute part replacement 0 (part ++ rest) =
      replacement ++ substitute part replacement 0 rest := by
  have found := after?_append part rest
  obtain ⟨c, more, rfl⟩ := List.exists_cons_of_ne_nil nonempty
  rw [List.cons_append] at found ⊢
  rw [substitute, if_pos (by simp [found]), substitute_skip]
  simp

/-- **A text in which a part occurs is cut at the first place, whatever is put there.** -/
theorem exists_substitute_eq (nonempty : part ≠ []) (occurs : occursIn part text = true) :
    ∃ front behind, ∀ replacement, substitute part replacement 0 text =
      front ++ (replacement ++ substitute part replacement 0 behind) := by
  induction text with
  | nil => exact absurd (List.isEmpty_iff.1 occurs) nonempty
  | cons c rest ih =>
    cases starts : after? part (c :: rest) with
    | some behind =>
      refine ⟨[], behind, fun replacement => ?_⟩
      rw [after?_eq_some_iff.1 starts, substitute_append nonempty, List.nil_append]
    | none =>
      rw [occursIn, starts, Option.isSome_none, Bool.false_or] at occurs
      obtain ⟨front, behind, cut⟩ := ih occurs
      refine ⟨c :: front, behind, fun replacement => ?_⟩
      rw [substitute, if_neg (by simp [starts]), cut, List.cons_append]

/-- A longer replacement makes no shorter text. -/
theorem length_substitute_le (part : List Char) {first second : List Char}
    (shorter : first.length ≤ second.length) (skip : ℕ) (text : List Char) :
    (substitute part first skip text).length ≤ (substitute part second skip text).length := by
  induction text generalizing skip with
  | nil => simp [substitute]
  | cons c rest ih =>
    cases skip with
    | succ skip => exact ih skip
    | zero =>
      rw [substitute, substitute]
      split
      · rw [List.length_append, List.length_append]
        exact Nat.add_le_add shorter (ih _)
      · exact Nat.succ_le_succ (ih 0)

/-- Equal texts have equally long replacements in the first place. -/
theorem length_eq_of_append_substitute {first second behind : List Char}
    (same : first ++ substitute part first 0 behind = second ++ substitute part second 0 behind) :
    first.length = second.length := by
  have lengths := congrArg List.length same
  rw [List.length_append, List.length_append] at lengths
  rcases Nat.le_total first.length second.length with shorter | shorter
  · have behindShorter := length_substitute_le part shorter 0 behind
    omega
  · have behindShorter := length_substitute_le part shorter 0 behind
    omega

/-- **Where a part occurs, substitution tells any two replacements apart.** -/
theorem substitute_injective (nonempty : part ≠ []) (occurs : occursIn part text = true) :
    Function.Injective fun replacement => substitute part replacement 0 text := by
  intro first second same
  obtain ⟨front, behind, cut⟩ := exists_substitute_eq nonempty occurs
  simp only [cut, List.append_cancel_left_eq] at same
  exact (List.append_inj same (length_eq_of_append_substitute same)).1

/-! ## The names of test files -/

variable {config : Config}

/-- The pattern of a sound configuration has a place for the name of a module. -/
theorem occursIn_placeholder (sound : config.unsound? = none) :
    occursIn placeholder.toList config.testFilePattern.toList = true := by
  by_contra none
  rw [Bool.not_eq_true] at none
  simp only [unsound?, none, Bool.not_false, if_true] at sound
  split at sound
  · cases sound
  · split at sound
    · cases sound
    · split at sound <;> cases sound

theorem testFileName_injective (sound : config.unsound? = none) :
    Function.Injective config.testFileName := by
  intro first second same
  have sameText := String.ofList_injective same
  exact String.toList_inj.1
    (substitute_injective (by decide) (occursIn_placeholder sound) sameText)

/-- The empty name makes the shortest name of a test file. -/
theorem length_testFileName_le (config : Config) (moduleName : String) :
    (config.testFileName "").toList.length ≤ (config.testFileName moduleName).toList.length := by
  have shorter : "".toList.length ≤ moduleName.toList.length := Nat.zero_le _
  have longer := length_substitute_le placeholder.toList shorter 0
    config.testFilePattern.toList
  simpa only [testFileName, String.toList_ofList] using longer

/-- A name without a slash makes an absolute path where another name makes none only if it
is empty. -/
theorem eq_empty_of_isAbsolute (sound : config.unsound? = none) {first second : String}
    (noSlash : '/' ∉ first.toList)
    (absolute : (Path.mk (config.testFileName first)).isAbsolute = true)
    (relative : (Path.mk (config.testFileName second)).isAbsolute = false) : first = "" := by
  obtain ⟨front, behind, cut⟩ :=
    exists_substitute_eq (by decide) (occursIn_placeholder sound)
  simp only [Path.isAbsolute, testFileName, String.toList_ofList, cut] at absolute relative
  cases front with
  | cons c front =>
    -- the same character begins both names
    rw [List.cons_append, List.head?_cons] at absolute relative
    rw [absolute] at relative
    cases relative
  | nil =>
    cases isText : first.toList with
    | nil => exact String.toList_eq_nil_iff.1 isText
    | cons c rest =>
      rw [isText, List.nil_append, List.cons_append, List.head?_cons] at absolute
      rw [isText] at noSlash
      simp_all

end Config

/-! ## The paths of test files -/

theorem Path.join_absolute {below : String} (absolute : (Path.mk below).isAbsolute = true)
    (directory : Path) : directory.join below = ⟨below⟩ :=
  if_pos absolute

/-- What a directory puts in front of a relative path is the same for every such path. -/
theorem Path.exists_join_eq (directory : Path) : ∃ front : String, ∀ below,
    (Path.mk below).isAbsolute = false → directory.join below = ⟨front ++ below⟩ := by
  by_cases ends : directory.text.isEmpty ∨ directory.text.toList.getLast? = some '/'
  · refine ⟨directory.text, fun below relative => ?_⟩
    rw [join, if_neg (by simp [relative]), if_pos ends]
  · refine ⟨directory.text ++ "/", fun below relative => ?_⟩
    rw [join, if_neg (by simp [relative]), if_neg ends]

theorem Path.mem_of_mem_stem {name : String} {c : Char}
    (member : c ∈ (splitName name).1.toList) : c ∈ name.toList := by
  rw [splitName] at member
  split at member
  · exact member
  · rw [String.toList_ofList, List.mem_reverse] at member
    exact List.mem_reverse.1 ((List.dropWhile_sublist _).subset (List.mem_of_mem_drop member))

namespace Analysis

open Config

variable {config : Config}

theorem slash_notMem_moduleName (path : Path) : '/' ∉ (moduleName path).toList := by
  rw [moduleName, Path.stem?, Path.fileName?]
  split
  · next name isLast =>
    have noSlash := Path.slash_notMem_of_mem_components (List.mem_of_getLast? isLast)
    exact fun member => noSlash (Path.mem_of_mem_stem member)
  · simp

/-- An absolute test file and a relative one have different paths, unless they have one name. -/
theorem eq_of_join_mixed (sound : config.unsound? = none) {directory : Path}
    {first second : String} (noSlash : '/' ∉ first.toList)
    (absolute : (Path.mk (config.testFileName first)).isAbsolute = true)
    (relative : (Path.mk (config.testFileName second)).isAbsolute = false)
    (same : directory.join (config.testFileName first) =
      directory.join (config.testFileName second)) : first = second := by
  obtain rfl := eq_empty_of_isAbsolute sound noSlash absolute relative
  obtain ⟨front, joined⟩ := directory.exists_join_eq
  rw [Path.join_absolute absolute, joined _ relative, Path.mk.injEq] at same
  have notLonger := length_testFileName_le config second
  rw [same, String.toList_append, List.length_append] at notLonger
  have noFront : front = "" := by
    rw [← String.toList_eq_nil_iff, ← List.length_eq_zero_iff]
    omega
  rw [noFront, String.empty_append] at same
  exact testFileName_injective sound same

theorem eq_of_join_testFileName (sound : config.unsound? = none) {directory : Path}
    {first second : String} (noSlash : '/' ∉ first.toList) (noSlash' : '/' ∉ second.toList)
    (same : directory.join (config.testFileName first) =
      directory.join (config.testFileName second)) : first = second := by
  cases absolute : (Path.mk (config.testFileName first)).isAbsolute <;>
    cases absolute' : (Path.mk (config.testFileName second)).isAbsolute
  case true.true =>
    rw [Path.join_absolute absolute, Path.join_absolute absolute', Path.mk.injEq] at same
    exact testFileName_injective sound same
  case true.false => exact eq_of_join_mixed sound noSlash absolute absolute' same
  case false.true => exact (eq_of_join_mixed sound noSlash' absolute' absolute same.symm).symm
  case false.false =>
    obtain ⟨front, joined⟩ := directory.exists_join_eq
    rw [joined _ absolute, joined _ absolute', Path.mk.injEq] at same
    refine testFileName_injective sound (String.toList_inj.1 ?_)
    simpa using congrArg String.toList same

/-- **Under a sound configuration different names make different test files, and modules of
different names are paired with different ones.** -/
theorem testFileName_separates (config : Config) (sound : config.unsound? = none) :
    (∀ first second, config.testFileName first = config.testFileName second → first = second) ∧
      ∀ setup : Setup, setup.config = config → ∀ path path',
        moduleName path ≠ moduleName path' →
          (setup.pair path).testPath ≠ (setup.pair path').testPath := by
  refine ⟨fun first second same => testFileName_injective sound same, ?_⟩
  rintro setup rfl path path' different same
  exact different (eq_of_join_testFileName sound (slash_notMem_moduleName path)
    (slash_notMem_moduleName path') same)

/-! ## A pattern with two places -/

/-- A project whose tests lie in a directory for each module. -/
def twoPlaces : Setup :=
  { oneModule with
    config := { testFilePattern := "\x7bmodule\x7d/test_\x7bmodule\x7d.cpp" } }

/-- The name of one module spells a place of the pattern. -/
theorem testFileName_separates_twoPlaces :
    twoPlaces.config.unsound? = none ∧
      twoPlaces.config.testFileName "a" ≠ twoPlaces.config.testFileName "\x7bmodule\x7d" ∧
      moduleName ⟨"src/a.cppm"⟩ ≠ moduleName ⟨"src/\x7bmodule\x7d.cppm"⟩ ∧
      (twoPlaces.pair ⟨"src/a.cppm"⟩).testPath ≠
        (twoPlaces.pair ⟨"src/\x7bmodule\x7d.cppm"⟩).testPath := by
  have sound : twoPlaces.config.unsound? = none := by decide
  have different : moduleName ⟨"src/a.cppm"⟩ ≠ moduleName ⟨"src/\x7bmodule\x7d.cppm"⟩ := by decide
  obtain ⟨names, paths⟩ := testFileName_separates twoPlaces.config sound
  refine ⟨sound, fun same => ?_, different, paths twoPlaces rfl _ _ different⟩
  exact absurd (names "a" "\x7bmodule\x7d" same) (by decide)

end Analysis

end ExportAudit
