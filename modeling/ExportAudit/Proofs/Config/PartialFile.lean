import ExportAudit.Config.Reader
import ExportAudit.Proofs.Json.Merge

/-!
# Partial configuration files

A file need not have every member of the configuration, and it may have others.  What it leaves
out has its default, once for the configuration as a whole and once for the compiler's part, which
can be left out itself or be partial.

The text of a file is taken as it is: blanks, escapes, the order of the members, unknown members
with values of any shape.  **A text whose value is an object is read exactly if the configuration
is what its members say, field by field**, so members may be reordered and unknown ones put in, at
the top and in the compiler's part, and the configuration stays the same.
-/

namespace ExportAudit.Config

set_option autoImplicit false

open ExportAudit.Json ExportAudit.Text

/-! ## The members that are known -/

/-- The members of the compiler's part, with their places. -/
def compilerSlots : List (Slot CompilerConfig) := [
  ⟨"path", String, readString, Tree.string?, follows_string,
    (·.path), fun c value => { c with path := value }, fun _ _ => rfl⟩,
  ⟨"args", List String, readArray readString, Tree.list? Tree.string?,
    follows_array follows_string,
    (·.args), fun c value => { c with args := value }, fun _ _ => rfl⟩,
  ⟨"timeoutSecs", UInt64, readUnsigned, Tree.unsigned?, follows_unsigned,
    (·.timeoutSecs), fun c value => { c with timeoutSecs := value }, fun _ _ => rfl⟩,
  ⟨"allowedExitCodes", List Int32, readArray readSigned, Tree.list? Tree.signed?,
    follows_array follows_signed,
    (·.allowedExitCodes), fun c value => { c with allowedExitCodes := value }, fun _ _ => rfl⟩]

theorem compilerFields_eq : compilerFields = compilerSlots.map Slot.field := rfl

/-- The compiler's part of a tree. -/
def compiler? : Tree → Option CompilerConfig :=
  decodeRecord compilerSlots {}

theorem follows_compiler : Follows readCompiler compiler? := by
  rw [readCompiler, compilerFields_eq]
  exact follows_record compilerSlots {}

/-- A member that is a string. -/
def stringSlot (name : String) (get : Config → String) (set : Config → String → Config)
    (get_set : ∀ config value, get (set config value) = value) : Slot Config :=
  ⟨name, String, readString, Tree.string?, follows_string, get, set, get_set⟩

/-- A member that is a list of strings. -/
def stringsSlot (name : String) (get : Config → List String) (set : Config → List String → Config)
    (get_set : ∀ config value, get (set config value) = value) : Slot Config :=
  ⟨name, List String, readArray readString, Tree.list? Tree.string?, follows_array follows_string,
    get, set, get_set⟩

/-- A member that is a number without sign. -/
def unsignedSlot (name : String) (get : Config → UInt64) (set : Config → UInt64 → Config)
    (get_set : ∀ config value, get (set config value) = value) : Slot Config :=
  ⟨name, UInt64, readUnsigned, Tree.unsigned?, follows_unsigned, get, set, get_set⟩

/-- The compiler's part, which is a record of its own. -/
def compilerSlot : Slot Config :=
  ⟨"compiler", CompilerConfig, readCompiler, compiler?, follows_compiler,
    (·.compiler), fun c value => { c with compiler := value }, fun _ _ => rfl⟩

/-- The members of a configuration, with their places. -/
def slots : List (Slot Config) := [
  stringSlot "srcDir" (·.srcDir) (fun c value => { c with srcDir := value }) fun _ _ => rfl,
  stringSlot "testDir" (·.testDir) (fun c value => { c with testDir := value }) fun _ _ => rfl,
  stringSlot "moduleExtension" (·.moduleExtension)
    (fun c value => { c with moduleExtension := value }) fun _ _ => rfl,
  stringSlot "testFilePattern" (·.testFilePattern)
    (fun c value => { c with testFilePattern := value }) fun _ _ => rfl,
  stringsSlot "excludeModules" (·.excludeModules)
    (fun c value => { c with excludeModules := value }) fun _ _ => rfl,
  stringsSlot "ignores" (·.ignores) (fun c value => { c with ignores := value }) fun _ _ => rfl,
  stringSlot "namespace" (·.qualifier)
    (fun c value => { c with qualifier := value }) fun _ _ => rfl,
  stringsSlot "nestedNamespaces" (·.nestedNamespaces)
    (fun c value => { c with nestedNamespaces := value }) fun _ _ => rfl,
  unsignedSlot "correlationWindow" (·.correlationWindow)
    (fun c value => { c with correlationWindow := value }) fun _ _ => rfl,
  unsignedSlot "contextTokens" (·.contextTokens)
    (fun c value => { c with contextTokens := value }) fun _ _ => rfl,
  compilerSlot]

theorem fields_eq : fields = slots.map Slot.field := rfl

theorem independent_compilerSlots : Independent compilerSlots where
  distinct := by simp [compilerSlots]
  frame slot isSlot other isOther differs := by
    simp only [compilerSlots, List.mem_cons, List.not_mem_nil, or_false] at isSlot isOther
    rcases isSlot with rfl | rfl | rfl | rfl <;>
      rcases isOther with rfl | rfl | rfl | rfl <;>
      first
      | exact fun _ _ => rfl
      | exact absurd rfl differs
  ext {first second} same := by
    simp only [compilerSlots, List.forall_mem_cons] at same
    obtain ⟨path, args, timeoutSecs, allowedExitCodes, -⟩ := same
    cases first
    cases second
    rw [CompilerConfig.mk.injEq]
    exact ⟨path, args, timeoutSecs, allowedExitCodes⟩

theorem independent_slots : Independent slots where
  distinct := by simp [slots, stringSlot, stringsSlot, unsignedSlot, compilerSlot]
  frame slot isSlot other isOther differs := by
    simp only [slots, List.mem_cons, List.not_mem_nil, or_false] at isSlot isOther
    rcases isSlot with rfl | rfl | rfl | rfl | rfl | rfl | rfl | rfl | rfl | rfl | rfl <;>
      rcases isOther with rfl | rfl | rfl | rfl | rfl | rfl | rfl | rfl | rfl | rfl | rfl <;>
      first
      | exact fun _ _ => rfl
      | exact absurd rfl differs
  ext {first second} same := by
    simp only [slots, List.forall_mem_cons] at same
    obtain ⟨srcDir, testDir, moduleExtension, testFilePattern, excludeModules, ignores, qualifier,
      nestedNamespaces, correlationWindow, contextTokens, compiler, -⟩ := same
    cases first
    cases second
    rw [Config.mk.injEq]
    exact ⟨srcDir, testDir, moduleExtension, testFilePattern, excludeModules, ignores, qualifier,
      nestedNamespaces, correlationWindow, contextTokens, compiler⟩

theorem compilerSlot_mem : compilerSlot ∈ slots := by
  simp [slots]

/-! ## Files -/

/-- An object with blanks around it. -/
structure File where
  front : Gap
  gap : Gap
  members : List (Member Tree)
  back : Gap

/-- The text of a file. -/
def File.text (file : File) : String :=
  String.ofList
    (file.front.blanks ++ ((Tree.object file.gap file.members).text ++ file.back.blanks))

variable {config : Config} {members others inner edited : List (Member Tree)}

theorem follows_config : Follows (readRecord fields {}) (decodeRecord slots {}) := by
  rw [fields_eq]
  exact follows_record slots {}

/-- **A file is read as what its members say.** -/
theorem read_text_iff (file : File) :
    Config.read file.text = .ok config ↔ Merges slots {} file.members config := by
  rw [← independent_slots.decodeRecord_object_iff file.gap, ← toOption_eq_some_iff, Config.read,
    File.text, follows_config.readAll_text]

/-- A text that is read and begins with a brace is that of a file. -/
theorem exists_file {text : String} (isRead : Config.read text = .ok config)
    (isObject : (skipSpace text.toList).head? = some '\x7b') : ∃ file : File, file.text = text := by
  obtain ⟨front, tree, back, rfl⟩ := follows_config.exists_text isRead
  obtain ⟨c, more, isCons, opens⟩ := tree.exists_opens
  rw [String.toList_ofList, front.skipSpace_tree, isCons, List.cons_append, List.head?_cons,
    Option.some_inj] at isObject
  obtain ⟨gap, members, rfl⟩ := (isObject ▸ opens).isObject
  exact ⟨⟨front, gap, members, back⟩, rfl⟩

/-- **The compiler's part is what its own members say.** -/
theorem merges_compiler {member : Member Tree} {gap : Gap} (merges : Merges slots {} members config)
    (isMember : member ∈ members) (named : member.name? = some "compiler")
    (isPart : member.value.inner = .object gap inner) :
    Merges compilerSlots {} inner config.compiler := by
  have given := (merges.merged compilerSlot compilerSlot_mem).given member isMember named
  rw [isPart] at given
  exact (independent_compilerSlots.decodeRecord_object_iff gap).1 given

/-! ## Edits of files -/

/-- An edit of the members of a file, or of those of its compiler's part. -/
inductive FileEdit : List (Member Tree) → List (Member Tree) → Prop where
  | outer {members others : List (Member Tree)}
    (edit : Edit (slots.map (·.name)) members others) : FileEdit members others
  | compiler (front back : List (Member Tree)) {name : Spaced (List Piece)}
    {before after gap : Gap} {inner edited : List (Member Tree)}
    (named : Member.name? ⟨name, ⟨before, .object gap inner, after⟩⟩ = some "compiler")
    (edit : Edit (compilerSlots.map (·.name)) inner edited) :
    FileEdit (front ++ ⟨name, ⟨before, .object gap inner, after⟩⟩ :: back)
      (front ++ ⟨name, ⟨before, .object gap edited, after⟩⟩ :: back)

/-- Any number of edits. -/
abbrev FileEdits : List (Member Tree) → List (Member Tree) → Prop :=
  Relation.ReflTransGen FileEdit

/-- An edit leaves the configuration as it is. -/
theorem FileEdit.merges (edit : FileEdit members others)
    (merges : Merges slots {} members config) : Merges slots {} others config := by
  cases edit with
  | outer edit => exact merges.edit edit
  | @compiler front back name before after gap inner edited named edit =>
    refine merges.replace fun slot isSlot isName decoded => ?_
    rw [named, Option.some_inj] at isName
    obtain rfl := independent_slots.eq_of_name compilerSlot_mem isSlot isName.symm
    have part := (independent_compilerSlots.decodeRecord_object_iff gap).1 decoded
    exact (independent_compilerSlots.decodeRecord_object_iff gap).2 (part.edit edit)

/-- Edits leave the configuration as it is. -/
theorem FileEdits.merges (edits : FileEdits members others)
    (merges : Merges slots {} members config) : Merges slots {} others config := by
  induction edits with
  | refl => exact merges
  | tail _ edit ih => exact edit.merges ih

/-- **Partial files merge field by field.**  A text that begins with a brace and is read is the text
of a file.  However the members of the file are reordered, and whatever unknown ones are put in, at
the top or in the compiler's part, it is read as the same configuration.  Every field has the value
of its member, or its default where the member is absent, and so has every field of the compiler's
part where that is an object. -/
theorem read_partial {text : String} (isRead : Config.read text = .ok config)
    (isObject : (skipSpace text.toList).head? = some '\x7b') :
    (∃ file : File, file.text = text) ∧ ∀ file : File, file.text = text →
      (∀ other : File, FileEdits file.members other.members →
        Config.read other.text = .ok config) ∧
      (∀ slot ∈ slots, slot.Merged file.members {} config) ∧
      ∀ member ∈ file.members, member.name? = some "compiler" →
        ∀ gap inner, member.value.inner = .object gap inner →
          ∀ slot ∈ compilerSlots, slot.Merged inner {} config.compiler := by
  refine ⟨exists_file isRead isObject, ?_⟩
  rintro file rfl
  have merges := (read_text_iff file).1 isRead
  refine ⟨fun other edits => (read_text_iff other).2 (edits.merges merges), merges.merged, ?_⟩
  intro member isMember named gap inner isPart
  exact (merges_compiler merges isMember named isPart).merged

/-! ## A file without blanks -/

/-- Whether a character may stand for itself in a string. -/
def isPlain (c : Char) : Bool :=
  c ≠ '"' ∧ c ≠ '\\' ∧ ¬ c.toNat < 32

/-- A string without escapes. -/
def plainPieces (text : String) (allPlain : text.toList.all isPlain = true) : List Piece :=
  text.toList.pmap
    (fun c (plain : c ≠ '"' ∧ c ≠ '\\' ∧ ¬ c.toNat < 32) => .plain c plain.1 plain.2.1 plain.2.2)
    (fun c member => of_decide_eq_true (List.all_eq_true.1 allPlain c member))

/-- A member without blanks, under a name without escapes. -/
def tightMember (name : String) (allPlain : name.toList.all isPlain = true) (value : Tree) :
    Member Tree :=
  ⟨⟨.empty, plainPieces name allPlain, .empty⟩, ⟨.empty, value, .empty⟩⟩

/-- A member with the program of the compiler. -/
def pathMember : Member Tree :=
  tightMember "path" rfl (.string (plainPieces "cc" rfl))

/-- A member with nothing to ignore. -/
def ignoresMember : Member Tree :=
  tightMember "ignores" rfl (.array .empty [])

/-- A member with some members of the compiler's part. -/
def compilerMember (part : List (Member Tree)) : Member Tree :=
  tightMember "compiler" rfl (.object .empty part)

/-- A member that nobody knows. -/
def noteMember : Member Tree :=
  tightMember "note" rfl .null

/-- A file without blanks. -/
def tightFile (members : List (Member Tree)) : File :=
  ⟨.empty, .empty, members, .empty⟩

theorem text_pathFile :
    (tightFile [compilerMember [pathMember], ignoresMember]).text =
      "\x7b\"compiler\":\x7b\"path\":\"cc\"\x7d,\"ignores\":[]\x7d" := by
  simp only [tightFile, File.text, compilerMember, pathMember, ignoresMember, tightMember,
    Tree.text, membersText, itemsText]
  rfl

theorem text_noteFile :
    (tightFile [ignoresMember, compilerMember [noteMember, pathMember]]).text =
      "\x7b\"ignores\":[],\"compiler\":\x7b\"note\":null,\"path\":\"cc\"\x7d\x7d" := by
  simp only [tightFile, File.text, compilerMember, pathMember, noteMember, ignoresMember,
    tightMember, Tree.text, membersText, itemsText]
  rfl

/-- The two members change places, and the compiler's part gets the note. -/
theorem fileEdits_note :
    FileEdits [compilerMember [pathMember], ignoresMember]
      [ignoresMember, compilerMember [noteMember, pathMember]] := by
  have swapped : FileEdit [compilerMember [pathMember], ignoresMember]
      [ignoresMember, compilerMember [pathMember]] := .outer (.reorder (.swap _ _ _))
  have noted : FileEdit [ignoresMember, compilerMember [pathMember]]
      [ignoresMember, compilerMember [noteMember, pathMember]] :=
    .compiler [ignoresMember] [] rfl (@Edit.insert _ [] [pathMember] noteMember "note" rfl (by decide))
  exact .tail (.single swapped) noted

theorem read_partial_note :
    Config.read "\x7b\"compiler\":\x7b\"path\":\"cc\"\x7d,\"ignores\":[]\x7d" =
        .ok { compiler := { path := "cc" } } ∧
      Config.read
          "\x7b\"ignores\":[],\"compiler\":\x7b\"note\":null,\"path\":\"cc\"\x7d\x7d" =
        .ok { compiler := { path := "cc" } } := by
  have isRead : Config.read "\x7b\"compiler\":\x7b\"path\":\"cc\"\x7d,\"ignores\":[]\x7d" =
      .ok { compiler := { path := "cc" } } := by rfl
  obtain ⟨-, files⟩ := read_partial isRead rfl
  have edited := (files _ text_pathFile).1 (tightFile _) fileEdits_note
  rw [text_noteFile] at edited
  exact ⟨isRead, edited⟩

end ExportAudit.Config
