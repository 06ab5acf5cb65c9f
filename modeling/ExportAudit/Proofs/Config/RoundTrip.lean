import ExportAudit.Config.Reader
import ExportAudit.Proofs.Json.Records

/-!
# A configuration survives its file

A configuration is printed from a list of members and read from another list.  Nothing
but their names ties the two together, and a name that only one of them has would be
passed over when read, with the default left in place of the value.

The entries below list each record's members once, with what they print and what they
store.  The members that are printed and those that are known are both the entries', so
no member falls back on its default, and **a configuration that is printed and read back
is the same in every member,** whether or not it is one that passes validation.
-/

namespace ExportAudit.Config

set_option autoImplicit false

open ExportAudit.Json ExportAudit.Text

section Entries

variable {σ α : Type} {reader : Reader α} {printed : Json} {value : α}

/-- A member recovers its value into the record. -/
theorem recovers_member (name : String) (store : σ → α → σ)
    (recovers : Recovers reader printed value) (record : σ) :
    Recovers ((member name reader store).read record) printed (store record value) :=
  fun level =>
    { opens := (recovers level).opens
      reads := fun allSpace stops => by
        simp only [member, (recovers level).reads allSpace stops]
        rfl }

/-- The entry of a member whose value is recovered. -/
def entry (name : String) (store : σ → α → σ) (recovers : Recovers reader printed value) :
    RecordEntry σ :=
  { name
    read := (member name reader store).read
    printed
    store := fun record => store record value
    recovers := recovers_member name store recovers }

end Entries

/-! ## The compiler's part -/

/-- The members of the compiler's part, printed and read. -/
def compilerEntries (compiler : CompilerConfig) : List (RecordEntry CompilerConfig) := [
  entry "path" (fun c value => { c with path := value }) (recovers_string compiler.path),
  entry "args" (fun c value => { c with args := value })
    (recovers_array recovers_string compiler.args),
  entry "timeoutSecs" (fun c value => { c with timeoutSecs := value })
    (recovers_unsigned compiler.timeoutSecs),
  entry "allowedExitCodes" (fun c value => { c with allowedExitCodes := value })
    (recovers_array recovers_signed compiler.allowedExitCodes)]

/-- **The compiler's part is read back from its printed form.** -/
theorem recovers_compiler (compiler : CompilerConfig) :
    Recovers readCompiler (compilerJson compiler) compiler := by
  have known : compilerFields = (compilerEntries compiler).map RecordEntry.field := rfl
  have isPrinted : compilerJson compiler =
      .object ((compilerEntries compiler).map RecordEntry.member) := rfl
  have distinct : ((compilerEntries compiler).map (·.name)).Nodup := by
    simp [compilerEntries, entry]
  rw [readCompiler, known, isPrinted]
  exact recovers_record distinct {}

/-! ## The whole configuration -/

/-- The members of a configuration, printed and read. -/
def entries (config : Config) : List (RecordEntry Config) := [
  entry "srcDir" (fun c value => { c with srcDir := value }) (recovers_string config.srcDir),
  entry "testDir" (fun c value => { c with testDir := value }) (recovers_string config.testDir),
  entry "moduleExtension" (fun c value => { c with moduleExtension := value })
    (recovers_string config.moduleExtension),
  entry "testFilePattern" (fun c value => { c with testFilePattern := value })
    (recovers_string config.testFilePattern),
  entry "excludeModules" (fun c value => { c with excludeModules := value })
    (recovers_array recovers_string config.excludeModules),
  entry "ignores" (fun c value => { c with ignores := value })
    (recovers_array recovers_string config.ignores),
  entry "namespace" (fun c value => { c with qualifier := value })
    (recovers_string config.qualifier),
  entry "nestedNamespaces" (fun c value => { c with nestedNamespaces := value })
    (recovers_array recovers_string config.nestedNamespaces),
  entry "correlationWindow" (fun c value => { c with correlationWindow := value })
    (recovers_unsigned config.correlationWindow),
  entry "contextTokens" (fun c value => { c with contextTokens := value })
    (recovers_unsigned config.contextTokens),
  entry "compiler" (fun c value => { c with compiler := value })
    (recovers_compiler config.compiler)]

/-- Storing every member leaves nothing of the defaults. -/
theorem storeAll_entries (config : Config) : storeAll (entries config) {} = config := by
  simp only [storeAll, entries, entry, List.foldl_cons, List.foldl_nil]

/-- **A configuration is read back from its printed form.** -/
theorem recovers_config (config : Config) :
    Recovers (readRecord fields {}) config.toJson config := by
  have known : fields = (entries config).map RecordEntry.field := rfl
  have isPrinted : config.toJson = .object ((entries config).map RecordEntry.member) := rfl
  have distinct : ((entries config).map (·.name)).Nodup := by simp [entries, entry]
  have recovered := recovers_record distinct {}
  rw [storeAll_entries] at recovered
  rw [known, isPrinted]
  exact recovered

/-- **The file of a configuration holds that configuration.** -/
theorem read_render (config : Config) : Config.read config.render = .ok config := by
  have isRead : readRecord fields {} (prettyChars 0 config.toJson) = .ok (config, []) := by
    simpa using (recovers_config config 0).reads (List.forall_mem_nil _) stops_nil
  have isText : config.render.toList = prettyChars 0 config.toJson := by
    simp [render, pretty]
  rw [Config.read, readAll, isText, isRead]
  rfl

end ExportAudit.Config
