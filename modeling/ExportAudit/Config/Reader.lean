import ExportAudit.Config.Basic
import ExportAudit.Json.Reader

/-!
# Reading a configuration

A configuration is read member by member onto the defaults, so a member that is
absent keeps its default whatever else is present.  The compiler's part is a record
of its own and is read in the same way.
-/

namespace ExportAudit.Config

set_option autoImplicit false

open ExportAudit.Json

/-- A member whose value one reader reads and one function stores. -/
def member {σ α : Type} (name : String) (reader : Reader α) (store : σ → α → σ) : MemberReader σ :=
  { name
    read := fun record text => (reader text).map fun (value, rest) => (store record value, rest) }

/-- The members of the compiler's part. -/
def compilerFields : List (MemberReader CompilerConfig) := [
  member "path" readString fun c value => { c with path := value },
  member "args" (readArray readString) fun c value => { c with args := value },
  member "timeoutSecs" readUnsigned fun c value => { c with timeoutSecs := value },
  member "allowedExitCodes" (readArray readSigned) fun c value =>
    { c with allowedExitCodes := value }]

/-- Reads the compiler's part. -/
def readCompiler : Reader CompilerConfig :=
  readRecord compilerFields {}

/-- The members of a configuration. -/
def fields : List (MemberReader Config) := [
  member "srcDir" readString fun c value => { c with srcDir := value },
  member "testDir" readString fun c value => { c with testDir := value },
  member "moduleExtension" readString fun c value => { c with moduleExtension := value },
  member "testFilePattern" readString fun c value => { c with testFilePattern := value },
  member "excludeModules" (readArray readString) fun c value => { c with excludeModules := value },
  member "ignores" (readArray readString) fun c value => { c with ignores := value },
  member "namespace" readString fun c value => { c with qualifier := value },
  member "nestedNamespaces" (readArray readString) fun c value =>
    { c with nestedNamespaces := value },
  member "correlationWindow" readUnsigned fun c value => { c with correlationWindow := value },
  member "contextTokens" readUnsigned fun c value => { c with contextTokens := value },
  member "compiler" readCompiler fun c value => { c with compiler := value }]

/-- Reads the text of a configuration file. -/
def read (text : String) : Except Fault Config :=
  readAll (readRecord fields {}) text

end ExportAudit.Config
