import ExportAudit.CommandLine.Command

/-!
# Reading a command line

The first word names the command; the words after it are read from left to right.
Words with dashes are options and flags, and the others are values: of the option that
waits for one, or else standing alone.  After a word of two dashes all words stand
alone.

**A value is settled late.**  The option or group of words read last is kept pending
until the next known option, flag or word of its own kind is met, or the end, and only
then are its mistakes found.  A word that nobody knows is refused where it stands, and
a mistake that is still pending then is never reported.
-/

namespace ExportAudit.CommandLine

set_option autoImplicit false

open ExportAudit.Analysis ExportAudit.Report ExportAudit.Usage

/-! ## What a command takes -/

/-- The options with a value. -/
inductive ValueOption where
  | root
  | srcDir
  | testDir
  | dumpDir
  | compiler
  | format
  | strategy
  | exports
  deriving DecidableEq, Repr

/-- The options without one. -/
inductive Flag where
  | noColor
  | verbose
  | listOnly
  | help
  deriving DecidableEq, Repr

/-- How many words may stand alone. -/
inductive Capacity where
  | atMost (count : Nat)
  | unlimited
  deriving DecidableEq, Repr

/-- What may follow the name of a command. -/
structure Grammar where
  options : List (String × ValueOption)
  flags : List (String × Flag)
  letters : List (Char × Flag)
  capacity : Capacity

/-- The options that the analysing commands share. -/
def sharedOptions : List (String × ValueOption) := [
  ("root", .root), ("src-dir", .srcDir), ("test-dir", .testDir), ("dump-dir", .dumpDir),
  ("compiler", .compiler), ("format", .format)]

/-- The flags that they share. -/
def sharedFlags : List (String × Flag) :=
  [("no-color", .noColor), ("verbose", .verbose), ("help", .help)]

/-- The short forms of these flags. -/
def sharedLetters : List (Char × Flag) :=
  [('v', .verbose), ('h', .help)]

/-- What a validation takes. -/
def validateGrammar : Grammar where
  options := sharedOptions
  flags := ("list-only", .listOnly) :: sharedFlags
  letters := sharedLetters
  capacity := .unlimited

/-- What a measurement of coverage takes. -/
def coverageGrammar : Grammar where
  options := ("strategy", .strategy) :: ("exports", .exports) :: sharedOptions
  flags := sharedFlags
  letters := sharedLetters
  capacity := .atMost 2

/-- What an initialisation takes. -/
def initGrammar : Grammar where
  options := []
  flags := [("help", .help)]
  letters := [('h', .help)]
  capacity := .atMost 0

/-! ## What has been given -/

/-- The values settled so far. -/
structure Given where
  root : Option Path := none
  srcDir : Option Path := none
  testDir : Option Path := none
  dumpDir : Option Path := none
  compiler : Option String := none
  format : Option OutputFormat := none
  strategy : Option UsageStrategy := none
  exports : Option ExportsSource := none
  noColor : Bool := false
  verbose : Bool := false
  listOnly : Bool := false
  words : List Path := []
  deriving DecidableEq, Repr

/-- A path; the empty word is none. -/
def readPath (word : String) : Option Path :=
  if word.isEmpty then none else some ⟨word⟩

/-- A format by its name. -/
def readFormat (word : String) : Option OutputFormat :=
  [OutputFormat.text, .json].find? (·.label == word)

/-- A strategy by its name. -/
def readStrategy (word : String) : Option UsageStrategy :=
  [UsageStrategy.fast, .tree].find? (·.label == word)

/-- A source of exports by its name. -/
def readExports (word : String) : Option ExportsSource :=
  [ExportsSource.heuristic, .dump].find? (·.label == word)

/-- Stores a value that must be the first of its option and must make sense. -/
def once {α : Type} (earlier value : Option α) (store : α → Given) : Except UsageError Given :=
  match earlier, value with
  | some _, _ => .error .argumentConflict
  | none, none => .error .invalidValue
  | none, some value => .ok (store value)

namespace Given

/-- Settles an option. -/
def withOption (given : Given) (word : String) : ValueOption → Except UsageError Given
  | .root => once given.root (readPath word) fun value => { given with root := some value }
  | .srcDir => once given.srcDir (readPath word) fun value => { given with srcDir := some value }
  | .testDir =>
    once given.testDir (readPath word) fun value => { given with testDir := some value }
  | .dumpDir =>
    once given.dumpDir (readPath word) fun value => { given with dumpDir := some value }
  | .compiler => once given.compiler (some word) fun value => { given with compiler := some value }
  | .format => once given.format (readFormat word) fun value => { given with format := some value }
  | .strategy =>
    once given.strategy (readStrategy word) fun value => { given with strategy := some value }
  | .exports =>
    once given.exports (readExports word) fun value => { given with exports := some value }

/-- Settles a flag. -/
def withFlag (given : Given) : Flag → Except UsageError Given
  | .noColor =>
    if given.noColor then .error .argumentConflict else .ok { given with noColor := true }
  | .verbose =>
    if given.verbose then .error .argumentConflict else .ok { given with verbose := true }
  | .listOnly =>
    if given.listOnly then .error .argumentConflict else .ok { given with listOnly := true }
  | .help => .error .displayHelp

/-- Settles words that stand alone. -/
def withWords (given : Given) (words : List String) : Except UsageError Given :=
  match words.mapM readPath with
  | some paths => .ok { given with words := given.words ++ paths }
  | none => .error .invalidValue

/-- The shared options, with their defaults. -/
def common (given : Given) : CommonArguments :=
  { root := given.root.getD ⟨"."⟩
    srcDir := given.srcDir
    testDir := given.testDir
    dumpDir := given.dumpDir
    compiler := given.compiler
    noColor := given.noColor
    format := given.format.getD .text
    verbose := given.verbose }

end Given

/-! ## Reading the words of a command -/

/-- What was read last and is not settled yet. -/
inductive Pending where
  | nothing
  /-- An option that waits for its value. -/
  | waiting (option : ValueOption)
  | option (option : ValueOption) (word : String)
  | words (words : List String)
  deriving DecidableEq, Repr

/-- Where a reading stands. -/
structure Reading where
  given : Given := {}
  pending : Pending := .nothing
  /-- The word of two dashes has been met. -/
  allStandAlone : Bool := false
  deriving DecidableEq, Repr

namespace Reading

/-- Settles what is pending. -/
def settle (reading : Reading) : Except UsageError Reading :=
  let settled (result : Except UsageError Given) : Except UsageError Reading :=
    result.map fun given => { reading with given, pending := .nothing }
  match reading.pending with
  | .nothing => .ok reading
  | .waiting _ => .error .invalidValue
  | .option option word => settled (reading.given.withOption word option)
  | .words words => settled (reading.given.withWords words)

/-- The number of words that stand alone so far. -/
def wordCount (reading : Reading) : Nat :=
  reading.given.words.length +
    match reading.pending with
    | .words words => words.length
    | _ => 0

/-- Reads a word that stands alone. -/
def standAlone (grammar : Grammar) (reading : Reading) (word : String) :
    Except UsageError Reading :=
  match grammar.capacity with
  | .atMost count =>
    if count ≤ reading.wordCount then .error .unknownArgument
    else reading.settle.map fun settled => { settled with pending := .words [word] }
  | .unlimited =>
    match reading.pending with
    | .words words => .ok { reading with pending := .words (words ++ [word]) }
    | _ => reading.settle.map fun settled => { settled with pending := .words [word] }

/-- Reads a flag. -/
def flag (reading : Reading) (flag : Flag) : Except UsageError Reading := do
  let settled ← reading.settle
  let given ← settled.given.withFlag flag
  .ok { settled with given }

/-- Reads an option, with a value if one is attached. -/
def option (reading : Reading) (option : ValueOption) (attached : Option String) :
    Except UsageError Reading := do
  let settled ← reading.settle
  match attached with
  | none => .ok { settled with pending := .waiting option }
  | some word =>
    let given ← settled.given.withOption word option
    .ok { settled with given }

/-- Reads a name after two dashes. -/
def longName (grammar : Grammar) (reading : Reading) (name : String)
    (attached : Option String) : Except UsageError Reading :=
  match grammar.options.lookup name, grammar.flags.lookup name with
  | some known, _ => reading.option known attached
  | none, some known =>
    if attached.isSome then .error .tooManyValues else reading.flag known
  | none, none => .error .unknownArgument

/-- Reads letters after one dash. -/
def shortNames (grammar : Grammar) : Reading → List Char → Except UsageError Reading
  | reading, [] => .ok reading
  | reading, letter :: rest =>
    match grammar.letters.lookup letter with
    | some known => do (← reading.flag known).shortNames grammar rest
    | none => .error .unknownArgument

end Reading

/-- The shapes of a word. -/
inductive WordShape where
  /-- Two dashes alone. -/
  | dashes
  | longName (name : String) (attached : Option String)
  | shortNames (letters : List Char)
  /-- A word without dashes, or one dash alone. -/
  | plain
  deriving DecidableEq, Repr

/-- The shape of a word. -/
def WordShape.of (word : String) : WordShape :=
  match word.toList with
  | ['-', '-'] => .dashes
  | '-' :: '-' :: rest =>
    let name := String.ofList (rest.takeWhile (· != '='))
    match rest.dropWhile (· != '=') with
    | [] => .longName name none
    | _ :: value => .longName name (some (String.ofList value))
  | '-' :: letter :: rest => .shortNames (letter :: rest)
  | _ => .plain

namespace Reading

/-- Reads a word. -/
def step (grammar : Grammar) (reading : Reading) (word : String) : Except UsageError Reading :=
  if reading.allStandAlone then reading.standAlone grammar word
  else
    match WordShape.of word with
    | .dashes => .ok { reading with allStandAlone := true }
    | .longName name attached => reading.longName grammar name attached
    | .shortNames letters => reading.shortNames grammar letters
    | .plain =>
      match reading.pending with
      | .waiting option => .ok { reading with pending := .option option word }
      | _ => reading.standAlone grammar word

end Reading

/-- Reads the words after the name of a command. -/
def readWords (grammar : Grammar) (words : List String) : Except UsageError Given := do
  let reading ← words.foldlM (Reading.step grammar) {}
  return (← reading.settle).given

/-! ## Reading a command line -/

/-- The names that can stand first. -/
inductive CommandName where
  | validate
  | coverage
  | init
  | help
  deriving DecidableEq, Repr

/-- The text of a name. -/
def CommandName.label : CommandName → String
  | .validate => "validate"
  | .coverage => "coverage"
  | .init => "init"
  | .help => "help"

/-- A name by its text. -/
def CommandName.ofLabel? (word : String) : Option CommandName :=
  [CommandName.validate, .coverage, .init, .help].find? (·.label == word)

/-- A pair must be whole. -/
def pairOf : List Path → Except UsageError (Option ModulePair)
  | [] => .ok none
  | [_] => .error .missingRequiredArgument
  | modulePath :: testPath :: _ => .ok (some { modulePath, testPath })

/-- Reads the words after a name; help can be asked for on one command only. -/
def CommandName.read (words : List String) : CommandName → Except UsageError Command
  | .validate => do
    let given ← readWords validateGrammar words
    .ok (.validate { modules := given.words, listOnly := given.listOnly, common := given.common })
  | .coverage => do
    let given ← readWords coverageGrammar words
    let pair ← pairOf given.words
    .ok (.coverage
      { pair
        strategy := given.strategy.getD .fast
        exports := given.exports.getD .heuristic
        common := given.common })
  | .init => do
    let _ ← readWords initGrammar words
    .ok .init
  | .help =>
    match words with
    | [] => .error .displayHelp
    | [word] =>
      .error (if (CommandName.ofLabel? word).isSome then .displayHelp else .invalidSubcommand)
    | _ :: _ => .error .invalidSubcommand

/-- Why a first word that names no command is refused. -/
def refusedFirst (word : String) : UsageError :=
  let asked (reason : UsageError) : Option String → UsageError
    | none => reason
    | some _ => .tooManyValues
  match WordShape.of word with
  | .longName "help" attached => asked .displayHelp attached
  | .longName "version" attached => asked .displayVersion attached
  | .longName _ _ => .unknownArgument
  | .shortNames ('h' :: _) => .displayHelp
  | .shortNames ('V' :: _) => .displayVersion
  | .shortNames _ => .unknownArgument
  | .dashes | .plain => .invalidSubcommand

/-- Reads a command line; a command line without a command has none. -/
def readCommandLine : List String → Except UsageError (Option Command)
  | [] => .ok none
  | "--" :: [] => .ok none
  | "--" :: word :: _ =>
    .error (if (CommandName.ofLabel? word).isSome then .unknownArgument else .invalidSubcommand)
  | word :: words =>
    match CommandName.ofLabel? word with
    | some name => (name.read words).map some
    | none => .error (refusedFirst word)

end ExportAudit.CommandLine
