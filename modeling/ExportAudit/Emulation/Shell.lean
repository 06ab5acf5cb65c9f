import ExportAudit.Glob
import ExportAudit.Emulation.Arithmetic
import ExportAudit.Emulation.Script
import ExportAudit.Emulation.Utility

/-!
# Running scripts

A script runs command by command.  The state of a run holds the variables, the
parameters, what was printed so far on either channel, the time spent, and, once the
script has ended, how it ended: with a status or by a signal.  A state that has ended
does nothing more.

Running is a recursion on the commands.  A loop is left after a number of rounds that
no real script lives to see, and counts as having taken forever; scripts inside
scripts run to a fixed depth.  **So every script comes to its end.**

A script that runs here stands in the place of a compiler, and no result rests on what it does.
-/

namespace ExportAudit.Emulation

set_option autoImplicit false

open ExportAudit.Text

/-- How a process ended. -/
inductive Ending where
  | status (code : Nat)
  | signal
  deriving DecidableEq, Repr

/-- What was printed on a channel, the last piece first. -/
abbrev Printout := List Bytes

/-- The bytes that were printed. -/
def Printout.bytes (printout : Printout) : Bytes :=
  printout.reverse.flatten

/-- The state of a shell. -/
structure ShellState where
  tree : FileTree
  /-- The name under which the shell runs. -/
  name : String
  parameters : List String
  bindings : List (String × String) := []
  status : Nat := 0
  ending : Option Ending := none
  /-- Where the two channels lead: to the output, to the errors, or nowhere. -/
  places : Nat × Nat := (1, 2)
  input : Bytes := []
  output : Printout := []
  errors : Printout := []
  millis : Nat := 0

/-- Runs the text of a script inside another. -/
abbrev Substitute := String → ShellState → ShellState

namespace ShellState

/-! ## Expansion -/

/-- The number that stands for the shell's own process. -/
def processId : String := "1"

/-- The value of a variable or of a special name. -/
def value (state : ShellState) (name : String) : String :=
  if name = "@" ∨ name = "*" then " ".intercalate state.parameters
  else if name = "#" then toString state.parameters.length
  else if name = "?" then toString state.status
  else if name = "$" then processId
  else if name = "0" then state.name
  else match name.toNat? with
    | some place => (state.parameters[place - 1]?).getD ""
    | none => ((state.bindings.find? (·.1 == name)).map (·.2)).getD ""

/-- A variable set to a value. -/
def assign (state : ShellState) (name value : String) : ShellState :=
  { state with bindings := (name, value) :: state.bindings.filter (·.1 != name) }

/-- A text without its longest lead that ends in a character. -/
def dropThroughLast (mark : Char) (text : String) : String :=
  let tail := (text.toList.reverse.takeWhile (· != mark)).reverse
  String.ofList tail

/-- The fields of a piece of text in expansion: the field under construction, and
those finished before it. -/
abbrev Fields := List String × Option String

/-- Text that belongs to the current field. -/
def addQuoted (fields : Fields) (text : String) : Fields :=
  (fields.1, some (fields.2.getD "" ++ text))

/-- Text whose blanks end fields. -/
def addUnquoted (fields : Fields) (text : String) : Fields :=
  text.toList.foldl (fun (fields : Fields) c =>
    if c = ' ' ∨ c = '\t' ∨ c = '\n' then (fields.1 ++ fields.2.toList, none)
    else addQuoted fields (String.singleton c)) fields

/-- One field for each of some texts, the first and the last joined to what
surrounds them. -/
def addEach (fields : Fields) : List String → Fields
  | [] => fields
  | [text] => addQuoted fields text
  | text :: rest =>
    let joined := addQuoted fields text
    addEach (joined.1 ++ joined.2.toList, none) rest

/-- A text without the line ends behind it. -/
def withoutLineEnds (text : String) : String :=
  String.ofList (dropEndWhile (· == '\n') text.toList)

/-- What a script prints, without the line ends behind it. -/
def printedBy (substitute : Substitute) (state : ShellState) (script : String) : String :=
  let after := substitute script { state with output := [], places := (1, state.places.2) }
  withoutLineEnds (decodeLossy after.output.bytes)

/-- The value of a variable as a number. -/
def number (state : ShellState) (name : String) : Int :=
  (state.value name).toInt?.getD 0

/-- One part of a word added to the fields. -/
def addPart (state : ShellState) (substitute : Substitute) (fields : Fields) : WordPart → Fields
  | .text characters _ => addQuoted fields (String.ofList characters)
  | .variable name quoted =>
    if name = "@" ∧ quoted then addEach fields state.parameters
    else if quoted then addQuoted fields (state.value name)
    else addUnquoted fields (state.value name)
  | .afterLast name mark quoted =>
    let text := dropThroughLast mark (state.value name)
    if quoted then addQuoted fields text else addUnquoted fields text
  | .output script quoted =>
    let text := printedBy substitute state script
    if quoted then addQuoted fields text else addUnquoted fields text
  | .arithmetic expression =>
    addQuoted fields (toString (Arithmetic.evaluate state.number expression))

/-- The word is the quoted list of parameters alone. -/
def isParameterList : Word → Bool
  | [.text [] true, .variable "@" true] => true
  | _ => false

/-- The fields that a word expands to. -/
def expand (state : ShellState) (substitute : Substitute) (word : Word) : List String :=
  if isParameterList word then state.parameters
  else
    let fields := word.foldl (state.addPart substitute) ([], none)
    fields.1 ++ fields.2.toList

/-- The single text that a word expands to. -/
def expandOne (state : ShellState) (substitute : Substitute) (word : Word) : String :=
  " ".intercalate (state.expand substitute word)

/-! ## Simple commands -/

/-- The places after some redirections. -/
def redirected (places : Nat × Nat) (redirects : List (Nat × RedirectTarget)) : Nat × Nat :=
  redirects.foldl (fun places redirect =>
    let place := match redirect.2 with
      | .descriptor 1 => places.1
      | .descriptor 2 => places.2
      | .descriptor _ | .file _ | .inline _ => 0
    if redirect.1 = 1 then (place, places.2)
    else if redirect.1 = 2 then (places.1, place)
    else places) places

/-- The input after some redirections. -/
def redirectedInput (state : ShellState) (substitute : Substitute)
    (redirects : List (Nat × RedirectTarget)) : Bytes :=
  redirects.foldl (fun input redirect =>
    match redirect with
    | (0, .file word) =>
      ((state.tree.readBytes ⟨state.expandOne substitute word⟩).toOption).getD []
    | (0, .inline word) => encode (state.expandOne substitute word)
    | _ => input) state.input

/-- A state in which some redirections hold. -/
def redirect (state : ShellState) (substitute : Substitute)
    (redirects : List (Nat × RedirectTarget)) : ShellState :=
  { state with
    places := redirected state.places redirects
    input := state.redirectedInput substitute redirects }

/-- Bytes sent to a place. -/
def send (state : ShellState) (place : Nat) (bytes : Bytes) : ShellState :=
  if place = 1 then { state with output := bytes :: state.output }
  else if place = 2 then { state with errors := bytes :: state.errors }
  else state

/-- What a command printed, sent where the channels lead. -/
def print (state : ShellState) (output errors : Bytes) : ShellState :=
  (state.send state.places.1 output).send state.places.2 errors

/-- A shell that ends. -/
def finish (state : ShellState) (ending : Ending) : ShellState :=
  { state with ending := some ending }

/-- Sets a variable to the next line of the input. -/
def readLine (state : ShellState) (name : String) : ShellState :=
  let line := state.input.takeWhile (· != 10)
  let rest := state.input.drop (line.length + 1)
  let after := { state.assign name (decodeLossy line) with input := rest }
  { after with status := if line.length < state.input.length then 0 else 1 }

/-- Runs a command that only a shell can carry out. -/
def runBuiltin? (state : ShellState) (name : String) (args : List String) : Option ShellState :=
  match name with
  | "exit" | "return" =>
    some (state.finish (.status ((args.head?.bind String.toNat?).getD state.status % 256)))
  | "kill" =>
    some (if args.getLast? = some processId then state.finish .signal
      else { state with status := 1 })
  | "shift" => some { state with parameters := state.parameters.drop 1, status := 0 }
  | "set" =>
    some (match args with
      | "--" :: words => { state with parameters := words, status := 0 }
      | _ => { state with status := 0 })
  | "unset" =>
    some { state with
      bindings := state.bindings.filter fun binding => !args.contains binding.1
      status := 0 }
  | "export" | "trap" | "ulimit" | "umask" => some { state with status := 0 }
  | "read" => some (state.readLine (args.getLast?.getD "REPLY"))
  | _ => none

/-- Runs a utility or a command that only a shell can carry out; one that is unknown is
called by some words. -/
def runWords (state : ShellState) (called name : String) (args : List String) : ShellState :=
  match state.runBuiltin? name args with
  | some after => after
  | none =>
    match runUtility? state.tree name args state.input with
    | some result =>
      let after := state.print result.output result.errors
      { after with status := result.status, millis := after.millis + result.millis }
    | none =>
      let message := encode s!"{state.name}: 1: {called}: not found\n"
      { state.print [] message with status := 127 }

/-- A state with the channels and the input of another. -/
def restore (state before : ShellState) : ShellState :=
  { state with places := before.places, input := before.input }

/-- Runs a simple command. -/
def runSimple (state : ShellState) (substitute : Substitute)
    (assignments : List (String × Word)) (words : List Word)
    (redirects : List (Nat × RedirectTarget)) : ShellState :=
  let assigned := assignments.foldl (fun (s : ShellState) (name, word) =>
    s.assign name (s.expandOne substitute word)) state
  let prepared := assigned.redirect substitute redirects
  match words.flatMap (assigned.expand substitute) with
  | [] => { assigned with status := 0 }
  | ["exec"] => { prepared with status := 0 }
  | "exec" :: name :: args =>
    let after := prepared.runWords s!"exec: {name}" name args
    if after.ending.isSome then after else after.finish (.status after.status)
  | "read" :: args => { prepared.runWords "read" "read" args with places := state.places }
  | name :: args => (prepared.runWords name name args).restore state

/-- The rounds that a loop may take. -/
def maxRounds : Nat := 20000

/-- The time after which every run has been stopped. -/
def forever : Nat := Nat.pow 2 64 * 1000

/-- Repeats a body while a test says so. -/
def runLoop (whileTrue : Bool) (test body : ShellState → ShellState) : Nat → ShellState → ShellState
  | 0, state => { state with millis := forever, ending := some .signal }
  | rounds + 1, state =>
    if state.ending.isSome then state
    else
      let tested := test state
      if tested.ending.isSome then tested
      else if (tested.status == 0) == whileTrue then runLoop whileTrue test body rounds (body tested)
      else { tested with status := 0 }

/-- A word fits a pattern. -/
def fitsPattern (state : ShellState) (substitute : Substitute) (text : String) (pattern : Word) :
    Bool :=
  let pattern := state.expandOne substitute pattern
  match Glob.read pattern with
  | .ok parts => Glob.fits parts text.toList
  | .error _ => pattern == text

end ShellState

/-! ## Commands -/

/-- Runs a command. -/
def Command.run (substitute : Substitute) : Command → ShellState → ShellState
  | .nothing, state => state
  | .simple assignments words redirects, state =>
    if state.ending.isSome then state
    else state.runSimple substitute assignments words redirects
  | .pipe left right, state =>
    if state.ending.isSome then state
    else
      let first := left.run substitute { state with output := [], places := (1, state.places.2) }
      let second := right.run substitute
        { state with input := first.output.bytes, errors := first.errors, millis := first.millis }
      { second with
        input := state.input
        bindings := state.bindings
        parameters := state.parameters
        ending := match second.ending with
          | some .signal => some .signal
          | _ => none
        status := match second.ending with
          | some (.status code) => code
          | _ => second.status }
  | .both left right, state =>
    let first := left.run substitute state
    if first.ending.isNone && first.status == 0 then right.run substitute first else first
  | .either left right, state =>
    let first := left.run substitute state
    if first.ending.isNone && first.status != 0 then right.run substitute first else first
  | .sequence left right, state => right.run substitute (left.run substitute state)
  | .negated body, state =>
    let after := body.run substitute state
    { after with status := if after.status = 0 then 1 else 0 }
  | .grouped ownShell body redirects, state =>
    if state.ending.isSome then state
    else
      let after := (body.run substitute (state.redirect substitute redirects)).restore state
      match ownShell, after.ending with
      | true, some (.status code) =>
        { after with
          ending := none, status := code
          bindings := state.bindings, parameters := state.parameters }
      | true, _ => { after with bindings := state.bindings, parameters := state.parameters }
      | false, _ => after
  | .forEach name words body, state =>
    let items := match words with
      | some words => words.flatMap (state.expand substitute)
      | none => state.parameters
    items.foldl (fun s item =>
      if s.ending.isSome then s else body.run substitute (s.assign name item))
      { state with status := 0 }
  | .repeated whileTrue test body, state =>
    ShellState.runLoop whileTrue (test.run substitute) (body.run substitute) ShellState.maxRounds state
  | .conditional test yes no, state =>
    let tested := test.run substitute state
    if tested.ending.isSome then tested
    else if tested.status = 0 then yes.run substitute tested
    else no.run substitute { tested with status := 0 }
  | .choice word patterns body otherwise, state =>
    if state.ending.isSome then state
    else
      let text := state.expandOne substitute word
      if patterns.any (state.fitsPattern substitute text) then
        body.run substitute { state with status := 0 }
      else otherwise.run substitute state

/-- Runs the text of a script, with scripts inside scripts to a depth. -/
def runText : Nat → Substitute
  | 0, _, state => state
  | depth + 1, script, state =>
    match readScript script with
    | some command => command.run (runText depth) state
    | none => { state with status := 2 }

/-- The depth to which scripts inside scripts run. -/
def maxDepth : Nat := 8

end ExportAudit.Emulation
