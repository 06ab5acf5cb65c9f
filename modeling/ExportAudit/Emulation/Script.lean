import ExportAudit.Text.Word

/-!
# Shell scripts

A script is a list of commands joined by pipes, by the two conditional connectives,
and by semicolons or line ends.  Besides simple commands there are groups, loops,
conditionals and choices.  A word is a sequence of parts: text, which may be quoted,
expansions of variables, of which one removes a path's directories, arithmetic, and
the output of other scripts.

Reading has two steps, words first and commands second, and both are recursions
whose fuel is the length of what is left to read.

Scripts are here because one can stand in the place of a compiler.  No result rests on them.
-/

namespace ExportAudit.Emulation

set_option autoImplicit false

open ExportAudit.Text

/-! ## Words -/

/-- A part of a word. -/
inductive WordPart where
  | text (characters : List Char) (quoted : Bool)
  | variable (name : String) (quoted : Bool)
  /-- A variable without the longest lead that ends in a given character. -/
  | afterLast (name : String) (mark : Char) (quoted : Bool)
  /-- What a script prints. -/
  | output (script : String) (quoted : Bool)
  /-- The value of an expression. -/
  | arithmetic (expression : List Char)
  deriving DecidableEq, Repr

/-- A word before expansion. -/
abbrev Word := List WordPart

/-- Where a redirection leads. -/
inductive RedirectTarget where
  | descriptor (number : Nat)
  | file (word : Word)
  /-- Lines of the script itself. -/
  | inline (word : Word)
  deriving DecidableEq, Repr

/-- A token of a script. -/
inductive ScriptToken where
  | word (word : Word)
  | operator (text : String)
  | redirect (descriptor : Nat) (target : RedirectTarget)
  deriving DecidableEq, Repr

/-- The names that stand for something the shell itself provides. -/
def isSpecialName (c : Char) : Bool :=
  c == '@' || c == '*' || c == '#' || c == '?' || c == '$' || isAsciiDigit c

/-- The text up to the parenthesis that closes some open ones, and what follows it. -/
def readParenthesized : Nat → List Char → List Char × List Char
  | _, [] => ([], [])
  | depth, c :: rest =>
    if c = ')' ∧ depth = 0 then ([], rest)
    else
      let inner := if c = '(' then depth + 1 else if c = ')' then depth - 1 else depth
      let (inside, tail) := readParenthesized inner rest
      (c :: inside, tail)

/-- The expansion after a dollar sign, and what follows it. -/
def readExpansion (quoted : Bool) (text : List Char) : WordPart × List Char :=
  match text with
  | '(' :: '(' :: rest =>
    let (inside, tail) := readParenthesized 0 rest
    (.arithmetic inside, tail.drop 1)
  | '(' :: rest =>
    let (inside, tail) := readParenthesized 0 rest
    (.output (String.ofList inside) quoted, tail)
  | '\x7b' :: rest =>
    let name := String.ofList (rest.takeWhile isIdentRest)
    let inside := rest.dropWhile isIdentRest |>.takeWhile (· != '\x7d')
    let tail := (rest.dropWhile (· != '\x7d')).drop 1
    match inside with
    | ['#', '#', '*', mark] => (.afterLast name mark quoted, tail)
    | _ => (.variable name quoted, tail)
  | c :: rest =>
    if isSpecialName c then (.variable (String.singleton c) quoted, rest)
    else if isIdentStart c then
      (.variable (String.ofList (text.takeWhile isIdentRest)) quoted, text.dropWhile isIdentRest)
    else (.text ['$'] quoted, text)
  | [] => (.text ['$'] quoted, [])

/-- The parts of quoted text in which expansions count, up to a closing quote or to the
end, and what follows. -/
def readExpanding (closer : Option Char) : Nat → List Char → Word × List Char
  | 0, text => ([], text)
  | _ + 1, [] => ([], [])
  | fuel + 1, c :: rest =>
    if closer = some c then ([], rest)
    else if c = '$' then
      let (part, tail) := readExpansion true rest
      let (parts, tail) := readExpanding closer fuel tail
      (part :: parts, tail)
    else if c = '\x60' then
      let script := String.ofList (rest.takeWhile (· != '\x60'))
      let (parts, tail) := readExpanding closer fuel ((rest.dropWhile (· != '\x60')).drop 1)
      (.output script true :: parts, tail)
    else if c = '\\' then
      match rest with
      | d :: rest =>
        let (parts, tail) := readExpanding closer fuel rest
        let kept := if d = '"' ∨ d = '\\' ∨ d = '$' ∨ d = '\x60' then [d] else [c, d]
        (.text kept true :: parts, tail)
      | [] => ([.text [c] true], [])
    else
      let (parts, tail) := readExpanding closer fuel rest
      (.text [c] true :: parts, tail)

/-- A character that ends an unquoted word. -/
def endsWord (c : Char) : Bool :=
  c == ' ' || c == '\t' || c == '\n' || c == ';' || c == '&' || c == '|' || c == '>' || c == '<' ||
    c == '(' || c == ')'

/-- The parts of a word, and what follows it. -/
def readWordParts : Nat → List Char → Word × List Char
  | 0, text => ([], text)
  | _ + 1, [] => ([], [])
  | fuel + 1, c :: rest =>
    if endsWord c then ([], c :: rest)
    else if c = '\'' then
      let inside := rest.takeWhile (· != '\'')
      let (parts, tail) := readWordParts fuel ((rest.dropWhile (· != '\'')).drop 1)
      (.text inside true :: parts, tail)
    else if c = '"' then
      let (inside, tail) := readExpanding (some '"') fuel rest
      let (parts, tail) := readWordParts fuel tail
      (.text [] true :: inside ++ parts, tail)
    else if c = '\\' then
      match rest with
      | d :: rest =>
        let (parts, tail) := readWordParts fuel rest
        (.text [d] true :: parts, tail)
      | [] => ([.text [c] false], [])
    else if c = '$' then
      let (part, tail) := readExpansion false rest
      let (parts, tail) := readWordParts fuel tail
      (part :: parts, tail)
    else if c = '\x60' then
      let script := String.ofList (rest.takeWhile (· != '\x60'))
      let (parts, tail) := readWordParts fuel ((rest.dropWhile (· != '\x60')).drop 1)
      (.output script false :: parts, tail)
    else
      let (parts, tail) := readWordParts fuel rest
      (.text [c] false :: parts, tail)

/-- The redirection after its arrow, and what follows it. -/
def readRedirect (fuel descriptor : Nat) (text : List Char) : ScriptToken × List Char :=
  let digits := (text.drop 1).takeWhile isAsciiDigit
  if text.head? = some '&' ∧ digits ≠ [] then
    (.redirect descriptor (.descriptor ((String.ofList digits).toNat?.getD 1)),
      text.drop (1 + digits.length))
  else
    let (parts, tail) := readWordParts fuel (text.dropWhile fun c => c == '>' || c == ' ')
    (.redirect descriptor (.file parts), tail)

/-- Lines up to one that equals a mark, and what follows that line; the fuel bounds
their number. -/
def linesUntil (mark : List Char) : Nat → List Char → List Char × List Char
  | 0, text => ([], text)
  | _ + 1, [] => ([], [])
  | fuel + 1, text =>
    let line := text.takeWhile (· != '\n')
    let rest := (text.dropWhile (· != '\n')).drop 1
    if line = mark then ([], rest)
    else
      let (inside, tail) := linesUntil mark fuel rest
      (line ++ '\n' :: inside, tail)

/-- The text of a word whatever its quotes, and whether it has any. -/
def markOf (word : Word) : List Char × Bool :=
  (word.flatMap fun part => match part with
    | .text characters _ => characters
    | _ => [],
   word.any fun part => match part with
    | .text _ quoted => quoted
    | _ => false)

/-- The redirection from lines of the script that follow the current one, and what is
left to read: the rest of the current line, and what follows those lines. -/
def readInline (fuel : Nat) (text : List Char) : ScriptToken × List Char :=
  let (word, tail) := readWordParts fuel (text.dropWhile (· == ' '))
  let (mark, quoted) := markOf word
  let current := tail.takeWhile (· != '\n')
  let (inside, after) := linesUntil mark fuel ((tail.dropWhile (· != '\n')).drop 1)
  let content := if quoted then [.text inside true] else (readExpanding none fuel inside).1
  (.redirect 0 (.inline content), current ++ '\n' :: after)

/-- The tokens of a script. -/
def scriptTokens : Nat → List Char → List ScriptToken
  | 0, _ => []
  | _ + 1, [] => []
  | fuel + 1, c :: rest =>
    if c = ' ' ∨ c = '\t' then scriptTokens fuel rest
    else if c = '#' then scriptTokens fuel (rest.dropWhile (· != '\n'))
    else if c = ';' ∧ rest.head? = some ';' then
      .operator ";;" :: scriptTokens fuel (rest.drop 1)
    else if c = '\n' ∨ c = ';' then .operator ";" :: scriptTokens fuel rest
    else if c = '&' ∧ rest.head? = some '&' then .operator "&&" :: scriptTokens fuel (rest.drop 1)
    else if c = '|' ∧ rest.head? = some '|' then .operator "||" :: scriptTokens fuel (rest.drop 1)
    else if c = '|' then .operator "|" :: scriptTokens fuel rest
    else if c = '>' then
      let (token, tail) := readRedirect fuel 1 rest
      token :: scriptTokens fuel tail
    else if c = '<' ∧ rest.head? = some '<' then
      let (token, tail) := readInline fuel (rest.drop 1)
      token :: scriptTokens fuel tail
    else if c = '<' then
      let (token, tail) := readRedirect fuel 0 rest
      token :: scriptTokens fuel tail
    else if isAsciiDigit c ∧ rest.head? = some '>' then
      let (token, tail) := readRedirect fuel (c.toNat - 48) (rest.drop 1)
      token :: scriptTokens fuel tail
    else
      let (parts, tail) := readWordParts fuel (c :: rest)
      if parts.isEmpty then .operator (String.singleton c) :: scriptTokens fuel rest
      else .word parts :: scriptTokens fuel tail

/-! ## Commands -/

/-- A command. -/
inductive Command where
  | nothing
  /-- Assignments, words and redirections. -/
  | simple (assignments : List (String × Word)) (words : List Word)
      (redirects : List (Nat × RedirectTarget))
  | pipe (left right : Command)
  /-- The second runs if the first succeeds. -/
  | both (left right : Command)
  /-- The second runs if the first fails. -/
  | either (left right : Command)
  | sequence (left right : Command)
  /-- The status of the body turned around. -/
  | negated (body : Command)
  /-- Commands with redirections of their own, perhaps in a shell of their own. -/
  | grouped (ownShell : Bool) (body : Command) (redirects : List (Nat × RedirectTarget))
  /-- The body runs for each word, or for each parameter. -/
  | forEach (name : String) (words : Option (List Word)) (body : Command)
  /-- The body runs as long as the test succeeds, or as long as it fails. -/
  | repeated (whileTrue : Bool) (test body : Command)
  | conditional (test yes no : Command)
  /-- The body runs if the word fits a pattern, the other command otherwise. -/
  | choice (word : Word) (patterns : List Word) (body otherwise : Command)

/-- The bare text of a word without quotes and expansions. -/
def bareText? : Word → Option (List Char)
  | [] => some []
  | .text characters false :: rest => (bareText? rest).map (characters ++ ·)
  | _ => none

/-- The word of a token, if it is the given bare word. -/
def isBareWord (text : String) : ScriptToken → Bool
  | .word word => bareText? word == some text.toList
  | _ => false

/-- An assignment: a name, an equals sign, and a value. -/
def assignment? (word : Word) : Option (String × Word) :=
  let lead := word.takeWhile fun part => match part with
    | .text [c] false => isIdentRest c
    | _ => false
  let name := (bareText? lead).getD []
  match word.drop lead.length with
  | .text ['='] false :: value =>
    if isIdentifier name then some (String.ofList name, value) else none
  | _ => none

/-- Passes over separators. -/
def skipSeparators (tokens : List ScriptToken) : List ScriptToken :=
  tokens.dropWhile (· == .operator ";")

/-- The assignments, words and redirections of a simple command. -/
def readSimple : Nat → List (String × Word) → List Word → List (Nat × RedirectTarget) →
    List ScriptToken → Command × List ScriptToken
  | fuel + 1, assignments, words, redirects, .word word :: rest =>
    match words, assignment? word with
    | [], some assignment => readSimple fuel (assignments ++ [assignment]) words redirects rest
    | _, _ => readSimple fuel assignments (words ++ [word]) redirects rest
  | fuel + 1, assignments, words, redirects, .redirect descriptor target :: rest =>
    readSimple fuel assignments words (redirects ++ [(descriptor, target)]) rest
  | _, assignments, words, redirects, tokens => (.simple assignments words redirects, tokens)

/-- The words at the head of some tokens, and what follows them. -/
def leadingWords : List ScriptToken → List Word × List ScriptToken
  | .word word :: rest =>
    let (words, tail) := leadingWords rest
    (word :: words, tail)
  | tokens => ([], tokens)

/-- The words that a loop names, if it names any, and what follows them. -/
def loopWords : List ScriptToken → Option (List Word) × List ScriptToken
  | head :: tail =>
    if isBareWord "in" head then
      let (words, rest) := leadingWords tail
      (some words, rest)
    else (none, head :: tail)
  | [] => (none, [])

/-- The redirections at the head of some tokens, and what follows them. -/
def leadingRedirects : List ScriptToken → List (Nat × RedirectTarget) × List ScriptToken
  | .redirect descriptor target :: rest =>
    let (redirects, tail) := leadingRedirects rest
    ((descriptor, target) :: redirects, tail)
  | tokens => ([], tokens)

/-- A compound command with the redirections that follow it. -/
def withRedirects (body : Command) (tokens : List ScriptToken) : Command × List ScriptToken :=
  match leadingRedirects tokens with
  | ([], tokens) => (body, tokens)
  | (redirects, tokens) => (.grouped false body redirects, tokens)

/-- Expects a bare word or an operator. -/
def expectToken (text : String) : List ScriptToken → Option (List ScriptToken)
  | token :: rest =>
    if isBareWord text token ∨ token = .operator text then some rest else none
  | [] => none

/-- The patterns of a case up to its parenthesis, and what follows it. -/
def casePatterns : List ScriptToken → Option (List Word × List ScriptToken)
  | .word word :: .operator ")" :: rest => some ([word], rest)
  | .word word :: .operator "|" :: rest =>
    (casePatterns rest).map fun (words, rest) => (word :: words, rest)
  | _ => none

mutual
/-- A list of commands up to a word or operator that closes it, or to the end. -/
def readList : Nat → List String → List ScriptToken → Option (Command × List ScriptToken)
  | 0, _, _ => none
  | fuel + 1, closers, tokens =>
    match skipSeparators tokens with
    | [] => some (.nothing, [])
    | token :: rest =>
      if closers.any fun closer => isBareWord closer token ∨ token = .operator closer then
        some (.nothing, token :: rest)
      else do
        let (first, tokens) ← readConditionals fuel (token :: rest)
        let (others, tokens) ← readList fuel closers tokens
        some (.sequence first others, tokens)

/-- Pipelines joined by conditional connectives. -/
def readConditionals : Nat → List ScriptToken → Option (Command × List ScriptToken)
  | 0, _ => none
  | fuel + 1, tokens => do
    let (first, tokens) ← readPipeline fuel tokens
    continueConditionals fuel first tokens

/-- The conditional connectives after a command. -/
def continueConditionals : Nat → Command → List ScriptToken → Option (Command × List ScriptToken)
  | 0, _, _ => none
  | fuel + 1, left, tokens =>
    match tokens with
    | .operator "&&" :: rest => do
      let (right, tokens) ← readPipeline fuel (skipSeparators rest)
      continueConditionals fuel (.both left right) tokens
    | .operator "||" :: rest => do
      let (right, tokens) ← readPipeline fuel (skipSeparators rest)
      continueConditionals fuel (.either left right) tokens
    | _ => some (left, tokens)

/-- Commands joined by pipes. -/
def readPipeline : Nat → List ScriptToken → Option (Command × List ScriptToken)
  | 0, _ => none
  | fuel + 1, tokens =>
    match expectToken "!" tokens with
    | some tokens => (readPipeline fuel tokens).map fun (body, tokens) => (.negated body, tokens)
    | none => do
      let (first, tokens) ← readCommand fuel tokens
      match tokens with
      | .operator "|" :: rest =>
        let (others, tokens) ← readPipeline fuel (skipSeparators rest)
        some (.pipe first others, tokens)
      | _ => some (first, tokens)

/-- One command: a compound one or a simple one. -/
def readCommand : Nat → List ScriptToken → Option (Command × List ScriptToken)
  | 0, _ => none
  | _ + 1, [] => none
  | fuel + 1, token :: rest =>
    if isBareWord "for" token then
      match rest with
      | .word name :: rest => do
        let name ← bareText? name
        let (items, rest) := loopWords rest
        let rest ← expectToken "do" (skipSeparators rest)
        let (body, tokens) ← readList fuel ["done"] rest
        some (withRedirects (.forEach (String.ofList name) items body)
          (← expectToken "done" tokens))
      | _ => none
    else if isBareWord "while" token ∨ isBareWord "until" token then do
      let (test, tokens) ← readList fuel ["do"] rest
      let (body, tokens) ← readList fuel ["done"] (← expectToken "do" tokens)
      some (withRedirects (.repeated (isBareWord "while" token) test body)
        (← expectToken "done" tokens))
    else if isBareWord "if" token then do
      let (command, tokens) ← readBranches fuel rest
      some (withRedirects command (← expectToken "fi" tokens))
    else if isBareWord "case" token then
      match rest with
      | .word word :: rest => do
        let rest ← expectToken "in" (skipSeparators rest)
        let (command, tokens) ← readCases fuel word rest
        some (withRedirects command (← expectToken "esac" tokens))
      | _ => none
    else if isBareWord "\x7b" token then do
      let (body, tokens) ← readList fuel ["\x7d"] rest
      some (withRedirects body (← expectToken "\x7d" tokens))
    else
      match token with
      | .operator "(" => do
        let (body, tokens) ← readList fuel [")"] rest
        let (redirects, tokens) := leadingRedirects (← expectToken ")" tokens)
        some (.grouped true body redirects, tokens)
      | .operator _ => none
      | _ => some (readSimple (rest.length + 2) [] [] [] (token :: rest))

/-- The tests and branches of a conditional up to its end. -/
def readBranches : Nat → List ScriptToken → Option (Command × List ScriptToken)
  | 0, _ => none
  | fuel + 1, tokens => do
    let (test, tokens) ← readList fuel ["then"] tokens
    let (yes, tokens) ← readList fuel ["elif", "else", "fi"] (← expectToken "then" tokens)
    match expectToken "elif" tokens, expectToken "else" tokens with
    | some tokens, _ =>
      let (no, tokens) ← readBranches fuel tokens
      some (.conditional test yes no, tokens)
    | none, some tokens =>
      let (no, tokens) ← readList fuel ["fi"] tokens
      some (.conditional test yes no, tokens)
    | none, none => some (.conditional test yes .nothing, tokens)

/-- The cases of a choice up to its end. -/
def readCases : Nat → Word → List ScriptToken → Option (Command × List ScriptToken)
  | 0, _, _ => none
  | fuel + 1, word, tokens =>
    let tokens := skipSeparators tokens
    if (expectToken "esac" tokens).isSome then some (.nothing, tokens)
    else do
      let (patterns, tokens) ← casePatterns ((expectToken "(" tokens).getD tokens)
      let (body, tokens) ← readList fuel [";;", "esac"] tokens
      let (otherwise, tokens) ← readCases fuel word ((expectToken ";;" tokens).getD tokens)
      some (.choice word patterns body otherwise, tokens)
end

/-- Reads a script. -/
def readScript (text : String) : Option Command :=
  let tokens := scriptTokens (2 * text.length + 2) text.toList
  match readList (8 * tokens.length + 8) [] tokens with
  | some (command, []) => some command
  | _ => none

end ExportAudit.Emulation
