import ExportAudit.Machine.FileTree
import ExportAudit.Text.Word

/-!
# Utilities

The few programs that scripts rely on, as functions of their arguments, their input
and the files: printing text, copying files, counting and replacing characters,
waiting, and testing.  A utility answers a status, what it prints on either channel,
and how long it takes.  They are here for scripts that stand in the place of a compiler, and
no result rests on them.
-/

namespace ExportAudit.Emulation

set_option autoImplicit false

open ExportAudit.Text

/-- Bytes. -/
abbrev Bytes := List UInt8

/-- What a utility did. -/
structure UtilityResult where
  status : Nat := 0
  output : Bytes := []
  errors : Bytes := []
  millis : Nat := 0
  deriving DecidableEq, Repr

/-! ## Printing -/

/-- The value of an octal digit. -/
def octalDigit? (c : Char) : Option Nat :=
  if '0' ≤ c && c ≤ '7' then some (c.toNat - 48) else none

/-- The byte that up to three octal digits name. -/
def octalByte (digits : List Char) : UInt8 :=
  UInt8.ofNat (digits.foldl (fun value c => value * 8 + (octalDigit? c).getD 0) 0)

/-- The byte of an escape of one letter. -/
def letterEscape? (c : Char) : Option UInt8 :=
  if c = 'n' then some 10 else if c = 't' then some 9 else if c = 'r' then some 13
  else if c = 'a' then some 7 else if c = 'b' then some 8 else if c = 'f' then some 12
  else if c = 'v' then some 11 else if c = '\\' then some 92 else none

/-- The bytes of a character. -/
def charBytes (c : Char) : Bytes :=
  encode (String.singleton c)

/-- The bytes of a text with its escapes carried out, after skipping some characters.
With `zeroFirst` an octal escape starts with a zero that does not count. -/
def unescape (zeroFirst : Bool) : Nat → List Char → Bytes
  | _, [] => []
  | skip + 1, _ :: rest => unescape zeroFirst skip rest
  | 0, c :: rest =>
    if c = '\\' then
      match rest with
      | [] => charBytes c
      | d :: more =>
        match letterEscape? d with
        | some byte => byte :: unescape zeroFirst 1 rest
        | none =>
          let digits := (((if zeroFirst then more else rest).takeWhile fun o =>
            (octalDigit? o).isSome).take 3)
          if zeroFirst then
            if d = '0' then octalByte digits :: unescape zeroFirst (1 + digits.length) rest
            else charBytes c ++ unescape zeroFirst 0 rest
          else if digits.isEmpty then charBytes c ++ unescape zeroFirst 0 rest
          else octalByte digits :: unescape zeroFirst digits.length rest
    else charBytes c ++ unescape zeroFirst 0 rest

/-- Prints its arguments, separated by blanks, with escapes carried out. -/
def echoUtility (args : List String) : UtilityResult :=
  let (newline, words) := match args with
    | "-n" :: rest => (false, rest)
    | _ => (true, args)
  let text := " ".intercalate words
  { output := unescape true 0 text.toList ++ if newline then [10] else [] }

/-- A text in which nothing is an escape. -/
def escapeFree (text : String) : List Char :=
  text.toList.flatMap fun c => if c = '\\' then ['\\', '\\'] else [c]

/-- Puts arguments into the places of a format, after skipping some characters; the
arguments that remain are answered too. -/
def fillFormat : Nat → List Char → List String → List Char × List String
  | _, [], args => ([], args)
  | skip + 1, _ :: rest, args => fillFormat skip rest args
  | 0, c :: rest, args =>
    let next := match c, rest with
      | '%', '%' :: _ => (['%'], 1, args)
      | '%', 's' :: _ => (escapeFree (args.headD ""), 1, args.drop 1)
      | '%', 'c' :: _ => (escapeFree (args.headD "") |>.take 1, 1, args.drop 1)
      | '%', 'd' :: _ => (escapeFree (args.headD "0"), 1, args.drop 1)
      | _, _ => ([c], 0, args)
    let (text, skip, args) := next
    let (filled, left) := fillFormat skip rest args
    (text ++ filled, left)

/-- Uses a format again as long as arguments remain; the fuel is their number. -/
def fillAll : Nat → List Char → List String → List Char
  | 0, format, args => (fillFormat 0 format args).1
  | fuel + 1, format, args =>
    let (filled, left) := fillFormat 0 format args
    if left.isEmpty ∨ left.length = args.length then filled
    else filled ++ fillAll fuel format left

/-- Prints a format with its arguments. -/
def printfUtility (args : List String) : UtilityResult :=
  match args with
  | [] => { status := 2 }
  | format :: values =>
    { output := unescape false 0 (fillAll values.length format.toList values) }

/-- The numbers from one to another, each on a line. -/
def seqUtility (args : List String) : UtilityResult :=
  let bounds := args.map fun arg => arg.toNat?.getD 0
  let (first, last) := match bounds with
    | [last] => (1, last)
    | first :: last :: _ => (first, last)
    | [] => (1, 0)
  { output := (List.range (last + 1 - first)).flatMap fun n => encode s!"{first + n}\n" }

/-! ## Copying -/

/-- The bytes of a file that a utility names. -/
def readNamed (tree : FileTree) (name : String) : Except FileError Bytes :=
  tree.readBytes ⟨name⟩

/-- The reason as utilities print it. -/
def plainReason : FileError → String
  | .notFound => "No such file or directory"
  | .permissionDenied => "Permission denied"
  | .notDirectory => "Not a directory"
  | .isDirectory => "Is a directory"
  | .tooManyLinks => "Too many levels of symbolic links"
  | .notText => "Invalid or incomplete multibyte or wide character"

/-- Prints files one after another, or its input if none is named. -/
def catUtility (tree : FileTree) (args : List String) (input : Bytes) : UtilityResult :=
  if args.isEmpty then { output := input }
  else args.foldl (fun result name =>
    if name = "-" then { result with output := result.output ++ input }
    else if name = "/dev/null" then result
    else match readNamed tree name with
      | .ok content => { result with output := result.output ++ content }
      | .error error =>
        { result with
          status := 1
          errors := result.errors ++ encode s!"cat: {name}: {plainReason error}\n" }) {}

/-- What an endless printer prints until its reader has gone. -/
def yesUtility (args : List String) : UtilityResult :=
  let line := if args.isEmpty then "y" else " ".intercalate args
  { output := (List.replicate 20000 (encode (line ++ "\n"))).flatten }

/-- Counts the bytes or the lines of its input. -/
def wcUtility (args : List String) (input : Bytes) : UtilityResult :=
  match args with
  | ["-c"] => { output := encode s!"{input.length}\n" }
  | ["-l"] => { output := encode s!"{input.count 10}\n" }
  | _ => { status := 1 }

/-- The first lines of some bytes. -/
def headLines : Nat → Bytes → Bytes
  | _, [] => []
  | 0, _ => []
  | count + 1, byte :: rest =>
    if byte = 10 then byte :: headLines count rest else byte :: headLines (count + 1) rest

/-- Prints the first bytes or lines of a file or of its input. -/
def headUtility (tree : FileTree) (args : List String) (input : Bytes) : UtilityResult :=
  let source (count : Nat) : List String → Except FileError Bytes
    | [] => .ok input
    | name :: _ =>
      if name = "/dev/zero" then .ok (List.replicate count 0)
      else if name = "/dev/null" then .ok []
      else readNamed tree name
  let answer (names : List String) (read : Except FileError Bytes) (cut : Bytes → Bytes) :
      UtilityResult :=
    match read with
    | .ok content => { output := cut content }
    | .error error =>
      let name := names.headD ""
      { status := 1
        errors := encode s!"head: cannot open '{name}' for reading: {plainReason error}\n" }
  match args with
  | "-c" :: count :: names =>
    let count := count.toNat?.getD 0
    answer names (source count names) (·.take count)
  | "-n" :: count :: names =>
    let count := count.toNat?.getD 0
    answer names (source 0 names) (headLines count)
  | option :: names =>
    match (option.toList.head?, (String.ofList (option.toList.drop 1)).toNat?) with
    | (some '-', some count) => answer names (source 0 names) (headLines count)
    | _ => answer args (source 0 args) (headLines 10)
  | names => answer names (source 0 names) (headLines 10)

/-- A set of bytes with its ranges written out. -/
def withRanges : Bytes → Bytes
  | first :: 45 :: last :: rest =>
    (List.range (last.toNat + 1 - first.toNat)).map (fun n => first + UInt8.ofNat n) ++
      withRanges rest
  | byte :: rest => byte :: withRanges rest
  | [] => []

/-- Replaces the bytes of one set by those of another, or deletes them. -/
def trUtility (args : List String) (input : Bytes) : UtilityResult :=
  let setOf (text : String) : Bytes := withRanges (unescape false 0 text.toList)
  match args with
  | "-d" :: set :: _ => { output := input.filter fun byte => !(setOf set).contains byte }
  | first :: second :: _ =>
    let target := setOf second
    let translate (byte : UInt8) : UInt8 :=
      match (setOf first).idxOf? byte with
      | some place => (target[place]?.or target.getLast?).getD byte
      | none => byte
    { output := input.map translate }
  | _ => { status := 1 }

/-! ## Testing -/

/-- The value of a test of one, two or three words. -/
def testSimple (tree : FileTree) : List String → Bool
  | [] => false
  | [word] => word ≠ ""
  | ["!", word] => word = ""
  | ["-n", word] => word ≠ ""
  | ["-z", word] => word = ""
  | ["-f", path] => tree.files.isFile ⟨path⟩
  | ["-d", path] => tree.files.isDirectory ⟨path⟩
  | ["-e", path] => tree.files.present ⟨path⟩
  | [left, "=", right] => left = right
  | [left, "!=", right] => left ≠ right
  | [left, "-eq", right] => left.toNat? = right.toNat?
  | [left, "-ne", right] => left.toNat? ≠ right.toNat?
  | [left, "-gt", right] => right.toNat?.getD 0 < left.toNat?.getD 0
  | [left, "-lt", right] => left.toNat?.getD 0 < right.toNat?.getD 0
  | [left, "-ge", right] => right.toNat?.getD 0 ≤ left.toNat?.getD 0
  | [left, "-le", right] => left.toNat?.getD 0 ≤ right.toNat?.getD 0
  | ["-s", path] => match tree.readBytes ⟨path⟩ with
    | .ok content => !content.isEmpty
    | .error _ => false
  | ["-x", path] => match tree.entryAt? ⟨path⟩ with
    | .ok (_, .file _ executable) => executable
    | .ok _ => true
    | .error _ => false
  | _ => false

/-- The value of a test: a negation, or simple tests joined by a conjunction. -/
def testWords (tree : FileTree) (words : List String) : Bool :=
  match words with
  | ["!", _, _] | ["!", _, _, _] => !testSimple tree (words.drop 1)
  | [a, b, c, "-a", d, e, f] => testSimple tree [a, b, c] && testSimple tree [d, e, f]
  | [a, b, c, "-o", d, e, f] => testSimple tree [a, b, c] || testSimple tree [d, e, f]
  | _ => testSimple tree words

/-- The answer of a test. -/
def testUtility (tree : FileTree) (words : List String) : UtilityResult :=
  { status := if testWords tree words then 0 else 1 }

/-! ## All utilities -/

/-- The milliseconds of a number of seconds. -/
def secondsToMillis (text : String) : Nat :=
  let whole := text.toList.takeWhile isAsciiDigit
  let fraction := (text.toList.dropWhile isAsciiDigit).drop 1
  let padded := (fraction.takeWhile isAsciiDigit ++ ['0', '0', '0']).take 3
  (String.ofList whole).toNat?.getD 0 * 1000 + (String.ofList padded).toNat?.getD 0

/-- The names of the utilities. -/
def utilityNames : List String :=
  ["true", "false", "echo", "printf", "cat", "head", "tr", "wc", "seq", "yes", "sleep", "test", "["]

/-- The utility of a name, run on its arguments and input. -/
def runUtility? (tree : FileTree) (name : String) (args : List String) (input : Bytes) :
    Option UtilityResult :=
  match name with
  | ":" | "true" => some {}
  | "false" => some { status := 1 }
  | "echo" => some (echoUtility args)
  | "printf" => some (printfUtility args)
  | "cat" => some (catUtility tree args input)
  | "head" => some (headUtility tree args input)
  | "tr" => some (trUtility args input)
  | "wc" => some (wcUtility args input)
  | "seq" => some (seqUtility args)
  | "yes" => some (yesUtility args)
  | "sleep" => some { millis := (args.map secondsToMillis).foldr (· + ·) 0 }
  | "test" => some (testUtility tree args)
  | "[" => some (testUtility tree args.dropLast)
  | _ => none

end ExportAudit.Emulation
