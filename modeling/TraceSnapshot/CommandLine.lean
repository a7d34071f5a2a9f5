import TraceSnapshot.Run
import TraceSnapshot.Text.DecimalDigit

/-!
# The command line

The program takes a snapshot directory, an output file and a switch that silences it. It
tells of every failure in one line on the error stream and ends with exit code one.
-/

namespace TraceSnapshot

namespace CommandLine

def toolName : Text := "snapshot_parse_dump".toList

def usage : Text := toolName ++ " -ss_dir <snapshot_dir> -o <output_file> [-quiet]".toList

/-- The flags that take the token after them as their value. -/
inductive ValueFlag where
  | directory
  | output
  deriving DecidableEq, Repr

def ValueFlag.text : ValueFlag → Text
  | directory => "-ss_dir".toList
  | output => "-o".toList

def quietFlag : Text := "-quiet".toList

/-- What a token is where a flag is expected. -/
inductive Token where
  | value (flag : ValueFlag)
  | quiet
  | word
  | unknownFlag
  deriving DecidableEq, Repr

/-- The flags of the program. -/
def flags : List (Text × Token) :=
  [(ValueFlag.directory.text, .value .directory), (ValueFlag.output.text, .value .output),
    (quietFlag, .quiet)]

def Token.ofText (t : Text) : Token :=
  match flags.lookup t, t with
  | some token, _ => token
  | none, '-' :: _ => .unknownFlag
  | none, _ => .word

/-- A number with a minus sign, with or without a decimal point, in the digits of any script.
A line feed may end it. -/
def isNegativeNumber (t : Text) : Bool :=
  match t with
  | '-' :: rest =>
    let rest := if rest.getLast? = some '\n' then rest.dropLast else rest
    let areDigits (digits : Text) := digits.all CharClass.decimalDigit.contains
    match Text.cut '.' rest with
    | none => !rest.isEmpty && areDigits rest
    | some (whole, fraction) => areDigits whole && !fraction.isEmpty && areDigits fraction
  | _ => false

/-- Some flag is joined to the rest of the token by an equals sign. -/
def assignsFlag (t : Text) : Bool := flags.any fun (flag, _) => (flag ++ ['=']).isPrefixOf t

/-- A token may be the value of a flag unless it looks like a flag itself. -/
def isValue (t : Text) : Bool :=
  t.head? != some '-' || t == ['-'] || isNegativeNumber t ||
    t.contains ' ' && !ValueFlag.output.text.isPrefixOf t && !assignsFlag t

/-- What may be wrong with a command line. -/
inductive UsageError where
  | unknownFlag (token : Text)
  | missingValue (flag : ValueFlag)
  | missingFlags (flags : List ValueFlag)
  | strayWords (words : List Text)
  | emptyValue
  deriving DecidableEq, Repr

namespace UsageError

def message : UsageError → Text
  | unknownFlag token =>
    "unknown or incomplete argument '".toList ++ token ++ "'; usage: ".toList ++ usage
  | missingValue flag =>
    "argument ".toList ++ flag.text ++ ": expected one argument; usage: ".toList ++ usage
  | missingFlags flags =>
    "the following arguments are required: ".toList ++
      ", ".toList.intercalate (flags.map ValueFlag.text) ++ "; usage: ".toList ++ usage
  | strayWords words =>
    "unrecognized arguments: ".toList ++ [' '].intercalate words ++ "; usage: ".toList ++ usage
  | emptyValue => "usage: ".toList ++ usage

def report (e : UsageError) : Report where
  code := .usage
  message := e.message
  source := none

end UsageError

/-- The first token in the place of a flag that looks like one and is none. -/
def unknownFlag? : List Text → Option Text
  | [] => none
  | token :: rest =>
    match Token.ofText token, rest with
    | .unknownFlag, _ => some token
    | .value _, _ :: rest => unknownFlag? rest
    | _, rest => unknownFlag? rest

/-- What a command line says, before it is known to be complete. Of a repeated flag the last
value counts. -/
structure Scan where
  directory : Option Text
  output : Option Text
  quiet : Bool
  words : List Text
  deriving DecidableEq, Repr

def Scan.set (s : Scan) (flag : ValueFlag) (value : Text) : Scan :=
  match flag with
  | .directory => { s with directory := some value }
  | .output => { s with output := some value }

/-- Reads tokens on top of what was read before. -/
def Scan.read (s : Scan) : List Text → Except UsageError Scan
  | [] => .ok s
  | token :: rest =>
    match Token.ofText token, rest with
    | .value flag, value :: rest =>
      if isValue value then (s.set flag value).read rest else .error (.missingValue flag)
    | .value flag, [] => .error (.missingValue flag)
    | .quiet, rest => Scan.read { s with quiet := true } rest
    | .word, rest => Scan.read { s with words := s.words ++ [token] } rest
    | .unknownFlag, _ => .error (.unknownFlag token)

/-- What a complete command line asks for. -/
structure Arguments where
  directory : Text
  output : Text
  quiet : Bool
  deriving DecidableEq, Repr

def Scan.arguments (s : Scan) : Except UsageError Arguments :=
  match s.directory, s.output with
  | none, none => .error (.missingFlags [.directory, .output])
  | none, some _ => .error (.missingFlags [.directory])
  | some _, none => .error (.missingFlags [.output])
  | some directory, some output =>
    if !s.words.isEmpty then .error (.strayWords s.words)
    else if directory.isEmpty || output.isEmpty then .error .emptyValue
    else .ok ⟨directory, output, s.quiet⟩

/-- Reads a command line. A token that is no flag is told of before anything that is
missing. -/
def Arguments.parse (tokens : List Text) : Except UsageError Arguments :=
  match unknownFlag? tokens with
  | some token => .error (.unknownFlag token)
  | none => (Scan.read ⟨none, none, false, []⟩ tokens).bind Scan.arguments

/-- What the user gets to see of a run. -/
structure Console where
  exitCode : Nat
  out : Text
  err : Text
  deriving DecidableEq, Repr

namespace Console

/-- The line that tells of a failure, after the name of the program. -/
def ofFailure (line : Text) : Console where
  exitCode := 1
  out := []
  err := toolName ++ ": ".toList ++ line ++ ['\n']

/-- The line that names the output file as it was given, unless the switch silences it. -/
def ofEnding (a : Arguments) (ending : Ending) : Console :=
  match ending.failure? with
  | some failure => ofFailure failure.line
  | none =>
    { exitCode := 0
      out := if a.quiet then [] else toolName ++ ": wrote ".toList ++ a.output ++ ['\n']
      err := [] }

end Console

/-- Runs a command line on a disk, with the validator that checks schemas. -/
def execute (d : Disk) (configured : Text) (tokens : List Text) : Console × Disk :=
  match Arguments.parse tokens with
  | .error e => (.ofFailure e.report.line, d)
  | .ok a =>
    let (outcome, after) :=
      d.run Validator.Kind.standard.validator configured ⟨a.directory, none⟩ a.output
    (.ofEnding a outcome.ending, after)

end CommandLine

end TraceSnapshot
