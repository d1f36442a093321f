import SegmentContainer.Options
import SegmentContainer.Text.Numeral

/-!
# Command lines

A command line is switches, the name of a command, and then switches and one path.
A switch has a long form after two dashes, some have a letter after one dash, and
several letters may share a dash.  The value of a switch follows it as the next
word, after an equals sign or, behind a letter, directly; a next word that looks
like a switch is no value.  After two dashes alone all words are paths.  No switch
may be given twice.
-/

set_option autoImplicit false

namespace SegmentContainer.Command

inductive Switch where
  | verbose
  | quiet
  | version
  | help
  | output
  | format
  | onReadError
  | summaryJson
  | json
  | symbols
  deriving DecidableEq

namespace Switch

def long : Switch → String
  | .verbose => "verbose"
  | .quiet => "quiet"
  | .version => "version"
  | .help => "help"
  | .output => "output"
  | .format => "format"
  | .onReadError => "on-read-error"
  | .summaryJson => "summary-json"
  | .json => "json"
  | .symbols => "symbols"

def letter? : Switch → Option Char
  | .verbose => some 'v'
  | .quiet => some 'q'
  | .version => some 'V'
  | .help => some 'h'
  | .output => some 'o'
  | _ => none

def takesValue : Switch → Bool
  | .output => true
  | .format => true
  | .onReadError => true
  | .summaryJson => true
  | .symbols => true
  | _ => false

/-- Whether a word is a value of a switch.  Paths must not be empty, but for the
path of the output that is found out later. -/
def admits (switch : Switch) (value : String) : Bool :=
  match switch with
  | .format => (InputFormat.ofWord? value).isSome
  | .onReadError => (ReadFailurePolicy.ofWord? value).isSome
  | .summaryJson => value ≠ ""
  | .symbols => (Numeral.read 10 value.toList).isOk
  | _ => true

end Switch

def commonSwitches : List Switch := [.verbose, .quiet, .version, .help]

def exportSwitches : List Switch :=
  [.verbose, .quiet, .help, .output, .format, .onReadError, .summaryJson]

def inspectSwitches : List Switch := [.verbose, .quiet, .help, .json, .symbols]

structure Given where
  switches : List (Switch × String)
  paths : List String

namespace Given

def nothing : Given := ⟨[], []⟩

def has (given : Given) (switch : Switch) : Bool :=
  given.switches.any fun one => one.1 = switch

def value? (given : Given) (switch : Switch) : Option String :=
  (given.switches.find? fun one => one.1 = switch).map (·.2)

/-- Adds a switch, which must be new and its value a good one. -/
def add? (given : Given) (switch : Switch) (value : String) : Option Given :=
  if given.has switch || !switch.admits value then none
  else some { given with switches := given.switches ++ [(switch, value)] }

/-- Adds a path: there is only one, and it is not empty. -/
def addPath? (given : Given) (path : String) : Option Given :=
  if given.paths.isEmpty && path ≠ "" then some { given with paths := [path] } else none

def addPaths? (given : Given) : List String → Option Given
  | [] => some given
  | path :: rest =>
    match given.addPath? path with
    | some given => given.addPaths? rest
    | none => none

def agrees (given : Given) : Bool :=
  !(given.has .verbose && given.has .quiet)

end Given

inductive Scanned where
  | all (given : Given)
  | command (given : Given) (name : String) (rest : List String)
  | help
  | version
  | misuse

inductive Word where
  | divider
  | long (name : String) (value : Option String)
  | letters (letters : List Char)
  | plain (text : String)

/-- The form of a word.  A dash alone is a plain word. -/
def Word.ofText (text : String) : Word :=
  match text.toList with
  | ['-', '-'] => .divider
  | '-' :: '-' :: rest =>
    match rest.dropWhile (· ≠ '=') with
    | [] => .long (String.ofList rest) none
    | _ :: value =>
      .long (String.ofList (rest.takeWhile (· ≠ '='))) (some (String.ofList value))
  | '-' :: c :: rest => .letters (c :: rest)
  | _ => .plain text

def isValue (text : String) : Bool :=
  match Word.ofText text with
  | .plain _ => true
  | _ => false

inductive Lettered where
  | done (given : Given)
  /-- The last letter is a switch whose value is the next word. -/
  | pending (given : Given) (switch : Switch)
  | help
  | version
  | misuse

def takeLetters (known : List Switch) : Given → List Char → Lettered
  | given, [] => .done given
  | given, c :: rest =>
    match known.find? fun switch => switch.letter? = some c with
    | none => .misuse
    | some .help => .help
    | some .version => .version
    | some switch =>
      if switch.takesValue then
        match rest with
        | [] => .pending given switch
        | '=' :: value =>
          match given.add? switch (String.ofList value) with
          | some given => .done given
          | none => .misuse
        | value =>
          match given.add? switch (String.ofList value) with
          | some given => .done given
          | none => .misuse
      else
        match given.add? switch "" with
        | some given => takeLetters known given rest
        | none => .misuse

/-- Takes words in order.  `pending` is a switch that waits for its value.  Before
the command the first plain word is its name. -/
def scan (known : List Switch) (beforeCommand : Bool) :
    Given → Option Switch → List String → Scanned
  | given, none, [] => .all given
  | _, some _, [] => .misuse
  | given, some switch, word :: rest =>
    if isValue word then
      match given.add? switch word with
      | some given => scan known beforeCommand given none rest
      | none => .misuse
    else .misuse
  | given, none, word :: rest =>
    match Word.ofText word with
    | .divider =>
      match given.addPaths? rest with
      | some given => .all given
      | none => .misuse
    | .plain text =>
      if beforeCommand then .command given text rest
      else
        match given.addPath? text with
        | some given => scan known beforeCommand given none rest
        | none => .misuse
    | .letters letters =>
      match takeLetters known given letters with
      | .done given => scan known beforeCommand given none rest
      | .pending given switch => scan known beforeCommand given (some switch) rest
      | .help => .help
      | .version => .version
      | .misuse => .misuse
    | .long name value =>
      match known.find? fun switch => switch.long = name with
      | none => .misuse
      | some switch =>
        match switch.takesValue, value with
        | true, none => scan known beforeCommand given (some switch) rest
        | true, some value =>
          match given.add? switch value with
          | some given => scan known beforeCommand given none rest
          | none => .misuse
        | false, some _ => .misuse
        | false, none =>
          if switch = .help then .help
          else if switch = .version then .version
          else
            match given.add? switch "" with
            | some given => scan known beforeCommand given none rest
            | none => .misuse

inductive Invocation where
  | exportImage (input output : String) (format : InputFormat) (policy : ReadFailurePolicy)
      (summary : Option String)
  | inspectArtifact (artifact : String) (json : Bool) (symbols : Nat)
  | help
  | version
  deriving DecidableEq

def outputVariable : String := "SEGEXPORT_OUTPUT"

def policyVariable : String := "SEGEXPORT_ON_READ_ERROR"

/-- The value of a switch, from the command line or else from a variable of the
environment.  A variable is only looked at if it counts, and then its value must
be a good one. -/
def settled? (given : Given) (environment : String → Option String) (switch : Switch)
    (variableName : String) : Option (Option String) :=
  match given.value? switch with
  | some value => some (some value)
  | none =>
    match environment variableName with
    | none => some none
    | some value => if switch.admits value then some (some value) else none

def exportOf? (environment : String → Option String) (given : Given) : Option Invocation := do
  let input ← given.paths.head?
  let output ← (← settled? given environment .output outputVariable)
  let policy ← settled? given environment .onReadError policyVariable
  return .exportImage input output
    ((given.value? .format).bind InputFormat.ofWord? |>.getD .auto)
    (policy.bind ReadFailurePolicy.ofWord? |>.getD .zeroFill)
    (given.value? .summaryJson)

def usualSymbols : Nat := 20

def numberOf (value : String) : Nat :=
  match Numeral.read 10 value.toList with
  | .ok number => number.toNat
  | .error _ => 0

def inspectOf? (given : Given) : Option Invocation := do
  let artifact ← given.paths.head?
  return .inspectArtifact artifact (given.has .json)
    ((given.value? .symbols).map numberOf |>.getD usualSymbols)

def commandNames : List String := ["export", "inspect", "help"]

/-- Reads the words behind the name of a command; `common` was given before it.
None means that the command line is not understood. -/
def readCommand? (environment : String → Option String) (common : Given) (name : String)
    (rest : List String) : Option Invocation :=
  let finish (known : List Switch) (make : Given → Option Invocation) : Option Invocation :=
    match scan known false Given.nothing none rest with
    | .all given => if given.agrees && common.agrees then make given else none
    | .help => some .help
    | .version => some .version
    | .command _ _ _ => none
    | .misuse => none
  if name = "export" then finish exportSwitches (exportOf? environment)
  else if name = "inspect" then finish inspectSwitches inspectOf?
  else if name = "help" then
    match rest with
    | [] => some .help
    | [topic] => if topic ∈ commandNames then some .help else none
    | _ => none
  else none

def read? (words : List String) (environment : String → Option String) : Option Invocation :=
  match scan commonSwitches true Given.nothing none words with
  | .command common name rest => readCommand? environment common name rest
  | .help => some .help
  | .version => some .version
  | .all _ => none
  | .misuse => none

end SegmentContainer.Command
