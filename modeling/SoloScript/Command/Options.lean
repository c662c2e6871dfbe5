import SoloScript.File.Path
import SoloScript.Text.Similarity
import SoloScript.Text.Substring
import SoloScript.Text.Terminal

/-!
# Options of the command line

An option has a long and a short form; some take a value, which may be attached or come as the next
word.  A value that comes as the next word is *pending* until the word after it is read: only then
is the option taken, and only then can it turn out to be a repetition.
-/

namespace SoloScript.Command

inductive Flag where
  | config
  | output
  | verbose
  | help
  | version
deriving DecidableEq, Repr

namespace Flag

def all : List Flag := [config, output, verbose, help, version]

def name : Flag → String
  | config => "config"
  | output => "output"
  | verbose => "verbose"
  | help => "help"
  | version => "version"

def letter : Flag → Char
  | config => 'c'
  | output => 'o'
  | verbose => 'v'
  | help => 'h'
  | version => 'V'

def takesValue : Flag → Bool
  | config | output => true
  | verbose | help | version => false

/-- Whether an option sets something for the run, rather than asking for a text. -/
def isSetting : Flag → Bool
  | config | output | verbose => true
  | help | version => false

/-- The long form, with a placeholder for the value. -/
def usage (flag : Flag) : String :=
  "--" ++ flag.name
    ++ (if flag.takesValue then " <" ++ flag.name.map Char.toUpper ++ ">" else "")

/-- All settings, as alternatives. -/
def settings : String := "<" ++ "|".intercalate ((all.filter isSetting).map usage) ++ ">"

def ofName? (name : String) : Option Flag := all.find? (·.name = name)

def ofLetter? (letter : Char) : Option Flag := all.find? (·.letter = letter)

/-- The flag whose name is most like a word that names none, if there is one that is like it. -/
def suggestion? (word : String) : Option Flag :=
  let alike (flag : Flag) : Float := Text.similarity word.toList flag.name.toList
  (all.filter fun flag ↦ alike flag > 0.7).foldl
    (fun best flag ↦ match best with
      | none => some flag
      | some other => if alike other > alike flag then some other else some flag) none

end Flag

/-! ## What is wrong with a command line -/

inductive Misuse where
  /-- A word that is no option, or a letter that names none. -/
  | unexpected (word : String)
  /-- A long form that names no option, after those in `taken`. -/
  | unknownName (name : String) (taken : List Flag)
  | missingValue (flag : Flag)
  | repeated (flag : Flag)
  /-- A value attached to an option that takes none, after those in `taken`. -/
  | needlessValue (flag : Flag) (value : String) (taken : List Flag)
deriving DecidableEq, Repr

namespace Misuse

def program : String := "quiet-bundler"

def usageLine (parts : List String) : String :=
  "Usage: " ++ program ++ " " ++ (if parts = [] then "[OPTIONS]" else " ".intercalate parts)

/-- The usage line that names the given flags, each once. -/
def usageOf (flags : List Flag) : String := usageLine (flags.eraseDups.map Flag.usage)

/-- The usage line that names a flag beside the settings, if one of those is taken. -/
def usageBeside (flag : Flag) (taken : List Flag) : String :=
  if taken = [] then usageOf [flag]
  else usageLine ((if flag.isSetting then [] else [flag.usage]) ++ [Flag.settings])

/-- The complaint about a word. -/
def unexpectedWord (word : String) : String :=
  "unexpected argument '" ++ Text.Terminal.plain word ++ "' found"

/-- The paragraphs of the message. -/
def paragraphs : Misuse → List String
  | unexpected word => [unexpectedWord word, usageOf []]
  | unknownName name taken =>
    let complaint := unexpectedWord ("--" ++ name)
    match Flag.suggestion? name with
    | none => [complaint, usageOf taken]
    | some flag =>
      [complaint, "  tip: a similar argument exists: '--" ++ flag.name ++ "'",
        usageOf (taken ++ [flag])]
  | missingValue flag =>
    ["a value is required for '" ++ flag.usage ++ "' but none was supplied"]
  | repeated flag =>
    ["the argument '" ++ flag.usage ++ "' cannot be used multiple times", usageOf []]
  | needlessValue flag value taken =>
    ["unexpected value '" ++ Text.Terminal.plain value ++ "' for '" ++ flag.usage
        ++ "' found; no more were expected", usageBeside flag taken]

def message (misuse : Misuse) : String :=
  "error: " ++ "\n\n".intercalate (misuse.paragraphs ++ ["For more information, try '--help'."])
    ++ "\n"

end Misuse

/-! ## Reading a command line -/

structure Options where
  config : Option File.Path
  output : Option File.Path
  verbose : Bool
deriving DecidableEq, Repr

/-- What a command line asks for. -/
inductive Request where
  | bundle (options : Options)
  | help
  | version
deriving DecidableEq, Repr

/-- Why reading ends before the last word. -/
inductive Stop where
  | misuse (misuse : Misuse)
  | help
  | version
deriving DecidableEq, Repr

/-- What has been read: the options taken so far, in the order in which they came, and the pending
one with its value, if that has come. -/
structure State where
  options : Options
  taken : List Flag
  pending : Option (Flag × Option String)
deriving DecidableEq, Repr

namespace State

def initial : State := ⟨⟨none, none, false⟩, [], none⟩

/-- Takes an option that is not pending. -/
def accept (state : State) (flag : Flag) (value : Option String) : Except Stop State :=
  let repeated := state.taken.contains flag
  let taken := state.taken ++ [flag]
  match flag with
  | .help => .error .help
  | .version => .error .version
  | .verbose =>
    if repeated then .error (.misuse (.repeated flag))
    else .ok { state with options := { state.options with verbose := true }, taken := taken }
  | .config | .output =>
    match value with
    | none => .error (.misuse (.missingValue flag))
    | some value =>
      if repeated then .error (.misuse (.repeated flag))
      else if value = "" then .error (.misuse (.missingValue flag))
      else
        let options := if flag = .config then { state.options with config := some ⟨value⟩ }
          else { state.options with output := some ⟨value⟩ }
        .ok { state with options := options, taken := taken }

/-- Takes the pending option. -/
def settle (state : State) : Except Stop State :=
  match state.pending with
  | none => .ok state
  | some (flag, value) => { state with pending := none }.accept flag value

/-- The options that are taken once the pending one is, whether or not it is in order. -/
def takenAtLast (state : State) : List Flag :=
  match state.settle, state.pending with
  | .ok settled, _ => settled.taken
  | .error (.misuse (.repeated _)), some (flag, _) => state.taken.erase flag
  | .error _, some (flag, some _) => state.taken ++ [flag]
  | .error _, _ => state.taken

/-- Takes an option. -/
def take (state : State) (flag : Flag) (value : Option String) : Except Stop State := do
  (← state.settle).accept flag value

/-- Waits for the value of an option. -/
def await (state : State) (flag : Flag) : Except Stop State := do
  return { ← state.settle with pending := some (flag, none) }

/-- Reads a long form, behind its dashes. -/
def readName (state : State) (text : List Char) : Except Stop State :=
  let name := String.ofList (text.takeWhile (· ≠ '='))
  let value := ((text.dropWhile (· ≠ '=')).tail?).map String.ofList
  match Flag.ofName? name with
  | none => .error (.misuse (.unknownName name state.takenAtLast))
  | some flag =>
    if flag.takesValue then
      match value with
      | some value => state.take flag value
      | none => state.await flag
    else match value with
      | some value => .error (.misuse (.needlessValue flag value state.taken))
      | none => state.take flag none

/-- Reads letters, behind their dash.  What follows an option with a value is the value; an equals
sign in front of it does not belong to it. -/
def readLetters (state : State) : List Char → Except Stop State
  | [] => .ok state
  | letter :: rest =>
    match Flag.ofLetter? letter with
    | none => .error (.misuse (.unexpected ("-" ++ letter.toString)))
    | some flag =>
      if flag.takesValue then
        match rest with
        | [] => state.await flag
        | '=' :: value => state.take flag (String.ofList value)
        | value => state.take flag (String.ofList value)
      else do (← state.take flag none).readLetters rest

/-- Reads a word that is neither a long form nor letters. -/
def readPlain (state : State) (word : String) : Except Stop State :=
  match state.pending with
  | some (flag, none) => .ok { state with pending := some (flag, some word) }
  | _ => .error (.misuse (.unexpected word))

/-- Reads words; those after two dashes are no options. -/
def readWords (state : State) : List String → Except Stop State
  | [] => state.settle
  | word :: words =>
    match word.toList with
    | ['-', '-'] =>
      match words with
      | [] => state.settle
      | word :: _ => .error (.misuse (.unexpected word))
    | '-' :: '-' :: text => do (← state.readName text).readWords words
    | '-' :: letter :: letters => do (← state.readLetters (letter :: letters)).readWords words
    | _ => do (← state.readPlain word).readWords words

end State

/-- What the words behind the program's name ask for. -/
def Request.ofWords (words : List String) : Except Misuse Request :=
  match State.initial.readWords words with
  | .ok state => .ok (.bundle state.options)
  | .error .help => .ok .help
  | .error .version => .ok .version
  | .error (.misuse misuse) => .error misuse

end SoloScript.Command
