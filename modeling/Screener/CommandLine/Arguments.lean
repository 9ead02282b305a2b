import Screener.CommandLine.Command
import Screener.Text.Pieces

/-!
# Arguments

How the words of a call are read.  Options come after the command, in any order.  The value of an
option stands in the same word, after an equals sign or right after the letter, or it is the next
word; a value is only looked at when the next option or the end has been reached.  After two dashes
nothing is an option.
-/

namespace Screener

/-- Why a call is not carried out. -/
inductive ArgumentError where
  | helpWanted
  | versionWanted
  | nothingAsked
  | missingCommand
  | missingParameter
  | invalidValue
  | repeatedParameter
  | unknownArgument
  | unknownCommand
  | needlessValue
  deriving Repr, DecidableEq

/-- The wording of an argument error. -/
def ArgumentError.message : ArgumentError → String
  | helpWanted | nothingAsked =>
    "usage: [-v] first-scan | second-scan | scan | validate | list-tickers [options]"
  | versionWanted => "0.1.0"
  | missingCommand => "a command is required"
  | missingParameter => "a required option is missing"
  | invalidValue => "an option has no valid value"
  | repeatedParameter => "an option cannot be used twice"
  | unknownArgument => "unexpected argument"
  | unknownCommand => "unrecognized command"
  | needlessValue => "an option takes no value"

/-- A command to carry out, and how much to say about it. -/
structure Invocation where
  command : Command
  verbosity : Nat
  deriving Repr, DecidableEq

namespace Arguments

open Text

/-- What an option asks for. -/
inductive Flag where
  | verbose
  | help
  | version
  | parameter (parameter : Parameter)
  deriving Repr, DecidableEq

/-- The options that can be used: those of a command, or before any command the general ones. -/
def flags : Option CommandName → List Flag
  | none => [.verbose, .help, .version]
  | some command => [.verbose, .help] ++ command.parameters.map .parameter

/-- The long name of an option. -/
def Flag.name : Flag → String
  | verbose => "verbose"
  | help => "help"
  | version => "version"
  | parameter p => p.name

/-- The letter of an option. -/
def Flag.letter? : Flag → Option Char
  | verbose => some 'v'
  | help => some 'h'
  | version => some 'V'
  | parameter p => p.letter?

/-- What has been read of a call. -/
structure Reading where
  verbosity : Nat := 0
  values : List (Parameter × String) := []
  /-- The option that was read last and its value, if it has been read too. -/
  pending : Option (Parameter × Option String) := none
  /-- Whether any option has been read. -/
  anything : Bool := false

namespace Reading

/-- The greatest verbosity that is counted. -/
def greatestVerbosity : Nat := 255

/-- Keeps the value of an option. -/
def keep (reading : Reading) (p : Parameter) (value : String) : Except ArgumentError Reading :=
  if (reading.values.lookup p).isSome then .error .repeatedParameter
  else if p.isPath ∧ value.isEmpty then .error .invalidValue
  else .ok { reading with values := (p, value) :: reading.values }

/-- Keeps the value of the option that was read last; it must have one. -/
def settle (reading : Reading) : Except ArgumentError Reading :=
  match reading.pending with
  | none => .ok reading
  | some (_, none) => .error .invalidValue
  | some (p, some value) => { reading with pending := none }.keep p value

/-- Reads an option, with the value that stands in its word if there is one. -/
def take (reading : Reading) (flag : Flag) (attached : Option String) :
    Except ArgumentError Reading := do
  let reading := { (← reading.settle) with anything := true }
  match flag with
  | .verbose =>
    return { reading with verbosity := min (reading.verbosity + 1) greatestVerbosity }
  | .help => throw .helpWanted
  | .version => throw .versionWanted
  | .parameter p =>
    match attached with
    | some value => reading.keep p value
    | none => return { reading with pending := some (p, none) }

/-- Reads a word that starts with two dashes, without them. -/
def takeLong (reading : Reading) (command : Option CommandName) (body : List Char) :
    Except ArgumentError Reading :=
  let (name, attached) := match splitFirst '=' body with
    | some (name, value) => (String.ofList name, some (String.ofList value))
    | none => (String.ofList body, none)
  match (flags command).find? (·.name = name), attached with
  | none, _ => .error .unknownArgument
  | some (.parameter p), _ => reading.take (.parameter p) attached
  | some flag, none => reading.take flag none
  | some _, some _ => .error .needlessValue

/-- Reads the letters of a word that starts with one dash; what follows the letter of an option
with a value is the value. -/
def takeLetters (reading : Reading) (command : Option CommandName) :
    List Char → Except ArgumentError Reading
  | [] => .ok reading
  | letter :: rest =>
    match (flags command).find? (·.letter? = some letter) with
    | none => .error .unknownArgument
    | some (.parameter p) =>
      reading.take (.parameter p) (match rest with
        | [] => none
        | '=' :: value => some (String.ofList value)
        | value => some (String.ofList value))
    | some flag => do (← reading.take flag none).takeLetters command rest

/-- Reads a word as an option, or says that it is none. -/
def takeOption (reading : Reading) (command : Option CommandName) (word : String) :
    Option (Except ArgumentError Reading) :=
  match word.toList with
  | '-' :: '-' :: body => some (reading.takeLong command body)
  | '-' :: letter :: letters => some (reading.takeLetters command (letter :: letters))
  | _ => none

/-- Reads the words after a command. -/
def takeAll (reading : Reading) (command : CommandName) :
    List String → Except ArgumentError Reading
  | [] => reading.settle
  | word :: rest =>
    if word = "--" then if rest.isEmpty then reading.settle else .error .unknownArgument
    else match reading.takeOption command word with
      | some result => do (← result).takeAll command rest
      | none =>
        match reading.pending with
        | some (p, none) =>
          { reading with pending := some (p, some word) }.takeAll command rest
        | _ => .error .unknownArgument

end Reading

/-- Reads a command and the words after it. -/
def readCommand (verbosity : Nat) (name : CommandName) (words : List String) :
    Except ArgumentError Invocation := do
  let reading ← ({} : Reading).takeAll name words
  match name.command? fun p => reading.values.lookup p with
  | some command =>
    return ⟨command, if reading.verbosity = 0 then verbosity else reading.verbosity⟩
  | none => throw .missingParameter

/-- Help may be asked for the program, a command or help itself. -/
def readHelp : List String → ArgumentError
  | [] => .helpWanted
  | [word] =>
    if word = "help" ∨ (CommandName.ofName? word).isSome then .helpWanted else .unknownCommand
  | _ => .unknownCommand

/-- Reads words that are not a command after two dashes. -/
def readTrailing (reading : Reading) : List String → ArgumentError
  | [] => if reading.anything then .missingCommand else .nothingAsked
  | word :: _ =>
    if word = "help" ∨ (CommandName.ofName? word).isSome then .unknownArgument
    else .unknownCommand

/-- Reads the words of a call from before its command on. -/
def readFrom (reading : Reading) : List String → Except ArgumentError Invocation
  | [] => .error (readTrailing reading [])
  | word :: rest =>
    match CommandName.ofName? word with
    | some name => readCommand reading.verbosity name rest
    | none =>
      if word = "help" then .error (readHelp rest)
      else if word = "--" then .error (readTrailing reading rest)
      else match reading.takeOption none word with
        | some (.ok reading) => readFrom reading rest
        | some (.error e) => .error e
        | none => .error .unknownCommand

/-- Reads the words of a call. -/
def read (words : List String) : Except ArgumentError Invocation := readFrom {} words

end Arguments

end Screener
