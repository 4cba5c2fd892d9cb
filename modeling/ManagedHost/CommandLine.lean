import ManagedHost.Path
import ManagedHost.Text.Similarity

/-!
The command line. A switch with a value takes it from the same argument, after an equals sign or
directly after its letter, or from the next argument, which must not look like a switch. Letters
may be given together. No switch may be given twice, and there are no other arguments.

A value that is still awaited, or was just read, is settled only when the next switch is accepted
or the arguments end; so an argument that is not understood is reported before a switch that was
given twice.
-/

namespace ManagedHost

namespace CommandLine

inductive Switch where
  | config | assembly | logLevel | jsonLogs | selfTest | help | version
deriving DecidableEq

namespace Switch

/-- All switches, in the order in which the help shows them. -/
def all : List Switch := [config, assembly, logLevel, jsonLogs, selfTest, help, version]

def long : Switch → String
  | config => "config"
  | assembly => "assembly"
  | logLevel => "log-level"
  | jsonLogs => "json-logs"
  | selfTest => "self-test"
  | help => "help"
  | version => "version"

def short? : Switch → Option Char
  | config => some 'c'
  | assembly => some 'a'
  | logLevel => some 'l'
  | help => some 'h'
  | version => some 'V'
  | jsonLogs | selfTest => none

/-- What the value of the switch is called, if it takes one. -/
def valueName? : Switch → Option String
  | config | assembly => some "FILE"
  | logLevel => some "LEVEL"
  | jsonLogs | selfTest | help | version => none

def description : Switch → String
  | config => "Configuration file path [default: spadecs.toml]"
  | assembly => "Bootstrap assembly path (Spadecs.Boot.dll)"
  | logLevel => "Log level (trace, debug, info, warn, error)"
  | jsonLogs => "Output logs in JSON format"
  | selfTest => "Load the runtime, call GetTestString once and exit"
  | help => "Print help"
  | version => "Print version"

/-- The switch in messages, with its value. -/
def display (switch : Switch) : String :=
  match switch.valueName? with
  | some value => "--" ++ switch.long ++ " <" ++ value ++ ">"
  | none => "--" ++ switch.long

end Switch

inductive Fault where
  | help
  | version
  | valueMissing (switch : Switch)
  | valueUnneeded (switch : Switch) (value : String) (given : List Switch)
  | repeated (switch : Switch)
  /-- An argument that is not understood, with the switch it may have been meant as. -/
  | unexpected (argument : String) (similar : Option Switch) (given : List Switch)
deriving DecidableEq

/-- The command line as far as it has been read. -/
structure Reading where
  given : List (Switch × Option String) := []
  /-- The last switch with a value, which is none yet when the next argument has to be it. -/
  pending : Option (Switch × Option String) := none

namespace Reading

def switches (reading : Reading) : List Switch := reading.given.map (·.1)

def settle (reading : Reading) : Except Fault Reading :=
  match reading.pending with
  | none => .ok reading
  | some (switch, none) => .error (.valueMissing switch)
  | some (switch, some value) =>
    if switch ∈ reading.switches then .error (.repeated switch)
    else .ok ⟨reading.given ++ [(switch, some value)], none⟩

/-- The reading with the pending switch settled, or dropped where that fails. -/
def settled (reading : Reading) : Reading :=
  reading.settle.toOption.getD ⟨reading.given, none⟩

def refuse (reading : Reading) (argument : String) (similar : Option Switch) : Fault :=
  .unexpected argument similar reading.settled.switches

def accept (reading : Reading) (switch : Switch) (value : Option String) :
    Except Fault Reading := do
  let reading ← reading.settle
  match switch with
  | .help => .error .help
  | .version => .error .version
  | _ =>
    if switch ∈ reading.switches then .error (.repeated switch)
    else .ok ⟨reading.given ++ [(switch, value)], none⟩

def await (reading : Reading) (switch : Switch) : Except Fault Reading := do
  return ⟨(← reading.settle).given, some (switch, none)⟩

def takeLong (reading : Reading) (body : List Char) : Except Fault Reading :=
  let name := String.ofList (body.takeWhile (· ≠ '='))
  let value? := match body.dropWhile (· ≠ '=') with
    | _ :: value => some (String.ofList value)
    | [] => none
  match Switch.all.find? (·.long == name) with
  | some switch =>
    match switch.valueName?, value? with
    | some _, some value => reading.accept switch (some value)
    | some _, none => reading.await switch
    | none, some value => .error (.valueUnneeded switch value reading.switches)
    | none, none => reading.accept switch none
  | none =>
    let similar := (Text.mostSimilar name (Switch.all.map Switch.long)).bind fun long =>
      Switch.all.find? (·.long == long)
    .error (reading.refuse ("--" ++ name) similar)

/-- Reads switches given together by their letters. -/
def takeLetters : Reading → List Char → Except Fault Reading
  | reading, [] => .ok reading
  | reading, letter :: rest =>
    match Switch.all.find? (·.short? == some letter) with
    | none => .error (reading.refuse ("-" ++ String.singleton letter) none)
    | some switch =>
      if switch.valueName?.isNone then do takeLetters (← reading.accept switch none) rest
      else
        match rest with
        | [] => reading.await switch
        | '=' :: value => reading.accept switch (some (String.ofList value))
        | value => reading.accept switch (some (String.ofList value))

def take (reading : Reading) (argument : String) : Except Fault Reading :=
  match argument.toList with
  | '-' :: '-' :: body => reading.takeLong body
  | '-' :: letter :: rest => reading.takeLetters (letter :: rest)
  | _ =>
    match reading.pending with
    | some (switch, none) => .ok { reading with pending := some (switch, some argument) }
    | _ => .error (reading.refuse argument none)

/-- Reads the arguments. Two dashes alone end the switches. -/
def takeAll : Reading → List String → Except Fault Reading
  | reading, [] => reading.settle
  | reading, argument :: rest =>
    if argument = "--" then
      match rest with
      | [] => reading.settle
      | extra :: _ => .error (reading.refuse extra none)
    else do takeAll (← reading.take argument) rest

end Reading

/-- The name of the program when it is called by none. -/
def defaultName : String := "Spadecs"

def version : String := "0.1.0"

/-- The name of the program in its usage, taken from how it was called. -/
def usageName (args : List String) : String :=
  ((args.head?.bind Path.fileName?).getD defaultName)

def helpColumn (switch : Switch) : String :=
  (match switch.short? with
    | some letter => "-" ++ String.singleton letter ++ ", "
    | none => "    ") ++ switch.display

def help (name : String) : String :=
  let width := (Switch.all.map fun switch => (helpColumn switch).length).foldl max 0
  "Hosts the .NET runtime for Spadecs game-server scripts\n\nUsage: " ++ name ++
    " [OPTIONS]\n\nOptions:\n" ++ String.join (Switch.all.map fun switch =>
      let column := helpColumn switch
      "  " ++ column ++ "".pushn ' ' (width - column.length) ++ "  " ++ switch.description ++ "\n")

/-- Whether a character is left out of messages: a control that is no blank. -/
def isUnshown (c : Char) : Bool :=
  (c.toNat < 0x20 && !(c == '\t' || c == '\n' || c == '\x0c' || c == '\r')) || c.toNat = 0x7f

namespace Fault

def summary : Fault → String
  | help | version => ""
  | valueMissing switch =>
    "error: a value is required for '" ++ switch.display ++ "' but none was supplied"
  | valueUnneeded switch value _ =>
    "error: unexpected value '" ++ value ++ "' for '" ++ switch.display ++
      "' found; no more were expected"
  | repeated switch =>
    "error: the argument '" ++ switch.display ++ "' cannot be used multiple times"
  | unexpected argument _ _ => "error: unexpected argument '" ++ argument ++ "' found"

/-- The switches that the usage of a message names. -/
def named : Fault → List Switch
  | valueUnneeded switch _ given => if switch ∈ given then given else given ++ [switch]
  | unexpected _ (some similar) given => if similar ∈ given then given else given ++ [similar]
  | _ => []

def usage (fault : Fault) (name : String) : String :=
  if fault.named.isEmpty then "Usage: " ++ name ++ " [OPTIONS]"
  else "Usage: " ++ name ++ String.join (fault.named.map fun switch => " " ++ switch.display)

def message (fault : Fault) (name : String) : String :=
  let text := match fault with
    | help => CommandLine.help name
    | version => defaultName ++ " " ++ CommandLine.version ++ "\n"
    | valueMissing _ => fault.summary ++ "\n\nFor more information, try '--help'.\n"
    | unexpected _ (some similar) _ =>
      fault.summary ++ "\n\n  tip: a similar argument exists: '--" ++ similar.long ++ "'\n\n" ++
        fault.usage name ++ "\n\nFor more information, try '--help'.\n"
    | _ =>
      fault.summary ++ "\n\n" ++ fault.usage name ++
        "\n\nFor more information, try '--help'.\n"
  String.ofList (text.toList.filter (!isUnshown ·))

end Fault

end CommandLine

structure CommandLine where
  config : String := "spadecs.toml"
  assembly : Option String := none
  logLevel : Option String := none
  jsonLogs : Bool := false
  selfTest : Bool := false
deriving DecidableEq

namespace CommandLine

def apply (line : CommandLine) : Switch × Option String → CommandLine
  | (.config, some value) => { line with config := value }
  | (.assembly, some value) => { line with assembly := some value }
  | (.logLevel, some value) => { line with logLevel := some value }
  | (.jsonLogs, _) => { line with jsonLogs := true }
  | (.selfTest, _) => { line with selfTest := true }
  | _ => line

/-- Reads the arguments, the first of which is the name of the program. -/
def ofArguments (args : List String) : Except Fault CommandLine := do
  return (← Reading.takeAll {} args.tail).given.foldl apply {}

end CommandLine

end ManagedHost
