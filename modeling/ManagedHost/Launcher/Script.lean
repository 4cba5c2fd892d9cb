import ManagedHost.Launcher.Outcome

/-!
Launcher scripts. A launcher may be a shell script; this module runs the scripts that use nothing
but commands the shell has itself. A script is read into words and operators, commands are chained
by `;`, `&&` and `||`, and running it yields what it wrote and how it ended.
-/

namespace ManagedHost.Script

/-- A piece of a word: text as it stands, or a parameter to be replaced by its value. Quoted pieces
are never split at blanks. -/
inductive Piece where
  | literal (text : List Char)
  | parameter (name : String) (isQuoted : Bool)
deriving DecidableEq, Repr

inductive Token where
  /-- A word; `isQuoted` tells whether it stays even if it is empty. -/
  | word (pieces : List Piece) (isQuoted : Bool)
  | finish
  | andThen
  | orElse
  | negate
  /-- Output of descriptor `source` goes where descriptor `target` goes. -/
  | duplicate (source target : Nat)
  /-- Output of descriptor `source` goes to a file named by the next word. -/
  | toFile (source : Nat)
deriving DecidableEq, Repr

/-- A word under construction: its pieces in reverse order, and whether any of it was quoted. -/
structure Draft where
  pieces : List Piece := []
  isQuoted : Bool := false
  isOpen : Bool := false

namespace Draft

def push (draft : Draft) (c : Char) : Draft :=
  match draft.pieces with
  | .literal text :: rest => ⟨.literal (text ++ [c]) :: rest, draft.isQuoted, true⟩
  | pieces => ⟨.literal [c] :: pieces, draft.isQuoted, true⟩

def pushParameter (draft : Draft) (name : String) (isQuoted : Bool) : Draft :=
  ⟨.parameter name isQuoted :: draft.pieces, draft.isQuoted, true⟩

def quote (draft : Draft) : Draft := ⟨draft.pieces, true, true⟩

/-- Ends the word and puts it in front of the tokens read so far. -/
def close (draft : Draft) (tokens : List Token) : List Token :=
  if draft.isOpen then .word draft.pieces.reverse draft.isQuoted :: tokens else tokens

end Draft

def isNameStart (c : Char) : Bool := c.isAlpha || c == '_'

def isNamePart (c : Char) : Bool := isNameStart c || Text.isDigit c

/-- The parameter after a dollar sign and the characters after it, if one is named there. -/
def takeParameter : List Char → Option (String × List Char)
  | '{' :: rest =>
    match rest.span (· ≠ '}') with
    | (name, '}' :: rest) => some (String.ofList name, rest)
    | _ => none
  | c :: rest =>
    if isNameStart c then
      let (name, rest) := rest.span isNamePart
      some (String.ofList (c :: name), rest)
    else if Text.isDigit c || c == '#' || c == '?' || c == '$' || c == '@' || c == '*' then
      some (String.singleton c, rest)
    else none
  | [] => none

/-- Whether the reader stands outside quotes or inside one kind of them. -/
inductive Quoting where
  | bare | single | double
deriving DecidableEq, Repr

/-- The descriptor that a redirection right after a word of one digit belongs to. -/
def descriptorOf (draft : Draft) : Option Nat :=
  match draft.pieces with
  | [.literal [c]] => if Text.isDigit c && !draft.isQuoted then some (c.toNat - '0'.toNat) else none
  | _ => none

/-- Reads characters into tokens, newest first; none when a quote is left open. Every round uses up
at least one character. -/
def readTokens : (rounds : Nat) → Quoting → Draft → List Token → List Char → Option (List Token)
  | _, .bare, draft, tokens, [] => some (.finish :: draft.close tokens)
  | 0, _, _, _, _ => none
  | _, _, _, _, [] => none
  | rounds + 1, .single, draft, tokens, c :: rest =>
    if c = '\'' then readTokens rounds .bare draft tokens rest
    else readTokens rounds .single (draft.push c) tokens rest
  | rounds + 1, .double, draft, tokens, c :: rest =>
    match c, rest with
    | '"', rest => readTokens rounds .bare draft tokens rest
    | '\\', '\n' :: rest => readTokens rounds .double draft tokens rest
    | '\\', d :: rest =>
      if d = '"' || d = '\\' || d = '$' || d.toNat = 0x60 then
        readTokens rounds .double (draft.push d) tokens rest
      else readTokens rounds .double ((draft.push '\\').push d) tokens rest
    | '$', rest =>
      match takeParameter rest with
      | some (name, rest) => readTokens rounds .double (draft.pushParameter name true) tokens rest
      | none => readTokens rounds .double (draft.push '$') tokens rest
    | c, rest => readTokens rounds .double (draft.push c) tokens rest
  | rounds + 1, .bare, draft, tokens, c :: rest =>
    match c, rest with
    | '\'', rest => readTokens rounds .single draft.quote tokens rest
    | '"', rest => readTokens rounds .double draft.quote tokens rest
    | '\\', '\n' :: rest => readTokens rounds .bare draft tokens rest
    | '\\', d :: rest => readTokens rounds .bare (draft.quote.push d) tokens rest
    | '$', rest =>
      match takeParameter rest with
      | some (name, rest) => readTokens rounds .bare (draft.pushParameter name false) tokens rest
      | none => readTokens rounds .bare (draft.push '$') tokens rest
    | ' ', rest | '\t', rest => readTokens rounds .bare {} (draft.close tokens) rest
    | '\n', rest | ';', rest => readTokens rounds .bare {} (.finish :: draft.close tokens) rest
    | '&', '&' :: rest => readTokens rounds .bare {} (.andThen :: draft.close tokens) rest
    | '|', '|' :: rest => readTokens rounds .bare {} (.orElse :: draft.close tokens) rest
    | '>', rest =>
      let (source, tokens) :=
        match descriptorOf draft with
        | some n => (n, tokens)
        | none => (1, draft.close tokens)
      match rest with
      | '&' :: d :: rest =>
        if Text.isDigit d then
          readTokens rounds .bare {} (.duplicate source (d.toNat - '0'.toNat) :: tokens) rest
        else readTokens rounds .bare {} (.toFile source :: tokens) (d :: rest)
      | '>' :: rest => readTokens rounds .bare {} (.toFile source :: tokens) rest
      | rest => readTokens rounds .bare {} (.toFile source :: tokens) rest
    | '#', rest =>
      if draft.isOpen then readTokens rounds .bare (draft.push '#') tokens rest
      else readTokens rounds .bare draft tokens (rest.dropWhile (· ≠ '\n'))
    | c, rest => readTokens rounds .bare (draft.push c) tokens rest

def tokens (script : List Char) : Option (List Token) :=
  (readTokens (script.length + 1) .bare {} [] script).map List.reverse

structure State where
  vars : List (String × String) := []
  args : List String := []
  /-- The path the script was started by. -/
  self : String := ""
  output : List UInt8 := []
  status : Nat := 0
  /-- How the script ended, once it has. -/
  ended : Option ExitStatus := none

/-- The number that stands for the process of a running script. -/
def processNumber : String := "4242"

def State.parameter (state : State) (name : String) : String :=
  match name with
  | "#" => toString state.args.length
  | "?" => toString state.status
  | "$" => processNumber
  | "0" => state.self
  | "@" | "*" => " ".intercalate state.args
  | name =>
    match name.toNat? with
    | some n => (state.args[n - 1]?).getD ""
    | none => (state.vars.lookup name).getD ""

/-- The characters of a word after replacing parameters; the flag marks blanks at which an
unquoted value is split. -/
def expandPieces (state : State) (pieces : List Piece) : List (Char × Bool) :=
  pieces.flatMap fun
    | .literal text => text.map (·, false)
    | .parameter name isQuoted =>
      (state.parameter name).toList.map fun c =>
        (c, !isQuoted && (c == ' ' || c == '\t' || c == '\n'))

/-- Splits at the marked characters and drops what is empty between them. -/
def splitMarked : List (Char × Bool) → List Char → List (List Char)
  | [], current => if current.isEmpty then [] else [current.reverse]
  | (_, true) :: rest, current =>
    if current.isEmpty then splitMarked rest [] else current.reverse :: splitMarked rest []
  | (c, false) :: rest, current => splitMarked rest (c :: current)

/-- The fields that a word stands for: none for an empty unquoted word. -/
def expandWord (state : State) (pieces : List Piece) (isQuoted : Bool) : List String :=
  match splitMarked (expandPieces state pieces) [] with
  | [] => if isQuoted then [""] else []
  | fields => fields.map String.ofList

/-- Up to three octal digits as a byte, and the characters after them. -/
def takeOctal (cs : List Char) : Option (UInt8 × List Char) :=
  let digits := (cs.take 3).takeWhile fun c => '0' ≤ c && c ≤ '7'
  if digits.isEmpty then none
  else
    some (UInt8.ofNat (digits.foldl (fun n c => 8 * n + (c.toNat - '0'.toNat)) 0),
      cs.drop digits.length)

def escapeByte? : Char → Option UInt8
  | 'a' => some 7
  | 'b' => some 8
  | 'f' => some 12
  | 'n' => some 10
  | 'r' => some 13
  | 't' => some 9
  | 'v' => some 11
  | '\\' => some 92
  | _ => none

/-- What `echo` writes for its text, and whether the text asked for no more output. -/
def echoBytes : (rounds : Nat) → List Char → List UInt8 × Bool
  | _, [] => ([], false)
  | 0, _ => ([], false)
  | rounds + 1, '\\' :: c :: rest =>
    match c with
    | 'c' => ([], true)
    | '0' =>
      match takeOctal rest with
      | some (byte, rest) =>
        let (bytes, stop) := echoBytes rounds rest
        (byte :: bytes, stop)
      | none =>
        let (bytes, stop) := echoBytes rounds rest
        (0 :: bytes, stop)
    | c =>
      let (bytes, stop) := echoBytes rounds rest
      match escapeByte? c with
      | some byte => (byte :: bytes, stop)
      | none => (92 :: Text.Utf8.encodeChar c ++ bytes, stop)
  | rounds + 1, c :: rest =>
    let (bytes, stop) := echoBytes rounds rest
    (Text.Utf8.encodeChar c ++ bytes, stop)

/-- What one pass of `printf` over its format writes, and the arguments left over. -/
def formatBytes : (rounds : Nat) → List Char → List String → List UInt8 × List String
  | _, [], args => ([], args)
  | 0, _, args => ([], args)
  | rounds + 1, '\\' :: c :: rest, args =>
    match escapeByte? c, takeOctal (c :: rest) with
    | some byte, _ =>
      let (bytes, args) := formatBytes rounds rest args
      (byte :: bytes, args)
    | none, some (byte, rest) =>
      let (bytes, args) := formatBytes rounds rest args
      (byte :: bytes, args)
    | none, none =>
      let (bytes, args) := formatBytes rounds rest args
      (if c = '"' || c = '\'' then Text.Utf8.encodeChar c ++ bytes
       else 92 :: Text.Utf8.encodeChar c ++ bytes, args)
  | rounds + 1, '%' :: '%' :: rest, args =>
    let (bytes, args) := formatBytes rounds rest args
    (37 :: bytes, args)
  | rounds + 1, '%' :: c :: rest, args =>
    let (shown, args) : List UInt8 × List String :=
      match c, args with
      | 's', arg :: args => (Text.Utf8.encode arg, args)
      | 'b', arg :: args => ((echoBytes (arg.length + 1) arg.toList).1, args)
      | 'd', arg :: args | 'i', arg :: args | 'u', arg :: args => (Text.Utf8.encode arg, args)
      | 'd', [] | 'i', [] | 'u', [] => ([48], [])
      | _, args => ([], args)
    let (bytes, args) := formatBytes rounds rest args
    (shown ++ bytes, args)
  | rounds + 1, c :: rest, args =>
    let (bytes, args) := formatBytes rounds rest args
    (Text.Utf8.encodeChar c ++ bytes, args)

/-- What `printf` writes: the format is used again while arguments are left and it takes some. -/
def printfBytes : (rounds : Nat) → List Char → List String → List UInt8
  | 0, _, _ => []
  | rounds + 1, format, args =>
    match formatBytes (format.length + 1) format args with
    | (bytes, []) => bytes
    | (bytes, left) =>
      if left.length < args.length then bytes ++ printfBytes rounds format left else bytes

/-- Whether a condition of `test` holds, or none when it cannot be read. -/
def testHolds : List String → Option Bool
  | [] => some false
  | [text] => some (text ≠ "")
  | ["!", text] => some (text = "")
  | ["-n", text] => some (text ≠ "")
  | ["-z", text] => some (text = "")
  | [a, "=", b] => some (a = b)
  | [a, "!=", b] => some (a ≠ b)
  | [a, op, b] =>
    match a.toInt?, b.toInt? with
    | some a, some b =>
      match op with
      | "-eq" => some (a = b)
      | "-ne" => some (a ≠ b)
      | "-lt" => some (a < b)
      | "-le" => some (a ≤ b)
      | "-gt" => some (a > b)
      | "-ge" => some (a ≥ b)
      | _ => none
    | _, _ => none
  | "!" :: rest =>
    match rest with
    | [a, "=", b] => some (a ≠ b)
    | [a, "!=", b] => some (a = b)
    | ["-n", text] => some (text = "")
    | ["-z", text] => some (text ≠ "")
    | _ => none
  | _ => none

def signalNumber? (text : String) : Option Nat :=
  match text.toNat? with
  | some n => some n
  | none =>
    let name := if text.startsWith "SIG" then text else "SIG" ++ text
    (List.range 32).find? fun n => n ≠ 0 && ExitStatus.signalName n == name

/-- What a signal does to a process that does not handle it. -/
def endBySignal (state : State) (signal : Nat) : State :=
  if signal = 0 || signal = 18 || signal = 17 || signal = 23 || signal = 28 then
    { state with status := 0 }
  else { state with ended := some (.killed signal) }

def exitCode (state : State) : List String → Nat
  | text :: _ => (text.toNat?.map (· % 256)).getD 2
  | [] => state.status

/-- Appends to standard output, unless the output was sent elsewhere. -/
def State.write (state : State) (shown : Bool) (bytes : List UInt8) : State :=
  { state with output := if shown then state.output ++ bytes else state.output, status := 0 }

/-- Whether a word is an assignment; its name and value. -/
def assignment? (word : String) : Option (String × String) :=
  match word.toList.span isNamePart with
  | (c :: name, '=' :: value) =>
    if isNameStart c then some (String.ofList (c :: name), String.ofList value) else none
  | _ => none

/-- Runs one command whose standard output is shown or not. -/
def runCommand (state : State) (shown : Bool) : List String → State
  | [] => { state with status := 0 }
  | command :: args =>
    match command, args with
    | ":", _ | "true", _ | "export", _ | "set", _ | "trap", _ | "umask", _ | "unset", _ =>
      { state with status := 0 }
    | "false", _ => { state with status := 1 }
    | "echo", "-n" :: args =>
      let text := " ".intercalate args
      state.write shown (echoBytes (text.length + 1) text.toList).1
    | "echo", args =>
      let text := " ".intercalate args
      let (bytes, stop) := echoBytes (text.length + 1) text.toList
      state.write shown (if stop then bytes else bytes ++ [10])
    | "printf", format :: args =>
      state.write shown (printfBytes (args.length + 1) format.toList args)
    | "exit", args => { state with ended := some (.exited (exitCode state args)) }
    | "return", args => { state with ended := some (.exited (exitCode state args)) }
    | "shift", _ => { state with args := state.args.drop 1, status := 0 }
    | "kill", ["-s", signal, target] | "kill", [signal, target] =>
      let named := if signal.startsWith "-" then (signal.drop 1).toString else signal
      match signalNumber? named with
      | some n =>
        if target = processNumber then endBySignal state n else { state with status := 1 }
      | none => { state with status := 1 }
    | "kill", [target] =>
      if target = processNumber then endBySignal state 15 else { state with status := 1 }
    | "test", args =>
      match testHolds args with
      | some holds => { state with status := if holds then 0 else 1 }
      | none => { state with status := 2 }
    | "[", args =>
      match args.getLast?, testHolds args.dropLast with
      | some "]", some holds => { state with status := if holds then 0 else 1 }
      | _, _ => { state with status := 2 }
    | command, [] =>
      match assignment? command with
      | some (name, value) => { state with vars := (name, value) :: state.vars, status := 0 }
      | none => { state with status := 127 }
    | _, _ => { state with status := 127 }

/-- A command as it is read: its words, where its output goes, and whether its status is turned
around. -/
structure Command where
  words : List (List Piece × Bool) := []
  /-- Whether descriptor 1 still is standard output. -/
  isShown : Bool := true
  isNegated : Bool := false

inductive Condition where
  | always | onSuccess | onFailure

/-- Runs a command under its condition. A command that is passed over leaves the status. -/
def runIf (state : State) (condition : Condition) (command : Command) : State :=
  let due :=
    match condition with
    | .always => true
    | .onSuccess => state.status == 0
    | .onFailure => state.status != 0
  if state.ended.isSome || !due || command.words.isEmpty then state
  else
    let words := command.words.flatMap fun (pieces, isQuoted) => expandWord state pieces isQuoted
    let state := runCommand state command.isShown words
    if command.isNegated then { state with status := if state.status == 0 then 1 else 0 } else state

def runTokens : State → Condition → Command → List Token → State
  | state, _, _, [] => state
  | state, condition, command, token :: rest =>
    match token with
    | .word [.literal ['!']] false =>
      if command.words.isEmpty then
        runTokens state condition { command with isNegated := true } rest
      else
        runTokens state condition
          { command with words := command.words ++ [([.literal ['!']], false)] } rest
    | .word pieces isQuoted =>
      runTokens state condition
        { command with words := command.words ++ [(pieces, isQuoted)] } rest
    | .negate => runTokens state condition { command with isNegated := true } rest
    | .duplicate source target =>
      runTokens state condition
        (if source = 1 && target ≠ 1 then { command with isShown := false } else command) rest
    | .toFile source =>
      runTokens state condition
        (if source = 1 then { command with isShown := false } else command) (rest.drop 1)
    | .finish => runTokens (runIf state condition command) .always {} rest
    | .andThen => runTokens (runIf state condition command) .onSuccess {} rest
    | .orElse => runTokens (runIf state condition command) .onFailure {} rest
termination_by _ _ _ tokens => tokens.length

def run (script : List Char) (self : String) (args : List String) : LauncherOutcome :=
  match tokens script with
  | none => .finished (.exited 2) []
  | some tokens =>
    let state := runTokens { self := self, args := args } .always {} tokens
    .finished (state.ended.getD (.exited state.status)) state.output

end ManagedHost.Script
