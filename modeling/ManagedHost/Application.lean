import ManagedHost.CommandLine
import ManagedHost.Log.Filter
import ManagedHost.Server.Session
import ManagedHost.Settings.Document
import ManagedHost.Settings.Loader

/-!
The program. It reads its command line and its settings, starts a session, and then either calls
the managed side once, as a test, or waits for a signal; either way the runtime is torn down. What
still has a runtime when the process ends is torn down then.
-/

namespace ManagedHost

def platformName : String := "Linux"

def platformBanner : String := "Running on " ++ platformName ++ " (64-bit)"

/-- What ends the wait of the program. -/
inductive Wakeup where
  | interrupt
  | terminate
  /-- Nothing can be waited for. -/
  | failure (reason : String)
deriving DecidableEq

inductive ApplicationFault where
  | settings (fault : Settings.LoadFault)
  | refused (refusal : Settings.Refusal)
  | bridge (error : BridgeError)
  | wait (reason : String)
deriving DecidableEq

namespace ApplicationFault

def message : ApplicationFault → String
  | settings (.file error) => error.message
  | settings (.document fault) => (fault.message?.getD "TOML parse error") ++ "\n"
  | refused refusal => "Configuration validation failed: " ++ refusal.message
  | bridge error => error.message
  | wait reason => reason

def cause? : ApplicationFault → Option String
  | bridge (.io _ reason) => some reason
  | _ => none

def chain (fault : ApplicationFault) : String :=
  match fault.cause? with
  | some cause => fault.message ++ ": " ++ cause
  | none => fault.message

def report (fault : ApplicationFault) : String :=
  "Error: " ++ fault.message ++
    (match fault.cause? with
      | some cause => "\n\nCaused by:\n    " ++ cause
      | none => "")

end ApplicationFault

structure Application where
  settings : Settings
  line : CommandLine

namespace Application

def override (settings : Settings) (line : CommandLine) : Settings :=
  { settings with
    bootstrap :=
      { settings.bootstrap with
        assemblyPath := line.assembly.getD settings.bootstrap.assemblyPath }
    logging :=
      { level := line.logLevel.getD settings.logging.level
        jsonFormat := line.jsonLogs || settings.logging.jsonFormat } }

/-- Takes the settings from their file and accepts what the command line makes of them. -/
def create (line : CommandLine) : Action (Except ApplicationFault Application) := do
  let world ← get
  let (files, loaded) := Settings.load world.files world.directory line.config
  set { world with files }
  match ← Action.emit loaded with
  | .error fault => return .error (.settings fault)
  | .ok settings =>
    let settings := override settings line
    match settings.validate with
    | .error refusal => return .error (.refused refusal)
    | .ok () => return .ok ⟨settings, line⟩

/-- What the log of the program shows: the variable for it decides, and the settings where it is
unset or cannot be read. -/
def filter (settings : Settings) (env : Environment) : LogFilter :=
  match (env.get? "RUST_LOG").bind LogFilter.ofText? with
  | some filter => filter
  | none => LogFilter.ofLevel ((LogLevel.ofName? settings.logging.level).getD .error)

def print (foreign : Foreign) (stream text : String) : Action Unit :=
  (Operation.note stream text).run foreign

def bridgeId : BridgeId := 0

def startSession (foreign : Foreign) (app : Application) (env : Environment) :
    Action (Except ApplicationFault Session) := do
  match app.settings.loader env with
  | .error refusal => return .error (.refused refusal)
  | .ok loader =>
    match ← Session.start foreign bridgeId app.settings.imports loader with
    | .error e =>
      let fault := ApplicationFault.bridge e
      Action.log .error .application ("Failed to start the .NET runtime: " ++ fault.chain)
      return .error fault
    | .ok session => return .ok session

/-- Calls the managed side once, tears the runtime down and prints what came of the call. -/
def testSession (foreign : Foreign) (session : Session) :
    Action (Except ApplicationFault Unit) := do
  let answer ← session.selfTest foreign
  discard (session.shutdown foreign)
  match answer with
  | .error e => return .error (.bridge e)
  | .ok text =>
    print foreign "output" ("[dotnet] round-trip: " ++ text)
    return .ok ()

/-- Tears a bridge down on a signal. Tells whether it had a runtime. -/
def teardownOn (foreign : Foreign) (b : BridgeId) (signal : Wakeup) : Action Bool := do
  Action.log .info .signals
    (if signal = .interrupt then "Received SIGINT" else "Received SIGTERM")
  (Operation.teardown b).run foreign

def awaitSignal (foreign : Foreign) (session : Session) (wakeup : Wakeup) :
    Action (Except ApplicationFault Unit) := do
  Action.log .info .application "Spadecs runtime host is running, press Ctrl+C to stop"
  match wakeup with
  | .failure reason => return .error (.wait reason)
  | signal =>
    if ← teardownOn foreign session.bridge signal then
      Action.log .info .application "Runtime shut down"
    return .ok ()

def run (foreign : Foreign) (app : Application) (env : Environment) (wakeup : Wakeup) :
    Action (Except ApplicationFault Unit) := do
  Action.log .info .logging ("Logging initialized with level: " ++ app.settings.logging.level)
  Action.log .info .application platformBanner
  Action.log .info .application
    ("Config: " ++ app.line.config ++ " | Bootstrap: " ++ app.settings.bootstrap.assemblyPath)
  match ← startSession foreign app env with
  | .error fault => return .error fault
  | .ok session =>
    if app.line.selfTest then testSession foreign session
    else awaitSignal foreign session wakeup

structure Outcome where
  exitCode : Nat
  output : List String := []
  errors : List String := []
  shown : List LogLine := []
  isJson : Bool := false

/-- The lines of a text, the last of which may lack its end. -/
def linesOf (text : String) : List String :=
  let parts := text.splitOn "\n"
  if parts.getLast? = some "" then parts.dropLast else parts

def printed (world : World) (stream : String) : List String :=
  (world.notes.filter (·.topic == stream)).reverse.flatMap fun taken => linesOf taken.text

/-- Runs the program from its arguments to the end of the process. -/
def main (foreign : Foreign) (args : List String) (env : Environment) (wakeup : Wakeup) :
    Action Outcome := do
  match CommandLine.ofArguments args with
  | .error fault =>
    let text := linesOf (fault.message (CommandLine.usageName args))
    match fault with
    | .help | .version => return { exitCode := 0, output := text }
    | _ => return { exitCode := 2, errors := text }
  | .ok line =>
    match ← create line with
    | .error fault => return { exitCode := 1, errors := linesOf fault.report }
    | .ok app =>
      let unseen := (← get).log.length
      let result ← app.run foreign env wakeup
      if (← Action.process).hasExitHook then
        discard (Operation.runExitTeardown.run foreign)
      let world ← get
      let lines := (world.log.take (world.log.length - unseen)).reverse
      return {
        exitCode := if result.isOk then 0 else 1
        output := printed world "output"
        errors := match result with
          | .ok () => []
          | .error fault => linesOf fault.report
        shown := lines.filter (filter app.settings env).shows
        isJson := app.settings.logging.jsonFormat }

end Application

end ManagedHost
