import ManagedHost.Error
import ManagedHost.Runtime.Listing
import ManagedHost.Text.Utf8

/-!
What running the launcher yields and what it means for the listing of runtimes: the listing is the
text the launcher wrote, and a launcher that does not start, does not end with status zero or does
not write UTF-8 is an error that says so.
-/

namespace ManagedHost

inductive ExitStatus where
  | exited (code : Nat)
  | killed (signal : Nat)
deriving DecidableEq, Repr

namespace ExitStatus

def signalName : Nat → String
  | 1 => "SIGHUP"
  | 2 => "SIGINT"
  | 3 => "SIGQUIT"
  | 4 => "SIGILL"
  | 5 => "SIGTRAP"
  | 6 => "SIGABRT"
  | 7 => "SIGBUS"
  | 8 => "SIGFPE"
  | 9 => "SIGKILL"
  | 10 => "SIGUSR1"
  | 11 => "SIGSEGV"
  | 12 => "SIGUSR2"
  | 13 => "SIGPIPE"
  | 14 => "SIGALRM"
  | 15 => "SIGTERM"
  | 16 => "SIGSTKFLT"
  | 24 => "SIGXCPU"
  | 25 => "SIGXFSZ"
  | 26 => "SIGVTALRM"
  | 27 => "SIGPROF"
  | 29 => "SIGIO"
  | 30 => "SIGPWR"
  | 31 => "SIGSYS"
  | _ => ""

def message : ExitStatus → String
  | exited code => "exit status: " ++ toString code
  | killed signal =>
    "signal: " ++ toString signal ++
      (if signalName signal = "" then "" else " (" ++ signalName signal ++ ")")

end ExitStatus

/-- What came of running the launcher. -/
inductive LauncherOutcome where
  | notStarted (reason : String)
  | finished (status : ExitStatus) (output : List UInt8)
deriving DecidableEq, Repr

def LauncherOutcome.runtimes (launcher : String) :
    LauncherOutcome → Except BridgeError (List Runtime)
  | notStarted reason => .error (.runtimeListing launcher reason)
  | finished (.exited 0) output =>
    match Text.Utf8.decode output with
    | .ok listing => .ok (Runtime.ofListing listing)
    | .error fault => .error (.runtimeListing launcher fault.message)
  | finished status _ => .error (.runtimeListing launcher ("exited with " ++ status.message))

end ManagedHost
