/-!
The log: lines with a level and the part of the program they come from, and values that were
computed while such lines were written. A line is shown when its level is at least as severe as
the level asked for.
-/

namespace ManagedHost

/-- How severe a log line is, the most severe first. -/
inductive LogLevel where
  | error | warn | info | debug | trace
deriving DecidableEq, Repr

namespace LogLevel

/-- The rank of a level: a higher rank shows less severe lines too. -/
def rank : LogLevel → Nat
  | error => 0
  | warn => 1
  | info => 2
  | debug => 3
  | trace => 4

def label : LogLevel → String
  | error => "ERROR"
  | warn => "WARN"
  | info => "INFO"
  | debug => "DEBUG"
  | trace => "TRACE"

def names : List String := ["trace", "debug", "info", "warn", "error"]

def ofName? : String → Option LogLevel
  | "trace" => some trace
  | "debug" => some debug
  | "info" => some info
  | "warn" => some warn
  | "error" => some error
  | _ => none

end LogLevel

inductive LogSource where
  | locator | version | library | bridge | resolver | exit | outbound | objects
  | application | settings | logging | signals | exports | connection
deriving DecidableEq, Repr

/-- The name under which a part of the program appears in structured log output. -/
def LogSource.target : LogSource → String
  | locator => "clr_bridge::locator"
  | version => "clr_bridge::version"
  | library => "clr_bridge::host"
  | bridge => "clr_bridge::bridge"
  | resolver => "clr_bridge::resolver"
  | exit => "clr_bridge::lifecycle"
  | outbound => "clr_bridge::bindings::outbound"
  | objects => "clr_bridge::tracking"
  | application => "spadecs::app"
  | settings => "spadecs::config"
  | logging => "spadecs::logging"
  | signals => "spadecs::signals"
  | exports => "spadecs::exports"
  | connection => "spadecs::connection"

structure LogLine where
  level : LogLevel
  source : LogSource
  message : String
deriving DecidableEq, Repr

namespace LogLine

def visibleAt (threshold : LogLevel) (line : LogLine) : Bool :=
  line.level.rank ≤ threshold.rank

def render (line : LogLine) : String := line.level.label ++ " " ++ line.message

end LogLine

/-- A value together with the log lines written on the way to it, oldest first. -/
structure Logged (α : Type) where
  value : α
  lines : List LogLine := []

namespace Logged

def write (level : LogLevel) (source : LogSource) (message : String) : Logged Unit :=
  ⟨(), [⟨level, source, message⟩]⟩

instance : Monad Logged where
  pure a := ⟨a, []⟩
  bind x f := ⟨(f x.value).value, x.lines ++ (f x.value).lines⟩

@[simp] theorem value_pure {α : Type} (a : α) : (pure a : Logged α).value = a := rfl

@[simp] theorem value_bind {α β : Type} (x : Logged α) (f : α → Logged β) :
    (x >>= f).value = (f x.value).value := rfl

end Logged

end ManagedHost
