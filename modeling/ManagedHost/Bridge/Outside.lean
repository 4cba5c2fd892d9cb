import ManagedHost.Bridge.Operation

/-!
Code outside the program. It is given by a function that says, for every state of the world, how
each call is conducted: a conduct looks at the world, has operations carried out one after the
other, and ends with a reply. Operations may call outside again; `answer` follows such calls to a
given depth, below which they are answered with an inert reply. The entry of a binding is part of
the program wherever it is called from.
-/

namespace ManagedHost

/-- What foreign code does before it replies. -/
inductive Conduct (ρ : Type) where
  | reply (value : ρ)
  | look (next : World → Conduct ρ)
  | perform (operation : Operation) (next : operation.Result → Conduct ρ)

namespace Conduct

/-- Carries out a conduct and then another one that depends on the first one's reply. -/
def andThen {α β : Type} : Conduct α → (α → Conduct β) → Conduct β
  | reply value, f => f value
  | look next, f => look fun world => (next world).andThen f
  | perform operation next, f => perform operation fun result => (next result).andThen f

instance : Monad Conduct where
  pure := reply
  bind := andThen

def doing (operation : Operation) : Conduct operation.Result := perform operation reply

def seeing {α : Type} (view : World → α) : Conduct α := look fun world => reply (view world)

def run {ρ : Type} (foreign : Foreign) : Conduct ρ → Action ρ
  | reply value => pure value
  | look next => do (next (← get)).run foreign
  | perform operation next => do (next (← operation.run foreign)).run foreign

end Conduct

/-- The conduct of all code outside the program. -/
abbrev Outside := World → (call : ForeignCall) → Conduct call.Reply

/-- The reply of code that does nothing. -/
def ForeignCall.inertReply : (call : ForeignCall) → call.Reply
  | listRuntimes _ => .ok []
  | runLauncher _ => .finished (.exited 0) []
  | openFile path => .error (.hostLibraryLoad path)
  | openSupplied _ path => .error (.hostLibraryLoad path)
  | startUp _ _ _ => .error (-1)
  | createDelegate _ _ _ _ _ => .error (-1)
  | shutDown _ _ => .ok ()
  | managed _ _ _ _ => .word 0
  | native _ _ _ => none

namespace Outside

def react (outside : Outside) (below : Foreign) (call : ForeignCall) : Action call.Reply := do
  (outside (← get) call).run below

/-- How a call is conducted, given how the calls below it are answered. -/
def conduct (outside : Outside) (below : Foreign) : (call : ForeignCall) → Action call.Reply
  | .managed purpose address signature cells => do
    match (← Action.process).adapterAt? address with
    | some (id, adapter) => Action.enterAdapter below id adapter cells
    | none => outside.react below (.managed purpose address signature cells)
  | call => outside.react below call

/-- Answers calls that are nested to the given depth, and enters them in the history. -/
def answer (outside : Outside) : (depth : Nat) → Foreign
  | 0 => fun call => do
    Action.record (.called call)
    Action.record (.replied call call.inertReply)
    return call.inertReply
  | depth + 1 => fun call => do
    Action.record (.called call)
    let reply ← outside.conduct (outside.answer depth) call
    Action.record (.replied call reply)
    return reply

end Outside

end ManagedHost
