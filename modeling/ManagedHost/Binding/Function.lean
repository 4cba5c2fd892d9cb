import ManagedHost.Objects.Heap
import ManagedHost.Wire.Arguments

/-!
Native functions that can be bound. The program brings two of its own: one that writes a text to
the log, and one that kicks a player out of a lobby that it does not own. Any other is known by a
number and by its types; what it does is up to whoever supplied it.
-/

namespace ManagedHost

inductive NativeFunction where
  /-- Writes its text to the log. -/
  | report
  | kick (lobby : ObjectId)
  /-- A function from outside the program. -/
  | supplied (id : Nat) (signature : Signature)
deriving DecidableEq

namespace NativeFunction

@[reducible] def signature : NativeFunction → Signature
  | report => ⟨.int32, [.utf8String]⟩
  | kick _ => ⟨.void, [.uint8]⟩
  | supplied _ signature => signature

end NativeFunction

end ManagedHost
