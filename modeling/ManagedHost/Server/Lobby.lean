/-!
The players of a server. A player sits at a seat, a number below 256, and keeps its record after
it has left. Joining takes the lowest seat that is free.
-/

namespace ManagedHost

structure Player where
  disconnected : Bool := false
deriving DecidableEq, Inhabited

/-- The seats that are taken, each with the number of the player at it, and the records of all
players that ever joined, in the order in which they joined. -/
structure Lobby where
  seats : List (UInt8 × Nat) := []
  players : List Player := []
deriving DecidableEq

namespace Lobby

def player? (lobby : Lobby) (seat : UInt8) : Option Nat := lobby.seats.lookup seat

def record? (lobby : Lobby) (player : Nat) : Option Player := lobby.players[player]?

def allSeats : List UInt8 := (List.range 256).map UInt8.ofNat

def freeSeat? (lobby : Lobby) : Option UInt8 :=
  allSeats.find? fun seat => (lobby.player? seat).isNone

/-- A new player takes the lowest free seat, if there is one. -/
def join (lobby : Lobby) : Option (UInt8 × Lobby) :=
  lobby.freeSeat?.map fun seat =>
    (seat, ⟨(seat, lobby.players.length) :: lobby.seats, lobby.players ++ [default]⟩)

def leave (lobby : Lobby) (seat : UInt8) : Lobby :=
  { lobby with seats := lobby.seats.filter (·.1 ≠ seat) }

def disconnect (lobby : Lobby) (player : Nat) : Lobby :=
  { lobby with players := lobby.players.modify player fun _ => ⟨true⟩ }

end Lobby

end ManagedHost
