import ManagedHost.Bridge.Outbound

/-! # Who sits at a seat

Players are numbered in the order in which they join a lobby, and a number is never given out twice.
Of all that happens in a lobby only joining and leaving say who sits where: the holder of a seat is
the player who joined last at it, if that one has not left (`holder?`). A lobby `Tells` its turns if
it seats everybody there. It does so after every player who joins, leaves or is kicked, and each of
these does just one thing (`Admits`, `Releases`, `Marks`). -/

namespace ManagedHost

/-- What happens at a seat. -/
inductive Turn where
  /-- A new player sits down. -/
  | joined (seat : UInt8)
  /-- Whoever sits there gets up. -/
  | left (seat : UInt8)
deriving DecidableEq

/-! ## Reading the turns, the newest first -/

/-- How many players have joined. -/
def headcount : List Turn → Nat
  | [] => 0
  | .joined _ :: earlier => headcount earlier + 1
  | .left _ :: earlier => headcount earlier

/-- The number of the player who joined last at a seat, if that player has not left. -/
def holder? (seat : UInt8) : List Turn → Option Nat
  | [] => none
  | .joined other :: earlier =>
    if other = seat then some (headcount earlier) else holder? seat earlier
  | .left other :: earlier => if other = seat then none else holder? seat earlier

/-- The holder of a seat has joined. -/
theorem holder?_lt {seat : UInt8} {turns : List Turn} {player : Nat}
    (holds : holder? seat turns = some player) : player < headcount turns := by
  induction turns with
  | nil => cases holds
  | cons turn earlier ih =>
    cases turn with
    | joined other =>
      rw [holder?] at holds
      rw [headcount]
      split at holds
      · cases holds
        exact Nat.lt_succ_self _
      · exact Nat.lt_succ_of_lt (ih holds)
    | left other =>
      rw [holder?] at holds
      split at holds
      · cases holds
      · exact ih holds

/-- Nobody holds two seats. -/
theorem holder?_injective {first second : UInt8} {turns : List Turn} {player : Nat}
    (holds : holder? first turns = some player) (holds' : holder? second turns = some player) :
    first = second := by
  induction turns with
  | nil => cases holds
  | cons turn earlier ih =>
    cases turn with
    | joined other =>
      rw [holder?] at holds holds'
      split at holds <;> split at holds'
      · next same same' => exact same.symm.trans same'
      · -- The player that has just joined is none of those that were there.
        cases holds
        exact absurd (holder?_lt holds') (Nat.lt_irrefl _)
      · cases holds'
        exact absurd (holder?_lt holds) (Nat.lt_irrefl _)
      · exact ih holds holds'
    | left other =>
      rw [holder?] at holds holds'
      split at holds
      · cases holds
      · split at holds'
        · cases holds'
        · exact ih holds holds'

namespace Lobby

variable {lobby lobby' : Lobby} {seat : UInt8} {player : Nat} {turns : List Turn}

/-! ## What is done to a lobby -/

/-- A new player, who is not disconnected, takes the lowest seat that is free. -/
structure Admits (lobby : Lobby) (seat : UInt8) (lobby' : Lobby) : Prop where
  free : lobby.player? seat = none
  lowest : ∀ lower < seat, lobby.player? lower ≠ none
  player? : ∀ other, lobby'.player? other =
    if other = seat then some lobby.players.length else lobby.player? other
  players : lobby'.players = lobby.players ++ [⟨false⟩]

/-- Nobody sits at the seat any more. Nothing else changes. -/
structure Releases (lobby : Lobby) (seat : UInt8) (lobby' : Lobby) : Prop where
  player? : ∀ other, lobby'.player? other = if other = seat then none else lobby.player? other
  players : lobby'.players = lobby.players

/-- The player, and no other, is marked as disconnected. All stay where they are. -/
structure Marks (lobby : Lobby) (player : Nat) (lobby' : Lobby) : Prop where
  seats : lobby'.seats = lobby.seats
  record? : ∀ other, lobby'.record? other =
    if other = player then some ⟨true⟩ else lobby.record? other

/-- Who joins takes the lowest seat that is free. -/
theorem admits_of_join (joined : lobby.join = some (seat, lobby')) :
    lobby.Admits seat lobby' := by
  obtain ⟨found, free, same⟩ := Option.map_eq_some_iff.mp joined
  cases same
  rw [freeSeat?, allSeats, List.find?_map] at free
  obtain ⟨n, first, rfl⟩ := Option.map_eq_some_iff.mp free
  obtain ⟨isFree, below, taken⟩ := List.find?_range_eq_some.mp first
  have small : n < 256 := List.mem_range.mp below
  refine ⟨Option.isNone_iff_eq_none.mp isFree, fun lower less => ?_, fun other => ?_, rfl⟩
  · have before : lower.toNat < n := by
      simpa [Nat.mod_eq_of_lt small] using UInt8.lt_iff_toNat_lt.mp less
    simpa [Option.isSome_iff_ne_none] using taken lower.toNat before
  · rw [player?, List.lookup_cons]
    by_cases same : other = UInt8.ofNat n
    · simp [same]
    · rw [beq_false_of_ne same, if_neg same]
      rfl

/-- Nobody can join just where all seats are taken. -/
theorem join_eq_none_iff_taken : lobby.join = none ↔ ∀ seat, lobby.player? seat ≠ none := by
  rw [join, Option.map_eq_none_iff, freeSeat?, allSeats, List.find?_map, Option.map_eq_none_iff,
    List.find?_range_eq_none]
  constructor
  · intro taken seat
    simpa [Option.isSome_iff_ne_none] using taken seat.toNat seat.toNat_lt
  · intro taken n _
    simpa [Option.isSome_iff_ne_none] using taken (UInt8.ofNat n)

theorem releases_leave (lobby : Lobby) (seat : UInt8) :
    lobby.Releases seat (lobby.leave seat) := by
  refine ⟨fun other => ?_, rfl⟩
  by_cases same : other = seat
  · subst same
    rw [if_pos rfl, player?, leave, List.lookup_eq_none_iff]
    intro entry member
    have elsewhere : entry.1 ≠ other := by simpa using (List.mem_filter.mp member).2
    exact bne_iff_ne.mpr elsewhere.symm
  · rw [if_neg same]
    exact lookup_filter_of_kept (fun _ => decide_eq_true same) lobby.seats

theorem marks_disconnect (joined : player < lobby.players.length) :
    lobby.Marks player (lobby.disconnect player) := by
  refine ⟨rfl, fun other => ?_⟩
  rw [record?, disconnect, List.getElem?_modify]
  by_cases same : player = other
  · subst same
    simp [joined]
  · simp [same, Ne.symm same, record?]

/-! ## A lobby and its turns -/

/-- Everybody sits where the turns say, and nobody else was ever there. -/
structure Tells (lobby : Lobby) (turns : List Turn) : Prop where
  player? : ∀ seat, lobby.player? seat = holder? seat turns
  count : lobby.players.length = headcount turns

namespace Tells

/-- An empty lobby is one that nobody has joined. -/
theorem empty (nobody : headcount turns = 0) : Tells {} turns := by
  refine ⟨fun seat => ?_, nobody.symm⟩
  cases holds : holder? seat turns with
  | none => rfl
  | some player =>
    have joined := holder?_lt holds
    omega

theorem joined (tells : lobby.Tells turns) (admits : lobby.Admits seat lobby') :
    lobby'.Tells (.joined seat :: turns) := by
  constructor
  · intro other
    rw [admits.player?, holder?, tells.count, tells.player?]
    simp only [eq_comm]
  · rw [admits.players, List.length_append, tells.count]
    rfl

theorem left (tells : lobby.Tells turns) (releases : lobby.Releases seat lobby') :
    lobby'.Tells (.left seat :: turns) := by
  constructor
  · intro other
    rw [releases.player?, holder?, tells.player?]
    simp only [eq_comm]
  · rw [releases.players, tells.count]
    rfl

/-- Nobody moves when one is kicked. -/
theorem kicked (tells : lobby.Tells turns) (kicks : lobby.kick? seat = some lobby') :
    lobby'.Tells turns := by
  obtain ⟨player, -, rfl⟩ := Option.map_eq_some_iff.mp kicks
  refine ⟨tells.player?, ?_⟩
  rw [disconnect, List.length_modify, tells.count]

/-- Whoever sits somewhere has joined. -/
theorem lt_length (tells : lobby.Tells turns) (sits : lobby.player? seat = some player) :
    player < lobby.players.length := by
  rw [tells.player?] at sits
  rw [tells.count]
  exact holder?_lt sits

/-- Nobody sits at two seats. -/
theorem injective (tells : lobby.Tells turns) {other : UInt8}
    (sits : lobby.player? seat = some player) (sits' : lobby.player? other = some player) :
    seat = other := by
  rw [tells.player?] at sits sits'
  exact holder?_injective sits sits'

end Tells

end Lobby

end ManagedHost
