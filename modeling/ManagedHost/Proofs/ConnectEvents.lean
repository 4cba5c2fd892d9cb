import ManagedHost.Proofs.CallThrough
import ManagedHost.Server.Exports
import Mathlib.Data.List.Nodup

/-! # Connect events

In a connect event the handler before is asked once; if it has no opinion, the default logic runs
once, and then the handler after is asked if the client has a seat. `Connects` tells an event with
all that happened in it. Since the seat is read from the client and not from the outcome of the
default logic, a client that is refused but was seated before is asked about its old seat; this is
the only case in which a seat is asked about that the event has not given (`connect_event`). -/

namespace ManagedHost

open ManagedHost.Action

/-! ## Asking a handler -/

/-- A handler is asked once. One that fails is written to the log and has no opinion. -/
inductive Asks (event address : String) (handler : Action (Except BridgeError Verdict))
    (w : World) : Verdict → World → Prop
  | answered {verdict : Verdict} {w' : World} (ran : Returns handler w (.ok verdict) w') :
      Asks event address handler w verdict w'
  | failed {e : BridgeError} {w₁ w' : World} (ran : Returns handler w (.error e) w₁)
      (warned : Returns (log .warn .connection
        (event ++ " handler failed for " ++ address ++ ": " ++ e.message)) w₁ () w') :
      Asks event address handler w .pass w'

section

variable {event address : String} {handler : Action (Except BridgeError Verdict)}
  {w w₁ w₂ : World} {v₁ v₂ : Verdict}

theorem Asks.unique (first : Asks event address handler w v₁ w₁)
    (second : Asks event address handler w v₂ w₂) : v₁ = v₂ ∧ w₁ = w₂ := by
  cases first with
  | answered ran =>
    cases second with
    | answered ran' =>
      obtain ⟨same, rfl⟩ := ran.unique ran'
      exact ⟨Except.ok.inj same, rfl⟩
    | failed ran' => cases (ran.unique ran').1
  | failed ran warned =>
    cases second with
    | answered ran' => cases (ran.unique ran').1
    | failed ran' warned' =>
      obtain ⟨same, rfl⟩ := ran.unique ran'
      cases same
      exact ⟨rfl, (warned.unique warned').2⟩

theorem Action.Returns.asks {α : Type} {rest : Verdict → Action α} {a : α}
    (ran : Returns (do rest (← Connection.verdict event address (← handler))) w a w₁) :
    ∃ verdict w₂, Asks event address handler w verdict w₂ ∧ Returns (rest verdict) w₂ a w₁ := by
  obtain ⟨answer, w₂, asked, ran⟩ := Returns.bind ran
  obtain ⟨verdict, w₃, judged, ran⟩ := Returns.bind ran
  refine ⟨verdict, w₃, ?_, ran⟩
  cases answer with
  | ok answer =>
    obtain ⟨rfl, rfl⟩ := Returns.pure judged
    exact .answered asked
  | error e =>
    obtain ⟨u, w₄, warned, judged⟩ := Returns.bind judged
    obtain ⟨rfl, rfl⟩ := Returns.pure judged
    exact .failed asked warned

end

/-! ## The default logic -/

namespace Heap

variable {heap : Heap} {id other : ObjectId}

theorem datum?_write_self {datum : Datum} (there : heap.datum? id = some datum) (new : Datum) :
    (heap.write id new).datum? id = some new := by
  obtain ⟨allocation, found, -⟩ := Option.map_eq_some_iff.mp there
  simp [datum?, get?, write, show heap.allocations[id]? = some allocation from found]

theorem datum?_write_of_ne (differs : other ≠ id) (new : Datum) :
    (heap.write id new).datum? other = heap.datum? other := by
  simp [datum?, get?, write, differs.symm]

theorem datum?_of_lobby? {lobby : Lobby} (h : heap.lobby? id = some lobby) :
    heap.datum? id = some (.lobby lobby) := by
  unfold lobby? at h
  split at h
  · next found => rw [found, Option.some.inj h]
  · cases h

theorem datum?_of_client? {client : Client} (h : heap.client? id = some client) :
    heap.datum? id = some (.connection client) := by
  unfold client? at h
  split at h
  · next found => rw [found, Option.some.inj h]
  · cases h

theorem lobby?_write_lobby {lobby : Lobby} (h : heap.lobby? id = some lobby) (new : Lobby) :
    (heap.write id (.lobby new)).lobby? id = some new := by
  rw [lobby?, datum?_write_self (datum?_of_lobby? h)]

/-- No connection is where a lobby is. -/
theorem client?_write_lobby {lobby : Lobby} (h : heap.lobby? id = some lobby) (new : Lobby)
    (other : ObjectId) : (heap.write id (.lobby new)).client? other = heap.client? other := by
  by_cases same : other = id
  · subst same
    rw [client?, client?, datum?_write_self (datum?_of_lobby? h), datum?_of_lobby? h]
  · rw [client?, client?, datum?_write_of_ne same]

end Heap

/-- The seat of a client. -/
def World.seat? (w : World) (id : ObjectId) : Option UInt8 :=
  (w.process.heap.client? id).bind (·.seat)

/-- The default logic gives a client the lowest free seat of its lobby, or refuses it and changes
nothing. -/
inductive Seats (id : ObjectId) (w : World) : Option UInt8 → World → Prop
  | seated {client : Client} {lobby lobby' : Lobby} {seat : UInt8}
      (client? : w.process.heap.client? id = some client)
      (lobby? : w.process.heap.lobby? client.lobby = some lobby)
      (joined : lobby.join = some (seat, lobby')) :
      Seats id w (some seat) (w.put { w.process with
        heap := (w.process.heap.write client.lobby (.lobby lobby')).write id
          (.connection { client with seat := some seat }) })
  | refused
      (full : ∀ client lobby, w.process.heap.client? id = some client →
        w.process.heap.lobby? client.lobby = some lobby → lobby.join = none) :
      Seats id w none w

namespace Seats

variable {id : ObjectId} {w w₁ w₂ : World} {given given₁ given₂ : Option UInt8}

theorem unique (first : Seats id w given₁ w₁) (second : Seats id w given₂ w₂) :
    given₁ = given₂ ∧ w₁ = w₂ := by
  cases first with
  | seated client lobby joined =>
    cases second with
    | seated client' lobby' joined' =>
      cases client.symm.trans client'
      cases lobby.symm.trans lobby'
      cases joined.symm.trans joined'
      exact ⟨rfl, rfl⟩
    | refused full => cases (full _ _ client lobby).symm.trans joined
  | refused full =>
    cases second with
    | seated client lobby joined => cases (full _ _ client lobby).symm.trans joined
    | refused => exact ⟨rfl, rfl⟩

/-- The client has the seat that it was given, and otherwise the one that it had. -/
theorem seat? (h : Seats id w given w₁) : w₁.seat? id = given.or (w.seat? id) := by
  cases h with
  | seated client lobby joined =>
    have there := Heap.client?_write_lobby lobby ‹_› id
    rw [client] at there
    rw [World.seat?, World.process_put, Heap.client?,
      Heap.datum?_write_self (Heap.datum?_of_client? there)]
    rfl
  | refused => rfl

end Seats

theorem Action.Returns.joins {id : ObjectId} {w w₁ : World} {given : Option UInt8}
    (ran : Returns (Action.join id) w given w₁) :
    (∃ lobby seat lobby', w.process.heap.lobby? id = some lobby ∧
      lobby.join = some (seat, lobby') ∧ given = some seat ∧
      w₁ = w.put { w.process with heap := w.process.heap.write id (.lobby lobby') }) ∨
    (∀ lobby, w.process.heap.lobby? id = some lobby → lobby.join = none) ∧ given = none ∧
      w₁ = w := by
  obtain ⟨lobby?, w₂, looked, ran⟩ := Returns.bind ran
  cases looked
  split at ran
  · next none =>
    obtain ⟨rfl, rfl⟩ := Returns.pure ran
    refine .inr ⟨fun lobby there => ?_, rfl, rfl⟩
    rwa [there] at none
  · next seat lobby' joined =>
    obtain ⟨lobby, there, joined⟩ := Option.bind_eq_some_iff.mp joined
    obtain ⟨u, w₃, wrote, ran⟩ := Returns.bind ran
    obtain ⟨rfl, rfl⟩ := Returns.pure ran
    exact .inl ⟨lobby, seat, lobby', there, joined, rfl, wrote.updateProcess⟩

theorem Action.Returns.seats {id : ObjectId} {w w₁ : World} {admitted : Bool}
    (ran : Returns (Connection.seatClient id) w admitted w₁) :
    ∃ given, Seats id w given w₁ ∧ admitted = given.isSome := by
  obtain ⟨p, w₂, read, ran⟩ := Returns.bind ran
  obtain ⟨rfl, rfl⟩ := Returns.process read
  split at ran
  · next none =>
    obtain ⟨rfl, rfl⟩ := Returns.pure ran
    exact ⟨.none, .refused fun client lobby found => (nomatch none.symm.trans found), rfl⟩
  · next client found =>
    obtain ⟨given, w₃, joined, rest⟩ := Returns.bind ran
    rcases joined.joins with ⟨lobby, seat, lobby', there, free, rfl, rfl⟩ | ⟨full, rfl, rfl⟩
    · obtain ⟨u, w₄, wrote, rest⟩ := Returns.bind rest
      obtain ⟨rfl, rfl⟩ := Returns.pure rest
      refine ⟨some seat, ?_, rfl⟩
      rw [wrote.updateProcess]
      exact .seated found there free
    · obtain ⟨rfl, rfl⟩ := Returns.pure rest
      refine ⟨none, .refused fun client' lobby found' there => ?_, rfl⟩
      cases found.symm.trans found'
      exact full lobby there

/-! ## A connect event -/

/-- The outcome under a verdict, which was the given one by default. -/
def Verdict.outcome (admitted : Bool) : Verdict → Bool
  | deny => false
  | allow => true
  | pass => admitted

/-- A connect event of a client. What the default logic gave is there only if it ran; the handler
after is asked about `asked`, if about anything. -/
inductive Connects (hooks : Hooks) (address : String) (id : ObjectId) (w : World) :
    (ran : Option (Option UInt8)) → (asked : Option UInt8) → Bool → World → Prop
  | denied {w₁ w' : World}
      (before : Asks "pre-connect" address (hooks.before address) w .deny w₁)
      (logged : Returns (log .info .connection
        ("Connection from " ++ address ++ " denied before connect")) w₁ () w') :
      Connects hooks address id w none none false w'
  | allowed {w₁ w' : World}
      (before : Asks "pre-connect" address (hooks.before address) w .allow w₁)
      (logged : Returns (log .debug .connection
        ("Connection from " ++ address ++ " allowed before connect")) w₁ () w') :
      Connects hooks address id w none none true w'
  | unasked {w₁ w' : World} {given : Option UInt8}
      (before : Asks "pre-connect" address (hooks.before address) w .pass w₁)
      (default : Seats id w₁ given w') (seatless : w'.seat? id = none) :
      Connects hooks address id w (some given) none given.isSome w'
  | asked {w₁ w₂ w' : World} {given : Option UInt8} {seat : UInt8} {verdict : Verdict}
      (before : Asks "pre-connect" address (hooks.before address) w .pass w₁)
      (default : Seats id w₁ given w₂) (seated : w₂.seat? id = some seat)
      (after : Asks "post-connect" address (hooks.after address seat) w₂ verdict w') :
      Connects hooks address id w (some given) (some seat) (verdict.outcome given.isSome) w'

/-- The handler before has no opinion, and then the default logic refuses a client that has a
seat. -/
def RefusesSeated (hooks : Hooks) (address : String) (id : ObjectId) (w : World) : Prop :=
  ∃ w₁, Asks "pre-connect" address (hooks.before address) w .pass w₁ ∧ Seats id w₁ none w₁ ∧
    (w₁.seat? id).isSome

section

variable {hooks : Hooks} {address : String} {id : ObjectId} {w w' : World} {admitted : Bool}
  {ran : Option (Option UInt8)} {asked : Option UInt8}

theorem Action.Returns.connects
    (ran : Returns (Connection.bridged hooks (Connection.ofClient address id)).connect w admitted
      w') : ∃ ran asked, Connects hooks address id w ran asked admitted w' := by
  obtain ⟨verdict, w₁, before, ran⟩ := Returns.asks ran
  cases verdict with
  | deny =>
    obtain ⟨u, w₂, logged, ran⟩ := Returns.bind ran
    obtain ⟨rfl, rfl⟩ := Returns.pure ran
    exact ⟨_, _, .denied before logged⟩
  | allow =>
    obtain ⟨u, w₂, logged, ran⟩ := Returns.bind ran
    obtain ⟨rfl, rfl⟩ := Returns.pure ran
    exact ⟨_, _, .allowed before logged⟩
  | pass =>
    obtain ⟨default, w₂, seated, ran⟩ := Returns.bind ran
    obtain ⟨given, seats, rfl⟩ := Returns.seats seated
    obtain ⟨seat?, w₃, read, ran⟩ := Returns.bind ran
    cases read
    split at ran
    · next seatless =>
      obtain ⟨rfl, rfl⟩ := Returns.pure ran
      exact ⟨_, _, .unasked before seats seatless⟩
    · next seat seated =>
      obtain ⟨verdict, w₄, after, ran⟩ := Returns.asks ran
      have asked := Connects.asked before seats seated after
      cases verdict <;>
        · obtain ⟨rfl, rfl⟩ := Returns.pure ran
          exact ⟨_, _, asked⟩

/-- What happens in an event is determined. -/
theorem Connects.unique {ran₁ ran₂ : Option (Option UInt8)} {asked₁ asked₂ : Option UInt8}
    {admitted₁ admitted₂ : Bool} {w₁ w₂ : World}
    (first : Connects hooks address id w ran₁ asked₁ admitted₁ w₁)
    (second : Connects hooks address id w ran₂ asked₂ admitted₂ w₂) :
    ran₁ = ran₂ ∧ asked₁ = asked₂ ∧ admitted₁ = admitted₂ ∧ w₁ = w₂ := by
  cases first with
  | denied before logged =>
    cases second with
    | denied before' logged' =>
      obtain ⟨-, rfl⟩ := before.unique before'
      exact ⟨rfl, rfl, rfl, (logged.unique logged').2⟩
    | allowed before' | unasked before' | asked before' => cases (before.unique before').1
  | allowed before logged =>
    cases second with
    | allowed before' logged' =>
      obtain ⟨-, rfl⟩ := before.unique before'
      exact ⟨rfl, rfl, rfl, (logged.unique logged').2⟩
    | denied before' | unasked before' | asked before' => cases (before.unique before').1
  | unasked before default seatless =>
    cases second with
    | denied before' | allowed before' => cases (before.unique before').1
    | unasked before' default' =>
      obtain ⟨-, rfl⟩ := before.unique before'
      obtain ⟨rfl, rfl⟩ := default.unique default'
      exact ⟨rfl, rfl, rfl, rfl⟩
    | asked before' default' seated =>
      obtain ⟨-, rfl⟩ := before.unique before'
      obtain ⟨-, rfl⟩ := default.unique default'
      cases seatless.symm.trans seated
  | asked before default seated after =>
    cases second with
    | denied before' | allowed before' => cases (before.unique before').1
    | unasked before' default' seatless =>
      obtain ⟨-, rfl⟩ := before.unique before'
      obtain ⟨-, rfl⟩ := default.unique default'
      cases seatless.symm.trans seated
    | asked before' default' seated' after' =>
      obtain ⟨-, rfl⟩ := before.unique before'
      obtain ⟨rfl, rfl⟩ := default.unique default'
      cases seated.symm.trans seated'
      obtain ⟨rfl, rfl⟩ := after.unique after'
      exact ⟨rfl, rfl, rfl, rfl⟩

/-- The handler after is asked about just the seat that the event gave, save where a client is
refused that has a seat. -/
theorem Connects.asked_eq_iff (h : Connects hooks address id w ran asked admitted w') :
    asked = ran.join ↔ ¬ RefusesSeated hooks address id w := by
  cases h with
  | denied before | allowed before =>
    exact iff_of_true rfl fun ⟨_, before', _⟩ => nomatch (before.unique before').1
  | @unasked w₁ _ given before default seatless =>
    have kept := default.seat?
    rw [seatless] at kept
    obtain ⟨rfl, -⟩ := Option.or_eq_none_iff.mp kept.symm
    refine iff_of_true rfl fun ⟨w₂, before', default', seated⟩ => ?_
    obtain ⟨-, rfl⟩ := before.unique before'
    obtain ⟨-, rfl⟩ := default.unique default'
    rw [seatless] at seated
    cases seated
  | @asked w₁ w₂ _ given seat _ before default seated =>
    cases given with
    | none =>
      -- A refused client still has the seat that an earlier event gave it.
      refine iff_of_false nofun (not_not_intro ⟨w₁, before, ?_⟩)
      cases default with
      | refused full => exact ⟨.refused full, seated ▸ rfl⟩
    | some given =>
      have kept := default.seat?
      rw [seated] at kept
      refine iff_of_true kept fun ⟨w₃, before', default', _⟩ => ?_
      obtain ⟨-, rfl⟩ := before.unique before'
      cases (default.unique default').1

end

/-! ## Handlers that answer with numbers -/

/-- The verdict that an answer stands for: an unknown number or a failure is no opinion. -/
def Verdict.ofAnswer : Except BridgeError UInt8 → Verdict
  | .ok 0 => deny
  | .ok 1 => allow
  | _ => pass

/-- A handler asks a method for a number, and whatever it answers is a verdict. -/
def AsksForNumber (handler : Action (Except BridgeError Verdict))
    (method : Action (Except BridgeError UInt8)) : Prop :=
  ∀ {event address w verdict w'}, Asks event address handler w verdict w' →
    ∃ answer w₁, Returns method w answer w₁ ∧ Alike w₁ w' ∧ verdict = .ofAnswer answer

theorem Verdict.ofRaw_value (raw : UInt8) : (ofRaw raw).value = ofAnswer (.ok raw) := by
  by_cases zero : raw = 0
  · subst zero
    rfl
  by_cases one : raw = 1
  · subst one
    rfl
  by_cases two : raw = 2
  · subst two
    rfl
  · simp [ofRaw, ofAnswer, zero, one, two]

theorem asksForNumber (method : Action (Except BridgeError UInt8)) :
    AsksForNumber (do EventImports.toVerdict (← method)) method := by
  intro event address w verdict w' asks
  cases asks with
  | answered ran =>
    obtain ⟨answer, w₁, answered, judged⟩ := Returns.bind ran
    cases answer with
    | error e => cases (Returns.pure judged).1
    | ok raw =>
      cases judged
      exact ⟨_, _, answered, ⟨rfl, rfl, rfl, rfl⟩, Verdict.ofRaw_value raw⟩
  | failed ran warned =>
    obtain ⟨answer, w₁, answered, judged⟩ := Returns.bind ran
    cases answer with
    | error e =>
      obtain ⟨-, rfl⟩ := Returns.pure judged
      exact ⟨_, _, answered, warned.log, rfl⟩
    | ok raw => cases judged

/-! ## All that a connect event does -/

/-- A connect event, told whole. -/
structure ConnectEvent (hooks : Hooks) (address : String) (id : ObjectId) (w : World)
    (ran : Option (Option UInt8)) (asked : Option UInt8) (admitted : Bool) (w' : World) : Prop where
  returns :
    Returns (Connection.bridged hooks (Connection.ofClient address id)).connect w admitted w'
  connects : Connects hooks address id w ran asked admitted w'
  /-- There is no other way to tell it. -/
  only : ∀ {ran' asked' admitted' v}, Connects hooks address id w ran' asked' admitted' v →
    ran' = ran ∧ asked' = asked
  /-- The seat that is asked about is the one that the event gave, and there is none if it gave
  none, save in one case. -/
  fresh : asked = ran.join ↔ ¬ RefusesSeated hooks address id w

theorem Connects.event {hooks : Hooks} {address : String} {id : ObjectId} {w w' : World}
    {ran : Option (Option UInt8)} {asked : Option UInt8} {admitted : Bool}
    (h : Connects hooks address id w ran asked admitted w') :
    ConnectEvent hooks address id w ran asked admitted w' where
  returns := by
    obtain ⟨admitted', v, returns⟩ :=
      Returns.exists (Connection.bridged hooks (Connection.ofClient address id)).connect w
    obtain ⟨ran', asked', told⟩ := returns.connects
    obtain ⟨-, -, rfl, rfl⟩ := told.unique h
    exact returns
  connects := h
  only other := by
    obtain ⟨same, same', -, -⟩ := other.unique h
    exact ⟨same, same'⟩
  fresh := h.asked_eq_iff

/-- Every connect event, whatever the handlers do, asks the handler before once and obeys a verdict;
without one the default logic runs once, and the handler after is asked once about the seat of the
client, if it has one. That is the seat that the event gave, unless the default logic refuses a
client that was seated before. Methods that answer with numbers are handlers, and a number that is
no verdict is no opinion. -/
theorem connect_event (hooks : Hooks) (address : String) (id : ObjectId) (w : World) :
    (∃ ran asked admitted w', ConnectEvent hooks address id w ran asked admitted w') ∧
      ∀ foreign (events : EventImports),
        AsksForNumber ((events.hooks foreign).before address)
          (callTyped foreign events.preConnect (address, ())) ∧
        ∀ seat, AsksForNumber ((events.hooks foreign).after address seat)
          (callTyped foreign events.postConnect (address, seat, ())) := by
  obtain ⟨admitted, w', returns⟩ :=
    Returns.exists (Connection.bridged hooks (Connection.ofClient address id)).connect w
  obtain ⟨ran, asked, connects⟩ := returns.connects
  exact ⟨⟨ran, asked, admitted, w', connects.event⟩,
    fun foreign events => ⟨asksForNumber _, fun seat => asksForNumber _⟩⟩

/-! ## A full lobby -/

namespace Lobby

/-- The seats that nobody sits at. -/
def freeSeats (lobby : Lobby) : List UInt8 :=
  allSeats.filter fun seat => (lobby.player? seat).isNone

/-- The lobby after so many players have tried to join it. -/
def fill : Nat → Lobby → Lobby
  | 0, lobby => lobby
  | n + 1, lobby => fill n ((lobby.join.map (·.2)).getD lobby)

theorem nodup_allSeats : allSeats.Nodup := by
  refine (List.nodup_map_iff_inj_on List.nodup_range).mpr fun first low second low' same => ?_
  have numbers := congrArg UInt8.toNat same
  rw [List.mem_range] at low low'
  simpa [Nat.mod_eq_of_lt low, Nat.mod_eq_of_lt low'] using numbers

theorem join_eq_none_iff {lobby : Lobby} : lobby.join = none ↔ lobby.freeSeats = [] := by
  simp [join, freeSeat?, freeSeats]

/-- Who joins takes one of the free seats. -/
theorem length_freeSeats_join {lobby lobby' : Lobby} {seat : UInt8}
    (joined : lobby.join = some (seat, lobby')) :
    lobby'.freeSeats.length = lobby.freeSeats.length - 1 := by
  obtain ⟨found, free, same⟩ := Option.map_eq_some_iff.mp joined
  cases same
  have member : seat ∈ lobby.freeSeats := by
    refine List.mem_filter.mpr ⟨List.mem_of_find?_eq_some free, ?_⟩
    exact List.find?_some (p := fun seat => (lobby.player? seat).isNone) free
  have left : freeSeats ⟨(seat, lobby.players.length) :: lobby.seats, lobby.players ++ [default]⟩ =
      lobby.freeSeats.erase seat := by
    rw [freeSeats, freeSeats, (nodup_allSeats.filter _).erase_eq_filter, List.filter_filter]
    refine List.filter_congr fun other _ => ?_
    rw [player?, player?, List.lookup_cons, bne]
    cases other == seat <;> simp
  rw [left, List.length_erase_of_mem member]

theorem length_freeSeats_fill (n : Nat) (lobby : Lobby) :
    (lobby.fill n).freeSeats.length = lobby.freeSeats.length - n := by
  induction n generalizing lobby with
  | zero => rfl
  | succ n ih =>
    rw [fill, ih]
    cases joined : lobby.join with
    | none =>
      have none := join_eq_none_iff.mp joined
      simp [none]
    | some seated =>
      have fewer := length_freeSeats_join joined
      simp only [Option.map_some, Option.getD_some]
      omega

/-- A lobby is full once as many have joined as it had free seats. -/
theorem join_fill {n : Nat} {lobby : Lobby} (enough : lobby.freeSeats.length ≤ n) :
    (lobby.fill n).join = none := by
  rw [join_eq_none_iff, ← List.length_eq_zero_iff, length_freeSeats_fill]
  omega

end Lobby

/-- Players join a lobby so many times. -/
def Action.joinTimes (lobby : ObjectId) : Nat → Action Unit
  | 0 => return ()
  | n + 1 => do
    discard (join lobby)
    joinTimes lobby n

theorem Action.Returns.joinTimes {id : ObjectId} {n : Nat} {w w' : World} {lobby : Lobby}
    (there : w.process.heap.lobby? id = some lobby)
    (ran : Returns (Action.joinTimes id n) w () w') :
    w'.process.heap.lobby? id = some (lobby.fill n) ∧
      ∀ other, w'.process.heap.client? other = w.process.heap.client? other := by
  induction n generalizing w lobby with
  | zero =>
    obtain ⟨-, rfl⟩ := Returns.pure ran
    exact ⟨there, fun _ => rfl⟩
  | succ n ih =>
    obtain ⟨u, w₁, first, rest⟩ := Returns.bind ran
    obtain ⟨given, first⟩ := Returns.discard first
    rcases first.joins with ⟨lobby', seat, grown, there', free, -, rfl⟩ | ⟨full, -, rfl⟩
    · cases there.symm.trans there'
      have next := Heap.lobby?_write_lobby there grown
      obtain ⟨filled, clients⟩ := ih next rest
      rw [Lobby.fill, free]
      exact ⟨filled, fun other => (clients other).trans (Heap.client?_write_lobby there _ _)⟩
    · obtain ⟨filled, clients⟩ := ih there rest
      rw [Lobby.fill, full lobby there]
      exact ⟨filled, clients⟩

/-- Handlers that note what they are asked about: the one before has no opinion, and the one after
allows everybody. -/
def eager : Hooks where
  before address := do
    note "before" address
    return .ok .pass
  after _ seat := do
    note "after" (toString seat.toNat)
    return .ok .allow

/-- The connection of a client that has allocation 1. -/
def eagerConnection : Connection := .bridged eager (.ofClient "127.0.0.1" 1)

/-- An empty lobby, and a client without a seat. -/
def lobbied : World :=
  { process := { heap := ⟨[⟨16, .lobby {}, 2⟩,
      ⟨32, .connection { address := "127.0.0.1", lobby := 0 }, 1⟩]⟩ } }

/-- The client connects, and then 255 players join its lobby. -/
def crowd : Action Unit := do
  let _ ← eagerConnection.connect
  joinTimes 0 255

theorem lobbied_connects : ∃ w, Returns eagerConnection.connect lobbied true w ∧
    w.process.heap.lobby? 0 = some ⟨[(0, 0)], [default]⟩ ∧
    w.process.heap.client? 1 = some ⟨"127.0.0.1", 0, some 0⟩ := by
  have joined : Lobby.join {} = some (0, ⟨[(0, 0)], [default]⟩) := by decide +kernel
  let w₁ : World := { lobbied with notes := [⟨"before", "127.0.0.1"⟩] }
  have before : Asks "pre-connect" "127.0.0.1" (eager.before "127.0.0.1") lobbied .pass w₁ :=
    .answered rfl
  have seated : Seats 1 w₁ (some 0) _ := .seated rfl rfl joined
  exact ⟨_, (Connects.asked before seated rfl (.answered rfl)).event.returns, rfl, rfl⟩

/-- A client that is refused is asked about its old seat, and admitted. -/
theorem eager_asks_again {w : World} {lobby : Lobby}
    (there : w.process.heap.lobby? 0 = some lobby) (full : lobby.join = none)
    (client : w.process.heap.client? 1 = some ⟨"127.0.0.1", 0, some 0⟩) :
    ∃ w', ConnectEvent eager "127.0.0.1" 1 w (some none) (some 0) true w' ∧
      w'.notes = ⟨"after", "0"⟩ :: ⟨"before", "127.0.0.1"⟩ :: w.notes := by
  let w₁ : World := { w with notes := ⟨"before", "127.0.0.1"⟩ :: w.notes }
  have before : Asks "pre-connect" "127.0.0.1" (eager.before "127.0.0.1") w .pass w₁ :=
    .answered rfl
  have refused : Seats 1 w₁ none w₁ := by
    refine .refused fun client' lobby' found there' => ?_
    cases client.symm.trans found
    cases there.symm.trans there'
    exact full
  have seated : w₁.seat? 1 = some 0 := by
    rw [World.seat?, show w₁.process.heap.client? 1 = _ from client]
    rfl
  exact ⟨_, (Connects.asked before refused seated (.answered rfl)).event, rfl⟩

/-- After that the client connects again: it is refused and asked about its old seat. -/
theorem old_seat_asked : ∃ w w', Returns crowd lobbied () w ∧
    ConnectEvent eager "127.0.0.1" 1 w (some none) (some 0) true w' ∧
    w'.notes = ⟨"after", "0"⟩ :: ⟨"before", "127.0.0.1"⟩ :: w.notes := by
  obtain ⟨w₁, first, there, client⟩ := lobbied_connects
  obtain ⟨u, w, rest⟩ := Returns.exists (joinTimes 0 255) w₁
  obtain ⟨filled, clients⟩ := rest.joinTimes there
  have full : (Lobby.fill 255 ⟨[(0, 0)], [default]⟩).join = none :=
    Lobby.join_fill (by decide +kernel)
  obtain ⟨w', event, notes⟩ := eager_asks_again filled full ((clients 1).trans client)
  exact ⟨w, w', first.then rest, event, notes⟩

end ManagedHost
