import ManagedHost.Proofs.LobbyRuns
import ManagedHost.Proofs.TypedCalls
import ManagedHost.Server.Session

/-! # A kick hits who sits there now

A player can be kicked by anybody who can call the native function for it: by the name of its
binding, by the address of its entry, or in place of a managed method. All these ways run the
function once and do nothing else (`Kicks.once`). So at every moment of every run a kick marks just
the player who joined last at the seat and has not left, and nobody if there is none or the lobby is
gone (`kick_hits_holder`). Connect events and sessions are parts of runs, whatever their handlers do
(`ContinuesRuns`). -/

namespace ManagedHost

open ManagedHost.Action

/-- The process with other players in a lobby. -/
def Process.reseat (p : Process) (id : ObjectId) (lobby : Lobby) : Process :=
  { p with heap := p.heap.write id (.lobby lobby) }

/-- The process with a connection as it is after its client was seated. -/
def Process.attach (p : Process) (id : ObjectId) (client : Client) : Process :=
  { p with heap := p.heap.write id (.connection client) }

/-! ## The ways of kicking a player -/

/-- A player is kicked. -/
inductive Kicks (id : ObjectId) (seat : UInt8) (w : World) : World → Prop
  /-- The native function runs. -/
  | called {w' : World} (ran : Returns (kick id seat) w () w') : Kicks id seat w w'
  /-- Native code calls the binding by its name. -/
  | invoked {w' : World} {foreign : Foreign} {holder : Holder} {name : String} {binding : Binding}
      {reaction : Reaction} (bound : (w.process.registry holder).get? name = some binding)
      (function : binding.function = .kick id)
      (ran : Returns ((Operation.invoke holder name [.uint8 seat]).run foreign) w reaction w') :
      Kicks id seat w w'
  /-- Managed code, or anybody else, calls the entry of a binding by its address. The seat is what
  the first cell carries. -/
  | entered {w' : World} {foreign : Foreign} {address : Address} {entry : AdapterId}
      {adapter : Adapter} {cells : List Cell} {cell : Cell}
      (there : w.process.adapterAt? address = some (entry, adapter))
      (function : adapter.function = .kick id)
      (carried : (cells.headD (.word 0)).bits.toUInt8 = seat)
      (ran : Returns ((Operation.enter address cells).run foreign) w cell w') : Kicks id seat w w'
  /-- The address is called in place of a managed method. -/
  | answered {w' : World} {outside : Outside} {depth : Nat} {purpose : Purpose} {address : Address}
      {signature : Signature} {entry : AdapterId} {adapter : Adapter} {cells : List Cell}
      {cell : Cell} (there : w.process.adapterAt? address = some (entry, adapter))
      (function : adapter.function = .kick id)
      (carried : (cells.headD (.word 0)).bits.toUInt8 = seat)
      (ran : Returns (outside.answer (depth + 1) (.managed purpose address signature cells)) w cell
        w') : Kicks id seat w w'

namespace Action

variable {foreign : Foreign} {id : ObjectId} {seat : UInt8} {w w' : World}

theorem Returns.runsKick (ran : Returns (kick id seat) w () w') :
    Returns (runFunction foreign (.kick id) (seat, ())) w (some ()) w' :=
  ran.then (.returned _ _)

/-- A binding that is called with a seat runs the function once. -/
theorem Returns.invokesKick {holder : Holder} {name : String} {binding : Binding}
    (bound : (w.process.registry holder).get? name = some binding)
    (fit : binding.signature = binding.function.signature)
    (function : binding.function = .kick id) (ran : Returns (kick id seat) w () w') :
    Returns (Action.invoke foreign holder name [.uint8 seat]) w (.returned .void) w' := by
  obtain ⟨own, signature, kicks, entry⟩ := binding
  obtain rfl : kicks = .kick id := function
  obtain rfl : signature = (NativeFunction.kick id).signature := fit
  exact Returns.invoke bound rfl (Returns.callFunction rfl ran.runsKick)

/-- So does an entry that is called with a cell. -/
theorem Returns.entersKick {entry : AdapterId} {adapter : Adapter} {cells : List Cell}
    (fit : adapter.signature = adapter.function.signature)
    (function : adapter.function = .kick id)
    (carried : (cells.headD (.word 0)).bits.toUInt8 = seat)
    (ran : Returns (kick id seat) w () w') :
    Returns (Action.enterAdapter foreign entry adapter cells) w (.word 0) w' := by
  obtain ⟨own, signature, kicks, buffer⟩ := adapter
  obtain rfl : kicks = .kick id := function
  obtain rfl : signature = (NativeFunction.kick id).signature := fit
  subst carried
  have called : Returns (Action.callFunction foreign own (.kick id)
      [.uint8 (cells.headD (.word 0)).bits.toUInt8]) w (.returned .void) w' :=
    Returns.callFunction rfl ran.runsKick
  exact Returns.thenProcess (called.then (.returned _ _))

end Action

/-- An entry has the types of its function. -/
theorem Process.Entered.fitAt {p : Process} (entered : p.Entered) {address : Address}
    {entry : AdapterId} {adapter : Adapter} (there : p.adapterAt? address = some (entry, adapter)) :
    adapter.signature = adapter.function.signature := by
  obtain ⟨number, -, found⟩ := Option.bind_eq_some_iff.mp there
  obtain ⟨found', member, same⟩ := Option.bind_eq_some_iff.mp found
  cases same
  exact (entered.fit adapter (List.mem_of_getElem? member)).1

theorem Process.Entered.fitOf {p : Process} (entered : p.Entered) {holder : Holder} {name : String}
    {binding : Binding} (bound : (p.registry holder).get? name = some binding) :
    binding.signature = binding.function.signature := by
  obtain ⟨buffer, there⟩ := entered.adapterAt? (List.mem_of_find?_eq_some bound)
  exact entered.fitAt there

/-- Every way of kicking a player runs the function once. -/
theorem Kicks.once {id : ObjectId} {seat : UInt8} {w w' : World} (entered : w.process.Entered)
    (kicks : Kicks id seat w w') : ∃ v v', v.process = w.process ∧
      Returns (kick id seat) v () v' ∧ v'.process = w'.process := by
  cases kicks with
  | called ran => exact ⟨w, w', rfl, ran, rfl⟩
  | @invoked foreign holder name binding reaction bound function ran =>
    obtain ⟨w₁, performed, rfl⟩ := ran.run
    obtain ⟨u, v', once⟩ := Returns.exists (kick id seat)
      (w.after (.began (.invoke holder name [.uint8 seat])))
    obtain ⟨-, rfl⟩ := Returns.unique performed
      (once.invokesKick bound (entered.fitOf bound) function)
    exact ⟨w.after _, _, rfl, once, rfl⟩
  | @entered foreign address entry adapter cells cell there function carried ran =>
    obtain ⟨w₁, performed, rfl⟩ := ran.run
    obtain ⟨u, v', once⟩ := Returns.exists (kick id seat)
      (w.after (.began (.enter address cells)))
    have enters : Returns (Action.enter foreign address cells)
        (w.after (.began (.enter address cells))) (.word 0) v' := by
      refine Returns.thenProcess ?_
      rw [show (w.after _).process.adapterAt? address = some (entry, adapter) from there]
      exact once.entersKick (entered.fitAt there) function carried
    obtain ⟨-, rfl⟩ := Returns.unique performed enters
    exact ⟨w.after _, _, rfl, once, rfl⟩
  | @answered outside depth purpose address signature entry adapter cells cell there function
      carried ran =>
    obtain ⟨u, v', once⟩ := Returns.exists (kick id seat)
      (w.after (.called (.managed purpose address signature cells)))
    obtain ⟨-, rfl⟩ := Returns.unique ran (Returns.answerEntry there
      (once.entersKick (entered.fitAt there) function carried))
    exact ⟨w.after _, _, rfl, once, rfl⟩

/-! ## What is done to the lobby -/

/-- The player at the seat, if the lobby is there and somebody sits there, is marked and no other.
Otherwise nothing happens. -/
structure Hits (id : ObjectId) (lobby : Lobby) (seat : UInt8) (isThere : Bool) (p p' : Process) :
    Prop where
  holder : ∀ player, isThere = true → lobby.player? seat = some player →
    ∃ lobby', lobby.Marks player lobby' ∧ p' = p.reseat id lobby'
  nobody : isThere = false ∨ lobby.player? seat = none → p' = p

/-- Somebody gets the lowest seat that is free, or nothing if all 256 seats are taken. -/
structure JoinsLowest (lobby : Lobby) (given : Option UInt8) (p p' : Process)
    (settled : UInt8 → Lobby → Process) : Prop where
  full : given = none ↔ ∀ seat, lobby.player? seat ≠ none
  refused : given = none → p' = p
  admitted : ∀ seat, given = some seat →
    ∃ lobby', lobby.Admits seat lobby' ∧ p' = settled seat lobby'

section

variable {id : ObjectId} {lobby : Lobby} {seat : UInt8} {turns : List Turn} {w w' : World}

theorem hits_of_disconnectAt {told : Bool} (there : w.process.heap.lobby? id = some lobby)
    (tells : lobby.Tells turns) (ran : Returns (disconnectAt id lobby seat) w told w') :
    told = (lobby.player? seat).isSome ∧ Hits id lobby seat true w.process w'.process := by
  unfold disconnectAt Lobby.kick? at ran
  cases sits : lobby.player? seat with
  | none =>
    rw [sits] at ran
    obtain ⟨rfl, rfl⟩ := Returns.pure ran
    exact ⟨rfl, ⟨fun _ _ found => (nomatch sits.symm.trans found), fun _ => rfl⟩⟩
  | some player =>
    rw [sits] at ran
    obtain ⟨u, w₁, logged, ran⟩ := Returns.bind ran
    obtain ⟨u, w₂, wrote, ran⟩ := Returns.bind ran
    obtain ⟨rfl, rfl⟩ := Returns.pure ran
    refine ⟨rfl, ⟨fun other _ found => ?_, fun nobody => ?_⟩⟩
    · cases sits.symm.trans found
      refine ⟨_, Lobby.marks_disconnect (tells.lt_length sits), ?_⟩
      rw [wrote.updateProcess, World.process_put, logged.log.1]
      rfl
    · rcases nobody with gone | free
      · cases gone
      · cases sits.symm.trans free

theorem hits_of_kick (there : w.process.heap.lobby? id = some lobby) (tells : lobby.Tells turns)
    (ran : Returns (kick id seat) w () w') :
    Hits id lobby seat (w.process.heap.isAlive id) w.process w'.process := by
  obtain ⟨p, v, read, ran⟩ := Returns.bind ran
  obtain ⟨rfl, rfl⟩ := Returns.process read
  dsimp only at ran
  rw [there] at ran
  cases alive : v.process.heap.isAlive id with
  | false =>
    rw [alive] at ran
    exact ⟨nofun, fun _ => ran.log.1⟩
  | true =>
    rw [alive] at ran
    dsimp only at ran
    split at ran
    · obtain ⟨u, v₁, logged, ran⟩ := Returns.bind ran
      obtain ⟨told, ran⟩ := Returns.discard ran
      obtain ⟨process, -, -, -⟩ := logged.log
      rw [← process] at there ⊢
      exact (hits_of_disconnectAt there tells ran).2
    · next free =>
      obtain ⟨-, rfl⟩ := Returns.pure ran
      rw [Option.isSome_iff_ne_none, not_not] at free
      exact ⟨fun _ _ found => (nomatch free.symm.trans found), fun _ => rfl⟩

theorem joinsLowest_of_join {given : Option UInt8}
    (there : w.process.heap.lobby? id = some lobby)
    (ran : Returns (Action.join id) w given w') :
    JoinsLowest lobby given w.process w'.process fun _ lobby' => w.process.reseat id lobby' := by
  rcases ran.joins with ⟨found, seat, lobby', there', joined, rfl, rfl⟩ | ⟨full, rfl, rfl⟩
  · cases there.symm.trans there'
    have admits := Lobby.admits_of_join joined
    refine ⟨iff_of_false nofun fun taken => taken seat admits.free, nofun, fun other given => ?_⟩
    cases given
    exact ⟨lobby', admits, rfl⟩
  · have taken := Lobby.join_eq_none_iff_taken.mp (full lobby there)
    exact ⟨iff_of_true rfl taken, fun _ => rfl, nofun⟩

/-- A connect event seats its client just as everybody is seated. -/
theorem joinsLowest_of_seats {connection : ObjectId} {client : Client} {given : Option UInt8}
    (found : w.process.heap.client? connection = some client)
    (there : w.process.heap.lobby? client.lobby = some lobby)
    (seats : Seats connection w given w') :
    JoinsLowest lobby given w.process w'.process fun seat lobby' =>
      (w.process.reseat client.lobby lobby').attach connection
        { client with seat := some seat } := by
  cases seats with
  | @seated client' lobby' grown seat found' there' joined =>
    cases found.symm.trans found'
    cases there.symm.trans there'
    have admits := Lobby.admits_of_join joined
    refine ⟨iff_of_false nofun fun taken => taken seat admits.free, nofun, fun other given => ?_⟩
    cases given
    exact ⟨grown, admits, rfl⟩
  | refused full =>
    have taken := Lobby.join_eq_none_iff_taken.mp (full client lobby found there)
    exact ⟨iff_of_true rfl taken, fun _ => rfl, nofun⟩

end

/-! ## Connect events and sessions are parts of runs -/

/-- Whatever the action does, a run goes on with it. -/
def ContinuesRuns {α : Type} (action : Action α) : Prop :=
  ∀ marks w a w', Runs marks w → Returns action w a w' → ∃ since, Runs (since ++ marks) w'

namespace ContinuesRuns

variable {α β : Type} {outside : Outside} {depth : Nat}

theorem of_alike {action : Action α} (alike : ∀ {w a w'}, Returns action w a w' → Alike w w') :
    ContinuesRuns action := fun _ _ _ _ run ran => ⟨[], run.logged (alike ran)⟩

theorem pure (a : α) : ContinuesRuns (Pure.pure a) := of_alike fun ran => by
  obtain ⟨-, rfl⟩ := Returns.pure ran
  exact .refl _

theorem bind {x : Action α} {f : α → Action β} (first : ContinuesRuns x)
    (rest : ∀ a, ContinuesRuns (f a)) : ContinuesRuns (x >>= f) := by
  intro marks w b w' run ran
  obtain ⟨a, w₁, ran, ran'⟩ := Returns.bind ran
  obtain ⟨since, run⟩ := first _ _ _ _ run ran
  obtain ⟨since', run⟩ := rest a _ _ _ _ run ran'
  exact ⟨since' ++ since, by rwa [List.append_assoc]⟩

theorem log (level : LogLevel) (source : LogSource) (message : String) :
    ContinuesRuns (Action.log level source message) := of_alike Returns.log

theorem conduct {ρ : Type} (conduct : Conduct ρ) :
    ContinuesRuns (conduct.run (outside.answer depth)) := by
  intro marks w reply w' run ran
  obtain ⟨since, grown, -⟩ := Conduct.seating ran
  exact ⟨since.map .happened, run.conducted ran grown⟩

theorem operation (operation : Operation) :
    ContinuesRuns (operation.run (outside.answer depth)) := by
  intro marks w result w' run ran
  exact conduct (.doing operation) marks w result w' run (ran.then (.returned result w'))

theorem process : ContinuesRuns Action.process := of_alike fun ran => by
  obtain ⟨-, rfl⟩ := Returns.process ran
  exact .refl _

/-- The default logic of a connect event is a part of a run. -/
theorem seatClient (id : ObjectId) : ContinuesRuns (Connection.seatClient id) := by
  intro marks w admitted w' run ran
  obtain ⟨given, seats, rfl⟩ := ran.seats
  have kept := seats.seat?
  cases seats with
  | refused => exact ⟨[], run⟩
  | seated found there joined => exact ⟨[_], run.seated found ran kept⟩

theorem verdict (event address : String) (answer : Except BridgeError Verdict) :
    ContinuesRuns (Connection.verdict event address answer) := by
  cases answer with
  | ok verdict => exact pure _
  | error e => exact .bind (log _ _ _) fun _ => pure _

end ContinuesRuns

/-- Runs go on with the handlers, whatever these do. -/
structure Hooks.ContinueRuns (hooks : Hooks) : Prop where
  before : ∀ address, ContinuesRuns (hooks.before address)
  after : ∀ address seat, ContinuesRuns (hooks.after address seat)

section

variable {outside : Outside} {depth : Nat}

/-- Runs go on with every connect event. -/
theorem Hooks.ContinueRuns.connect {hooks : Hooks} (continues : hooks.ContinueRuns)
    (address : String) (id : ObjectId) :
    ContinuesRuns (Connection.bridged hooks (Connection.ofClient address id)).connect := by
  have seat : ContinuesRuns (Connection.ofClient address id).seat :=
    .bind .process fun _ => .pure _
  have asking :
      ContinuesRuns (Connection.connectAsking hooks (Connection.ofClient address id)) := by
    refine .bind (.seatClient id) fun admitted => .bind seat fun given => ?_
    cases given with
    | none => exact .pure _
    | some given =>
      refine .bind (continues.after address given) fun answer => .bind (.verdict _ _ _) fun v => ?_
      cases v <;> exact .pure _
  refine .bind (continues.before address) fun answer => .bind (.verdict _ _ _) fun v => ?_
  cases v with
  | deny => exact .bind (.log _ _ _) fun _ => .pure _
  | allow => exact .bind (.log _ _ _) fun _ => .pure _
  | pass => exact asking

theorem callTyped_continues {types : Signature} (imported : TypedImport types)
    (args : Arguments types.params) :
    ContinuesRuns (callTyped (outside.answer depth) imported args) := by
  refine .bind (.operation _) fun result => ?_
  cases result <;> exact .pure _

/-- The managed methods that take part in connect events are such handlers. -/
theorem EventImports.continueRuns (events : EventImports) (outside : Outside) (depth : Nat) :
    (events.hooks (outside.answer depth)).ContinueRuns := by
  have judged : ∀ answer, ContinuesRuns (toVerdict answer) := by
    intro answer
    cases answer with
    | error e => exact .pure _
    | ok raw => exact .of_alike fun ran => by cases ran; exact ⟨rfl, rfl, rfl, rfl⟩
  exact ⟨fun address => .bind (callTyped_continues _ _) judged,
    fun address seat => .bind (callTyped_continues _ _) judged⟩

end

namespace ContinuesRuns

variable {outside : Outside} {depth : Nat}

theorem createFresh (datum : Datum) : ContinuesRuns (createFresh datum) := by
  intro marks w id w' run ran
  obtain ⟨p, w₁, read, ran⟩ := Returns.bind ran
  obtain ⟨rfl, rfl⟩ := Returns.process read
  obtain ⟨u, w₂, wrote, ran⟩ := Returns.bind ran
  obtain ⟨-, rfl⟩ := Returns.pure ran
  rw [wrote.updateProcess]
  exact ⟨[_], run.made _ datum⟩

theorem own (id : ObjectId) : ContinuesRuns (updateHeap (·.own id)) := by
  intro marks w u w' run ran
  rw [ran.updateProcess]
  exact ⟨[], run.owned id⟩

theorem disown (id : ObjectId) : ContinuesRuns (updateHeap (·.disown id)) := by
  intro marks w u w' run ran
  rw [ran.updateProcess]
  exact ⟨[], run.disowned id⟩

theorem trackNamed (b : BridgeId) (id : ObjectId) (name : String) :
    ContinuesRuns (trackNamed (outside.answer depth) b id name) := by
  refine .bind (.operation _) fun tracked => ?_
  cases tracked with
  | true => exact pure _
  | false => exact log _ _ _

theorem registerExports (b : BridgeId) (lobby : ObjectId) :
    ContinuesRuns (registerExports (outside.answer depth) b lobby) := by
  refine .bind (.operation _) fun first => ?_
  cases first with
  | error e => exact pure _
  | ok bound => exact .bind (.operation _) fun second => pure _

theorem declareMethod (types : Signature) (b : BridgeId) (settings : Settings.Imports)
    (method : String) : ContinuesRuns
      (EventImports.declareMethod (outside.answer depth) types b settings method) :=
  .bind (.operation _) fun _ => pure _

theorem declare (b : BridgeId) (settings : Settings.Imports) :
    ContinuesRuns (EventImports.declare (outside.answer depth) b settings) := by
  refine .bind (declareMethod _ b settings _) fun first => ?_
  cases first with
  | error e => exact pure _
  | ok testString =>
    refine .bind (declareMethod _ b settings _) fun second => ?_
    cases second with
    | error e => exact pure _
    | ok preConnect =>
      refine .bind (declareMethod _ b settings _) fun third => ?_
      cases third <;> exact pure _

theorem attach (b : BridgeId) (settings : Settings.Imports) (lobby : ObjectId) :
    ContinuesRuns (Session.attach (outside.answer depth) b settings lobby) := by
  refine .bind (declare b settings) fun declared => ?_
  cases declared with
  | error e => exact pure _
  | ok events =>
    exact .bind (own lobby) fun _ => .bind (createFresh _) fun _ => .bind (trackNamed b _ _)
      fun _ => .bind (trackNamed b _ _) fun _ => pure _

theorem tryStart (b : BridgeId) (settings : Settings.Imports) (loader : Loader)
    (lobby : ObjectId) :
    ContinuesRuns (Session.tryStart (outside.answer depth) b settings loader lobby) := by
  refine .bind (registerExports b lobby) fun exported => ?_
  cases exported with
  | error e => exact pure _
  | ok u =>
    refine .bind (.operation _) fun loaded => ?_
    cases loaded with
    | error e => exact pure _
    | ok u => exact attach b settings lobby

/-- Runs go on with the start of a session. -/
theorem start (b : BridgeId) (settings : Settings.Imports) (loader : Loader) :
    ContinuesRuns (Session.start (outside.answer depth) b settings loader) := by
  refine .bind (createFresh _) fun lobby =>
    .bind (tryStart b settings loader lobby) fun started => ?_
  cases started with
  | ok session => exact pure _
  | error e => exact .bind (disown lobby) fun _ => .bind (.operation _) fun _ => pure _

end ContinuesRuns

/-! ## A lobby at any moment of a run -/

/-- What a lobby is like that has had these turns, and what is done to it by whoever joins it,
leaves it or is kicked. -/
structure LobbyStands (id : ObjectId) (turns : List Turn) (w : World) (lobby : Lobby) : Prop where
  there : w.process.heap.lobby? id = some lobby
  /-- At a seat is the player who joined last at it, if that one has not left. -/
  holder : ∀ seat, lobby.player? seat = holder? seat turns
  /-- Nobody sits at two seats. -/
  apart : ∀ {seat other player}, lobby.player? seat = some player →
    lobby.player? other = some player → seat = other
  recorded : ∀ {seat player}, lobby.player? seat = some player →
    ∃ record, lobby.record? player = some record
  joins : ∀ {foreign given w'}, Returns ((Operation.join id).run foreign) w given w' →
    JoinsLowest lobby given w.process w'.process fun _ lobby' => w.process.reseat id lobby'
  /-- A client that connects joins by the same rule, and is told its seat. -/
  connects : ∀ {connection client admitted w'},
    w.process.heap.client? connection = some client → client.lobby = id →
    Returns (Connection.seatClient connection) w admitted w' →
    ∃ given, admitted = given.isSome ∧ JoinsLowest lobby given w.process w'.process
      fun seat lobby' =>
        (w.process.reseat id lobby').attach connection { client with seat := some seat }
  leaves : ∀ {foreign seat w'}, Returns ((Operation.leave id seat).run foreign) w () w' →
    ∃ lobby', lobby.Releases seat lobby' ∧ w'.process = w.process.reseat id lobby'
  kicks : ∀ {seat w'}, Kicks id seat w w' →
    Hits id lobby seat (w.process.heap.isAlive id) w.process w'.process
  /-- Who owns the lobby can disconnect a player too. -/
  disconnects : ∀ {foreign seat told w'},
    Returns ((Operation.disconnect id seat).run foreign) w told w' →
    told = (lobby.player? seat).isSome ∧ Hits id lobby seat true w.process w'.process

theorem SeatedBy.stands {marks : List Mark} {w : World} {id : ObjectId}
    (seated : SeatedBy marks w.process) (opened : WasOpened id marks) :
    ∃ lobby, LobbyStands id (turns id marks) w lobby := by
  obtain ⟨lobby, there, tells⟩ := seated.lobby id opened
  refine ⟨lobby, there, tells.player?, tells.injective, fun sits => ?_, fun ran => ?_,
    fun found at_ ran => ?_, fun ran => ?_, fun kicks => ?_, fun ran => ?_⟩
  · exact ⟨_, List.getElem?_eq_getElem (tells.lt_length sits)⟩
  · obtain ⟨w₁, performed, rfl⟩ := ran.run
    have settled := joinsLowest_of_join (w := w.after _) there performed
    exact settled
  · subst at_
    obtain ⟨given, seats, admitted⟩ := ran.seats
    exact ⟨given, admitted, joinsLowest_of_seats found there seats⟩
  · obtain ⟨w₁, performed, rfl⟩ := ran.run
    rcases Returns.leaves performed with ⟨lobby', there', rfl⟩ | ⟨nowhere, -⟩
    · cases there.symm.trans there'
      exact ⟨_, lobby.releases_leave _, rfl⟩
    · cases there.symm.trans nowhere
  · obtain ⟨v, v', before, ran, after⟩ := kicks.once seated.entered
    rw [← before] at there ⊢
    rw [← after]
    exact hits_of_kick there tells ran
  · obtain ⟨w₁, performed, rfl⟩ := ran.run
    obtain ⟨found, v, looked, ran⟩ := Returns.bind performed
    cases looked
    rw [show (w.after _).process.heap.lobby? id = some lobby from there] at ran
    have settled := hits_of_disconnectAt (w := w.after _) there tells ran
    exact settled

/-- A function that is registered can be called by its name and by its address. -/
theorem Process.register_binds {p p' : Process} {holder : Holder} {name : String}
    {signature : Signature} {function : NativeFunction} {binding : Binding}
    (added : p.register holder name signature function = .ok (p', binding)) :
    (p'.registry holder).get? name = some binding ∧ binding.function = function ∧
      p'.adapterAt? binding.address =
        some (binding.adapter, ⟨name, signature, function, none⟩) := by
  have free := register_free added
  obtain ⟨-, rfl, rfl⟩ := register_adds added
  refine ⟨?_, rfl, ?_⟩
  · rw [registry_setRegistry_self]
    exact Registry.get?_insert_self free
  · rw [adapterAt?, Binding.address, Adapter.ofAddress?_address]
    simp [adapter?, adapters_setRegistry]

/-- What scripts call to kick a player is such a binding. -/
theorem Action.Returns.bindsKick {foreign : Foreign} {b : BridgeId} {id : ObjectId} {w w' : World}
    (ran : Returns (registerExports foreign b id) w (.ok ()) w') : ∃ binding entry adapter,
      (w'.process.registry (.bridge b)).get? "cplayer_kick_by_id" = some binding ∧
      binding.function = .kick id ∧
      w'.process.adapterAt? binding.address = some (entry, adapter) ∧
      adapter.function = .kick id := by
  obtain ⟨first, w₁, -, ran⟩ := Returns.bind ran
  cases first with
  | error e => cases (Returns.pure ran).1
  | ok bound =>
    obtain ⟨second, w₂, registered, ran⟩ := Returns.bind ran
    obtain ⟨same, rfl⟩ := Returns.pure ran
    cases second with
    | error e => cases same
    | ok binding =>
      obtain ⟨w₃, performed, rfl⟩ := registered.run
      have performed : Returns (Action.register (.bridge b) "cplayer_kick_by_id"
        (NativeFunction.kick id).signature (.kick id)) _ (.ok binding) w₃ := performed
      obtain ⟨p, added, process, -⟩ := performed.register
      obtain ⟨named, function, there⟩ := Process.register_binds added
      change ∃ binding entry adapter, (w₃.process.registry (.bridge b)).get? _ = some binding ∧ _ ∧
        w₃.process.adapterAt? binding.address = _ ∧ _
      rw [process]
      exact ⟨binding, _, _, named, function, there, rfl⟩

/-- What the server does itself is part of runs, whatever code outside does meanwhile. -/
structure ServerContinuesRuns : Prop where
  sessions : ∀ (outside : Outside) depth b settings loader,
    ContinuesRuns (Session.start (outside.answer depth) b settings loader)
  handlers : ∀ (outside : Outside) depth (events : EventImports),
    (events.hooks (outside.answer depth)).ContinueRuns
  connects : ∀ hooks : Hooks, hooks.ContinueRuns → ∀ address connection, ContinuesRuns
    (Connection.bridged hooks (Connection.ofClient address connection)).connect

/-- At every moment of every run, whoever asked for what, a lobby that was made empty seats its
players by the rule, and a kick marks just the player who sits at the seat then, or nobody if the
seat is free or the lobby is gone. Sessions and connect events are parts of such runs, and what
scripts call to kick a player is such a kick. -/
theorem kick_hits_holder {marks : List Mark} {w : World} (meets : Meets marks w) {id : ObjectId}
    (opened : WasOpened id marks) :
    (∃ lobby, LobbyStands id (turns id marks) w lobby) ∧ ServerContinuesRuns ∧
      ∀ foreign b v v', Returns (registerExports foreign b id) v (.ok ()) v' →
        ∃ binding entry adapter,
          (v'.process.registry (.bridge b)).get? "cplayer_kick_by_id" = some binding ∧
          binding.function = .kick id ∧
          v'.process.adapterAt? binding.address = some (entry, adapter) ∧
          adapter.function = .kick id := by
  refine ⟨meets.seatedBy.stands opened, ⟨?_, ?_, ?_⟩, fun _ _ _ _ ran => ran.bindsKick⟩
  · exact fun outside depth b settings loader => .start b settings loader
  · exact fun outside depth events => events.continueRuns outside depth
  · exact fun hooks continues => continues.connect

/-- A player joins a lobby and leaves it, and then another one joins. -/
def seatReuse : Conduct Unit := do
  let _ ← Conduct.doing (.create 16 (.lobby {}))
  let _ ← Conduct.doing (.register (.bridge 0) "kick" (NativeFunction.kick 0).signature (.kick 0))
  let _ ← Conduct.doing (.join 0)
  let _ ← Conduct.doing (.leave 0 0)
  let _ ← Conduct.doing (.join 0)

/-- The world after that. -/
def seatReused : World :=
  Outside.leads (fun _ call => .reply call.inertReply) 0 seatReuse {} []

/-- The second player has the seat of the first one, and is the one who is kicked. -/
theorem second_player_kicked : ∃ marks w', Meets marks seatReused ∧ WasOpened 0 marks ∧
    turns 0 marks = [.joined 0, .left 0, .joined 0] ∧
    (∃ lobby, LobbyStands 0 (turns 0 marks) seatReused lobby) ∧ Kicks 0 0 seatReused w' ∧
    w'.process.heap.lobby? 0 = some ⟨[(0, 1)], [⟨false⟩, ⟨true⟩]⟩ := by
  have run : Runs (seatReused.history.map .happened ++ []) seatReused :=
    (Runs.start {} []).conducted (.intro _ _) (List.append_nil _).symm
  have opened : WasOpened 0 (seatReused.history.map .happened ++ []) :=
    ⟨_, List.mem_of_getElem? (i := 8) rfl, rfl, rfl⟩
  have bound : (seatReused.process.registry (.bridge 0)).get? "kick" =
      some ⟨"kick", (NativeFunction.kick 0).signature, .kick 0, 0⟩ := by decide +kernel
  have invoked := Returns.intro ((Operation.invoke (.bridge 0) "kick" [.uint8 0]).run fun call =>
    pure call.inertReply) seatReused
  exact ⟨_, _, .between run, opened, by decide +kernel,
    (kick_hits_holder (.between run) opened).1, .invoked bound rfl invoked, by decide +kernel⟩

end ManagedHost
