import ManagedHost.Proofs.ImportCalls
import ManagedHost.Proofs.ImportHistory
import ManagedHost.Proofs.Telling

/-! # The addresses that a bridge keeps

A bridge keeps for its imports exactly what its runtime has named, as long as it is live or is being
torn down, and any other bridge keeps nothing (`Stock.Caching`). So whenever a call of an import
asks a runtime for a method, that is the runtime started last, the method is the import's own, and
no address was named for it before (`Stock.AsksFor`). Every call and every operation keeps this,
given that the calls that it makes do (`supplied_disciplined`). -/

namespace ManagedHost

open ManagedHost.Action

/-! ## What is known -/

namespace Stock

/-- The bridge of the runtime that was started last. -/
def owner (stock : Stock) : Option BridgeId := stock.lastLoad.map Prod.fst

/-- What the runtime started last has named, by the numbers of the imports. -/
def addresses (stock : Stock) : List (ImportId × Address) :=
  stock.found.map fun entry => (entry.1.id, entry.2)

/-- The bridge of the runtime that was started last keeps what this has named, as long as the bridge
is live or something is being torn down. -/
structure Caching (closing : Bool) (stock : Stock) : Prop where
  source : ∀ b runtime assembly, stock.runtime b = some (runtime, assembly) →
    ∃ loader, stock.lastLoad = some (b, loader) ∧ assembly = loader.identity
  kept : ∀ b, stock.owner = some b → stock.isLive b = true ∨ closing = true →
    stock.imports b = stock.addresses
  blank : ∀ b, ¬ (stock.owner = some b ∧ (stock.isLive b = true ∨ closing = true)) →
    stock.imports b = []

/-- The runtime of the bridge of an import, which is the one started last, is asked for the method
of the import, for which it has named no address yet. -/
structure AsksFor (imported : Import) (call : ForeignCall) (stock : Stock) : Prop where
  isLive : stock.isLive imported.bridge = true
  own : ∃ loader host started, stock.lastLoad = some (imported.bridge, loader) ∧
    stock.started.head? = some (host, started) ∧
    stock.runtime imported.bridge = some ((host, started), loader.identity) ∧
    call = .createDelegate host started (imported.target.assembly.getD loader.identity)
      imported.target.typeName imported.target.method
  fresh : ∀ address, (imported.id, address) ∉ stock.addresses

end Stock

/-- Every look-up that a call of an import made was for that import, and the first one for it that
could find something. -/
def Listed (h : List Moment) : Prop :=
  ∀ event q earlier imported call, ⟨event, q⟩ :: earlier <:+ h →
    event.lookUp? earlier = some (imported, call) → resolvesCalmly earlier = true →
      (stock earlier q).AsksFor imported call

/-- What is known of imports all through a run. -/
structure Stocked (h : List Moment) (p : Process) : Prop where
  listed : Listed h
  caching : resolvesCalmly h = true → (stock h p).Caching (isClosing h)

/-- Between two calls of an operation it may be known that something is being torn down while no
call says so. -/
structure Stocks (closing : Bool) (w : World) : Prop where
  before : Recorded Stocked w.history
  listed : Listed w.history
  caching : resolvesCalmly w.history = true → (stock w.history w.process).Caching closing

/-- The stance, and what is known of imports. -/
abbrev supplied : Claim := fun h p => Stance h p ∧ Stocked h p

/-- What a look-up leaves alone stays as it is while one is under way. -/
abbrev Unspoilt : Guarantee := Spares Operation.usesRuntime isLookUp stock

/-- What is known of the calls of an operation. -/
structure Vouches (foreign : Foreign) : Prop where
  stance : Respects Stance Steadfast foreign
  spares : Respects whatever Unspoilt foreign
  stocked : Respects supplied Unspoilt foreign

variable {foreign : Foreign} {w w' : World} {h : List Moment} {event : Event} {p q : Process}
  {closing : Bool}

theorem resolvesCalmly_tail {moment : Moment} (calm : resolvesCalmly (moment :: h) = true) :
    resolvesCalmly h = true := noneBegins_of_suffix (List.suffix_cons _ _) calm

theorem Listed.nil : Listed [] := by
  intro event q earlier imported call suffix
  cases List.suffix_nil.mp suffix

theorem Listed.cons (listed : Listed h)
    (now : ∀ imported call, event.lookUp? h = some (imported, call) → resolvesCalmly h = true →
      (stock h p).AsksFor imported call) : Listed (⟨event, p⟩ :: h) := by
  intro event' q earlier imported call suffix asks calm
  rcases List.suffix_cons_iff.mp suffix with same | suffix
  · cases same
    exact now imported call asks calm
  · exact listed event' q earlier imported call suffix asks calm

theorem Listed.silent (listed : Listed h) (silent : event.lookUp? h = none) (p : Process) :
    Listed (⟨event, p⟩ :: h) :=
  listed.cons fun _ _ asks => nomatch silent.symm.trans asks

/-- Where no bridge is live and nothing is being torn down, no bridge keeps an address. -/
theorem Stock.Caching.of_down (down : p.IsDown) (blank : ∀ b, (p.bridge b).imports = [])
    (h : List Moment) : (stock h p).Caching false := by
  refine ⟨fun b runtime assembly has => ?_, fun b _ held => ?_, fun b _ => blank b⟩
  · rw [runtime_stock, (down b).2] at has
    cases has
  · rw [isLive_stock, (down b).1] at held
    simp at held

theorem Stock.Caching.all_blank (caching : (stock h p).Caching false) (down : p.IsDown)
    (b : BridgeId) : (p.bridge b).imports = [] := by
  refine caching.blank b fun ⟨_, held⟩ => ?_
  rw [isLive_stock, (down b).1] at held
  simp at held

theorem Stock.Caching.load_of_host (caching : (stock h p).Caching closing) {b : BridgeId}
    {live : LiveHost} (host : (p.bridge b).host = some live) :
    ∃ loader, (stock h p).lastLoad = some (b, loader) ∧ live.defaultAssembly = loader.identity :=
  caching.source b _ _ (congrArg (Option.map _) host)

/-! ## Worlds in which this is known -/

theorem Sound.stocks (stocked : Sound Stocked w) : Stocks (isClosing w.history) w :=
  ⟨stocked.before, stocked.now.listed, stocked.now.caching⟩

theorem Stocks.sound (stocks : Stocks closing w) (held : isClosing w.history = closing) :
    Sound Stocked w :=
  ⟨⟨stocks.listed, held ▸ stocks.caching⟩, stocks.before⟩

theorem Stocks.alike (stocks : Stocks closing w) (same : Alike w w') : Stocks closing w' := by
  obtain ⟨process, history, -, -⟩ := same
  constructor
  · rw [history]
    exact stocks.before
  · rw [history]
    exact stocks.listed
  · rw [process, history]
    exact stocks.caching

theorem Stocks.put (stocks : Stocks closing w) {p : Process}
    (same : stock w.history p = stock w.history w.process) : Stocks closing (w.put p) :=
  ⟨stocks.before, stocks.listed, fun calm => same ▸ stocks.caching calm⟩

/-! ## Calls -/

/-- A call and its answer are the same look-up. -/
theorem lookUp?_replied {call : ForeignCall} (reply : call.Reply) {h h' : List Moment}
    (frames : underway h' = underway (⟨.called call, p⟩ :: h)) :
    (Event.replied call reply).lookUp? h' = (Event.called call).lookUp? h := by
  cases call with
  | createDelegate => simp only [Event.lookUp?, frames, underway_called, List.tail_cons]
  | _ => rfl

theorem stock_replied {call : ForeignCall} {reply : call.Reply}
    (unstarted : (Event.replied call reply).started? = none)
    (silent : (Event.replied call reply).lookUp? h = none) :
    stock (⟨.replied call reply, q⟩ :: h) p = stock h p := by
  cases call with
  | startUp =>
    cases reply with
    | error status => rfl
    | ok started => cases unstarted
  | createDelegate =>
    simp only [stock, found_replied reply (Option.map_eq_none_iff.mp silent)]
    rfl
  | _ => rfl

/-- How a call goes on, from the moment when it is made to the moment before it is answered. -/
theorem Vouches.course (hf : Vouches foreign) {call : ForeignCall}
    (stance : Sound Stance (w.after (.called call)))
    (stocked : Sound Stocked (w.after (.called call))) {reply : call.Reply}
    (ran : Returns (foreign call) w reply w') :
    ∃ w₁ : World, w' = w₁.after (.replied call reply) ∧ Sound Stocked w₁ ∧
      Recorded Stocked w'.history ∧ Unspoilt (w.after (.called call)) w₁ := by
  obtain ⟨reply', w₁, ran', between⟩ := hf.stocked call w (stance.and stocked)
  cases ran.symm.trans ran'
  have stocked₁ : Sound Stocked w₁ := between.sound.right
  exact ⟨w₁, rfl, stocked₁, stocked₁.replied call reply, between.since⟩

/-- A call that is no look-up of an import leaves known what is known, up to its answer. -/
theorem Stocks.course (hf : Vouches foreign) (stocks : Stocks closing w) {call : ForeignCall}
    (stance : Sound Stance (w.after (.called call)))
    (held : isClosing (⟨.called call, w.process⟩ :: w.history) = closing)
    (silent : (Event.called call).lookUp? w.history = none) {reply : call.Reply}
    (ran : Returns (foreign call) w reply w') :
    ∃ w₁ : World, w' = w₁.after (.replied call reply) ∧ Stocks closing w₁ ∧
      Recorded Stocked w'.history ∧ Unspoilt (w.after (.called call)) w₁ := by
  have made : Stocked (⟨.called call, w.process⟩ :: w.history) w.process :=
    ⟨stocks.listed.silent silent _, fun calm => held.symm ▸ stocks.caching calm⟩
  obtain ⟨w₁, same, stocked₁, before, between⟩ := hf.course stance (.called made stocks.before) ran
  have closing₁ : isClosing w₁.history = closing := (isClosing_congr between.frames).trans held
  exact ⟨w₁, same, closing₁ ▸ stocked₁.stocks, before, between⟩

theorem Stocks.replied (stocks : Stocks closing w) {call : ForeignCall} {reply : call.Reply}
    (unstarted : (Event.replied call reply).started? = none)
    (silent : (Event.replied call reply).lookUp? w.history = none)
    (before : Recorded Stocked (w.after (.replied call reply)).history) :
    Stocks closing (w.after (.replied call reply)) := by
  refine ⟨before, stocks.listed.silent silent _, fun calm => ?_⟩
  change (stock (⟨.replied call reply, w.process⟩ :: w.history) w.process).Caching closing
  rw [stock_replied unstarted silent]
  exact stocks.caching calm

theorem Stocks.call (hf : Vouches foreign) (stocks : Stocks closing w) {call : ForeignCall}
    (stance : Sound Stance (w.after (.called call)))
    (held : isClosing (⟨.called call, w.process⟩ :: w.history) = closing)
    (silent : (Event.called call).lookUp? w.history = none) {reply : call.Reply}
    (unstarted : (Event.replied call reply).started? = none)
    (ran : Returns (foreign call) w reply w') : Stocks closing w' := by
  obtain ⟨w₁, rfl, stocks₁, before, between⟩ := stocks.course hf stance held silent ran
  exact stocks₁.replied unstarted ((lookUp?_replied reply between.frames).trans silent) before

/-- The stance and what is known of imports, with what is under way. -/
structure Poised (frames : List (List Moment)) (w : World) : Prop where
  stance : Sound Stance w
  stocked : Sound Stocked w
  frames : underway w.history = frames

variable {frames : List (List Moment)}

theorem Poised.alike (poised : Poised frames w) (same : Alike w w') : Poised frames w' := by
  have closing : isClosing w'.history = isClosing w.history := by rw [same.2.1]
  exact ⟨(within_alike ⟨poised.stance, .refl w⟩ same).sound,
    (poised.stocked.stocks.alike same).sound closing, by rw [same.2.1]; exact poised.frames⟩

theorem Poised.put (poised : Poised frames w) {p : Process} (hosting : SameHosting w.process p)
    (same : stock w.history p = stock w.history w.process) : Poised frames (w.put p) :=
  ⟨(within_put ⟨poised.stance, .refl w⟩ hosting).sound,
    (poised.stocked.stocks.put same).sound rfl, poised.frames⟩

theorem Poised.call (hf : Vouches foreign) (poised : Poised frames w) {call : ForeignCall}
    (prepares : call.prepares = false) (closes : call.closes = false)
    (silent : (Event.called call).lookUp? w.history = none) {reply : call.Reply}
    (ran : Returns (foreign call) w reply w') : Poised frames w' := by
  have kept := (keeps_call hf.stance prepares closes).returns ran ⟨poised.stance, .refl w⟩
  have unstarted : (Event.replied call reply).started? = none := by
    cases call <;> first | rfl | cases prepares
  have stocks := poised.stocked.stocks.call hf (stance_called poised.stance prepares closes)
    (by simp [closes]) silent unstarted ran
  have under := kept.since.frames
  exact ⟨kept.sound, stocks.sound (isClosing_congr under), under.trans poised.frames⟩

/-- An operation that does nothing about runtimes and calls no import keeps what is known. -/
theorem steady_poised (hf : Vouches foreign) {operation : Operation}
    (free : operation.usesRuntime = false) (frames : List (List Moment)) :
    SteadyIn operation foreign (Poised frames) where
  effect _ _ step _ poised := poised.put step.change.hosting (stock_unseen.effect free step)
  write _ _ poised := poised.alike ⟨rfl, rfl, rfl, rfl⟩
  remember _ _ poised := poised.alike ⟨rfl, rfl, rfl, rfl⟩
  native _ _ _ _ poised := poised.call hf rfl rfl rfl (.intro _ _)

theorem steadyCalls_poised (hf : Vouches foreign) {operation : Operation}
    (free : operation.usesRuntime = false) (other : innermostCall frames = none) :
    SteadyCallsIn operation foreign (Poised frames) where
  toSteadyIn := steady_poised hf free frames
  createDelegate _ _ _ _ _ w poised := by
    refine poised.call hf rfl rfl ?_ (.intro _ w)
    rw [Event.lookUp?, poised.frames, other]
    rfl
  imported _ _ _ _ _ _ poised := poised.call hf rfl rfl rfl (.intro _ _)

/-! ## Calls of imports -/

namespace Stock

/-- The stock in which the runtime has named an address for an import, and the bridge keeps it. -/
def add (stock : Stock) (imported : Import) (address : Address) : Stock :=
  { stock with
    found := (imported, address) :: stock.found
    imports := fun b =>
      if b = imported.bridge then
        (imported.id, address) :: (stock.imports b).filter (·.1 ≠ imported.id)
      else stock.imports b }

variable {s : Stock} {imported : Import} {call : ForeignCall} {address : Address}

theorem AsksFor.owner (asks : s.AsksFor imported call) : s.owner = some imported.bridge := by
  obtain ⟨loader, host, started, load, -⟩ := asks.own
  rw [Stock.owner, load]
  rfl

theorem Caching.add (caching : s.Caching closing) (asks : s.AsksFor imported call)
    (address : Address) : (s.add imported address).Caching closing := by
  refine ⟨caching.source, fun b owned held => ?_, fun b apart => ?_⟩
  · obtain rfl : b = imported.bridge := Option.some.inj (owned.symm.trans asks.owner)
    have other : ∀ entry ∈ s.addresses, decide (entry.1 ≠ imported.id) = true := by
      rintro ⟨id, address⟩ member
      rw [decide_eq_true_iff]
      rintro rfl
      exact asks.fresh address member
    simp only [Stock.add, if_pos, caching.kept _ owned held, List.filter_eq_self.mpr other]
    rfl
  · have elsewhere : b ≠ imported.bridge := by
      rintro rfl
      exact apart ⟨asks.owner, .inl asks.isLive⟩
    simp only [Stock.add, if_neg elsewhere]
    exact caching.blank b apart

end Stock

theorem Stance.up_of_host (stance : Stance h p) {b : BridgeId} {live : LiveHost}
    (host : (p.bridge b).host = some live) : (p.bridge b).isLive = true ∧
      startedRuntimes h = (live.host, live.started) :: shutRuntimes h := by
  cases isLive : (p.bridge b).isLive with
  | false =>
    rw [stance.host_of_not_live isLive] at host
    cases host
  | true =>
    obtain ⟨live', -, up, -, -, ledger⟩ := stance.up_of_isLive isLive
    rw [up.host] at host
    cases host
    exact ⟨rfl, ledger⟩

/-- The look-up of the method of an import in a runtime. -/
abbrev LiveHost.lookUp (live : LiveHost) (imported : Import) : ForeignCall :=
  .createDelegate live.host live.started (imported.target.assembly.getD live.defaultAssembly)
    imported.target.typeName imported.target.method

section

variable {imported : Import} {live : LiveHost} {reply : Except Int32 Address}

theorem asksFor_of_uncached (stance : Stance h p) (caching : (stock h p).Caching closing)
    (host : (p.bridge imported.bridge).host = some live)
    (uncached : (p.bridge imported.bridge).imports.lookup imported.id = none) :
    (stock h p).AsksFor imported (live.lookUp imported) := by
  obtain ⟨isLive, ledger⟩ := stance.up_of_host host
  obtain ⟨loader, load, identity⟩ := caching.load_of_host host
  have owner : (stock h p).owner = some imported.bridge := congrArg (Option.map Prod.fst) load
  refine ⟨isLive, ⟨loader, live.host, live.started, load, ?_, ?_, ?_⟩, fun address member => ?_⟩
  · rw [show (stock h p).started = _ from ledger]
    rfl
  · rw [runtime_stock, host, Option.map_some, identity]
  · rw [LiveHost.lookUp, identity]
  · have kept : (p.bridge imported.bridge).imports = (stock h p).addresses :=
      caching.kept _ owner (.inl isLive)
    rw [kept, List.lookup_eq_none_iff] at uncached
    simpa using uncached _ member

theorem stock_cached (caller : innermostCall (underway h).tail = some imported)
    {address : Address} (named : address ≠ 0) (q p : Process) :
    stock (⟨.replied (live.lookUp imported) (.ok address), q⟩ :: h) (p.cache imported address) =
      (stock h p).add imported address := by
  have views : ∀ {α : Type} (view : Bridge → α),
      (∀ bridge : Bridge, view { bridge with
        imports := (imported.id, address) :: bridge.imports.filter (·.1 ≠ imported.id) } =
          view bridge) →
      (fun b => view ((p.cache imported address).bridge b)) = fun b => view (p.bridge b) :=
    fun view same => funext (Process.view_updateBridge view p (same _))
  have imports : (fun b => ((p.cache imported address).bridge b).imports) = fun b =>
      if b = imported.bridge then
        (imported.id, address) :: (p.bridge b).imports.filter (·.1 ≠ imported.id)
      else (p.bridge b).imports := by
    funext b
    by_cases own : b = imported.bridge
    · rw [if_pos own, own, Process.cache, Process.bridge_updateBridge_self]
    · rw [if_neg own, Process.cache, Process.bridge_updateBridge_of_ne p own]
  simp only [stock, Stock.add, found, if_neg named, caller, imports,
    views (·.isLive) fun _ => rfl, views (fun bridge => bridge.host.map _) fun _ => rfl]
  rfl

/-- While a call of an import looks its method up, nothing about imports changes. -/
theorem asked_stocked (hf : Vouches foreign) (poised : Poised frames w)
    (caller : innermostCall frames = some imported)
    (host : (w.process.bridge imported.bridge).host = some live)
    (uncached : (w.process.bridge imported.bridge).imports.lookup imported.id = none)
    (asked : Returns (foreign (live.lookUp imported)) w reply w') :
    ∃ w₁ : World, w' = w₁.after (.replied (live.lookUp imported) reply) ∧
      Recorded Stocked w'.history ∧ Listed w'.history ∧
      innermostCall (underway w₁.history).tail = some imported ∧
      (resolvesCalmly w₁.history = true →
        (stock w₁.history w₁.process).Caching (isClosing w.history) ∧
          (stock w₁.history w₁.process).AsksFor imported (live.lookUp imported)) := by
  have asks : resolvesCalmly w.history = true →
      (stock w.history w.process).AsksFor imported (live.lookUp imported) := fun calm =>
    asksFor_of_uncached poised.stance.now (poised.stocked.now.caching calm) host uncached
  have call : (Event.called (live.lookUp imported)).lookUp? w.history =
      some (imported, live.lookUp imported) := by
    rw [LiveHost.lookUp, Event.lookUp?, poised.frames, caller]
    rfl
  have made : Stocked (⟨.called (live.lookUp imported), w.process⟩ :: w.history) w.process := by
    refine ⟨poised.stocked.now.listed.cons fun imported' call' same calm => ?_,
      poised.stocked.now.caching⟩
    cases call.symm.trans same
    exact asks calm
  obtain ⟨w₁, rfl, stocked₁, before, between⟩ := hf.course (stance_called poised.stance rfl rfl)
    (.called made poised.stocked.before) asked
  have still : resolvesCalmly w₁.history = true → resolvesCalmly w.history = true ∧
      stock w₁.history w₁.process = stock w.history w.process := fun calm =>
    ⟨resolvesCalmly_tail (noneBegins_of_suffix between.grown calm), between.same rfl calm⟩
  have caching : resolvesCalmly w₁.history = true →
      (stock w₁.history w₁.process).Caching (isClosing w.history) ∧
        (stock w₁.history w₁.process).AsksFor imported (live.lookUp imported) := by
    intro calm
    obtain ⟨calm, same⟩ := still calm
    rw [same]
    exact ⟨poised.stocked.now.caching calm, asks calm⟩
  refine ⟨w₁, rfl, before, ?_, ?_, caching⟩
  · refine stocked₁.now.listed.cons fun imported' call' same calm => ?_
    cases (lookUp?_replied reply between.frames).symm.trans same |>.symm.trans call
    exact (caching calm).2
  · rw [between.frames, World.history_after, underway_called, List.tail_cons, poised.frames,
      caller]

theorem stock_refused (useless : ∀ address, reply = .ok address → address = 0) (q p : Process) :
    stock (⟨.replied (live.lookUp imported) reply, q⟩ :: h) p = stock h p := by
  have nothing : found (⟨.replied (live.lookUp imported) reply, q⟩ :: h) = found h := by
    cases reply with
    | error status => rfl
    | ok address => exact if_pos (useless address rfl)
  simp only [stock, nothing]
  rfl

theorem Poised.answered (poised : Poised frames w) {v : World} (kept : Within Stance Steadfast w v)
    {p : Process} (hosting : SameHosting v.process p)
    (stocks : Stocks (isClosing w.history) (v.put p)) : Poised frames (v.put p) :=
  ⟨(within_put kept hosting).sound, stocks.sound (isClosing_congr kept.since.frames),
    kept.since.frames.trans poised.frames⟩

/-- An import that is called is looked up unless its bridge keeps its address, and an address that
was found is kept. -/
theorem resolves_stocked (hf : Vouches foreign) (poised : Poised frames w)
    (caller : innermostCall frames = some imported) {r : Except BridgeError Address}
    (h : ResolvesImport foreign imported w r w') : Poised frames w' := by
  have stance : ∀ {live : LiveHost} {reply : Except Int32 Address} {v : World},
      Returns (foreign (live.lookUp imported)) w reply v → Within Stance Steadfast w v :=
    fun asked => (keeps_call hf.stance rfl rfl).returns asked ⟨poised.stance, .refl w⟩
  cases h with
  | known => exact poised
  | missed uncached missing =>
    cases missing with
    | hostless | unasked => exact poised
    | @refused live reply v _ host asked useless alike =>
      have kept := stance asked
      obtain ⟨w₁, rfl, before, listed, -, caching⟩ :=
        asked_stocked hf poised caller host uncached asked
      refine (poised.answered kept (.refl _) ⟨before, listed, fun calm => ?_⟩).alike alike
      change (stock (⟨.replied (live.lookUp imported) reply, w₁.process⟩ :: w₁.history)
        w₁.process).Caching _
      rw [stock_refused useless]
      exact (caching calm).1
  | @found address v uncached named =>
    cases named with
    | @found live _ v₁ _ host asked nonzero alike =>
      have kept := stance asked
      obtain ⟨w₁, rfl, before, listed, caller₁, caching⟩ :=
        asked_stocked hf poised caller host uncached asked
      have cached : Poised frames ((w₁.after (.replied (live.lookUp imported) (.ok address))).put
          (w₁.process.cache imported address)) := by
        refine poised.answered kept (Change.resolved imported address).hosting
          ⟨before, listed, fun calm => ?_⟩
        obtain ⟨caching, asks⟩ := caching calm
        change (stock (⟨.replied (live.lookUp imported) (.ok address), w₁.process⟩ :: w₁.history)
          (w₁.process.cache imported address)).Caching _
        rw [stock_cached caller₁ nonzero]
        exact caching.add asks address
      obtain ⟨process, history, files, directory⟩ := alike
      refine cached.alike ⟨?_, history, files, directory⟩
      rw [World.process_put, process]
      rfl

theorem calls_stocked (hf : Vouches foreign) (poised : Poised frames w)
    (caller : innermostCall frames = some imported) {args : List Value}
    {r : Except BridgeError Value} (h : CallsImport foreign imported args w r w') :
    Poised frames w' := by
  cases h with
  | refused => exact poised
  | unresolved accepted missing => exact resolves_stocked hf poised caller missing
  | stuck accepted named => exact resolves_stocked hf poised caller named
  | called accepted named passed call =>
    exact (resolves_stocked hf poised caller named).call hf rfl rfl rfl call

end

/-! ## Tearing down -/

theorem Stocks.closing_call (hf : Vouches foreign) (stocks : Stocks true w) {call : ForeignCall}
    (closes : call.closes = true) (stance : Sound Stance (w.after (.called call)))
    {reply : call.Reply} (ran : Returns (foreign call) w reply w') :
    Stocks true w' ∧ w.history <:+ w'.history := by
  refine ⟨stocks.call hf stance (by simp [closes]) ?_ ?_ ran, (framed_call hf.spares call ran).2⟩
  · cases call <;> first | rfl | cases closes
  · cases call <;> first | rfl | cases closes

/-- A bridge that gives up its runtime still keeps what that has named. -/
theorem caching_takeDown (caching : (stock h p).Caching closing) {b : BridgeId} {live : LiveHost}
    (host : (p.bridge b).host = some live) (isLive : (p.bridge b).isLive = true) :
    (stock h (p.takeDown b)).Caching true := by
  obtain ⟨loader, load, -⟩ := caching.load_of_host host
  have owned : (stock h p).owner = some b := congrArg (Option.map Prod.fst) load
  have imports : ∀ c, ((p.takeDown b).bridge c).imports = (p.bridge c).imports :=
    Process.view_updateBridge (·.imports) p rfl
  refine ⟨fun c runtime assembly has => ?_, fun c owns _ => ?_, fun c apart => ?_⟩
  · by_cases same : c = b
    · rw [runtime_stock, Process.takeDown, same, Process.bridge_updateBridge_self] at has
      cases has
    · rw [runtime_stock, Process.takeDown, Process.bridge_updateBridge_of_ne p same] at has
      exact caching.source c runtime assembly has
  · obtain rfl : c = b := Option.some.inj (owns.symm.trans owned)
    exact (imports c).trans (caching.kept c owned (.inl isLive))
  · refine (imports c).trans (caching.blank c fun claimed => ?_)
    exact apart ⟨claimed.1, .inr rfl⟩

/-- Once the bridge of the last runtime has forgotten everything, no bridge keeps an address. -/
theorem Stocks.forget (stocks : Stocks true w) {shut : List (HostId × HostInstance)}
    (vacant : Vacant shut shut frames w) {b : BridgeId}
    (owner : resolvesCalmly w.history = true → (lastLoad w.history).map Prod.fst = some b)
    (gone : Returns (Action.forget b) w () w') : Sound Stocked w' := by
  have forgotten := gone.forgets (vacant.down b).1 (vacant.down b).2
  have settled := vacant.forget gone
  have history : w'.history = w.history := gone.forget.2.1
  have closing : isClosing w'.history = false := history ▸ vacant.closing
  refine Stocks.sound ⟨history ▸ stocks.before, history ▸ stocks.listed, fun calm => ?_⟩ closing
  rw [history] at calm
  refine .of_down settled.down (fun c => ?_) _
  by_cases same : c = b
  · rw [same, forgotten.emptied]
  · rw [forgotten.others c same]
    refine (stocks.caching calm).blank c fun ⟨owns, _⟩ => same ?_
    exact Option.some.inj (owns.symm.trans (owner calm))

/-- A bridge that is torn down keeps what its runtime has named until it forgets everything. -/
theorem tearsDown_stocked (hf : Vouches foreign) {b : BridgeId} {r : Bool} (stance : Sound Stance w)
    (stocked : Sound Stocked w) (h : TearsDown foreign b w r w') : Sound Stocked w' := by
  cases h with
  | idle => exact stocked
  | bare isLive hostless =>
    obtain ⟨live, -, up, -⟩ := stance.now.up_of_isLive isLive
    cases up.host.symm.trans hostless
  | @down live w₁ w₂ _ isLive host unload shut gone =>
    have vacant := vacant_takeDown stance host isLive
    have leaving : Stocks true (w.put (w.process.takeDown b)) :=
      ⟨stocked.before, stocked.now.listed, fun calm =>
        caching_takeDown (stocked.now.caching calm) host isLive⟩
    have silent := vacant.callUnload hf.stance unload
    obtain ⟨stocks₁, grown₁⟩ : Stocks true w₁ ∧ w.history <:+ w₁.history := by
      rcases unload.callUnload with ⟨-, rfl⟩ | ⟨name, address, cell, v, -, call, alike⟩
      · exact ⟨leaving, List.suffix_rfl⟩
      · have told := vacant.unload_call b address ⟨.void, []⟩ []
        obtain ⟨stocks, grown⟩ := leaving.closing_call hf rfl (.called told vacant.before) call
        exact ⟨stocks.alike alike, alike.2.1 ▸ grown⟩
    obtain ⟨reply, v, call, same⟩ := shut.shutDown
    obtain ⟨stocks₂, grown₂⟩ :=
      stocks₁.closing_call hf rfl (.called silent.shutDown_call silent.before) call
    have settled := (silent.shutDown hf.stance call).alike same
    have grown : w.history <:+ w₂.history := same.2.1 ▸ grown₁.trans grown₂
    refine (stocks₂.alike same).forget settled (fun calm => ?_) gone
    obtain ⟨loader, load, -⟩ :=
      (stocked.now.caching (noneBegins_of_suffix grown calm)).load_of_host host
    rw [(lasting_of_started grown (settled.started.trans vacant.started.symm)).1]
    exact congrArg (Option.map Prod.fst) load

/-! ## Bringing up -/

section

variable {shut : List (HostId × HostInstance)}

theorem Stocks.preparing_call (hf : Vouches foreign) (stocks : Stocks false w)
    (vacant : Vacant shut shut frames w) {call : ForeignCall} (prepares : call.prepares = true)
    {reply : call.Reply} (ran : Returns (foreign call) w reply w') :
    ∃ w₁ : World, w' = w₁.after (.replied call reply) ∧ Stocks false w₁ ∧
      Recorded Stocked w'.history ∧ (underway w₁.history).tail = frames := by
  have closing : isClosing (⟨.called call, w.process⟩ :: w.history) = false := by
    rw [isClosing_called, vacant.closing, Bool.or_false]
    cases call <;> first | rfl | cases prepares
  have silent : (Event.called call).lookUp? w.history = none := by
    cases call <;> first | rfl | cases prepares
  obtain ⟨w₁, rfl, stocks₁, before, between⟩ := stocks.course hf
    (.called (vacant.preparing_call prepares) vacant.before) closing silent ran
  exact ⟨w₁, rfl, stocks₁, before, by rw [between.frames]; exact vacant.frames⟩

/-- As long as no runtime is up, no bridge keeps an address, whatever is started. -/
theorem Stocks.prepared_call (hf : Vouches foreign) (stocks : Stocks false w)
    (vacant : Vacant shut shut frames w) {call : ForeignCall} (prepares : call.prepares = true)
    {reply : call.Reply} (ran : Returns (foreign call) w reply w') : Stocks false w' := by
  have down := (vacant.prepare hf.stance call prepares ran).down
  obtain ⟨w₁, rfl, stocks₁, before, -⟩ := stocks.preparing_call hf vacant prepares ran
  have silent : (Event.replied call reply).lookUp? w₁.history = none := by
    cases call <;> first | rfl | cases prepares
  exact ⟨before, stocks₁.listed.silent silent _, fun calm =>
    .of_down down ((stocks₁.caching calm).all_blank down) _⟩

theorem stocks_search (hf : Vouches foreign) :
    SteadySearch foreign fun w => Vacant shut shut frames w ∧ Stocks false w := by
  have call : ∀ call : ForeignCall, call.prepares = true →
      (∀ reply, (Event.replied call reply).started? = none) →
      Keeps (fun w => Vacant shut shut frames w ∧ Stocks false w) (foreign call) := by
    intro call prepares silent w ⟨vacant, stocks⟩
    have ran := Returns.intro (foreign call) w
    have after := vacant.prepare hf.stance call prepares ran
    rw [silent] at after
    exact ⟨after, stocks.prepared_call hf vacant prepares ran⟩
  constructor
  · exact fun _ _ ⟨vacant, stocks⟩ =>
      ⟨vacant.alike ⟨rfl, rfl, rfl, rfl⟩, stocks.alike ⟨rfl, rfl, rfl, rfl⟩⟩
  · exact fun _ => call _ rfl fun _ => rfl
  · exact fun _ => call _ rfl fun _ => rfl
  · exact fun _ => call _ rfl fun _ => rfl
  · exact fun _ _ => call _ rfl fun _ => rfl

/-- The runtime that a load starts was started for that load, and has named nothing. -/
theorem stocks_prepared (hf : Vouches foreign) (vacant : Vacant shut shut frames w)
    (stocks : Stocks false w) {loader : Loader} {r : Except BridgeError LiveHost}
    (h : Returns (Action.prepare foreign loader) w r w') :
    Stocks false w' ∧ ∀ live, r = .ok live → lastLoad w'.history = innermostLoad frames ∧
      found w'.history = [] ∧ live.defaultAssembly = loader.identity := by
  rcases h.prepare with ⟨⟨e, rfl⟩, steady⟩ |
    ⟨host, properties, reply, w₁, w₂, steady, start, alike, way⟩
  · exact ⟨(steady _ (stocks_search hf) ⟨vacant, stocks⟩).2, nofun⟩
  · obtain ⟨vacant₁, stocks₁⟩ := steady _ (stocks_search hf) ⟨vacant, stocks⟩
    refine ⟨(stocks₁.prepared_call hf vacant₁ rfl start).alike alike, ?_⟩
    rintro live rfl
    obtain ⟨w₃, rfl, -, -, under⟩ := stocks₁.preparing_call hf vacant₁ rfl start
    rcases way with ⟨status, -, failed⟩ | ⟨started, live', rfl, same, -, -, -, identity⟩
    · cases failed
    · cases same
      rw [alike.2.1, World.history_after, lastLoad, under]
      exact ⟨rfl, rfl, identity⟩

end

theorem caching_bringUp (down : p.IsDown) (blank : ∀ b, (p.bridge b).imports = [])
    {b : BridgeId} {loader : Loader} {live : LiveHost} (load : lastLoad h = some (b, loader))
    (nothing : found h = []) (identity : live.defaultAssembly = loader.identity) :
    (stock h (p.bringUp b live)).Caching closing := by
  have up := isUp_bringUp down b live
  have imports : ∀ c, ((p.bringUp b live).bridge c).imports = [] := fun c =>
    (Process.view_updateBridge (·.imports) p rfl c).trans (blank c)
  refine ⟨fun c runtime assembly has => ?_, fun c _ _ => ?_, fun c _ => imports c⟩
  · by_cases same : c = b
    · rw [runtime_stock, same, up.host] at has
      cases has
      exact ⟨loader, same ▸ load, identity⟩
    · rw [runtime_stock, (up.others c same).2] at has
      cases has
  · rw [Stock.addresses, show (stock h (p.bringUp b live)).found = [] from nothing]
    exact imports c

theorem resolve_poised (hf : Vouches foreign) (other : innermostCall frames = none) {b : BridgeId}
    {typeName method : String} {assembly : Option String} {r : Except BridgeError Address}
    (poised : Poised frames w) (h : Returns (resolve foreign b typeName method assembly) w r w') :
    Poised frames w' := by
  have steady : SteadyCallsIn (.resolve b typeName method assembly) foreign (Poised frames) :=
    steadyCalls_poised hf rfl other
  exact (steady.resolve b typeName method assembly).returns h poised

theorem boots_poised (hf : Vouches foreign) (other : innermostCall frames = none) {b : BridgeId}
    {loader : Loader} {r : Except BridgeError Unit} (poised : Poised frames w)
    (h : Boots foreign b loader w r w') : Poised frames w' := by
  cases h with
  | noLoad load => exact resolve_poised hf other poised load
  | noUnload load unload =>
    exact resolve_poised hf other (resolve_poised hf other poised load) unload
  | @told _ onUnload json _ _ _ w₂ w₃ load unload call text bytes =>
    have found := resolve_poised hf other (resolve_poised hf other poised load) unload
    have ready := found.put (p := w₂.process.tell b json) (.updateBridge rfl rfl)
      (stock_updateBridge _ _ rfl rfl rfl)
    have told := ready.call hf rfl rfl rfl call
    have same : stock w₃.history (w₃.process.hook b loader.unloadName onUnload) =
        stock w₃.history w₃.process := by
      refine stock_updateBridge _ _ rfl rfl ?_
      rw [runtime_stock, Option.map_map]
      rfl
    exact ⟨(within_hook ⟨told.stance, .refl _⟩ _ _ _).sound,
      (told.stocked.stocks.put same).sound rfl, told.frames⟩

/-- The load of a bridge that has its runtime up keeps what is known. -/
theorem broughtUp_poised (hf : Vouches foreign) {b : BridgeId} {loader : Loader} {live : LiveHost}
    {w₁ : World} {r : Except BridgeError Unit} (poised : Poised frames w)
    (innermost : innermostLoad frames = some (b, loader)) (other : innermostCall frames = none)
    (free : w.process.isClaimed = false) (stocks : Stocks false (w.put w.process.claim))
    (prepared : Returns (prepare foreign loader) (w.put w.process.claim) (.ok live) w₁)
    (booted : Boots foreign b loader (w₁.put (w₁.process.bringUp b live)) r w') :
    Poised frames w' := by
  have vacant := vacant_claim poised.stance free
  have vacant₁ : Vacant _ _ _ _ := vacant.prepared hf.stance prepared
  obtain ⟨stocks₁, started⟩ := stocks_prepared hf vacant stocks prepared
  obtain ⟨load, nothing, identity⟩ := started live rfl
  rw [poised.frames, innermost] at load
  have up : Stocks false (w₁.put (w₁.process.bringUp b live)) := by
    refine ⟨stocks₁.before, stocks₁.listed, fun calm => ?_⟩
    exact caching_bringUp vacant₁.down ((stocks₁.caching calm).all_blank vacant₁.down) load nothing
      identity
  have stance := (within_bringUp ⟨poised.stance, .refl w⟩ free vacant₁ b).sound
  exact boots_poised hf other
    ⟨stance, up.sound vacant₁.closing, vacant₁.frames.trans poised.frames⟩ booted

theorem loads_stocked (hf : Vouches foreign) {b : BridgeId} {loader : Loader}
    {r : Except BridgeError Unit} (poised : Poised frames w)
    (innermost : innermostLoad frames = some (b, loader)) (other : innermostCall frames = none)
    (h : Loads foreign b loader w r w') : Sound Stocked w' := by
  have claimed : w.process.isClaimed = false → Stocks false (w.put w.process.claim) := by
    intro free
    obtain ⟨-, -, closing, -⟩ := poised.stance.now.idle_of_unclaimed free
    exact (closing ▸ poised.stocked.stocks).put rfl
  cases h with
  | refused => exact poised.stocked
  | unprepared free prepared =>
    have vacant := vacant_claim poised.stance free
    have vacant₁ : Vacant _ _ _ _ := vacant.prepared hf.stance prepared
    obtain ⟨stocks₁, -⟩ := stocks_prepared hf vacant (claimed free) prepared
    have freed := stocks₁.put (p := Process.free _) rfl
    exact freed.sound vacant₁.closing
  | failed free prepared boots logged down =>
    have up := broughtUp_poised hf poised innermost other free (claimed free) prepared boots
    have told := up.alike logged
    exact tearsDown_stocked hf told.stance told.stocked down
  | loaded free prepared boots expected =>
    have up := broughtUp_poised hf poised innermost other free (claimed free) prepared boots
    exact ((up.put (.expect _ b) rfl).alike expected).stocked

/-! ## Every operation -/

theorem perform_stocked (hf : Vouches foreign) {operation : Operation} {result : operation.Result}
    (poised : Poised frames w) {q : Process} {before : List Moment} {outer : List (List Moment)}
    (caller : frames = (⟨.began operation, q⟩ :: before) :: outer)
    (ran : Returns (operation.perform foreign) w result w') : Sound Stocked w' := by
  subst caller
  cases uses : operation.usesRuntime with
  | false =>
    have other := innermostCall_began uses q before outer
    have hosts : operation.hosts = false := by
      cases hosts : operation.hosts with
      | false => rfl
      | true => exact absurd (stock_unseen.hosts operation hosts) (by simp [uses])
    exact ((Operation.perform_steady (steadyCalls_poised hf uses other) hosts).returns ran
      poised).stocked
  | true =>
    cases operation with
    | call imported args => exact (calls_stocked hf poised rfl (Returns.callsImport ran)).stocked
    | load b loader => exact loads_stocked hf poised rfl rfl (Returns.load ran)
    | teardown b => exact tearsDown_stocked hf poised.stance poised.stocked (Returns.teardown ran)
    | registerExit b =>
      exact ((poised.put (.expect _ b) rfl).alike (Returns.registerExit ran)).stocked
    | releaseExit b =>
      exact ((poised.put (.release _ b) rfl).alike (Returns.releaseExit ran)).stocked
    | runExitTeardown =>
      rcases Returns.runExitTeardown ran with ⟨-, -, rfl⟩ | ⟨b, -, down⟩
      · exact poised.stocked
      · have idle := poised.put (.expectNone _) rfl
        exact tearsDown_stocked hf idle.stance idle.stocked down
    | _ => cases uses

theorem run_stocked (hf : Vouches foreign) {operation : Operation} {result : operation.Result}
    (stance : Sound Stance w) (stocked : Sound Stocked w)
    (ran : Returns (operation.run foreign) w result w') : Sound Stocked w' := by
  obtain ⟨result', w₁, performed, whole⟩ := operation.run_eq foreign w
  cases ran.symm.trans whole
  have begun : Poised (underway (w.after (.began operation)).history)
      (w.after (.began operation)) := by
    refine ⟨.began (stance.now.congr (.refl _) rfl rfl rfl rfl) stance.before, .began ?_
      stocked.before, rfl⟩
    exact ⟨stocked.now.listed.silent rfl _, fun calm => stocked.now.caching
      (resolvesCalmly_tail calm)⟩
  have done := perform_stocked hf begun rfl performed
  have frames := (framed_perform hf.spares operation performed).1
  have closing : isClosing (⟨.ended operation result, w₁.process⟩ :: w₁.history) =
      isClosing w₁.history := by
    rw [isClosing_congr frames, isClosing, underway_ended, frames]
    rfl
  exact .ended ⟨done.now.listed.silent rfl _, fun calm => closing.symm ▸ done.now.caching calm⟩
    done.before

theorem supplied_disciplined (hf : Vouches foreign) : Disciplined supplied Unspoilt foreign := by
  have between := spares_disciplined hf.spares stock_unseen
  have stand := stance_disciplined hf.stance
  constructor
  · intro operation w₀ w ⟨sound, since⟩
    have stance : Sound Stance w := sound.left
    have stocked : Sound Stocked w := sound.right
    have kept := stand.run operation w w ⟨stance, .refl w⟩
    have done := run_stocked hf stance stocked (.intro (operation.run foreign) w)
    exact ⟨kept.sound.and done, (between.run operation w₀ w (within_whatever since)).since⟩
  · intro id adapter cells w₀ w ⟨sound, since⟩
    have stance : Sound Stance w := sound.left
    have stocked : Sound Stocked w := sound.right
    have steady : SteadyIn (.enter (Adapter.address id) cells) foreign
        (Poised (underway w.history)) := steady_poised hf rfl _
    have done := steady.enterAdapter id adapter cells w ⟨stance, stocked, rfl⟩
    exact ⟨done.stance.and done.stocked,
      (between.enter id adapter cells w₀ w (within_whatever since)).since⟩

theorem stocked_start : Stocked [] {} :=
  ⟨.nil, fun _ => .of_down (fun _ => ⟨rfl, rfl⟩) (fun _ => rfl) _⟩

/-- All through every run this is known of imports. -/
theorem World.Reached.stocked {w : World} (reached : w.Reached) : Sound supplied w :=
  reached.sound .refl (fun outside depth stocked => supplied_disciplined
    ⟨answer_stance outside depth, answer_spares stock_unseen _ outside depth, stocked⟩)
    ⟨stance_start, stocked_start⟩

end ManagedHost
