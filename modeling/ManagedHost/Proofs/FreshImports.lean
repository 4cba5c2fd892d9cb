import ManagedHost.Proofs.ImportCache
import ManagedHost.Proofs.ImportNumbers

/-! # Imports are resolved afresh for every runtime

An import has an address exactly as long as the runtime that named it is there, and it is the one
that this runtime named for the import's own method when a call of the import asked for it
(`Resolution`). So no runtime is asked for an import again once it has named an address for it, and
every call until then asks (`imports_resolve_afresh`). -/

namespace ManagedHost

open ManagedHost.Action

/-- The bridge is live, or it is being torn down. -/
def HasRuntime (b : BridgeId) (h : List Moment) (p : Process) : Prop :=
  (p.bridge b).isLive = true ∨ IsTearingDown h b

/-- The runtime that was started last was started for the bridge of the import. It answered with
the address when a call of the import asked for the method that this points at, in the assembly that
this names or else in that of the load. -/
def Resolution (imported : Import) (address : Address) (h : List Moment) : Prop :=
  ∃ loader host started q earlier,
    lastLoad h = some (imported.bridge, loader) ∧
    (startedRuntimes h).head? = some (host, started) ∧
    ⟨.replied (.createDelegate host started (imported.target.assembly.getD loader.identity)
      imported.target.typeName imported.target.method) (.ok address), q⟩ :: earlier <:+ h ∧
    innermostCall (underway earlier).tail = some imported ∧ address ≠ 0 ∧
    startedRuntimes earlier = startedRuntimes h

/-- The ways through calling the method of an import at a known address. -/
inductive CallsAddress (foreign : Foreign) (imported : Import) (args : List Value)
    (address : Address) (w : World) : Except BridgeError Value → World → Prop
  /-- An argument cannot be passed on. -/
  | stuck {e : BridgeError} (unpassable : Cell.ofValues imported.name args = .error e) :
      CallsAddress foreign imported args address w (.error e) w
  | called {cells : List Cell} {cell : Cell} {w' : World}
      (passed : Cell.ofValues imported.name args = .ok cells)
      (call : Returns (foreign (.managed (.imported imported.bridge imported.id) address
        imported.signature cells)) w cell w') :
      CallsAddress foreign imported args address w
        (cell.toResult w'.process.buffer? imported.name imported.signature.returns) w'

/-- A call of an import asks for the method just if that is not resolved. -/
structure CallsAfresh (foreign : Foreign) (imported : Import) (args : List Value)
    (h : List Moment) (w : World) (r : Except BridgeError Value) (w' : World) : Prop where
  /-- With the wrong number or types of arguments nothing is called. -/
  mismatched : ∀ e, imported.signature.checkArguments imported.name args = .error e →
    r = .error e ∧ w' = w
  /-- Without a runtime nothing is called either. -/
  idle : imported.signature.checkArguments imported.name args = .ok () →
    ¬ HasRuntime imported.bridge h w.process → r = .error .hostNotLoaded ∧ w' = w
  resolved : imported.signature.checkArguments imported.name args = .ok () →
    HasRuntime imported.bridge h w.process →
    ∀ address, Resolution imported address h →
      CallsAddress foreign imported args address w r w'
  /-- A look-up that fails is the end of the call, and the next call looks up again. -/
  unresolved : imported.signature.checkArguments imported.name args = .ok () →
    (∀ address, ¬ Resolution imported address h) →
    ∃ looked w₁, LooksUpImport foreign imported w looked w₁ ∧
      (∀ e, looked = .error e → r = .error e ∧ w' = w₁) ∧
      ∀ address, looked = .ok address →
        CallsAddress foreign imported args address (w₁.put (w₁.process.cache imported address)) r w'

/-- What can be said at one moment about all imports that were declared. -/
structure ImportsFresh (w : World) : Prop where
  /-- A bridge that has a runtime has the one that was started last, which was started for it. -/
  current : ∀ b live, (w.process.bridge b).host = some live →
    (startedRuntimes w.history).head? = some (live.host, live.started) ∧
      ∃ loader, lastLoad w.history = some (b, loader) ∧ live.defaultAssembly = loader.identity
  /-- A bridge keeps an address for an import just if its runtime resolved the import so. -/
  cached : ∀ imported ∈ declaredImports w.history, ∀ address,
    (w.process.bridge imported.bridge).imports.lookup imported.id = some address ↔
      HasRuntime imported.bridge w.history w.process ∧ Resolution imported address w.history
  /-- Without a runtime a bridge keeps no address at all. -/
  idle : ∀ b, ¬ HasRuntime b w.history w.process → (w.process.bridge b).imports = []
  /-- Whenever a call of an import asked for a method, and whenever it got an answer, that was the
  import's own method, the runtime of its bridge was asked, and it had not resolved it yet. -/
  asked : ∀ event q earlier imported call, ⟨event, q⟩ :: earlier <:+ w.history →
    event.lookUp? earlier = some (imported, call) →
      (∃ live, (q.bridge imported.bridge).host = some live ∧ call = live.lookUp imported) ∧
      ∀ address, ¬ Resolution imported address earlier
  calls : ∀ imported ∈ declaredImports w.history, ∀ foreign args,
    let operation := Operation.call imported args
    ∃ r w', Returns (operation.run foreign) w r (World.after w' (.ended operation r)) ∧
      CallsAfresh foreign imported args w.history (w.after (.began operation)) r w'

variable {foreign : Foreign} {imported : Import} {address address' : Address} {args : List Value}
  {r : Except BridgeError Value} {h : List Moment} {p : Process} {w w' : World} {b : BridgeId}

/-! ## Resolutions -/

theorem Resolution.owner (resolution : Resolution imported address h) :
    lastOwner h = some imported.bridge := by
  obtain ⟨loader, host, started, q, earlier, load, -⟩ := resolution
  rw [lastOwner_eq, load]
  rfl

theorem Resolution.named (resolution : Resolution imported address h) :
    Named imported address h := by
  obtain ⟨loader, host, started, q, earlier, load, runtime, suffix, caller, named, same⟩ :=
    resolution
  have before : earlier <:+ h := (List.suffix_cons _ _).trans suffix
  exact ⟨host, started, _, _, _, q, earlier, suffix, caller, named, same.symm,
    (lasting_of_started before same.symm).1⟩

/-- The end of a look-up that a call of an import made was the first one that could find
something. -/
theorem Listed.answered (listed : Listed h) (calm : resolvesCalmly h = true) {host : HostId}
    {started : HostInstance} {assembly typeName method : String} {reply : Except Int32 Address}
    {q : Process} {earlier : List Moment}
    (suffix : ⟨.replied (.createDelegate host started assembly typeName method) reply, q⟩ ::
      earlier <:+ h) (caller : innermostCall (underway earlier).tail = some imported) :
    (stock earlier q).AsksFor imported (.createDelegate host started assembly typeName method) :=
  listed _ q earlier imported _ suffix (by rw [Event.lookUp?, caller]; rfl)
    (noneBegins_of_suffix ((List.suffix_cons _ _).trans suffix) calm)

theorem resolution_of_found (listed : Listed h) (calm : resolvesCalmly h = true)
    (member : (imported, address) ∈ found h) : Resolution imported address h := by
  obtain ⟨host, started, assembly, typeName, method, q, earlier, suffix, caller, named, same,
    load⟩ := named_of_found member
  obtain ⟨loader, host', started', loaded, last, -, own⟩ :=
    (listed.answered calm suffix caller).own
  cases own
  exact ⟨loader, host, started, q, earlier, load.trans loaded, same ▸ last, suffix, caller, named,
    same.symm⟩

/-- A runtime that has resolved an import is not asked for it. -/
theorem not_named_of_asks {call : ForeignCall} (asks : (stock h p).AsksFor imported call)
    (address : Address) : ¬ Named imported address h := fun named =>
  asks.fresh address (List.mem_map.mpr ⟨_, found_of_named named, rfl⟩)

/-- A runtime resolves an import once. -/
theorem Named.unique (listed : Listed h) (calm : resolvesCalmly h = true)
    (first : Named imported address h) (second : Named imported address' h) :
    address = address' := by
  obtain ⟨host, started, assembly, typeName, method, q, earlier, suffix, caller, named, same,
    load⟩ := first
  obtain ⟨host', started', assembly', typeName', method', q', earlier', suffix', caller', named',
    same', load'⟩ := second
  -- Of two answers the later one was given to a question that is only asked before the first.
  rcases List.suffix_or_suffix_of_suffix suffix suffix' with within | within
  · rcases List.suffix_cons_iff.mp within with same | within
    · cases same
      rfl
    · exact absurd ⟨host, started, assembly, typeName, method, q, earlier, within, caller, named,
        same'.symm.trans same, load'.symm.trans load⟩
        (not_named_of_asks (listed.answered calm suffix' caller') address)
  · rcases List.suffix_cons_iff.mp within with same | within
    · cases same
      rfl
    · exact absurd ⟨host', started', assembly', typeName', method', q', earlier', within, caller',
        named', same.symm.trans same', load.symm.trans load'⟩
        (not_named_of_asks (listed.answered calm suffix caller) address')

/-! ## What a bridge keeps -/

theorem imports_of_hasRuntime (stance : Stance h p)
    (caching : (stock h p).Caching (isClosing h)) (has : HasRuntime b h p) :
    lastOwner h = some b ∧ (p.bridge b).imports = (stock h p).addresses := by
  have owner : lastOwner h = some b := by
    rcases has with isLive | ⟨-, owner⟩
    · obtain ⟨live, -, up, -⟩ := stance.up_of_isLive isLive
      obtain ⟨loader, load, -⟩ := caching.load_of_host up.host
      rw [lastOwner_eq]
      exact congrArg (Option.map Prod.fst) load
    · exact owner
  exact ⟨owner, caching.kept b ((lastOwner_eq h).symm.trans owner) (has.imp_right And.left)⟩

theorem imports_of_idle (caching : (stock h p).Caching (isClosing h)) (idle : ¬ HasRuntime b h p) :
    (p.bridge b).imports = [] :=
  caching.blank b fun ⟨owner, held⟩ =>
    idle (held.imp_right fun closing => ⟨closing, (lastOwner_eq h).trans owner⟩)

/-- The import whose call made a look-up was declared. -/
theorem declared_of_named (declared : callsDeclared h = true)
    (named : Named imported address h) : imported ∈ declaredImports h := by
  obtain ⟨host, started, assembly, typeName, method, q, earlier, suffix, caller, -⟩ := named
  obtain ⟨args, q', before, began⟩ :=
    began_of_innermostCall caller fun _ => List.mem_of_mem_tail
  exact declared_of_began declared (began.trans ((List.suffix_cons _ _).trans suffix))

theorem cached_iff (stance : Stance h p) (stocked : Stocked h p) (numbered : Numbered h p)
    (calm : resolvesCalmly h = true) (declared : callsDeclared h = true)
    (member : imported ∈ declaredImports h) :
    (p.bridge imported.bridge).imports.lookup imported.id = some address ↔
      HasRuntime imported.bridge h p ∧ Resolution imported address h := by
  have caching := stocked.caching calm
  have resolved : ∀ {address}, (p.bridge imported.bridge).imports.lookup imported.id =
      some address → HasRuntime imported.bridge h p ∧ Resolution imported address h := by
    intro address cached
    by_cases has : HasRuntime imported.bridge h p
    case neg =>
      rw [imports_of_idle caching has] at cached
      cases cached
    obtain ⟨owner, kept⟩ := imports_of_hasRuntime stance caching has
    rw [kept] at cached
    obtain ⟨before, after, split, -⟩ := List.lookup_eq_some_iff.mp cached
    have kept : (imported.id, address) ∈ (stock h p).addresses := split ▸ List.mem_append_cons_self
    obtain ⟨⟨other, _⟩, named, same⟩ := List.mem_map.mp kept
    obtain ⟨number, rfl⟩ := Prod.mk.inj same
    have resolution := resolution_of_found stocked.listed calm named
    have bridge : other.bridge = imported.bridge :=
      Option.some.inj (resolution.owner.symm.trans owner)
    obtain rfl : other = imported := numbered.distinct other
      (declared_of_named declared resolution.named) imported member bridge number
    exact ⟨has, resolution⟩
  refine ⟨resolved, fun ⟨has, resolution⟩ => ?_⟩
  obtain ⟨-, kept⟩ := imports_of_hasRuntime stance caching has
  cases found : (p.bridge imported.bridge).imports.lookup imported.id with
  | some other =>
    rw [resolution.named.unique stocked.listed calm (resolved found).2.named]
  | none =>
    rw [kept, List.lookup_eq_none_iff] at found
    have member : (imported.id, address) ∈ (stock h p).addresses :=
      List.mem_map.mpr ⟨_, found_of_named resolution.named, rfl⟩
    simpa using found _ member

/-! ## Calls -/

theorem asks_own {call : ForeignCall} (asks : (stock h p).AsksFor imported call) :
    ∃ live, (p.bridge imported.bridge).host = some live ∧ call = live.lookUp imported := by
  obtain ⟨loader, host, started, -, -, runtime, rfl⟩ := asks.own
  obtain ⟨live, found, same⟩ := Option.map_eq_some_iff.mp runtime
  rw [Prod.mk.injEq, Prod.mk.injEq] at same
  obtain ⟨⟨rfl, rfl⟩, assembly⟩ := same
  exact ⟨live, found, by rw [LiveHost.lookUp, assembly]⟩

/-- With fitting arguments a call finds the address first and then calls it. -/
theorem Action.CallsImport.resolves
    (accepted : imported.signature.checkArguments imported.name args = .ok ())
    (h : CallsImport foreign imported args w r w') :
    ∃ looked w₁, ResolvesImport foreign imported w looked w₁ ∧
      (∀ e, looked = .error e → r = .error e ∧ w' = w₁) ∧
      ∀ address, looked = .ok address → CallsAddress foreign imported args address w₁ r w' := by
  cases h with
  | refused mismatch => cases accepted.symm.trans mismatch
  | unresolved _ missing =>
    refine ⟨_, _, missing, ?_, nofun⟩
    rintro e ⟨⟩
    exact ⟨rfl, rfl⟩
  | stuck _ named unpassable =>
    refine ⟨_, _, named, nofun, ?_⟩
    rintro address ⟨⟩
    exact .stuck unpassable
  | called _ named passed call =>
    refine ⟨_, _, named, nofun, ?_⟩
    rintro address ⟨⟩
    exact .called passed call

theorem callsAfresh (hostless : ¬ HasRuntime imported.bridge h w.process →
      (w.process.bridge imported.bridge).host = none)
    (cached : ∀ address, (w.process.bridge imported.bridge).imports.lookup imported.id =
      some address ↔ HasRuntime imported.bridge h w.process ∧ Resolution imported address h)
    (calls : CallsImport foreign imported args w r w') :
    CallsAfresh foreign imported args h w r w' := by
  refine ⟨fun e mismatch => ?_, fun accepted idle => ?_, fun accepted has address resolution => ?_,
    fun accepted unresolved => ?_⟩
  · cases calls with
    | refused mismatch' =>
      cases mismatch.symm.trans mismatch'
      exact ⟨rfl, rfl⟩
    | unresolved accepted | stuck accepted | called accepted =>
      cases mismatch.symm.trans accepted
  · obtain ⟨looked, w₁, resolves, failed, -⟩ := calls.resolves accepted
    have gone := hostless idle
    cases resolves with
    | known kept => exact absurd ((cached _).mp kept).1 idle
    | missed _ missing =>
      cases missing with
      | hostless => exact failed _ rfl
      | unasked host | refused host => cases gone.symm.trans host
    | found _ named =>
      cases named with
      | found host => cases gone.symm.trans host
  · obtain ⟨looked, w₁, resolves, -, reached⟩ := calls.resolves accepted
    have kept := (cached address).mpr ⟨has, resolution⟩
    cases resolves with
    | known kept' =>
      cases kept.symm.trans kept'
      exact reached _ rfl
    | missed uncached | found uncached => cases uncached.symm.trans kept
  · obtain ⟨looked, w₁, resolves, failed, reached⟩ := calls.resolves accepted
    cases resolves with
    | known kept => exact absurd ((cached _).mp kept).2 (unresolved _)
    | missed _ missing => exact ⟨_, _, missing, failed, nofun⟩
    | found _ named =>
      refine ⟨_, _, named, nofun, ?_⟩
      rintro address ⟨⟩
      exact reached _ rfl

/-- In every state that a run reaches in which nobody called an import, loaded or tore down while a
method was looked up, and only declared imports were called: a bridge keeps an address for an import
exactly if it has a runtime and that named it for the import, no runtime was asked again for what
it had resolved, and calls look up just the imports that are not resolved. -/
theorem imports_resolve_afresh {w : World} (reached : w.Reached)
    (calm : resolvesCalmly w.history = true) (declared : callsDeclared w.history = true) :
    ImportsFresh w := by
  obtain ⟨stance, stocked⟩ := reached.stocked.now
  have cached : ∀ imported ∈ declaredImports w.history, ∀ address,
      (w.process.bridge imported.bridge).imports.lookup imported.id = some address ↔
        HasRuntime imported.bridge w.history w.process ∧
          Resolution imported address w.history := fun _ member _ =>
    cached_iff stance stocked reached.numbered calm declared member
  refine ⟨fun b live host => ?_, cached, fun b => imports_of_idle (stocked.caching calm), ?_, ?_⟩
  · rw [(stance.up_of_host host).2]
    exact ⟨rfl, (stocked.caching calm).load_of_host host⟩
  · intro event q earlier imported call suffix asks
    have before : earlier <:+ w.history := (List.suffix_cons _ _).trans suffix
    have first := stocked.listed event q earlier imported call suffix asks
      (noneBegins_of_suffix before calm)
    exact ⟨asks_own first, fun address resolution =>
      not_named_of_asks first address resolution.named⟩
  · intro imported member foreign args operation
    obtain ⟨r, w', performed, ran⟩ := operation.run_eq foreign w
    refine ⟨r, w', ran, callsAfresh (fun idle => ?_) (cached imported member)
      (Returns.callsImport performed)⟩
    cases isLive : (w.process.bridge imported.bridge).isLive with
    | true => exact absurd (.inl isLive) idle
    | false => exact stance.host_of_not_live isLive

/-! ## Two runtimes -/

/-- Code outside whose runtimes name a new address for every runtime that was started. -/
def Outside.renaming : Outside := fun w call =>
  match call with
  | .createDelegate _ _ _ _ _ => .reply (.ok (8 * (startedRuntimes w.history).length))
  | call => Outside.obliging (fun _ => .reply (.word 0)) w call

/-- An import is declared, and called after each of two loads. -/
def callingTwice : Conduct Unit := do
  match ← Conduct.doing (.declare 0 "go" ⟨none, "Game", "Go"⟩ ⟨.void, []⟩ none) with
  | .error _ => return ()
  | .ok imported =>
    let _ ← Conduct.doing (.load 0 leastLoader)
    let _ ← Conduct.doing (.call imported [])
    let _ ← Conduct.doing (.teardown 0)
    let _ ← Conduct.doing (.load 0 leastLoader)
    let _ ← Conduct.doing (.call imported [])
    return ()

def calledTwice : World := Outside.renaming.leads 1 callingTwice leastFiles []

theorem calledTwice_reached : calledTwice.Reached := .atEnd _ _ _ _ _ rfl rfl

theorem calledTwice_afresh : calledTwice.Reached ∧ resolvesCalmly calledTwice.history = true ∧
    callsDeclared calledTwice.history = true ∧
    (calledTwice.process.bridge 0).imports = [(1, 16)] ∧ ImportsFresh calledTwice :=
  ⟨calledTwice_reached, by decide +kernel, by decide +kernel, by decide +kernel,
    imports_resolve_afresh calledTwice_reached (by decide +kernel) (by decide +kernel)⟩

end ManagedHost
