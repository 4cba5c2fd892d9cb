import ManagedHost.Proofs.Effects

/-! # What operations other than bringing up and tearing down can do

`Change` lists every way in which such an operation may change the state of the process, one
constructor for each kind of step, whichever operation it is. So all of them keep every property
that these steps keep (`perform_keeps`). No such step touches what a bridge knows about its runtime
(`Change.hosting`). -/

namespace ManagedHost

/-- One step by which a process changes without bringing a runtime up or tearing one down. -/
inductive Change (p : Process) : Process → Prop
  /-- A function is bound. -/
  | bound {holder : Holder} {name : String} {signature : Signature} {function : NativeFunction}
      {p' : Process} {binding : Binding}
      (h : p.register holder name signature function = .ok (p', binding)) : Change p p'
  /-- The bindings of a holder are removed. -/
  | cleared (holder : Holder) : Change p (p.clearRegistry holder)
  /-- An adapter keeps a text that it returns. -/
  | kept (id : AdapterId) (content : List UInt8) : Change p (p.keepText id content).1
  /-- An import is declared. -/
  | declared (b : BridgeId) :
      Change p (p.updateBridge b fun bridge => { bridge with nextImport := bridge.nextImport + 1 })
  /-- The address of an import is kept. -/
  | resolved (imported : Import) (address : Address) :
      Change p (p.updateBridge imported.bridge fun bridge =>
        { bridge with
          imports := (imported.id, address) :: bridge.imports.filter (·.1 ≠ imported.id) })
  /-- Shared values are made, owned, given up or written. -/
  | heap (heap : Heap) : Change p { p with heap }
  /-- The tracked objects of a bridge change. -/
  | objects (b : BridgeId) (objects : ObjectTable) :
      Change p (p.updateBridge b fun bridge => { bridge with objects })

/-- A step of any operation is one of these. -/
theorem Effect.change {operation : Operation} {p p' : Process} (h : Effect operation p p') :
    Change p p' := by
  cases h with
  | bound added => exact .bound added
  | cleared _ holder => exact .cleared holder
  | kept _ _ id content => exact .kept id content
  | seated | heap => exact .heap _
  | declared _ b => exact .declared b
  | resolved _ imported _ address => exact .resolved imported address
  | objects _ _ _ objects => exact .objects _ objects

/-- Two states of a process in which every bridge has the same runtime, and the place for a runtime
is taken in both or in neither. -/
structure SameHosting (p p' : Process) : Prop where
  claimed : p'.isClaimed = p.isClaimed
  live : ∀ b, (p'.bridge b).isLive = (p.bridge b).isLive
  host : ∀ b, (p'.bridge b).host = (p.bridge b).host

theorem SameHosting.refl (p : Process) : SameHosting p p := ⟨rfl, fun _ => rfl, fun _ => rfl⟩

theorem SameHosting.trans {p q r : Process} (h : SameHosting p q) (h' : SameHosting q r) :
    SameHosting p r :=
  ⟨h'.claimed.trans h.claimed, fun b => (h'.live b).trans (h.live b),
    fun b => (h'.host b).trans (h.host b)⟩

theorem SameHosting.updateBridge {p : Process} {b : BridgeId} {f : Bridge → Bridge}
    (hl : (f (p.bridge b)).isLive = (p.bridge b).isLive)
    (hh : (f (p.bridge b)).host = (p.bridge b).host) : SameHosting p (p.updateBridge b f) :=
  ⟨rfl, Process.view_updateBridge (·.isLive) p hl, Process.view_updateBridge (·.host) p hh⟩

theorem SameHosting.setRegistry (p : Process) (holder : Holder) (registry : Registry) :
    SameHosting p (p.setRegistry holder registry) := by
  refine ⟨?_, fun b => ?_, fun b => ?_⟩
  · cases holder <;> rfl
  · exact Process.view_setRegistry (·.isLive) (fun _ _ => rfl) p holder registry b
  · exact Process.view_setRegistry (·.host) (fun _ _ => rfl) p holder registry b

/-- A binding is added to a process that has one more adapter. -/
theorem Process.register_ok {p p' : Process} {holder : Holder} {name : String}
    {signature : Signature} {function : NativeFunction} {binding : Binding}
    (h : p.register holder name signature function = .ok (p', binding)) :
    ∃ adapters registry, p' = ({ p with adapters } : Process).setRegistry holder registry := by
  obtain ⟨-, -, rfl⟩ := Process.register_adds h
  exact ⟨_, _, rfl⟩

theorem Change.hosting {p p' : Process} (h : Change p p') : SameHosting p p' := by
  cases h with
  | @bound holder _ _ _ _ _ h =>
    obtain ⟨adapters, registry, rfl⟩ := Process.register_ok h
    have added : SameHosting p { p with adapters } := ⟨rfl, fun _ => rfl, fun _ => rfl⟩
    exact added.trans (.setRegistry _ holder registry)
  | cleared holder =>
    have retired : SameHosting p
        { p with retired := p.retired ++ (p.registry holder).map (·.adapter) } :=
      ⟨rfl, fun _ => rfl, fun _ => rfl⟩
    exact retired.trans (.setRegistry _ holder [])
  | kept id content => exact ⟨rfl, fun _ => rfl, fun _ => rfl⟩
  | declared b => exact .updateBridge rfl rfl
  | resolved imported address => exact .updateBridge rfl rfl
  | heap heap => exact ⟨rfl, fun _ => rfl, fun _ => rfl⟩
  | objects b objects => exact .updateBridge rfl rfl

theorem Change.exitTarget {p p' : Process} (h : Change p p') : p'.exitTarget = p.exitTarget := by
  cases h with
  | @bound holder _ _ _ _ _ h =>
    obtain ⟨adapters, registry, rfl⟩ := Process.register_ok h
    cases holder <;> rfl
  | cleared holder => cases holder <;> rfl
  | _ => rfl

theorem Change.hasExitHook {p p' : Process} (h : Change p p') :
    p'.hasExitHook = p.hasExitHook := by
  cases h with
  | @bound holder _ _ _ _ _ h =>
    obtain ⟨adapters, registry, rfl⟩ := Process.register_ok h
    cases holder <;> rfl
  | cleared holder => cases holder <;> rfl
  | _ => rfl

namespace Action

variable {foreign : Foreign} {I : World → Prop}

/-- A property of worlds that every step of an operation keeps, whatever native functions do that
it calls. -/
structure Steady (foreign : Foreign) (I : World → Prop) : Prop where
  change : ∀ w p, Change w.process p → I w → I (w.put p)
  write : ∀ (w : World) log, I w → I { w with log }
  remember : ∀ (w : World) notes, I w → I { w with notes }
  native : ∀ id signature args, Keeps I (foreign (.native id signature args))

/-- A steady property that the calls for imports keep too. -/
structure SteadyCalls (foreign : Foreign) (I : World → Prop) : Prop extends Steady foreign I where
  createDelegate : ∀ host started assembly typeName method,
    Keeps I (foreign (.createDelegate host started assembly typeName method))
  imported : ∀ b id address signature cells,
    Keeps I (foreign (.managed (.imported b id) address signature cells))

theorem Steady.steadyIn (hI : Steady foreign I) (operation : Operation) :
    SteadyIn operation foreign I where
  effect w p h _ := hI.change w p h.change
  write := hI.write
  remember := hI.remember
  native := hI.native

theorem SteadyCalls.steadyIn (hI : SteadyCalls foreign I) (operation : Operation) :
    SteadyCallsIn operation foreign I where
  toSteadyIn := hI.toSteady.steadyIn operation
  createDelegate := hI.createDelegate
  imported := hI.imported

theorem Steady.enterAdapter (hI : Steady foreign I) (id : AdapterId) (adapter : Adapter)
    (cells : List Cell) : Keeps I (enterAdapter foreign id adapter cells) :=
  (hI.steadyIn (.enter (Adapter.address id) cells)).enterAdapter id adapter cells

theorem SteadyCalls.resolve (hI : SteadyCalls foreign I) (b : BridgeId) (typeName method : String)
    (assembly : Option String) : Keeps I (resolve foreign b typeName method assembly) :=
  (hI.steadyIn (.resolve b typeName method assembly)).resolve b typeName method assembly

end Action

/-- Every other operation keeps what its steps keep. -/
theorem Operation.perform_keeps {foreign : Foreign} {I : World → Prop}
    (hI : Action.SteadyCalls foreign I) (operation : Operation) (h : operation.hosts = false) :
    Action.Keeps I (operation.perform foreign) :=
  perform_steady (hI.steadyIn operation) h

end ManagedHost
