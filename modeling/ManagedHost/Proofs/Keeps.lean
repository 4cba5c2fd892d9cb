import ManagedHost.Bridge.Outside

/-! # Runs of an action

`Returns` says where an action leads from a given world; a run of several steps is taken apart by
`Returns.bind`. `Keeps` says that an action leads from worlds with a property to such worlds only,
and is put together from the steps by `Keeps.bind`. -/

namespace ManagedHost

/-- The world in which one more event is known to have happened. -/
def World.after (w : World) (event : Event) : World :=
  { w with history := ⟨event, w.process⟩ :: w.history }

@[simp] theorem World.history_after (w : World) (event : Event) :
    (w.after event).history = ⟨event, w.process⟩ :: w.history := rfl

/-- The world with another state of the process. -/
def World.put (w : World) (p : Process) : World := { w with process := p }

@[simp] theorem World.process_put (w : World) (p : Process) : (w.put p).process = p := rfl

namespace Process

@[simp] theorem bridge_updateBridge_self (p : Process) (b : BridgeId) (f : Bridge → Bridge) :
    (p.updateBridge b f).bridge b = f (p.bridge b) := by
  simp [updateBridge, bridge]

theorem bridge_updateBridge_of_ne (p : Process) {b c : BridgeId} (h : c ≠ b)
    (f : Bridge → Bridge) : (p.updateBridge b f).bridge c = p.bridge c := by
  simp [updateBridge, bridge, Table.row_put_of_ne _ h]

/-- What a change of one bridge leaves alone it leaves alone everywhere. -/
theorem view_updateBridge {γ : Type} (view : Bridge → γ) (p : Process) {b : BridgeId}
    {f : Bridge → Bridge} (keeps : view (f (p.bridge b)) = view (p.bridge b)) (c : BridgeId) :
    view ((p.updateBridge b f).bridge c) = view (p.bridge c) := by
  by_cases same : c = b
  · subst same
    rw [bridge_updateBridge_self, keeps]
  · rw [bridge_updateBridge_of_ne p same]

theorem view_setRegistry {γ : Type} (view : Bridge → γ)
    (blind : ∀ bridge outbound, view { bridge with outbound } = view bridge) (p : Process)
    (holder : Holder) (registry : Registry) (c : BridgeId) :
    view ((p.setRegistry holder registry).bridge c) = view (p.bridge c) := by
  cases holder with
  | bridge b => exact view_updateBridge view p (blind _ _) c
  | alone r => rfl

end Process

namespace Action

variable {α β : Type}

/-! ## Where an action leads -/

/-- From a world, the action ends with a result in another world. -/
def Returns (action : Action α) (w : World) (a : α) (w' : World) : Prop :=
  action.run w = (a, w')

theorem Returns.intro (action : Action α) (w : World) :
    Returns action w (action.run w).1 (action.run w).2 := rfl

theorem Returns.exists (action : Action α) (w : World) : ∃ a w', Returns action w a w' :=
  ⟨_, _, .intro action w⟩

theorem Returns.unique {action : Action α} {w w₁ w₂ : World} {a₁ a₂ : α}
    (first : Returns action w a₁ w₁) (second : Returns action w a₂ w₂) : a₁ = a₂ ∧ w₁ = w₂ :=
  Prod.mk.inj (first.symm.trans second)

theorem Returns.pure {a b : α} {w w' : World} (h : Returns (Pure.pure a) w b w') :
    b = a ∧ w' = w := by
  cases h
  exact ⟨rfl, rfl⟩

theorem Returns.bind {x : Action α} {f : α → Action β} {w w' : World} {b : β}
    (h : Returns (x >>= f) w b w') :
    ∃ a w₁, Returns x w a w₁ ∧ Returns (f a) w₁ b w' :=
  ⟨(x.run w).1, (x.run w).2, rfl, h⟩

theorem Returns.discard {x : Action α} {w w' : World} {u : Unit}
    (h : Returns (Functor.discard x) w u w') : ∃ a, Returns x w a w' := by
  cases h
  exact ⟨_, .intro x w⟩

theorem Returns.process {w w' : World} {p : Process} (h : Returns process w p w') :
    p = w.process ∧ w' = w := by
  cases h
  exact ⟨rfl, rfl⟩

theorem Returns.bridge {w w' : World} {b : BridgeId} {found : Bridge}
    (h : Returns (bridge b) w found w') : found = w.process.bridge b ∧ w' = w := by
  cases h
  exact ⟨rfl, rfl⟩

theorem Returns.updateProcess {w w' : World} {f : Process → Process} {u : Unit}
    (h : Returns (updateProcess f) w u w') : w' = w.put (f w.process) := by
  cases h
  rfl

theorem Returns.updateBridge {w w' : World} {b : BridgeId} {f : Bridge → Bridge} {u : Unit}
    (h : Returns (updateBridge b f) w u w') : w' = w.put (w.process.updateBridge b f) := by
  cases h
  rfl

/-! ## Putting a run together -/

theorem Returns.then {x : Action α} {f : α → Action β} {w w₁ w' : World} {a : α} {b : β}
    (first : Returns x w a w₁) (rest : Returns (f a) w₁ b w') : Returns (x >>= f) w b w' := by
  have step : x.run w = (a, w₁) := first
  change (f (x.run w).1).run (x.run w).2 = (b, w')
  rw [step]
  exact rest

theorem Returns.thenProcess {f : Process → Action β} {w w' : World} {b : β}
    (rest : Returns (f w.process) w b w') : Returns (Action.process >>= f) w b w' := rest

theorem Returns.returned (a : α) (w : World) : Returns (Pure.pure a) w a w := rfl

/-- Two worlds that differ in nothing but the log and the notes. -/
def Alike (w w' : World) : Prop :=
  w'.process = w.process ∧ w'.history = w.history ∧ w'.files = w.files ∧
    w'.directory = w.directory

theorem Returns.log {w w' : World} {level : LogLevel} {source : LogSource} {message : String}
    {u : Unit} (h : Returns (log level source message) w u w') : Alike w w' := by
  cases h
  exact ⟨rfl, rfl, rfl, rfl⟩

/-! ## What an action keeps -/

/-- From a world with the property the action leads to another one. -/
def Keeps (I : World → Prop) (action : Action α) : Prop :=
  ∀ w, I w → I (action.run w).2

variable {I : World → Prop}

theorem Keeps.returns {action : Action α} (h : Keeps I action) {w w' : World} {a : α}
    (hr : Returns action w a w') (hw : I w) : I w' := by
  have := h w hw
  rwa [hr] at this

theorem Keeps.pure (a : α) : Keeps I (Pure.pure a : Action α) := fun _ h => h

theorem Keeps.bind {x : Action α} {f : α → Action β} (hx : Keeps I x) (hf : ∀ a, Keeps I (f a)) :
    Keeps I (x >>= f) := fun w h => hf _ _ (hx w h)

theorem Keeps.discard {x : Action α} (hx : Keeps I x) : Keeps I (discard x) := hx

theorem Keeps.get : Keeps I (get : Action World) := fun _ h => h

theorem Keeps.process : Keeps I process := fun _ h => h

theorem Keeps.bridge (b : BridgeId) : Keeps I (bridge b) := fun _ h => h

/-- A step that reads the state of the process may be followed by one that is only good for that
state. -/
theorem Keeps.of_process {f : Process → Action α}
    (hf : ∀ w, I w → I ((f w.process).run w).2) : Keeps I (Action.process >>= f) :=
  fun w h => hf w h

theorem Keeps.of_bridge {b : BridgeId} {f : Bridge → Action α}
    (hf : ∀ w, I w → I ((f (w.process.bridge b)).run w).2) : Keeps I (Action.bridge b >>= f) :=
  fun w h => hf w h

theorem Keeps.of_lobby? {id : ObjectId} {f : Option Lobby → Action α}
    (hf : ∀ w, I w → I ((f (w.process.heap.lobby? id)).run w).2) :
    Keeps I (Action.lobby? id >>= f) := fun w h => hf w h

end Action

end ManagedHost
