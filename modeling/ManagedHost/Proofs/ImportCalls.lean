import ManagedHost.Proofs.Lifecycle

/-! # The ways through a call of an import

A call of an import checks its arguments, finds the address of the method, makes cells of the
arguments and calls the address; at each of these it may end with an error. `ResolvesImport` has one
constructor for each way in which the address is found or missed, and `CallsImport` one for each way
through the whole call. Only a look-up that succeeded changes what the bridge keeps for the import,
and only a call with fitting arguments gets as far as a look-up. -/

namespace ManagedHost

/-- The process in which a bridge keeps the address of an import. -/
def Process.cache (p : Process) (imported : Import) (address : Address) : Process :=
  p.updateBridge imported.bridge fun bridge =>
    { bridge with
      imports := (imported.id, address) :: bridge.imports.filter (·.1 ≠ imported.id) }

namespace Action

variable {foreign : Foreign} {imported : Import} {w w' : World}

/-- The look-up of the method that an import points at. -/
abbrev LooksUpImport (foreign : Foreign) (imported : Import) :
    World → Except BridgeError Address → World → Prop :=
  LooksUp foreign imported.bridge imported.target.typeName imported.target.method
    imported.target.assembly

/-- The ways through finding the address of an import. -/
inductive ResolvesImport (foreign : Foreign) (imported : Import) (w : World) :
    Except BridgeError Address → World → Prop
  /-- The bridge keeps the address from an earlier call. -/
  | known {address : Address}
      (cached : (w.process.bridge imported.bridge).imports.lookup imported.id = some address) :
      ResolvesImport foreign imported w (.ok address) w
  | missed {e : BridgeError} {w' : World}
      (uncached : (w.process.bridge imported.bridge).imports.lookup imported.id = none)
      (missing : LooksUpImport foreign imported w (.error e) w') :
      ResolvesImport foreign imported w (.error e) w'
  | found {address : Address} {w₁ : World}
      (uncached : (w.process.bridge imported.bridge).imports.lookup imported.id = none)
      (named : LooksUpImport foreign imported w (.ok address) w₁) :
      ResolvesImport foreign imported w (.ok address) (w₁.put (w₁.process.cache imported address))

theorem Returns.resolveImport {r : Except BridgeError Address}
    (h : Returns (resolveImport foreign imported) w r w') :
    ResolvesImport foreign imported w r w' := by
  unfold Action.resolveImport at h
  obtain ⟨kept, w₀, hb, h⟩ := Returns.bind h
  obtain ⟨rfl, rfl⟩ := Returns.bridge hb
  cases hl : (w₀.process.bridge imported.bridge).imports.lookup imported.id with
  | some address =>
    rw [hl] at h
    obtain ⟨rfl, rfl⟩ := Returns.pure h
    exact .known hl
  | none =>
    rw [hl] at h
    obtain ⟨looked, w₁, hr, h⟩ := Returns.bind h
    cases looked with
    | error e =>
      obtain ⟨rfl, rfl⟩ := Returns.pure h
      exact .missed hl hr.looksUp
    | ok address =>
      obtain ⟨u, w₂, hu, h⟩ := Returns.bind h
      obtain ⟨rfl, rfl⟩ := Returns.pure h
      rw [show w' = w₁.put (w₁.process.cache imported address) from hu.updateBridge]
      exact .found hl hr.looksUp

/-- The ways through a call of an import. -/
inductive CallsImport (foreign : Foreign) (imported : Import) (args : List Value) (w : World) :
    Except BridgeError Value → World → Prop
  /-- The arguments are not as declared. -/
  | refused {e : BridgeError}
      (mismatch : imported.signature.checkArguments imported.name args = .error e) :
      CallsImport foreign imported args w (.error e) w
  /-- There is no address to be called. -/
  | unresolved {e : BridgeError} {w' : World}
      (accepted : imported.signature.checkArguments imported.name args = .ok ())
      (missing : ResolvesImport foreign imported w (.error e) w') :
      CallsImport foreign imported args w (.error e) w'
  /-- An argument cannot be passed on. -/
  | stuck {address : Address} {e : BridgeError} {w' : World}
      (accepted : imported.signature.checkArguments imported.name args = .ok ())
      (named : ResolvesImport foreign imported w (.ok address) w')
      (unpassable : Cell.ofValues imported.name args = .error e) :
      CallsImport foreign imported args w (.error e) w'
  | called {address : Address} {cells : List Cell} {cell : Cell} {w₁ w' : World}
      (accepted : imported.signature.checkArguments imported.name args = .ok ())
      (named : ResolvesImport foreign imported w (.ok address) w₁)
      (passed : Cell.ofValues imported.name args = .ok cells)
      (call : Returns (foreign (.managed (.imported imported.bridge imported.id) address
        imported.signature cells)) w₁ cell w') :
      CallsImport foreign imported args w
        (cell.toResult w'.process.buffer? imported.name imported.signature.returns) w'

theorem Returns.callsImport {args : List Value} {r : Except BridgeError Value}
    (h : Returns (call foreign imported args) w r w') :
    CallsImport foreign imported args w r w' := by
  unfold Action.call at h
  cases hc : imported.signature.checkArguments imported.name args with
  | error e =>
    rw [hc] at h
    obtain ⟨rfl, rfl⟩ := Returns.pure h
    exact .refused hc
  | ok u =>
    rw [hc] at h
    obtain ⟨resolved, w₁, hr, h⟩ := Returns.bind h
    cases resolved with
    | error e =>
      obtain ⟨rfl, rfl⟩ := Returns.pure h
      exact .unresolved hc hr.resolveImport
    | ok address =>
      simp only [callAddress] at h
      cases hv : Cell.ofValues imported.name args with
      | error e =>
        rw [hv] at h
        obtain ⟨rfl, rfl⟩ := Returns.pure h
        exact .stuck hc hr.resolveImport hv
      | ok cells =>
        rw [hv] at h
        obtain ⟨cell, w₂, hm, h⟩ := Returns.bind h
        obtain ⟨p, w₃, hp, h⟩ := Returns.bind h
        obtain ⟨rfl, rfl⟩ := Returns.process hp
        obtain ⟨rfl, rfl⟩ := Returns.pure h
        exact .called hc hr.resolveImport hv hm

theorem nul_of_not_isPassable {text : String} (h : isPassable text = false) :
    '\x00' ∈ text.toList := by
  simpa [isPassable] using h

/-- A runtime that cannot be asked for a method has a NUL in one of the names. -/
theorem nul_of_unaskable {assembly typeName method : String}
    (h : (isPassable assembly && isPassable typeName && isPassable method) = false) :
    '\x00' ∈ assembly.toList ∨ '\x00' ∈ typeName.toList ∨ '\x00' ∈ method.toList := by
  rw [Bool.and_eq_false_iff, Bool.and_eq_false_iff, or_assoc] at h
  exact h.imp nul_of_not_isPassable (Or.imp nul_of_not_isPassable nul_of_not_isPassable)

end Action

end ManagedHost
