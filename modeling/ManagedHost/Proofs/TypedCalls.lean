import ManagedHost.Proofs.BindingEntries
import ManagedHost.Proofs.CallThrough

/-! # Calls of a binding have the right types

A registration compares the declared types with those of the function, a call compares its arguments
with the declared types, and the function takes its arguments one by one. These checks agree: once a
function is registered, a direct call is refused exactly if the arguments are not as declared, and
through its address a call fails before the function only where a text cannot be read. All further
checks on the way are passed (`registered_calls_typed`). -/

namespace ManagedHost

open ManagedHost.Action

/-! ## The checks -/

namespace Signature

/-- The types that differ are those at the first place where the lists do. -/
theorem firstMismatch_eq_some {expected actual : List WireType} {e a : WireType}
    (h : firstMismatch expected actual = some (e, a)) :
    ∃ same es as, expected = same ++ e :: es ∧ actual = same ++ a :: as ∧ a ≠ e := by
  induction expected generalizing actual with
  | nil => cases h
  | cons first expected ih =>
    cases actual with
    | nil => cases h
    | cons second actual =>
      rw [firstMismatch] at h
      split at h
      · next agree =>
        obtain ⟨same, es, as, rfl, rfl, differ⟩ := ih h
        exact ⟨first :: same, es, as, rfl, by rw [agree, List.cons_append], differ⟩
      · next differ =>
        cases h
        exact ⟨[], expected, actual, rfl, rfl, Ne.symm differ⟩

theorem firstMismatch_self (types : List WireType) : firstMismatch types types = none := by
  induction types with
  | nil => rfl
  | cons type types ih => rw [firstMismatch, if_pos rfl, ih]

variable {signature : Signature} {args : List Value}

theorem checkArguments_miscounted (name : String) (count : args.length ≠ signature.params.length) :
    signature.checkArguments name args =
      .error (.argumentCount name signature.params.length args.length) := by
  rw [checkArguments, if_pos count]

theorem checkArguments_mistyped (name : String) (count : args.length = signature.params.length)
    (types : args.map Value.wireType ≠ signature.params) :
    ∃ before value after expected rest, args = before ++ value :: after ∧
      signature.params = before.map Value.wireType ++ expected :: rest ∧
      value.wireType ≠ expected ∧
      signature.checkArguments name args = .error (.typeMismatch name expected value.wireType) := by
  rw [checkArguments, if_neg (not_not.mpr count)]
  have lengths : signature.params.length = (args.map Value.wireType).length := by
    rw [List.length_map, count]
  cases mismatch : firstMismatch signature.params (args.map Value.wireType) with
  | none => exact absurd (firstMismatch_eq_none lengths mismatch).symm types
  | some found =>
    obtain ⟨expected, actual⟩ := found
    obtain ⟨same, rest, later, params, typed, differ⟩ := firstMismatch_eq_some mismatch
    obtain ⟨before, others, rfl, rfl, tail⟩ := List.map_eq_append_iff.mp typed
    obtain ⟨value, after, rfl, rfl, -⟩ := List.map_eq_cons_iff.mp tail
    exact ⟨before, value, after, expected, rest, rfl, params, differ, rfl⟩

theorem checkArguments_fitting (name : String)
    (types : args.map Value.wireType = signature.params) :
    signature.checkArguments name args = .ok () := by
  have count : args.length = signature.params.length := by rw [← types, List.length_map]
  rw [checkArguments, if_neg (not_not.mpr count), types, firstMismatch_self]

end Signature

namespace Cell

variable {buffer : BufferId → Option (List UInt8)} {name : String}

/-- A number can always be handed over. -/
theorem ofValue_number {value : Value} (name : String) (nonvoid : value.wireType ≠ .void)
    (nontext : value.wireType ≠ .utf8String) : ∃ cell, ofValue name value = .ok cell := by
  cases value with
  | void => exact absurd rfl nonvoid
  | text text => exact absurd rfl nontext
  | _ => exact ⟨_, rfl⟩

theorem wireType_toArgument {cell : Cell} {type : WireType} {value : Value}
    (h : cell.toArgument buffer name type = .ok value) : value.wireType = type := by
  cases type with
  | utf8String =>
    rw [toArgument] at h
    cases read : cell.toText buffer name with
    | error e =>
      rw [read] at h
      cases h
    | ok text =>
      rw [read] at h
      cases h
      rfl
  | void => cases h
  | _ =>
    cases h
    rfl

/-- Arguments that were read have the types at which they were read. -/
theorem wireType_toArguments {types : List WireType} {cells : List Cell} {args : List Value}
    (h : toArguments buffer name types cells = .ok args) : args.map Value.wireType = types := by
  induction types generalizing cells args with
  | nil =>
    cases h
    rfl
  | cons type types ih =>
    rw [toArguments] at h
    cases first : (cells.headD (.word 0)).toArgument buffer name type with
    | error e =>
      rw [first] at h
      cases h
    | ok value =>
      cases rest : toArguments buffer name types cells.tail with
      | error e =>
        rw [first, rest] at h
        cases h
      | ok values =>
        rw [first, rest] at h
        cases h
        rw [List.map_cons, wireType_toArgument first, ih rest]

/-- Only a text can fail to be read, and only because its bytes are none. -/
theorem toArgument_error {cell : Cell} {type : WireType} {e : BridgeError} (nonvoid : type ≠ .void)
    (h : cell.toArgument buffer name type = .error e) :
    e = .invalidString name ∧ type = .utf8String ∧ ∃ content bad,
      cell.pointee? buffer = some content ∧ Text.Utf8.decode content = .error bad := by
  cases type with
  | void => exact absurd rfl nonvoid
  | utf8String =>
    rw [toArgument, toText] at h
    cases points : cell.pointee? buffer with
    | none =>
      rw [points] at h
      cases h
    | some content =>
      rw [points] at h
      dsimp only at h
      cases decoded : Text.Utf8.decode content with
      | ok text =>
        rw [decoded] at h
        cases h
      | error bad =>
        rw [decoded] at h
        cases h
        exact ⟨rfl, rfl, content, bad, rfl, decoded⟩
  | _ => cases h

theorem toArguments_error {types : List WireType} {cells : List Cell} {e : BridgeError}
    (nonvoid : .void ∉ types) (h : toArguments buffer name types cells = .error e) :
    e = .invalidString name ∧ Unreadable buffer types cells := by
  induction types generalizing cells with
  | nil => cases h
  | cons type types ih =>
    rw [List.mem_cons, not_or] at nonvoid
    rw [toArguments] at h
    cases first : (cells.headD (.word 0)).toArgument buffer name type with
    | error bad =>
      obtain ⟨rfl, text, unread⟩ := toArgument_error (Ne.symm nonvoid.1) first
      rw [first] at h
      cases h
      exact ⟨rfl, .inl ⟨text, unread⟩⟩
    | ok value =>
      cases rest : toArguments buffer name types cells.tail with
      | error bad =>
        rw [first, rest] at h
        cases h
        obtain ⟨named, later⟩ := ih nonvoid.2 rest
        exact ⟨named, .inr later⟩
      | ok values =>
        rw [first, rest] at h
        cases h

end Cell

/-! ## Registered bindings -/

theorem Registry.get?_insert_self {registry : Registry} {binding : Binding}
    (free : registry.get? binding.name = none) :
    (registry.insert binding).get? binding.name = some binding := by
  have here : (binding.name == binding.name) = true := beq_self_eq_true _
  induction registry with
  | nil => exact List.find?_cons_of_pos here
  | cons first rest ih =>
    obtain ⟨other, later⟩ : (first.name == binding.name) = false ∧
        get? rest binding.name = none := by
      simpa [get?] using free
    rw [insert]
    split
    · exact List.find?_cons_of_pos here
    · exact (List.find?_cons_of_neg (by simp [other])).trans (ih later)

/-- The types of a binding are those of its function, and every check between the caller and the
function is passed once the first one is. -/
structure Binding.Coherent (binding : Binding) : Prop where
  fit : binding.signature = binding.function.signature
  noVoid : .void ∉ binding.signature.params
  /-- Values that are accepted are taken by the function. -/
  taken : ∀ args, binding.signature.checkArguments binding.name args = .ok () →
    ∃ typed, Arguments.ofValues binding.name binding.function.signature.params args = .ok typed
  /-- Values that are read from cells are taken by the function. -/
  read : ∀ buffer cells args,
    Cell.toArguments buffer binding.name binding.signature.params cells = .ok args →
      ∃ typed, Arguments.ofValues binding.name binding.function.signature.params args = .ok typed
  /-- A result is of the declared type. -/
  returned : ∀ result : binding.function.signature.returns.Carrier,
    (Value.ofCarrier _ result).wireType = binding.signature.returns
  /-- A number can always be handed back. -/
  written : ∀ result : binding.function.signature.returns.Carrier,
    binding.signature.returns ≠ .void → binding.signature.returns ≠ .utf8String →
      ∃ cell, Cell.ofValue binding.name (Value.ofCarrier _ result) = .ok cell

/-- One call of a binding with values: arguments of a wrong number or type are refused with the
error for it and nothing else happens, and with any others the function is run once. -/
structure CallsChecked (foreign : Foreign) (binding : Binding) (args : List Value)
    (call : Action Reaction) (w : World) : Prop where
  miscounted : args.length ≠ binding.signature.params.length → Returns call w
    (.failed (.argumentCount binding.name binding.signature.params.length args.length)) w
  mistyped : args.length = binding.signature.params.length →
    args.map Value.wireType ≠ binding.signature.params →
    ∃ before value after expected rest, args = before ++ value :: after ∧
      binding.signature.params = before.map Value.wireType ++ expected :: rest ∧
      value.wireType ≠ expected ∧
      Returns call w (.failed (.typeMismatch binding.name expected value.wireType)) w
  fitting : args.map Value.wireType = binding.signature.params →
    ∃ typed result w', typed.toValues _ = args ∧
      Returns (runFunction foreign binding.function typed) w result w' ∧
      Returns call w (binding.function.reaction result) w'
  /-- What a function returned is passed on, and is of the declared type. -/
  returned : ∀ result : binding.function.signature.returns.Carrier, ∃ value,
    binding.function.reaction (some result) = .returned value ∧
      value.wireType = binding.signature.returns

/-- One call of a binding through its address: where a text cannot be read the function is not run,
and from any other cells it gets arguments and is run once. -/
structure EntersChecked (foreign : Foreign) (binding : Binding) (cells : List Cell) (w : World) :
    Prop where
  unreadable : Cell.Unreadable w.process.buffer? binding.signature.params cells →
    Cell.toArguments w.process.buffer? binding.name binding.signature.params cells =
        .error (.invalidString binding.name) ∧
      ∃ w', Returns (enter foreign binding.address cells) w
        (Cell.ofFailure binding.signature.returns) w' ∧ Alike w w'
  readable : ¬ Cell.Unreadable w.process.buffer? binding.signature.params cells →
    ∃ typed result mid cell w',
      Cell.toArguments w.process.buffer? binding.name binding.signature.params cells =
        .ok (typed.toValues _) ∧
      Returns (runFunction foreign binding.function typed) w result mid ∧
      Returns (enter foreign binding.address cells) w cell w' ∧
      KeepsText binding.adapter mid w' ∧
      cell.toResult w'.process.buffer? binding.name binding.signature.returns =
        .ok (binding.function.received result)

theorem Binding.coherent {binding : Binding}
    (fit : binding.signature = binding.function.signature)
    (noVoid : .void ∉ binding.signature.params) : binding.Coherent where
  fit := fit
  noVoid := noVoid
  taken args accepted := by
    have types := Signature.params_of_checkArguments accepted
    rw [fit] at types
    obtain ⟨typed, taken, -⟩ := Arguments.ofValues_accepted binding.name types
    exact ⟨typed, taken⟩
  read buffer cells args read := by
    have types := Cell.wireType_toArguments read
    rw [fit] at types
    obtain ⟨typed, taken, -⟩ := Arguments.ofValues_accepted binding.name types
    exact ⟨typed, taken⟩
  returned result := by rw [Value.wireType_ofCarrier, fit]
  written result nonvoid nontext := by
    rw [fit, ← Value.wireType_ofCarrier _ result] at nonvoid nontext
    exact Cell.ofValue_number binding.name nonvoid nontext

/-! ## Calls -/

variable {foreign : Foreign} {binding : Binding} {w w₁ : World}

theorem Binding.Coherent.callBinding (h : binding.Coherent) (foreign : Foreign)
    (args : List Value) (w : World) :
    CallsChecked foreign binding args (callBinding foreign binding args) w where
  miscounted count := by
    unfold Action.callBinding
    rw [Signature.checkArguments_miscounted binding.name count]
    exact .returned _ w
  mistyped count types := by
    obtain ⟨before, value, after, expected, rest, parts, params, differ, refused⟩ :=
      Signature.checkArguments_mistyped binding.name count types
    refine ⟨before, value, after, expected, rest, parts, params, differ, ?_⟩
    unfold Action.callBinding
    rw [refused]
    exact .returned _ w
  fitting types := by
    have passed := Signature.checkArguments_fitting binding.name types
    rw [h.fit] at types
    obtain ⟨typed, taken, whole⟩ := Arguments.ofValues_accepted binding.name types
    obtain ⟨result, w', ran⟩ := Returns.exists (runFunction foreign binding.function typed) w
    refine ⟨typed, result, w', whole, ran, ?_⟩
    unfold Action.callBinding
    rw [passed]
    exact Returns.callFunction taken ran
  returned result := ⟨Value.ofCarrier _ result, rfl, h.returned result⟩

/-- A call by name is a call of the binding of the name. -/
theorem CallsChecked.invoke {args : List Value} {holder : Holder} {name : String}
    (h : CallsChecked foreign binding args (Action.callBinding foreign binding args) w)
    (bound : (w.process.registry holder).get? name = some binding) :
    CallsChecked foreign binding args (Action.invoke foreign holder name args) w := by
  have same : ∀ {reaction w'}, Returns (Action.callBinding foreign binding args) w reaction w' →
      Returns (Action.invoke foreign holder name args) w reaction w' := by
    intro reaction w' called
    refine Returns.thenProcess ?_
    rw [bound]
    exact called
  refine ⟨fun count => same (h.miscounted count), fun count types => ?_, fun types => ?_,
    h.returned⟩
  · obtain ⟨before, value, after, expected, rest, parts, params, differ, refused⟩ :=
      h.mistyped count types
    exact ⟨before, value, after, expected, rest, parts, params, differ, same refused⟩
  · obtain ⟨typed, result, w', whole, ran, called⟩ := h.fitting types
    exact ⟨typed, result, w', whole, ran, same called⟩

theorem Binding.Coherent.enter (h : binding.Coherent) (foreign : Foreign) (cells : List Cell)
    {buffer : Option BufferId}
    (entry : w.process.adapterAt? binding.address = some (binding.adapter,
      ⟨binding.name, binding.signature, binding.function, buffer⟩)) :
    EntersChecked foreign binding cells w := by
  have entered : ∀ {cell w'},
      Returns (enterAdapter foreign binding.adapter
        ⟨binding.name, binding.signature, binding.function, buffer⟩ cells) w cell w' →
      Returns (Action.enter foreign binding.address cells) w cell w' := by
    intro cell w' through
    refine Returns.thenProcess ?_
    rw [entry]
    exact through
  constructor
  · intro bad
    obtain ⟨e, unread⟩ := bad.toArguments binding.name
    obtain ⟨rfl, -⟩ := Cell.toArguments_error h.noVoid unread
    refine ⟨unread, ?_⟩
    let message :=
      "Binding " ++ binding.name ++ " failed: " ++ (BridgeError.invalidString binding.name).message
    obtain ⟨w', logged, alike⟩ := log_alike .error .outbound message w
    have failed : Returns (do
        log .error .outbound message
        return Cell.ofFailure binding.signature.returns) w _ w' := logged.then (.returned _ _)
    refine ⟨w', entered (Returns.thenProcess ?_), alike⟩
    rw [unread]
    exact failed
  · intro good
    cases read : Cell.toArguments w.process.buffer? binding.name binding.signature.params cells with
    | error e => exact absurd (Cell.toArguments_error h.noVoid read).2 good
    | ok args =>
      have types := Cell.wireType_toArguments read
      rw [h.fit] at types
      obtain ⟨typed, taken, whole⟩ := Arguments.ofValues_accepted binding.name types
      obtain ⟨result, mid, ran⟩ := Returns.exists (runFunction foreign binding.function typed) w
      obtain ⟨cell, w', through, kept, arrived⟩ := @Returns.enterAdapter _ _ binding.adapter
        ⟨binding.name, binding.signature, binding.function, buffer⟩ _ _ _ _ _ h.fit read taken
        ran binding.name
      exact ⟨typed, result, mid, cell, w', congrArg _ whole.symm, ran, entered through, kept,
        arrived⟩

/-- A registration adds the binding or changes nothing. -/
theorem Action.Returns.registers {holder : Holder} {name : String} {signature : Signature}
    {function : NativeFunction} {r : Except BridgeError Binding}
    (h : Returns (Action.register holder name signature function) w r w₁) :
    (∃ p binding, r = .ok binding ∧
      w.process.register holder name signature function = .ok (p, binding) ∧
      Alike (w.put p) w₁) ∨
    (∃ e, r = .error e ∧ w.process.register holder name signature function = .error e) ∧
      Alike w w₁ := by
  unfold Action.register at h
  cases holder
  case' bridge b =>
    obtain ⟨found, v, hb, h⟩ := Returns.bind h
    obtain ⟨rfl, rfl⟩ := Returns.bridge hb
    split at h
    case' isTrue =>
      obtain ⟨u, v', hl, h⟩ := Returns.bind h
      cases hl
  all_goals
    obtain ⟨p, v, hp, h⟩ := Returns.bind h
    obtain ⟨rfl, rfl⟩ := Returns.process hp
    split at h
    · next e refused =>
      obtain ⟨rfl, rfl⟩ := Returns.pure h
      exact .inr ⟨⟨e, rfl, refused⟩, rfl, rfl, rfl, rfl⟩
    · next changed bound done =>
      obtain ⟨u, v₁, hu, h⟩ := Returns.bind h
      obtain ⟨u', v₂, hl, h⟩ := Returns.bind h
      obtain ⟨rfl, rfl⟩ := Returns.pure h
      rw [hu.updateProcess] at hl
      exact .inl ⟨changed, _, rfl, done, hl.log⟩

/-- A registration that succeeds only adds the binding. -/
theorem Action.Returns.register {holder : Holder} {name : String} {signature : Signature}
    {function : NativeFunction}
    (h : Returns (Action.register holder name signature function) w (.ok binding) w₁) :
    ∃ p, w.process.register holder name signature function = .ok (p, binding) ∧
      Alike (w.put p) w₁ := by
  rcases h.registers with ⟨p, bound, same, added, alike⟩ | ⟨⟨e, failed, -⟩, -⟩
  · cases same
    exact ⟨p, added, alike⟩
  · cases failed

/-- Once a function is registered, every call of its binding is checked for the declared types: a
direct call in any world, a call by its name wherever the name has this binding, and a call through
its address wherever its entry stands. -/
theorem registered_calls_typed {holder : Holder} {name : String} {signature : Signature}
    {function : NativeFunction}
    (registered : Returns (Action.register holder name signature function) w (.ok binding) w₁) :
    binding = ⟨name, signature, function, binding.adapter⟩ ∧ binding.Coherent ∧
      (w₁.process.registry holder).get? name = some binding ∧
      (∃ buffer, w₁.process.adapterAt? binding.address = some (binding.adapter,
        ⟨name, signature, function, buffer⟩)) ∧
      ∀ foreign (v : World),
        (∀ args, CallsChecked foreign binding args (callBinding foreign binding args) v) ∧
        (∀ holder', (v.process.registry holder').get? name = some binding → ∀ args,
          CallsChecked foreign binding args (invoke foreign holder' name args) v) ∧
        ∀ buffer, v.process.adapterAt? binding.address = some (binding.adapter,
            ⟨name, signature, function, buffer⟩) →
          ∀ cells, EntersChecked foreign binding cells v := by
  obtain ⟨p, added, process, -⟩ := registered.register
  have free := Process.register_free added
  obtain ⟨checked, rfl, rfl⟩ := Process.register_adds added
  obtain ⟨fit, noVoid⟩ := Signature.eq_of_checkAgainst checked
  have coherent : Binding.Coherent ⟨name, signature, function, w.process.adapters.length⟩ :=
    Binding.coherent fit noVoid
  rw [World.process_put] at process
  refine ⟨rfl, coherent, ?_, ⟨none, ?_⟩, fun foreign v => ⟨?_, ?_, ?_⟩⟩
  · rw [process, Process.registry_setRegistry_self]
    exact Registry.get?_insert_self free
  · rw [process, Process.adapterAt?, Binding.address, Adapter.ofAddress?_address]
    simp [Process.adapter?, Process.adapters_setRegistry]
  · exact fun args => coherent.callBinding foreign args v
  · exact fun holder' bound args => (coherent.callBinding foreign args v).invoke bound
  · exact fun buffer entry cells => coherent.enter foreign cells entry

/-- A number is refused where a text is declared. A text is taken from a caller and from a cell, and
the function returns it. -/
theorem echo_calls_typed :
    Returns (Action.register (.alone 0) "echo" echo.signature echo.function) {} (.ok echo)
        ((Action.register (.alone 0) "echo" echo.signature echo.function).run {}).2 ∧
      CallsChecked (Outside.echoing.answer 1) echo [.pointer 1]
        (callBinding (Outside.echoing.answer 1) echo [.pointer 1]) {} ∧
      (∃ w', Returns (callBinding (Outside.echoing.answer 1) echo [.text "n\u00e9"]) {}
        (.returned (.text "n\u00e9")) w') ∧
      ∃ cell w', Returns (enter (Outside.echoing.answer 1) echo.address
          [.text (.bytes (Text.Utf8.encode "n\u00e9"))])
          ((Action.register (.alone 0) "echo" echo.signature echo.function).run {}).2 cell w' ∧
        cell.toResult w'.process.buffer? "echo" .utf8String = .ok (.text "n\u00e9") := by
  have registered :
      Returns (Action.register (.alone 0) "echo" echo.signature echo.function) {} (.ok echo)
        ((Action.register (.alone 0) "echo" echo.signature echo.function).run {}).2 := rfl
  obtain ⟨-, -, -, ⟨buffer, there⟩, calls⟩ := registered_calls_typed registered
  have refused := (calls (Outside.echoing.answer 1) {}).1 [.pointer 1]
  have taken := (calls (Outside.echoing.answer 1) {}).1 [.text "n\u00e9"]
  obtain ⟨⟨text, ⟨⟩⟩, result, w₁, given, ran, called⟩ := taken.fitting rfl
  cases given
  obtain ⟨rfl, -⟩ := Returns.unique ran (.intro _ _)
  have entered := (calls (Outside.echoing.answer 1) _).2.2 buffer there
    [.text (.bytes (Text.Utf8.encode "n\u00e9"))]
  obtain ⟨⟨text, ⟨⟩⟩, result, mid, cell, last, read, ran, entry, -, arrived⟩ :=
    entered.readable fun unread => by
      obtain ⟨e, failed⟩ := unread.toArguments "echo"
      cases failed
  cases read
  obtain ⟨rfl, -⟩ := Returns.unique ran (.intro _ _)
  exact ⟨registered, refused, ⟨w₁, called⟩, cell, last, entry, arrived⟩

end ManagedHost
