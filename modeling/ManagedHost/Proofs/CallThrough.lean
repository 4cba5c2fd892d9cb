import ManagedHost.Proofs.BindingEntries

/-! # Calling a binding through its address

A binding can be called in two ways: by its name with values, and through its address with cells.
Both run the same function once on the same arguments, and whatever the function returns arrives in
both ways alike, as far as it can travel: a text with a NUL, a failure and a panic arrive as zero
(`call_through_address`). -/

namespace ManagedHost

open ManagedHost.Action

namespace Action

variable {α β : Type} {foreign : Foreign} {w w₁ w' : World}

/-- A line of the log changes nothing else. -/
theorem log_alike (level : LogLevel) (source : LogSource) (message : String) (w : World) :
    ∃ w', Returns (log level source message) w () w' ∧ Alike w w' :=
  ⟨_, rfl, rfl, rfl, rfl, rfl⟩

end Action

/-! ## What a function did, and what of it arrives -/

namespace NativeFunction

/-- The result of a function as a value, if it did not panic. -/
def value? (function : NativeFunction) :
    Option function.signature.returns.Carrier → Option Value
  | some result => some (Value.ofCarrier _ result)
  | none => none

/-- How the result of a function is seen by one who calls it directly. -/
def reaction (function : NativeFunction) (result : Option function.signature.returns.Carrier) :
    Reaction :=
  match function.value? result with
  | some value => .returned value
  | none => .panicked

/-- How the result of a function is seen by one who calls it through an address. -/
def received (function : NativeFunction) (result : Option function.signature.returns.Carrier) :
    Value :=
  match function.value? result with
  | some value => if value.isPassable then value else .zero function.signature.returns
  | none => .zero function.signature.returns

end NativeFunction

namespace Action

variable {foreign : Foreign} {w w' : World}

theorem Returns.callFunction {name : String} {function : NativeFunction} {args : List Value}
    {typed : Arguments function.signature.params}
    {result : Option function.signature.returns.Carrier}
    (accepted : Arguments.ofValues name function.signature.params args = .ok typed)
    (ran : Returns (runFunction foreign function typed) w result w') :
    Returns (Action.callFunction foreign name function args) w (function.reaction result) w' := by
  unfold Action.callFunction
  rw [accepted]
  refine ran.then ?_
  cases result <;> exact .returned _ _

/-- The worlds differ in nothing but the log and the text that an adapter keeps. -/
structure KeepsText (id : AdapterId) (w w' : World) : Prop where
  process : w'.process = w.process ∨ ∃ content, w'.process = (w.process.keepText id content).1
  history : w'.history = w.history
  files : w'.files = w.files
  directory : w'.directory = w.directory

theorem Alike.keepsText {id : AdapterId} (h : Alike w w') : KeepsText id w w' := by
  obtain ⟨process, history, files, directory⟩ := h
  exact ⟨.inl process, history, files, directory⟩

theorem buffer?_keepText (p : Process) (id : AdapterId) (content : List UInt8) :
    (p.keepText id content).1.buffer? (p.keepText id content).2 = some content := by
  simp only [Process.buffer?, Process.keepText]
  cases (p.adapter? id).bind (·.buffer) with
  | none => simp
  | some old => simp

theorem Returns.numberCell (w : World) (id : AdapterId) (adapter : Adapter) {value : Value}
    (typed : value.wireType = adapter.signature.returns) (nonvoid : value.wireType ≠ .void)
    (nontext : value.wireType ≠ .utf8String) (label : String) :
    ∃ cell, Returns (Action.toResultCell id adapter value) w cell w ∧ value.isPassable = true ∧
      cell.toResult w.process.buffer? label adapter.signature.returns = .ok value := by
  have passable : value.isPassable = true := by
    cases value with
    | text text => exact absurd rfl nontext
    | _ => rfl
  obtain ⟨cell, made, read⟩ := Cell.toResult_ofValue adapter.name passable nonvoid
  refine ⟨cell, ?_, passable, typed ▸ read _ label⟩
  unfold Action.toResultCell
  rw [if_neg (not_not.mpr typed)]
  cases value with
  | void => exact absurd rfl nonvoid
  | text text => exact absurd rfl nontext
  | _ =>
    cases made
    exact .returned _ _

/-- A result becomes a cell in which the caller reads it, or zero if it cannot travel. -/
theorem Returns.toResultCell (w : World) (id : AdapterId) (adapter : Adapter) (value : Value)
    (typed : value.wireType = adapter.signature.returns) (label : String) :
    ∃ cell w', Returns (Action.toResultCell id adapter value) w cell w' ∧ KeepsText id w w' ∧
      cell.toResult w'.process.buffer? label adapter.signature.returns =
        .ok (if value.isPassable then value else .zero adapter.signature.returns) := by
  by_cases number : value.wireType = .void ∨ value.wireType = .utf8String
  case neg =>
    rw [not_or] at number
    obtain ⟨cell, made, passable, read⟩ :=
      Returns.numberCell w id adapter typed number.1 number.2 label
    rw [if_pos passable]
    exact ⟨cell, w, made, (Alike.refl w).keepsText, read⟩
  unfold Action.toResultCell
  rw [if_neg (not_not.mpr typed), ← typed]
  cases value with
  | void => exact ⟨_, w, .returned _ _, (Alike.refl w).keepsText, rfl⟩
  | text text =>
    dsimp only
    by_cases nul : '\x00' ∈ text.toList
    · rw [if_pos nul]
      obtain ⟨w', logged, alike⟩ := log_alike .warn .outbound
        ("Binding " ++ adapter.name ++ " returned a string with an interior NUL") w
      refine ⟨_, w', logged.then (.returned _ _), alike.keepsText, ?_⟩
      have stuck : (Value.text text).isPassable = false := by
        simp [Value.isPassable, isPassable, nul]
      rw [stuck]
      rfl
    · rw [if_neg nul]
      refine ⟨_, _, rfl, ⟨.inr ⟨_, rfl⟩, rfl, rfl, rfl⟩, ?_⟩
      have whole : (Value.text text).isPassable = true := by
        simp [Value.isPassable, isPassable, nul]
      have kept := buffer?_keepText w.process id (Text.Utf8.encode text)
      have points : (Cell.text (.buffer (w.process.keepText id (Text.Utf8.encode text)).2)).pointee?
          (w.process.keepText id (Text.Utf8.encode text)).1.buffer? =
            some ((Text.Utf8.encode text).takeWhile (· ≠ 0)) := by
        rw [Cell.pointee?, kept]
        rfl
      rw [if_pos whole]
      simp only [Cell.toResult, Cell.toArgument, Value.wireType]
      exact congrArg (Except.map Value.text) (Cell.toText_encode points rfl nul)
  | _ => simp [Value.wireType] at number

theorem Returns.failed (w : World) (adapter : Adapter) (message label : String) :
    ∃ cell w', Returns (do
        Action.log .error .outbound message
        return Cell.ofFailure adapter.signature.returns) w cell w' ∧ Alike w w' ∧
      ∀ buffer, cell.toResult buffer label adapter.signature.returns =
        .ok (.zero adapter.signature.returns) := by
  obtain ⟨w', logged, alike⟩ := log_alike .error .outbound message w
  exact ⟨_, w', logged.then (.returned _ _), alike, fun _ => Cell.toResult_ofFailure _ _ _⟩

/-- Arguments that are read from the cells are passed to the function, and of its result arrives
what can travel. -/
theorem Returns.enterAdapter {id : AdapterId} {adapter : Adapter} {cells : List Cell}
    {args : List Value} {typed : Arguments adapter.function.signature.params}
    {result : Option adapter.function.signature.returns.Carrier} {w₁ : World}
    (fit : adapter.signature = adapter.function.signature)
    (read : Cell.toArguments w.process.buffer? adapter.name adapter.signature.params cells =
      .ok args)
    (accepted : Arguments.ofValues adapter.name adapter.function.signature.params args = .ok typed)
    (ran : Returns (runFunction foreign adapter.function typed) w result w₁) (label : String) :
    ∃ cell w', Returns (Action.enterAdapter foreign id adapter cells) w cell w' ∧
      KeepsText id w₁ w' ∧
      cell.toResult w'.process.buffer? label adapter.signature.returns =
        .ok (adapter.function.received result) := by
  have called := Returns.callFunction accepted ran
  cases result with
  | none =>
    obtain ⟨cell, w', failed, alike, zero⟩ :=
      Returns.failed w₁ adapter ("Binding " ++ adapter.name ++ " panicked") label
    refine ⟨cell, w', ?_, alike.keepsText, ?_⟩
    · refine Returns.thenProcess ?_
      rw [read]
      exact called.then failed
    · rw [zero, fit]
      rfl
  | some result =>
    obtain ⟨cell, w', made, kept, seen⟩ := Returns.toResultCell w₁ id adapter
      (Value.ofCarrier adapter.function.signature.returns result)
      (by rw [Value.wireType_ofCarrier, fit]) label
    refine ⟨cell, w', ?_, kept, ?_⟩
    · refine Returns.thenProcess ?_
      rw [read]
      exact called.then made
    · rw [seen]
      simp only [NativeFunction.received, NativeFunction.value?, fit]

/-- Where a text cannot be read, the function is not called, and what arrives is zero. -/
theorem Returns.enterUnreadable (w : World) (id : AdapterId) (adapter : Adapter)
    {cells : List Cell}
    (bad : Cell.Unreadable w.process.buffer? adapter.signature.params cells) (label : String) :
    ∃ cell w', (∀ foreign, Returns (Action.enterAdapter foreign id adapter cells) w cell w') ∧
      Alike w w' ∧ ∀ buffer, cell.toResult buffer label adapter.signature.returns =
        .ok (.zero adapter.signature.returns) := by
  obtain ⟨e, unread⟩ := bad.toArguments adapter.name
  obtain ⟨cell, w', failed, alike, zero⟩ :=
    Returns.failed w adapter ("Binding " ++ adapter.name ++ " failed: " ++ e.message) label
  refine ⟨cell, w', fun foreign => ?_, alike, zero⟩
  refine Returns.thenProcess ?_
  rw [unread]
  exact failed

/-- A managed call of the address of an entry is answered by the entry. -/
theorem Returns.answerEntry {outside : Outside} {depth : Nat} {purpose : Purpose}
    {address : Address} {signature : Signature} {cells : List Cell} {id : AdapterId}
    {adapter : Adapter} {cell : Cell} (entry : w.process.adapterAt? address = some (id, adapter))
    (entered : Returns (Action.enterAdapter (outside.answer depth) id adapter cells)
      (w.after (.called (.managed purpose address signature cells))) cell w') :
    Returns (outside.answer (depth + 1) (.managed purpose address signature cells)) w cell
      (w'.after (.replied (.managed purpose address signature cells) cell)) := by
  have conducted : Returns (outside.conduct (outside.answer depth)
      (.managed purpose address signature cells))
      (w.after (.called (.managed purpose address signature cells))) cell w' := by
    refine Returns.thenProcess ?_
    rw [show (w.after _).process.adapterAt? address = some (id, adapter) from entry]
    exact entered
  have recorded : ∀ event (v : World), Returns (Action.record event) v () (v.after event) :=
    fun _ _ => rfl
  exact (recorded _ w).then (conducted.then ((recorded _ w').then (.returned _ _)))

end Action

theorem Process.Entered.adapterAt? {p : Process} (h : Entered p) {holder : Holder}
    {binding : Binding} (bound : binding ∈ p.registry holder) : ∃ buffer,
      p.adapterAt? binding.address = some (binding.adapter,
        ⟨binding.name, binding.signature, binding.function, buffer⟩) := by
  obtain ⟨buffer, entry⟩ := h.bound holder binding bound
  refine ⟨buffer, ?_⟩
  rw [Process.adapterAt?, Binding.address, Adapter.ofAddress?_address]
  simp [entry]

/-- A call of a binding through its address, as one whole: from the world `w`, with arguments that
travel in `cells`. The function runs once, up to the world `mid`, and the call ends in `last`. -/
structure CallsThrough (outside : Outside) (depth : Nat) (holder : Holder) (binding : Binding)
    (args : List Value) (purpose : Purpose) (label : String) (w : World) (cells : List Cell)
    (typed : Arguments binding.function.signature.params)
    (result : Option binding.function.signature.returns.Carrier) (mid last : World) : Prop where
  written : Cell.ofValues label args = .ok cells
  /-- The function gets exactly the arguments of the call. -/
  given : typed.toValues _ = args
  once : Returns (runFunction (outside.answer depth) binding.function typed)
    (w.after (.called (.managed purpose binding.address binding.signature cells))) result mid
  received : Returns (callAddress (outside.answer (depth + 1)) purpose label binding.signature
    binding.address args) w (.ok (binding.function.received result)) last
  /-- Nothing happens after the function but the reply. -/
  history : ∃ cell, last.history =
    ⟨.replied (.managed purpose binding.address binding.signature cells) cell, last.process⟩ ::
      mid.history
  kept : last.process = mid.process ∨
    ∃ content, last.process = (mid.process.keepText binding.adapter content).1
  /-- A direct call in the same place does the same. -/
  invoked : Returns (invoke (outside.answer depth) holder binding.name args)
    (w.after (.called (.managed purpose binding.address binding.signature cells)))
    (binding.function.reaction result) mid

theorem Action.Returns.invoke {foreign : Foreign} {w w' : World} {holder : Holder} {name : String}
    {binding : Binding} {args : List Value} {reaction : Reaction}
    (bound : (w.process.registry holder).get? name = some binding)
    (accepted : binding.signature.checkArguments binding.name args = .ok ())
    (called :
      Returns (Action.callFunction foreign binding.name binding.function args) w reaction w') :
    Returns (Action.invoke foreign holder name args) w reaction w' := by
  refine Returns.thenProcess ?_
  rw [bound]
  dsimp only [callBinding]
  rw [accepted]
  exact called

/-- A binding that is registered at any moment of any run does through its address what it does
when it is called directly: arguments that its signature accepts arrive whole, the function runs
once, and its result arrives if it can travel, or else zero. Where the cell of a text argument
cannot be read, nothing runs and zero arrives. -/
theorem call_through_address (outside : Outside) (depth : Nat) {w : World} {holder : Holder}
    {name : String} {binding : Binding} (reached : w.process.Reached)
    (bound : (w.process.registry holder).get? name = some binding) (purpose : Purpose)
    (label : String) :
    (∀ args, binding.signature.checkArguments binding.name args = .ok () →
      (∀ value ∈ args, value.isPassable = true) →
      ∃ cells typed result mid last, CallsThrough outside depth holder binding args purpose label w
        cells typed result mid last) ∧
    ∀ cells, Cell.Unreadable w.process.buffer? binding.signature.params cells →
      ∃ cell last, Returns (outside.answer (depth + 1)
          (.managed purpose binding.address binding.signature cells)) w cell last ∧
        last.history =
          ⟨.replied (.managed purpose binding.address binding.signature cells) cell, w.process⟩ ::
            ⟨.called (.managed purpose binding.address binding.signature cells), w.process⟩ ::
              w.history ∧
        cell.toResult last.process.buffer? label binding.signature.returns =
          .ok (.zero binding.signature.returns) := by
  have entered := reached.entered
  have member : binding ∈ w.process.registry holder := List.mem_of_find?_eq_some bound
  obtain ⟨buffer, entry⟩ := entered.adapterAt? member
  obtain ⟨fit, noVoid⟩ : binding.signature = binding.function.signature ∧
      .void ∉ binding.signature.params := by
    obtain ⟨buffer, there⟩ := entered.bound holder binding member
    exact entered.fit _ (List.mem_of_getElem? there)
  constructor
  · intro args accepted passable
    have params := Signature.params_of_checkArguments accepted
    obtain ⟨cells, written, read⟩ :=
      Cell.toArguments_ofValues label passable (params ▸ noVoid)
    obtain ⟨typed, taken, given⟩ :=
      Arguments.ofValues_accepted binding.name (params.trans (congrArg Signature.params fit))
    rw [params] at read
    obtain ⟨result, mid, ran⟩ := Returns.exists
      (runFunction (outside.answer depth) binding.function typed)
      (w.after (.called (.managed purpose binding.address binding.signature cells)))
    obtain ⟨cell, w', through, kept, arrived⟩ := @Returns.enterAdapter _ _ binding.adapter
      ⟨binding.name, binding.signature, binding.function, buffer⟩ _ _ _ _ _ fit (read _ _) taken
      ran label
    have answered := Returns.answerEntry entry through
    have named : binding.name = name := by simpa using List.find?_some bound
    refine ⟨cells, typed, result, mid,
      w'.after (.replied (.managed purpose binding.address binding.signature cells) cell),
      written, given, ran, ?_, ⟨cell, ?_⟩, kept.process, ?_⟩
    · unfold callAddress
      rw [written]
      refine answered.then (Returns.thenProcess ?_)
      exact congrArg (·, _) arrived
    · rw [World.history_after, kept.history]
      rfl
    · exact Returns.invoke (named ▸ bound) accepted (Returns.callFunction taken ran)
  · intro cells bad
    obtain ⟨cell, w', through, ⟨process, history, -, -⟩, zero⟩ := Returns.enterUnreadable
      (w.after (.called (.managed purpose binding.address binding.signature cells)))
      binding.adapter ⟨binding.name, binding.signature, binding.function, buffer⟩ bad label
    refine ⟨cell, _, Returns.answerEntry entry (through _), ?_, zero _⟩
    rw [World.history_after, process, history]
    rfl

/-- A function that returns its text. -/
def echo : Binding :=
  ⟨"echo", ⟨.utf8String, [.utf8String]⟩, .supplied 0 ⟨.utf8String, [.utf8String]⟩, 0⟩

/-- Code outside that supplies it. -/
def Outside.echoing : Outside := fun _ call =>
  match call with
  | .native _ ⟨.utf8String, [.utf8String]⟩ (text, ()) => .reply (some text)
  | call => .reply call.inertReply

/-- The world in which it has been registered. -/
def echoed : World :=
  Outside.echoing.leads 1
    (Conduct.doing (.register (.alone 0) echo.name echo.signature echo.function)) {} []

/-- The text that is sent is the text that arrives. Bytes that are no text arrive as none. -/
theorem echo_through_address :
    echoed.process.Reached ∧ (echoed.process.registry (.alone 0)).get? "echo" = some echo ∧
      (∃ cells typed result mid last, CallsThrough .echoing 1 (.alone 0) echo [.text "n\u00e9"]
          (.imported 0 1) "echo" echoed cells typed result mid last ∧
        echo.function.received result = .text "n\u00e9") ∧
      ∃ cell last, Returns (Outside.echoing.answer 2 (.managed (.imported 0 1) echo.address
          echo.signature [.text (.bytes [0xff])])) echoed cell last ∧
        cell.toResult last.process.buffer? "echo" .utf8String = .ok (.text "") := by
  have reached : echoed.process.Reached := .atEnd _ _ _ _ _
  have bound : (echoed.process.registry (.alone 0)).get? "echo" = some echo := by decide +kernel
  obtain ⟨whole, unread⟩ := call_through_address .echoing 1 reached bound (.imported 0 1) "echo"
  obtain ⟨cell, last, answered, -, zero⟩ := unread [.text (.bytes [0xff])]
    (.inl ⟨rfl, [0xff], _, rfl, rfl⟩)
  obtain ⟨cells, ⟨text, ⟨⟩⟩, result, mid, w', called⟩ :=
    whole [.text "n\u00e9"] rfl (by decide +kernel)
  cases called.given
  obtain ⟨rfl, -⟩ := Returns.unique called.once (.intro _ _)
  exact ⟨reached, bound, ⟨_, _, _, _, _, called, rfl⟩, cell, last, answered, zero⟩

end ManagedHost
