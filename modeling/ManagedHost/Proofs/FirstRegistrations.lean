import ManagedHost.Proofs.Lifecycle
import ManagedHost.Proofs.TypedCalls
import Mathlib.Data.List.Nodup

/-! # A registry holds the first registrations

A registration is judged by the declared types first and by the name last (`Judged`), and one that
is refused changes nothing. So whatever was registered and cleared, a registry holds for each name
the first registration that succeeded since it was cleared last, and all views of it agree
(`first_registrations_held`). -/

namespace ManagedHost

open ManagedHost.Action

/-! ## One registration -/

/-- What a registration answers: the first of the five reasons against it, or else the binding with
the next adapter. -/
inductive Judged (taken : Prop) (next : AdapterId) (name : String) (signature : Signature)
    (function : NativeFunction) : Except BridgeError Binding → Prop
  | void (there : .void ∈ signature.params) :
      Judged taken next name signature function (.error (.voidParameter name))
  | count (noVoid : .void ∉ signature.params)
      (differ : signature.arity ≠ function.signature.arity) :
      Judged taken next name signature function
        (.error (.arityMismatch name signature.arity function.signature.arity))
  /-- The parameters before the two that differ are the same. -/
  | parameter {same later later' : List WireType} {declared actual : WireType}
      (noVoid : .void ∉ signature.params) (count : signature.arity = function.signature.arity)
      (here : signature.params = same ++ declared :: later)
      (there : function.signature.params = same ++ actual :: later') (differ : actual ≠ declared) :
      Judged taken next name signature function (.error (.typeMismatch name declared actual))
  | result (noVoid : .void ∉ signature.params)
      (params : signature.params = function.signature.params)
      (differ : signature.returns ≠ function.signature.returns) :
      Judged taken next name signature function
        (.error (.typeMismatch name signature.returns function.signature.returns))
  | duplicate (fit : signature = function.signature) (noVoid : .void ∉ signature.params)
      (present : taken) :
      Judged taken next name signature function (.error (.duplicateBinding name))
  | accepted (fit : signature = function.signature) (noVoid : .void ∉ signature.params)
      (free : ¬ taken) :
      Judged taken next name signature function (.ok ⟨name, signature, function, next⟩)

namespace Process

variable {p : Process} {holder : Holder} {name : String} {signature : Signature}
  {function : NativeFunction}

/-- A registration that the types refuse answers with the reason. -/
theorem register_refused {e : BridgeError}
    (refused : signature.checkAgainst function.signature name = .error e) (p : Process)
    (holder : Holder) : p.register holder name signature function = .error e := by
  simp [register, refused, bind, Except.bind]

theorem judged_register (p : Process) (holder : Holder) (name : String) (signature : Signature)
    (function : NativeFunction) :
    Judged (((p.registry holder).get? name).isSome = true) p.adapters.length name signature function
      ((p.register holder name signature function).map (·.2)) := by
  by_cases void : .void ∈ signature.params
  · rw [register_refused (e := .voidParameter name) (by simp [Signature.checkAgainst, void])]
    exact .void void
  by_cases count : signature.arity = function.signature.arity
  case neg =>
    rw [register_refused (by simp [Signature.checkAgainst, void, count]; rfl)]
    exact .count void count
  cases mismatch : Signature.firstMismatch signature.params function.signature.params with
  | some types =>
    obtain ⟨declared, actual⟩ := types
    obtain ⟨same, later, later', here, there, differ⟩ := Signature.firstMismatch_eq_some mismatch
    rw [register_refused (by simp [Signature.checkAgainst, void, count, mismatch]; rfl)]
    exact .parameter void count here there differ
  | none =>
    have params : signature.params = function.signature.params :=
      Signature.firstMismatch_eq_none count mismatch
    by_cases returns : signature.returns = function.signature.returns
    case neg =>
      rw [register_refused (by simp [Signature.checkAgainst, void, count, mismatch, returns]; rfl)]
      exact .result void params returns
    have checked : signature.checkAgainst function.signature name = .ok () := by
      simp [Signature.checkAgainst, void, count, mismatch, returns]
    obtain ⟨fit, -⟩ := Signature.eq_of_checkAgainst checked
    unfold register
    rw [checked]
    simp only [bind, Except.bind]
    split
    · next taken => exact .duplicate fit void taken
    · next free => exact .accepted fit void free

end Process

/-- A registration answers as judged, and changes nothing when it is refused. -/
theorem Action.Returns.judged {holder : Holder} {name : String} {signature : Signature}
    {function : NativeFunction} {result : Except BridgeError Binding} {w w' : World}
    (h : Returns (Action.register holder name signature function) w result w') :
    Judged (((w.process.registry holder).get? name).isSome = true) w.process.adapters.length name
        signature function result ∧
      ∀ e, result = .error e → w'.process = w.process := by
  -- A registry may belong to a live bridge, and then a warning is logged; nothing else differs.
  have judged := w.process.judged_register holder name signature function
  rcases h.registers with ⟨p, binding, rfl, added, -⟩ | ⟨⟨e, rfl, refused⟩, process, -⟩
  · rw [added] at judged
    exact ⟨judged, nofun⟩
  · rw [refused] at judged
    exact ⟨judged, fun _ _ => process⟩

/-! ## A registry that holds chosen bindings -/

namespace Registry

theorem get?_insert_of_ne {binding : Binding} {name : String} (other : binding.name ≠ name)
    (registry : Registry) : (registry.insert binding).get? name = registry.get? name := by
  have skipped : (binding.name == name) = false := beq_false_of_ne other
  induction registry with
  | nil => simp [insert, get?, skipped]
  | cons first rest ih =>
    rw [insert]
    split
    · simp [get?, skipped]
    · rw [get?, get?, List.find?_cons, List.find?_cons]
      split
      · rfl
      · exact ih

/-- In ascending order every binding is found by its name. -/
theorem IsAscending.get?_eq_some_iff {registry : Registry} (ascending : registry.IsAscending)
    {name : String} {binding : Binding} :
    registry.get? name = some binding ↔ binding ∈ registry ∧ binding.name = name := by
  constructor
  · intro found
    exact ⟨List.mem_of_find?_eq_some found, by simpa using List.find?_some found⟩
  rintro ⟨member, rfl⟩
  induction registry with
  | nil => cases member
  | cons first rest ih =>
    obtain ⟨least, later⟩ := List.pairwise_cons.mp ascending
    rcases List.mem_cons.mp member with rfl | member
    · exact List.find?_cons_of_pos (beq_self_eq_true _)
    · have differs : first.name ≠ binding.name := String.ne_of_lt (least binding member)
      exact (List.find?_cons_of_neg (by simp [differs])).trans (ih later member)

theorem IsAscending.nodup_names {registry : Registry} (ascending : registry.IsAscending) :
    registry.names.Nodup :=
  List.pairwise_map.mpr (ascending.imp String.ne_of_lt)

end Registry

/-- Every view of the registry shows just the chosen bindings, each under its own name. -/
structure HoldsJust (registry : Registry) (chosen : String → Option Binding) : Prop where
  get : ∀ name, registry.get? name = chosen name
  iter : ∀ binding, binding ∈ registry ↔ chosen binding.name = some binding
  ascending : registry.IsAscending
  /-- The length is the number of the names that have a binding. -/
  len : ∀ names : List String, names.Nodup → (∀ name, name ∈ names ↔ (chosen name).isSome) →
    registry.length = names.length
  snapshot : ∀ name address, (name, address) ∈ registry.snapshot ↔
    ∃ binding, chosen name = some binding ∧ binding.address = address
  snapshotOrder : registry.snapshot.Pairwise fun earlier later => earlier.1 < later.1

/-- In ascending order all views agree with what is found by name. -/
theorem Registry.IsAscending.holdsJust {registry : Registry} (ascending : registry.IsAscending) :
    HoldsJust registry registry.get? where
  get _ := rfl
  iter binding := by simp [ascending.get?_eq_some_iff]
  ascending := ascending
  len names distinct named := by
    have same : registry.names.Perm names := by
      refine (List.perm_ext_iff_of_nodup ascending.nodup_names distinct).mpr fun name => ?_
      rw [named, Option.isSome_iff_exists]
      simp [Registry.names, ascending.get?_eq_some_iff]
    simpa [Registry.names] using same.length_eq
  snapshot name address := by
    simp only [Registry.snapshot, List.mem_map, ascending.get?_eq_some_iff, Prod.mk.injEq]
    exact exists_congr fun binding => and_assoc.symm
  snapshotOrder := List.pairwise_map.mpr ascending

/-! ## Registrations and clears -/

/-- What is done to a registry. -/
inductive Deed where
  | tried (name : String) (signature : Signature) (function : NativeFunction)
    (result : Except BridgeError Binding)
  | cleared

/-- The first registration of a name that succeeded since the last clear, with what was registered
and the adapter that it was told. The last deed stands in front. -/
def firstSinceClear : List Deed → String → Option Binding
  | [], _ | .cleared :: _, _ => none
  | .tried _ _ _ (.error _) :: earlier, sought => firstSinceClear earlier sought
  | .tried name signature function (.ok binding) :: earlier, sought =>
    (firstSinceClear earlier sought).or
      (if name = sought then some ⟨name, signature, function, binding.adapter⟩ else none)

/-- What was done to the registry of a holder, from when it was empty until now, the last deed in
front. In between the registry rests, whatever else happens. -/
inductive Deeds (holder : Holder) : List Deed → World → Prop
  | fresh {w : World} (empty : w.process.registry holder = []) : Deeds holder [] w
  | tried {deeds : List Deed} {w w' : World} {name : String} {signature : Signature}
      {function : NativeFunction} {result : Except BridgeError Binding}
      (before : Deeds holder deeds w)
      (ran : Returns (Action.register holder name signature function) w result w') :
      Deeds holder (.tried name signature function result :: deeds) w'
  | cleared {deeds : List Deed} {w w' : World} (before : Deeds holder deeds w)
      (ran : Returns (Action.clearRegistry holder) w () w') : Deeds holder (.cleared :: deeds) w'
  | elsewhere {deeds : List Deed} {w w' : World} (before : Deeds holder deeds w)
      (rests : w'.process.registry holder = w.process.registry holder) : Deeds holder deeds w'

variable {holder : Holder} {deeds : List Deed} {w : World}

theorem Deeds.ascending (h : Deeds holder deeds w) : (w.process.registry holder).IsAscending := by
  induction h with
  | fresh empty =>
    rw [empty]
    exact .nil
  | tried before ran ih =>
    rcases ran.registers with ⟨p, binding, -, added, process, -⟩ | ⟨-, process, -⟩
    · have free := Process.register_free added
      obtain ⟨-, rfl, rfl⟩ := Process.register_adds added
      rw [process, World.process_put, Process.registry_setRegistry_self]
      exact ih.insert free
    · rwa [process]
  | cleared before ran ih =>
    rw [ran.clearRegistry.1, World.process_put, Process.clearRegistry,
      Process.registry_setRegistry_self]
    exact .nil
  | elsewhere before rests ih => rwa [rests]

/-- What is found by a name is the first registration of it. -/
theorem Deeds.get? (h : Deeds holder deeds w) :
    (w.process.registry holder).get? = firstSinceClear deeds := by
  funext sought
  induction h with
  | fresh empty =>
    rw [empty]
    rfl
  | @tried deeds w w' name signature function result before ran ih =>
    rcases ran.registers with ⟨p, binding, rfl, added, process, -⟩ | ⟨⟨e, rfl, -⟩, process, -⟩
    · have free := Process.register_free added
      obtain ⟨-, rfl, rfl⟩ := Process.register_adds added
      rw [process, World.process_put, Process.registry_setRegistry_self, firstSinceClear, ← ih]
      by_cases same : name = sought
      · subst same
        rw [free, if_pos rfl, Option.none_or]
        exact Registry.get?_insert_self free
      · rw [if_neg same, Option.or_none]
        exact Registry.get?_insert_of_ne same _
    · rw [process, firstSinceClear, ih]
  | cleared before ran ih =>
    rw [ran.clearRegistry.1, World.process_put, Process.clearRegistry,
      Process.registry_setRegistry_self]
    rfl
  | elsewhere before rests ih => rw [rests, ih]

/-- Whatever was registered and cleared, the registry holds for each name just the first
registration that succeeded since it was cleared last, and the next registration is judged by
that. -/
theorem first_registrations_held (h : Deeds holder deeds w) :
    HoldsJust (w.process.registry holder) (firstSinceClear deeds) ∧
      ∀ name signature function, ∃ result w',
        Returns (Action.register holder name signature function) w result w' ∧
        Judged ((firstSinceClear deeds name).isSome = true) w.process.adapters.length name
          signature function result ∧
        ∀ e, result = .error e → w'.process = w.process := by
  rw [← h.get?]
  refine ⟨h.ascending.holdsJust, fun name signature function => ?_⟩
  obtain ⟨result, w', ran⟩ := Returns.exists (Action.register holder name signature function) w
  exact ⟨result, w', ran, ran.judged⟩

/-- The binding that echoes a text, with its second entry. -/
def echoAgain : Binding := { echo with adapter := 1 }

/-- The echo is registered, cleared and registered again; another one and a kick are refused. -/
def echoDeeds : List Deed :=
  [.tried "echo" ⟨.void, [.utf8String]⟩ (.kick 0)
      (.error (.typeMismatch "echo" .utf8String .uint8)),
    .tried "echo" echo.signature echo.function (.error (.duplicateBinding "echo")),
    .tried "echo" echo.signature echo.function (.ok echoAgain),
    .cleared,
    .tried "echo" echo.signature echo.function (.ok echo)]

theorem second_echo_held : ∃ w, Deeds (.alone 0) echoDeeds w ∧
    HoldsJust (w.process.registry (.alone 0)) (firstSinceClear echoDeeds) ∧
    firstSinceClear echoDeeds "echo" = some echoAgain := by
  have fresh : Deeds (.alone 0) [] {} := .fresh rfl
  have first := fresh.tried (.intro (Action.register _ "echo" echo.signature echo.function) _)
  have cleared := first.cleared (.intro _ _)
  have again := cleared.tried (.intro (Action.register _ "echo" echo.signature echo.function) _)
  have twice := again.tried (.intro (Action.register _ "echo" echo.signature echo.function) _)
  have mistyped :=
    twice.tried (.intro (Action.register _ "echo" ⟨.void, [.utf8String]⟩ (.kick 0)) _)
  have deeds : Deeds (.alone 0) echoDeeds _ := mistyped
  exact ⟨_, deeds, (first_registrations_held deeds).1, rfl⟩

end ManagedHost
