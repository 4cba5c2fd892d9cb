import ManagedHost.Proofs.TypedCalls
import Mathlib.Data.List.Perm.Basic
import Mathlib.Data.List.Nodup

/-! # Adapters are never lost

Every registration makes one adapter. Its binding is held by one registry until that is cleared, and
then the adapter is retired, so at any moment the retired adapters and those of the held bindings
are all that were ever made, each once (`Accounted`). An adapter keeps its place and its function
whatever becomes of the binding: an address that a registration gave leads to the function that was
registered for as long as the process lasts (`addresses_stay`). -/

namespace ManagedHost

open ManagedHost.Action

/-- What was registered, as it was asked for, with the adapter that it got. -/
def Event.registered? : Event → Option Binding
  | .ended (.register _ name signature function) (.ok binding) =>
    some ⟨name, signature, function, binding.adapter⟩
  | _ => none

/-- The operation is a registration. -/
def Operation.registers : Operation → Bool
  | register _ _ _ _ => true
  | _ => false

/-- The bindings that were ever registered, the last one first. -/
def registrations (h : List Moment) : List Binding := h.filterMap (·.event.registered?)

/-! ## The bindings that are held -/

theorem Registry.perm_insert (registry : Registry) (binding : Binding) :
    (registry.insert binding).Perm (binding :: registry) := by
  induction registry with
  | nil => exact .refl _
  | cons first rest ih =>
    rw [Registry.insert]
    split
    · exact .refl _
    · exact (ih.cons first).trans (.swap _ _ _)

namespace Process

/-- The holders whose registries were ever written. -/
def holders (p : Process) : List Holder :=
  p.bridges.rows.map (fun row => .bridge row.1) ++ p.registries.rows.map fun row => .alone row.1

/-- The bindings in all registries. -/
def held (p : Process) : List Binding := p.holders.flatMap p.registry

/-- The bindings that all other holders have. -/
def heldElsewhere (p : Process) (holder : Holder) : List Binding :=
  (p.holders.filter (· != holder)).flatMap p.registry

/-- A table has the default row wherever none was put. -/
theorem row_of_not_mem {α : Type} [Inhabited α] {table : Table α} {n : Nat}
    (absent : ∀ row ∈ table.rows, row.1 ≠ n) : table.row n = default := by
  have none : table.rows.lookup n = none :=
    List.lookup_eq_none_iff.mpr fun row there => by simpa using (absent row there).symm
  rw [Table.row, none, Option.getD_none]

theorem registry_of_not_mem {p : Process} {holder : Holder} (absent : holder ∉ p.holders) :
    p.registry holder = [] := by
  simp only [holders, List.mem_append, List.mem_map, not_or, not_exists, not_and] at absent
  obtain ⟨bridges, registries⟩ := absent
  cases holder with
  | bridge b =>
    have none := row_of_not_mem fun row there same => bridges row there (congrArg _ same)
    exact congrArg Bridge.outbound none
  | alone r => exact row_of_not_mem fun row there same => registries row there (congrArg _ same)

variable {p p' : Process} {holder : Holder}

theorem held_perm (tidy : p.holders.Nodup) (holder : Holder) :
    p.held.Perm (p.registry holder ++ p.heldElsewhere holder) := by
  by_cases there : holder ∈ p.holders
  · have first : p.holders.Perm (holder :: p.holders.filter (· != holder)) := by
      have moved := List.perm_cons_erase there
      rwa [tidy.erase_eq_filter] at moved
    exact first.flatMap_right p.registry
  · have others : p.holders.filter (· != holder) = p.holders :=
      List.filter_eq_self.mpr fun other member => bne_iff_ne.mpr (ne_of_mem_of_not_mem member there)
    rw [registry_of_not_mem there, List.nil_append, heldElsewhere, others]
    exact .refl _

/-- One holder's registry may have changed, and no other. -/
structure Rewrites (holder : Holder) (p p' : Process) : Prop where
  holders : p'.holders.Perm (holder :: p.holders.filter (· != holder))
  others : ∀ other, other ≠ holder → p'.registry other = p.registry other

theorem Rewrites.nodup (h : Rewrites holder p p') (tidy : p.holders.Nodup) : p'.holders.Nodup :=
  h.holders.nodup_iff.mpr (List.nodup_cons.mpr ⟨by simp, tidy.filter _⟩)

theorem Rewrites.held (h : Rewrites holder p p') :
    p'.held.Perm (p'.registry holder ++ p.heldElsewhere holder) := by
  refine (h.holders.flatMap_right p'.registry).trans ?_
  rw [List.flatMap_cons, heldElsewhere]
  refine .of_eq (congrArg _ (List.flatMap_congr fun other member => ?_))
  exact h.others other (by simpa using (List.mem_filter.mp member).2)

theorem rewrites_updateBridge (p : Process) (b : BridgeId) (f : Bridge → Bridge) :
    Rewrites (.bridge b) p (p.updateBridge b f) := by
  constructor
  · refine .of_eq ?_
    simp only [Process.holders, updateBridge, Table.put, List.map_cons, List.cons_append,
      List.filter_append, List.filter_map]
    congr 2
    · congr 1
      exact List.filter_congr fun row _ => Bool.eq_iff_iff.mpr (by simp)
    · rw [List.filter_eq_self.mpr fun row _ => by simp]
  · intro other differs
    cases other with
    | alone r => rfl
    | bridge c =>
      have ne : c ≠ b := fun same => differs (congrArg Holder.bridge same)
      simp only [Process.registry, bridge_updateBridge_of_ne p ne]

theorem rewrites_setRegistry (p : Process) (holder : Holder) (registry : Registry) :
    Rewrites holder p (p.setRegistry holder registry) := by
  cases holder with
  | bridge b => exact rewrites_updateBridge p b fun bridge => { bridge with outbound := registry }
  | alone r =>
    refine ⟨?_, fun other differs => registry_setRegistry_of_ne p differs registry⟩
    simp only [Process.holders, setRegistry, Table.put, List.map_cons, List.filter_append,
      List.filter_map]
    refine List.perm_middle.trans (.of_eq (congrArg _ ?_))
    congr 1
    · rw [List.filter_eq_self.mpr fun row _ => by simp]
    · congr 1
      exact List.filter_congr fun row _ => Bool.eq_iff_iff.mpr (by simp)

theorem registry_congr {q : Process} (bridges : q.bridges = p.bridges)
    (registries : q.registries = p.registries) (holder : Holder) :
    q.registry holder = p.registry holder := by
  cases holder with
  | bridge b => rw [registry, registry, bridge, bridge, bridges]
  | alone r => rw [registry, registry, registries]

/-- What else changes makes no difference. -/
theorem Rewrites.of_same {q : Process} (h : Rewrites holder q p') (bridges : q.bridges = p.bridges)
    (registries : q.registries = p.registries) : Rewrites holder p p' := by
  constructor
  · have same : q.holders = p.holders := by
      rw [Process.holders, Process.holders, bridges, registries]
    exact same ▸ h.holders
  · exact fun other differs =>
      (h.others other differs).trans (registry_congr bridges registries other)

/-! ## The accounts of a process -/

/-- Every registration has made the next adapter, which is still what it was made as. Each adapter
is either retired or that of one held binding, and that once. -/
structure Accounted (h : List Moment) (p : Process) : Prop where
  tidy : p.holders.Nodup
  numbered : ((registrations h).map (·.adapter)).reverse = List.range p.adapters.length
  entered : ∀ binding ∈ registrations h, ∃ buffer, p.adapter? binding.adapter =
    some ⟨binding.name, binding.signature, binding.function, buffer⟩
  placed : (p.retired ++ p.held.map (·.adapter)).Perm (List.range p.adapters.length)

theorem accounted_start : Accounted [] {} := ⟨.nil, rfl, nofun, .refl _⟩

variable {h h' : List Moment}

/-- Where adapters and registries are the same, so are the accounts. -/
theorem Accounted.congr (books : Accounted h p) (tidy : p'.holders.Nodup)
    (adapters : p'.adapters = p.adapters)
    (placed : (p'.retired ++ p'.held.map (·.adapter)).Perm
      (p.retired ++ p.held.map (·.adapter))) : Accounted h p' where
  tidy := tidy
  numbered := adapters ▸ books.numbered
  entered := by
    simp only [adapter?, adapters]
    exact books.entered
  placed := adapters ▸ placed.trans books.placed

theorem Accounted.updateBridge (books : Accounted h p) {b : BridgeId} {f : Bridge → Bridge}
    (keeps : (f (p.bridge b)).outbound = (p.bridge b).outbound) :
    Accounted h (p.updateBridge b f) := by
  have rewrites := rewrites_updateBridge p b f
  have same : (p.updateBridge b f).registry (.bridge b) = p.registry (.bridge b) :=
    registry_updateBridge p keeps _
  have held : (p.updateBridge b f).held.Perm p.held :=
    (same ▸ rewrites.held).trans (held_perm books.tidy _).symm
  exact books.congr (rewrites.nodup books.tidy) rfl ((held.map _).append_left _)

theorem Accounted.clearRegistry (books : Accounted h p) (holder : Holder) :
    Accounted h (p.clearRegistry holder) := by
  have rewrites : Rewrites holder p (p.clearRegistry holder) :=
    (rewrites_setRegistry _ holder []).of_same rfl rfl
  have retired : (p.clearRegistry holder).retired =
      p.retired ++ (p.registry holder).map (·.adapter) := by
    cases holder <;> rfl
  have held : (p.clearRegistry holder).held.Perm (p.heldElsewhere holder) := by
    have now := rewrites.held
    rwa [show (p.clearRegistry holder).registry holder = [] from registry_setRegistry_self _ _ _,
      List.nil_append] at now
  refine books.congr (rewrites.nodup books.tidy) (adapters_setRegistry _ _ _) ?_
  rw [retired, List.append_assoc]
  refine .append_left _ (((held.map _).append_left _).trans ?_)
  rw [← List.map_append]
  exact ((held_perm books.tidy holder).map _).symm

theorem Accounted.keepText (books : Accounted h p) (id : AdapterId) (content : List UInt8) :
    Accounted h (p.keepText id content).1 where
  tidy := books.tidy
  numbered := by simpa [Process.keepText] using books.numbered
  entered binding made := entry_keepText (books.entered binding made) id content
  placed := by
    rw [show (p.keepText id content).1.adapters.length = p.adapters.length by
      simp [Process.keepText]]
    exact books.placed

theorem Accounted.register (books : Accounted h p) {holder : Holder} {name : String}
    {signature : Signature} {function : NativeFunction} {binding : Binding}
    (added : p.register holder name signature function = .ok (p', binding)) (q : Process) :
    Accounted (⟨.ended (.register holder name signature function) (.ok binding), q⟩ :: h) p' := by
  obtain ⟨-, new, rfl⟩ := register_adds added
  let entry : Adapter := ⟨name, signature, function, none⟩
  let grown : Process := { p with adapters := p.adapters ++ [entry] }
  let changed := grown.setRegistry holder ((p.registry holder).insert binding)
  have rewrites : Rewrites holder p changed :=
    (rewrites_setRegistry grown holder _).of_same rfl rfl
  have adapters : changed.adapters = p.adapters ++ [entry] := adapters_setRegistry _ _ _
  have retired : changed.retired = p.retired := by
    cases holder <;> rfl
  have held : changed.held.Perm (binding :: p.held) := by
    have now := rewrites.held
    rw [show changed.registry holder = _ from registry_setRegistry_self _ _ _] at now
    refine now.trans (((Registry.perm_insert _ _).append_right _).trans ?_)
    exact (held_perm books.tidy holder).symm.cons binding
  have made : registrations (⟨.ended (.register holder name signature function) (.ok binding), q⟩
      :: h) = binding :: registrations h := by
    rw [new]
    rfl
  have count : (p.adapters ++ [entry]).length = p.adapters.length + 1 := List.length_append
  refine ⟨rewrites.nodup books.tidy, ?_, ?_, ?_⟩
  · rw [adapters, made, List.map_cons, List.reverse_cons, books.numbered, count, List.range_succ,
      new]
  · intro known member
    rw [adapter?, adapters]
    rcases List.mem_cons.mp (made ▸ member) with rfl | old
    · subst new
      exact ⟨none, List.getElem?_concat_length⟩
    · exact entry_append (books.entered known old) _
  · rw [adapters, retired, count, List.range_succ]
    refine ((held.map _).append_left _).trans ?_
    rw [List.map_cons, new]
    refine List.perm_middle.trans ?_
    exact (books.placed.cons _).trans (List.perm_append_singleton _ _).symm

theorem Accounted.after (books : Accounted h p) (same : registrations h' = registrations h) :
    Accounted h' p :=
  ⟨books.tidy, same ▸ books.numbered, same ▸ books.entered, books.placed⟩

theorem Accounted.effect {operation : Operation} (books : Accounted h p)
    (other : operation.registers = false) (step : Effect operation p p') : Accounted h p' := by
  cases step with
  | bound => cases other
  | cleared _ holder => exact books.clearRegistry holder
  | kept _ _ id content => exact books.keepText id content
  | seated | heap => exact books.congr books.tidy rfl (.refl _)
  | declared | resolved | objects => exact books.updateBridge rfl

theorem Accounted.host (books : Accounted h p) (step : HostingStep p p') : Accounted h p' := by
  cases step with
  | claim | free | expect | expectNone | release => exact books.congr books.tidy rfl (.refl _)
  | bringUp | tell | hook | takeDown => exact books.updateBridge rfl
  | empty b => exact (books.clearRegistry (.bridge b)).updateBridge rfl

/-- All through every run the accounts are right. -/
theorem Accounted.lasting : Lasting Operation.registers Accounted where
  silent operation registers := by
    cases operation with
    | register => rfl
    | _ => cases registers
  called _ books := books.after rfl
  replied _ _ books := books.after rfl
  began _ books := books.after rfl
  ended {_ _ operation} result other books := by
    refine books.after ?_
    cases operation with
    | register => cases other
    | _ => rfl
  effect other step books := books.effect other step
  host step books := books.host step
  atOnce {operation foreign result w w'} registers ran books := by
    cases operation with
    | register holder name signature function =>
      rcases Returns.registers ran with ⟨p, binding, rfl, added, alike⟩ | ⟨⟨e, rfl, -⟩, alike⟩
      · have done : w'.process = p := alike.1
        rw [done]
        exact books.register added p
      · rw [alike.1]
        exact books.after rfl
    | _ => cases registers

end Process

/-! ## What the addresses are worth -/

/-- What can be said at one moment about all registrations so far. -/
structure AddressesStay (w : World) : Prop where
  /-- Every registry with a binding is counted, and none is counted twice. -/
  counted : w.process.holders.Nodup ∧
    ∀ holder, holder ∉ w.process.holders → w.process.registry holder = []
  /-- Only registrations that succeeded have made adapters. -/
  made : w.process.adapters.length = (registrations w.history).length
  balanced : w.process.retired.length + w.process.held.length = (registrations w.history).length
  /-- Every adapter is retired or that of a held binding, and not both. -/
  placed : (w.process.retired ++ w.process.held.map (·.adapter)).Perm
    ((registrations w.history).map (·.adapter))
  distinct : ((registrations w.history).map Binding.address).Nodup
  /-- Whatever was registered, the address that came of it leads there, and whoever calls it gets
  the result of that function, no matter what the function does before it returns. -/
  stays : ∀ holder name signature function binding p,
    ⟨.ended (.register holder name signature function) (.ok binding), p⟩ ∈ w.history →
    (∃ buffer, w.process.adapterAt? binding.address =
      some (binding.adapter, ⟨name, signature, function, buffer⟩)) ∧
    ∀ foreign cells, EntersChecked foreign ⟨name, signature, function, binding.adapter⟩ cells w

theorem Adapter.address_injective : Function.Injective Adapter.address := by
  intro first second same
  have numbers := congrArg Adapter.ofAddress? same
  rwa [Adapter.ofAddress?_address, Adapter.ofAddress?_address, Option.some.injEq] at numbers

namespace Process.Accounted

variable {h : List Moment} {p : Process}

theorem length (books : Accounted h p) : p.adapters.length = (registrations h).length := by
  have lengths := congrArg List.length books.numbered
  simpa using lengths.symm

theorem perm (books : Accounted h p) :
    (p.retired ++ p.held.map (·.adapter)).Perm ((registrations h).map (·.adapter)) := by
  have numbers := books.placed
  rw [← books.numbered] at numbers
  exact numbers.trans (List.reverse_perm _)

theorem distinct (books : Accounted h p) : ((registrations h).map Binding.address).Nodup := by
  have numbers : ((registrations h).map (·.adapter)).Nodup := by
    rw [← List.nodup_reverse, books.numbered]
    exact List.nodup_range
  have addresses := numbers.map Adapter.address_injective
  rwa [List.map_map] at addresses

end Process.Accounted

/-- At every moment of every run, whatever was cleared, torn down or registered again before, every
address that a registration gave still leads to what was registered. -/
theorem addresses_stay {w : World} (reached : w.Reached) : AddressesStay w := by
  have books : Process.Accounted w.history w.process :=
    (reached.lasting Process.accounted_start Process.Accounted.lasting).now
  have entered : Process.Entered w.process :=
    (reached.lasting Process.entered_start Process.entered_kept.lasting).now
  refine ⟨⟨books.tidy, fun _ => Process.registry_of_not_mem⟩, books.length, ?_, books.perm,
    books.distinct, ?_⟩
  · have lengths := books.perm.length_eq
    rwa [List.length_append, List.length_map, List.length_map] at lengths
  · intro holder name signature function binding p happened
    have made : ⟨name, signature, function, binding.adapter⟩ ∈ registrations w.history :=
      List.mem_filterMap.mpr ⟨_, happened, rfl⟩
    obtain ⟨buffer, entry⟩ := books.entered _ made
    have leads : w.process.adapterAt? binding.address =
        some (binding.adapter, ⟨name, signature, function, buffer⟩) := by
      rw [Process.adapterAt?, Binding.address, Adapter.ofAddress?_address]
      simp [entry]
    obtain ⟨fit, noVoid⟩ := entered.fit _ (List.mem_of_getElem? entry)
    have coherent : Binding.Coherent ⟨name, signature, function, binding.adapter⟩ :=
      Binding.coherent fit noVoid
    exact ⟨⟨buffer, leads⟩, fun foreign cells => coherent.enter foreign cells leads⟩

/-! ## A function that clears its own registry -/

/-- Code outside whose function clears a registry before it returns its argument. -/
def Outside.clearing : Outside := fun _ call =>
  match call with
  | .native _ ⟨.pointer, [.pointer]⟩ (value, ()) =>
    .perform (.clear (.alone 0)) fun _ => .reply (some value)
  | call => .reply call.inertReply

/-- The function is registered there and called, and then another one takes its name. -/
def renewal : Conduct Cell := do
  let _ ← Conduct.doing (.register (.alone 0) "f" ⟨.pointer, [.pointer]⟩
    (.supplied 0 ⟨.pointer, [.pointer]⟩))
  let cell ← Conduct.doing (.enter (Adapter.address 0) [.word 7])
  let _ ← Conduct.doing (.register (.alone 0) "f" ⟨.void, []⟩ (.supplied 1 ⟨.void, []⟩))
  return cell

/-- The world after that. -/
def renewed : World := Outside.clearing.leads 2 renewal {} []

theorem renewed_stays : renewed.Reached ∧
    ((renewal.run (Outside.clearing.answer 2)).run { files := {} }).1 = .word 7 ∧
    renewed.process.retired = [0] ∧ renewed.process.held.map (·.adapter) = [1] ∧
    AddressesStay renewed := by
  have reached : renewed.Reached := .atEnd _ _ _ _ _ rfl rfl
  exact ⟨reached, by decide +kernel, by decide +kernel, by decide +kernel, addresses_stay reached⟩

end ManagedHost
