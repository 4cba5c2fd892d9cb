import ManagedHost.Proofs.CellRoundTrip
import ManagedHost.Proofs.Invariant

/-! # Bindings and their entries

Registering a function makes an adapter, the entry by whose address the binding is called, and no
step of the process takes an adapter away or changes its name, types or function. So every binding
that any registry holds at any moment of a run stands in its entry just as it was registered, for a
function of just its types (`Reached.entered`). -/

namespace ManagedHost

open ManagedHost.Action

/-! ## Every binding has its entry -/

theorem Registry.mem_insert {registry : Registry} {binding other : Binding}
    (h : other ∈ registry.insert binding) : other = binding ∨ other ∈ registry := by
  induction registry with
  | nil => exact .inl (List.mem_singleton.mp h)
  | cons first rest ih =>
    rw [insert] at h
    split at h
    · exact List.mem_cons.mp h
    · rcases List.mem_cons.mp h with rfl | later
      · exact .inr List.mem_cons_self
      · exact (ih later).imp_right (List.mem_cons_of_mem _)

namespace Process

theorem registry_updateBridge (p : Process) {b : BridgeId} {f : Bridge → Bridge}
    (keeps : (f (p.bridge b)).outbound = (p.bridge b).outbound) (holder : Holder) :
    (p.updateBridge b f).registry holder = p.registry holder := by
  cases holder with
  | alone r => rfl
  | bridge c => exact view_updateBridge (·.outbound) p keeps c

theorem registry_setRegistry_self (p : Process) (holder : Holder) (registry : Registry) :
    (p.setRegistry holder registry).registry holder = registry := by
  cases holder with
  | bridge b => simp only [setRegistry, Process.registry, bridge_updateBridge_self]
  | alone r => simp only [setRegistry, Process.registry, Table.row_put_self]

theorem registry_setRegistry_of_ne (p : Process) {holder other : Holder} (differs : other ≠ holder)
    (registry : Registry) :
    (p.setRegistry holder registry).registry other = p.registry other := by
  cases holder with
  | bridge b =>
    cases other with
    | alone r => rfl
    | bridge c =>
      have ne : c ≠ b := fun same => differs (congrArg Holder.bridge same)
      simp only [setRegistry, Process.registry, bridge_updateBridge_of_ne p ne]
  | alone r =>
    cases other with
    | bridge c => rfl
    | alone s =>
      have ne : s ≠ r := fun same => differs (congrArg Holder.alone same)
      simp only [setRegistry, Process.registry, Table.row_put_of_ne _ ne]

theorem mem_setRegistry {p : Process} {holder other : Holder} {registry : Registry}
    {binding : Binding} (h : binding ∈ (p.setRegistry holder registry).registry other) :
    binding ∈ registry ∧ other = holder ∨ binding ∈ p.registry other := by
  by_cases same : other = holder
  · subst same
    rw [registry_setRegistry_self] at h
    exact .inl ⟨h, rfl⟩
  · rw [registry_setRegistry_of_ne p same] at h
    exact .inr h

theorem adapters_setRegistry (p : Process) (holder : Holder) (registry : Registry) :
    (p.setRegistry holder registry).adapters = p.adapters := by
  cases holder <;> rfl

/-- A registration that succeeds found the name free. -/
theorem register_free {p p' : Process} {holder : Holder} {name : String}
    {signature : Signature} {function : NativeFunction} {binding : Binding}
    (h : p.register holder name signature function = .ok (p', binding)) :
    (p.registry holder).get? name = none := by
  obtain ⟨checked, -, -⟩ := register_adds h
  rw [register, checked] at h
  simp only [bind, Except.bind] at h
  split at h
  · cases h
  · next free => simpa using free

/-- Every binding has an entry of its name, types and function, and every entry has the types of its
function, with no void among the parameters. -/
structure Entered (p : Process) : Prop where
  bound : ∀ holder, ∀ binding ∈ p.registry holder, ∃ buffer,
    p.adapter? binding.adapter =
      some ⟨binding.name, binding.signature, binding.function, buffer⟩
  fit : ∀ adapter ∈ p.adapters,
    adapter.signature = adapter.function.signature ∧ .void ∉ adapter.signature.params

theorem entered_start : Entered {} := by
  constructor
  · intro holder binding h
    cases holder <;> cases h
  · intro adapter h
    cases h

/-- Without new entries and new bindings nothing can go wrong. -/
theorem Entered.fewer {p p' : Process} (h : Entered p) (adapters : p'.adapters = p.adapters)
    (registry : ∀ holder, ∀ binding ∈ p'.registry holder, binding ∈ p.registry holder) :
    Entered p' := by
  constructor
  · intro holder binding member
    rw [adapter?, adapters]
    exact h.bound holder binding (registry holder binding member)
  · rw [adapters]
    exact h.fit

theorem Entered.updateBridge {p : Process} (h : Entered p) {b : BridgeId} {f : Bridge → Bridge}
    (keeps : (f (p.bridge b)).outbound = (p.bridge b).outbound) : Entered (p.updateBridge b f) := by
  refine h.fewer rfl fun holder binding member => ?_
  rwa [registry_updateBridge p keeps] at member

/-- An entry stands as it was made when others are made. -/
theorem entry_append {p : Process} {binding : Binding} (h : ∃ buffer,
    p.adapter? binding.adapter = some ⟨binding.name, binding.signature, binding.function, buffer⟩)
    (adapters : List Adapter) : ∃ buffer, (p.adapters ++ adapters)[binding.adapter]? =
      some ⟨binding.name, binding.signature, binding.function, buffer⟩ := by
  obtain ⟨buffer, entry⟩ := h
  refine ⟨buffer, ?_⟩
  rw [List.getElem?_append_left (List.getElem?_eq_some_iff.mp entry).1]
  exact entry

/-- An entry stands as it was made when it, or another, keeps a text. -/
theorem entry_keepText {p : Process} {binding : Binding} (h : ∃ buffer,
    p.adapter? binding.adapter = some ⟨binding.name, binding.signature, binding.function, buffer⟩)
    (id : AdapterId) (content : List UInt8) : ∃ buffer,
    (p.keepText id content).1.adapter? binding.adapter =
      some ⟨binding.name, binding.signature, binding.function, buffer⟩ := by
  obtain ⟨buffer, entry⟩ := h
  by_cases same : id = binding.adapter
  · subst same
    refine ⟨some p.buffers.length, ?_⟩
    simp [adapter?, Process.keepText, show p.adapters[binding.adapter]? = _ from entry]
  · refine ⟨buffer, ?_⟩
    rw [← entry]
    simp [adapter?, Process.keepText, same]

theorem Entered.register {p p' : Process} (h : Entered p) {holder : Holder} {name : String}
    {signature : Signature} {function : NativeFunction} {binding : Binding}
    (added : p.register holder name signature function = .ok (p', binding)) : Entered p' := by
  obtain ⟨checked, rfl, rfl⟩ := register_adds added
  constructor
  · intro other known member
    rw [adapter?, adapters_setRegistry]
    rcases mem_setRegistry member with ⟨inserted, rfl⟩ | kept
    · rcases Registry.mem_insert inserted with rfl | kept
      · exact ⟨none, List.getElem?_concat_length⟩
      · exact entry_append (h.bound other known kept) _
    · exact entry_append (h.bound other known kept) _
  · intro adapter member
    rw [adapters_setRegistry] at member
    rcases List.mem_append.mp member with old | new
    · exact h.fit adapter old
    · rw [List.mem_singleton.mp new]
      exact Signature.eq_of_checkAgainst checked

theorem Entered.keepText {p : Process} (h : Entered p) (id : AdapterId) (content : List UInt8) :
    Entered (p.keepText id content).1 := by
  constructor
  · exact fun holder binding member => entry_keepText (h.bound holder binding member) id content
  · intro adapter member
    obtain ⟨i, found⟩ := List.getElem?_of_mem member
    simp only [Process.keepText, List.getElem?_modify] at found
    split at found
    · obtain ⟨before, there, rfl⟩ := Option.map_eq_some_iff.mp found
      exact h.fit before (List.mem_of_getElem? there)
    · rw [id_map'] at found
      exact h.fit adapter (List.mem_of_getElem? found)

theorem Entered.clearRegistry {p : Process} (h : Entered p) (holder : Holder) :
    Entered (p.clearRegistry holder) := by
  refine h.fewer (adapters_setRegistry _ _ _) fun other binding member => ?_
  rcases mem_setRegistry member with ⟨none, -⟩ | kept
  · cases none
  · exact kept

theorem entered_kept : KeptBySteps Entered := by
  intro p p' step h
  cases step with
  | change step =>
    cases step with
    | bound added => exact h.register added
    | cleared holder => exact h.clearRegistry holder
    | kept id content => exact h.keepText id content
    | heap => exact h.fewer rfl fun _ _ member => member
    | declared | resolved | objects => exact h.updateBridge rfl
  | bringUp | tell | hook | takeDown | forget => exact h.updateBridge rfl
  | claim | free | expect | expectNone | release => exact h.fewer rfl fun _ _ member => member

/-- All through every run, every binding has its entry. -/
theorem Reached.entered {p : Process} (h : p.Reached) : Entered p :=
  h.invariant entered_start entered_kept

end Process

/-! ## The order of the bindings -/

/-- No name stands twice, and the names ascend. -/
def Registry.IsAscending (registry : Registry) : Prop :=
  registry.Pairwise fun earlier later => earlier.name < later.name

theorem Registry.IsAscending.insert {registry : Registry} {binding : Binding}
    (ascending : registry.IsAscending) (free : registry.get? binding.name = none) :
    (registry.insert binding).IsAscending := by
  induction registry with
  | nil => exact List.pairwise_singleton _ _
  | cons first rest ih =>
    obtain ⟨least, later⟩ := List.pairwise_cons.mp ascending
    rw [get?, List.find?_cons] at free
    rw [Registry.insert]
    split at free
    · cases free
    · next differs =>
      split
      · next less =>
        refine List.pairwise_cons.mpr ⟨fun other member => ?_, ascending⟩
        rcases List.mem_cons.mp member with rfl | member
        · exact less
        · exact String.lt_trans less (least other member)
      · next notLess =>
        have greater : first.name < binding.name :=
          Std.lt_of_le_of_ne (String.not_lt.mp notLess) (by simpa using differs)
        refine List.pairwise_cons.mpr ⟨fun other member => ?_, ih later free⟩
        rcases mem_insert member with rfl | member
        · exact greater
        · exact least other member

namespace Process

/-- Every registry is in ascending order. -/
def Ordered (p : Process) : Prop := ∀ holder, (p.registry holder).IsAscending

theorem ordered_start : Ordered {} := by
  intro holder
  cases holder <;> exact .nil

theorem Ordered.setRegistry {p : Process} (h : Ordered p) (holder : Holder) {registry : Registry}
    (ascending : registry.IsAscending) : Ordered (p.setRegistry holder registry) := by
  intro other
  by_cases same : other = holder
  · subst same
    rw [registry_setRegistry_self]
    exact ascending
  · rw [registry_setRegistry_of_ne p same]
    exact h other

theorem Ordered.updateBridge {p : Process} (h : Ordered p) {b : BridgeId} {f : Bridge → Bridge}
    (keeps : (f (p.bridge b)).outbound = (p.bridge b).outbound) : Ordered (p.updateBridge b f) := by
  intro holder
  rw [registry_updateBridge p keeps]
  exact h holder

theorem ordered_kept : KeptBySteps Ordered := by
  intro p p' step h
  cases step with
  | change step =>
    cases step with
    | @bound holder name signature function p' binding added =>
      obtain ⟨-, same, rfl⟩ := register_adds added
      have free : (p.registry holder).get? binding.name = none := same ▸ register_free added
      have grown :
          Ordered { p with adapters := p.adapters ++ [⟨name, signature, function, none⟩] } := h
      exact grown.setRegistry holder ((h holder).insert free)
    | cleared holder =>
      have retired :
          Ordered { p with retired := p.retired ++ (p.registry holder).map (·.adapter) } := h
      exact retired.setRegistry holder .nil
    | kept | heap => exact h
    | declared | resolved | objects => exact h.updateBridge rfl
  | bringUp | tell | hook | takeDown | forget => exact h.updateBridge rfl
  | claim | free | expect | expectNone | release => exact h

end Process

end ManagedHost
