import ManagedHost.Proofs.Invariant
import ManagedHost.Proofs.TrackedValues

/-! # When a value is not tracked

A bridge refuses to track a value whose address is tracked, or under a name that has an entry. Dead
values are swept first, and with them the names that stand for no tracked address; but where nothing
in the table has died, no name is looked at. So a name is free again once its value has died, if
the table still had the value then; the name of a value that it no longer had may be refused
(`track_refusals`). -/

namespace ManagedHost

open ManagedHost.Action

section

variable {κ α : Type} [BEq κ] [LawfulBEq κ] {entries : List (κ × α)}

theorem not_mem_keys_iff {key : κ} :
    key ∉ entries.map Prod.fst ↔ entries.lookup key = none := by
  cases found : entries.lookup key with
  | none =>
    refine iff_of_true (fun member => ?_) rfl
    obtain ⟨entry, there, same⟩ := List.mem_map.mp member
    have differs := List.lookup_eq_none_iff.mp found entry there
    simp [same] at differs
  | some value =>
    exact iff_of_false (not_not_intro (List.mem_map_of_mem (mem_of_lookup found))) nofun

/-- Where no key occurs twice, looking up and filtering commute. -/
theorem lookup_filter_of_nodup (distinct : (entries.map Prod.fst).Nodup) (keep : κ × α → Bool)
    (key : κ) : (entries.filter keep).lookup key =
      (entries.lookup key).filter fun value => keep (key, value) := by
  induction entries with
  | nil => rfl
  | cons entry rest ih =>
    obtain ⟨k, v⟩ := entry
    rw [List.map_cons, List.nodup_cons] at distinct
    have later := ih distinct.2
    by_cases same : key = k
    · subst same
      rw [List.lookup_cons_self]
      cases kept : keep (key, v) with
      | true => simp [kept, Option.filter_some]
      | false =>
        rw [List.filter_cons_of_neg (by simp [kept]), later, not_mem_keys_iff.mp distinct.1]
        simp [kept, Option.filter_some]
    · have differs : (key == k) = false := beq_false_of_ne same
      rw [List.lookup_cons, differs, ← later, List.filter_cons]
      split
      · rw [List.lookup_cons, differs]
      · rfl

theorem any_eq_isSome_lookup (key : κ) :
    (entries.any fun entry => entry.1 == key) = (entries.lookup key).isSome := by
  induction entries with
  | nil => rfl
  | cons entry rest ih =>
    obtain ⟨k, v⟩ := entry
    by_cases same : key = k
    · subst same
      simp
    · rw [List.any_cons, List.lookup_cons, ih, beq_false_of_ne same,
        beq_false_of_ne (Ne.symm same), Bool.false_or]

end

/-- The allocation of a value is at the address. -/
def Heap.LiesAt (heap : Heap) (id : ObjectId) (address : Address) : Prop :=
  ∃ allocation, heap.get? id = some allocation ∧ allocation.address = address

/-! ## The table -/

namespace ObjectTable

/-- No address and no name has two entries, and every name was made for a value at the address that
it stands for. -/
structure Filed (heap : Heap) (made : String → Option ObjectId) (table : ObjectTable) : Prop where
  distinct : (table.objects.map Prod.fst).Nodup
  single : (table.names.map Prod.fst).Nodup
  named : ∀ entry ∈ table.names, ∃ id, made entry.1 = some id ∧ heap.LiesAt id entry.2.address

/-- No value in the table has died. -/
def AllAlive (heap : Heap) (table : ObjectTable) : Prop :=
  ∀ tracked ∈ table.objects, heap.isAlive tracked.2 = true

variable {heap : Heap} {made : String → Option ObjectId} {table : ObjectTable}

/-! ### Sweeping -/

theorem objects_sweep (heap : Heap) (table : ObjectTable) :
    (table.sweep heap).1.objects = table.objects.filter fun tracked => heap.isAlive tracked.2 := by
  rw [sweep]
  split <;> rfl

theorem sweep_of_allAlive (alive : table.AllAlive heap) : (table.sweep heap).1 = table := by
  have all : (table.objects.filter fun tracked => heap.isAlive tracked.2) = table.objects :=
    List.filter_eq_self.mpr alive
  rw [sweep, all, if_pos (Nat.sub_self _)]

/-- Swept once a value has died, a table keeps the names that stand for tracked addresses. -/
theorem names_sweep_of_dead (filed : table.Filed heap made) (dead : ¬ table.AllAlive heap) :
    (table.sweep heap).1.names =
      table.names.filter fun named => table.isTracked heap named.2.address := by
  have fewer : table.objects.length -
      (table.objects.filter fun tracked => heap.isAlive tracked.2).length ≠ 0 := by
    intro none
    have atMost := List.length_filter_le (fun tracked => heap.isAlive tracked.2) table.objects
    refine dead (List.length_filter_eq_length_iff.mp ?_)
    omega
  rw [sweep, if_neg fewer]
  refine List.filter_congr fun named _ => ?_
  change ((table.objects.filter fun tracked => heap.isAlive tracked.2).any
    fun tracked => tracked.1 == named.2.address) = _
  rw [any_eq_isSome_lookup, lookup_filter_of_nodup filed.distinct, isTracked, object?]
  cases table.objects.lookup named.2.address with
  | none => rfl
  | some id => cases alive : heap.isAlive id <;> simp [alive, Option.filter_some]

theorem object?_sweep (filed : table.Filed heap made) (address : Address) :
    (table.sweep heap).1.object? address = (table.object? address).filter heap.isAlive := by
  rw [object?, objects_sweep, lookup_filter_of_nodup filed.distinct]
  rfl

theorem isSome_object?_sweep (filed : table.Filed heap made) (address : Address) :
    ((table.sweep heap).1.object? address).isSome = table.isTracked heap address := by
  rw [object?_sweep filed, isTracked]
  cases table.object? address with
  | none => rfl
  | some id => cases alive : heap.isAlive id <;> simp [alive, Option.filter_some]

theorem isTracked_sweep (filed : table.Filed heap made) (address : Address) :
    (table.sweep heap).1.isTracked heap address = table.isTracked heap address := by
  rw [isTracked, isTracked, object?_sweep filed]
  cases table.object? address with
  | none => rfl
  | some id => cases alive : heap.isAlive id <;> simp [alive, Option.filter_some]

theorem get?_sweep (filed : table.Filed heap made) (address : Address) (kind : Kind) :
    (table.sweep heap).1.get? heap address kind = table.get? heap address kind := by
  rw [get?, get?, object?_sweep filed]
  cases table.object? address with
  | none => rfl
  | some id =>
    cases there : heap.get? id with
    | none => simp [Heap.isAlive, there, Option.filter_some]
    | some allocation =>
      by_cases owned : 0 < allocation.owners
      · simp [Heap.isAlive, there, owned, Option.filter_some]
      · simp [Heap.isAlive, there, owned, Option.filter_some]

/-- A name keeps its entry if it stands for a tracked address, or if no value has died. -/
theorem entry_sweep (filed : table.Filed heap made) (name : String) (entry : NameEntry) :
    ObjectTable.entry? (table.sweep heap).1 name = some entry ↔ table.entry? name = some entry ∧
      (table.isTracked heap entry.address = true ∨ table.AllAlive heap) := by
  by_cases alive : table.AllAlive heap
  · rw [sweep_of_allAlive alive]
    simp [alive]
  · rw [ObjectTable.entry?, names_sweep_of_dead filed alive, lookup_filter_of_nodup filed.single,
      Option.filter_eq_some_iff]
    simp [alive, ObjectTable.entry?]

theorem find_sweep (filed : table.Filed heap made) (name : String) (kind : Kind) :
    ((table.sweep heap).1.find heap name kind).2 = (table.find heap name kind).2 := by
  have answer : ∀ t : ObjectTable, (t.find heap name kind).2 = (t.entry? name).bind fun entry =>
      if t.isTracked heap entry.address then t.get? heap entry.address kind else none := by
    intro t
    rw [find, addressOf?]
    cases t.entry? name with
    | none => rfl
    | some entry => cases tracked : t.isTracked heap entry.address <;> simp [tracked]
  rw [answer, answer]
  cases found : table.entry? name with
  | none =>
    have gone : ObjectTable.entry? (table.sweep heap).1 name = none := by
      cases left : ObjectTable.entry? (table.sweep heap).1 name with
      | none => rfl
      | some entry =>
        rw [((entry_sweep filed name entry).mp left).1] at found
        cases found
    rw [gone, Option.bind_none, Option.bind_none]
  | some entry =>
    by_cases kept : table.isTracked heap entry.address = true ∨ table.AllAlive heap
    · rw [(entry_sweep filed name entry).mpr ⟨found, kept⟩]
      simp only [isTracked_sweep filed, get?_sweep filed]
    · rw [not_or, Bool.not_eq_true] at kept
      have gone : ObjectTable.entry? (table.sweep heap).1 name = none := by
        cases left : ObjectTable.entry? (table.sweep heap).1 name with
        | none => rfl
        | some other =>
          obtain ⟨same, stays⟩ := (entry_sweep filed name other).mp left
          cases found.symm.trans same
          rcases stays with tracked | alive
          · rw [kept.1] at tracked
            cases tracked
          · exact absurd alive kept.2
      rw [gone]
      simp [kept.1]

/-- A value that lies at an address is not tracked if the address is, or if the name keeps an
entry. -/
theorem insert_eq_none_iff {id : ObjectId} {address : Address} (lies : heap.LiesAt id address)
    (name : Option String) : table.insert heap id name = none ↔
      (table.object? address).isSome = true ∨
        ∃ n entry, name = some n ∧ table.entry? n = some entry := by
  obtain ⟨⟨place, datum, owners⟩, there, rfl⟩ := lies
  simp only [insert, there, Option.bind_eq_bind, Option.bind_some]
  cases tracked : table.object? place with
  | some other => simp
  | none =>
    cases name with
    | none => simp
    | some n => cases named : table.entry? n <;> simp [named]

/-! ### Changes of the table -/

theorem filed_empty : Filed heap made {} := ⟨.nil, .nil, nofun⟩

/-- With fewer entries nothing can go wrong. -/
theorem Filed.fewer (filed : table.Filed heap made) {objects : List (Address × ObjectId)}
    {names : List (String × NameEntry)} (kept : objects.Sublist table.objects)
    (left : names.Sublist table.names) : ObjectTable.Filed heap made ⟨objects, names⟩ where
  distinct := (kept.map _).nodup filed.distinct
  single := (left.map _).nodup filed.single
  named entry member := filed.named entry (left.subset member)

theorem Filed.sweep (filed : table.Filed heap made) : (table.sweep heap).1.Filed heap made := by
  rw [ObjectTable.sweep]
  split
  · exact filed.fewer List.filter_sublist (.refl _)
  · exact filed.fewer List.filter_sublist List.filter_sublist

theorem Filed.erase (filed : table.Filed heap made) (address : Address) (alsoNames : Bool) :
    (table.erase address alsoNames).1.Filed heap made := by
  cases alsoNames with
  | false => exact filed.fewer List.filter_sublist (.refl _)
  | true => exact filed.fewer List.filter_sublist List.filter_sublist

theorem Filed.eraseName (filed : table.Filed heap made) (name : String) :
    (table.eraseName name).1.Filed heap made := by
  rw [ObjectTable.eraseName]
  cases table.entry? name with
  | none => exact filed
  | some entry => exact filed.fewer List.filter_sublist List.filter_sublist

theorem Filed.find (filed : table.Filed heap made) (name : String) (kind : Kind) :
    (table.find heap name kind).1.Filed heap made := by
  rw [ObjectTable.find]
  cases table.addressOf? name with
  | none => exact filed
  | some address =>
    dsimp only
    split
    · exact filed
    · exact filed.fewer List.filter_sublist List.filter_sublist

/-- A value that is tracked under a name is the one that the name was made for. -/
theorem Filed.insert (filed : table.Filed heap made) {id : ObjectId} {name : Option String}
    {table' : ObjectTable} (added : table.insert heap id name = some table') :
    table'.Filed heap fun n => if name = some n then some id else made n := by
  have distinct : ∀ {address}, table.object? address = none →
      (((address, id) :: table.objects).map Prod.fst).Nodup := fun free =>
    List.nodup_cons.mpr ⟨not_mem_keys_iff.mpr free, filed.distinct⟩
  cases inserts_of_insert added with
  | unnamed _ free =>
    refine ⟨distinct free, filed.single, fun entry member => ?_⟩
    simpa using filed.named entry member
  | @named allocation n there free unused =>
    have fresh : n ∉ table.names.map Prod.fst := not_mem_keys_iff.mpr unused
    refine ⟨distinct free, List.nodup_cons.mpr ⟨fresh, filed.single⟩, fun entry member => ?_⟩
    rcases List.mem_cons.mp member with rfl | old
    · exact ⟨id, if_pos rfl, _, there, rfl⟩
    · have other : ¬ some n = some entry.1 := by
        intro same
        rw [Option.some.inj same] at fresh
        exact fresh (List.mem_map_of_mem old)
      obtain ⟨id', known, lies⟩ := filed.named entry old
      exact ⟨id', (if_neg other).trans known, lies⟩

end ObjectTable

/-! ## The value for which a name was made -/

/-- The value that a bridge tracked last under a name. -/
def lastTracked (b : BridgeId) (name : String) : List Moment → Option ObjectId
  | [] => none
  | ⟨.ended (.track c id as) true, _⟩ :: earlier =>
    if c = b ∧ as = some name then some id else lastTracked b name earlier
  | _ :: earlier => lastTracked b name earlier

/-- The table of every bridge is filed by the values that were tracked. -/
def FiledTables (h : List Moment) (p : Process) : Prop :=
  ∀ b, (p.bridge b).objects.Filed p.heap fun name => lastTracked b name h

theorem lastTracked_ended {operation : Operation} (other : operation.isAboutObjects = false)
    (result : operation.Result) (p : Process) (h : List Moment) (b : BridgeId) (name : String) :
    lastTracked b name (⟨.ended operation result, p⟩ :: h) = lastTracked b name h := by
  cases operation with
  | track => cases other
  | _ => rfl

theorem ObjectTable.Filed.moves {heap heap' : Heap} {made : String → Option ObjectId}
    {table : ObjectTable} (filed : table.Filed heap made)
    (moves : ∀ id address, heap.LiesAt id address → heap'.LiesAt id address) :
    table.Filed heap' made where
  distinct := filed.distinct
  single := filed.single
  named entry member := by
    obtain ⟨id, known, lies⟩ := filed.named entry member
    exact ⟨id, known, moves id _ lies⟩

namespace Heap

variable {heap : Heap} {id : ObjectId} {address : Address}

theorem LiesAt.allocate (lies : heap.LiesAt id address) (place : Address) (datum : Datum) :
    (heap.allocate place datum).LiesAt id address := by
  obtain ⟨allocation, there, same⟩ := lies
  exact ⟨allocation, get?_allocate there place datum, same⟩

theorem LiesAt.own (lies : heap.LiesAt id address) (other : ObjectId) :
    (heap.own other).LiesAt id address := by
  obtain ⟨allocation, there, same⟩ := lies
  obtain ⟨owners, moved⟩ := get?_own there other
  exact ⟨_, moved, same⟩

theorem LiesAt.disown (lies : heap.LiesAt id address) (other : ObjectId) :
    (heap.disown other).LiesAt id address := by
  obtain ⟨allocation, there, same⟩ := lies
  obtain ⟨owners, moved⟩ := get?_disown there other
  exact ⟨_, moved, same⟩

theorem LiesAt.write (lies : heap.LiesAt id address) (other : ObjectId) (datum : Datum) :
    (heap.write other datum).LiesAt id address := by
  obtain ⟨allocation, there, same⟩ := lies
  rw [LiesAt, get?, Heap.write, List.getElem?_modify, show heap.allocations[id]? = _ from there]
  split
  · exact ⟨_, rfl, same⟩
  · exact ⟨_, rfl, same⟩

end Heap

namespace Process

variable {p p' : Process} {h : List Moment}

/-- Two states with the same tables, in which values that lie somewhere lie there still. -/
structure SameTables (p p' : Process) : Prop where
  objects : ∀ b, (p'.bridge b).objects = (p.bridge b).objects
  lies : ∀ id address, p.heap.LiesAt id address → p'.heap.LiesAt id address

theorem SameTables.updateBridge (p : Process) {b : BridgeId} {f : Bridge → Bridge}
    (keeps : (f (p.bridge b)).objects = (p.bridge b).objects) :
    SameTables p (p.updateBridge b f) :=
  ⟨view_updateBridge (·.objects) p keeps, fun _ _ lies => lies⟩

theorem SameTables.setRegistry (same : SameTables p p') (holder : Holder) (registry : Registry) :
    SameTables p (p'.setRegistry holder registry) := by
  constructor
  · intro b
    rw [view_setRegistry (·.objects) (fun _ _ => rfl), same.objects]
  · rw [heap_setRegistry]
    exact same.lies

end Process

/-- An operation that is not about objects leaves the tables alone. -/
theorem Effect.sameTables {operation : Operation} {p p' : Process}
    (other : operation.isAboutObjects = false) (h : Effect operation p p') :
    p.SameTables p' := by
  cases h with
  | bound added =>
    obtain ⟨adapters, registry, rfl⟩ := Process.register_ok added
    have more : p.SameTables { p with adapters } := ⟨fun _ => rfl, fun _ _ lies => lies⟩
    exact more.setRegistry _ registry
  | cleared _ holder =>
    have retired : p.SameTables
        { p with retired := p.retired ++ (p.registry holder).map (·.adapter) } :=
      ⟨fun _ => rfl, fun _ _ lies => lies⟩
    exact retired.setRegistry holder []
  | kept => exact ⟨fun _ => rfl, fun _ _ lies => lies⟩
  | seated _ _ id lobby => exact ⟨fun _ => rfl, fun _ _ lies => lies.write id _⟩
  | declared _ b => exact .updateBridge p rfl
  | resolved _ imported _ address => exact .updateBridge p rfl
  | heap about | objects about =>
    rw [other] at about
    cases about

namespace FiledTables

variable {h : List Moment} {p p' : Process}

theorem congr (filed : FiledTables h p) (same : p.SameTables p') : FiledTables h p' := by
  intro b
  rw [same.objects b]
  exact (filed b).moves same.lies

/-- Bringing up and tearing down leave the tables alone, but for the one that is emptied. -/
theorem hosting (filed : FiledTables h p) (step : HostingStep p p') : FiledTables h p' := by
  cases step with
  | bringUp | tell | hook | takeDown => exact filed.congr (.updateBridge p rfl)
  | claim | free | expect | expectNone | release =>
    exact filed.congr ⟨fun _ => rfl, fun _ _ lies => lies⟩
  | empty b =>
    intro c
    by_cases same : c = b
    · subst same
      rw [Process.empty, Process.bridge_updateBridge_self]
      exact ObjectTable.filed_empty
    · have retired : p.SameTables (p.clearRegistry (.bridge b)) :=
        (Effect.cleared p (.bridge b)).sameTables rfl
      rw [Process.empty, Process.bridge_updateBridge_of_ne _ same]
      exact filed.congr retired c

theorem put (filed : FiledTables h p) {b : BridgeId} {objects : ObjectTable}
    (changed : objects.Filed p.heap fun name => lastTracked b name h) :
    FiledTables h (p.putObjects b objects) := by
  intro c
  by_cases same : c = b
  · subst same
    rw [Process.objects_putObjects]
    exact changed
  · rw [Process.objects_putObjects_of_ne p same]
    exact filed c

theorem swept (filed : FiledTables h p) (b : BridgeId) : FiledTables h (p.swept b) :=
  filed.put (filed b).sweep

theorem tracked (filed : FiledTables h p) {b : BridgeId} {id : ObjectId} {name : Option String}
    {objects : ObjectTable} (added : (p.sweptObjects b).insert p.heap id name = some objects)
    (q : Process) : FiledTables (⟨.ended (.track b id name) true, q⟩ :: h)
      ((p.swept b).putObjects b objects) := by
  have filed' : ∀ c name', lastTracked c name' (⟨.ended (.track b id name) true, q⟩ :: h) =
      if b = c ∧ name = some name' then some id else lastTracked c name' h := fun _ _ => rfl
  intro c
  simp only [filed']
  by_cases same : c = b
  · subst same
    have inserted := (filed c).sweep.insert added
    rw [Process.objects_putObjects]
    simpa using inserted
  · rw [Process.objects_putObjects_of_ne _ same]
    simpa [Ne.symm same] using filed.swept b c

/-- An operation on objects, with the event of its end. -/
theorem operation {operation : Operation} {foreign : Foreign} {result : operation.Result}
    {w w' : World} (about : operation.isAboutObjects = true)
    (ran : Returns (operation.perform foreign) w result w')
    (filed : FiledTables w.history w.process) :
    FiledTables (⟨.ended operation result, w'.process⟩ :: w.history) w'.process := by
  cases operation with
  | create address datum =>
    rcases Returns.create ran with ⟨-, same⟩ | ⟨-, made⟩
    · rw [same]
      exact filed
    · rw [made]
      exact filed.congr ⟨fun _ => rfl, fun _ _ lies => lies.allocate address datum⟩
  | own id =>
    rw [Returns.updateProcess (f := fun p => { p with heap := p.heap.own id }) ran]
    exact filed.congr ⟨fun _ => rfl, fun _ _ lies => lies.own id⟩
  | disown id =>
    rw [Returns.updateProcess (f := fun p => { p with heap := p.heap.disown id }) ran]
    exact filed.congr ⟨fun _ => rfl, fun _ _ lies => lies.disown id⟩
  | track b id name =>
    rcases Returns.track ran with ⟨-, rfl, same⟩ | ⟨objects, added, rfl, put⟩
    · rw [same]
      exact filed.swept b
    · rw [put]
      exact filed.tracked added _
  | untrack b address alsoNames =>
    rw [(Returns.untrack ran).2]
    exact (filed.swept b).put ((filed b).sweep.erase address alsoNames)
  | untrackName b name =>
    rw [(Returns.untrackName ran).2]
    exact (filed.swept b).put ((filed b).sweep.eraseName name)
  | find b name kind =>
    rw [(Returns.find ran).2]
    exact filed.put ((filed b).find name kind)
  | sweep b =>
    rw [(Returns.sweep ran).2]
    exact filed.swept b
  | clearObjects b =>
    rw [Returns.setObjects ran]
    exact filed.put ObjectTable.filed_empty
  | _ => cases about

theorem start : FiledTables [] {} := by
  intro b
  exact ObjectTable.filed_empty

/-- All through every run the tables are filed. -/
theorem lasting : Lasting Operation.isAboutObjects FiledTables where
  silent _ := Operation.isSilent_of_isAboutObjects
  called _ filed := filed
  replied _ _ filed := filed
  began _ filed := filed
  ended result other filed b := by
    simp only [lastTracked_ended other]
    exact filed b
  effect other step filed := filed.congr (step.sameTables other)
  host step filed := filed.hosting step
  atOnce about ran filed := filed.operation about ran

end FiledTables

/-! ## Tracking a value -/

/-- What comes of asking a bridge to track a value at an address. -/
structure TrackAnswer (b : BridgeId) (address : Address) (name : Option String) (w : World)
    (result : Bool) (w' : World) : Prop where
  /-- Every name was made for a value where the name points. -/
  made : ∀ n entry, ObjectTable.entry? (w.process.bridge b).objects n = some entry →
    ∃ id, lastTracked b n w.history = some id ∧ w.process.heap.LiesAt id entry.address
  /-- The value is refused if its address is tracked, or for a name: one that stands for a tracked
  address, or any that is left over as long as no value in the table has died. -/
  refused : result = false ↔
    (w.process.bridge b).objects.isTracked w.process.heap address = true ∨
      ∃ n entry, name = some n ∧ ObjectTable.entry? (w.process.bridge b).objects n = some entry ∧
        ((w.process.bridge b).objects.isTracked w.process.heap entry.address = true ∨
          (w.process.bridge b).objects.AllAlive w.process.heap)
  /-- The name of a value that has died is free, if the table still has the value. -/
  reusable : ∀ n entry id, name = some n →
    ObjectTable.entry? (w.process.bridge b).objects n = some entry →
    lastTracked b n w.history = some id → w.process.heap.isAlive id = false →
    (w.process.bridge b).objects.object? entry.address = some id →
    (result = false ↔ (w.process.bridge b).objects.isTracked w.process.heap address = true)
  /-- A refusal changes no answer. -/
  unchanged : result = false → w'.process.heap = w.process.heap ∧
    (∀ place, (w'.process.bridge b).objects.isTracked w.process.heap place =
      (w.process.bridge b).objects.isTracked w.process.heap place) ∧
    (∀ place kind, (w'.process.bridge b).objects.get? w.process.heap place kind =
      (w.process.bridge b).objects.get? w.process.heap place kind) ∧
    ∀ n kind, ((w'.process.bridge b).objects.find w.process.heap n kind).2 =
      ((w.process.bridge b).objects.find w.process.heap n kind).2

section

variable {foreign : Foreign} {b : BridgeId} {id : ObjectId} {address : Address}
  {name : Option String} {w w' : World}

theorem refused_iff (filed : FiledTables w.history w.process)
    (lies : w.process.heap.LiesAt id address) {result : Bool}
    (ran : Returns (Action.track b id name) w result w') :
    result = false ↔ (w.process.bridge b).objects.isTracked w.process.heap address = true ∨
      ∃ n entry, name = some n ∧ ObjectTable.entry? (w.process.bridge b).objects n = some entry ∧
        ((w.process.bridge b).objects.isTracked w.process.heap entry.address = true ∨
          (w.process.bridge b).objects.AllAlive w.process.heap) := by
  have inserts : (w.process.sweptObjects b).insert w.process.heap id name = none ↔ _ :=
    ObjectTable.insert_eq_none_iff lies name
  rw [Process.sweptObjects, ObjectTable.isSome_object?_sweep (filed b)] at inserts
  simp only [ObjectTable.entry_sweep (filed b)] at inserts
  rcases Returns.track ran with ⟨none, rfl, -⟩ | ⟨objects, added, rfl, -⟩
  · exact iff_of_true rfl (inserts.mp none)
  · refine iff_of_false nofun fun reason => ?_
    rw [Process.sweptObjects, inserts.mpr reason] at added
    cases added

/-- In every reached world, a bridge answers as `TrackAnswer` says when it is asked to track a
value. -/
theorem track_refusals (reached : w.Reached) (lies : w.process.heap.LiesAt id address)
    (b : BridgeId) (name : Option String) (foreign : Foreign) :
    ∃ result w', Returns ((Operation.track b id name).run foreign) w result w' ∧
      TrackAnswer b address name w result w' := by
  have filed : FiledTables w.history w.process :=
    (reached.lasting FiledTables.start FiledTables.lasting).now
  obtain ⟨result, w', ran⟩ := Returns.exists ((Operation.track b id name).run foreign) w
  refine ⟨result, w', ran, ?_⟩
  obtain ⟨w₁, performed, rfl⟩ := ran.run
  have began : FiledTables (w.after (.began (.track b id name))).history w.process := filed
  have reasons := refused_iff (w := w.after _) began lies performed
  refine ⟨fun n entry found => (filed b).named (n, entry) (mem_of_lookup found), reasons, ?_, ?_⟩
  · intro n entry made named found last dead own
    -- The table still has the dead value, so it is swept, and its name with it.
    have untracked :
        (w.process.bridge b).objects.isTracked w.process.heap entry.address = false := by
      rw [ObjectTable.isTracked, own]
      exact dead
    have died : ¬ (w.process.bridge b).objects.AllAlive w.process.heap := by
      intro alive
      have lives := alive _ (mem_of_lookup own)
      rw [dead] at lives
      cases lives
    rw [reasons]
    refine ⟨fun reason => reason.resolve_right ?_, .inl⟩
    rintro ⟨n', entry', named', found', kept⟩
    cases named.symm.trans named'
    cases found.symm.trans found'
    rcases kept with tracked | alive
    · exact Bool.false_ne_true (untracked.symm.trans tracked)
    · exact died alive
  · intro refused
    rcases Returns.track performed with ⟨-, -, swept⟩ | ⟨objects, -, accepted, -⟩
    · have heap : w₁.process.heap = w.process.heap := by
        rw [swept]
        rfl
      have table : (w₁.process.bridge b).objects =
          ((w.process.bridge b).objects.sweep w.process.heap).1 := by
        rw [swept, Process.objects_swept]
        rfl
      refine ⟨heap, fun place => ?_, fun place kind => ?_, fun n kind => ?_⟩
      · exact table ▸ ObjectTable.isTracked_sweep (filed b) place
      · exact table ▸ ObjectTable.get?_sweep (filed b) place kind
      · exact table ▸ ObjectTable.find_sweep (filed b) n kind
    · rw [refused] at accepted
      cases accepted

end

/-- A number is tracked under a name, the bridge stops tracking it and keeps the name, and the
number dies; then there is another number. -/
def leftoverName : Conduct Unit := do
  let _ ← Conduct.doing (.create 8 (.number 1))
  let _ ← Conduct.doing (.track 0 0 (some "x"))
  let _ ← Conduct.doing (.untrack 0 8 false)
  let _ ← Conduct.doing (.disown 0)
  let _ ← Conduct.doing (.create 16 (.number 2))

/-- The world after that. -/
def nameLeftOver : World :=
  Outside.leads (fun _ call => .reply call.inertReply) 0 leftoverName {} []

theorem nameLeftOver_reached : nameLeftOver.Reached := .atEnd _ _ _ _ _ rfl rfl

theorem second_number_lies : nameLeftOver.process.heap.LiesAt 1 16 := ⟨_, rfl, rfl⟩

theorem second_number_answered :
    nameLeftOver.Reached ∧ nameLeftOver.process.heap.LiesAt 1 16 ∧
      ∃ result w', Returns ((Operation.track 0 1 (some "x")).run fun call => pure call.inertReply)
        nameLeftOver result w' ∧ TrackAnswer 0 16 (some "x") nameLeftOver result w' :=
  ⟨nameLeftOver_reached, second_number_lies,
    track_refusals nameLeftOver_reached second_number_lies 0 (some "x") _⟩

/-- The other number is refused under the name, although it is not tracked and the value for which
the name was made has died. -/
theorem leftover_name_refused :
    nameLeftOver.Reached ∧ nameLeftOver.process.heap.isAlive 1 = true ∧
      nameLeftOver.process.heap.LiesAt 1 16 ∧
      ¬ ∀ result w', Returns ((Operation.track 0 1 (some "x")).run fun call =>
          pure call.inertReply) nameLeftOver result w' → result = false →
        (nameLeftOver.process.bridge 0).objects.isTracked nameLeftOver.process.heap 16 = true ∨
          ∃ made, lastTracked 0 "x" nameLeftOver.history = some made ∧
            nameLeftOver.process.heap.isAlive made = true := by
  refine ⟨nameLeftOver_reached, by decide +kernel, second_number_lies, fun claimed => ?_⟩
  have refused : (((Operation.track 0 1 (some "x")).run fun call =>
      pure call.inertReply).run nameLeftOver).1 = false := by decide +kernel
  have last : lastTracked 0 "x" nameLeftOver.history = some 0 := by decide +kernel
  rcases claimed _ _ (.intro _ _) refused with tracked | ⟨made, named, alive⟩
  · revert tracked
    decide +kernel
  · cases last.symm.trans named
    revert alive
    decide +kernel

end ManagedHost
