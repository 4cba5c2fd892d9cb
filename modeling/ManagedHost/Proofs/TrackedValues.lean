import ManagedHost.Proofs.Effects

/-! # Tracked values are not lost

Once a bridge tracks a value under a name, it does so until the value dies or somebody says that it
is not to be tracked: nothing that is done about other values and names, and no death of another
value, makes a difference (`tracked_value_stays`). The table of a bridge is changed in five ways;
there is one lemma for each (`Holds.sweep` to `Holds.find`), and one for each operation. -/

namespace ManagedHost

open ManagedHost.Action

theorem lookup_filter {κ α : Type} [BEq κ] [LawfulBEq κ] {entries : List (κ × α)} {key : κ}
    {value : α} {keep : κ × α → Bool} (found : entries.lookup key = some value)
    (kept : keep (key, value) = true) : (entries.filter keep).lookup key = some value := by
  induction entries with
  | nil => cases found
  | cons entry rest ih =>
    obtain ⟨k, v⟩ := entry
    by_cases same : key = k
    · subst same
      obtain rfl : v = value := by simpa using found
      simp [kept]
    · have later : rest.lookup key = some value := by
        simpa [List.lookup_cons, beq_false_of_ne same] using found
      rw [List.filter_cons]
      split
      · simp [List.lookup_cons, beq_false_of_ne same, ih later]
      · exact ih later

theorem mem_of_lookup {κ α : Type} [BEq κ] [LawfulBEq κ] {entries : List (κ × α)} {key : κ}
    {value : α} (found : entries.lookup key = some value) : (key, value) ∈ entries := by
  induction entries with
  | nil => cases found
  | cons entry rest ih =>
    obtain ⟨k, v⟩ := entry
    by_cases same : key = k
    · subst same
      obtain rfl : v = value := by simpa using found
      exact List.mem_cons_self
    · refine List.mem_cons_of_mem _ (ih ?_)
      simpa [List.lookup_cons, beq_false_of_ne same] using found

/-! ## The table -/

namespace ObjectTable

/-- The table has the value at the address, and the name stands for it. -/
structure Holds (table : ObjectTable) (id : ObjectId) (name : String) (entry : NameEntry) :
    Prop where
  object : table.object? entry.address = some id
  named : table.entry? name = some entry

variable {heap : Heap} {table : ObjectTable} {id : ObjectId} {name : String} {entry : NameEntry}

theorem Holds.isTracked (h : table.Holds id name entry) (alive : heap.isAlive id = true) :
    table.isTracked heap entry.address = true := by
  rw [ObjectTable.isTracked, h.object]
  exact alive

theorem Holds.addressOf? (h : table.Holds id name entry) :
    table.addressOf? name = some entry.address := by
  rw [ObjectTable.addressOf?, h.named]
  rfl

theorem Holds.get? {allocation : Allocation} (h : table.Holds id name entry)
    (there : heap.get? id = some allocation) (alive : heap.isAlive id = true) (kind : Kind) :
    table.get? heap entry.address kind =
      if kind = allocation.datum.kind then some id else none := by
  have owned : 0 < allocation.owners := by
    simpa [Heap.isAlive, there] using alive
  simp only [ObjectTable.get?, h.object, there, Option.bind_eq_bind, Option.bind_some, owned,
    decide_true, Bool.true_and, decide_eq_true_eq]
  simp only [eq_comm]

theorem Holds.sweep (h : table.Holds id name entry) (alive : heap.isAlive id = true) :
    (table.sweep heap).1.Holds id name entry := by
  rw [ObjectTable.sweep]
  split
  · exact ⟨lookup_filter h.object alive, h.named⟩
  · refine ⟨lookup_filter h.object alive, lookup_filter h.named ?_⟩
    rw [List.any_eq_true]
    exact ⟨_, mem_of_lookup (lookup_filter h.object alive), beq_self_eq_true _⟩

theorem Holds.erase (h : table.Holds id name entry) {address : Address}
    (other : address ≠ entry.address) (alsoNames : Bool) :
    (table.erase address alsoNames).1.Holds id name entry := by
  constructor
  · exact lookup_filter h.object (by simpa using other.symm)
  · cases alsoNames with
    | false => exact h.named
    | true => exact lookup_filter h.named (by simpa using other.symm)

theorem Holds.without (h : table.Holds id name entry) {other : String} {address : Address}
    (apart : address ≠ entry.address) (differs : name ≠ other) :
    ObjectTable.Holds ⟨table.objects.filter (·.1 ≠ address), table.names.filter (·.1 ≠ other)⟩
      id name entry :=
  ⟨lookup_filter h.object (by simpa using apart.symm),
    lookup_filter h.named (by simpa using differs)⟩

theorem Holds.ne_of_address (h : table.Holds id name entry) {other : String}
    (apart : table.addressOf? other ≠ some entry.address) : name ≠ other := by
  rintro rfl
  exact apart h.addressOf?

theorem Holds.eraseName (h : table.Holds id name entry) {other : String}
    (apart : table.addressOf? other ≠ some entry.address) :
    (table.eraseName other).1.Holds id name entry := by
  rw [ObjectTable.eraseName]
  cases found : table.entry? other with
  | none => exact h
  | some there =>
    refine h.without (fun same => apart ?_) (h.ne_of_address apart)
    rw [ObjectTable.addressOf?, found, ← same]
    rfl

theorem Holds.find (h : table.Holds id name entry) (alive : heap.isAlive id = true)
    (other : String) (kind : Kind) : (table.find heap other kind).1.Holds id name entry := by
  rw [ObjectTable.find]
  cases found : table.addressOf? other with
  | none => exact h
  | some address =>
    dsimp only
    split
    · exact h
    · next dead =>
      -- The value is alive, so what the other name stands for is elsewhere.
      have apart : address ≠ entry.address := by
        rintro rfl
        exact dead (h.isTracked alive)
      refine h.without apart (h.ne_of_address ?_)
      rw [found]
      exact fun same => apart (Option.some.inj same)

theorem Holds.find_eq (h : table.Holds id name entry) (alive : heap.isAlive id = true)
    (kind : Kind) : (table.find heap name kind).2 = table.get? heap entry.address kind := by
  rw [ObjectTable.find, h.addressOf?]
  simp only [h.isTracked alive, if_true]

/-- A value is tracked, with its name, where nothing was. -/
inductive Inserts (heap : Heap) (table : ObjectTable) (id : ObjectId) :
    Option String → ObjectTable → Prop
  | unnamed {allocation : Allocation} (there : heap.get? id = some allocation)
      (free : table.object? allocation.address = none) :
      Inserts heap table id none
        { table with objects := (allocation.address, id) :: table.objects }
  | named {allocation : Allocation} {name : String} (there : heap.get? id = some allocation)
      (free : table.object? allocation.address = none) (unused : table.entry? name = none) :
      Inserts heap table id (some name) ⟨(allocation.address, id) :: table.objects,
        (name, ⟨allocation.address, allocation.datum.kind.typeName⟩) :: table.names⟩

theorem inserts_of_insert {as : Option String} {table' : ObjectTable}
    (added : table.insert heap id as = some table') : table.Inserts heap id as table' := by
  unfold ObjectTable.insert at added
  cases there : heap.get? id with
  | none =>
    rw [there] at added
    cases added
  | some allocation =>
    obtain ⟨address, datum, owners⟩ := allocation
    simp only [there, Option.bind_eq_bind, Option.bind_some] at added
    split at added
    · cases added
    · next free =>
      have free := Option.not_isSome_iff_eq_none.mp free
      cases as with
      | none =>
        cases added
        exact .unnamed there free
      | some as =>
        dsimp only at added
        split at added
        · cases added
        · next unused =>
          cases added
          exact .named there free (Option.not_isSome_iff_eq_none.mp unused)

theorem Holds.insert (h : table.Holds id name entry) {other : ObjectId} {as : Option String}
    {table' : ObjectTable} (added : table.insert heap other as = some table') :
    table'.Holds id name entry := by
  have object : ∀ {address}, table.object? address = none →
      ((address, other) :: table.objects).lookup entry.address = some id := by
    intro address free
    have apart : entry.address ≠ address := by
      rintro rfl
      cases h.object.symm.trans free
    rw [List.lookup_cons, beq_false_of_ne apart]
    exact h.object
  cases inserts_of_insert added with
  | unnamed _ free => exact ⟨object free, h.named⟩
  | @named allocation as _ free unused =>
    have differs : name ≠ as := by
      rintro rfl
      cases h.named.symm.trans unused
    refine ⟨object free, ?_⟩
    rw [ObjectTable.entry?, List.lookup_cons, beq_false_of_ne differs]
    exact h.named

/-- A value that was just tracked under a name is held. -/
theorem holds_of_insert {table' : ObjectTable}
    (added : table.insert heap id (some name) = some table') :
    ∃ allocation, heap.get? id = some allocation ∧
      table'.Holds id name ⟨allocation.address, allocation.datum.kind.typeName⟩ := by
  cases inserts_of_insert added with
  | named there => exact ⟨_, there, List.lookup_cons_self, List.lookup_cons_self⟩

/-- A value is not tracked where one is already. -/
theorem Holds.insert_there {allocation : Allocation} (h : table.Holds id name entry)
    (there : heap.get? id = some allocation) (same : allocation.address = entry.address)
    (as : Option String) : table.insert heap id as = none := by
  obtain ⟨address, datum, owners⟩ := allocation
  obtain rfl : address = entry.address := same
  simp [ObjectTable.insert, there, h.object]

/-- A name that is in use is not given to another value. -/
theorem Holds.insert_named (h : table.Holds id name entry) (other : ObjectId) :
    table.insert heap other (some name) = none := by
  unfold ObjectTable.insert
  cases heap.get? other with
  | none => rfl
  | some allocation =>
    simp only [Option.bind_eq_bind, Option.bind_some, h.named, Option.isSome_some, if_true,
      ite_self]

end ObjectTable

/-! ## The process -/

namespace Process

/-- The process with another table of tracked objects for a bridge. -/
def putObjects (p : Process) (b : BridgeId) (objects : ObjectTable) : Process :=
  p.updateBridge b fun bridge => { bridge with objects }

/-- The table of a bridge without the dead values. -/
def sweptObjects (p : Process) (b : BridgeId) : ObjectTable :=
  ((p.bridge b).objects.sweep p.heap).1

/-- The process without the dead values in the table of a bridge. -/
def swept (p : Process) (b : BridgeId) : Process := p.putObjects b (p.sweptObjects b)

@[simp] theorem heap_putObjects (p : Process) (b : BridgeId) (objects : ObjectTable) :
    (p.putObjects b objects).heap = p.heap := rfl

@[simp] theorem objects_putObjects (p : Process) (b : BridgeId) (objects : ObjectTable) :
    ((p.putObjects b objects).bridge b).objects = objects := by
  simp [putObjects]

theorem objects_putObjects_of_ne (p : Process) {b c : BridgeId} (h : b ≠ c)
    (objects : ObjectTable) : ((p.putObjects c objects).bridge b).objects =
      (p.bridge b).objects := by
  rw [putObjects, bridge_updateBridge_of_ne p h]

@[simp] theorem heap_swept (p : Process) (b : BridgeId) : (p.swept b).heap = p.heap := rfl

@[simp] theorem objects_swept (p : Process) (b : BridgeId) :
    ((p.swept b).bridge b).objects = p.sweptObjects b := by
  simp [swept]

/-- A bridge tracks a value, which is of a kind and lies at an address, under a name. -/
structure Tracks (p : Process) (b : BridgeId) (id : ObjectId) (name : String) (address : Address)
    (kind : Kind) : Prop where
  allocated : ∃ allocation, p.heap.get? id = some allocation ∧ allocation.address = address ∧
    allocation.datum.kind = kind
  held : (p.bridge b).objects.Holds id name ⟨address, kind.typeName⟩

variable {p : Process} {b c : BridgeId} {id : ObjectId} {name : String} {address : Address}
  {kind : Kind}

theorem Tracks.putObjects (h : p.Tracks b id name address kind) {objects : ObjectTable}
    (held : c = b → objects.Holds id name ⟨address, kind.typeName⟩) :
    (p.putObjects c objects).Tracks b id name address kind := by
  refine ⟨h.allocated, ?_⟩
  by_cases same : c = b
  · subst same
    rw [objects_putObjects]
    exact held rfl
  · rw [objects_putObjects_of_ne p (Ne.symm same)]
    exact h.held

theorem Tracks.swept (h : p.Tracks b id name address kind) (alive : p.heap.isAlive id = true)
    (c : BridgeId) : (p.swept c).Tracks b id name address kind := by
  refine h.putObjects ?_
  rintro rfl
  exact h.held.sweep alive

theorem Tracks.heap (h : p.Tracks b id name address kind) {heap : Heap}
    (stays : ∀ allocation, p.heap.get? id = some allocation → ∃ owners,
      heap.get? id = some { allocation with owners }) :
    ({ p with heap } : Process).Tracks b id name address kind := by
  obtain ⟨allocation, there, lies, isOf⟩ := h.allocated
  obtain ⟨owners, moved⟩ := stays allocation there
  exact ⟨⟨_, moved, lies, isOf⟩, h.held⟩

end Process

namespace Heap

variable {heap : Heap} {id other : ObjectId} {allocation : Allocation}

theorem get?_allocate (there : heap.get? id = some allocation) (address : Address) (datum : Datum) :
    (heap.allocate address datum).get? id = some allocation := by
  rw [get?, allocate, List.getElem?_append_left (List.getElem?_eq_some_iff.mp there).1]
  exact there

theorem get?_own (there : heap.get? id = some allocation) (other : ObjectId) :
    ∃ owners, (heap.own other).get? id = some { allocation with owners } := by
  rw [get?, own, List.getElem?_modify, show heap.allocations[id]? = _ from there]
  split
  · exact ⟨_, rfl⟩
  · exact ⟨allocation.owners, rfl⟩

theorem get?_disown (there : heap.get? id = some allocation) (other : ObjectId) :
    ∃ owners, (heap.disown other).get? id = some { allocation with owners } := by
  rw [get?, disown, List.getElem?_modify, show heap.allocations[id]? = _ from there]
  split
  · exact ⟨_, rfl⟩
  · exact ⟨allocation.owners, rfl⟩

end Heap

/-! ## The operations -/

namespace Action

variable {b : BridgeId} {id : ObjectId} {w w' : World}

theorem Returns.setObjects {objects : ObjectTable} {u : Unit}
    (h : Returns (setObjects b objects) w u w') : w'.process = w.process.putObjects b objects :=
  congrArg World.process (Returns.updateBridge h)

theorem Returns.sweep {removed : Nat} (h : Returns (sweep b) w removed w') :
    removed = ((w.process.bridge b).objects.sweep w.process.heap).2 ∧
      w'.process = w.process.swept b := by
  unfold Action.sweep at h
  obtain ⟨found, w₁, hb, h⟩ := Returns.bind h
  obtain ⟨rfl, rfl⟩ := Returns.bridge hb
  obtain ⟨p, w₂, hp, h⟩ := Returns.bind h
  obtain ⟨rfl, rfl⟩ := Returns.process hp
  obtain ⟨u, w₃, hs, h⟩ := Returns.bind h
  have swept : w₃.process = w₂.process.swept b := hs.setObjects
  dsimp only at h
  split at h
  · obtain ⟨u, w₄, hl, h⟩ := Returns.bind h
    obtain ⟨told, rfl⟩ := Returns.pure h
    exact ⟨told, hl.log.1.trans swept⟩
  · obtain ⟨told, rfl⟩ := Returns.pure h
    exact ⟨told, swept⟩

theorem Returns.track {name : Option String} {tracked : Bool}
    (h : Returns (track b id name) w tracked w') :
    ((w.process.sweptObjects b).insert w.process.heap id name = none ∧ tracked = false ∧
      w'.process = w.process.swept b) ∨
    ∃ objects, (w.process.sweptObjects b).insert w.process.heap id name = some objects ∧
      tracked = true ∧ w'.process = (w.process.swept b).putObjects b objects := by
  unfold Action.track at h
  obtain ⟨u, w₁, hs, h⟩ := Returns.bind h
  obtain ⟨removed, hs⟩ := hs.discard
  have swept := hs.sweep.2
  obtain ⟨p, w₂, hp, h⟩ := Returns.bind h
  obtain ⟨rfl, rfl⟩ := Returns.process hp
  obtain ⟨found, w₃, hb, h⟩ := Returns.bind h
  obtain ⟨rfl, rfl⟩ := Returns.bridge hb
  rw [swept, Process.objects_swept, Process.heap_swept] at h
  cases added : (w.process.sweptObjects b).insert w.process.heap id name with
  | none =>
    rw [added] at h
    obtain ⟨rfl, rfl⟩ := Returns.pure h
    exact .inl ⟨rfl, rfl, swept⟩
  | some objects =>
    rw [added] at h
    obtain ⟨u, w₄, hp, h⟩ := Returns.bind h
    obtain ⟨u, w₅, hl, h⟩ := Returns.bind h
    obtain ⟨rfl, rfl⟩ := Returns.pure h
    exact .inr ⟨objects, rfl, rfl, by rw [hl.log.1, hp.setObjects, swept]⟩

/-- A change of the table of a bridge that is swept before. -/
theorem Returns.changed {α : Type} {f : ObjectTable → ObjectTable × α} {result : α}
    (h : Returns (do
      Functor.discard (Action.sweep b)
      let (objects, answer) := f (← Action.bridge b).objects
      Action.setObjects b objects
      return answer) w result w') :
    result = (f (w.process.sweptObjects b)).2 ∧
      w'.process = (w.process.swept b).putObjects b (f (w.process.sweptObjects b)).1 := by
  obtain ⟨u, w₁, hs, h⟩ := Returns.bind h
  obtain ⟨n, hs⟩ := hs.discard
  have swept := hs.sweep.2
  obtain ⟨found, w₂, hb, h⟩ := Returns.bind h
  obtain ⟨rfl, rfl⟩ := Returns.bridge hb
  obtain ⟨u, w₃, hp, h⟩ := Returns.bind h
  obtain ⟨answers, rfl⟩ := Returns.pure h
  have put := hp.setObjects
  rw [swept, Process.objects_swept] at put answers
  exact ⟨answers, put⟩

theorem Returns.untrack {address : Address} {alsoNames removed : Bool}
    (h : Returns (untrack b address alsoNames) w removed w') :
    removed = ((w.process.sweptObjects b).erase address alsoNames).2 ∧
      w'.process = (w.process.swept b).putObjects b
        ((w.process.sweptObjects b).erase address alsoNames).1 :=
  Returns.changed (f := fun table => table.erase address alsoNames) h

theorem Returns.untrackName {name : String} {removed : Bool}
    (h : Returns (untrackName b name) w removed w') :
    removed = ((w.process.sweptObjects b).eraseName name).2 ∧
      w'.process = (w.process.swept b).putObjects b
        ((w.process.sweptObjects b).eraseName name).1 :=
  Returns.changed (f := fun table => table.eraseName name) h

theorem Returns.find {name : String} {kind : Kind} {found : Option ObjectId}
    (h : Returns (find b name kind) w found w') :
    found = ((w.process.bridge b).objects.find w.process.heap name kind).2 ∧
      w'.process = w.process.putObjects b
        ((w.process.bridge b).objects.find w.process.heap name kind).1 := by
  cases h
  exact ⟨rfl, rfl⟩

theorem Returns.create {address : Address} {datum : Datum} {made : Option ObjectId}
    (h : Returns (create address datum) w made w') :
    made = none ∧ w'.process = w.process ∨ made = some w.process.heap.nextId ∧
      w'.process = { w.process with heap := w.process.heap.allocate address datum } := by
  unfold Action.create at h
  obtain ⟨p, w₁, hp, h⟩ := Returns.bind h
  obtain ⟨rfl, rfl⟩ := Returns.process hp
  split at h
  · obtain ⟨rfl, rfl⟩ := Returns.pure h
    exact .inl ⟨rfl, rfl⟩
  · obtain ⟨u, w₂, hu, h⟩ := Returns.bind h
    obtain ⟨rfl, rfl⟩ := Returns.pure h
    exact .inr ⟨rfl, congrArg World.process hu.updateProcess⟩

end Action

namespace Operation

/-- The operation does not ask a bridge to forget what it tracks at an address: it neither stops
tracking that address nor a name that stands for it, and does not clear the table. -/
def Spares (p : Process) (b : BridgeId) (address : Address) : Operation → Prop
  | untrack c other _ => c = b → other ≠ address
  | untrackName c name => c = b →
      ∀ entry, (name, entry) ∈ (p.bridge b).objects.names → entry.address ≠ address
  | clearObjects c => c ≠ b
  | _ => True

end Operation

theorem Action.Returns.run {foreign : Foreign} {operation : Operation} {result : operation.Result}
    {w w' : World} (h : Returns (operation.run foreign) w result w') :
    ∃ w₁, Returns (operation.perform foreign) (w.after (.began operation)) result w₁ ∧
      w' = w₁.after (.ended operation result) := by
  cases h
  exact ⟨_, .intro _ _, rfl⟩

namespace ObjectTable

theorem names_sweep {heap : Heap} {table : ObjectTable} {named : String × NameEntry}
    (h : named ∈ (table.sweep heap).1.names) : named ∈ table.names := by
  rw [sweep] at h
  split at h
  · exact h
  · exact (List.mem_filter.mp h).1

end ObjectTable

section

variable {foreign : Foreign} {b : BridgeId} {id : ObjectId} {name : String} {address : Address}
  {kind : Kind} {w w' : World}

/-- An operation that spares a tracked value leaves it tracked. -/
theorem Process.Tracks.perform (h : w.process.Tracks b id name address kind)
    (alive : w.process.heap.isAlive id = true) {operation : Operation} {result : operation.Result}
    (about : operation.isAboutObjects = true) (spares : operation.Spares w.process b address)
    (ran : Returns (operation.perform foreign) w result w') :
    w'.process.Tracks b id name address kind := by
  have swept := fun c => h.swept alive c
  cases operation with
  | create other datum =>
    rcases Returns.create ran with ⟨-, same⟩ | ⟨-, made⟩
    · rwa [same]
    · rw [made]
      exact h.heap fun allocation there =>
        ⟨allocation.owners, Heap.get?_allocate there other datum⟩
  | own other =>
    have owned := Returns.updateProcess (f := fun p => { p with heap := p.heap.own other }) ran
    rw [owned]
    exact h.heap fun _ there => Heap.get?_own there other
  | disown other =>
    have given := Returns.updateProcess (f := fun p => { p with heap := p.heap.disown other }) ran
    rw [given]
    exact h.heap fun _ there => Heap.get?_disown there other
  | sweep c =>
    rw [(Returns.sweep ran).2]
    exact swept c
  | track c other as =>
    rcases Returns.track ran with ⟨-, -, same⟩ | ⟨objects, added, -, put⟩
    · rw [same]
      exact swept c
    · rw [put]
      refine (swept c).putObjects ?_
      rintro rfl
      have held := (swept c).held
      rw [Process.objects_swept] at held
      exact held.insert added
  | untrack c other alsoNames =>
    rw [(Returns.untrack ran).2]
    refine (swept c).putObjects ?_
    rintro rfl
    have held := (swept c).held
    rw [Process.objects_swept] at held
    exact held.erase (spares rfl) alsoNames
  | untrackName c other =>
    rw [(Returns.untrackName ran).2]
    refine (swept c).putObjects ?_
    rintro rfl
    have held := (swept c).held
    rw [Process.objects_swept] at held
    refine held.eraseName fun stands => ?_
    obtain ⟨entry, found, there⟩ := Option.map_eq_some_iff.mp stands
    exact spares rfl entry (ObjectTable.names_sweep (mem_of_lookup found)) there
  | find c other kind =>
    rw [(Returns.find ran).2]
    refine h.putObjects ?_
    rintro rfl
    exact h.held.find alive other kind
  | clearObjects c =>
    rw [Returns.setObjects ran]
    exact h.putObjects fun same => absurd same spares
  | _ => cases about

theorem Process.Tracks.run (h : w.process.Tracks b id name address kind)
    (alive : w.process.heap.isAlive id = true) {operation : Operation} {result : operation.Result}
    (about : operation.isAboutObjects = true) (spares : operation.Spares w.process b address)
    (ran : Returns (operation.run foreign) w result w') :
    w'.process.Tracks b id name address kind := by
  obtain ⟨w₁, performed, rfl⟩ := ran.run
  have before : (w.after (.began operation)).process.Tracks b id name address kind := h
  have after := before.perform alive about spares performed
  exact after

/-- A value that was just tracked under a name is tracked. -/
theorem tracks_of_track (ran : Returns ((Operation.track b id (some name)).run foreign) w true w') :
    ∃ allocation, w'.process.heap.get? id = some allocation ∧
      w'.process.Tracks b id name allocation.address allocation.datum.kind := by
  obtain ⟨w₁, performed, rfl⟩ := ran.run
  rcases Returns.track performed with ⟨-, nothing, -⟩ | ⟨objects, added, -, put⟩
  · cases nothing
  · obtain ⟨allocation, there, held⟩ := ObjectTable.holds_of_insert added
    change ∃ allocation, w₁.process.heap.get? id = some allocation ∧
      w₁.process.Tracks b id name allocation.address allocation.datum.kind
    rw [put]
    refine ⟨allocation, there, ⟨allocation, there, rfl, rfl⟩, ?_⟩
    rw [Process.objects_putObjects]
    exact held

end

/-- A run of operations on objects that spares a value which a bridge tracks at an address, and
all through which the value is alive. -/
inductive SparingRun (foreign : Foreign) (b : BridgeId) (id : ObjectId) (address : Address)
    (w : World) : World → Prop
  | start (alive : w.process.heap.isAlive id = true) : SparingRun foreign b id address w w
  | step {w₁ w₂ : World} {operation : Operation} {result : operation.Result}
      (before : SparingRun foreign b id address w w₁)
      (about : operation.isAboutObjects = true)
      (spares : operation.Spares w₁.process b address)
      (ran : Returns (operation.run foreign) w₁ result w₂)
      (alive : w₂.process.heap.isAlive id = true) : SparingRun foreign b id address w w₂

/-- What a bridge answers about a value that it tracks. -/
structure Recalls (foreign : Foreign) (b : BridgeId) (id : ObjectId) (name : String)
    (allocation : Allocation) (w : World) : Prop where
  isTracked : (w.process.bridge b).objects.isTracked w.process.heap allocation.address = true
  addressOf : (w.process.bridge b).objects.addressOf? name = some allocation.address
  get : ∀ kind, (w.process.bridge b).objects.get? w.process.heap allocation.address kind =
    if kind = allocation.datum.kind then some id else none
  find : ∀ kind, ∃ w', Returns ((Operation.find b name kind).run foreign) w
    (if kind = allocation.datum.kind then some id else none) w'
  /-- The value is not tracked once more, under whatever name. -/
  trackAgain : ∀ other, ∃ w', Returns ((Operation.track b id other).run foreign) w false w'
  /-- The name is not given to another value. -/
  trackOther : ∀ other, ∃ w', Returns ((Operation.track b other (some name)).run foreign) w false w'

section

variable {foreign : Foreign} {b : BridgeId} {id : ObjectId} {name : String} {w w₁ : World}

theorem Process.Tracks.recalls {allocation : Allocation}
    (h : w.process.Tracks b id name allocation.address allocation.datum.kind)
    (alive : w.process.heap.isAlive id = true) : Recalls foreign b id name allocation w := by
  obtain ⟨current, there, lies, isOf⟩ := h.allocated
  have get : ∀ kind, (w.process.bridge b).objects.get? w.process.heap allocation.address kind =
      if kind = allocation.datum.kind then some id else none := by
    intro kind
    rw [← isOf]
    exact h.held.get? there alive kind
  have refused : ∀ other as, (w.process.sweptObjects b).insert w.process.heap other as = none →
      ∃ w', Returns ((Operation.track b other as).run foreign) w false w' := by
    intro other as nothing
    obtain ⟨result, w', ran⟩ := Returns.exists ((Operation.track b other as).run foreign) w
    obtain ⟨w₁, performed, rfl⟩ := ran.run
    rcases Returns.track performed with ⟨-, rfl, -⟩ | ⟨objects, added, -, -⟩
    · exact ⟨_, ran⟩
    · cases nothing.symm.trans added
  have held := h.held.sweep alive
  refine ⟨h.held.isTracked alive, h.held.addressOf?, get, fun kind => ?_,
    fun as => refused id as (held.insert_there there lies as),
    fun other => refused other _ (held.insert_named other)⟩
  obtain ⟨result, w', ran⟩ := Returns.exists ((Operation.find b name kind).run foreign) w
  obtain ⟨w₁, performed, rfl⟩ := ran.run
  obtain ⟨rfl, -⟩ := Returns.find performed
  have found := h.held.find_eq alive kind
  rw [get kind] at found
  rw [← found]
  exact ⟨_, ran⟩

/-- Once a value was tracked under a name, the bridge recalls it, as long as it lives and nobody
asks the bridge to forget it. -/
theorem tracked_value_stays
    (tracked : Returns ((Operation.track b id (some name)).run foreign) w true w₁) :
    ∃ allocation, w₁.process.heap.get? id = some allocation ∧
      ∀ w₂, SparingRun foreign b id allocation.address w₁ w₂ →
        Recalls foreign b id name allocation w₂ := by
  obtain ⟨allocation, there, tracks⟩ := tracks_of_track tracked
  refine ⟨allocation, there, fun w₂ run => ?_⟩
  -- Induction on the run: every world of it tracks the value, which is alive there.
  have both : w₂.process.Tracks b id name allocation.address allocation.datum.kind ∧
      w₂.process.heap.isAlive id = true := by
    induction run with
    | start alive => exact ⟨tracks, alive⟩
    | step before about spares ran alive ih => exact ⟨ih.1.run ih.2 about spares ran, alive⟩
  exact both.1.recalls both.2

end

/-- The world after an operation for which nothing outside the program is called. -/
def World.doing (w : World) (operation : Operation) : World :=
  ((operation.run fun call => pure call.inertReply).run w).2

/-- A number is tracked. -/
def numberTracked : World :=
  (({} : World).doing (.create 8 (.number 5))).doing (.track 0 0 (some "number"))

/-- A text is tracked too, and then dies. -/
def textDied : World :=
  ((numberTracked.doing (.create 16 (.text "text"))).doing (.track 0 1 (some "text"))).doing
    (.disown 1)

theorem number_stays_tracked :
    ∃ allocation, numberTracked.process.heap.get? 0 = some allocation ∧
      Recalls (fun call => pure call.inertReply) 0 0 "number" allocation
        (textDied.doing (.find 0 "text" .text)) := by
  have tracked : Returns ((Operation.track 0 0 (some "number")).run fun call =>
      pure call.inertReply) (({} : World).doing (.create 8 (.number 5))) true numberTracked := by
    rfl
  obtain ⟨allocation, there, stays⟩ := tracked_value_stays tracked
  refine ⟨allocation, there, stays _ ?_⟩
  refine .step (.step (.step (.step (.start ?_) ?_ ?_ (.intro _ _) ?_) ?_ ?_ (.intro _ _) ?_)
    ?_ ?_ (.intro _ _) ?_) ?_ ?_ (.intro _ _) ?_
  all_goals trivial

end ManagedHost
