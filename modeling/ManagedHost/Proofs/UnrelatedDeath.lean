import ManagedHost.Proofs.OtherObjects

/-! # The death of one value among others

Two runs carry out the same operations on objects, none of which is about a given value, its address
or its own name; but the owners of that value come and go as they like, and differently in the two
(`Twins`). As long as no sweep upsets only one of the runs, every answer about other values and names
is the same in both (`unrelated_death`). -/

namespace ManagedHost

open ManagedHost.Action

/-! ## The heap -/

namespace Heap

variable {heap heap' : Heap} {id other : ObjectId} {address place : Address}

/-- The heap with a change of one allocation. -/
def change (heap : Heap) (id : ObjectId) (f : Allocation → Allocation) : Heap :=
  ⟨heap.allocations.modify id f⟩

theorem get?_change (heap : Heap) (id other : ObjectId) (f : Allocation → Allocation) :
    (heap.change id f).get? other =
      (heap.get? other).map fun a => if id = other then f a else a := by
  rw [get?, change, List.getElem?_modify]
  rfl

theorem get?_change_of_ne (differs : other ≠ id) (f : Allocation → Allocation) :
    (heap.change id f).get? other = heap.get? other := by
  simp [get?_change, differs.symm]

theorem liesAt_iff : heap.LiesAt id address ↔ (heap.get? id).map (·.address) = some address :=
  Option.map_eq_some_iff.symm

theorem liesAt_iff_eq : (∀ other, heap.LiesAt other address ↔ other = id) ↔
    (heap.get? id).map (·.address) = some address ∧ ∀ other < heap.nextId,
      (heap.get? other).map (·.address) = some address → other = id := by
  simp only [liesAt_iff]
  refine ⟨fun only => ⟨(only id).mpr rfl, fun other _ => (only other).mp⟩, ?_⟩
  rintro ⟨here, single⟩ other
  constructor
  · intro lies
    refine single other (Nat.lt_of_not_le fun beyond => ?_) lies
    rw [get?, List.getElem?_eq_none beyond] at lies
    cases lies
  · rintro rfl
    exact here

theorem liesAt_change_iff {f : Allocation → Allocation} (stays : ∀ a, (f a).address = a.address) :
    (heap.change id f).LiesAt other address ↔ heap.LiesAt other address := by
  have same : (fun a : Allocation => (if id = other then f a else a).address) = (·.address) := by
    funext a
    split
    · exact stays a
    · rfl
  rw [liesAt_iff, liesAt_iff, get?_change, Option.map_map]
  change (heap.get? other).map (fun a => (if id = other then f a else a).address) = _ ↔ _
  rw [same]

theorem get?_allocate_eq (heap : Heap) (place : Address) (datum : Datum) (other : ObjectId) :
    (heap.allocate place datum).get? other =
      if other = heap.nextId then some ⟨place, datum, 1⟩ else heap.get? other := by
  rw [get?, allocate, nextId, get?]
  rcases Nat.lt_trichotomy other heap.allocations.length with before | rfl | after
  · rw [List.getElem?_append_left before, if_neg (Nat.ne_of_lt before)]
  · simp
  · have beyond : (heap.allocations ++ [(⟨place, datum, 1⟩ : Allocation)]).length ≤ other := by
      rw [List.length_append]
      exact after
    rw [if_neg (Nat.ne_of_gt after), List.getElem?_eq_none beyond,
      List.getElem?_eq_none (Nat.le_of_lt after)]

theorem liesAt_allocate_iff (apart : place ≠ address) (datum : Datum) :
    (heap.allocate place datum).LiesAt other address ↔ heap.LiesAt other address := by
  rw [liesAt_iff, liesAt_iff, get?_allocate_eq]
  split
  · next fresh =>
    have none : heap.get? heap.nextId = none := List.getElem?_eq_none (Nat.le_refl _)
    simp [fresh, none, apart]
  · rfl

end Heap

/-! ## Two processes -/

namespace Process

/-- Nothing but one value lies at an address or is tracked there, and nothing but its own name
stands for that address. -/
structure Secludes (p : Process) (id : ObjectId) (address : Address) (own : Option String) :
    Prop where
  lies : ∀ other, p.heap.LiesAt other address ↔ other = id
  tables : ∀ b, (p.bridge b).objects.Secludes id address own

/-- Two processes whose objects are the same beside one value and its name. -/
structure Beside (id : ObjectId) (address : Address) (own : Option String) (p p' : Process) :
    Prop where
  lies : ∀ other, p.heap.LiesAt other address ↔ other = id
  lies' : ∀ other, p'.heap.LiesAt other address ↔ other = id
  next : p'.heap.nextId = p.heap.nextId
  tables : ∀ b, ObjectTable.Beside id address own p.heap p'.heap (p.bridge b).objects
    (p'.bridge b).objects

/-- Sweeping the table of a bridge upsets both processes or neither. -/
def Settled (id : ObjectId) (own : Option String) (b : BridgeId) (p p' : Process) : Prop :=
  (p.bridge b).objects.Upsets p.heap id own ↔ (p'.bridge b).objects.Upsets p'.heap id own

variable {id : ObjectId} {address : Address} {own : Option String} {p p' : Process} {b : BridgeId}

/-- Only the tables of bridges that were used have to be looked at. -/
theorem secludes_iff : p.Secludes id address own ↔
    ((p.heap.get? id).map (·.address) = some address ∧ ∀ other < p.heap.nextId,
      (p.heap.get? other).map (·.address) = some address → other = id) ∧
    ∀ b ∈ p.bridges.rows.map Prod.fst,
      (∀ tracked ∈ (p.bridge b).objects.objects, tracked.1 = address ↔ tracked.2 = id) ∧
        ∀ named ∈ (p.bridge b).objects.names, named.2.address = address ↔ own = some named.1 := by
  rw [← Heap.liesAt_iff_eq]
  refine ⟨fun h => ⟨h.lies, fun b _ => ⟨(h.tables b).objects, (h.tables b).names⟩⟩, ?_⟩
  rintro ⟨lies, tables⟩
  refine ⟨lies, fun b => ?_⟩
  by_cases used : b ∈ p.bridges.rows.map Prod.fst
  · exact ⟨(tables b used).1, (tables b used).2⟩
  · have absent : p.bridges.rows.lookup b = none := by
      rw [List.lookup_eq_none_iff]
      intro row there
      rw [bne_iff_ne]
      exact fun same => used (List.mem_map.mpr ⟨row, there, same.symm⟩)
    rw [bridge, Table.row, absent]
    exact ⟨List.forall_mem_nil _, List.forall_mem_nil _⟩

instance : Decidable (p.Secludes id address own) := decidable_of_iff' _ secludes_iff

theorem Secludes.beside (h : p.Secludes id address own) : Beside id address own p p :=
  ⟨h.lies, h.lies, rfl, fun b => ⟨h.tables b, h.tables b, rfl, rfl, fun _ _ => rfl⟩⟩

theorem Beside.symm (h : Beside id address own p p') : Beside id address own p' p :=
  ⟨h.lies', h.lies, h.next.symm, fun b => (h.tables b).symm⟩

/-- An owner of the value comes or goes in one of the processes. -/
theorem Beside.change_self (h : Beside id address own p p') {f : Allocation → Allocation}
    (stays : ∀ a, (f a).address = a.address) :
    Beside id address own { p with heap := p.heap.change id f } p' := by
  refine ⟨fun other => (Heap.liesAt_change_iff stays).trans (h.lies other), h.lies', ?_, fun b => ?_⟩
  · rw [h.next]
    exact (List.length_modify ..).symm
  · obtain ⟨secluded, secluded', objects, names, heaps⟩ := h.tables b
    refine ⟨secluded, secluded', objects, names, fun other differs => ?_⟩
    exact (heaps other differs).trans (Heap.get?_change_of_ne differs f).symm

/-- An owner of another value comes or goes in both. -/
theorem Beside.change_other (h : Beside id address own p p') (other : ObjectId)
    {f : Allocation → Allocation} (stays : ∀ a, (f a).address = a.address) :
    Beside id address own { p with heap := p.heap.change other f }
      { p' with heap := p'.heap.change other f } := by
  refine ⟨fun o => (Heap.liesAt_change_iff stays).trans (h.lies o),
    fun o => (Heap.liesAt_change_iff stays).trans (h.lies' o), ?_, fun b => ?_⟩
  · exact (List.length_modify ..).trans (h.next.trans (List.length_modify ..).symm)
  · obtain ⟨secluded, secluded', objects, names, heaps⟩ := h.tables b
    refine ⟨secluded, secluded', objects, names, fun o differs => ?_⟩
    rw [Heap.get?_change, Heap.get?_change, heaps o differs]

/-- A value is made elsewhere in both. -/
theorem Beside.allocate (h : Beside id address own p p') {place : Address}
    (apart : place ≠ address) (datum : Datum) :
    Beside id address own { p with heap := p.heap.allocate place datum }
      { p' with heap := p'.heap.allocate place datum } := by
  refine ⟨fun o => (Heap.liesAt_allocate_iff apart datum).trans (h.lies o),
    fun o => (Heap.liesAt_allocate_iff apart datum).trans (h.lies' o), ?_, fun b => ?_⟩
  · have next := h.next
    simp only [Heap.nextId, Heap.allocate, List.length_append] at next ⊢
    rw [next]
  · obtain ⟨secluded, secluded', objects, names, heaps⟩ := h.tables b
    refine ⟨secluded, secluded', objects, names, fun o differs => ?_⟩
    rw [Heap.get?_allocate_eq, Heap.get?_allocate_eq, heaps o differs, h.next]

/-- The table of a bridge is replaced in both. -/
theorem Beside.putObjects (h : Beside id address own p p') {objects objects' : ObjectTable}
    (tables : ObjectTable.Beside id address own p.heap p'.heap objects objects') :
    Beside id address own (p.putObjects b objects) (p'.putObjects b objects') := by
  refine ⟨h.lies, h.lies', h.next, fun c => ?_⟩
  by_cases same : c = b
  · subst same
    rw [objects_putObjects, objects_putObjects]
    exact tables
  · rw [objects_putObjects_of_ne p same, objects_putObjects_of_ne p' same]
    exact h.tables c

/-- The table of a bridge is replaced in one of them. -/
theorem Beside.putObjects_self (h : Beside id address own p p') {objects : ObjectTable}
    (table : ObjectTable.Beside id address own p.heap p'.heap objects (p'.bridge b).objects) :
    Beside id address own (p.putObjects b objects) p' := by
  refine ⟨h.lies, h.lies', h.next, fun c => ?_⟩
  by_cases same : c = b
  · subst same
    rw [objects_putObjects]
    exact table
  · rw [objects_putObjects_of_ne p same]
    exact h.tables c

end Process

/-! ## Operations -/

namespace Operation

/-- The bridge whose table an operation sweeps before it does anything else. -/
def swept? : Operation → Option BridgeId
  | track b _ _ | untrack b _ _ | untrackName b _ | sweep b => some b
  | _ => none

/-- The operation asks a bridge about other values and names. -/
def AsksBeside (id : ObjectId) (address : Address) (own : Option String) : Operation → Prop
  | track _ other as => other ≠ id ∧ ∀ n, as = some n → own ≠ some n
  | untrack _ place _ => place ≠ address
  | untrackName _ name | find _ name _ => own ≠ some name
  | _ => False

/-- The operation is not about the value, its address or its name, or it tracks the value under its
own name. -/
def IsShared (id : ObjectId) (address : Address) (own : Option String) : Operation → Prop
  | .own other | .disown other => other ≠ id
  | track b other as => other = id ∧ as = own ∨ (track b other as).AsksBeside id address own
  | sweep _ | clearObjects _ => True
  | operation => operation.AsksBeside id address own

/-- An owner of the value comes or goes. -/
def IsOwnership (id : ObjectId) (operation : Operation) : Prop :=
  operation = .own id ∨ operation = .disown id

variable {id : ObjectId} {address : Address} {own : Option String} {operation : Operation}

theorem IsShared.about (h : operation.IsShared id address own) :
    operation.isAboutObjects = true := by
  cases operation with
  | own | disown | track | untrack | untrackName | find | sweep | clearObjects => rfl
  | _ => cases h

theorem AsksBeside.shared (h : operation.AsksBeside id address own) :
    operation.IsShared id address own := by
  cases operation with
  | track => exact .inr h
  | untrack | untrackName | find => exact h
  | _ => cases h

end Operation

namespace Action

variable {b : BridgeId} {w w' : World}

theorem Returns.created {address : Address} {datum : Datum} {made : ObjectId}
    (h : Returns (Action.create address datum) w (some made) w') :
    w'.process = { w.process with heap := w.process.heap.allocate address datum } := by
  rcases h.create with ⟨none, -⟩ | ⟨-, allocated⟩
  · cases none
  · exact allocated

end Action

section

variable {foreign : Foreign} {id : ObjectId} {address : Address} {own : Option String}
  {w w' v v' : World} {operation : Operation} {b : BridgeId}

/-- Two worlds, reached in whatever way, whose objects are the same beside one value. -/
structure Parted (id : ObjectId) (address : Address) (own : Option String) (w w' : World) :
    Prop where
  beside : Process.Beside id address own w.process w'.process
  filed : FiledTables w.history w.process
  filed' : FiledTables w'.history w'.process

theorem Parted.swept (h : Parted id address own w w')
    (calm : Process.Settled id own b w.process w'.process) :
    Process.Beside id address own (w.process.swept b) (w'.process.swept b) :=
  h.beside.putObjects ((h.beside.tables b).sweep (h.filed b) (h.filed' b) calm)

/-- Tracking another value elsewhere comes to the same in both worlds. -/
theorem Parted.track (h : Parted id address own w w') {other : ObjectId} {as : Option String}
    (differs : other ≠ id) (apart : ∀ n, as = some n → own ≠ some n) {tracked tracked' : Bool}
    (calm : Process.Settled id own b w.process w'.process)
    (ran : Returns (Action.track b other as) w tracked v)
    (ran' : Returns (Action.track b other as) w' tracked' v') :
    Process.Beside id address own v.process v'.process ∧ tracked' = tracked := by
  have swept := h.swept calm
  have tables := (h.beside.tables b).sweep (h.filed b) (h.filed' b) calm
  have elsewhere : ∀ allocation, w.process.heap.get? other = some allocation →
      allocation.address ≠ address := fun allocation there here =>
    differs ((h.beside.lies other).mp ⟨allocation, there, here⟩)
  rcases tables.insert differs elsewhere apart with
    ⟨none, none'⟩ | ⟨added, added', some, some', beside⟩
  · rcases Returns.track ran with ⟨-, rfl, same⟩ | ⟨objects, inserted, -, -⟩
    · rcases Returns.track ran' with ⟨-, rfl, same'⟩ | ⟨objects, inserted, -, -⟩
      · rw [same, same']
        exact ⟨swept, rfl⟩
      · cases none'.symm.trans inserted
    · cases none.symm.trans inserted
  · rcases Returns.track ran with ⟨refused, -, -⟩ | ⟨objects, inserted, rfl, put⟩
    · cases refused.symm.trans some
    · rcases Returns.track ran' with ⟨refused, -, -⟩ | ⟨objects', inserted', rfl, put'⟩
      · cases refused.symm.trans some'
      · cases some.symm.trans inserted
        cases some'.symm.trans inserted'
        rw [put, put']
        exact ⟨swept.putObjects beside, rfl⟩

/-- Whether or not the value itself is tracked makes no difference beside it. -/
theorem Process.Beside.track_self {p : Process} {tracked : Bool}
    (h : Process.Beside id address own (w.process.swept b) p)
    (ran : Returns (Action.track b id own) w tracked v) :
    Process.Beside id address own v.process p := by
  rcases Returns.track ran with ⟨-, -, same⟩ | ⟨objects, inserted, -, put⟩
  · rwa [same]
  · obtain ⟨allocation, there, here⟩ := (h.lies id).mpr rfl
    have tables := h.tables b
    rw [Process.objects_swept] at tables
    obtain ⟨secluded, beside, names⟩ := tables.secluded.insert_self there here inserted
    rw [put]
    refine h.putObjects_self ⟨secluded, tables.secluded', ?_, ?_, tables.heaps⟩
    · rw [beside, tables.objects]
    · rw [names, tables.names]

/-- One more operation that both worlds have carried out. -/
theorem Parted.perform (h : Parted id address own w w')
    (shared : operation.IsShared id address own)
    (calm : ∀ b, operation.swept? = some b → Process.Settled id own b w.process w'.process)
    {r r' : operation.Result} (ran : Returns (operation.perform foreign) w r v)
    (ran' : Returns (operation.perform foreign) w' r' v') :
    Process.Beside id address own v.process v'.process ∧
      (operation.AsksBeside id address own → r' = r) := by
  cases operation with
  | own other =>
    rw [Returns.updateProcess (f := fun p => { p with heap := p.heap.own other }) ran,
      Returns.updateProcess (f := fun p => { p with heap := p.heap.own other }) ran']
    exact ⟨h.beside.change_other other fun _ => rfl, fun asks => asks.elim⟩
  | disown other =>
    rw [Returns.updateProcess (f := fun p => { p with heap := p.heap.disown other }) ran,
      Returns.updateProcess (f := fun p => { p with heap := p.heap.disown other }) ran']
    exact ⟨h.beside.change_other other fun _ => rfl, fun asks => asks.elim⟩
  | track b other as =>
    rcases shared with ⟨rfl, rfl⟩ | asks
    · have tracked := (h.swept (calm b rfl)).track_self ran
      exact ⟨(tracked.symm.track_self ran').symm, fun asks => absurd rfl asks.1⟩
    · exact (h.track asks.1 asks.2 (calm b rfl) ran ran').imp_right fun same _ => same
  | untrack b place alsoNames =>
    have tables := (h.beside.tables b).sweep (h.filed b) (h.filed' b) (calm b rfl)
    obtain ⟨same, beside⟩ := tables.erase shared alsoNames
    obtain ⟨rfl, put⟩ := Returns.untrack ran
    obtain ⟨rfl, put'⟩ := Returns.untrack ran'
    rw [put, put']
    exact ⟨(h.swept (calm b rfl)).putObjects beside, fun _ => same⟩
  | untrackName b name =>
    have tables := (h.beside.tables b).sweep (h.filed b) (h.filed' b) (calm b rfl)
    obtain ⟨same, beside⟩ := tables.eraseName shared
    obtain ⟨rfl, put⟩ := Returns.untrackName ran
    obtain ⟨rfl, put'⟩ := Returns.untrackName ran'
    rw [put, put']
    exact ⟨(h.swept (calm b rfl)).putObjects beside, fun _ => same⟩
  | find b name kind =>
    obtain ⟨same, beside⟩ := (h.beside.tables b).find shared kind
    obtain ⟨rfl, put⟩ := Returns.find ran
    obtain ⟨rfl, put'⟩ := Returns.find ran'
    rw [put, put']
    exact ⟨h.beside.putObjects beside, fun _ => same⟩
  | sweep b =>
    rw [(Returns.sweep ran).2, (Returns.sweep ran').2]
    exact ⟨h.swept (calm b rfl), fun asks => asks.elim⟩
  | clearObjects b =>
    rw [Returns.setObjects ran, Returns.setObjects ran']
    have none : ObjectTable.Secludes {} id address own := ⟨nofun, nofun⟩
    have empty : ObjectTable.Beside id address own w.process.heap w'.process.heap {} {} :=
      ⟨none, none, rfl, rfl, (h.beside.tables b).heaps⟩
    exact ⟨h.beside.putObjects empty, fun asks => asks.elim⟩
  | _ => cases shared

theorem FiledTables.run (filed : FiledTables w.history w.process)
    (about : operation.isAboutObjects = true) {r : operation.Result}
    (ran : Returns (operation.run foreign) w r v) : FiledTables v.history v.process := by
  obtain ⟨w₁, performed, rfl⟩ := ran.run
  have began : FiledTables (w.after (.began operation)).history w.process := filed
  have done := FiledTables.operation about performed began
  rw [← Operation.history_perform_silent (Operation.isSilent_of_isAboutObjects about) performed]
    at done
  exact done

theorem Parted.run (h : Parted id address own w w') (shared : operation.IsShared id address own)
    (calm : ∀ b, operation.swept? = some b → Process.Settled id own b w.process w'.process)
    {r r' : operation.Result} (ran : Returns (operation.run foreign) w r v)
    (ran' : Returns (operation.run foreign) w' r' v') :
    Parted id address own v v' ∧ (operation.AsksBeside id address own → r' = r) := by
  have filed := h.filed.run shared.about ran
  have filed' := h.filed'.run shared.about ran'
  obtain ⟨w₁, performed, rfl⟩ := ran.run
  obtain ⟨w₁', performed', rfl⟩ := ran'.run
  have began : Parted id address own (w.after (.began operation))
      (w'.after (.began operation)) := ⟨h.beside, h.filed, h.filed'⟩
  obtain ⟨beside, same⟩ := began.perform shared calm performed performed'
  exact ⟨⟨beside, filed, filed'⟩, same⟩

theorem Parted.symm (h : Parted id address own w w') : Parted id address own w' w :=
  ⟨h.beside.symm, h.filed', h.filed⟩

/-- An owner of the value comes or goes in one of the worlds. -/
theorem Parted.owners (h : Parted id address own w w') (owners : operation.IsOwnership id)
    {r : operation.Result} (ran : Returns (operation.run foreign) w r v) :
    Parted id address own v w' := by
  have about : operation.isAboutObjects = true := by
    rcases owners with rfl | rfl <;> rfl
  refine ⟨?_, h.filed.run about ran, h.filed'⟩
  rcases owners with rfl | rfl <;>
    · cases ran
      exact h.beside.change_self fun _ => rfl

/-- A value is made elsewhere in both worlds. -/
theorem Parted.create (h : Parted id address own w w') {place : Address} {datum : Datum}
    {made made' : ObjectId} (apart : place ≠ address)
    (ran : Returns ((Operation.create place datum).run foreign) w (some made) v)
    (ran' : Returns ((Operation.create place datum).run foreign) w' (some made') v') :
    Parted id address own v v' := by
  refine ⟨?_, h.filed.run rfl ran, h.filed'.run rfl ran'⟩
  obtain ⟨w₁, performed, rfl⟩ := ran.run
  obtain ⟨w₁', performed', rfl⟩ := ran'.run
  change Process.Beside id address own w₁.process w₁'.process
  rw [Returns.created performed, Returns.created performed']
  exact h.beside.allocate apart datum

end

/-! ## Two runs -/

/-- Two runs from one world that carry out the same operations on objects, none of them about a
value, its address or its own name, save that the owners of the value come and go in each of them
as they like. A table is swept only where it is calm to do so. -/
inductive Twins (foreign : Foreign) (id : ObjectId) (address : Address) (own : Option String)
    (calm : BridgeId → Process → Process → Prop) (w : World) : World → World → Prop
  | start : Twins foreign id address own calm w w w
  /-- An owner of the value comes or goes in the first run. -/
  | left {v v' u : World} {operation : Operation} {result : operation.Result}
      (before : Twins foreign id address own calm w v v') (owners : operation.IsOwnership id)
      (ran : Returns (operation.run foreign) v result u) :
      Twins foreign id address own calm w u v'
  /-- An owner of the value comes or goes in the second run. -/
  | right {v v' u : World} {operation : Operation} {result : operation.Result}
      (before : Twins foreign id address own calm w v v') (owners : operation.IsOwnership id)
      (ran : Returns (operation.run foreign) v' result u) :
      Twins foreign id address own calm w v u
  /-- A value is made at an address that is not in use. -/
  | create {v v' u u' : World} {place : Address} {datum : Datum} {made made' : ObjectId}
      (before : Twins foreign id address own calm w v v') (apart : place ≠ address)
      (ran : Returns ((Operation.create place datum).run foreign) v (some made) u)
      (ran' : Returns ((Operation.create place datum).run foreign) v' (some made') u') :
      Twins foreign id address own calm w u u'
  | both {v v' u u' : World} {operation : Operation} {result result' : operation.Result}
      (before : Twins foreign id address own calm w v v')
      (shared : operation.IsShared id address own)
      (settled : ∀ b, operation.swept? = some b → calm b v.process v'.process)
      (ran : Returns (operation.run foreign) v result u)
      (ran' : Returns (operation.run foreign) v' result' u') :
      Twins foreign id address own calm w u u'

/-- What is asked about other values and names is answered alike in two worlds. -/
structure SameAnswers (foreign : Foreign) (id : ObjectId) (address : Address) (own : Option String)
    (calm : BridgeId → Process → Process → Prop) (w w' : World) : Prop where
  isTracked : ∀ b place, place ≠ address →
    (w'.process.bridge b).objects.isTracked w'.process.heap place =
      (w.process.bridge b).objects.isTracked w.process.heap place
  get : ∀ b place kind, place ≠ address →
    (w'.process.bridge b).objects.get? w'.process.heap place kind =
      (w.process.bridge b).objects.get? w.process.heap place kind
  addressOf : ∀ b name, own ≠ some name →
    (w'.process.bridge b).objects.addressOf? name = (w.process.bridge b).objects.addressOf? name
  typeNameOf : ∀ b name, own ≠ some name →
    (w'.process.bridge b).objects.typeNameOf? name = (w.process.bridge b).objects.typeNameOf? name
  results : ∀ operation : Operation, operation.AsksBeside id address own →
    (∀ b, operation.swept? = some b → calm b w.process w'.process) →
    ∃ result v v', Returns (operation.run foreign) w result v ∧
      Returns (operation.run foreign) w' result v'

section

variable {foreign : Foreign} {id : ObjectId} {address : Address} {own : Option String}
  {w v v' : World}

/-- Two runs in which every sweep is settled stay the same beside the value. -/
theorem Twins.parted (start : Parted id address own w w)
    (twins : Twins foreign id address own (Process.Settled id own) w v v') :
    Parted id address own v v' := by
  induction twins with
  | start => exact start
  | left before owners ran ih => exact ih.owners owners ran
  | right before owners ran ih => exact (ih.symm.owners owners ran).symm
  | create before apart ran ran' ih => exact ih.create apart ran ran'
  | both before shared settled ran ran' ih => exact (ih.run shared settled ran ran').1

theorem Parted.sameAnswers (h : Parted id address own v v') :
    SameAnswers foreign id address own (Process.Settled id own) v v' := by
  refine ⟨fun b place apart => (h.beside.tables b).isTracked apart,
    fun b place kind apart => (h.beside.tables b).get? apart kind,
    fun b name apart => (h.beside.tables b).addressOf? apart, fun b name apart => ?_,
    fun operation asks settled => ?_⟩
  · rw [ObjectTable.typeNameOf?, ObjectTable.typeNameOf?,
      ObjectTable.Beside.entry? (h.beside.tables b) apart]
  · obtain ⟨result, u, ran⟩ := Returns.exists (operation.run foreign) v
    obtain ⟨result', u', ran'⟩ := Returns.exists (operation.run foreign) v'
    obtain ⟨-, same⟩ := h.run asks.shared settled ran ran'
    exact ⟨result, u, u', ran, same asks ▸ ran'⟩

/-- However the owners of one value come and go, what is asked about others is answered alike, as
long as every sweep is settled; and so is all that was asked on the way, since where two runs had
come to by then are two runs as well. A sweep that is not settled leaves the names of other values
different. -/
theorem unrelated_death (reached : w.Reached) (secluded : w.process.Secludes id address own)
    (twins : Twins foreign id address own (Process.Settled id own) w v v') :
    SameAnswers foreign id address own (Process.Settled id own) v v' ∧
      ∀ b, Process.Settled id own b v.process v'.process ↔ ∀ name, own ≠ some name →
        (v'.process.sweptObjects b).addressOf? name =
          (v.process.sweptObjects b).addressOf? name := by
  have filed : FiledTables w.history w.process :=
    (reached.lasting FiledTables.start FiledTables.lasting).now
  have parted := twins.parted ⟨secluded.beside, filed, filed⟩
  exact ⟨parted.sameAnswers, fun b =>
    (parted.beside.tables b).upsets_iff (parted.filed b) (parted.filed' b)⟩

end

/-- A text and a number are tracked, each under its name. -/
def bothNamed : Conduct Unit := do
  let _ ← Conduct.doing (.create 8 (.text "text"))
  let _ ← Conduct.doing (.track 0 0 (some "text"))
  let _ ← Conduct.doing (.create 16 (.number 1))
  let _ ← Conduct.doing (.track 0 1 (some "number"))

/-- The world after that. -/
def textAndNumber : World :=
  Outside.leads (fun _ call => .reply call.inertReply) 0 bothNamed {} []

theorem textAndNumber_reached : textAndNumber.Reached := .atEnd _ _ _ _ _ rfl rfl

theorem text_secluded : textAndNumber.process.Secludes 0 8 (some "text") := by decide +kernel

/-- The bridge asked to sweep when the text has died in one of two runs. -/
theorem text_death_unnoticed :
    textAndNumber.Reached ∧ textAndNumber.process.Secludes 0 8 (some "text") ∧
      Twins (fun call => pure call.inertReply) 0 8 (some "text") (Process.Settled 0 (some "text"))
        textAndNumber ((textAndNumber.doing (.disown 0)).doing (.sweep 0))
        (textAndNumber.doing (.sweep 0)) ∧
      SameAnswers (fun call => pure call.inertReply) 0 8 (some "text")
        (Process.Settled 0 (some "text")) ((textAndNumber.doing (.disown 0)).doing (.sweep 0))
        (textAndNumber.doing (.sweep 0)) := by
  have settled : ∀ b, (Operation.sweep 0).swept? = some b → Process.Settled 0 (some "text") b
      (textAndNumber.doing (.disown 0)).process textAndNumber.process := by
    rintro b ⟨⟩
    exact iff_of_false (ObjectTable.not_upsets (by decide +kernel))
      (ObjectTable.not_upsets (by decide +kernel))
  have shared : (Operation.sweep 0).IsShared 0 8 (some "text") := trivial
  have twins : Twins (fun call => pure call.inertReply) 0 8 (some "text")
      (Process.Settled 0 (some "text")) textAndNumber
      ((textAndNumber.doing (.disown 0)).doing (.sweep 0)) (textAndNumber.doing (.sweep 0)) :=
    .both (.left .start (.inr rfl) (.intro _ _)) shared settled (.intro _ _) (.intro _ _)
  exact ⟨textAndNumber_reached, text_secluded, twins,
    (unrelated_death textAndNumber_reached text_secluded twins).1⟩

/-- A number is tracked under a name, the bridge stops tracking it and keeps the name; a text is
tracked without one. -/
def nameKept : Conduct Unit := do
  let _ ← Conduct.doing (.create 8 (.text "text"))
  let _ ← Conduct.doing (.create 16 (.number 1))
  let _ ← Conduct.doing (.track 0 1 (some "x"))
  let _ ← Conduct.doing (.untrack 0 16 false)
  let _ ← Conduct.doing (.disown 1)
  let _ ← Conduct.doing (.track 0 0 none)
  let _ ← Conduct.doing (.create 24 (.number 2))

/-- The world after that. -/
def numberUntracked : World :=
  Outside.leads (fun _ call => .reply call.inertReply) 0 nameKept {} []

/-- Whether the text dies decides if another number can have the name. -/
theorem text_death_frees_name :
    numberUntracked.Reached ∧ numberUntracked.process.Secludes 0 8 none ∧
      Twins (fun call => pure call.inertReply) 0 8 none (fun _ _ _ => True) numberUntracked
        (numberUntracked.doing (.disown 0)) numberUntracked ∧
      ¬ SameAnswers (fun call => pure call.inertReply) 0 8 none (fun _ _ _ => True)
        (numberUntracked.doing (.disown 0)) numberUntracked := by
  refine ⟨.atEnd _ _ _ _ _ rfl rfl, by decide +kernel, .left .start (.inr rfl) (.intro _ _),
    fun same => ?_⟩
  have asks : (Operation.track 0 2 (some "x")).AsksBeside 0 8 none := ⟨by decide, nofun⟩
  obtain ⟨result, v, v', ran, ran'⟩ := same.results _ asks fun _ _ => trivial
  have accepted : (((Operation.track 0 2 (some "x")).run fun call =>
      pure call.inertReply).run (numberUntracked.doing (.disown 0))).1 = true := by
    decide +kernel
  have refused : (((Operation.track 0 2 (some "x")).run fun call =>
      pure call.inertReply).run numberUntracked).1 = false := by decide +kernel
  have same : false = true := by
    rw [← refused, ← accepted, ran, ran']
  cases same

end ManagedHost
