import ManagedHost.Proofs.NameReuse

/-! # What a table has beside one value

Two tables may differ in one value alone: in whether it is tracked, in its own name and in whether
it is alive (`Beside`). Whatever is done about other values and names keeps them so and is answered
alike, but for sweeping: where the death of that value alone sets off a sweep, and the name of
another value is left over, only one of the tables loses that name (`Beside.upsets_iff`). -/

namespace ManagedHost

open ManagedHost.Action

theorem filter_filter_comm {α : Type} (keep leave : α → Bool) (entries : List α) :
    (entries.filter leave).filter keep = (entries.filter keep).filter leave := by
  rw [List.filter_filter, List.filter_filter]
  exact List.filter_congr fun _ _ => Bool.and_comm _ _

/-- Where no key occurs twice, every entry is what its key leads to. -/
theorem lookup_of_mem {κ α : Type} [BEq κ] [LawfulBEq κ] {entries : List (κ × α)}
    (distinct : (entries.map Prod.fst).Nodup) {key : κ} {value : α}
    (there : (key, value) ∈ entries) : entries.lookup key = some value := by
  induction entries with
  | nil => cases there
  | cons entry rest ih =>
    rw [List.map_cons, List.nodup_cons] at distinct
    rcases List.mem_cons.mp there with rfl | later
    · exact List.lookup_cons_self
    · have differs : key ≠ entry.1 := by
        rintro rfl
        exact distinct.1 (List.mem_map.mpr ⟨_, later, rfl⟩)
      rw [List.lookup_cons, beq_false_of_ne differs]
      exact ih distinct.2 later

namespace ObjectTable

/-- The addresses in the table but one. -/
def objectsBeside (table : ObjectTable) (address : Address) : List (Address × ObjectId) :=
  table.objects.filter (·.1 ≠ address)

/-- The names in the table but one, if there is that one. -/
def namesBeside (table : ObjectTable) (own : Option String) : List (String × NameEntry) :=
  table.names.filter (own ≠ some ·.1)

/-- Nothing but one value is tracked at an address, nowhere else is it tracked, and nothing but its
own name stands for that address. -/
structure Secludes (table : ObjectTable) (id : ObjectId) (address : Address)
    (own : Option String) : Prop where
  objects : ∀ tracked ∈ table.objects, tracked.1 = address ↔ tracked.2 = id
  names : ∀ named ∈ table.names, named.2.address = address ↔ own = some named.1

/-- Two tables, each with its heap, that are the same beside one value and its name. -/
structure Beside (id : ObjectId) (address : Address) (own : Option String) (heap heap' : Heap)
    (table table' : ObjectTable) : Prop where
  secluded : table.Secludes id address own
  secluded' : table'.Secludes id address own
  objects : table'.objectsBeside address = table.objectsBeside address
  names : table'.namesBeside own = table.namesBeside own
  heaps : ∀ other, other ≠ id → heap'.get? other = heap.get? other

/-- The death of the value alone sets off a sweep, and the name of another value is left over. -/
structure Upsets (heap : Heap) (table : ObjectTable) (id : ObjectId) (own : Option String) :
    Prop where
  dead : ∃ tracked ∈ table.objects, tracked.2 = id ∧ heap.isAlive id = false
  others : ∀ tracked ∈ table.objects, tracked.2 ≠ id → heap.isAlive tracked.2 = true
  leftover : ∃ name entry, own ≠ some name ∧ table.entry? name = some entry ∧
    table.object? entry.address = none

variable {id : ObjectId} {address place : Address} {own : Option String} {heap heap' : Heap}
  {table table' : ObjectTable} {name : String}

/-- As long as every name stands for a tracked address, sweeping does not upset a table. -/
theorem not_upsets
    (tracked : ∀ named ∈ table.names, (table.object? named.2.address).isSome = true) :
    ¬ table.Upsets heap id own := by
  rintro ⟨-, -, name, entry, -, found, untracked⟩
  have there := tracked (name, entry) (mem_of_lookup found)
  rw [untracked] at there
  cases there

theorem not_upsets_of_allAlive (alive : table.AllAlive heap) : ¬ table.Upsets heap id own := by
  intro upsets
  obtain ⟨tracked, there, rfl, dead⟩ := upsets.dead
  exact Bool.false_ne_true (dead.symm.trans (alive tracked there))

theorem Beside.symm (h : Beside id address own heap heap' table table') :
    Beside id address own heap' heap table' table :=
  ⟨h.secluded', h.secluded, h.objects.symm, h.names.symm,
    fun other differs => (h.heaps other differs).symm⟩

theorem Beside.object? (h : Beside id address own heap heap' table table')
    (apart : place ≠ address) : table'.object? place = table.object? place := by
  have kept : ∀ other : ObjectId, decide ((place, other).1 ≠ address) = true :=
    fun _ => decide_eq_true apart
  have same := congrArg (List.lookup place) h.objects
  rwa [objectsBeside, objectsBeside, lookup_filter_of_kept kept, lookup_filter_of_kept kept]
    at same

theorem Beside.entry? (h : Beside id address own heap heap' table table')
    (apart : own ≠ some name) : table'.entry? name = table.entry? name := by
  have kept : ∀ entry : NameEntry, decide (own ≠ some (name, entry).1) = true :=
    fun _ => decide_eq_true apart
  have same := congrArg (List.lookup name) h.names
  rwa [namesBeside, namesBeside, lookup_filter_of_kept kept, lookup_filter_of_kept kept] at same

theorem Beside.isAlive (h : Beside id address own heap heap' table table') {other : ObjectId}
    (differs : other ≠ id) : heap'.isAlive other = heap.isAlive other := by
  rw [Heap.isAlive, Heap.isAlive, h.heaps other differs]

/-- What is tracked elsewhere is another value. -/
theorem Secludes.differs (h : table.Secludes id address own) (apart : place ≠ address)
    {other : ObjectId} (tracked : table.object? place = some other) : other ≠ id :=
  fun same => apart ((h.objects (place, other) (mem_of_lookup tracked)).mpr same)

theorem Beside.isTracked (h : Beside id address own heap heap' table table')
    (apart : place ≠ address) : table'.isTracked heap' place = table.isTracked heap place := by
  rw [ObjectTable.isTracked, ObjectTable.isTracked, h.object? apart]
  cases tracked : table.object? place with
  | none => rfl
  | some other => exact h.isAlive (h.secluded.differs apart tracked)

theorem Beside.get? (h : Beside id address own heap heap' table table')
    (apart : place ≠ address) (kind : Kind) :
    table'.get? heap' place kind = table.get? heap place kind := by
  rw [ObjectTable.get?, ObjectTable.get?, h.object? apart]
  cases tracked : table.object? place with
  | none => rfl
  | some other =>
    rw [Option.bind_eq_bind, Option.bind_some, Option.bind_eq_bind, Option.bind_some,
      h.heaps other (h.secluded.differs apart tracked)]

/-! ### Changes of the table -/

/-- A table with fewer entries still secludes the value. -/
theorem Secludes.fewer (h : table.Secludes id address own)
    {objects : List (Address × ObjectId)} {names : List (String × NameEntry)}
    (kept : objects ⊆ table.objects) (left : names ⊆ table.names) :
    ObjectTable.Secludes ⟨objects, names⟩ id address own :=
  ⟨fun tracked there => h.objects tracked (kept there), fun named there => h.names named (left there)⟩

/-- Where every other value is alive, a table in which the value is not dead holds only live
values. -/
theorem allAlive_of_others (others : ∀ tracked ∈ table.objects, tracked.2 ≠ id →
      heap.isAlive tracked.2 = true)
    (lives : ¬ ∃ tracked ∈ table.objects, tracked.2 = id ∧ heap.isAlive id = false) :
    table.AllAlive heap := by
  intro tracked there
  by_cases same : tracked.2 = id
  · cases alive : heap.isAlive tracked.2 with
    | true => rfl
    | false => exact absurd ⟨tracked, there, same, same ▸ alive⟩ lives
  · exact others tracked there same

theorem mem_objectsBeside {tracked : Address × ObjectId} :
    tracked ∈ table.objectsBeside address ↔ tracked ∈ table.objects ∧ tracked.1 ≠ address := by
  rw [objectsBeside, List.mem_filter, decide_eq_true_eq]

theorem mem_namesBeside {named : String × NameEntry} :
    named ∈ table.namesBeside own ↔ named ∈ table.names ∧ own ≠ some named.1 := by
  rw [namesBeside, List.mem_filter, decide_eq_true_eq]

/-- What the tables have of other values is the same. -/
theorem Beside.mem_objects (h : Beside id address own heap heap' table table')
    {tracked : Address × ObjectId} (differs : tracked.2 ≠ id) :
    tracked ∈ table'.objects ↔ tracked ∈ table.objects := by
  have member := h.objects ▸ @mem_objectsBeside address table' tracked
  rw [mem_objectsBeside] at member
  constructor
  · intro there
    have apart : tracked.1 ≠ address :=
      fun same => differs ((h.secluded'.objects tracked there).mp same)
    exact (member.mpr ⟨there, apart⟩).1
  · intro there
    have apart : tracked.1 ≠ address :=
      fun same => differs ((h.secluded.objects tracked there).mp same)
    exact (member.mp ⟨there, apart⟩).1

theorem Beside.mem_names (h : Beside id address own heap heap' table table')
    {named : String × NameEntry} (apart : own ≠ some named.1) :
    named ∈ table'.names ↔ named ∈ table.names := by
  have member := h.names ▸ @mem_namesBeside own table' named
  rw [mem_namesBeside] at member
  exact ⟨fun there => (member.mpr ⟨there, apart⟩).1, fun there => (member.mp ⟨there, apart⟩).1⟩

theorem Beside.others (h : Beside id address own heap heap' table table')
    (others : ∀ tracked ∈ table.objects, tracked.2 ≠ id → heap.isAlive tracked.2 = true) :
    ∀ tracked ∈ table'.objects, tracked.2 ≠ id → heap'.isAlive tracked.2 = true := by
  intro tracked there differs
  rw [h.isAlive differs]
  exact others tracked ((h.mem_objects differs).mp there) differs

/-- What a name of another value stands for is elsewhere. -/
theorem Secludes.elsewhere (h : table.Secludes id address own) (apart : own ≠ some name)
    {entry : NameEntry} (found : table.entry? name = some entry) : entry.address ≠ address :=
  fun same => apart ((h.names (name, entry) (mem_of_lookup found)).mp same)

theorem Beside.leftover (h : Beside id address own heap heap' table table')
    (leftover : ∃ name entry, own ≠ some name ∧ table.entry? name = some entry ∧
      table.object? entry.address = none) :
    ∃ name entry, own ≠ some name ∧ table'.entry? name = some entry ∧
      table'.object? entry.address = none := by
  obtain ⟨name, entry, apart, found, untracked⟩ := leftover
  refine ⟨name, entry, apart, (h.entry? apart).trans found, ?_⟩
  rwa [h.object? (h.secluded.elsewhere apart found)]

/-- The names that a sweep leaves of those beside the own one. -/
theorem namesBeside_sweep {made : String → Option ObjectId} (filed : table.Filed heap made)
    (dead : ¬ table.AllAlive heap) : (table.sweep heap).1.namesBeside own =
      (table.namesBeside own).filter fun named => table.isTracked heap named.2.address := by
  rw [namesBeside, names_sweep_of_dead filed dead, namesBeside, filter_filter_comm]

theorem objectsBeside_sweep : (table.sweep heap).1.objectsBeside address =
    (table.objectsBeside address).filter fun tracked => heap.isAlive tracked.2 := by
  rw [objectsBeside, objects_sweep, objectsBeside, filter_filter_comm]

/-- A sweep that only one of the tables undergoes finds no name to remove. -/
theorem Beside.namesBeside_sweep_of_allAlive {made : String → Option ObjectId}
    (h : Beside id address own heap heap' table table') (filed : table.Filed heap made)
    (calm : ¬ table.Upsets heap id own) (dead : ¬ table.AllAlive heap)
    (alive : table'.AllAlive heap') :
    (table.sweep heap).1.namesBeside own = table.namesBeside own := by
  rw [namesBeside_sweep filed dead, List.filter_eq_self]
  intro named beside
  obtain ⟨there, apart⟩ := mem_namesBeside.mp beside
  have others := h.symm.others fun tracked there _ => alive tracked there
  have found : table.entry? named.1 = some named.2 := lookup_of_mem filed.single there
  cases tracked : table.object? named.2.address with
  | none =>
    have died : ∃ tracked ∈ table.objects, tracked.2 = id ∧ heap.isAlive id = false :=
      Classical.byContradiction fun lives => dead (allAlive_of_others others lives)
    exact absurd ⟨died, others, named.1, named.2, apart, found, tracked⟩ calm
  | some other =>
    rw [ObjectTable.isTracked, tracked]
    exact others _ (mem_of_lookup tracked)
      (h.secluded.differs (h.secluded.elsewhere apart found) tracked)

/-- Sweeping keeps the tables alike unless it upsets one of them only. -/
theorem Beside.sweep {made made' : String → Option ObjectId}
    (h : Beside id address own heap heap' table table') (filed : table.Filed heap made)
    (filed' : table'.Filed heap' made')
    (calm : table.Upsets heap id own ↔ table'.Upsets heap' id own) :
    Beside id address own heap heap' (table.sweep heap).1 (table'.sweep heap').1 := by
  have fewer : ∀ (hp : Heap) (t : ObjectTable), t.Secludes id address own →
      (t.sweep hp).1.Secludes id address own := by
    intro hp t secluded
    refine secluded.fewer ?_ fun named there => names_sweep there
    rw [objects_sweep]
    exact fun tracked kept => (List.mem_filter.mp kept).1
  refine ⟨fewer heap table h.secluded, fewer heap' table' h.secluded', ?_, ?_, h.heaps⟩
  · rw [objectsBeside_sweep, objectsBeside_sweep, h.objects]
    refine List.filter_congr fun tracked beside => h.isAlive fun same => ?_
    obtain ⟨there, apart⟩ := mem_objectsBeside.mp beside
    exact apart ((h.secluded.objects tracked there).mpr same)
  · by_cases alive : table.AllAlive heap
    · by_cases alive' : table'.AllAlive heap'
      · rw [sweep_of_allAlive alive, sweep_of_allAlive alive', h.names]
      · have calm' : ¬ table'.Upsets heap' id own :=
          fun upsets => not_upsets_of_allAlive alive (calm.mpr upsets)
        rw [sweep_of_allAlive alive, h.symm.namesBeside_sweep_of_allAlive filed' calm' alive' alive,
          h.names]
    · by_cases alive' : table'.AllAlive heap'
      · have calm' : ¬ table.Upsets heap id own :=
          fun upsets => not_upsets_of_allAlive alive' (calm.mp upsets)
        rw [sweep_of_allAlive alive', h.namesBeside_sweep_of_allAlive filed calm' alive alive',
          h.names]
      · rw [namesBeside_sweep filed alive, namesBeside_sweep filed' alive', h.names]
        refine List.filter_congr fun named beside => h.isTracked fun same => ?_
        obtain ⟨there, apart⟩ := mem_namesBeside.mp beside
        exact apart ((h.secluded.names named there).mp same)

theorem Beside.addressOf? (h : Beside id address own heap heap' table table')
    (apart : own ≠ some name) : table'.addressOf? name = table.addressOf? name := by
  rw [ObjectTable.addressOf?, ObjectTable.addressOf?, h.entry? apart]

/-- If sweeping upsets a table, it upsets every other one that it leaves with the same names. -/
theorem Beside.upsets {made made' : String → Option ObjectId}
    (h : Beside id address own heap heap' table table') (filed : table.Filed heap made)
    (filed' : table'.Filed heap' made')
    (same : ∀ name, own ≠ some name →
      (table'.sweep heap').1.addressOf? name = (table.sweep heap).1.addressOf? name)
    (upsets : table.Upsets heap id own) : table'.Upsets heap' id own := by
  refine ⟨?_, h.others upsets.others, h.leftover upsets.leftover⟩
  obtain ⟨name, entry, apart, found, untracked⟩ := upsets.leftover
  refine Classical.byContradiction fun lives => ?_
  have kept : ObjectTable.entry? (table'.sweep heap').1 name = some entry :=
    (entry_sweep filed' name entry).mpr ⟨(h.entry? apart).trans found,
      .inr (allAlive_of_others (h.others upsets.others) lives)⟩
  have stays := same name apart
  rw [ObjectTable.addressOf?, kept] at stays
  obtain ⟨entry', found', -⟩ := Option.map_eq_some_iff.mp stays.symm
  obtain ⟨same', stands⟩ := (entry_sweep filed name entry').mp found'
  cases found.symm.trans same'
  rcases stands with tracked | alive
  · rw [ObjectTable.isTracked, untracked] at tracked
    cases tracked
  · exact not_upsets_of_allAlive alive upsets

/-- Sweeping leaves two tables with the same names of other values just when it upsets both or
neither. -/
theorem Beside.upsets_iff {made made' : String → Option ObjectId}
    (h : Beside id address own heap heap' table table') (filed : table.Filed heap made)
    (filed' : table'.Filed heap' made') :
    (table.Upsets heap id own ↔ table'.Upsets heap' id own) ↔ ∀ name, own ≠ some name →
      (table'.sweep heap').1.addressOf? name = (table.sweep heap).1.addressOf? name := by
  constructor
  · intro calm name apart
    exact (h.sweep filed filed' calm).addressOf? apart
  · intro same
    exact ⟨h.upsets filed filed' same,
      h.symm.upsets filed' filed fun name apart => (same name apart).symm⟩

/-- Both tables lose the same entries. -/
theorem Beside.filter (h : Beside id address own heap heap' table table')
    (keep : Address × ObjectId → Bool) (leave : String × NameEntry → Bool) :
    Beside id address own heap heap' ⟨table.objects.filter keep, table.names.filter leave⟩
      ⟨table'.objects.filter keep, table'.names.filter leave⟩ := by
  have fewer : ∀ t : ObjectTable, t.Secludes id address own →
      ObjectTable.Secludes ⟨t.objects.filter keep, t.names.filter leave⟩ id address own :=
    fun t secluded => secluded.fewer (fun _ kept => (List.mem_filter.mp kept).1)
      fun _ left => (List.mem_filter.mp left).1
  refine ⟨fewer table h.secluded, fewer table' h.secluded', ?_, ?_, h.heaps⟩
  · have same := congrArg (List.filter keep) h.objects
    rwa [objectsBeside, objectsBeside, filter_filter_comm, filter_filter_comm keep] at same
  · have same := congrArg (List.filter leave) h.names
    rwa [namesBeside, namesBeside, filter_filter_comm, filter_filter_comm leave] at same

/-- Stopping to track an address, as one filter of the addresses and one of the names. -/
theorem erase_eq (table : ObjectTable) (place : Address) (alsoNames : Bool) :
    table.erase place alsoNames =
      (⟨table.objects.filter (·.1 ≠ place),
        table.names.filter fun named => !alsoNames || decide (named.2.address ≠ place)⟩,
        (table.object? place).isSome ||
          (alsoNames && table.names.any fun named => decide (named.2.address = place))) := by
  cases alsoNames with
  | false =>
    have all : table.names.filter (fun named => !false || decide (named.2.address ≠ place)) =
        table.names := List.filter_eq_self.mpr fun _ _ => rfl
    rw [all]
    simp [erase]
  | true =>
    have gone : decide ((table.names.filter (·.2.address ≠ place)).length ≠ table.names.length) =
        table.names.any fun named => decide (named.2.address = place) := by
      rw [Bool.eq_iff_iff, decide_eq_true_eq, ne_eq, List.length_filter_eq_length_iff]
      simp
    exact Prod.ext rfl (congrArg ((table.object? place).isSome || ·) gone)

theorem Beside.erase (h : Beside id address own heap heap' table table') (apart : place ≠ address)
    (alsoNames : Bool) :
    (table'.erase place alsoNames).2 = (table.erase place alsoNames).2 ∧
      Beside id address own heap heap' (table.erase place alsoNames).1
        (table'.erase place alsoNames).1 := by
  rw [erase_eq, erase_eq]
  refine ⟨?_, h.filter _ _⟩
  have stands : table'.names.any (fun named => decide (named.2.address = place)) =
      table.names.any fun named => decide (named.2.address = place) := by
    rw [Bool.eq_iff_iff, List.any_eq_true, List.any_eq_true]
    refine exists_congr fun named => and_congr_left fun here => ?_
    have elsewhere : named.2.address ≠ address := of_decide_eq_true here ▸ apart
    constructor
    · intro there
      exact (h.mem_names fun same => elsewhere ((h.secluded'.names named there).mpr same)).mp there
    · intro there
      exact (h.mem_names fun same => elsewhere ((h.secluded.names named there).mpr same)).mpr there
  rw [h.object? apart, stands]

theorem Beside.eraseName (h : Beside id address own heap heap' table table')
    (apart : own ≠ some name) :
    (table'.eraseName name).2 = (table.eraseName name).2 ∧
      Beside id address own heap heap' (table.eraseName name).1 (table'.eraseName name).1 := by
  rw [ObjectTable.eraseName, ObjectTable.eraseName, h.entry? apart]
  cases table.entry? name with
  | none => exact ⟨rfl, h⟩
  | some entry => exact ⟨rfl, h.filter _ _⟩

theorem Beside.find (h : Beside id address own heap heap' table table')
    (apart : own ≠ some name) (kind : Kind) :
    (table'.find heap' name kind).2 = (table.find heap name kind).2 ∧
      Beside id address own heap heap' (table.find heap name kind).1
        (table'.find heap' name kind).1 := by
  rw [ObjectTable.find, ObjectTable.find, ObjectTable.addressOf?, ObjectTable.addressOf?,
    h.entry? apart]
  cases found : table.entry? name with
  | none => exact ⟨rfl, h⟩
  | some entry =>
    have elsewhere := h.secluded.elsewhere apart found
    dsimp only [Option.map_some]
    rw [h.isTracked elsewhere]
    split
    · exact ⟨h.get? elsewhere kind, h⟩
    · exact ⟨rfl, h.filter _ _⟩

/-- The table with a value and, if there is one, its name. -/
def added (table : ObjectTable) (allocation : Allocation) (other : ObjectId) :
    Option String → ObjectTable
  | none => { table with objects := (allocation.address, other) :: table.objects }
  | some name =>
    { objects := (allocation.address, other) :: table.objects
      names := (name, ⟨allocation.address, allocation.datum.kind.typeName⟩) :: table.names }

theorem insert_eq {other : ObjectId} {allocation : Allocation}
    (there : heap.get? other = some allocation) (as : Option String) :
    table.insert heap other as =
      if (table.object? allocation.address).isSome ∨ ∃ n, as = some n ∧ (table.entry? n).isSome
      then none else some (table.added allocation other as) := by
  obtain ⟨place, datum, owners⟩ := allocation
  simp only [insert, there, Option.bind_eq_bind, Option.bind_some]
  cases table.object? place with
  | some _ => simp
  | none =>
    cases as with
    | none => simp [added]
    | some n => cases table.entry? n <;> simp [added]

theorem objectsBeside_added {other : ObjectId} {allocation : Allocation} {as : Option String}
    (elsewhere : allocation.address ≠ address) :
    (table.added allocation other as).objectsBeside address =
      (allocation.address, other) :: table.objectsBeside address := by
  cases as <;> simp [added, objectsBeside, elsewhere]

theorem namesBeside_added {other : ObjectId} {allocation : Allocation} {as : Option String}
    (apart : ∀ n, as = some n → own ≠ some n) :
    (table.added allocation other as).namesBeside own =
      (as.map fun n => (n, ⟨allocation.address, allocation.datum.kind.typeName⟩)).toList ++
        table.namesBeside own := by
  cases as with
  | none => rfl
  | some n => simp [added, namesBeside, apart n rfl]

theorem Secludes.added (h : table.Secludes id address own) {other : ObjectId}
    {allocation : Allocation} {as : Option String}
    (object : allocation.address = address ↔ other = id)
    (called : ∀ n, as = some n → (allocation.address = address ↔ own = some n)) :
    (table.added allocation other as).Secludes id address own := by
  have objects : ∀ tracked ∈ (allocation.address, other) :: table.objects,
      tracked.1 = address ↔ tracked.2 = id := by
    intro tracked there
    rcases List.mem_cons.mp there with rfl | old
    · exact object
    · exact h.objects tracked old
  cases as with
  | none => exact ⟨objects, h.names⟩
  | some n =>
    refine ⟨objects, fun named there => ?_⟩
    rcases List.mem_cons.mp there with rfl | old
    · exact called n rfl
    · exact h.names named old

/-- A value elsewhere, under another name, is tracked in both tables or refused in both. -/
theorem Beside.insert (h : Beside id address own heap heap' table table') {other : ObjectId}
    (differs : other ≠ id)
    (elsewhere : ∀ allocation, heap.get? other = some allocation → allocation.address ≠ address)
    {as : Option String} (apart : ∀ n, as = some n → own ≠ some n) :
    (table.insert heap other as = none ∧ table'.insert heap' other as = none) ∨
      ∃ added added', table.insert heap other as = some added ∧
        table'.insert heap' other as = some added' ∧
        Beside id address own heap heap' added added' := by
  have same := h.heaps other differs
  cases there : heap.get? other with
  | none =>
    rw [there] at same
    exact .inl ⟨by simp [ObjectTable.insert, there], by simp [ObjectTable.insert, same]⟩
  | some allocation =>
    have elsewhere := elsewhere allocation there
    have refusal : ((table'.object? allocation.address).isSome ∨
        ∃ n, as = some n ∧ (table'.entry? n).isSome) ↔
        ((table.object? allocation.address).isSome ∨
          ∃ n, as = some n ∧ (table.entry? n).isSome) := by
      rw [h.object? elsewhere]
      refine or_congr_right (exists_congr fun n => and_congr_right fun called => ?_)
      rw [h.entry? (apart n called)]
    rw [insert_eq there, insert_eq (same.trans there)]
    simp only [refusal]
    split
    · exact .inl ⟨rfl, rfl⟩
    · refine .inr ⟨_, _, rfl, rfl, ?_⟩
      have object : allocation.address = address ↔ other = id := iff_of_false elsewhere differs
      have called : ∀ n, as = some n → (allocation.address = address ↔ own = some n) :=
        fun n same => iff_of_false elsewhere (apart n same)
      refine ⟨h.secluded.added object called, h.secluded'.added object called, ?_, ?_, h.heaps⟩
      · rw [objectsBeside_added elsewhere, objectsBeside_added elsewhere, h.objects]
      · rw [namesBeside_added apart, namesBeside_added apart, h.names]

/-- Tracking the value itself under its own name makes no difference beside it. -/
theorem Secludes.insert_self (h : table.Secludes id address own) {allocation : Allocation}
    (there : heap.get? id = some allocation) (here : allocation.address = address)
    {added : ObjectTable} (inserted : table.insert heap id own = some added) :
    added.Secludes id address own ∧ added.objectsBeside address = table.objectsBeside address ∧
      added.namesBeside own = table.namesBeside own := by
  rw [insert_eq there] at inserted
  split at inserted
  · cases inserted
  · cases inserted
    refine ⟨h.added (iff_of_true here rfl) fun n same => iff_of_true here same, ?_, ?_⟩
    · cases own <;> simp [ObjectTable.added, objectsBeside, here]
    · cases own <;> simp [ObjectTable.added, namesBeside]

end ObjectTable

end ManagedHost
