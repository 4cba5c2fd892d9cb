import ManagedHost.Proofs.UnrelatedDeath
import Mathlib.Data.List.Nodup

/-! # What sweeping leaves

A sweep removes just the values that have died and tells how many they were; every live value stays,
with every name that stands for it, and a second sweep does nothing. After it every name stands for
a tracked address, save where no value had died and a name was left over before (`sweep_settles`).
A name can be left over only once a bridge stopped tracking a value and was asked to keep its names:
before that, names and addresses come and go together (`ObjectTable.Paired`). -/

namespace ManagedHost

open ManagedHost.Action

/-! ## The table -/

namespace ObjectTable

/-- Every name stands for an address that is in the table. -/
def Resolves (table : ObjectTable) : Prop :=
  ∀ name entry, table.entry? name = some entry → (table.object? entry.address).isSome = true

/-- Every name stands for an address that is in the table, and no two names for the same one. -/
structure Paired (table : ObjectTable) : Prop where
  tracked : ∀ named ∈ table.names, ∃ tracked ∈ table.objects, tracked.1 = named.2.address
  apart : (table.names.map (·.2.address)).Nodup

/-- A sweep of a table, of which `swept` is left. -/
structure Sweeps (heap : Heap) (table swept : ObjectTable) (removed : Nat) : Prop where
  /-- No address has two entries, so that entries can be counted. -/
  distinct : (table.objects.map Prod.fst).Nodup
  /-- Of the values just the live ones stay, each at its address. -/
  objects : ∀ address id, swept.object? address = some id ↔
    table.object? address = some id ∧ heap.isAlive id = true
  counted : swept.size + removed = table.size
  /-- A name that stays stands for what it stood for. -/
  unchanged : ∀ name entry, swept.entry? name = some entry → table.entry? name = some entry
  /-- A name that stands for a live value stays. -/
  kept : ∀ name entry, table.entry? name = some entry →
    table.isTracked heap entry.address = true → swept.entry? name = some entry
  /-- No name is left over, unless one was before and no value had died. -/
  resolves : swept.Resolves ↔ removed ≠ 0 ∨ table.Resolves

variable {heap : Heap} {made : String → Option ObjectId} {table : ObjectTable}

/-! ### Sweeping -/

theorem sweep_eq_of_allAlive (alive : table.AllAlive heap) : table.sweep heap = (table, 0) := by
  have all : (table.objects.filter fun tracked => heap.isAlive tracked.2) = table.objects :=
    List.filter_eq_self.mpr alive
  rw [sweep, all, if_pos (Nat.sub_self _)]

theorem removed_sweep (heap : Heap) (table : ObjectTable) : (table.sweep heap).2 =
    table.objects.length - (table.objects.filter fun tracked => heap.isAlive tracked.2).length := by
  rw [sweep]
  split
  · next none => exact none.symm
  · rfl

theorem removed_eq_zero_iff : (table.sweep heap).2 = 0 ↔ table.AllAlive heap := by
  rw [removed_sweep, AllAlive, ← List.length_filter_eq_length_iff]
  have atMost := List.length_filter_le (fun tracked => heap.isAlive tracked.2) table.objects
  omega

theorem allAlive_sweep (heap : Heap) (table : ObjectTable) :
    (table.sweep heap).1.AllAlive heap := by
  intro tracked there
  rw [objects_sweep] at there
  exact (List.mem_filter.mp there).2

/-- Once a value was removed, no name is left over. -/
theorem resolves_sweep_of_dead (filed : table.Filed heap made) (dead : ¬ table.AllAlive heap) :
    ObjectTable.Resolves (table.sweep heap).1 := by
  intro name entry found
  obtain ⟨-, tracked | alive⟩ := (entry_sweep filed name entry).mp found
  · rw [isSome_object?_sweep filed]
    exact tracked
  · exact absurd alive dead

theorem Filed.sweeps (filed : table.Filed heap made) :
    Sweeps heap table (table.sweep heap).1 (table.sweep heap).2 where
  distinct := filed.distinct
  objects address id := by
    rw [object?_sweep filed, Option.filter_eq_some_iff]
  counted := by
    have atMost := List.length_filter_le (fun tracked => heap.isAlive tracked.2) table.objects
    rw [removed_sweep, size, size, objects_sweep]
    omega
  unchanged name entry found := ((entry_sweep filed name entry).mp found).1
  kept name entry found tracked := (entry_sweep filed name entry).mpr ⟨found, .inl tracked⟩
  resolves := by
    by_cases alive : table.AllAlive heap
    · have none : (table.sweep heap).2 = 0 := removed_eq_zero_iff.mpr alive
      rw [sweep_of_allAlive alive]
      simp [none]
    · exact iff_of_true (resolves_sweep_of_dead filed alive)
        (.inl fun none => alive (removed_eq_zero_iff.mp none))

/-! ### Names and addresses that come and go together -/

theorem Paired.resolves (paired : table.Paired) : table.Resolves := by
  intro name entry found
  obtain ⟨tracked, there, same⟩ := paired.tracked (name, entry) (mem_of_lookup found)
  rw [Option.isSome_iff_ne_none]
  intro missing
  exact not_mem_keys_iff.mpr missing (List.mem_map.mpr ⟨tracked, there, same⟩)

theorem paired_empty : Paired {} := ⟨nofun, .nil⟩

/-- With fewer entries names and addresses are still paired, if what the names left stand for is
left. -/
theorem Paired.fewer (paired : table.Paired) {keep : Address × ObjectId → Bool}
    {stay : String × NameEntry → Bool}
    (follows : ∀ named ∈ table.names, stay named = true →
      ∃ tracked ∈ table.objects, keep tracked = true ∧ tracked.1 = named.2.address) :
    ObjectTable.Paired ⟨table.objects.filter keep, table.names.filter stay⟩ where
  tracked named left := by
    obtain ⟨there, stays⟩ := List.mem_filter.mp left
    obtain ⟨tracked, here, kept, same⟩ := follows named there stays
    exact ⟨tracked, List.mem_filter.mpr ⟨here, kept⟩, same⟩
  apart := (List.filter_sublist.map _).nodup paired.apart

/-- A name goes together with what is at the address that it stands for. -/
theorem Paired.without (paired : table.Paired) {name : String} {entry : NameEntry}
    (found : table.entry? name = some entry) : ObjectTable.Paired
      ⟨table.objects.filter (·.1 ≠ entry.address), table.names.filter (·.1 ≠ name)⟩ := by
  refine paired.fewer fun named there stays => ?_
  have differs : named.1 ≠ name := by simpa using stays
  obtain ⟨tracked, here, same⟩ := paired.tracked named there
  refine ⟨tracked, here, ?_, same⟩
  -- No other name stands for that address.
  have elsewhere : named.2.address ≠ entry.address := by
    intro shared
    have one := List.inj_on_of_nodup_map paired.apart there (mem_of_lookup found) shared
    exact differs (congrArg Prod.fst one)
  simpa [same] using elsewhere

theorem Paired.sweep (paired : table.Paired) (heap : Heap) : (table.sweep heap).1.Paired := by
  by_cases alive : table.AllAlive heap
  · rw [sweep_of_allAlive alive]
    exact paired
  · rw [ObjectTable.sweep, if_neg]
    · refine paired.fewer fun named there stays => ?_
      obtain ⟨tracked, left, same⟩ := List.any_eq_true.mp stays
      obtain ⟨here, lives⟩ := List.mem_filter.mp left
      exact ⟨tracked, here, lives, by simpa using same⟩
    · rw [← removed_sweep]
      exact fun none => alive (removed_eq_zero_iff.mp none)

/-- A value is forgotten with its names. -/
theorem Paired.erase (paired : table.Paired) (address : Address) :
    (table.erase address true).1.Paired := by
  refine paired.fewer fun named there stays => ?_
  obtain ⟨tracked, here, same⟩ := paired.tracked named there
  refine ⟨tracked, here, ?_, same⟩
  simpa [same] using stays

theorem Paired.eraseName (paired : table.Paired) (name : String) :
    (table.eraseName name).1.Paired := by
  rw [ObjectTable.eraseName]
  cases found : table.entry? name with
  | none => exact paired
  | some entry => exact paired.without found

theorem Paired.find (paired : table.Paired) (heap : Heap) (name : String) (kind : Kind) :
    (table.find heap name kind).1.Paired := by
  rw [ObjectTable.find, addressOf?]
  cases found : table.entry? name with
  | none => exact paired
  | some entry =>
    dsimp only [Option.map_some]
    split
    · exact paired
    · exact paired.without found

theorem Paired.insert (paired : table.Paired) {id : ObjectId} {name : Option String}
    {table' : ObjectTable} (added : table.insert heap id name = some table') : table'.Paired := by
  have still : ∀ {address}, ∀ named ∈ table.names,
      ∃ tracked ∈ (address, id) :: table.objects, tracked.1 = named.2.address := by
    intro address named old
    obtain ⟨tracked, here, same⟩ := paired.tracked named old
    exact ⟨tracked, List.mem_cons_of_mem _ here, same⟩
  cases inserts_of_insert added with
  | unnamed => exact ⟨still, paired.apart⟩
  | named _ free =>
    refine ⟨fun named member => ?_, List.nodup_cons.mpr ⟨?_, paired.apart⟩⟩
    · rcases List.mem_cons.mp member with rfl | old
      · exact ⟨_, List.mem_cons_self, rfl⟩
      · exact still named old
    · -- The address was free, so that no name stood for it.
      intro shared
      obtain ⟨named, old, same⟩ := List.mem_map.mp shared
      obtain ⟨tracked, here, same'⟩ := paired.tracked named old
      exact not_mem_keys_iff.mpr free (List.mem_map.mpr ⟨tracked, here, same'.trans same⟩)

end ObjectTable

/-! ## Names that are kept -/

/-- The bridge has not stopped tracking any value with its names to be kept. -/
def NoNameKept (b : BridgeId) (h : List Moment) : Prop :=
  ∀ moment ∈ h, ∀ address removed, moment.event ≠ .ended (.untrack b address false) removed

/-- As long as no name was kept, the table of a bridge is paired. -/
def PairedTables (h : List Moment) (p : Process) : Prop :=
  ∀ b, NoNameKept b h → (p.bridge b).objects.Paired

theorem NoNameKept.of_suffix {b : BridgeId} {h h' : List Moment} (none : NoNameKept b h')
    (suffix : h <:+ h') : NoNameKept b h :=
  fun moment there => none moment (suffix.subset there)

/-- Bringing up and tearing down leave every table alone or empty it. -/
theorem HostingStep.objects {p p' : Process} (step : HostingStep p p') (b : BridgeId) :
    (p'.bridge b).objects = (p.bridge b).objects ∨ (p'.bridge b).objects = {} := by
  cases step with
  | bringUp | tell | hook | takeDown => exact .inl (Process.view_updateBridge (·.objects) p rfl b)
  | claim | free | expect | expectNone | release => exact .inl rfl
  | empty c =>
    rw [Process.empty]
    by_cases same : b = c
    · subst same
      exact .inr (congrArg Bridge.objects (Process.bridge_updateBridge_self _ _ _))
    · rw [Process.bridge_updateBridge_of_ne _ same]
      exact .inl (((Effect.cleared p (.bridge c)).sameTables rfl).objects b)

namespace PairedTables

variable {h : List Moment} {p p' : Process}

theorem cons (paired : PairedTables h p) (moment : Moment) : PairedTables (moment :: h) p :=
  fun b none => paired b (none.of_suffix (List.suffix_cons _ _))

/-- An operation on objects, with the event of its end. -/
theorem operation {operation : Operation} {foreign : Foreign} {result : operation.Result}
    {w w' : World} (about : operation.isAboutObjects = true)
    (ran : Returns (operation.perform foreign) w result w')
    (paired : PairedTables w.history w.process) :
    PairedTables (⟨.ended operation result, w'.process⟩ :: w.history) w'.process := by
  intro c none
  have before := paired c (none.of_suffix (List.suffix_cons _ _))
  have put : ∀ {b : BridgeId} {q : Process} {objects : ObjectTable},
      (q.bridge c).objects.Paired → (b = c → objects.Paired) →
        ((q.putObjects b objects).bridge c).objects.Paired := by
    intro b q objects others changed
    by_cases same : c = b
    · subst same
      rw [Process.objects_putObjects]
      exact changed rfl
    · rw [Process.objects_putObjects_of_ne q same]
      exact others
  have swept : ∀ b, ((w.process.swept b).bridge c).objects.Paired := by
    intro b
    refine put before ?_
    rintro rfl
    exact before.sweep _
  have sweptObjects : ∀ b, b = c → (w.process.sweptObjects b).Paired := by
    rintro b rfl
    exact before.sweep _
  cases operation with
  | create address datum =>
    rcases Returns.create ran with ⟨-, same⟩ | ⟨-, made⟩
    · rwa [same]
    · rwa [made]
  | own id =>
    rwa [Returns.updateProcess (f := fun p => { p with heap := p.heap.own id }) ran]
  | disown id =>
    rwa [Returns.updateProcess (f := fun p => { p with heap := p.heap.disown id }) ran]
  | track b id name =>
    rcases Returns.track ran with ⟨-, rfl, same⟩ | ⟨objects, added, rfl, grown⟩
    · rw [same]
      exact swept b
    · rw [grown]
      exact put (swept b) fun same => (sweptObjects b same).insert added
  | untrack b address alsoNames =>
    rw [(Returns.untrack ran).2]
    refine put (swept b) ?_
    rintro rfl
    cases alsoNames with
    | true => exact (sweptObjects b rfl).erase address
    | false => exact absurd rfl (none _ List.mem_cons_self address result)
  | untrackName b name =>
    rw [(Returns.untrackName ran).2]
    exact put (swept b) fun same => (sweptObjects b same).eraseName name
  | find b name kind =>
    rw [(Returns.find ran).2]
    refine put before ?_
    rintro rfl
    exact before.find _ name kind
  | sweep b =>
    rw [(Returns.sweep ran).2]
    exact swept b
  | clearObjects b =>
    rw [Returns.setObjects ran]
    exact put before fun _ => ObjectTable.paired_empty
  | _ => cases about

theorem start : PairedTables [] {} := fun _ _ => ObjectTable.paired_empty

/-- All through every run the tables are paired, as long as no name was kept. -/
theorem lasting : Lasting Operation.isAboutObjects PairedTables where
  silent _ := Operation.isSilent_of_isAboutObjects
  called _ paired := paired.cons _
  replied _ _ paired := paired.cons _
  began _ paired := paired.cons _
  ended _ _ paired := paired.cons _
  effect other step paired b none := by
    rw [(step.sameTables other).objects b]
    exact paired b none
  host step paired b none := by
    rcases step.objects b with same | emptied
    · rw [same]
      exact paired b none
    · rw [emptied]
      exact ObjectTable.paired_empty
  atOnce about ran paired := paired.operation about ran

end PairedTables

/-! ## Sweeping -/

/-- Some values lose owners, one after the other. -/
inductive GivesUp (foreign : Foreign) (w : World) : World → Prop
  | none : GivesUp foreign w w
  | one {id : ObjectId} {w₁ w₂ : World} (before : GivesUp foreign w w₁)
      (ran : Returns ((Operation.disown id).run foreign) w₁ () w₂) : GivesUp foreign w w₂

/-- What comes of asking a bridge to sweep. -/
structure SweepAnswer (b : BridgeId) (w : World) (removed : Nat) (w' : World) : Prop where
  sweeps : (w.process.bridge b).objects.Sweeps w.process.heap (w'.process.bridge b).objects removed
  /-- Nothing but the table of the bridge changes, and the log. -/
  others : w'.process = w.process.putObjects b (w'.process.bridge b).objects ∧
    w'.history = w.history
  /-- As long as no name was kept, none is left over. -/
  paired : NoNameKept b w.history → (w'.process.bridge b).objects.Resolves
  /-- A second sweep does nothing at all. -/
  again : Returns (sweep b) w' 0 w'

section

variable {foreign : Foreign} {b : BridgeId} {w₀ w w' : World}

/-- Tables are as they were when values lose owners. -/
theorem GivesUp.keeps (h : GivesUp foreign w₀ w) (filed : FiledTables w₀.history w₀.process)
    (paired : PairedTables w₀.history w₀.process) :
    FiledTables w.history w.process ∧ PairedTables w.history w.process := by
  induction h with
  | none => exact ⟨filed, paired⟩
  | @one id w₁ _ before ran ih =>
    have about : (Operation.disown id).isAboutObjects = true := rfl
    refine ⟨ih.1.run about ran, fun c none => ?_⟩
    obtain ⟨w₂, performed, rfl⟩ := ran.run
    have done : w₂ = _ :=
      Returns.updateProcess (f := fun p => { p with heap := p.heap.disown id }) performed
    subst done
    exact ih.2 c (none.of_suffix ((List.suffix_cons _ _).trans (List.suffix_cons _ _)))

theorem Process.putObjects_putObjects (p : Process) (b : BridgeId) (objects : ObjectTable) :
    (p.putObjects b objects).putObjects b objects = p.putObjects b objects := by
  simp [putObjects, updateBridge, bridge, Table.put, Table.row, List.filter_filter]

/-- Where no value has died and the table is in place, a sweep does nothing. -/
theorem Action.Returns.sweepIdle
    (alive : (w.process.bridge b).objects.AllAlive w.process.heap)
    (placed : w.process.putObjects b (w.process.bridge b).objects = w.process) :
    Returns (Action.sweep b) w 0 w := by
  have same : Returns (Action.setObjects b (w.process.bridge b).objects) w ()
      (w.put (w.process.putObjects b (w.process.bridge b).objects)) := rfl
  rw [placed] at same
  change Returns (do
    Action.setObjects b ((w.process.bridge b).objects.sweep w.process.heap).1
    if ((w.process.bridge b).objects.sweep w.process.heap).2 ≠ 0 then
      Action.log .debug .objects ("Swept " ++
        toString ((w.process.bridge b).objects.sweep w.process.heap).2 ++ " dead tracked objects")
    return ((w.process.bridge b).objects.sweep w.process.heap).2) w 0 w
  rw [ObjectTable.sweep_eq_of_allAlive alive]
  exact same.then (.returned _ _)

/-- Whatever happened and whichever values have died since, a sweep keeps just the live values and
the names that stand for them, tells how many it removed, and leaves nothing to a second one. It
leaves no name over if it removed a value or none was left over before, and so none as long as no
name was kept when a value was not tracked any more. -/
theorem sweep_settles (reached : w₀.Reached) (died : GivesUp foreign w₀ w) (b : BridgeId) :
    ∃ removed w', Returns (sweep b) w removed w' ∧ SweepAnswer b w removed w' := by
  obtain ⟨filed, paired⟩ := died.keeps (reached.lasting FiledTables.start FiledTables.lasting).now
    (reached.lasting PairedTables.start PairedTables.lasting).now
  obtain ⟨removed, w', ran⟩ := Returns.exists (sweep b) w
  refine ⟨removed, w', ran, ?_⟩
  obtain ⟨told, process⟩ := ran.sweep
  have history : w'.history = w.history :=
    @Operation.history_perform_silent foreign (.sweep b) removed w w' rfl ran
  have table : (w'.process.bridge b).objects =
      ((w.process.bridge b).objects.sweep w.process.heap).1 := by
    rw [process, Process.objects_swept]
    rfl
  have alive : (w'.process.bridge b).objects.AllAlive w'.process.heap := by
    rw [table, process]
    exact ObjectTable.allAlive_sweep _ _
  refine ⟨?_, ⟨?_, history⟩, fun none => ?_, .sweepIdle alive ?_⟩
  · rw [table, told]
    exact (filed b).sweeps
  · rw [table, process]
    rfl
  · rw [table]
    exact ((paired b none).sweep _).resolves
  · rw [table, process]
    exact Process.putObjects_putObjects _ _ _

end

/-- A number and a text are tracked under names. -/
def twoNamed : Conduct Unit := do
  let _ ← Conduct.doing (.create 8 (.number 1))
  let _ ← Conduct.doing (.create 16 (.text "text"))
  let _ ← Conduct.doing (.track 0 0 (some "number"))
  let _ ← Conduct.doing (.track 0 1 (some "text"))

/-- The world after that. -/
def numberAndText : World :=
  Outside.leads (fun _ call => .reply call.inertReply) 0 twoNamed {} []

/-- The number dies, and the bridge is asked to sweep. -/
theorem number_swept :
    numberAndText.Reached ∧
      GivesUp (fun call => pure call.inertReply) numberAndText (numberAndText.doing (.disown 0)) ∧
      ∃ removed w', Returns (sweep 0) (numberAndText.doing (.disown 0)) removed w' ∧
        SweepAnswer 0 (numberAndText.doing (.disown 0)) removed w' := by
  have reached : numberAndText.Reached := .atEnd _ _ _ _ _ rfl rfl
  have died : GivesUp (fun call => pure call.inertReply) numberAndText
      (numberAndText.doing (.disown 0)) := .one .none (.intro _ _)
  exact ⟨reached, died, sweep_settles reached died 0⟩

/-- A name that was kept stays after a sweep, although nothing is tracked where it points. -/
theorem kept_name_unswept : nameLeftOver.Reached ∧
    GivesUp (fun call => pure call.inertReply) nameLeftOver nameLeftOver ∧
    ¬ ∀ removed w', Returns (sweep 0) nameLeftOver removed w' →
      (w'.process.bridge 0).objects.Resolves := by
  refine ⟨nameLeftOver_reached, .none, fun claimed => ?_⟩
  have left : ((((sweep 0).run nameLeftOver).2.process.bridge 0).objects.entry? "x").isSome = true ∧
      ((((sweep 0).run nameLeftOver).2.process.bridge 0).objects.objects = []) := by
    decide +kernel
  obtain ⟨named, empty⟩ := left
  obtain ⟨entry, found⟩ := Option.isSome_iff_exists.mp named
  have tracked := claimed _ _ (.intro _ _) "x" entry found
  rw [ObjectTable.object?, empty] at tracked
  cases tracked

end ManagedHost
