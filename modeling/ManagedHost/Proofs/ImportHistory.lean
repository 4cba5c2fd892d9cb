import ManagedHost.Proofs.Sparing
import ManagedHost.Proofs.ToldText

/-! # What a history tells about imports

A call of an import asks the runtime for its method unless it was told the address before. The
history says for which load the last runtime was started (`lastLoad`), which import is being called
(`innermostCall`), and which addresses that runtime has named for imports (`found`). While a method
is looked up these stay the same, if nobody calls an import, loads or tears down meanwhile
(`stock_unseen`). -/

namespace ManagedHost

open ManagedHost.Action

/-- The import whose call is the innermost operation of what is under way. -/
def innermostCall : List (List Moment) → Option Import
  | (⟨.began (.call imported _), _⟩ :: _) :: _ => some imported
  | _ => none

/-- The load for which a runtime was started last. -/
def lastLoad : List Moment → Option (BridgeId × Loader)
  | [] => none
  | ⟨.replied (.startUp _ _ _) (.ok _), _⟩ :: earlier => innermostLoad (underway earlier).tail
  | _ :: earlier => lastLoad earlier

/-- The imports for which the runtime started last has named an address, with the addresses, the
last first. When a look-up is answered, it is the first thing under way, and the call that made it
is the second. -/
def found : List Moment → List (Import × Address)
  | [] => []
  | ⟨.replied (.startUp _ _ _) (.ok _), _⟩ :: _ => []
  | ⟨.replied (.createDelegate _ _ _ _ _) (.ok address), _⟩ :: earlier =>
    if address = 0 then found earlier
    else ((innermostCall (underway earlier).tail).map (·, address)).toList ++ found earlier
  | _ :: earlier => found earlier

/-- A call of the import was answered with an address when it asked for a method, and since then no
runtime was started. -/
def Named (imported : Import) (address : Address) (h : List Moment) : Prop :=
  ∃ host started assembly typeName method q earlier,
    ⟨.replied (.createDelegate host started assembly typeName method) (.ok address), q⟩ ::
      earlier <:+ h ∧ innermostCall (underway earlier).tail = some imported ∧ address ≠ 0 ∧
        startedRuntimes h = startedRuntimes earlier ∧ lastLoad h = lastLoad earlier

/-- The look-up whose beginning or end an event is, with the import whose call makes it. -/
def Event.lookUp? (earlier : List Moment) : Event → Option (Import × ForeignCall)
  | .called (.createDelegate host started assembly typeName method) =>
    (innermostCall (underway earlier)).map
      (·, .createDelegate host started assembly typeName method)
  | .replied (.createDelegate host started assembly typeName method) _ =>
    (innermostCall (underway earlier).tail).map
      (·, .createDelegate host started assembly typeName method)
  | _ => none

/-- An operation that calls an import, or brings a runtime up or tears one down. -/
def Operation.usesRuntime : Operation → Bool
  | call _ _ => true
  | operation => operation.hosts

/-- The innermost thing under way is a look-up. -/
abbrev isLookUp : List Moment → Bool := endsWithCall ForeignCall.looksUp

/-- While a method is looked up, nobody calls an import, loads or tears down. -/
abbrev resolvesCalmly (h : List Moment) : Bool := noneBegins Operation.usesRuntime isLookUp h

section

variable {h later : List Moment} {event : Event} {p q : Process}

theorem lastLoad_cons (quiet : event.started? = none) (p : Process) (h : List Moment) :
    lastLoad (⟨event, p⟩ :: h) = lastLoad h := by
  rw [lastLoad.eq_def]
  split
  · next same => cases same
  · next same =>
    cases same
    cases quiet
  · next same =>
    cases same
    rfl

theorem startedRuntimes_cons (quiet : event.started? = none) (p : Process) (h : List Moment) :
    startedRuntimes (⟨event, p⟩ :: h) = startedRuntimes h :=
  List.filterMap_cons_none quiet

theorem lastOwner_eq (h : List Moment) : lastOwner h = (lastLoad h).map Prod.fst := by
  induction h with
  | nil => rfl
  | cons moment earlier ih =>
    obtain ⟨event, p⟩ := moment
    cases event with
    | replied call reply =>
      cases call with
      | startUp => cases reply <;> first | rfl | exact ih
      | _ => exact ih
    | _ => exact ih

theorem innermostCall_began {operation : Operation} (free : operation.usesRuntime = false)
    (q : Process) (earlier : List Moment) (outer : List (List Moment)) :
    innermostCall ((⟨.began operation, q⟩ :: earlier) :: outer) = none := by
  cases operation <;> first | rfl | cases free

theorem found_suffix (quiet : event.started? = none) (p : Process) (h : List Moment) :
    found h <:+ found (⟨event, p⟩ :: h) := by
  rw [found.eq_def (_ :: _)]
  split
  · next same => cases same
  · next same =>
    cases same
    cases quiet
  · next same =>
    cases same
    split
    · exact List.suffix_rfl
    · exact List.suffix_append _ _
  · next same =>
    cases same
    exact List.suffix_rfl

/-- Where no call of an import is the innermost operation, a look-up does not count. -/
theorem found_replied {host : HostId} {started : HostInstance}
    {assembly typeName method : String} (reply : Except Int32 Address)
    (other : innermostCall (underway h).tail = none) :
    found (⟨.replied (.createDelegate host started assembly typeName method) reply, q⟩ :: h) =
      found h := by
  cases reply with
  | error status => rfl
  | ok address =>
    rw [found, other]
    exact ite_self _

/-- What is under way began before. -/
theorem suffix_of_underway {frame : List Moment} (member : frame ∈ underway h) : frame <:+ h := by
  induction h generalizing frame with
  | nil => cases member
  | cons moment earlier ih =>
    have older : ∀ {frames : List (List Moment)}, frame ∈ frames → frames ⊆ underway earlier →
        frame <:+ moment :: earlier := fun member subset =>
      (ih (subset member)).trans (List.suffix_cons _ _)
    obtain ⟨event, p⟩ := moment
    cases event with
    | called | began =>
      rcases List.mem_cons.mp member with rfl | member
      · exact List.suffix_rfl
      · exact older member (List.Subset.refl _)
    | replied | ended => exact older member fun _ => List.mem_of_mem_tail

/-- A call of an import that is under way began. -/
theorem began_of_innermostCall {frames : List (List Moment)} {imported : Import}
    (innermost : innermostCall frames = some imported) (within : frames ⊆ underway h) :
    ∃ args q earlier, ⟨.began (.call imported args), q⟩ :: earlier <:+ h := by
  unfold innermostCall at innermost
  split at innermost
  · next args q earlier rest =>
    cases innermost
    exact ⟨args, q, earlier, suffix_of_underway (within List.mem_cons_self)⟩
  · cases innermost

theorem named_of_found {imported : Import} {address : Address}
    (member : (imported, address) ∈ found h) : Named imported address h := by
  induction h with
  | nil => cases member
  | cons moment earlier ih =>
    obtain ⟨event, p⟩ := moment
    have older : event.started? = none → (imported, address) ∈ found earlier →
        Named imported address (⟨event, p⟩ :: earlier) := by
      intro quiet member
      obtain ⟨host, started, assembly, typeName, method, q, before, suffix, caller, named,
        runtimes, load⟩ := ih member
      exact ⟨host, started, assembly, typeName, method, q, before,
        suffix.trans (List.suffix_cons _ _), caller, named,
        (startedRuntimes_cons quiet p earlier).trans runtimes,
        (lastLoad_cons quiet p earlier).trans load⟩
    cases event with
    | replied call reply =>
      cases call with
      | startUp =>
        cases reply with
        | error status => exact older rfl member
        | ok started => cases member
      | createDelegate host started assembly typeName method =>
        cases reply with
        | error status => exact older rfl member
        | ok address' =>
          rw [found] at member
          split at member
          · exact older rfl member
          · next named =>
            rcases List.mem_append.mp member with now | member
            · rw [Option.mem_toList, Option.map_eq_some_iff] at now
              obtain ⟨_, caller, pair⟩ := now
              cases pair
              exact ⟨host, started, assembly, typeName, method, p, earlier, List.suffix_rfl,
                caller, named, rfl, rfl⟩
            · exact older rfl member
      | _ => exact older rfl member
    | _ => exact older rfl member

/-- As long as no runtime is started, the last load is the same, and no address is forgotten. -/
theorem lasting_of_started (grown : h <:+ later)
    (same : startedRuntimes later = startedRuntimes h) :
    lastLoad later = lastLoad h ∧ found h <:+ found later := by
  obtain ⟨since, rfl⟩ := grown
  have quiet : since.filterMap (·.event.started?) = [] :=
    List.append_left_eq_self.mp (List.filterMap_append.symm.trans same)
  clear same
  induction since with
  | nil => exact ⟨rfl, List.suffix_rfl⟩
  | cons moment since ih =>
    rw [List.filterMap_eq_nil_iff, List.forall_mem_cons] at quiet
    obtain ⟨load, more⟩ := ih (List.filterMap_eq_nil_iff.mpr quiet.2)
    exact ⟨(lastLoad_cons quiet.1 _ _).trans load, more.trans (found_suffix quiet.1 _ _)⟩

theorem found_of_named {imported : Import} {address : Address} (named : Named imported address h) :
    (imported, address) ∈ found h := by
  obtain ⟨host, started, assembly, typeName, method, q, earlier, suffix, caller, named, runtimes,
    -⟩ := named
  refine (lasting_of_started suffix runtimes).2.subset ?_
  rw [found, if_neg named, caller]
  exact List.mem_cons_self

end

/-! ## What a look-up leaves alone -/

/-- What a history and a process say about imports, and about the runtime that is asked for their
methods. -/
structure Stock where
  found : List (Import × Address)
  lastLoad : Option (BridgeId × Loader)
  started : List (HostId × HostInstance)
  imports : BridgeId → List (ImportId × Address)
  isLive : BridgeId → Bool
  /-- The runtime of a bridge and the assembly in which it looks methods up by default. -/
  runtime : BridgeId → Option ((HostId × HostInstance) × String)

def stock (h : List Moment) (p : Process) : Stock where
  found := found h
  lastLoad := lastLoad h
  started := startedRuntimes h
  imports b := (p.bridge b).imports
  isLive b := (p.bridge b).isLive
  runtime b := (p.bridge b).host.map fun live => ((live.host, live.started), live.defaultAssembly)

section

variable {h h' : List Moment} {p p' : Process}

@[simp] theorem isLive_stock (h : List Moment) (p : Process) (b : BridgeId) :
    (stock h p).isLive b = (p.bridge b).isLive := rfl

@[simp] theorem runtime_stock (h : List Moment) (p : Process) (b : BridgeId) :
    (stock h p).runtime b = (p.bridge b).host.map fun live =>
      ((live.host, live.started), live.defaultAssembly) := rfl

theorem stock_updateBridge (h : List Moment) (p : Process) {b : BridgeId} {f : Bridge → Bridge}
    (imports : (f (p.bridge b)).imports = (p.bridge b).imports)
    (isLive : (f (p.bridge b)).isLive = (p.bridge b).isLive)
    (runtime : ((f (p.bridge b)).host.map fun live =>
      ((live.host, live.started), live.defaultAssembly)) = (stock h p).runtime b) :
    stock h (p.updateBridge b f) = stock h p := by
  have views : ∀ {α : Type} (view : Bridge → α), view (f (p.bridge b)) = view (p.bridge b) →
      (fun c => view ((p.updateBridge b f).bridge c)) = fun c => view (p.bridge c) :=
    fun view same => funext (Process.view_updateBridge view p same)
  simp only [stock, views (·.imports) imports, views (·.isLive) isLive,
    views (fun bridge => bridge.host.map _) runtime]

/-- Only a call of an import changes what a bridge keeps for imports. -/
theorem Effect.imports {operation : Operation} (step : Effect operation p p')
    (free : operation.usesRuntime = false) (b : BridgeId) :
    (p'.bridge b).imports = (p.bridge b).imports := by
  cases step with
  | @bound _ _ holder _ _ _ _ added =>
    obtain ⟨adapters, registry, rfl⟩ := Process.register_ok added
    exact Process.view_setRegistry (·.imports) (fun _ _ => rfl) _ holder registry b
  | cleared _ holder => exact Process.view_setRegistry (·.imports) (fun _ _ => rfl) _ holder [] b
  | kept | seated | heap => rfl
  | declared _ c | objects _ _ c => exact Process.view_updateBridge (·.imports) p rfl b
  | resolved => cases free

/-- Only calls of imports, loads and teardowns change the stock. -/
theorem stock_unseen : Unseen Operation.usesRuntime stock where
  hosts operation hosts := by
    cases operation <;> first | rfl | cases hosts
  entry _ _ := rfl
  effect free step := by
    have same := step.change.hosting
    simp only [stock, step.imports free, same.live, same.host]
  called _ := rfl
  replied {_ _ _ call} reply idle other := by
    cases call with
    | startUp => cases idle
    | createDelegate => cases other
    | _ => rfl
  lookedUp reply operation r earlier outer caller free := by
    simp only [stock, found_replied reply (caller ▸ innermostCall_began free r earlier outer)]
    rfl
  began _ _ := rfl
  ended _ _ := rfl

end

end ManagedHost
