import ManagedHost.Proofs.History

/-! # What a history tells of loads

A load succeeds right after its load method returned, and a load method that returned is followed
by the success of its load (`Reported`). Both can be read off the history: `Event.told?` are the
replies of load methods, and `Event.loaded?` the successes. The unload method that a load keeps for
later is one that a runtime named since the load began (`Hooked`). -/

namespace ManagedHost

/-- The bridge whose load method an event is the reply of. -/
def Event.told? : Event → Option BridgeId
  | .replied (.managed (.load b) _ _ _) _ => some b
  | _ => none

/-- The load that an event is the success of. -/
def Event.loaded? : Event → Option (BridgeId × Loader)
  | .ended (.load b loader) (.ok ()) => some (b, loader)
  | _ => none

/-- An event by which the exit target is set or given up without a load or a teardown. -/
def Event.aims : Event → Bool
  | .began (.registerExit _) | .began (.releaseExit _) => true
  | _ => false

/-- The exit target was set and given up by loads and teardowns only. -/
def Unaided (h : List Moment) : Prop := ∀ m ∈ h, m.event.aims = false

/-- Every load method that was called left its bridge live. -/
def AllStay (h : List Moment) : Prop :=
  ∀ m ∈ h, ∀ b ∈ m.event.told?, (m.process.bridge b).isLive = true

/-- Since the innermost operation under way began, a runtime answered with an address when asked
for a method. -/
def RepliedSince (operation : Operation) (h : List Moment) (typeName method : String)
    (address : Address) : Prop :=
  ∃ p before outer host inst assembly q since,
    underway h = (⟨.began operation, p⟩ :: before) :: outer ∧
      ⟨.began operation, p⟩ :: before <:+ since ∧
      ⟨.replied (.createDelegate host inst assembly typeName method) (.ok address), q⟩ :: since <:+
        h

/-- The runtime of a bridge, if it has one, is to be told its end by the unload method that was
looked up since the load began. -/
def Hooked (b : BridgeId) (loader : Loader) (h : List Moment) (p : Process) : Prop :=
  ∀ live, (p.bridge b).host = some live →
    ∃ address, live.unload = some (loader.unloadName, address) ∧
      RepliedSince (.load b loader) h loader.entryType loader.unloadMethod address

/-- Every load that succeeded did so right after its load method returned, and left the bridge as
live as that did; and every load method that returned was followed by such a success. -/
structure Reported (h : List Moment) : Prop where
  loaded : ∀ m earlier b loader, m :: earlier <:+ h → m.event.loaded? = some (b, loader) →
    Hooked b loader earlier m.process ∧
      ∃ told before, earlier = told :: before ∧ told.event.told? = some b ∧
        (m.process.bridge b).isLive = (told.process.bridge b).isLive
  told : ∀ told before b, told :: before <:+ h → told.event.told? = some b →
    ∃ m loader, m :: told :: before <:+ h ∧ m.event.loaded? = some (b, loader) ∧
      (m.process.bridge b).isLive = (told.process.bridge b).isLive

theorem Reported.nil : Reported [] :=
  ⟨fun _ _ _ _ h => (nomatch List.suffix_nil.mp h), fun _ _ _ h => (nomatch List.suffix_nil.mp h)⟩

/-- Anything else that happens makes no difference. -/
theorem Reported.cons {h : List Moment} (hr : Reported h) {m : Moment}
    (ht : m.event.told? = none) (hl : m.event.loaded? = none) : Reported (m :: h) := by
  constructor
  · intro m' earlier b loader hm hm'
    rcases List.suffix_cons_iff.mp hm with hm | hm
    · cases hm
      rw [hl] at hm'
      cases hm'
    · exact hr.loaded m' earlier b loader hm hm'
  · intro told before b hm hm'
    rcases List.suffix_cons_iff.mp hm with hm | hm
    · cases hm
      rw [ht] at hm'
      cases hm'
    · obtain ⟨m', loader, hs, hl', same⟩ := hr.told told before b hm hm'
      exact ⟨m', loader, hs.trans (List.suffix_cons m h), hl', same⟩

/-- A load method returns, and its load succeeds. -/
theorem Reported.succeed {h : List Moment} (hr : Reported h) {m told : Moment} {b : BridgeId}
    {loader : Loader} (hm : m.event = .ended (.load b loader) (.ok ()))
    (ht : told.event.told? = some b) (hook : Hooked b loader (told :: h) m.process)
    (same : (m.process.bridge b).isLive = (told.process.bridge b).isLive) :
    Reported (m :: told :: h) := by
  have notLoaded : told.event.loaded? = none := by
    obtain ⟨event, p⟩ := told
    cases event with
    | replied => rfl
    | _ => cases ht
  constructor
  · intro m' earlier b' loader' hs hm'
    rcases List.suffix_cons_iff.mp hs with hs | hs
    · cases hs
      rw [hm] at hm'
      cases hm'
      exact ⟨hook, told, h, rfl, ht, same⟩
    · rcases List.suffix_cons_iff.mp hs with hs | hs
      · cases hs
        rw [notLoaded] at hm'
        cases hm'
      · exact hr.loaded m' earlier b' loader' hs hm'
  · intro told' before b' hs ht'
    rcases List.suffix_cons_iff.mp hs with hs | hs
    · cases hs
      rw [hm] at ht'
      cases ht'
    · rcases List.suffix_cons_iff.mp hs with hs | hs
      · cases hs
        rw [ht] at ht'
        cases ht'
        exact ⟨m, loader, List.suffix_rfl, by rw [hm]; rfl, same⟩
      · obtain ⟨m', loader', hs', hl', same'⟩ := hr.told told' before b' hs ht'
        have longer : told :: h <:+ m :: told :: h := List.suffix_cons m _
        exact ⟨m', loader', hs'.trans ((List.suffix_cons told h).trans longer), hl', same'⟩

end ManagedHost
