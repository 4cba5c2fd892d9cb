import ManagedHost.Proofs.Aim

/-! # What the end of the process shuts down

A successful load should leave its bridge live and the one to be torn down at the end of the
process. It does exactly as long as no load method leaves its bridge torn down
(`all_stay_iff_exitIsLive`): a load does not look again at its bridge after it called the load
method, so a bridge that was torn down meanwhile is registered all the same
(`stopped_load_is_registered`), and if another bridge was loaded meanwhile, that one is not. -/

namespace ManagedHost

open ManagedHost.Action

/-- If nothing is under way, the exit target is the live bridge. -/
def Targeted (h : List Moment) (p : Process) : Prop :=
  underway h = [] → ∀ b, p.exitTarget = some b ↔ (p.bridge b).isLive = true

/-- Every load that succeeded left its bridge live, with a runtime whose end is to be told to the
unload method that was looked up during the load. -/
def LoadsLive (h : List Moment) : Prop :=
  ∀ m earlier b loader, m :: earlier <:+ h → m.event.loaded? = some (b, loader) →
    (m.process.bridge b).isLive = true ∧ (m.process.bridge b).host.isSome = true ∧
      Hooked b loader earlier m.process

/-- Loads leave live bridges, the exit target is the live bridge, and the end of the process shuts
the live runtime down, if there is one, and does nothing else. -/
structure ExitIsLive (foreign : Foreign) (w : World) : Prop where
  loads : LoadsLive w.history
  always : Recorded Targeted w.history
  now : ∀ b, w.process.exitTarget = some b ↔ (w.process.bridge b).isLive = true
  shuts : ∀ b live, (w.process.bridge b).host = some live →
    ∃ w', Returns (runExitTeardown foreign) w true w' ∧
      Over ((live.host, live.started) :: shutRuntimes w.history) [] w'
  rests : (∀ b, (w.process.bridge b).isLive = false) → Returns (runExitTeardown foreign) w false w

variable {foreign : Foreign} {w w' : World}

theorem Aim.targeted {h : List Moment} {p : Process} (ha : Aim h p) : Targeted h p := by
  intro quiet b
  have closing : isClosing h = false := by rw [isClosing, quiet]; rfl
  refine ⟨ha.named closing b, fun isLive => (ha.waiting b isLive).resolve_right ?_⟩
  rintro ⟨loader, p, before, hm⟩
  rw [quiet] at hm
  cases hm

/-- The load method that a success reports on was replied before. -/
theorem Reported.loadsLive {h : List Moment} (hr : Reported h) (hs : Recorded Stance h)
    (stay : AllStay h) : LoadsLive h := by
  intro m earlier b loader hm loaded
  obtain ⟨hook, told, before, rfl, ht, same⟩ := hr.loaded m earlier b loader hm loaded
  have replied : told ∈ h := hm.subset (List.mem_cons_of_mem _ List.mem_cons_self)
  have isLive : (m.process.bridge b).isLive = true := by
    rw [same]
    exact stay told replied b ht
  obtain ⟨live, -, up, -⟩ := (hs m _ hm).up_of_isLive isLive
  exact ⟨isLive, by rw [up.host]; rfl, hook⟩

/-- The success that follows the reply of a load method reports on it. -/
theorem Reported.allStay {h : List Moment} (hr : Reported h) (hl : LoadsLive h) : AllStay h := by
  intro told hm b ht
  obtain ⟨later, before, rfl⟩ := List.append_of_mem hm
  obtain ⟨m, loader, hs, loaded, same⟩ := hr.told told before b ⟨later, rfl⟩ ht
  rw [← same]
  exact (hl m _ b loader hs loaded).1

theorem exit_shuts (hf : Respects Stance Steadfast foreign) (hs : Sound Stance w)
    (quiet : underway w.history = [])
    (now : ∀ b, w.process.exitTarget = some b ↔ (w.process.bridge b).isLive = true) {b : BridgeId}
    {live : LiveHost} (host : (w.process.bridge b).host = some live) :
    ∃ w', Returns (runExitTeardown foreign) w true w' ∧
      Over ((live.host, live.started) :: shutRuntimes w.history) [] w' := by
  have isLive : (w.process.bridge b).isLive = true := by
    cases idle : (w.process.bridge b).isLive with
    | true => rfl
    | false =>
      rw [hs.now.host_of_not_live idle] at host
      cases host
  obtain ⟨r, w', hr⟩ := Returns.exists (runExitTeardown foreign) w
  have target := (now b).mpr isLive
  rcases hr.runExitTeardown with ⟨none, -⟩ | ⟨c, target', down⟩
  · rw [target] at none
    cases none
  · rw [target] at target'
    cases target'
    cases r with
    | false =>
      cases down with
      | idle idle =>
        rw [show (w.process.bridge b).isLive = false from idle] at isLive
        cases isLive
    | true =>
      have put : Sound Stance (w.put w.process.expectNone) :=
        (within_put ⟨hs, .refl w⟩ (.expectNone _)).sound
      obtain ⟨live', host', done⟩ := tearsDown_over hf put down
      rw [show (w.process.bridge b).host = some live' from host'] at host
      cases host
      exact ⟨w', hr, quiet ▸ done⟩

theorem exit_rests (now : ∀ b, w.process.exitTarget = some b ↔ (w.process.bridge b).isLive = true)
    (idle : ∀ b, (w.process.bridge b).isLive = false) :
    Returns (runExitTeardown foreign) w false w := by
  obtain ⟨r, w', hr⟩ := Returns.exists (runExitTeardown foreign) w
  rcases hr.runExitTeardown with ⟨-, rfl, rfl⟩ | ⟨b, target, -⟩
  · exact hr
  · have isLive := (now b).mp target
    rw [idle b] at isLive
    cases isLive

/-- Loads leave live bridges and the end of the process finds the live one exactly if every load
method that was called left its bridge live. -/
theorem all_stay_iff_exitIsLive (outside : Outside) (depth : Nat) {ρ : Type}
    (program : Conduct ρ) (files : FileSystem) (directory : Place)
    (unaided : Unaided (outside.leads depth program files directory).history) :
    AllStay (outside.leads depth program files directory).history ↔
      ExitIsLive (outside.answer depth) (outside.leads depth program files directory) := by
  have within : Within Aimed Kept { files, directory }
      (outside.leads depth program files directory) :=
    program_sound .refl (fun depth => aimed_disciplined (answer_stance outside depth)) aimed_start
      depth program files directory
  have quiet : underway (outside.leads depth program files directory).history = [] :=
    within.since.frames
  have sound := within.sound.stanced
  constructor
  · intro stay
    have tame := Tame.mk unaided stay
    have now := (within.sound.now.aim tame).targeted quiet
    have loads := within.sound.now.reported.loadsLive sound.before stay
    refine ⟨loads, ?_, now, fun b live host => ?_, ?_⟩
    · intro m earlier hm
      have known : m.known earlier <:+ m :: earlier := by
        unfold Moment.known
        split
        · exact List.suffix_cons m earlier
        · exact List.suffix_rfl
      exact ((within.sound.before m earlier hm).aim (tame.of_suffix (known.trans hm))).targeted
    · exact exit_shuts (answer_stance outside depth) sound quiet now host
    · exact exit_rests now
  · intro exit
    exact within.sound.now.reported.allStay exit.loads

/-- A load method that tears its own bridge down. -/
def stopping (b : BridgeId) : Conduct Cell := .perform (.teardown b) fun _ => .reply (.word 0)

/-- The load succeeds, its bridge is not live, and it is to be torn down at the end of the
process. -/
theorem stopped_load_is_registered :
    let w := (Outside.obliging stopping).leads 2 (.doing (.load 0 leastLoader)) leastFiles []
    (Unaided w.history ∧ (underway w.history).isEmpty = true ∧
      (∃ m ∈ w.history, m.event.loaded?.map (·.1) = some 0 ∧
        (m.process.bridge 0).isLive = false) ∧
      w.process.exitTarget = some 0 ∧ (w.process.bridge 0).isLive = false) ∧
      ¬ ExitIsLive ((Outside.obliging stopping).answer 2) w := by
  intro w
  have seen : Unaided w.history ∧ (underway w.history).isEmpty = true ∧
      (∃ m ∈ w.history, m.event.loaded?.map (·.1) = some 0 ∧
        (m.process.bridge 0).isLive = false) ∧
      w.process.exitTarget = some 0 ∧ (w.process.bridge 0).isLive = false := by
    unfold Unaided
    decide +kernel
  refine ⟨seen, fun exit => ?_⟩
  obtain ⟨-, -, -, target, idle⟩ := seen
  have isLive := (exit.now 0).mp target
  rw [idle] at isLive
  cases isLive

/-- A load method that does nothing leaves its bridge live. -/
theorem idle_load_exitIsLive :
    let w := (Outside.obliging fun _ => .reply (.word 0)).leads 1 (.doing (.load 0 leastLoader))
      leastFiles []
    Unaided w.history ∧ (w.process.bridge 0).isLive = true ∧
      ExitIsLive ((Outside.obliging fun _ => .reply (.word 0)).answer 1) w := by
  intro w
  have seen : Unaided w.history ∧ AllStay w.history ∧ (w.process.bridge 0).isLive = true := by
    unfold Unaided AllStay
    decide +kernel
  obtain ⟨unaided, stay, isLive⟩ := seen
  exact ⟨unaided, isLive, (all_stay_iff_exitIsLive _ 1 _ _ _ unaided).mp stay⟩

end ManagedHost
