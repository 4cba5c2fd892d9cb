import ManagedHost.Proofs.Stance

/-! # One runtime at a time

What the stance of a process comes to (`OneRuntime`): at most one bridge is live, the live bridges
are those with a runtime, every runtime that was started is shut down in its turn and once, and the
place for a runtime is free exactly if nothing holds it. It is so at every moment of every run,
whatever code outside asks for before it replies, and a runtime is started only after all earlier
ones were passed on to be shut down (`one_runtime_at_a_time`). -/

namespace ManagedHost

/-- A live bridge has the runtime, with its hosting library. -/
def Process.Holds (p : Process) (runtime : HostId × HostInstance) : Prop :=
  ∃ b live, (p.bridge b).isLive = true ∧ (p.bridge b).host = some live ∧
    (live.host, live.started) = runtime

/-- There is at most one runtime, and it is accounted for. -/
structure OneRuntime (h : List Moment) (p : Process) : Prop where
  unique : ∀ b c, (p.bridge b).isLive = true → (p.bridge c).isLive = true → b = c
  filled : ∀ b, (p.bridge b).isLive = true ↔ (p.bridge b).host.isSome = true
  /-- All runtimes that were started were shut down, in the same order and as often, but perhaps
  for the last one, which a live bridge has or which is being torn down. -/
  ledger : startedRuntimes h = shutRuntimes h ∨
    ∃ runtime, startedRuntimes h = runtime :: shutRuntimes h ∧
      (p.Holds runtime ∨ isClosing h = true)
  /-- The runtime of a live bridge is the last one that was started, and was not shut down. -/
  held : ∀ runtime, p.Holds runtime → startedRuntimes h = runtime :: shutRuntimes h
  free : p.isClaimed = false ↔
    isPreparing h = false ∧ (∀ b, (p.bridge b).isLive = false) ∧ isClosing h = false

variable {h : List Moment} {p : Process}

theorem Process.IsDown.not_holds (hd : p.IsDown) (runtime : HostId × HostInstance) :
    ¬ p.Holds runtime := by
  rintro ⟨b, live, isLive, -⟩
  rw [(hd b).1] at isLive
  cases isLive

theorem Process.IsDown.filled (hd : p.IsDown) (b : BridgeId) :
    (p.bridge b).isLive = true ↔ (p.bridge b).host.isSome = true := by
  rw [(hd b).1, (hd b).2]
  simp

theorem OneRuntime.of_down (hd : p.IsDown)
    (ledger : startedRuntimes h = shutRuntimes h ∨
      ∃ runtime, startedRuntimes h = runtime :: shutRuntimes h ∧ isClosing h = true)
    (free : p.isClaimed = false ↔ isPreparing h = false ∧ isClosing h = false) :
    OneRuntime h p where
  unique b _ hb := by
    rw [(hd b).1] at hb
    cases hb
  filled := hd.filled
  ledger := by
    rcases ledger with same | ⟨runtime, started, closing⟩
    · exact .inl same
    · exact .inr ⟨runtime, started, .inr closing⟩
  held runtime held := absurd held (hd.not_holds runtime)
  free := by
    rw [free]
    exact ⟨fun ⟨h₁, h₂⟩ => ⟨h₁, fun b => (hd b).1, h₂⟩, fun ⟨h₁, _, h₂⟩ => ⟨h₁, h₂⟩⟩

/-- However the process stands, there is at most one runtime. -/
theorem Stance.oneRuntime (hst : Stance h p) : OneRuntime h p := by
  cases hst with
  | idle claimed down preparing closing ledger =>
    exact .of_down down (.inl ledger) (by simp [claimed, preparing, closing])
  | preparing claimed down preparing closing ledger =>
    exact .of_down down (.inl ledger) (by simp [claimed, preparing])
  | closing pending claimed down preparing closing ledger =>
    refine .of_down down ?_ (by simp [claimed, closing])
    cases pending with
    | none => exact .inl ledger
    | some runtime => exact .inr ⟨runtime, ledger, closing⟩
  | up b live claimed up preparing closing ledger =>
    refine ⟨fun c d hc hd => ?_, fun c => ?_, ?_, ?_, ?_⟩
    · rw [up.eq_of_isLive hc, up.eq_of_isLive hd]
    · by_cases hc : c = b
      · subst hc
        rw [up.isLive, up.host]
        simp
      · rw [(up.others c hc).1, (up.others c hc).2]
        simp
    · exact .inr ⟨_, ledger, .inl ⟨b, live, up.isLive, up.host, rfl⟩⟩
    · rintro runtime ⟨c, live', isLive, host, rfl⟩
      rw [up.eq_of_isLive isLive, up.host] at host
      cases host
      exact ledger
    · rw [claimed]
      constructor
      · intro free
        cases free
      · rintro ⟨-, hb, -⟩
        have := hb b
        rw [up.isLive] at this
        cases this

/-- A runtime is only started where all earlier ones were passed on to be shut down. -/
theorem Stance.start {call : ForeignCall} (hc : call.prepares = true)
    (hst : Stance (⟨.called call, p⟩ :: h) p) : startedRuntimes h = shutRuntimes h := by
  have prepares : isPreparing (⟨.called call, p⟩ :: h) = true := by simp [hc]
  have closes : call.closes = false := by
    cases call <;> first | rfl | cases hc
  cases hst with
  | preparing _ _ _ _ ledger =>
    rwa [startedRuntimes_called, shutRuntimes_called closes] at ledger
  | idle _ _ preparing | up _ _ _ _ preparing | closing _ _ _ preparing =>
    rw [prepares] at preparing
    cases preparing

/-- Between operations and inside every call of code outside there is at most one runtime, each
runtime is shut down once and in its turn, and a runtime is started only after all earlier ones
were passed on to be shut down. -/
theorem one_runtime_at_a_time (outside : Outside) (depth : Nat) {ρ : Type} (program : Conduct ρ)
    (files : FileSystem) (directory : Place) :
    let w := outside.leads depth program files directory
    Recorded OneRuntime w.history ∧ OneRuntime w.history w.process ∧ underway w.history = [] ∧
      ∀ host domain properties p earlier,
        ⟨.called (.startUp host domain properties), p⟩ :: earlier <:+ w.history →
          startedRuntimes earlier = shutRuntimes earlier := by
  intro w
  have within : Within Stance Steadfast { files, directory } w :=
    program_sound .refl (fun _ => stance_disciplined) stance_start depth program files directory
  refine ⟨?_, within.sound.now.oneRuntime, within.since.frames, ?_⟩
  · exact within.sound.before.mono fun _ _ => Stance.oneRuntime
  · intro host domain properties p earlier made
    exact (within.sound.before _ _ made).start rfl

end ManagedHost
