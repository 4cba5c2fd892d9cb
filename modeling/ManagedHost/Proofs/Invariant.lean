import ManagedHost.Proofs.Callback
import ManagedHost.Proofs.HostingSteps

/-! # What every moment of a run has in common

A property of the history and the state of the process that every event and every step keeps
(`Lasting`) holds at every moment of every run if it holds at the start: between operations, and
inside every call of code outside, whatever that code asks for before it replies
(`World.Reached.lasting`). For a property of the state alone it is enough to look at the steps,
which `Step` lists (`Process.Reached.invariant`). -/

namespace ManagedHost

open ManagedHost.Action

/-- Whatever happens in between is within this guarantee. -/
abbrev anything : Guarantee := fun _ _ => True

/-- The operation calls no code outside, and neither brings a runtime up nor tears one down. -/
def Operation.isSilent : Operation → Bool
  | register _ _ _ _ | clear _ | declare _ _ _ _ _ => true
  | operation => operation.isAboutObjects

theorem Operation.isSilent_of_isAboutObjects {operation : Operation}
    (about : operation.isAboutObjects = true) : operation.isSilent = true := by
  cases operation with
  | create | own | disown | track | untrack | untrackName | find | sweep | clearObjects => rfl
  | _ => cases about

/-- A property that every event and every step keeps. Some operations that call nothing may be
judged as a whole, together with the event of their end. -/
structure Lasting (whole : Operation → Bool) (J : Claim) : Prop where
  silent : ∀ operation, whole operation = true → operation.isSilent = true
  called : ∀ {h p} (call : ForeignCall), J h p → J (⟨.called call, p⟩ :: h) p
  replied : ∀ {h p} (call : ForeignCall) (reply : call.Reply), J h p →
    J (⟨.replied call reply, p⟩ :: h) p
  began : ∀ {h p} (operation : Operation), J h p → J (⟨.began operation, p⟩ :: h) p
  ended : ∀ {h p} {operation : Operation} (result : operation.Result),
    whole operation = false → J h p → J (⟨.ended operation result, p⟩ :: h) p
  effect : ∀ {h p p'} {operation : Operation}, whole operation = false →
    Effect operation p p' → J h p → J h p'
  host : ∀ {h p p'}, HostingStep p p' → J h p → J h p'
  atOnce : ∀ {operation : Operation} {foreign result w w'}, whole operation = true →
    Returns (operation.perform foreign) w result w' → J w.history w.process →
      J (⟨.ended operation result, w'.process⟩ :: w.history) w'.process

/-- A silent operation keeps what its own steps keep, whatever code outside does. -/
theorem Operation.perform_silent {foreign : Foreign} {I : World → Prop} {operation : Operation}
    (silent : operation.isSilent = true)
    (effect : ∀ w p, Effect operation w.process p → I w → I (w.put p))
    (write : ∀ (w : World) log, I w → I { w with log })
    (remember : ∀ (w : World) notes, I w → I { w with notes }) :
    Keeps I (operation.perform foreign) := by
  have steady : SteadyCallsIn operation (fun call => pure call.inertReply) I :=
    { effect := fun w p step _ => effect w p step
      write, remember
      native := fun _ _ _ => .pure _
      createDelegate := fun _ _ _ _ _ => .pure _
      imported := fun _ _ _ _ _ => .pure _ }
  obtain ⟨hosts, same⟩ : operation.hosts = false ∧ operation.perform foreign =
      operation.perform fun call => pure call.inertReply := by
    cases operation with
    | register | clear | declare | create | own | disown | track | untrack | untrackName | find
    | sweep | clearObjects => exact ⟨rfl, rfl⟩
    | _ => cases silent
  rw [same]
  exact perform_steady steady hosts

theorem Operation.history_perform_silent {foreign : Foreign} {operation : Operation}
    {result : operation.Result} {w w' : World} (silent : operation.isSilent = true)
    (ran : Returns (operation.perform foreign) w result w') : w'.history = w.history :=
  (perform_silent (I := fun v => v.history = w.history) silent (fun _ _ _ same => same)
    (fun _ _ same => same) fun _ _ same => same).returns ran rfl

namespace Lasting

variable {whole : Operation → Bool} {J : Claim} {foreign : Foreign} {w₀ w w' : World}
  (hJ : Lasting whole J) (hf : Respects J anything foreign)

theorem within (now : J w.history w.process) (before : Recorded J w.history) :
    Within J anything w₀ w := ⟨⟨now, before⟩, trivial⟩

theorem within_alike (hw : Within J anything w₀ w) (h : Alike w w') : Within J anything w₀ w' := by
  obtain ⟨hp, hh, -, -⟩ := h
  refine within ?_ ?_
  · rw [hp, hh]
    exact hw.sound.now
  · rw [hh]
    exact hw.sound.before

include hJ hf

theorem call (call : ForeignCall) : Keeps (Within J anything w₀) (foreign call) := by
  intro w hw
  obtain ⟨reply, w₁, hr, hw₁⟩ :=
    hf call w (.called (hJ.called call hw.sound.now) hw.sound.before)
  rw [hr]
  exact within (hJ.replied call reply hw₁.sound.now) (hw₁.sound.replied call reply)

theorem steadyHosting : SteadyHosting foreign (Within J anything w₀) where
  step _ _ h hw := within (hJ.host h hw.sound.now) hw.sound.before
  alike _ _ h hw := within_alike hw h
  call := hJ.call hf

theorem steadyCalls {operation : Operation} (other : whole operation = false) :
    SteadyCallsIn operation foreign (Within J anything w₀) where
  effect _ _ h _ hw := within (hJ.effect other h hw.sound.now) hw.sound.before
  write _ _ hw := within_alike hw ⟨rfl, rfl, rfl, rfl⟩
  remember _ _ hw := within_alike hw ⟨rfl, rfl, rfl, rfl⟩
  native _ _ _ := hJ.call hf _
  createDelegate _ _ _ _ _ := hJ.call hf _
  imported _ _ _ _ _ := hJ.call hf _

theorem run (operation : Operation) : Keeps (Within J anything w₀) (operation.run foreign) := by
  intro w hw
  have began : Within J anything w₀ (w.after (.began operation)) :=
    within (hJ.began operation hw.sound.now)
      (.cons (hJ.began operation hw.sound.now) hw.sound.before)
  obtain ⟨result, w₁, hr, hrun⟩ := operation.run_eq foreign w
  rw [hrun]
  cases other : whole operation with
  | true =>
    have same := Operation.history_perform_silent (hJ.silent operation other) hr
    have done := hJ.atOnce other hr began.sound.now
    rw [← same] at done
    refine within done (.cons done ?_)
    rw [same]
    exact began.sound.before
  | false =>
    have ends : Within J anything w₀ w₁ := by
      by_cases hosts : operation.hosts = true
      · exact (operation.perform_hosting (hJ.steadyHosting hf) hosts).returns hr began
      · rw [Bool.not_eq_true] at hosts
        exact (Operation.perform_steady (hJ.steadyCalls hf other) hosts).returns hr began
    have done := hJ.ended result other ends.sound.now
    exact within done (.cons done ends.sound.before)

theorem disciplined : Disciplined J anything foreign := by
  constructor
  · exact fun operation w₀ => hJ.run hf operation
  · intro id adapter cells w₀
    -- The entry of a binding is taken by no operation that is judged as a whole.
    have entering : whole (.enter (Adapter.address id) cells) = false :=
      Bool.eq_false_iff.mpr fun judged => nomatch hJ.silent _ judged
    exact (hJ.steadyCalls hf entering).enterAdapter id adapter cells

end Lasting

/-- One step by which a process changes. -/
inductive Step (p : Process) : Process → Prop
  /-- Nothing is brought up or torn down. -/
  | change {p' : Process} (h : Change p p') : Step p p'
  /-- A load takes the place for a runtime. -/
  | claim : Step p p.claim
  /-- The place for a runtime becomes free. -/
  | free : Step p p.free
  | bringUp (b : BridgeId) (live : LiveHost) : Step p (p.bringUp b live)
  | tell (b : BridgeId) (json : String) : Step p (p.tell b json)
  | hook (b : BridgeId) (name : String) (address : Address) : Step p (p.hook b name address)
  | takeDown (b : BridgeId) : Step p (p.takeDown b)
  /-- A bridge forgets everything that it kept for its runtime, apart from the bindings. -/
  | forget (b : BridgeId) :
      Step p (p.updateBridge b fun bridge =>
        { bridge with bindingsJson := none, imports := [], objects := {} })
  | expect (b : BridgeId) : Step p (p.expect b)
  | expectNone : Step p p.expectNone
  | release (b : BridgeId) : Step p (p.release b)

/-- A property of the process that every step keeps. -/
def KeptBySteps (P : Process → Prop) : Prop := ∀ p p', Step p p' → P p → P p'

/-- The property of the process, as a property of what happened and of the process. -/
abbrev always (P : Process → Prop) : Claim := fun _ p => P p

theorem KeptBySteps.lasting {P : Process → Prop} (hP : KeptBySteps P) :
    Lasting (fun _ => false) (always P) where
  silent := nofun
  called _ hp := hp
  replied _ _ hp := hp
  began _ hp := hp
  ended _ _ hp := hp
  effect _ h hp := hP _ _ (.change h.change) hp
  host h hp := by
    cases h with
    | claim => exact hP _ _ .claim hp
    | free => exact hP _ _ .free hp
    | bringUp b live => exact hP _ _ (.bringUp b live) hp
    | tell b json => exact hP _ _ (.tell b json) hp
    | hook b name address => exact hP _ _ (.hook b name address) hp
    | takeDown b => exact hP _ _ (.takeDown b) hp
    | empty b => exact hP _ _ (.forget b) (hP _ _ (.change (.cleared (.bridge b))) hp)
    | expect b => exact hP _ _ (.expect b) hp
    | expectNone => exact hP _ _ .expectNone hp
    | release b => exact hP _ _ (.release b) hp
  atOnce := nofun

/-! ## Reached states -/

/-- A world as code outside may find it at some moment of some run: between operations, inside a
call, or at the end. -/
inductive World.Reached (w : World) : Prop
  | during {outside : Outside} {depth : Nat} {ρ : Type} {program : Conduct ρ} {files : FileSystem}
      {directory : Place} {moment : Moment} {earlier : List Moment}
      (h : moment :: earlier <:+ (outside.leads depth program files directory).history)
      (history : w.history = moment.known earlier) (process : w.process = moment.process)
  | atEnd (outside : Outside) (depth : Nat) {ρ : Type} (program : Conduct ρ) (files : FileSystem)
      (directory : Place)
      (history : w.history = (outside.leads depth program files directory).history)
      (process : w.process = (outside.leads depth program files directory).process)

theorem Moment.known_suffix (moment : Moment) (earlier : List Moment) :
    moment.known earlier <:+ moment :: earlier := by
  obtain ⟨event, p⟩ := moment
  cases event with
  | replied => exact List.suffix_cons _ _
  | _ => exact List.suffix_rfl

/-- What holds at the start, and is kept by every operation that calls where it holds, holds and
held in every world that a run reaches. -/
theorem World.Reached.sound {J : Claim} {G : Guarantee} (hrefl : ∀ w, G w w)
    (hop : ∀ (outside : Outside) depth, Respects J G (outside.answer depth) →
      Disciplined J G (outside.answer depth)) (start : J [] {}) {w : World} (h : w.Reached) :
    Sound J w := by
  cases h with
  | @during outside depth ρ program files directory moment earlier h history process =>
    have all := (program_sound hrefl (hop outside) start depth program files directory).sound
    refine ⟨?_, fun m before hm => ?_⟩
    · rw [history, process]
      exact all.before moment earlier h
    · rw [history] at hm
      exact all.before m before ((hm.trans (moment.known_suffix earlier)).trans h)
  | atEnd outside depth program files directory history process =>
    have all := (program_sound hrefl (hop outside) start depth program files directory).sound
    exact ⟨by rw [history, process]; exact all.now, by rw [history]; exact all.before⟩

/-- What holds at the start and lasts holds in every world that a run reaches. -/
theorem World.Reached.lasting {whole : Operation → Bool} {J : Claim} (start : J [] {})
    (hJ : Lasting whole J) {w : World} (h : w.Reached) : Sound J w :=
  h.sound (fun _ => trivial) (fun _ _ hf => hJ.disciplined hf) start

/-- A state of a process at some moment of some run: between operations, inside a call of code
outside, or at the end. -/
inductive Process.Reached : Process → Prop
  | during {outside : Outside} {depth : Nat} {ρ : Type} {program : Conduct ρ} {files : FileSystem}
      {directory : Place} {moment : Moment}
      (h : moment ∈ (outside.leads depth program files directory).history) :
      Reached moment.process
  | atEnd (outside : Outside) (depth : Nat) {ρ : Type} (program : Conduct ρ)
      (files : FileSystem) (directory : Place) :
      Reached (outside.leads depth program files directory).process

/-- What holds at the start and is kept by every step holds of every state that a run reaches. -/
theorem Process.Reached.invariant {P : Process → Prop} (start : P {}) (hP : KeptBySteps P)
    {p : Process} (h : p.Reached) : P p := by
  have sound : ∀ (outside : Outside) (depth : Nat) {ρ : Type} (program : Conduct ρ) files directory,
      Sound (always P) (outside.leads depth program files directory) :=
    fun outside depth _ program files directory =>
      (program_sound (fun _ => trivial) (fun _ hf => hP.lasting.disciplined hf) start depth program
        files directory).sound
  cases h with
  | @during outside depth ρ program files directory moment h =>
    obtain ⟨later, earlier, split⟩ := List.append_of_mem h
    exact (sound outside depth program files directory).before moment earlier ⟨later, split.symm⟩
  | atEnd => exact (sound _ _ _ _ _).now

end ManagedHost
