import ManagedHost.Proofs.HookPairs
import ManagedHost.Proofs.Sparing

/-! # A program and code outside that only stands by

Let code outside ask for nothing that brings a runtime up or tears one down (`Bystander`). Then all
that is done about runtimes is done by the program itself, in the operations that it has carried out
one after the other while nothing else is under way (`AtRest`). Of these only loads and teardowns
change how the process stands (`Standing`), and each does what its result says
(`Bystander.settles`). -/

namespace ManagedHost

open ManagedHost.Action

/-- What the program printed while nothing else was under way, the last line first: each line with
what happened before and the state of the process then. -/
def printedLines : List Moment → List (String × List Moment × Process)
  | [] => []
  | ⟨.began (.note stream line), p⟩ :: earlier =>
    if stream = "output" ∧ underway earlier = [] then
      (line, earlier, p) :: printedLines earlier
    else printedLines earlier
  | _ :: earlier => printedLines earlier

/-- How a process stands: what is to be torn down at its end, what was done about runtimes, and what
was printed. -/
structure Standing where
  target : Option BridgeId
  hasHook : Bool
  marks : List Milestone
  printed : List (String × List Moment × Process)

/-- How a process stands, given what happened. -/
def standing (h : List Moment) (p : Process) : Standing :=
  ⟨p.exitTarget, p.hasExitHook, milestones h, printedLines h⟩

/-- Whatever is under way. -/
abbrev everyKind : List Moment → Bool := fun _ => true

section

variable {h : List Moment} {p q : Process}

theorem standing_eq {h' : List Moment} {p' : Process} (target : p'.exitTarget = p.exitTarget)
    (hook : p'.hasExitHook = p.hasExitHook) (marks : milestones h' = milestones h)
    (printed : printedLines h' = printedLines h) : standing h' p' = standing h p := by
  rw [standing, standing, target, hook, marks, printed]

theorem printedLines_began (operation : Operation) (busy : underway h ≠ []) :
    printedLines (⟨.began operation, q⟩ :: h) = printedLines h := by
  cases operation with
  | note stream line => exact if_neg fun alone => busy alone.2
  | _ => rfl

theorem printedLines_began_other {operation : Operation}
    (other : ∀ line, operation ≠ .note "output" line) :
    printedLines (⟨.began operation, q⟩ :: h) = printedLines h := by
  cases operation with
  | note stream line =>
    refine if_neg fun alone => other line ?_
    rw [alone.1]
  | _ => rfl

/-- What the program printed is listed. -/
theorem mem_printedLines {h' : List Moment} {line : String}
    (printed : ⟨.began (.note "output" line), p⟩ :: h <:+ h') (alone : underway h = []) :
    (line, h, p) ∈ printedLines h' := by
  induction h' with
  | nil => cases List.suffix_nil.mp printed
  | cons moment later ih =>
    rcases List.suffix_cons_iff.mp printed with same | before
    · cases same
      rw [printedLines, if_pos ⟨rfl, alone⟩]
      exact List.mem_cons_self
    · obtain ⟨event, q⟩ := moment
      cases event with
      | began operation =>
        cases operation with
        | note stream text =>
          rw [printedLines]
          split
          · exact List.mem_cons_of_mem _ (ih before)
          · exact ih before
        | _ => exact ih before
      | _ => exact ih before

/-- Only loads and teardowns change how a process stands, and what the program itself prints. -/
theorem standing_unseen : Unseen Operation.hosts standing where
  hosts _ hosts := hosts
  entry _ _ := rfl
  effect _ step := standing_eq step.change.exitTarget step.change.hasExitHook rfl rfl
  called {h p q call} idle := by
    refine standing_eq rfl rfl ?_ rfl
    rw [milestones_called]
    cases call with
    | managed purpose => cases purpose <;> first | rfl | cases idle
    | shutDown => cases idle
    | _ => rfl
  replied {h p q call} reply idle asked := by
    refine standing_eq rfl rfl ?_ rfl
    cases call with
    | startUp => cases idle
    | createDelegate => cases asked
    | _ => rfl
  lookedUp {h p q host started assembly typeName method} reply {operation r earlier outer} caller
      free := by
    refine standing_eq rfl rfl ?_ rfl
    have idle : innermostLoad (underway h).tail = none := by
      rw [caller]
      cases operation with
      | load => cases free
      | _ => rfl
    rw [milestones, idle]
    rfl
  began operation busy := standing_eq rfl rfl rfl (printedLines_began operation busy)
  ended _ _ := standing_eq rfl rfl rfl rfl

end

/-- Code outside that brings nothing up and tears nothing down. -/
structure Bystander (foreign : Foreign) : Prop where
  stance : Respects Stance Steadfast foreign
  paced : Respects Coursed Paced foreign
  spares : Respects whatever (Spares Operation.hosts everyKind standing) foreign
  calls : ∀ call, Keeps (fun w => noneBegins Operation.hosts everyKind w.history = true)
    (foreign call)

theorem answer_bystander {outside : Outside} (h : outside.Abstains Operation.hosts) (depth : Nat) :
    Bystander (outside.answer depth) where
  stance := answer_stance outside depth
  paced := answer_respects .refl (fun depth => coursed_disciplined (answer_stance outside depth))
    depth
  spares := answer_spares standing_unseen everyKind outside depth
  calls := answer_abstains h everyKind depth

/-- Nothing is under way, nothing was brought up or torn down by code outside, and this is known of
how the process stands. -/
structure AtRest (P : Standing → Prop) (w : World) : Prop where
  alone : underway w.history = []
  spared : noneBegins Operation.hosts everyKind w.history = true
  sound : Sound Coursed w
  known : P (standing w.history w.process)

variable {foreign : Foreign} {P Q : Standing → Prop} {w w' : World}

namespace AtRest

theorem imp (hw : AtRest P w) (next : P (standing w.history w.process) →
    Q (standing w.history w.process)) : AtRest Q w :=
  ⟨hw.alone, hw.spared, hw.sound, next hw.known⟩

theorem of_eq (hw : AtRest P w) (process : w'.process = w.process)
    (history : w'.history = w.history) : AtRest P w' := by
  refine ⟨by rw [history]; exact hw.alone, by rw [history]; exact hw.spared, ⟨?_, ?_⟩, ?_⟩
  · rw [process, history]; exact hw.sound.now
  · rw [history]; exact hw.sound.before
  · rw [process, history]; exact hw.known

theorem write (level : LogLevel) (source : LogSource) (message : String) :
    Keeps (AtRest P) (log level source message) := fun _ hw => hw.of_eq rfl rfl

theorem updateHeap (change : Heap → Heap) : Keeps (AtRest P) (updateHeap change) := by
  intro w hw
  have put : Within Coursed Paced w (w.put { w.process with heap := change w.process.heap }) :=
    coursed_put ⟨hw.sound, .refl w⟩ ⟨rfl, fun _ => rfl, fun _ => rfl⟩
  exact ⟨hw.alone, hw.spared, put.sound, hw.known⟩

/-- Where nothing is brought up or torn down during a call, everything is calm. -/
theorem calm (hw : AtRest P w) : isCalm w.history = true := by
  rw [isCalm_eq]
  refine isUndisturbed_of_noneBegins (fun operation restarts => ?_) (fun _ _ => rfl) hw.spared
  cases operation <;> first | rfl | cases restarts

theorem course (hw : AtRest P w) : Course w.history w.process := hw.sound.now.course hw.calm

/-- A program at rest has no runtime, or one bridge has one. -/
theorem down_or_up (hw : AtRest P w) : w.process.IsDown ∨ ∃ b live, w.process.IsUp b live := by
  cases hw.sound.now.stance with
  | idle _ down | preparing _ down | closing _ _ down => exact .inl down
  | up b live _ up => exact .inr ⟨b, live, up⟩

end AtRest

namespace Bystander

variable (hf : Bystander foreign)
include hf

/-- Once an operation has ended, nothing is under way again. -/
theorem ends (hw : AtRest P w) {operation : Operation} {result : operation.Result}
    (ran : Returns (operation.run foreign) w result w') :
    AtRest (fun _ => True) w' ∧ w.history <:+ w'.history := by
  obtain ⟨frames, grown⟩ := framed_run hf.spares operation ran
  refine ⟨⟨frames.trans hw.alone, ?_, ?_, trivial⟩, (List.suffix_cons _ _).trans grown⟩
  · refine spared_run hf.calls operation ?_ hw.spared ran
    rw [hw.alone, List.any_nil, Bool.and_false]
  · exact ((run_coursed hf.stance hf.paced operation w).returns ran ⟨hw.sound, .refl w⟩).sound

/-- An operation that neither brings up nor tears down and prints nothing leaves the process as it
stands. -/
theorem rests (operation : Operation) (free : operation.hosts = false)
    (other : ∀ line, operation ≠ .note "output" line) :
    Keeps (AtRest P) (operation.run foreign) := by
  intro w hw
  have ran : Returns (operation.run foreign) w _ _ := .intro _ w
  obtain ⟨rest, -⟩ := hf.ends hw ran
  have left := leaves_run hf.spares standing_unseen free (.inr fun _ => rfl)
    (standing_eq rfl rfl rfl (printedLines_began_other other)) ran
  exact ⟨rest.alone, rest.spared, rest.sound, left.same rest.spared ▸ hw.known⟩

/-- What is printed is added to what was printed. -/
theorem prints (hw : AtRest P w) {line : String}
    (ran : Returns ((Operation.note "output" line).run foreign) w () w') :
    AtRest (fun s => ∃ before, P before ∧
      s = { before with printed := (line, w.history, w.process) :: before.printed }) w' := by
  obtain ⟨rest, -⟩ := hf.ends hw ran
  refine ⟨rest.alone, rest.spared, rest.sound, _, hw.known, ?_⟩
  cases ran
  have printed : printedLines (w.after (.began (.note "output" line))).history =
      (line, w.history, w.process) :: printedLines w.history := if_pos ⟨rfl, hw.alone⟩
  rw [standing, standing, ← printed]
  rfl

/-- No call prints a line of the program. -/
theorem keeps_printed (lines : List (String × List Moment × Process)) (call : ForeignCall) :
    Keeps (fun v => noneBegins Operation.hosts everyKind v.history = true ∧
      printedLines v.history = lines) (foreign call) := by
  rintro v ⟨spared, printed⟩
  obtain ⟨reply, v₁, ran, between⟩ := hf.spares call v ⟨trivial, fun _ _ _ => trivial⟩
  have later := (hf.calls call).returns ran spared
  rw [ran]
  have same := between.since.same rfl later
  exact ⟨later, (congrArg Standing.printed same).trans printed⟩

/-- An operation that brings up or tears down does what its result says, and prints nothing. -/
theorem settles (hw : AtRest P w) {operation : Operation} (hosts : operation.hosts = true)
    {result : operation.Result} (ran : Returns (operation.run foreign) w result w') :
    AtRest (fun s => s.printed = printedLines w.history ∧
      Settled w.process (milestones w.history) s.marks operation result) w' := by
  obtain ⟨rest, -⟩ := hf.ends hw ran
  obtain ⟨result', w₁, performed, whole⟩ := operation.run_eq foreign w
  cases ran.symm.trans whole
  refine ⟨rest.alone, rest.spared, rest.sound, ?_, ?_⟩
  · have steady : SteadyHosting foreign fun v =>
        noneBegins Operation.hosts everyKind v.history = true ∧
          printedLines v.history = printedLines w.history := by
      refine ⟨fun _ _ _ kept => kept, ?_, hf.keeps_printed _⟩
      rintro v v' ⟨-, history, -, -⟩ kept
      rw [history]
      exact kept
    have began : noneBegins Operation.hosts everyKind
        (w.after (.began operation)).history = true := by
      rw [World.history_after, noneBegins, hw.spared, hw.alone]
      simp
    have printed : printedLines (w.after (.began operation)).history = printedLines w.history := by
      refine printedLines_began_other fun line same => ?_
      rw [same] at hosts
      cases hosts
    exact ((operation.perform_hosting steady hosts).returns performed ⟨began, printed⟩).2
  · obtain ⟨q, before, outer, under, settled⟩ :=
      rest.sound.now.concluded operation result _ _ List.suffix_rfl (isCalm_tail rest.calm)
    obtain ⟨inside, -⟩ := framed_perform hf.spares operation performed
    cases inside.symm.trans under
    exact settled

end Bystander

end ManagedHost
