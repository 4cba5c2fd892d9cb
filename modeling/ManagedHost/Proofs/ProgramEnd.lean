import ManagedHost.Application
import ManagedHost.Proofs.AtRest
import ManagedHost.Proofs.TypedImports

/-! # The program leaves no runtime behind

From its start to the end of the process the program goes through three states: nothing was done
about a runtime (`Fresh`), its bridge has one that is to be torn down at the end (`Hosts`), and it
is done (`Done`). A load that succeeds leads from the first to the second and one that fails to the
last; a teardown, of the session, on a signal or at the end of the process, leads from the second to
the last. So whichever way the program takes, it is done at the end (`program_ends_down`). -/

namespace ManagedHost

open ManagedHost.Action
open ManagedHost.Application (bridgeId teardownOn)

/-- Nothing was done about runtimes, or one was brought up and is no more. -/
def AtMostOneLife (marks : List Milestone) : Prop :=
  marks = [] ∨ ∃ loader runtime, WholeLife bridgeId loader runtime marks

/-- The method for tests was called, and returned a text. -/
def Tells (text : String) (h : List Moment) : Prop :=
  ∃ imported q, imported.target.method = "GetTestString" ∧
    ⟨.ended (.call imported []) (.ok (.text text)), q⟩ ∈ h

/-- A line tells the text that the method for tests returned, and was printed once the runtime had
been torn down. -/
structure IsRoundTrip (line : String) (h : List Moment) (p : Process) : Prop where
  told : ∃ text, line = "[dotnet] round-trip: " ++ text ∧ Tells text h
  finished : ∃ loader runtime, WholeLife bridgeId loader runtime (milestones h)
  down : p.IsDown

namespace Standing

/-- Nothing was done about a runtime. -/
structure Fresh (s : Standing) : Prop where
  marks : s.marks = []
  printed : s.printed = []

/-- The bridge of the program has a runtime that was told the bindings, and is to be torn down at
the end of the process. -/
structure Hosts (s : Standing) : Prop where
  target : s.target = some bridgeId
  hook : s.hasHook = true
  told : ∃ loader runtime onLoad onUnload, (onLoad ≠ 0 ∧ onUnload ≠ 0) ∧
    s.marks = toldLife bridgeId loader runtime onLoad onUnload
  printed : s.printed = []

/-- There is no runtime any more. -/
structure Done (s : Standing) : Prop where
  lives : AtMostOneLife s.marks
  printed : ∀ line h p, (line, h, p) ∈ s.printed → IsRoundTrip line h p

end Standing

/-- The session is on a bridge, and its test calls the method for tests. -/
structure Session.IsOf (b : BridgeId) (session : Session) : Prop where
  bridge : session.bridge = b
  method : session.events.testString.untyped.target.method = "GetTestString"

open Standing (Fresh Hosts Done)

section

variable {P : Standing → Prop} {w w' : World}

theorem AtRest.running (hw : AtRest P w) {b : BridgeId} {live : LiveHost}
    (host : (w.process.bridge b).host = some live) : Running b live (milestones w.history) :=
  hw.course.running (by rw [isTender, hw.alone]; rfl) b live host

/-- The settings are read before anything else is done. -/
theorem AtRest.create (hw : AtRest P w) {line : CommandLine}
    {r : Except ApplicationFault Application}
    (ran : Returns (Application.create line) w r w') : AtRest P w' := by
  obtain ⟨_, _, got, ran⟩ := Returns.bind ran
  cases got
  generalize Settings.load w.files w.directory line.config = found at ran
  obtain ⟨files, ⟨loaded, lines⟩⟩ := found
  obtain ⟨_, _, put, ran⟩ := Returns.bind ran
  cases put
  obtain ⟨_, _, emitted, ran⟩ := Returns.bind ran
  cases emitted
  cases loaded with
  | error fault =>
    obtain ⟨rfl, rfl⟩ := Returns.pure ran
    exact hw.of_eq rfl rfl
  | ok settings =>
    dsimp only at ran
    split at ran
    all_goals
      obtain ⟨rfl, rfl⟩ := Returns.pure ran
      exact hw.of_eq rfl rfl

theorem AtRest.createFresh (datum : Datum) : Keeps (AtRest P) (createFresh datum) :=
  .bind .process fun _ => .bind (AtRest.updateHeap _) fun _ => .pure _

/-- A life that is over is none that goes on. -/
theorem not_toldLife {b c : BridgeId} {loader loader' : Loader}
    {runtime runtime' : HostId × HostInstance} {onLoad onUnload : Address}
    {life rest rest' : List Milestone} (whole : WholeLife b loader runtime life) :
    life ++ rest ≠ toldLife c loader' runtime' onLoad onUnload ++ rest' := by
  intro same
  cases whole <;> cases same

/-- A life that goes on is only one. -/
theorem toldLife_inj {b c : BridgeId} {loader loader' : Loader}
    {runtime runtime' : HostId × HostInstance} {onLoad onLoad' onUnload onUnload' : Address}
    {rest : List Milestone}
    (same : toldLife b loader runtime onLoad onUnload =
      toldLife c loader' runtime' onLoad' onUnload' ++ rest) :
    c = b ∧ loader' = loader ∧ runtime' = runtime ∧ rest = [] := by
  simp only [toldLife, entryPoints, List.cons_append, List.nil_append, List.cons.injEq,
    Milestone.started.injEq, Option.some.injEq, Prod.mk.injEq, List.nil_eq] at same
  obtain ⟨-, -, -, ⟨⟨rfl, rfl⟩, rfl⟩, rfl⟩ := same
  exact ⟨rfl, rfl, rfl, rfl⟩

theorem AtRest.down (hw : AtRest P w) (lives : AtMostOneLife (milestones w.history)) :
    w.process.IsDown := by
  rcases hw.down_or_up with down | ⟨b, live, up⟩
  · exact down
  · obtain ⟨loader, onLoad, onUnload, rest, -, -, -, same⟩ := hw.running up.host
    rcases lives with none | ⟨loader', runtime, whole⟩
    · rw [none] at same
      cases same
    · rw [← List.append_nil (milestones w.history)] at same
      exact absurd same (not_toldLife whole)

/-- A runtime that was told the bindings, and was no more than that, is up. -/
theorem AtRest.up (hw : AtRest P w) {b : BridgeId} {loader : Loader}
    {runtime : HostId × HostInstance} {onLoad onUnload : Address}
    (told : milestones w.history = toldLife b loader runtime onLoad onUnload) :
    (w.process.bridge b).isLive = true := by
  rcases hw.down_or_up with down | ⟨c, live, up⟩
  · have lives := hw.course.resting down (by rw [isClosing, hw.alone]; rfl)
    rw [told] at lives
    generalize same : toldLife b loader runtime onLoad onUnload = marks at lives
    cases lives with
    | none => cases same
    | after whole =>
      rw [← List.append_nil (toldLife b loader runtime onLoad onUnload)] at same
      exact absurd same.symm (not_toldLife whole)
  · obtain ⟨loader', onLoad', onUnload', rest, -, -, -, same⟩ := hw.running up.host
    obtain ⟨rfl, -⟩ := toldLife_inj (told.symm.trans same)
    exact up.isLive

/-- What was told the bindings and is now told its end has lived one life. -/
theorem ToldItsEnd.whole {b c : BridgeId} {q : Process} {loader : Loader}
    {runtime : HostId × HostInstance} {onLoad onUnload : Address} {now : List Milestone}
    (told : ToldItsEnd c q (toldLife b loader runtime onLoad onUnload) now) :
    WholeLife b loader runtime now := by
  obtain ⟨live, loader', onLoad', onUnload', rest, -, named, -, same, rfl⟩ := told
  obtain ⟨rfl, rfl, rfl, rfl⟩ := toldLife_inj same
  rw [same, List.append_nil]
  exact .told named

end

variable {foreign : Foreign} {P : Standing → Prop} {w w' : World}

/-! ## Bringing up and tearing down -/

/-- A load that succeeds makes the bridge the one to be torn down at the end of the process. -/
theorem load_expects {b : BridgeId} {loader : Loader}
    (ran : Returns ((Operation.load b loader).run foreign) w (.ok ()) w') :
    w'.process.exitTarget = some b ∧ w'.process.hasExitHook = true := by
  obtain ⟨result, w₁, performed, whole⟩ := (Operation.load b loader).run_eq foreign w
  cases ran.symm.trans whole
  cases Returns.load performed with
  | loaded _ _ _ expected =>
    obtain ⟨process, -⟩ := expected
    change w₁.process.exitTarget = some b ∧ w₁.process.hasExitHook = true
    rw [process]
    exact ⟨rfl, rfl⟩

theorem Returns.declareMethod {types : Signature} {b : BridgeId} {settings : Settings.Imports}
    {method : String} {imported : TypedImport types}
    (ran : Returns (EventImports.declareMethod foreign types b settings method) w (.ok imported)
      w') : imported.untyped.target.method = method := by
  have result := declareTyped_result foreign types b method
    ⟨some settings.assemblyIdentity, settings.eventType, method⟩ types w
  rw [show ((declareTyped foreign types b method _ types).run w).1 = .ok imported from
    congrArg Prod.fst ran] at result
  cases valid : types.validate method with
  | error e =>
    rw [valid] at result
    cases result
  | ok u =>
    rw [valid, Signature.checkTyped_self] at result
    cases result
    rfl

theorem Returns.attach {b : BridgeId} {settings : Settings.Imports} {lobby : ObjectId}
    {session : Session}
    (ran : Returns (Session.attach foreign b settings lobby) w (.ok session) w') :
    session.IsOf b := by
  obtain ⟨events, w₁, declared, ran⟩ := Returns.bind ran
  cases events with
  | error e => cases (Returns.pure ran).1
  | ok events =>
    have method : events.testString.untyped.target.method = "GetTestString" := by
      obtain ⟨testString, w₂, declaredTest, declared⟩ := Returns.bind declared
      cases testString with
      | error e => cases (Returns.pure declared).1
      | ok testString =>
        obtain ⟨preConnect, w₃, -, declared⟩ := Returns.bind declared
        cases preConnect with
        | error e => cases (Returns.pure declared).1
        | ok preConnect =>
          obtain ⟨postConnect, w₄, -, declared⟩ := Returns.bind declared
          cases postConnect with
          | error e => cases (Returns.pure declared).1
          | ok postConnect =>
            cases (Returns.pure declared).1
            exact Returns.declareMethod declaredTest
    obtain ⟨u, w₂, -, ran⟩ := Returns.bind ran
    obtain ⟨connection, w₃, -, ran⟩ := Returns.bind ran
    obtain ⟨u, w₄, -, ran⟩ := Returns.bind ran
    obtain ⟨u, w₅, -, ran⟩ := Returns.bind ran
    cases (Returns.pure ran).1
    exact ⟨rfl, method⟩

/-- What is known once a session was to be started. -/
inductive StartsSession {ε : Type} : Except ε Session → World → Prop
  | failed {e : ε} {w : World} (rest : AtRest (fun s => s.Hosts ∨ s.Done) w) :
      StartsSession (.error e) w
  | up {session : Session} {w : World} (rest : AtRest Hosts w) (proper : session.IsOf bridgeId) :
      StartsSession (.ok session) w

theorem Standing.Done.silent {s : Standing} (lives : AtMostOneLife s.marks)
    (printed : s.printed = []) : s.Done := by
  refine ⟨lives, fun line h p member => ?_⟩
  rw [printed] at member
  cases member

theorem Standing.Fresh.done {s : Standing} (fresh : s.Fresh) : s.Done :=
  .silent (.inl fresh.marks) fresh.printed

namespace Bystander

variable (hf : Bystander foreign)
include hf

theorem load_error (hw : AtRest Fresh w) {loader : Loader} {e : BridgeError}
    (ran : Returns ((Operation.load bridgeId loader).run foreign) w (.error e) w') :
    AtRest Done w' := by
  refine (hf.settles hw rfl ran).imp ?_
  rintro ⟨printed, settled⟩
  have fresh : milestones w.history = [] := hw.known.marks
  refine .silent ?_ (printed.trans hw.known.printed)
  cases settled with
  | notStarted same => exact .inl (same.trans fresh)
  | @unresolved _ _ _ runtime _ unresolved same =>
    rw [fresh] at same
    refine .inr ⟨loader, runtime, ?_⟩
    rw [same]
    exact .missed unresolved
  | other restarts => cases restarts

theorem load_ok (hw : AtRest Fresh w) {loader : Loader}
    (ran : Returns ((Operation.load bridgeId loader).run foreign) w (.ok ()) w') :
    AtRest Hosts w' := by
  obtain ⟨target, hook⟩ := load_expects ran
  refine (hf.settles hw rfl ran).imp ?_
  rintro ⟨printed, settled⟩
  refine ⟨target, hook, ?_, printed.trans hw.known.printed⟩
  cases settled with
  | @loaded _ _ runtime onLoad onUnload named told =>
    rw [show milestones w.history = [] from hw.known.marks, List.append_nil] at told
    exact ⟨loader, runtime, onLoad, onUnload, named, told⟩
  | other restarts => cases restarts

/-- The runtime is torn down, and nothing was printed yet. -/
theorem teardown (hw : AtRest Hosts w) {result : Bool}
    (ran : Returns ((Operation.teardown bridgeId).run foreign) w result w') :
    AtRest (fun s => s.printed = [] ∧ ∃ loader runtime, WholeLife bridgeId loader runtime s.marks)
      w' := by
  obtain ⟨loader, runtime, onLoad, onUnload, -, told⟩ := hw.known.told
  have up := hw.up told
  refine (hf.settles hw rfl ran).imp ?_
  rintro ⟨printed, settled⟩
  refine ⟨printed.trans hw.known.printed, loader, runtime, ?_⟩
  cases settled with
  | notLive isLive =>
    rw [up] at isLive
    cases isLive
  | tornDown ended =>
    rw [show milestones w.history = _ from told] at ended
    exact ended.whole
  | other restarts => cases restarts

/-- At the end of the process what is left of a runtime is torn down. -/
theorem exit (hw : AtRest (fun s => s.Hosts ∨ s.Done) w) {result : Bool}
    (ran : Returns (Operation.runExitTeardown.run foreign) w result w') : AtRest Done w' := by
  refine (hf.settles hw rfl ran).imp ?_
  rintro ⟨printed, settled⟩
  have known := hw.known
  rcases known with ⟨target, -, ⟨loader, runtime, onLoad, onUnload, -, told⟩, none⟩ | finished
  · refine .silent (.inr ⟨loader, runtime, ?_⟩) (printed.trans none)
    cases settled with
    | noExit idle =>
      have down := idle bridgeId target
      rw [hw.up told] at down
      cases down
    | exit _ ended =>
      rw [show milestones w.history = _ from told] at ended
      exact ended.whole
    | other restarts => cases restarts
  · refine ⟨?_, fun line h p member => ?_⟩
    case refine_2 =>
      rw [printed] at member
      exact finished.printed line h p member
    cases settled with
    | noExit _ same =>
      rw [same]
      exact finished.lives
    | exit _ ended =>
      obtain ⟨live, -, -, -, -, host, -⟩ := ended
      rw [(hw.down finished.lives _).2] at host
      cases host
    | other restarts => cases restarts

/-! ## The session -/

theorem registerExports (b : BridgeId) (lobby : ObjectId) :
    Keeps (AtRest P) (registerExports foreign b lobby) := by
  refine .bind (hf.rests _ rfl nofun) fun bound => ?_
  cases bound with
  | error e => exact .pure _
  | ok binding => exact .bind (hf.rests _ rfl nofun) fun _ => .pure _

theorem declareMethod (types : Signature) (b : BridgeId) (settings : Settings.Imports)
    (method : String) :
    Keeps (AtRest P) (EventImports.declareMethod foreign types b settings method) :=
  .bind (hf.rests _ rfl nofun) fun _ => .pure _

theorem declare (b : BridgeId) (settings : Settings.Imports) :
    Keeps (AtRest P) (EventImports.declare foreign b settings) := by
  refine .bind (hf.declareMethod _ b settings _) fun testString => ?_
  cases testString with
  | error e => exact .pure _
  | ok testString =>
    refine .bind (hf.declareMethod _ b settings _) fun preConnect => ?_
    cases preConnect with
    | error e => exact .pure _
    | ok preConnect =>
      refine .bind (hf.declareMethod _ b settings _) fun postConnect => ?_
      cases postConnect <;> exact .pure _

theorem trackNamed (b : BridgeId) (id : ObjectId) (name : String) :
    Keeps (AtRest P) (trackNamed foreign b id name) := by
  refine .bind (hf.rests _ rfl nofun) fun tracked => ?_
  cases tracked with
  | true => exact .pure _
  | false => exact AtRest.write _ _ _

theorem attach (b : BridgeId) (settings : Settings.Imports) (lobby : ObjectId) :
    Keeps (AtRest P) (Session.attach foreign b settings lobby) := by
  refine .bind (hf.declare b settings) fun events => ?_
  cases events with
  | error e => exact .pure _
  | ok events =>
    exact .bind (AtRest.updateHeap _) fun _ => .bind (AtRest.createFresh _) fun _ =>
      .bind (hf.trackNamed _ _ _) fun _ => .bind (hf.trackNamed _ _ _) fun _ => .pure _

theorem tryStart (settings : Settings.Imports) (loader : Loader) (lobby : ObjectId)
    (hw : AtRest Fresh w) {r : Except BridgeError Session}
    (ran : Returns (Session.tryStart foreign bridgeId settings loader lobby) w r w') :
    StartsSession r w' := by
  obtain ⟨bound, w₁, registered, ran⟩ := Returns.bind ran
  have fresh := (hf.registerExports _ _).returns registered hw
  cases bound with
  | error e =>
    obtain ⟨rfl, rfl⟩ := Returns.pure ran
    exact .failed (fresh.imp fun fresh => .inr fresh.done)
  | ok u =>
    obtain ⟨loaded, w₂, load, ran⟩ := Returns.bind ran
    cases loaded with
    | error e =>
      obtain ⟨rfl, rfl⟩ := Returns.pure ran
      exact .failed ((hf.load_error fresh load).imp .inr)
    | ok u =>
      have up := (hf.attach _ _ _).returns ran (hf.load_ok fresh load)
      cases r with
      | error e => exact .failed (up.imp .inl)
      | ok session => exact .up up (Returns.attach ran)

theorem start (settings : Settings.Imports) (loader : Loader)
    (hw : AtRest Fresh w) {r : Except BridgeError Session}
    (ran : Returns (Session.start foreign bridgeId settings loader) w r w') :
    StartsSession r w' := by
  obtain ⟨lobby, w₁, created, ran⟩ := Returns.bind ran
  have fresh := (AtRest.createFresh _).returns created hw
  obtain ⟨started, w₂, tried, ran⟩ := Returns.bind ran
  cases hf.tryStart settings loader lobby fresh tried with
  | failed rest =>
    obtain ⟨u, w₃, disowned, ran⟩ := Returns.bind ran
    obtain ⟨u, w₄, cleared, ran⟩ := Returns.bind ran
    obtain ⟨rfl, rfl⟩ := Returns.pure ran
    have kept := (AtRest.updateHeap _).returns disowned rest
    exact .failed ((hf.rests (.clear (.bridge bridgeId)) rfl nofun).returns cleared kept)
  | up rest proper =>
    obtain ⟨rfl, rfl⟩ := Returns.pure ran
    exact .up rest proper

/-! ## The program -/

theorem startSession (app : Application) (env : Environment) (hw : AtRest Fresh w)
    {r : Except ApplicationFault Session}
    (ran : Returns (Application.startSession foreign app env) w r w') :
    StartsSession r w' := by
  unfold Application.startSession at ran
  cases found : app.settings.loader env with
  | error refusal =>
    rw [found] at ran
    obtain ⟨rfl, rfl⟩ := Returns.pure ran
    exact .failed (hw.imp fun fresh => .inr fresh.done)
  | ok loader =>
    rw [found] at ran
    obtain ⟨started, w₁, start, ran⟩ := Returns.bind ran
    cases hf.start _ loader hw start with
    | failed rest =>
      obtain ⟨u, w₂, logged, ran⟩ := Returns.bind ran
      obtain ⟨rfl, rfl⟩ := Returns.pure ran
      exact .failed ((AtRest.write _ _ _).returns logged rest)
    | up rest proper =>
      obtain ⟨rfl, rfl⟩ := Returns.pure ran
      exact .up rest proper

/-- The test calls the method for tests, and its text is what that returned. -/
theorem selfTest (hw : AtRest P w) {session : Session} {b : BridgeId} (proper : session.IsOf b)
    {answer : Except BridgeError String}
    (ran : Returns (Session.selfTest foreign session) w answer w') :
    AtRest P w' ∧ ∀ text, answer = .ok text → Tells text w'.history := by
  obtain ⟨result, w₁, called, ran⟩ := Returns.bind ran
  have rested := (hf.rests (.call session.events.testString.untyped []) rfl nofun).returns called hw
  cases result with
  | error e =>
    obtain ⟨rfl, rfl⟩ := Returns.pure ran
    exact ⟨rested, nofun⟩
  | ok value =>
    obtain ⟨rfl, rfl⟩ := Returns.pure ran
    refine ⟨rested, fun text same => ⟨session.events.testString.untyped, ?_⟩⟩
    cases value with
    | text told =>
      cases same
      obtain ⟨result, w₂, -, whole⟩ :=
        (Operation.call session.events.testString.untyped []).run_eq foreign w
      cases called.symm.trans whole
      exact ⟨_, proper.method, List.mem_cons_self⟩
    | _ => cases same

/-- A session that is tested is torn down before anything is printed. -/
theorem testSession (hw : AtRest Hosts w) {session : Session} (proper : session.IsOf bridgeId)
    {r : Except ApplicationFault Unit}
    (ran : Returns (Application.testSession foreign session) w r w') : AtRest Done w' := by
  obtain ⟨answer, w₁, tested, ran⟩ := Returns.bind ran
  obtain ⟨rested, told⟩ := hf.selfTest hw proper tested
  obtain ⟨u, w₂, down, ran⟩ := Returns.bind ran
  obtain ⟨gone, down⟩ := Returns.discard down
  rw [Session.shutdown, proper.bridge] at down
  have finished := hf.teardown rested down
  cases answer with
  | error e =>
    obtain ⟨rfl, rfl⟩ := Returns.pure ran
    exact finished.imp fun ⟨printed, whole⟩ => .silent (.inr whole) printed
  | ok text =>
    obtain ⟨u, w₃, printed, ran⟩ := Returns.bind ran
    obtain ⟨rfl, rfl⟩ := Returns.pure ran
    have grown := (hf.ends rested down).2
    refine (hf.prints finished printed).imp ?_
    rintro ⟨before, ⟨none, whole⟩, now⟩
    rw [now, none]
    refine ⟨.inr whole, fun line h p member => ?_⟩
    cases List.mem_singleton.mp member
    obtain ⟨imported, q, method, returned⟩ := told text rfl
    exact ⟨⟨text, rfl, imported, q, method, grown.subset returned⟩, finished.known.2,
      finished.down (.inr finished.known.2)⟩

/-- On a signal the session is torn down. Without one, that is left to the end of the process. -/
theorem awaitSignal (hw : AtRest Hosts w) {session : Session} (proper : session.IsOf bridgeId)
    {wakeup : Wakeup} {r : Except ApplicationFault Unit}
    (ran : Returns (Application.awaitSignal foreign session wakeup) w r w') :
    AtRest (fun s => s.Hosts ∨ s.Done) w' := by
  have signalled : ∀ {signal : Wakeup} {w w' : World} {gone : Bool}, AtRest Hosts w →
      Returns (teardownOn foreign session.bridge signal) w gone w' → AtRest Done w' := by
    intro signal w w' gone hw ran
    obtain ⟨u, w₁, logged, down⟩ := Returns.bind ran
    rw [proper.bridge] at down
    have finished := hf.teardown ((AtRest.write _ _ _).returns logged hw) down
    exact finished.imp fun ⟨printed, whole⟩ => .silent (.inr whole) printed
  obtain ⟨u, w₁, logged, ran⟩ := Returns.bind ran
  have waiting := (AtRest.write _ _ _).returns logged hw
  cases wakeup
  case failure reason =>
    obtain ⟨rfl, rfl⟩ := Returns.pure ran
    exact waiting.imp .inl
  all_goals
    obtain ⟨gone, w₂, torn, ran⟩ := Returns.bind ran
    have finished := signalled waiting torn
    refine AtRest.imp ?_ .inr
    cases gone with
    | false =>
      obtain ⟨rfl, rfl⟩ := Returns.pure ran
      exact finished
    | true =>
      obtain ⟨u, w₃, logged, ran⟩ := Returns.bind ran
      obtain ⟨rfl, rfl⟩ := Returns.pure ran
      exact (AtRest.write _ _ _).returns logged finished

/-- Whichever way a run takes, a runtime that is left is to be torn down at the end. -/
theorem runs (app : Application) (env : Environment) (wakeup : Wakeup) (hw : AtRest Fresh w)
    {r : Except ApplicationFault Unit}
    (ran : Returns (app.run foreign env wakeup) w r w') :
    AtRest (fun s => s.Hosts ∨ s.Done) w' := by
  obtain ⟨u, w₁, logged, ran⟩ := Returns.bind ran
  have fresh := (AtRest.write _ _ _).returns logged hw
  obtain ⟨u, w₂, logged, ran⟩ := Returns.bind ran
  have fresh := (AtRest.write _ _ _).returns logged fresh
  obtain ⟨u, w₃, logged, ran⟩ := Returns.bind ran
  have fresh := (AtRest.write _ _ _).returns logged fresh
  obtain ⟨started, w₄, start, ran⟩ := Returns.bind ran
  cases hf.startSession app env fresh start with
  | failed rest =>
    obtain ⟨rfl, rfl⟩ := Returns.pure ran
    exact rest
  | up rest proper =>
    dsimp only at ran
    split at ran
    · exact (hf.testSession rest proper ran).imp .inr
    · exact hf.awaitSignal rest proper ran

theorem main (args : List String) (env : Environment) (wakeup : Wakeup) (hw : AtRest Fresh w)
    {r : Application.Outcome} (ran : Returns (Application.main foreign args env wakeup) w r w') :
    AtRest Done w' := by
  unfold Application.main at ran
  cases read : CommandLine.ofArguments args with
  | error fault =>
    rw [read] at ran
    have same : w' = w := by
      cases fault <;> exact (Returns.pure ran).2
    exact same ▸ hw.imp Standing.Fresh.done
  | ok line =>
    rw [read] at ran
    obtain ⟨created, w₁, create, ran⟩ := Returns.bind ran
    have fresh := hw.create create
    cases created with
    | error fault =>
      obtain ⟨rfl, rfl⟩ := Returns.pure ran
      exact fresh.imp Standing.Fresh.done
    | ok app =>
      obtain ⟨_, _, got, ran⟩ := Returns.bind ran
      cases got
      obtain ⟨result, w₂, run, ran⟩ := Returns.bind ran
      have left := hf.runs app env wakeup fresh run
      obtain ⟨p, w₃, seen, ran⟩ := Returns.bind ran
      obtain ⟨rfl, rfl⟩ := Returns.process seen
      dsimp only at ran
      split at ran
      case isTrue =>
        obtain ⟨u, w₄, exit, ran⟩ := Returns.bind ran
        obtain ⟨gone, exit⟩ := Returns.discard exit
        obtain ⟨_, _, got, ran⟩ := Returns.bind ran
        cases got
        obtain ⟨rfl, rfl⟩ := Returns.pure ran
        exact hf.exit left exit
      case isFalse hookless =>
        obtain ⟨_, _, got, ran⟩ := Returns.bind ran
        cases got
        obtain ⟨rfl, rfl⟩ := Returns.pure ran
        exact left.imp fun known => known.resolve_left fun up => hookless up.hook

end Bystander

/-! ## What is left -/

/-- The runtime whose start is a milestone. -/
def Milestone.runtime? : Milestone → Option (HostId × HostInstance)
  | started _ runtime => some runtime
  | _ => none

theorem startedRuntimes_eq (h : List Moment) :
    startedRuntimes h = (milestones h).filterMap Milestone.runtime? := by
  induction h with
  | nil => rfl
  | cons moment earlier ih =>
    rw [milestones, List.filterMap_append, ← ih]
    obtain ⟨event, p⟩ := moment
    cases event with
    | called call =>
      cases call with
      | managed purpose => cases purpose <;> rfl
      | _ => rfl
    | replied call reply =>
      cases call with
      | startUp => cases reply <;> rfl
      | createDelegate => cases innermostLoad (underway earlier).tail <;> rfl
      | _ => rfl
    | _ => rfl

/-- A life is that of one runtime. -/
theorem WholeLife.runtime {b : BridgeId} {loader : Loader} {runtime : HostId × HostInstance}
    {life : List Milestone} (whole : WholeLife b loader runtime life) :
    life.filterMap Milestone.runtime? = [runtime] := by
  cases whole with
  | told => rfl
  | missed unresolved =>
    cases unresolved with
    | load miss | unload miss => cases miss <;> rfl

/-- No runtime is left. Either none was started, or one was: it was shut down once, and told its end
once if it was told the bindings and not at all otherwise. A text that a managed method returned was
printed after that only. -/
structure LeavesNoRuntime (w : World) : Prop where
  alone : underway w.history = []
  down : w.process.IsDown
  runtimes : startedRuntimes w.history = [] ∧ milestones w.history = [] ∨
    ∃ loader runtime, startedRuntimes w.history = [runtime] ∧ shutRuntimes w.history = [runtime] ∧
      WholeLife bridgeId loader runtime (milestones w.history)
  printed : ∀ line p earlier, ⟨.began (.note "output" line), p⟩ :: earlier <:+ w.history →
    underway earlier = [] → IsRoundTrip line earlier p

theorem AtRest.leaves (hw : AtRest Done w) : LeavesNoRuntime w := by
  have down := hw.down hw.known.lives
  have ledger : startedRuntimes w.history = shutRuntimes w.history := by
    cases hw.sound.now.stance with
    | idle _ _ _ _ ledger | preparing _ _ _ _ ledger => exact ledger
    | up b _ _ up =>
      have idle := (down b).1
      rw [up.isLive] at idle
      cases idle
    | closing _ _ _ _ closing =>
      rw [isClosing, hw.alone] at closing
      cases closing
  refine ⟨hw.alone, down, ?_, fun line p earlier printed alone => ?_⟩
  · rw [← ledger, startedRuntimes_eq]
    rcases hw.known.lives with none | ⟨loader, runtime, whole⟩
    · exact .inl ⟨congrArg _ none, none⟩
    · exact .inr ⟨loader, runtime, whole.runtime, whole.runtime, whole⟩
  · exact hw.known.printed line earlier p (mem_printedLines printed alone)

/-- Whatever the settings, the command line and the files are, whatever code outside replies and
however the wait ends: at the end of the process no runtime is left. -/
theorem program_ends_down {outside : Outside} (stands : outside.Abstains Operation.hosts)
    (depth : Nat) (args : List String) (env : Environment) (wakeup : Wakeup) (files : FileSystem)
    (directory : Place) :
    LeavesNoRuntime ((Application.main (outside.answer depth) args env wakeup).run
      { files, directory }).2 := by
  have fresh : AtRest Fresh { files, directory } :=
    ⟨rfl, rfl, ⟨coursed_start, .nil⟩, rfl, rfl⟩
  exact ((answer_bystander stands depth).main args env wakeup fresh (.intro _ _)).leaves

/-- Code outside that does whatever the program asks for. Its load method calls the first binding,
and the method for tests returns a greeting. -/
def Outside.greeting : Outside := fun w call =>
  match call with
  | .openFile _ => .reply (.ok "host")
  | .managed (.load _) _ _ _ =>
    .perform (.enter (Adapter.address 0) [.text (.bytes (Text.Utf8.encode "hi"))]) .reply
  | .managed (.imported _ _) _ _ _ => .reply (.text (.bytes (Text.Utf8.encode "hello")))
  | call => Outside.obliging (fun _ => .reply (.word 0)) w call

theorem greeting_abstains : Outside.greeting.Abstains Operation.hosts := by
  intro w call
  cases call with
  | managed purpose =>
    cases purpose with
    | load => exact .perform rfl .reply
    | _ => exact .reply _
  | _ => exact .reply _

/-- The program as it is run to be tested. -/
def greeted : Application.Outcome × World :=
  (Application.main (Outside.greeting.answer 2) ["spadecs", "--assembly", "/boot", "--self-test"]
    { vars := [(Environment.home, "/net"), (Environment.runtimeVersion, "5")] } .terminate).run
      { files := leastFiles }

/-- The test succeeds, and the runtime was brought up and torn down. -/
theorem greeted_ends_down : Outside.greeting.Abstains Operation.hosts ∧
    ((milestones greeted.2.history).length = 6 ∧
      greeted.2.notes = [⟨"output", "[dotnet] round-trip: hello"⟩]) ∧
    LeavesNoRuntime greeted.2 := by
  refine ⟨greeting_abstains, ?_, program_ends_down greeting_abstains _ _ _ _ _ _⟩
  decide +kernel

end ManagedHost
