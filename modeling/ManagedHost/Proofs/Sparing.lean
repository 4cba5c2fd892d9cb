import ManagedHost.Proofs.Interlude

/-! # What is left alone while something is under way

Let some operations be barred as long as a call or an operation of some kind is under way, all those
among them that bring a runtime up or tear one down. A view of what happened and of the process that
no other operation changes then stays the same until the call or the operation ends (`Spares`).
Every call grants this, whatever code outside does (`answer_spares`), and an operation that is not
barred leaves the view alone from its beginning to its end (`leaves_run`). Code outside that never
asks for a barred operation begins none (`answer_abstains`). -/

namespace ManagedHost

open ManagedHost.Action

/-- No barred operation begins while something of a kind is under way. -/
def noneBegins (barred : Operation → Bool) (kind : List Moment → Bool) : List Moment → Bool
  | [] => true
  | ⟨.began operation, _⟩ :: earlier =>
    noneBegins barred kind earlier && !(barred operation && (underway earlier).any kind)
  | _ :: earlier => noneBegins barred kind earlier

section

variable {barred : Operation → Bool} {kind : List Moment → Bool} {h h' : List Moment}

theorem noneBegins_of_suffix (suffix : h <:+ h') (spared : noneBegins barred kind h' = true) :
    noneBegins barred kind h = true := by
  induction h' with
  | nil =>
    obtain rfl := List.suffix_nil.mp suffix
    exact spared
  | cons moment later ih =>
    rcases List.suffix_cons_iff.mp suffix with rfl | suffix
    · exact spared
    · refine ih suffix ?_
      obtain ⟨event, p⟩ := moment
      cases event with
      | began operation => exact (Bool.and_eq_true_iff.mp spared).1
      | _ => exact spared

theorem not_underway_of_barred {operation : Operation} {p : Process}
    (spared : noneBegins barred kind (⟨.began operation, p⟩ :: h) = true)
    (isBarred : barred operation = true) : (underway h).any kind = false := by
  rw [noneBegins, isBarred, Bool.true_and, Bool.and_eq_true] at spared
  simpa using spared.2

/-- Where loading and tearing down are barred during calls of a kind, nobody disturbs these. -/
theorem isUndisturbed_of_noneBegins {calls : ForeignCall → Bool}
    (restarting : ∀ operation, operation.restarts = true → barred operation = true)
    (covers : ∀ frame, endsWithCall calls frame = true → kind frame = true)
    (spared : noneBegins barred kind h = true) : isUndisturbed calls h = true := by
  induction h with
  | nil => rfl
  | cons moment earlier ih =>
    have before := ih (noneBegins_of_suffix (List.suffix_cons _ _) spared)
    obtain ⟨event, p⟩ := moment
    cases event with
    | began operation =>
      rw [isUndisturbed, before, Bool.true_and]
      cases restarts : operation.restarts with
      | false => rfl
      | true =>
        have none := not_underway_of_barred spared (restarting operation restarts)
        rw [List.any_eq_false] at none
        simpa using fun frame member ends => none frame member (covers frame ends)
    | _ => exact before

end

/-- A view that nothing changes but barred operations, and the calls by which a runtime is brought
up, told the bindings or torn down. -/
structure Unseen {γ : Type} (barred : Operation → Bool) (view : List Moment → Process → γ) :
    Prop where
  hosts : ∀ operation, operation.hosts = true → barred operation = true
  entry : ∀ address cells, barred (.enter address cells) = false
  effect : ∀ {h p p'} {operation : Operation}, barred operation = false → Effect operation p p' →
    view h p' = view h p
  called : ∀ {h p q} {call : ForeignCall}, call.handlesRuntime = false →
    view (⟨.called call, q⟩ :: h) p = view h p
  replied : ∀ {h p q} {call : ForeignCall} (reply : call.Reply), call.handlesRuntime = false →
    call.looksUp = false → view (⟨.replied call reply, q⟩ :: h) p = view h p
  /-- A look-up does not count unless a barred operation asks for it. -/
  lookedUp : ∀ {h p q} {host started assembly typeName method} reply {operation : Operation}
    {r earlier outer}, (underway h).tail = (⟨.began operation, r⟩ :: earlier) :: outer →
    barred operation = false →
    view (⟨.replied (.createDelegate host started assembly typeName method) reply, q⟩ :: h) p =
      view h p
  began : ∀ {h p q} (operation : Operation), underway h ≠ [] →
    view (⟨.began operation, q⟩ :: h) p = view h p
  ended : ∀ {h p q} {operation : Operation} (result : operation.Result),
    barred operation = false → view (⟨.ended operation result, q⟩ :: h) p = view h p

section

variable {γ : Type} (barred : Operation → Bool) (kind : List Moment → Bool)
  (view : List Moment → Process → γ)

/-- The same things are under way, and unless a barred operation began where it may not, the view is
the same. -/
structure Leaves (w w' : World) : Prop where
  frames : underway w'.history = underway w.history
  grown : w.history <:+ w'.history
  same : noneBegins barred kind w'.history = true →
    view w'.history w'.process = view w.history w.process

/-- The same things are under way, and if one of them is of the kind, the view is left alone. -/
structure Spares (w w' : World) : Prop where
  frames : underway w'.history = underway w.history
  grown : w.history <:+ w'.history
  same : (underway w.history).any kind = true → noneBegins barred kind w'.history = true →
    view w'.history w'.process = view w.history w.process

end

section

variable {γ : Type} {barred : Operation → Bool} {kind : List Moment → Bool}
  {view : List Moment → Process → γ} {foreign : Foreign} {u v w w₀ w' : World}

theorem Leaves.refl (w : World) : Leaves barred kind view w w :=
  ⟨rfl, List.suffix_rfl, fun _ => rfl⟩

theorem Leaves.trans (first : Leaves barred kind view u v) (second : Leaves barred kind view v w) :
    Leaves barred kind view u w :=
  ⟨second.frames.trans first.frames, first.grown.trans second.grown, fun spared =>
    (second.same spared).trans (first.same (noneBegins_of_suffix second.grown spared))⟩

theorem Leaves.alike (h : Leaves barred kind view u v) (same : Alike v w) :
    Leaves barred kind view u w := by
  obtain ⟨process, history, -, -⟩ := same
  constructor
  · rw [history]; exact h.frames
  · rw [history]; exact h.grown
  · rw [process, history]; exact h.same

theorem Leaves.put (h : Leaves barred kind view u v) {p : Process}
    (same : view v.history p = view v.history v.process) :
    Leaves barred kind view u (v.put p) :=
  ⟨h.frames, h.grown, fun spared => same.trans (h.same spared)⟩

theorem Spares.refl (w : World) : Spares barred kind view w w :=
  ⟨rfl, List.suffix_rfl, fun _ _ => rfl⟩

theorem Spares.trans (first : Spares barred kind view u v) (second : Spares barred kind view v w) :
    Spares barred kind view u w := by
  refine ⟨second.frames.trans first.frames, first.grown.trans second.grown, fun held spared => ?_⟩
  have before := first.same held (noneBegins_of_suffix second.grown spared)
  exact (second.same (first.frames ▸ held) spared).trans before

theorem Leaves.spares (h : Leaves barred kind view u v) : Spares barred kind view u v :=
  ⟨h.frames, h.grown, fun _ => h.same⟩

theorem within_whatever {G : Guarantee} (h : G u v) : Within whatever G u v :=
  ⟨⟨trivial, fun _ _ _ => trivial⟩, h⟩

variable (hf : Respects whatever (Spares barred kind view) foreign)
include hf

/-- A call leaves the same things under way. -/
theorem framed_call (call : ForeignCall) {reply : call.Reply}
    (ran : Returns (foreign call) w reply w') :
    underway w'.history = underway w.history ∧ w.history <:+ w'.history := by
  obtain ⟨reply', w₁, ran', between⟩ := hf call w ⟨trivial, fun _ _ _ => trivial⟩
  cases ran.symm.trans ran'
  refine ⟨?_, (List.suffix_cons _ _).trans (between.since.grown.trans (List.suffix_cons _ _))⟩
  rw [World.history_after, underway_replied, between.since.frames]
  rfl

/-- What an operation does leaves the same things under way. -/
theorem framed_perform (operation : Operation) {result : operation.Result}
    (performed : Returns (operation.perform foreign) w result w') :
    underway w'.history = underway w.history ∧ w.history <:+ w'.history := by
  let Framed (v : World) : Prop :=
    underway v.history = underway w.history ∧ w.history <:+ v.history
  have call : ∀ call, Keeps Framed (foreign call) := by
    intro call v framed
    obtain ⟨frames, grown⟩ := framed_call hf call (.intro (foreign call) v)
    exact ⟨frames.trans framed.1, framed.2.trans grown⟩
  have keeps : Keeps Framed (operation.perform foreign) := by
    cases hosts : operation.hosts with
    | false =>
      exact operation.perform_keeps
        { change := fun _ _ _ framed => framed
          write := fun _ _ framed => framed
          remember := fun _ _ framed => framed
          native := fun _ _ _ => call _
          createDelegate := fun _ _ _ _ _ => call _
          imported := fun _ _ _ _ _ => call _ } hosts
    | true =>
      refine operation.perform_hosting ⟨fun _ _ _ framed => framed, ?_, call⟩ hosts
      rintro v v' ⟨-, history, -, -⟩ framed
      change underway v'.history = _ ∧ _ <:+ v'.history
      rw [history]
      exact framed
  exact keeps.returns performed ⟨rfl, List.suffix_rfl⟩

/-- An operation leaves the same things under way, whatever it does. -/
theorem framed_run (operation : Operation) {result : operation.Result}
    (ran : Returns (operation.run foreign) w result w') :
    underway w'.history = underway w.history ∧
      (w.after (.began operation)).history <:+ w'.history := by
  obtain ⟨result', w₁, performed, whole⟩ := operation.run_eq foreign w
  cases ran.symm.trans whole
  obtain ⟨frames, grown⟩ := framed_perform hf operation performed
  refine ⟨?_, grown.trans (List.suffix_cons _ _)⟩
  rw [World.history_after, underway_ended, frames]
  rfl

variable (unseen : Unseen barred view)
include unseen

/-- A call that handles no runtime leaves the view alone while it is of the kind, or something
else is, and a look-up does if it is made by an operation that is not barred. -/
theorem sparing_call {call : ForeignCall} (idle : call.handlesRuntime = false)
    (asked : call.looksUp = true → ∃ operation q earlier outer,
      underway w.history = (⟨.began operation, q⟩ :: earlier) :: outer ∧ barred operation = false)
    (held : (underway (w.after (.called call)).history).any kind = true) {reply : call.Reply}
    (ran : Returns (foreign call) w reply w') : Leaves barred kind view w w' := by
  obtain ⟨frames, grown⟩ := framed_call hf call ran
  refine ⟨frames, grown, fun spared => ?_⟩
  obtain ⟨reply', w₁, ran', between⟩ := hf call w ⟨trivial, fun _ _ _ => trivial⟩
  cases ran.symm.trans ran'
  have meanwhile : view w₁.history w₁.process = view w.history w.process :=
    (between.since.same held spared).trans (unseen.called idle)
  refine Eq.trans ?_ meanwhile
  cases looksUp : call.looksUp with
  | false => exact unseen.replied reply idle looksUp
  | true =>
    obtain ⟨operation, q, earlier, outer, under, free⟩ := asked looksUp
    have caller : (underway w₁.history).tail = (⟨.began operation, q⟩ :: earlier) :: outer := by
      rw [between.since.frames]
      exact under
    cases call with
    | createDelegate => exact unseen.lookedUp reply caller free
    | _ => cases looksUp

/-- What an operation that is not barred does leaves the view alone, if its calls are of the kind or
made while something else is. -/
theorem leaves_perform {operation : Operation} (free : barred operation = false)
    (inside : (underway w.history).any kind = true ∨ ∀ frame, kind frame = true) :
    Keeps (Leaves barred kind view (w.after (.began operation))) (operation.perform foreign) := by
  have call : ∀ {call : ForeignCall}, call.handlesRuntime = false →
      Keeps (Leaves barred kind view (w.after (.began operation))) (foreign call) := by
    intro call idle v left
    refine left.trans (sparing_call hf unseen idle ?_ ?_ (.intro (foreign call) v))
    · exact fun _ => ⟨operation, w.process, w.history, underway w.history, left.frames, free⟩
    · rw [World.history_after, underway_called, List.any_cons, left.frames, World.history_after,
        underway, List.any_cons, Bool.or_eq_true, Bool.or_eq_true]
      rcases inside with held | every
      · exact .inr (.inr held)
      · exact .inl (every _)
  have steady : SteadyCallsIn operation foreign
      (Leaves barred kind view (w.after (.began operation))) :=
    { effect := fun v p step _ left => left.put (unseen.effect free step)
      write := fun v log left => left.alike ⟨rfl, rfl, rfl, rfl⟩
      remember := fun v notes left => left.alike ⟨rfl, rfl, rfl, rfl⟩
      native := fun _ _ _ => call rfl
      createDelegate := fun _ _ _ _ _ => call rfl
      imported := fun _ _ _ _ _ => call rfl }
  have hosts : operation.hosts = false := by
    cases hosts : operation.hosts with
    | false => rfl
    | true => exact absurd (unseen.hosts operation hosts) (by simp [free])
  exact Operation.perform_steady steady hosts

/-- From its beginning to its end an operation that is not barred leaves the view alone, if its
beginning does. -/
theorem leaves_run {operation : Operation} {result : operation.Result}
    (free : barred operation = false)
    (inside : (underway w.history).any kind = true ∨ ∀ frame, kind frame = true)
    (start : view (w.after (.began operation)).history w.process = view w.history w.process)
    (ran : Returns (operation.run foreign) w result w') : Leaves barred kind view w w' := by
  obtain ⟨frames, grown⟩ := framed_run hf operation ran
  refine ⟨frames, (List.suffix_cons _ _).trans grown, fun spared => ?_⟩
  obtain ⟨result', w₁, performed, whole⟩ := operation.run_eq foreign w
  cases ran.symm.trans whole
  have done := (leaves_perform hf unseen free inside).returns performed (.refl _)
  exact (unseen.ended _ free).trans ((done.same spared).trans start)

theorem spares_disciplined : Disciplined whatever (Spares barred kind view) foreign := by
  constructor
  · intro operation w₀ w hw
    have ran : Returns (operation.run foreign) w _ _ := .intro _ w
    refine within_whatever (hw.since.trans ?_)
    obtain ⟨frames, grown⟩ := framed_run hf operation ran
    refine ⟨frames, (List.suffix_cons _ _).trans grown, fun held spared => ?_⟩
    cases isBarred : barred operation with
    | true =>
      rw [not_underway_of_barred (noneBegins_of_suffix grown spared) isBarred] at held
      cases held
    | false =>
      have busy : underway w.history ≠ [] := by
        intro none
        rw [none] at held
        cases held
      have left := leaves_run hf unseen isBarred (.inl held) (unseen.began operation busy) ran
      exact left.same spared
  · intro id adapter cells w₀
    have steady : SteadyIn (.enter (Adapter.address id) cells) foreign
        (Within whatever (Spares barred kind view) w₀) :=
      { effect := fun v p step _ hv => within_whatever (hv.since.trans
          ((Leaves.refl v).put (unseen.effect (unseen.entry _ _) step)).spares)
        write := fun v log hv => within_whatever
          ⟨hv.since.frames, hv.since.grown, hv.since.same⟩
        remember := fun v notes hv => within_whatever
          ⟨hv.since.frames, hv.since.grown, hv.since.same⟩
        native := fun number signature args v hv => by
          have ran : Returns (foreign (.native number signature args)) v _ _ := .intro _ v
          refine within_whatever (hv.since.trans ?_)
          obtain ⟨frames, grown⟩ := framed_call hf _ ran
          refine ⟨frames, grown, fun held => (sparing_call hf unseen rfl ?_ ?_ ran).same⟩
          · exact fun looksUp => absurd looksUp Bool.false_ne_true
          · rw [World.history_after, underway_called, List.any_cons, held, Bool.or_true] }
    exact steady.enterAdapter id adapter cells

end

/-- Whatever code outside does, a view that no operation changes but barred ones is left alone. -/
theorem answer_spares {γ : Type} {barred : Operation → Bool} {view : List Moment → Process → γ}
    (unseen : Unseen barred view) (kind : List Moment → Bool) (outside : Outside) (depth : Nat) :
    Respects whatever (Spares barred kind view) (outside.answer depth) :=
  answer_respects .refl (fun _ hf => spares_disciplined hf unseen) depth

/-! ## Code outside that asks for no barred operation -/

/-- A conduct that asks for no barred operation. -/
inductive Conduct.Abstains (barred : Operation → Bool) {ρ : Type} : Conduct ρ → Prop
  | reply (value : ρ) : Abstains barred (.reply value)
  | look {next : World → Conduct ρ} (h : ∀ w, Abstains barred (next w)) :
      Abstains barred (.look next)
  | perform {operation : Operation} {next : operation.Result → Conduct ρ}
      (free : barred operation = false) (h : ∀ result, Abstains barred (next result)) :
      Abstains barred (.perform operation next)

/-- No code outside asks for a barred operation. -/
def Outside.Abstains (barred : Operation → Bool) (outside : Outside) : Prop :=
  ∀ w call, (outside w call).Abstains barred

section

variable {barred : Operation → Bool} {kind : List Moment → Bool} {foreign : Foreign}

/-- An operation begins no barred one while something of the kind is under way, if it may begin
itself and the calls that it makes begin none. -/
theorem spared_run
    (calls : ∀ call, Keeps (fun w => noneBegins barred kind w.history = true) (foreign call))
    (operation : Operation) {w w' : World} {result : operation.Result}
    (may : (barred operation && (underway w.history).any kind) = false)
    (spared : noneBegins barred kind w.history = true)
    (ran : Returns (operation.run foreign) w result w') :
    noneBegins barred kind w'.history = true := by
  obtain ⟨result', w₁, performed, whole⟩ := operation.run_eq foreign w
  cases ran.symm.trans whole
  have began : noneBegins barred kind (w.after (.began operation)).history = true := by
    rw [World.history_after, noneBegins, spared, may]
    rfl
  change noneBegins barred kind w₁.history = true
  cases hosts : operation.hosts with
  | false =>
    have steady : SteadyCalls foreign fun v => noneBegins barred kind v.history = true :=
      { change := fun _ _ _ spared => spared
        write := fun _ _ spared => spared
        remember := fun _ _ spared => spared
        native := fun _ _ _ => calls _
        createDelegate := fun _ _ _ _ _ => calls _
        imported := fun _ _ _ _ _ => calls _ }
    exact (operation.perform_keeps steady hosts).returns performed began
  | true =>
    have steady : SteadyHosting foreign fun v => noneBegins barred kind v.history = true := by
      refine ⟨fun _ _ _ spared => spared, ?_, calls⟩
      rintro v v' ⟨-, history, -, -⟩ spared
      rw [history]
      exact spared
    exact (operation.perform_hosting steady hosts).returns performed began

theorem Conduct.Abstains.spares
    (calls : ∀ call, Keeps (fun w => noneBegins barred kind w.history = true) (foreign call))
    {ρ : Type} {conduct : Conduct ρ} (h : conduct.Abstains barred) :
    Keeps (fun w => noneBegins barred kind w.history = true) (conduct.run foreign) := by
  induction h with
  | reply value => exact .pure value
  | look h ih => exact fun w spared => ih w w spared
  | @perform operation next free h ih =>
    refine .bind (fun w spared => ?_) ih
    refine spared_run calls operation ?_ spared (.intro _ w)
    rw [free, Bool.false_and]

/-- Where no code outside asks for a barred operation, none begins during a call. -/
theorem answer_abstains {outside : Outside} (h : outside.Abstains barred)
    (kind : List Moment → Bool) : ∀ (depth : Nat) (call : ForeignCall),
      Keeps (fun w => noneBegins barred kind w.history = true) (outside.answer depth call)
  | 0, _ => fun _ spared => spared
  | depth + 1, call => by
    have below := answer_abstains h kind depth
    have steady : Steady (outside.answer depth)
        fun v => noneBegins barred kind v.history = true :=
      { change := fun _ _ _ spared => spared
        write := fun _ _ spared => spared
        remember := fun _ _ spared => spared
        native := fun _ _ _ => below _ }
    have reaction : Keeps (fun v => noneBegins barred kind v.history = true)
        (outside.react (outside.answer depth) call) :=
      fun v spared => (h v call).spares below v spared
    have conducted : Keeps (fun v => noneBegins barred kind v.history = true)
        (outside.conduct (outside.answer depth) call) := by
      cases call with
      | managed purpose address signature cells =>
        refine .of_process fun v spared => ?_
        cases v.process.adapterAt? address with
        | none => exact reaction v spared
        | some found => exact steady.enterAdapter _ _ _ v spared
      | _ => exact reaction
    exact fun v spared => conducted (v.after (.called call)) spared

end

end ManagedHost
