import ManagedHost.Proofs.BindingEntries
import ManagedHost.Proofs.Interlude

/-! # The text that a runtime is told

A bridge keeps the text in which its runtime was told the bindings as long as it is live or is being
torn down, and no other bridge keeps any (`Keeping`). The history says which bridge that is
(`lastOwner`) and what the text was (`textTold`). This needs that nobody loads or tears down while a
method is looked up: a load goes on after its look-ups with a bridge that may be somebody else's by
then. -/

namespace ManagedHost

open ManagedHost.Action Relation

/-! ## What the history says -/

/-- The bridge for which a runtime was started last. When the start is answered, it is the first
thing under way, and the load that made it is the second. -/
def lastOwner : List Moment → Option BridgeId
  | [] => none
  | ⟨.replied (.startUp _ _ _) (.ok _), _⟩ :: earlier =>
    (innermostLoad (underway earlier).tail).map Prod.fst
  | _ :: earlier => lastOwner earlier

/-- The bridge is being torn down: its runtime, the one that was started last, is told its end or
shut down. -/
abbrev IsTearingDown (h : List Moment) (b : BridgeId) : Prop :=
  isClosing h = true ∧ lastOwner h = some b

/-- The text that was kept for the runtime started last when its load method was called, if it
was. -/
def textTold : List Moment → Option String
  | [] => none
  | ⟨.replied (.startUp _ _ _) (.ok _), _⟩ :: _ => none
  | ⟨.called (.managed (.load b) _ _ _), q⟩ :: _ => (q.bridge b).bindingsJson
  | _ :: earlier => textTold earlier

/-- A runtime was started, or it is told something. -/
def Event.isNews : Event → Bool
  | .replied (.startUp _ _ _) (.ok _) => true
  | .called (.managed (.load _) _ _ _) => true
  | _ => false

/-- The load method of a bridge is called with the bindings that the bridge has at that moment, and
the bridge keeps the text. -/
structure Heard (b : BridgeId) (signature : Signature) (cells : List Cell) (q : Process) :
    Prop where
  signature : signature = ⟨.void, [.utf8String]⟩
  cells : cells = [.text (.bytes (Text.Utf8.encode (q.bridge b).outbound.toJson))]
  kept : (q.bridge b).bindingsJson = some (q.bridge b).outbound.toJson

/-- Every load method was called with the bindings, and where look-ups are calm it was called for
the runtime started last, which had been told nothing. -/
def Heeded (h : List Moment) : Prop :=
  ∀ b address signature cells q earlier,
    ⟨.called (.managed (.load b) address signature cells), q⟩ :: earlier <:+ h →
      Heard b signature cells q ∧
        (looksUpCalmly earlier = true → textTold earlier = none ∧ lastOwner earlier = some b)

/-- The bridge of the runtime started last keeps what the runtime was told, as long as it is live or
being torn down. -/
structure Keeping (h : List Moment) (p : Process) : Prop where
  owner : ∀ b, (p.bridge b).isLive = true → lastOwner h = some b
  kept : ∀ b, lastOwner h = some b → (p.bridge b).isLive = true ∨ isClosing h = true →
    (p.bridge b).bindingsJson = textTold h
  blank : ∀ b, ¬ (lastOwner h = some b ∧ ((p.bridge b).isLive = true ∨ isClosing h = true)) →
    (p.bridge b).bindingsJson = none

/-- What is known of the texts all through a run. -/
structure Told (h : List Moment) (p : Process) : Prop where
  heeded : Heeded h
  keeping : looksUpCalmly h = true → Keeping h p

/-- Two states in which the same bridges are live, and keep the same texts. -/
structure SameTexts (p p' : Process) : Prop where
  live : ∀ b, (p'.bridge b).isLive = (p.bridge b).isLive
  text : ∀ b, (p'.bridge b).bindingsJson = (p.bridge b).bindingsJson

section

variable {h : List Moment} {event : Event} {p p' : Process}

theorem lastOwner_cons (quiet : event.isNews = false) (p : Process) (h : List Moment) :
    lastOwner (⟨event, p⟩ :: h) = lastOwner h := by
  rw [lastOwner.eq_def]
  split
  · next same => cases same
  · next same =>
    cases same
    cases quiet
  · next same =>
    cases same
    rfl

theorem textTold_cons (quiet : event.isNews = false) (p : Process) (h : List Moment) :
    textTold (⟨event, p⟩ :: h) = textTold h := by
  rw [textTold.eq_def]
  split
  · next same => cases same
  · next same =>
    cases same
    cases quiet
  · next same =>
    cases same
    cases quiet
  · next same =>
    cases same
    rfl

/-- What handles no runtime is no news. -/
theorem not_isNews_of_idle (idle : event.handlesRuntime = false) : event.isNews = false := by
  unfold Event.isNews
  split
  · cases idle
  · cases idle
  · rfl

theorem lastOwner_append {since : List Moment}
    (idle : ∀ moment ∈ since, moment.event.handlesRuntime = false) (h : List Moment) :
    lastOwner (since ++ h) = lastOwner h := by
  induction since with
  | nil => rfl
  | cons moment since ih =>
    obtain ⟨first, later⟩ := List.forall_mem_cons.mp idle
    exact (lastOwner_cons (not_isNews_of_idle first) _ _).trans (ih later)

theorem textTold_append {since : List Moment}
    (idle : ∀ moment ∈ since, moment.event.handlesRuntime = false) (h : List Moment) :
    textTold (since ++ h) = textTold h := by
  induction since with
  | nil => rfl
  | cons moment since ih =>
    obtain ⟨first, later⟩ := List.forall_mem_cons.mp idle
    exact (textTold_cons (not_isNews_of_idle first) _ _).trans (ih later)

theorem Heeded.cons (heeded : Heeded h)
    (other : ∀ b address signature cells,
      event ≠ .called (.managed (.load b) address signature cells))
    (p : Process) : Heeded (⟨event, p⟩ :: h) := by
  intro b address signature cells q earlier suffix
  rcases List.suffix_cons_iff.mp suffix with same | suffix
  · cases same
    exact absurd rfl (other _ _ _ _)
  · exact heeded b address signature cells q earlier suffix

theorem Heeded.replied (heeded : Heeded h) {call : ForeignCall} (reply : call.Reply) (p : Process) :
    Heeded (⟨.replied call reply, p⟩ :: h) :=
  heeded.cons (fun _ _ _ _ same => by cases same) p

theorem Told.cons (told : Told h p) (quiet : event.isNews = false)
    (closing : isClosing (⟨event, p⟩ :: h) = isClosing h) : Told (⟨event, p⟩ :: h) p := by
  have other : ∀ b address signature cells,
      event ≠ .called (.managed (.load b) address signature cells) := by
    rintro b address signature cells rfl
    cases quiet
  refine ⟨told.heeded.cons other p, fun calm => ?_⟩
  obtain ⟨owner, kept, blank⟩ := told.keeping (isUndisturbed_tail calm)
  constructor
  · rw [lastOwner_cons quiet]
    exact owner
  · rw [lastOwner_cons quiet, textTold_cons quiet, closing]
    exact kept
  · rw [lastOwner_cons quiet, closing]
    exact blank

theorem Keeping.congr (keeping : Keeping h p) (same : SameTexts p p') : Keeping h p' := by
  obtain ⟨owner, kept, blank⟩ := keeping
  constructor
  · intro b
    rw [same.live]
    exact owner b
  · intro b
    rw [same.live, same.text]
    exact kept b
  · intro b
    rw [same.live, same.text]
    exact blank b

theorem Told.congr (told : Told h p) (same : SameTexts p p') : Told h p' :=
  ⟨told.heeded, fun calm => (told.keeping calm).congr same⟩

/-- Where no bridge is live or being torn down, none keeps a text. -/
theorem Keeping.of_down (down : p.IsDown) (closing : isClosing h = false)
    (blank : ∀ b, (p.bridge b).bindingsJson = none) : Keeping h p := by
  constructor
  · intro b isLive
    rw [(down b).1] at isLive
    cases isLive
  · intro b _ held
    rw [(down b).1, closing] at held
    simp at held
  · exact fun b _ => blank b

theorem Keeping.all_blank (keeping : Keeping h p) (down : p.IsDown) (closing : isClosing h = false)
    (b : BridgeId) : (p.bridge b).bindingsJson = none := by
  refine keeping.blank b fun ⟨_, held⟩ => ?_
  rw [(down b).1, closing] at held
  simp at held

/-! ### Steps that leave the texts alone -/

theorem SameTexts.refl (p : Process) : SameTexts p p := ⟨fun _ => rfl, fun _ => rfl⟩

theorem SameTexts.trans {p q r : Process} (h : SameTexts p q) (h' : SameTexts q r) :
    SameTexts p r :=
  ⟨fun b => (h'.live b).trans (h.live b), fun b => (h'.text b).trans (h.text b)⟩

theorem SameTexts.updateBridge (p : Process) {b : BridgeId} {f : Bridge → Bridge}
    (live : (f (p.bridge b)).isLive = (p.bridge b).isLive)
    (text : (f (p.bridge b)).bindingsJson = (p.bridge b).bindingsJson) :
    SameTexts p (p.updateBridge b f) :=
  ⟨Process.view_updateBridge (·.isLive) p live, Process.view_updateBridge (·.bindingsJson) p text⟩

theorem SameTexts.setRegistry (p : Process) (holder : Holder) (registry : Registry) :
    SameTexts p (p.setRegistry holder registry) :=
  ⟨Process.view_setRegistry (·.isLive) (fun _ _ => rfl) p holder registry,
    Process.view_setRegistry (·.bindingsJson) (fun _ _ => rfl) p holder registry⟩

theorem SameTexts.release (p : Process) (b : BridgeId) : SameTexts p (p.release b) :=
  ⟨fun _ => rfl, fun _ => rfl⟩

theorem SameTexts.expect (p : Process) (b : BridgeId) : SameTexts p (p.expect b) :=
  ⟨fun _ => rfl, fun _ => rfl⟩

theorem SameTexts.expectNone (p : Process) : SameTexts p p.expectNone :=
  ⟨fun _ => rfl, fun _ => rfl⟩

theorem Change.sameTexts (change : Change p p') : SameTexts p p' := by
  cases change with
  | bound added =>
    obtain ⟨adapters, registry, rfl⟩ := Process.register_ok added
    have more : SameTexts p { p with adapters } := ⟨fun _ => rfl, fun _ => rfl⟩
    exact more.trans (.setRegistry _ _ registry)
  | cleared holder =>
    have retired : SameTexts p
        { p with retired := p.retired ++ (p.registry holder).map (·.adapter) } :=
      ⟨fun _ => rfl, fun _ => rfl⟩
    exact retired.trans (.setRegistry _ holder [])
  | kept | heap => exact ⟨fun _ => rfl, fun _ => rfl⟩
  | declared | resolved | objects => exact .updateBridge p rfl rfl

theorem Restrained.sameTexts {since : List Moment} (restrained : Restrained since p p') :
    SameTexts p p' := by
  obtain ⟨-, steps⟩ := restrained
  induction steps with
  | refl => exact .refl p
  | tail _ step ih =>
    refine ih.trans ?_
    cases step with
    | effect _ step => exact step.change.sameTexts
    | entered step => exact step.change.sameTexts
    | expect => exact .expect _ _
    | release => exact .release _ _
    | expectNone => exact .expectNone _

end

end ManagedHost
