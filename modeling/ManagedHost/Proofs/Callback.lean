import ManagedHost.Proofs.Ambient
import ManagedHost.Proofs.History

/-! # Calls that call back

Code outside may carry out operations before it replies, and these may call outside again.
`Respects` is what such a call has to grant: called where the property `J` holds, it replies where
`J` holds, and what went on in between is within the guarantee `G`. If every operation grants as
much from the answers of one depth, then so do the answers of every depth (`answer_respects`), and
the property holds all through every run of a program (`program_sound`). -/

namespace ManagedHost

open ManagedHost.Action

/-- A property of the history and the state of the process. -/
abbrev Claim := List Moment → Process → Prop

/-- A relation between the world when something began and a later one. -/
abbrev Guarantee := World → World → Prop

/-- The property holds and held, and what happened since a world is within the guarantee. -/
structure Within (J : Claim) (G : Guarantee) (w₀ w : World) : Prop where
  sound : Sound J w
  since : G w₀ w

/-- A call made where the property holds is answered where it holds, within the guarantee. -/
def Respects (J : Claim) (G : Guarantee) (foreign : Foreign) : Prop :=
  ∀ call w, Sound J (w.after (.called call)) →
    ∃ reply w₁, Returns (foreign call) w reply (w₁.after (.replied call reply)) ∧
      Within J G (w.after (.called call)) w₁

/-- Every operation and every entry of a binding keeps the property, within the guarantee. -/
structure Disciplined (J : Claim) (G : Guarantee) (foreign : Foreign) : Prop where
  run : ∀ (operation : Operation) w₀, Keeps (Within J G w₀) (operation.run foreign)
  enter : ∀ id adapter cells w₀, Keeps (Within J G w₀) (enterAdapter foreign id adapter cells)

variable {J : Claim} {G : Guarantee} {outside : Outside} {foreign : Foreign}

theorem Disciplined.conduct (h : Disciplined J G foreign) {ρ : Type} (w₀ : World) :
    ∀ conduct : Conduct ρ, Keeps (Within J G w₀) (conduct.run foreign)
  | .reply value => .pure value
  | .look next => fun w hw => h.conduct w₀ (next w) w hw
  | .perform operation next => .bind (h.run operation w₀) fun result => h.conduct w₀ (next result)

theorem Disciplined.react (h : Disciplined J G foreign) (w₀ : World) (call : ForeignCall) :
    Keeps (Within J G w₀) (outside.conduct foreign call) := by
  have reaction : Keeps (Within J G w₀) (outside.react foreign call) :=
    fun w hw => h.conduct w₀ (outside w call) w hw
  cases call with
  | managed purpose address signature cells =>
    refine .of_process fun w hw => ?_
    cases w.process.adapterAt? address with
    | none => exact reaction w hw
    | some found => exact h.enter _ _ _ _ w hw
  | _ => exact reaction

/-- An operation is carried out between its two entries in the history. -/
theorem Operation.run_eq (operation : Operation) (foreign : Foreign) (w : World) :
    ∃ result w₁, Returns (operation.perform foreign) (w.after (.began operation)) result w₁ ∧
      (operation.run foreign).run w = (result, w₁.after (.ended operation result)) :=
  ⟨_, _, .intro _ _, rfl⟩

/-- What the operations grant at one depth the answers grant at every depth. -/
theorem answer_respects (hrefl : ∀ w, G w w)
    (hop : ∀ depth, Respects J G (outside.answer depth) →
      Disciplined J G (outside.answer depth)) :
    ∀ depth, Respects J G (outside.answer depth)
  | 0 => fun call w hw => ⟨call.inertReply, w.after (.called call), rfl, hw, hrefl _⟩
  | depth + 1 => by
    intro call w hw
    have below := hop depth (answer_respects hrefl hop depth)
    exact ⟨_, _, rfl, below.react (w.after (.called call)) call _ ⟨hw, hrefl _⟩⟩

/-- The world after a program was run in a fresh process. -/
def Outside.leads (outside : Outside) (depth : Nat) {ρ : Type} (program : Conduct ρ)
    (files : FileSystem) (directory : Place) : World :=
  ((program.run (outside.answer depth)).run { files, directory }).2

/-- A property that holds at the start and that every operation keeps holds all through every
run. -/
theorem program_sound (hrefl : ∀ w, G w w)
    (hop : ∀ depth, Respects J G (outside.answer depth) →
      Disciplined J G (outside.answer depth))
    (start : J [] {}) (depth : Nat) {ρ : Type} (program : Conduct ρ) (files : FileSystem)
    (directory : Place) :
    Within J G { files, directory } (outside.leads depth program files directory) :=
  (hop depth (answer_respects hrefl hop depth)).conduct _ program _
    ⟨⟨start, .nil⟩, hrefl _⟩

end ManagedHost
