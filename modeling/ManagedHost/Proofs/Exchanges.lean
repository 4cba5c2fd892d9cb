import ManagedHost.Proofs.FailedLoad

/-! # What is asked of code outside

The calls of hosting code and of managed methods, each with what came back, as the history tells
them. Code outside that does not call back adds to them nothing but the call that was made, and
leaves the files and the bridges alone (`answer_docile`). That holds of a managed method too, even
where its address is the entry of a binding: what happens then is at most a call of a native
function, which is no exchange. -/

namespace ManagedHost

open ManagedHost.Action

/-- A call of code outside, with what came back. -/
abbrev Exchange := (call : ForeignCall) × call.Reply

/-- The exchange that ends with an event. Calls of native functions are not looked at. -/
def Event.exchange? : Event → Option Exchange
  | .replied (.native _ _ _) _ => none
  | .replied call reply => some ⟨call, reply⟩
  | _ => none

/-- The exchanges in a history, the last one first. -/
def exchanges (h : List Moment) : List Exchange := h.filterMap (·.event.exchange?)

theorem exchanges_cons (event : Event) (p : Process) (h : List Moment) :
    exchanges (⟨event, p⟩ :: h) = event.exchange?.toList ++ exchanges h := by
  simp only [exchanges, List.filterMap_cons]
  cases event.exchange? <;> rfl

/-- The same files and the same bridges. -/
structure Untouched (w w' : World) : Prop where
  files : w'.files = w.files
  directory : w'.directory = w.directory
  bridges : ∀ b, w'.process.bridge b = w.process.bridge b

theorem Untouched.trans {u v w : World} (h : Untouched u v) (h' : Untouched v w) :
    Untouched u w :=
  ⟨h'.files.trans h.files, h'.directory.trans h.directory,
    fun b => (h'.bridges b).trans (h.bridges b)⟩

/-- The same files and bridges, after some more exchanges. -/
structure Adds (more : List Exchange) (w w' : World) : Prop where
  untouched : Untouched w w'
  exchanges : exchanges w'.history = more ++ exchanges w.history

theorem Adds.refl (w : World) : Adds [] w w := ⟨⟨rfl, rfl, fun _ => rfl⟩, rfl⟩

theorem Adds.trans {u v w : World} {first second : List Exchange} (h : Adds first u v)
    (h' : Adds second v w) : Adds (second ++ first) u w :=
  ⟨h.untouched.trans h'.untouched, by rw [h'.exchanges, h.exchanges, List.append_assoc]⟩

/-- With the same history there are no more exchanges. -/
theorem Adds.still {u w w' : World} {more : List Exchange} (h : Adds more u w)
    (untouched : Untouched w w') (history : w'.history = w.history) : Adds more u w' :=
  ⟨h.untouched.trans untouched, by rw [history, h.exchanges]⟩

theorem Adds.alike {u w w' : World} {more : List Exchange} (h : Adds more u w)
    (same : Alike w w') : Adds more u w' := by
  obtain ⟨process, history, files, directory⟩ := same
  exact h.still ⟨files, directory, fun b => by rw [process]⟩ history

theorem Adds.called (w : World) (call : ForeignCall) : Adds [] w (w.after (.called call)) :=
  ⟨⟨rfl, rfl, fun _ => rfl⟩, rfl⟩

theorem Adds.replied {u w : World} (h : Adds [] u w) (call : ForeignCall) (reply : call.Reply) :
    Adds (Event.replied call reply).exchange?.toList u (w.after (.replied call reply)) := by
  refine ⟨h.untouched.trans ⟨rfl, rfl, fun _ => rfl⟩, ?_⟩
  rw [World.history_after, exchanges_cons, h.exchanges, List.nil_append]

/-- A call adds its own exchange, and nothing else. -/
def Docile (foreign : Foreign) : Prop :=
  ∀ (call : ForeignCall) w reply w', Returns (foreign call) w reply w' →
    Adds (Event.replied call reply).exchange?.toList w w'

theorem Conduct.IsQuiet.adds {ρ : Type} {conduct : Conduct ρ} (h : conduct.IsQuiet)
    (foreign : Foreign) (w : World) : Adds [] w ((conduct.run foreign).run w).2 := by
  induction h generalizing w with
  | reply value => exact .refl w
  | look h ih => exact ih w w
  | @note topic text next h ih =>
    have noted : Adds [] w (((Operation.note topic text).run foreign).run w).2 :=
      ⟨⟨rfl, rfl, fun _ => rfl⟩, rfl⟩
    exact noted.trans (ih _)

/-- The entry of a binding adds nothing. -/
theorem Docile.enterAdapter {foreign : Foreign} (docile : Docile foreign) (u : World)
    (id : AdapterId) (adapter : Adapter) (cells : List Cell) :
    Keeps (Adds [] u) (enterAdapter foreign id adapter cells) := by
  have steady : SteadyIn (.enter 0 cells) foreign (Adds [] u) := by
    constructor
    · intro w p effect _ hw
      have same : ∀ b, p.bridge b = w.process.bridge b := by
        intro b
        cases effect with
        | kept | seated => rfl
        | heap about | objects about => cases about
      exact hw.still ⟨rfl, rfl, same⟩ rfl
    · exact fun w log hw => hw.still ⟨rfl, rfl, fun _ => rfl⟩ rfl
    · exact fun w notes hw => hw.still ⟨rfl, rfl, fun _ => rfl⟩ rfl
    · intro native signature args w hw
      exact hw.trans (docile (.native native signature args) w _ _ (.intro _ w))
  exact steady.enterAdapter id adapter cells

/-- Code outside that does not call back is docile at every depth. -/
theorem answer_docile {outside : Outside} (quiet : ∀ w call, (outside w call).IsQuiet) :
    ∀ depth, Docile (outside.answer depth)
  | 0 => by
    intro call w reply w' returned
    cases returned
    exact (Adds.called w call).replied call _
  | depth + 1 => by
    intro call w reply w' returned
    have below := answer_docile quiet depth
    have react : ∀ u, Adds [] u ((outside.conduct (outside.answer depth) call).run u).2 := by
      intro u
      cases call with
      | managed purpose address signature cells =>
        have conducted : Keeps (Adds [] u) (outside.conduct (outside.answer depth)
            (.managed purpose address signature cells)) := by
          refine .of_process fun v hv => ?_
          cases v.process.adapterAt? address with
          | none => exact hv.trans ((quiet v _).adds _ v)
          | some found => exact below.enterAdapter u _ _ _ v hv
        exact conducted u (.refl u)
      | _ => exact (quiet u _).adds (outside.answer depth) u
    obtain ⟨w₁, conducted, rfl⟩ := Returns.answer returned
    have between := react (w.after (.called call))
    rw [conducted] at between
    exact ((Adds.called w call).trans between).replied call reply

end ManagedHost
