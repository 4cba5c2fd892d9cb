import ManagedHost.Proofs.BindingMap
import ManagedHost.Proofs.Telling

/-! # The managed side receives the bindings

The load method of a runtime is called with one text, from which just the bindings of that moment
can be read, and the bridge keeps that text until it was torn down (`bindings_told`), whatever the
load method and all other code outside do. Only a load or a teardown in the middle of a look-up
could mix the texts up. -/

namespace ManagedHost

open ManagedHost.Action

/-- The load method of a bridge is called with a text from which all bindings that the bridge has in
that state can be read, and nothing else. -/
structure Receives (b : BridgeId) (signature : Signature) (cells : List Cell) (q : Process)
    (text : String) : Prop where
  signature : signature = ⟨.void, [.utf8String]⟩
  cells : cells = [.text (.bytes (Text.Utf8.encode text))]
  noNul : ∀ byte ∈ Text.Utf8.encode text, byte ≠ 0
  decoded : Text.Utf8.decode (Text.Utf8.encode text) = .ok text
  ascending : Registry.IsAscending (q.bridge b).outbound
  /-- Every address is read as a number of 64 bits. -/
  read : q.Addressable → Json.readAddresses text = .ok (q.bridge b).outbound.snapshot
  kept : (q.bridge b).bindingsJson = some text

/-- What holds in a world of the texts in which runtimes were told the bindings. -/
structure ToldExactly (w : World) : Prop where
  received : ∀ b address signature cells q earlier,
    ⟨.called (.managed (.load b) address signature cells), q⟩ :: earlier <:+ w.history →
      ∃ text, Receives b signature cells q text
  /-- Until the next runtime is started, the bridge has that text exactly as long as it is live or
  being torn down. -/
  kept : looksUpCalmly w.history = true → ∀ b address signature cells q earlier later,
    w.history = later ++ ⟨.called (.managed (.load b) address signature cells), q⟩ :: earlier →
      startedRuntimes later = [] →
      (w.process.bridge b).isLive = true ∨ IsTearingDown w.history b →
        (w.process.bridge b).bindingsJson = (q.bridge b).bindingsJson
  blank : looksUpCalmly w.history = true → ∀ b, (w.process.bridge b).isLive = false →
    ¬ IsTearingDown w.history b → (w.process.bridge b).bindingsJson = none

/-- A load that finds both entry points calls the load method with the text of its bindings at that
moment, and goes on whatever the method does. -/
def CallsLoadMethod (foreign : Foreign) (b : BridgeId) (loader : Loader) : Prop :=
  ∀ (w w₁ w₂ : World) (onLoad onUnload : Address) (text : String),
    Returns (resolve foreign b loader.entryType loader.loadMethod none) w (.ok onLoad) w₁ →
    Returns (resolve foreign b loader.entryType loader.unloadMethod none) w₁ (.ok onUnload) w₂ →
    text = (w₂.process.bridge b).outbound.toJson →
      ∃ cell w₃, Returns (foreign (.managed (.load b) onLoad ⟨.void, [.utf8String]⟩
          [.text (.bytes (Text.Utf8.encode text))])) (w₂.put (w₂.process.tell b text)) cell w₃ ∧
        Returns (bootstrap foreign b loader) w (.ok ())
          (w₃.put (w₃.process.hook b loader.unloadName onUnload))

theorem callsLoadMethod (foreign : Foreign) (b : BridgeId) (loader : Loader) :
    CallsLoadMethod foreign b loader := by
  intro w w₁ w₂ onLoad onUnload text load unload same
  obtain ⟨r, w', ran⟩ := Returns.exists (bootstrap foreign b loader) w
  cases ran.bootstrap with
  | noLoad missed => cases load.symm.trans missed
  | noUnload load' missed =>
    cases load.symm.trans load'
    cases unload.symm.trans missed
  | told load' unload' call told bytes =>
    cases load.symm.trans load'
    cases unload.symm.trans unload'
    subst bytes told same
    exact ⟨_, _, call, ran⟩

section

variable {h : List Moment} {b : BridgeId} {address : Address} {signature : Signature}
  {cells : List Cell} {q : Process} {earlier later : List Moment}

theorem Heeded.tail {moment : Moment} (heeded : Heeded (moment :: h)) : Heeded h :=
  fun b address signature cells q earlier suffix =>
    heeded b address signature cells q earlier (suffix.trans (List.suffix_cons _ _))

/-- As long as no runtime was started since, the last runtime is the one that was told the text. -/
theorem Heeded.since (heeded : Heeded h) (calm : looksUpCalmly h = true)
    (split : h = later ++ ⟨.called (.managed (.load b) address signature cells), q⟩ :: earlier)
    (alone : startedRuntimes later = []) :
    lastOwner h = some b ∧ textTold h = (q.bridge b).bindingsJson := by
  induction later generalizing h with
  | nil =>
    subst split
    obtain ⟨-, inTurn⟩ := heeded b address signature cells q earlier List.suffix_rfl
    exact ⟨(inTurn (isUndisturbed_tail calm)).2, rfl⟩
  | cons moment later ih =>
    subst split
    obtain ⟨silent, alone⟩ := List.forall_mem_cons.mp (List.filterMap_eq_nil_iff.mp alone)
    obtain ⟨owner, told⟩ :=
      ih heeded.tail (isUndisturbed_tail calm) rfl (List.filterMap_eq_nil_iff.mpr alone)
    obtain ⟨event, p⟩ := moment
    cases quiet : event.isNews with
    | false =>
      rw [List.cons_append, lastOwner_cons quiet, textTold_cons quiet]
      exact ⟨owner, told⟩
    | true =>
      unfold Event.isNews at quiet
      split at quiet
      · cases silent
      · -- The runtime would be told a second time.
        next c address' signature' cells' =>
        obtain ⟨heard, -⟩ := heeded.tail b address signature cells q earlier
          (List.suffix_append _ _)
        obtain ⟨-, inTurn⟩ := heeded c address' signature' cells' p _ List.suffix_rfl
        have untold := (inTurn (isUndisturbed_tail calm)).1
        rw [told, heard.kept] at untold
        cases untold
      · cases quiet

end

theorem Process.Entered.fits {p : Process} (entered : p.Entered) (addressable : p.Addressable)
    (holder : Holder) : ∀ binding ∈ p.registry holder, binding.address < UInt64.size := by
  intro binding member
  obtain ⟨buffer, entry⟩ := entered.bound holder binding member
  exact addressable binding.adapter (List.getElem?_eq_some_iff.mp entry).1

/-- Whatever names the bindings have, and whatever code outside does, the managed side receives
exactly the bindings, and the bridge keeps what it received. -/
theorem bindings_told {w : World} (reached : w.Reached) :
    ToldExactly w ∧ ∀ foreign b loader, CallsLoadMethod foreign b loader := by
  have told := reached.told
  have entered : Sound (always Process.Entered) w :=
    reached.lasting Process.entered_start Process.entered_kept.lasting
  have ordered : Sound (always Process.Ordered) w :=
    reached.lasting Process.ordered_start Process.ordered_kept.lasting
  refine ⟨⟨?_, ?_, ?_⟩, callsLoadMethod⟩
  · intro b address signature cells q earlier suffix
    obtain ⟨⟨signed, passed, kept⟩, -⟩ := told.now.heeded b address signature cells q earlier suffix
    refine ⟨_, signed, passed, ?_, Text.Utf8.decode_encode _, ?_, fun addressable => ?_, kept⟩
    · exact Text.Utf8.encode_ne_zero (Registry.toJson_noNul _)
    · exact ordered.before _ _ suffix (.bridge b)
    · have fits := (entered.before _ _ suffix).fits addressable (.bridge b)
      exact Registry.readAddresses_toJson fits
  · intro calm b address signature cells q earlier later split alone held
    obtain ⟨owner, text⟩ := told.now.heeded.since calm split alone
    rw [← text]
    exact (told.now.keeping calm).kept b owner (held.imp_right And.left)
  · intro calm b dead idle
    refine (told.now.keeping calm).blank b fun ⟨owner, held⟩ => ?_
    rcases held with isLive | closing
    · rw [dead] at isLive
      cases isLive
    · exact idle ⟨closing, owner⟩

/-- Code outside whose load method binds another function and calls the first one. -/
def Outside.binding : Outside :=
  Outside.obliging fun b => do
    let _ ← Conduct.doing (.register (.bridge b) "later" ⟨.void, []⟩ (.supplied 1 ⟨.void, []⟩))
    let _ ← Conduct.doing (.enter (Adapter.address 0) [])
    return .word 0

/-- The world once a bridge with a function of an awkward name was loaded there. -/
def awkwardLoaded : World :=
  Outside.binding.leads 2
    (do
      let _ ← Conduct.doing
        (.register (.bridge 0) "a\"\\\x00é" ⟨.void, []⟩ (.supplied 0 ⟨.void, []⟩))
      Conduct.doing (.load 0 leastLoader))
    leastFiles []

theorem awkwardLoaded_reached : awkwardLoaded.Reached := .atEnd _ _ _ _ _ rfl rfl

theorem awkward_told : awkwardLoaded.Reached ∧ looksUpCalmly awkwardLoaded.history = true ∧
    (awkwardLoaded.process.bridge 0).bindingsJson =
      some "\x7b\"a\\\"\\\\\\u0000é\":139637976727552\x7d" ∧
    ToldExactly awkwardLoaded ∧ ∀ foreign b loader, CallsLoadMethod foreign b loader :=
  ⟨awkwardLoaded_reached, by decide +kernel, by decide +kernel, bindings_told awkwardLoaded_reached⟩

end ManagedHost
