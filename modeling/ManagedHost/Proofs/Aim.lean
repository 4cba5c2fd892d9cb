import ManagedHost.Proofs.Reports
import ManagedHost.Proofs.Stance

/-! # The bridge that waits for the end of the process

Loads set the exit target after they ran code of the runtime, and do not look again at what became
of the bridge meanwhile. Where every load method left its bridge live (`Tame`), the exit target is
the live bridge whenever no load of it is under way and nothing is being torn down (`Aim`). What
loads report (`Reported`) holds without any condition, and goes along with the stance. -/

namespace ManagedHost

open ManagedHost.Action

/-! ## Where the exit target points -/

/-- A load of the bridge is under way. -/
def IsLoading (b : BridgeId) (h : List Moment) : Prop :=
  ∃ loader p before, (⟨.began (.load b loader), p⟩ :: before) ∈ underway h

/-- The exit target is the live bridge, but for the time in which the bridge is loaded or torn
down. -/
structure Aim (h : List Moment) (p : Process) : Prop where
  named : isClosing h = false → ∀ b, p.exitTarget = some b → (p.bridge b).isLive = true
  waiting : ∀ b, (p.bridge b).isLive = true → p.exitTarget = some b ∨ IsLoading b h

/-- Nobody else set the exit target, and every load method left its bridge live. -/
structure Tame (h : List Moment) : Prop where
  unaided : Unaided h
  stay : AllStay h

/-- The stance, the reports, and where nothing disturbs it, the aim. -/
structure Aimed (h : List Moment) (p : Process) : Prop where
  stance : Stance h p
  reported : Reported h
  aim : Tame h → Aim h p

/-- As `Steadfast`; and while the place is held without a live bridge, no exit target is set. -/
structure Kept (w w' : World) : Prop extends Steadfast w w' where
  grown : w.history <:+ w'.history
  target : isPreparing w.history = true ∨ isClosing w.history = true → Tame w'.history →
    w'.process.exitTarget = w.process.exitTarget ∨ w'.process.exitTarget = none

theorem Tame.of_suffix {h h' : List Moment} (hs : h <:+ h') (ht : Tame h') : Tame h :=
  ⟨fun m hm => ht.unaided m (hs.subset hm), fun m hm => ht.stay m (hs.subset hm)⟩

theorem Kept.refl (w : World) : Kept w w := ⟨.refl w, List.suffix_rfl, fun _ _ => .inl rfl⟩

theorem Kept.trans {u v w : World} (h : Kept u v) (h' : Kept v w) : Kept u w := by
  refine ⟨h.toSteadfast.trans h'.toSteadfast, h.grown.trans h'.grown, fun held tame => ?_⟩
  have first := h.target held (tame.of_suffix h'.grown)
  rw [← isPreparing_congr h.frames, ← isClosing_congr h.frames] at held
  rcases h'.target held tame with same | gone
  · rw [same]
    exact first
  · exact .inr gone

theorem Aim.congr {h h' : List Moment} {p p' : Process} (ha : Aim h p) (hs : SameHosting p p')
    (ht : p'.exitTarget = p.exitTarget) (hc : isClosing h' = isClosing h)
    (hl : ∀ b, IsLoading b h → IsLoading b h') : Aim h' p' := by
  constructor
  · intro closing b hb
    rw [hs.live]
    exact ha.named (hc ▸ closing) b (ht ▸ hb)
  · intro b hb
    rw [hs.live] at hb
    rw [ht]
    exact (ha.waiting b hb).imp id (hl b)

theorem isLoading_congr {h h' : List Moment} (hu : underway h' = underway h) (b : BridgeId)
    (hl : IsLoading b h) : IsLoading b h' := by
  rw [IsLoading, hu]
  exact hl

theorem IsLoading.called {h : List Moment} {b : BridgeId} (hl : IsLoading b h)
    (call : ForeignCall) (p : Process) : IsLoading b (⟨.called call, p⟩ :: h) := by
  obtain ⟨loader, q, before, hm⟩ := hl
  exact ⟨loader, q, before, List.mem_cons_of_mem _ hm⟩

theorem IsLoading.began {h : List Moment} {b : BridgeId} (hl : IsLoading b h)
    (operation : Operation) (p : Process) : IsLoading b (⟨.began operation, p⟩ :: h) := by
  obtain ⟨loader, q, before, hm⟩ := hl
  exact ⟨loader, q, before, List.mem_cons_of_mem _ hm⟩

theorem IsLoading.of_called {h : List Moment} {b : BridgeId} {call : ForeignCall} {p : Process}
    (hl : IsLoading b (⟨.called call, p⟩ :: h)) : IsLoading b h := by
  obtain ⟨loader, q, before, hm⟩ := hl
  rcases List.mem_cons.mp hm with hm | hm
  · cases hm
  · exact ⟨loader, q, before, hm⟩

/-- A load that just began is of the bridge that it names. -/
theorem IsLoading.of_began {h : List Moment} {b : BridgeId} {operation : Operation} {p : Process}
    (hl : IsLoading b (⟨.began operation, p⟩ :: h)) (ho : ∀ loader, operation ≠ .load b loader) :
    IsLoading b h := by
  obtain ⟨loader, q, before, hm⟩ := hl
  rcases List.mem_cons.mp hm with hm | hm
  · cases hm
    exact absurd rfl (ho loader)
  · exact ⟨loader, q, before, hm⟩

variable {foreign : Foreign} {w₀ w w' : World}

theorem Sound.stanced (hw : Sound Aimed w) : Sound Stance w :=
  ⟨hw.now.stance, hw.before.mono fun _ _ aimed => aimed.stance⟩

theorem Within.stanced (hw : Within Aimed Kept w₀ w) : Within Stance Steadfast w₀ w :=
  ⟨hw.sound.stanced, hw.since.toSteadfast⟩

/-- What is kept by an action is put together from what its stance keeps and the rest. -/
theorem within_aimed (hw : Within Aimed Kept w₀ w) (hs : Within Stance Steadfast w w')
    (before : Recorded Aimed w'.history) (grown : w.history <:+ w'.history)
    (reported : Reported w'.history) (aim : Tame w'.history → Aim w'.history w'.process)
    (target : isPreparing w.history = true ∨ isClosing w.history = true → Tame w'.history →
      w'.process.exitTarget = w.process.exitTarget ∨ w'.process.exitTarget = none) :
    Within Aimed Kept w₀ w' :=
  ⟨⟨⟨hs.sound.now, reported, aim⟩, before⟩, hw.since.trans ⟨hs.since, grown, target⟩⟩

/-! ## Calls that do not concern the place for a runtime -/

theorem within_stance_refl (hw : Sound Aimed w) : Within Stance Steadfast w w :=
  ⟨hw.stanced, .refl w⟩

/-- Where a call is answered that holds the place neither for a load nor for a teardown. -/
theorem free_call (hf : Respects Stance Steadfast foreign) (hJ : Respects Aimed Kept foreign)
    (hw : Sound Aimed w) {call : ForeignCall} (hp : call.prepares = false)
    (hc : call.closes = false) {reply : call.Reply} (hr : Returns (foreign call) w reply w') :
    ∃ w₁, w' = w₁.after (.replied call reply) ∧ w.history <:+ w₁.history ∧ Sound Aimed w₁ ∧
      Kept w w' ∧ Within Stance Steadfast w w' ∧ (Tame w'.history → Aim w'.history w'.process) := by
  have stance : Within Stance Steadfast w w' :=
    (keeps_call hf hp hc).returns hr (within_stance_refl hw)
  have closing : isClosing (w.after (.called call)).history = isClosing w.history := by simp [hc]
  have made : Aimed (⟨.called call, w.process⟩ :: w.history) w.process := by
    refine ⟨?_, hw.now.reported.cons rfl rfl, fun tame => ?_⟩
    · exact hw.now.stance.congr (.refl _) (by simp [hp]) closing rfl (shutRuntimes_called hc _ _)
    · exact (hw.now.aim (tame.of_suffix (List.suffix_cons _ _))).congr (.refl _) rfl closing
        fun b hb => hb.called call w.process
  obtain ⟨reply', w₁, hr', hw₁⟩ := hJ call w (.called made hw.before)
  cases hr.symm.trans hr'
  have grown : (w.after (.called call)).history <:+ w₁.history := hw₁.since.grown
  have shorter : w₁.history <:+ (w₁.after (.replied call reply)).history := List.suffix_cons _ _
  have longer : w.history <:+ w₁.history := (List.suffix_cons _ _).trans grown
  refine ⟨w₁, rfl, longer, hw₁.sound, ⟨stance.since, longer.trans shorter, fun held tame => ?_⟩,
    stance, fun tame => ?_⟩
  · exact hw₁.since.target (by simpa [hp, hc] using held) (tame.of_suffix shorter)
  · refine (hw₁.sound.now.aim (tame.of_suffix shorter)).congr (.refl _) rfl ?_ fun b hb => ?_
    · rw [isClosing_congr stance.since.frames, isClosing_congr hw₁.since.frames, closing]
    · have called : IsLoading b (w.after (.called call)).history :=
        isLoading_congr hw₁.since.frames.symm b hb
      exact isLoading_congr stance.since.frames b called.of_called

theorem aimed_call (hf : Respects Stance Steadfast foreign) (hJ : Respects Aimed Kept foreign)
    {call : ForeignCall} (hp : call.prepares = false) (hc : call.closes = false)
    (ht : ∀ reply, (Event.replied call reply).told? = none) :
    Keeps (Within Aimed Kept w₀) (foreign call) := by
  intro w hw
  obtain ⟨reply, w', hr⟩ := Returns.exists (foreign call) w
  obtain ⟨w₁, rfl, -, hw₁, kept, stance, aim⟩ := free_call hf hJ hw.sound hp hc hr
  rw [hr]
  refine ⟨⟨⟨stance.sound.now, hw₁.now.reported.cons (ht reply) rfl, aim⟩, ?_⟩, hw.since.trans kept⟩
  exact hw₁.replied call reply

theorem aimed_alike (hw : Within Aimed Kept w₀ w) (ha : Alike w w') :
    Within Aimed Kept w₀ w' := by
  have stance := within_alike (within_stance_refl hw.sound) ha
  obtain ⟨hp, hh, -, -⟩ := ha
  refine within_aimed hw stance ?_ ?_ ?_ ?_ ?_
  · rw [hh]; exact hw.sound.before
  · exact hh ▸ List.suffix_rfl
  · rw [hh]; exact hw.sound.now.reported
  · rw [hh, hp]; exact hw.sound.now.aim
  · rw [hp]; exact fun _ _ => .inl rfl

/-- A change of the process that leaves the runtimes and the exit target alone. -/
theorem aimed_put (hw : Within Aimed Kept w₀ w) {p : Process} (hs : SameHosting w.process p)
    (ht : p.exitTarget = w.process.exitTarget) : Within Aimed Kept w₀ (w.put p) :=
  within_aimed hw (within_put (within_stance_refl hw.sound) hs) hw.sound.before List.suffix_rfl
    hw.sound.now.reported (fun tame => (hw.sound.now.aim tame).congr hs ht rfl fun _ => id)
    fun _ _ => .inl ht

theorem steady_aimed (hf : Respects Stance Steadfast foreign) (hJ : Respects Aimed Kept foreign)
    (w₀ : World) : SteadyCalls foreign (Within Aimed Kept w₀) where
  change _ _ hc hw := aimed_put hw hc.hosting hc.exitTarget
  write _ _ hw := aimed_alike hw ⟨rfl, rfl, rfl, rfl⟩
  remember _ _ hw := aimed_alike hw ⟨rfl, rfl, rfl, rfl⟩
  native _ _ _ := aimed_call hf hJ rfl rfl fun _ => rfl
  createDelegate _ _ _ _ _ := aimed_call hf hJ rfl rfl fun _ => rfl
  imported _ _ _ _ _ := aimed_call hf hJ rfl rfl fun _ => rfl

/-! ## While the place is held without a live bridge -/

/-- Between two calls that hold the place the exit target can only be lost. -/
structure Aims (target : Option BridgeId) (w : World) : Prop where
  before : Recorded Aimed w.history
  reported : Reported w.history
  target : Tame w.history → w.process.exitTarget = target ∨ w.process.exitTarget = none

variable {target : Option BridgeId}

theorem Aims.alike (ha : Aims target w) (hw : Alike w w') : Aims target w' := by
  obtain ⟨hp, hh, -, -⟩ := hw
  constructor
  · rw [hh]; exact ha.before
  · rw [hh]; exact ha.reported
  · rw [hp, hh]; exact ha.target

theorem Aims.call (hJ : Respects Aimed Kept foreign) (ha : Aims target w)
    (down : w.process.IsDown) {call : ForeignCall}
    (made : Stance (⟨.called call, w.process⟩ :: w.history) w.process)
    (held : call.closes = true ∨ call.prepares = true ∧ target = none)
    {reply : call.Reply} (hr : Returns (foreign call) w reply w') :
    Aims target w' ∧ w.history <:+ w'.history := by
  have shorter : w.history <:+ (w.after (.called call)).history := List.suffix_cons _ _
  -- No bridge is live here. A target can be left over only from the bridge that gives its runtime
  -- up, and then the call itself says that it does.
  have aimed : Aimed (⟨.called call, w.process⟩ :: w.history) w.process := by
    refine ⟨made, ha.reported.cons rfl rfl, fun tame => ⟨fun closing b hb => ?_, fun b hb => ?_⟩⟩
    · rcases held with closes | ⟨-, none⟩
      · rw [isClosing_called, closes] at closing
        cases closing
      · subst none
        rw [(ha.target (tame.of_suffix shorter)).elim id id] at hb
        cases hb
    · rw [(down b).1] at hb
      cases hb
  obtain ⟨reply', w₁, hr', hw₁⟩ := hJ call w (.called aimed ha.before)
  cases hr.symm.trans hr'
  have longer : w₁.history <:+ (w₁.after (.replied call reply)).history := List.suffix_cons _ _
  have told : (Event.replied call reply).told? = none := by
    cases call with
    | managed purpose =>
      cases purpose with
      | load => rcases held with h | ⟨h, -⟩ <;> cases h
      | _ => rfl
    | _ => rfl
  refine ⟨⟨hw₁.sound.replied call reply, hw₁.sound.now.reported.cons told rfl, fun tame => ?_⟩, ?_⟩
  · have before := ha.target (tame.of_suffix (shorter.trans (hw₁.since.grown.trans longer)))
    have during := hw₁.since.target
      (held.elim (fun h => .inr (by simp [h])) fun h => .inl (by simp [h.1]))
      (tame.of_suffix longer)
    rcases during with same | gone
    · change w₁.process.exitTarget = target ∨ w₁.process.exitTarget = none
      rw [same]
      exact before
    · exact .inr gone
  · exact shorter.trans (hw₁.since.grown.trans longer)

/-! ## Tearing down -/

theorem exitTarget_release {p : Process} {b : BridgeId}
    (hp : p.exitTarget = some b ∨ p.exitTarget = none) : (p.release b).exitTarget = none := by
  change (if p.exitTarget = some b then none else p.exitTarget) = none
  rcases hp with same | none
  · exact if_pos same
  · rw [none, ite_self]

theorem Aims.forget {b : BridgeId} (ha : Aims (some b) w) (h : Returns (forget b) w () w') :
    Aims none w' ∧ w'.history = w.history := by
  obtain ⟨hp, hh, -, -⟩ := h.forget
  refine ⟨⟨?_, ?_, fun tame => .inl ?_⟩, hh⟩
  · rw [hh]; exact ha.before
  · rw [hh]; exact ha.reported
  · rw [hh] at tame
    rw [hp]
    exact exitTarget_release (p := (w.process.empty b).free) (ha.target tame)

/-- Tearing a live bridge down leaves no exit target. -/
theorem Aims.tearsDown (hf : Respects Stance Steadfast foreign) (hJ : Respects Aimed Kept foreign)
    {b : BridgeId} (hs : Sound Stance w) (ha : Aims (some b) w)
    (h : TearsDown foreign b w true w') : Aims none w' ∧ w.history <:+ w'.history := by
  cases h with
  | bare isLive host =>
    obtain ⟨live, -, up, -⟩ := hs.now.up_of_isLive isLive
    rw [up.host] at host
    cases host
  | @down live w₁ w₂ _ isLive host told shut gone =>
    have vacant := vacant_takeDown hs host isLive
    have taken : Aims (some b) (w.put (w.process.takeDown b)) := ⟨ha.before, ha.reported, ha.target⟩
    obtain ⟨silent, aims, grown⟩ : Vacant ((live.host, live.started) :: shutRuntimes w.history)
        (shutRuntimes w.history) (underway w.history) w₁ ∧ Aims (some b) w₁ ∧
          w.history <:+ w₁.history := by
      rcases told.callUnload with ⟨-, rfl⟩ | ⟨name, address, cell, w₃, -, call, alike⟩
      · exact ⟨vacant, taken, List.suffix_rfl⟩
      · obtain ⟨aims, grown⟩ :=
          taken.call hJ vacant.down (vacant.unload_call _ _ _ _) (.inl rfl) call
        exact ⟨(vacant.unload hf call).alike alike, aims.alike alike, alike.2.1 ▸ grown⟩
    obtain ⟨reply, w₄, call, alike⟩ := shut.shutDown
    obtain ⟨done, more⟩ := aims.call hJ silent.down silent.shutDown_call (.inl rfl) call
    obtain ⟨forgotten, same⟩ := (done.alike alike).forget gone
    refine ⟨forgotten, ?_⟩
    rw [same, alike.2.1]
    exact grown.trans more

theorem aim_of_down {h : List Moment} {p : Process} (down : p.IsDown) (none : p.exitTarget = none) :
    Aim h p := by
  constructor
  · intro _ b hb
    rw [none] at hb
    cases hb
  · intro b hb
    rw [(down b).1] at hb
    cases hb

/-- Where a live bridge was torn down there is nothing to aim at. -/
theorem aimed_tearsDown (hf : Respects Stance Steadfast foreign)
    (hJ : Respects Aimed Kept foreign) {b : BridgeId} {v : World} (hw : Within Aimed Kept w₀ w)
    (hv : Within Stance Steadfast w v) (same : v.history = w.history)
    (ha : Aims (some b) v) (h : TearsDown foreign b v true w') : Within Aimed Kept w₀ w' := by
  obtain ⟨aims, grown⟩ := ha.tearsDown hf hJ hv.sound h
  obtain ⟨live, -, done⟩ := tearsDown_over hf hv.sound h
  refine within_aimed hw (tearsDown_within hf hv h) aims.before (same ▸ grown) aims.reported ?_ ?_
  · exact fun tame => aim_of_down done.down ((aims.target tame).elim id id)
  · exact fun _ tame => .inr ((aims.target tame).elim id id)

theorem tearsDown_aimed (hf : Respects Stance Steadfast foreign)
    (hJ : Respects Aimed Kept foreign) {b : BridgeId} {r : Bool} (hw : Within Aimed Kept w₀ w)
    (h : TearsDown foreign b w r w') : Within Aimed Kept w₀ w' := by
  cases r with
  | false =>
    cases h
    exact hw
  | true =>
    obtain ⟨live, -, up, -, closing, -⟩ := hw.sound.now.stance.up_of_isLive h.isLive
    refine aimed_tearsDown hf hJ hw (within_stance_refl hw.sound) rfl ?_ h
    refine ⟨hw.sound.before, hw.sound.now.reported, fun tame => ?_⟩
    cases target : w.process.exitTarget with
    | none => exact .inr rfl
    | some c =>
      have isLive := (hw.sound.now.aim tame).named closing c target
      by_cases hc : c = b
      · exact .inl (congrArg some hc)
      · rw [(up.others c hc).1] at isLive
        cases isLive

theorem runExitTeardown_aimed (hf : Respects Stance Steadfast foreign)
    (hJ : Respects Aimed Kept foreign) :
    Keeps (Within Aimed Kept w₀) (runExitTeardown foreign) := by
  intro w hw
  obtain ⟨r, w', hr⟩ := Returns.exists (runExitTeardown foreign) w
  rw [hr]
  rcases hr.runExitTeardown with ⟨-, -, rfl⟩ | ⟨b, target, h⟩
  · exact hw
  have stance : Within Stance Steadfast w (w.put w.process.expectNone) :=
    within_put (within_stance_refl hw.sound) (.expectNone _)
  cases r with
  | true =>
    refine aimed_tearsDown hf hJ hw stance rfl ?_ h
    exact ⟨hw.sound.before, hw.sound.now.reported, fun _ => .inr rfl⟩
  | false =>
    cases h with
    | idle isLive =>
      refine within_aimed hw stance hw.sound.before List.suffix_rfl hw.sound.now.reported ?_
        fun _ _ => .inr rfl
      intro tame
      refine ⟨fun _ c hc => (nomatch hc), fun c hc => ?_⟩
      rcases (hw.sound.now.aim tame).waiting c hc with named | loading
      · rw [target] at named
        cases named
        have idle : (w.process.bridge b).isLive = false := isLive
        rw [show (w.process.bridge b).isLive = true from hc] at idle
        cases idle
      · exact .inr loading

/-! ## Bringing up -/

/-- Looking a method up keeps the aim; and an address that is found was replied meanwhile. -/
theorem resolve_aimed (hf : Respects Stance Steadfast foreign) (hJ : Respects Aimed Kept foreign)
    (hw : Within Aimed Kept w₀ w) {b : BridgeId} {typeName method : String} {address : Address}
    (h : Returns (resolve foreign b typeName method none) w (.ok address) w') :
    Within Aimed Kept w₀ w' ∧ ∃ host inst assembly q since, w.history <:+ since ∧
      w'.history =
        ⟨.replied (.createDelegate host inst assembly typeName method) (.ok address), q⟩ ::
          since := by
  refine ⟨((steady_aimed hf hJ w₀).resolve _ _ _ _).returns h hw, ?_⟩
  rcases h.resolve with ⟨⟨e, he⟩, -⟩ | ⟨live, reply, w₁, -, call, alike, same⟩
  · cases he
  · obtain rfl := same address rfl
    obtain ⟨w₂, rfl, grown, -⟩ := free_call hf hJ hw.sound rfl rfl call
    exact ⟨_, _, _, _, _, grown, alike.2.1⟩

theorem boots_error_aimed (hf : Respects Stance Steadfast foreign)
    (hJ : Respects Aimed Kept foreign) {b : BridgeId} {loader : Loader} {e : BridgeError}
    (hw : Within Aimed Kept w₀ w) (h : Boots foreign b loader w (.error e) w') :
    Within Aimed Kept w₀ w' := by
  cases h with
  | noLoad load => exact ((steady_aimed hf hJ w₀).resolve _ _ _ _).returns load hw
  | noUnload load unload =>
    exact ((steady_aimed hf hJ w₀).resolve _ _ _ _).returns unload (resolve_aimed hf hJ hw load).1

/-- Where the load method returned and the unload method is kept. -/
structure Booted (b : BridgeId) (loader : Loader) (w₀ w : World) (w' : World) : Prop where
  stance : Within Stance Steadfast w₀ w'
  grown : w.history <:+ w'.history
  told : ∃ call cell w₁, w'.history = ⟨.replied call cell, w₁.process⟩ :: w₁.history ∧
    (Event.replied call cell).told? = some b ∧ Sound Aimed w₁ ∧
      (w'.process.bridge b).isLive = (w₁.process.bridge b).isLive
  hooked : ∀ live, (w'.process.bridge b).host = some live →
    ∃ address, live.unload = some (loader.unloadName, address) ∧
      ∃ host inst assembly q since, w.history <:+ since ∧
        ⟨.replied (.createDelegate host inst assembly loader.entryType loader.unloadMethod)
          (.ok address), q⟩ :: since <:+ w'.history

theorem boots_ok_aimed (hf : Respects Stance Steadfast foreign)
    (hJ : Respects Aimed Kept foreign) {b : BridgeId} {loader : Loader}
    (hw : Within Aimed Kept w₀ w) (h : Boots foreign b loader w (.ok ()) w') :
    Booted b loader w₀ w w' := by
  cases h with
  | @told onLoad onUnload json cells cell w₁ w₂ w₃ load unload call =>
    obtain ⟨hw₁, _, _, _, _, _, grown₁, h₁⟩ := resolve_aimed hf hJ hw load
    obtain ⟨hw₂, host, inst, assembly, q, since, grown₂, h₂⟩ := resolve_aimed hf hJ hw₁ unload
    have hw₃ : Within Aimed Kept w₀ (w₂.put (w₂.process.tell b json)) :=
      aimed_put hw₂ (.updateBridge rfl rfl) rfl
    obtain ⟨w₄, rfl, grown₃, hw₄, kept, stance, -⟩ := free_call hf hJ hw₃.sound rfl rfl call
    have start : w.history <:+ since := by
      refine (grown₁.trans ?_).trans grown₂
      rw [h₁]
      exact List.suffix_cons _ _
    have replied : ⟨.replied (.createDelegate host inst assembly loader.entryType
        loader.unloadMethod) (.ok onUnload), q⟩ :: since <:+ w₄.history := by
      rw [← h₂]
      exact grown₃
    refine ⟨?_, ?_, ⟨_, _, w₄, rfl, rfl, hw₄, ?_⟩, fun live host => ?_⟩
    · exact within_hook ⟨stance.sound, hw₃.since.toSteadfast.trans stance.since⟩ _ _ _
    · exact start.trans ((List.suffix_cons _ _).trans (replied.trans (List.suffix_cons _ _)))
    · change ((w₄.process.hook b loader.unloadName onUnload).bridge b).isLive = _
      rw [Process.hook, Process.bridge_updateBridge_self]
    · change ((w₄.process.hook b loader.unloadName onUnload).bridge b).host = _ at host
      rw [Process.hook, Process.bridge_updateBridge_self] at host
      obtain ⟨found, -, rfl⟩ := Option.map_eq_some_iff.mp host
      exact ⟨onUnload, rfl, _, _, _, _, since, start, replied.trans (List.suffix_cons _ _)⟩

/-- The search for a runtime finds no exit target and sets none. -/
theorem Aims.search (hf : Respects Stance Steadfast foreign) (hJ : Respects Aimed Kept foreign)
    {shut : List (HostId × HostInstance)} {frames : List (List Moment)} {h : List Moment} :
    SteadySearch foreign
      (fun w => Vacant shut shut frames w ∧ Aims none w ∧ h <:+ w.history) := by
  have step : ∀ call : ForeignCall, call.prepares = true →
      (∀ reply, (Event.replied call reply).started? = none) →
      Keeps (fun w => Vacant shut shut frames w ∧ Aims none w ∧ h <:+ w.history)
        (foreign call) := by
    intro call hc hs w ⟨vacant, aims, grown⟩
    obtain ⟨reply, w', hr⟩ := Returns.exists (foreign call) w
    obtain ⟨aims', more⟩ :=
      aims.call hJ vacant.down (vacant.preparing_call hc) (.inr ⟨hc, rfl⟩) hr
    have vacant' := vacant.prepare hf call hc hr
    rw [hs reply] at vacant'
    rw [hr]
    exact ⟨vacant', aims', grown.trans more⟩
  constructor
  · exact fun _ _ ⟨vacant, aims, grown⟩ =>
      ⟨vacant.alike ⟨rfl, rfl, rfl, rfl⟩, aims.alike ⟨rfl, rfl, rfl, rfl⟩, grown⟩
  · exact fun _ => step _ rfl fun _ => rfl
  · exact fun _ => step _ rfl fun _ => rfl
  · exact fun _ => step _ rfl fun _ => rfl
  · exact fun _ _ => step _ rfl fun _ => rfl

theorem Aims.prepared (hf : Respects Stance Steadfast foreign) (hJ : Respects Aimed Kept foreign)
    {shut : List (HostId × HostInstance)} {frames : List (List Moment)}
    (hv : Vacant shut shut frames w) (ha : Aims none w) {loader : Loader}
    {r : Except BridgeError LiveHost} (h : Returns (prepare foreign loader) w r w') :
    Aims none w' ∧ w.history <:+ w'.history := by
  have start := And.intro hv (And.intro ha (List.suffix_refl w.history))
  rcases h.prepare with ⟨-, steady⟩ | ⟨host, properties, reply, w₁, w₂, steady, call, alike, -⟩
  · exact (steady _ (Aims.search hf hJ) start).2
  · obtain ⟨vacant, aims, grown⟩ := steady _ (Aims.search hf hJ) start
    obtain ⟨aims', more⟩ :=
      aims.call hJ vacant.down (vacant.preparing_call rfl) (.inr ⟨rfl, rfl⟩) call
    exact ⟨aims'.alike alike, alike.2.1 ▸ grown.trans more⟩

/-! ## Operations -/

theorem aimed_began (hw : Sound Aimed w) (operation : Operation) :
    Sound Aimed (w.after (.began operation)) := by
  refine .began ⟨?_, hw.now.reported.cons rfl rfl, fun tame => ?_⟩ hw.before
  · exact hw.now.stance.congr (.refl _) rfl rfl rfl rfl
  · exact (hw.now.aim (tame.of_suffix (List.suffix_cons _ _))).congr (.refl _) rfl rfl
      fun b hb => hb.began operation w.process

/-- The end of an operation is one more moment of which everything has to hold. -/
theorem aimed_ended {w₁ : World} {operation : Operation} {result : operation.Result}
    (hw : Within Aimed Kept w₀ w)
    (hs : Within Stance Steadfast w (w₁.after (.ended operation result)))
    (before : Recorded Aimed w₁.history) (grown : w.history <:+ w₁.history)
    (reported : Reported (w₁.after (.ended operation result)).history)
    (aim : Tame (w₁.after (.ended operation result)).history →
      Aim (w₁.after (.ended operation result)).history w₁.process)
    (target : isPreparing w.history = true ∨ isClosing w.history = true →
      Tame (w₁.after (.ended operation result)).history →
      w₁.process.exitTarget = w.process.exitTarget ∨ w₁.process.exitTarget = none) :
    Within Aimed Kept w₀ (w₁.after (.ended operation result)) :=
  within_aimed hw hs (.cons ⟨hs.sound.now, reported, aim⟩ before)
    (grown.trans (List.suffix_cons _ _)) reported aim target

/-- An operation that keeps everything after its beginning keeps it to its end. -/
theorem aimed_run {w₁ : World} {operation : Operation} {result : operation.Result}
    (hw : Within Aimed Kept w₀ w) (hl : ∀ b loader, operation ≠ .load b loader)
    (hs : Within Stance Steadfast w (w₁.after (.ended operation result)))
    (h : Within Aimed Kept (w.after (.began operation)) w₁) :
    Within Aimed Kept w₀ (w₁.after (.ended operation result)) := by
  have loaded : (Event.ended operation result).loaded? = none := by
    cases operation with
    | load b loader => exact absurd rfl (hl b loader)
    | _ => rfl
  have shorter : w₁.history <:+ (w₁.after (.ended operation result)).history := List.suffix_cons _ _
  refine aimed_ended hw hs h.sound.before ((List.suffix_cons _ _).trans h.since.grown)
    (h.sound.now.reported.cons rfl loaded) (fun tame => ?_) fun held tame => ?_
  · refine (h.sound.now.aim (tame.of_suffix shorter)).congr (.refl _) rfl ?_ fun b hb => ?_
    · exact (isClosing_congr hs.since.frames).trans (isClosing_congr h.since.frames).symm
    · have began : IsLoading b (w.after (.began operation)).history :=
        isLoading_congr h.since.frames.symm b hb
      exact isLoading_congr hs.since.frames b (began.of_began (hl b))
  · exact h.since.target held (tame.of_suffix shorter)

theorem TearsDown.not_live (hf : Respects Stance Steadfast foreign) {b : BridgeId} {r : Bool}
    (hs : Sound Stance w) (h : TearsDown foreign b w r w') :
    (w'.process.bridge b).isLive = false := by
  cases r with
  | false =>
    cases h with
    | idle isLive => exact isLive
  | true =>
    obtain ⟨live, -, done⟩ := tearsDown_over hf hs h
    exact (done.down b).1

theorem aims_claim (hw : Sound Aimed w) (free : w.process.isClaimed = false) :
    Aims none (w.put w.process.claim) := by
  obtain ⟨down, preparing, closing, -⟩ := hw.now.stance.idle_of_unclaimed free
  refine ⟨hw.before, hw.now.reported, fun tame => .inl ?_⟩
  change w.process.exitTarget = none
  cases target : w.process.exitTarget with
  | none => rfl
  | some b =>
    have isLive := (hw.now.aim tame).named closing b target
    rw [(down b).1] at isLive
    cases isLive

theorem not_held (hw : Sound Aimed w) (free : w.process.isClaimed = false) :
    ¬ (isPreparing w.history = true ∨ isClosing w.history = true) := by
  obtain ⟨-, preparing, closing, -⟩ := hw.now.stance.idle_of_unclaimed free
  simp [preparing, closing]

/-- A bridge that just got its runtime is being loaded. -/
theorem aimed_bringUp (hf : Respects Stance Steadfast foreign)
    (hJ : Respects Aimed Kept foreign) {b : BridgeId} {loader : Loader} {live : LiveHost}
    {w₁ : World} (hw : Within Aimed Kept w₀ w) (loading : IsLoading b w.history)
    (free : w.process.isClaimed = false)
    (h : Returns (prepare foreign loader) (w.put w.process.claim) (.ok live) w₁) :
    Within Aimed Kept w₀ (w₁.put (w₁.process.bringUp b live)) := by
  have claimed := vacant_claim hw.sound.stanced free
  have vacant : Vacant _ _ _ _ := claimed.prepared hf h
  obtain ⟨aims, grown⟩ := Aims.prepared hf hJ claimed (aims_claim hw.sound free) h
  have up := within_bringUp (within_stance_refl hw.sound) free vacant b
  refine within_aimed hw up aims.before grown aims.reported (fun tame => ?_) fun held =>
    absurd held (not_held hw.sound free)
  have none : w₁.process.exitTarget = none := (aims.target tame).elim id id
  constructor
  · intro _ c hc
    rw [show w₁.process.exitTarget = some c from hc] at none
    cases none
  · intro c hc
    rw [(isUp_bringUp vacant.down b live).eq_of_isLive hc]
    exact .inr (isLoading_congr vacant.frames b loading)

/-- A load whose runtime was taken down again aims at what was aimed at before. -/
theorem aimed_failed {b : BridgeId} {loader : Loader} {e : BridgeError} {w₁ : World}
    (hw : Within Aimed Kept w₀ w) (free : w.process.isClaimed = false)
    (hs : Within Stance Steadfast w (w₁.after (.ended (.load b loader) (.error e))))
    (h : Within Aimed Kept (w.after (.began (.load b loader))) w₁)
    (idle : (w₁.process.bridge b).isLive = false) :
    Within Aimed Kept w₀ (w₁.after (.ended (.load b loader) (.error e))) := by
  refine aimed_ended hw hs h.sound.before ((List.suffix_cons _ _).trans h.since.grown)
    (h.sound.now.reported.cons rfl rfl) (fun tame => ?_) fun held =>
      absurd held (not_held hw.sound free)
  -- With its end the load is not under way any more, but its own bridge is not live either.
  have aim := h.sound.now.aim (tame.of_suffix (List.suffix_cons _ _))
  constructor
  · intro closing c hc
    refine aim.named ?_ c hc
    rw [isClosing_congr h.since.frames, ← closing, isClosing_congr hs.since.frames]
    rfl
  · intro c hc
    refine (aim.waiting c hc).imp id fun loads => ?_
    have began : IsLoading c (w.after (.began (.load b loader))).history :=
      isLoading_congr h.since.frames.symm c loads
    refine isLoading_congr hs.since.frames c (began.of_began fun other same => ?_)
    cases same
    rw [idle] at hc
    cases hc

/-- A load that succeeds aims at its bridge. -/
theorem aimed_loaded {b : BridgeId} {loader : Loader} {up w₁ w₂ : World}
    (hw : Within Aimed Kept w₀ w) (free : w.process.isClaimed = false)
    (hs : Within Stance Steadfast w (w₂.after (.ended (.load b loader) (.ok ()))))
    (hu : Within Aimed Kept (w.after (.began (.load b loader))) up)
    (h : Booted b loader (w.after (.began (.load b loader))) up w₁)
    (expected : Alike (w₁.put (w₁.process.expect b)) w₂) :
    Within Aimed Kept w₀ (w₂.after (.ended (.load b loader) (.ok ()))) := by
  obtain ⟨hp, hh, -, -⟩ := expected
  obtain ⟨call, cell, w₃, history, told, sound, live⟩ := h.told
  have began : (w.after (.began (.load b loader))).history <:+ up.history := hu.since.grown
  have same : w₂.process.bridge b = w₁.process.bridge b := by rw [hp]; rfl
  have history₂ : w₂.history = ⟨.replied call cell, w₃.process⟩ :: w₃.history := hh.trans history
  have hook : Hooked b loader (⟨.replied call cell, w₃.process⟩ :: w₃.history) w₂.process := by
    intro host hb
    rw [same] at hb
    obtain ⟨address, unload, lib, inst, assembly, q, since, grown, replied⟩ := h.hooked host hb
    refine ⟨address, unload, w.process, w.history, underway w.history, lib, inst, assembly, q,
      since, ?_, began.trans grown, history ▸ replied⟩
    rw [← history]
    exact h.stance.since.frames
  refine aimed_ended hw hs ?_ ?_ ?_ (fun tame => ?_) fun held =>
      absurd held (not_held hw.sound free)
  · rw [history₂]
    exact sound.replied call cell
  · refine ((List.suffix_cons _ _).trans began).trans ?_
    rw [hh]
    exact h.grown
  · rw [World.history_after, history₂]
    refine sound.now.reported.succeed rfl told hook ?_
    rw [same, live]
  · -- The one place where it matters that the load method left its bridge live.
    have isLive : (w₂.process.bridge b).isLive = true := by
      rw [same, live]
      refine tame.stay ⟨.replied call cell, w₃.process⟩ ?_ b told
      rw [World.history_after, history₂]
      exact List.mem_cons_of_mem _ List.mem_cons_self
    have target : w₂.process.exitTarget = some b := by rw [hp]; rfl
    constructor
    · intro _ c hc
      rw [target] at hc
      cases hc
      exact isLive
    · intro c hc
      obtain ⟨host, -, up, -⟩ := hs.sound.now.up_of_isLive (b := b) isLive
      rw [up.eq_of_isLive hc]
      exact .inl target

/-- A load reports what it did and keeps the aim. -/
theorem load_aimed (hf : Respects Stance Steadfast foreign) (hJ : Respects Aimed Kept foreign)
    {b : BridgeId} {loader : Loader} {result : Except BridgeError Unit} {w₁ : World}
    (hw : Within Aimed Kept w₀ w)
    (hs : Within Stance Steadfast w (w₁.after (.ended (.load b loader) result)))
    (h : Loads foreign b loader (w.after (.began (.load b loader))) result w₁) :
    Within Aimed Kept w₀ (w₁.after (.ended (.load b loader) result)) := by
  have began : Within Aimed Kept (w.after (.began (.load b loader)))
      (w.after (.began (.load b loader))) := ⟨aimed_began hw.sound _, .refl _⟩
  have longer : w.history <:+ (w.after (.began (.load b loader))).history := List.suffix_cons _ _
  have loading : IsLoading b (w.after (.began (.load b loader))).history :=
    ⟨loader, _, _, List.mem_cons_self⟩
  cases h with
  | refused claimed =>
    -- The load that is under way may be of the live bridge itself, so its beginning must not count.
    refine aimed_ended hw hs began.sound.before longer
      (began.sound.now.reported.cons rfl rfl) (fun tame => ?_) fun _ _ => .inl rfl
    have before : Tame w.history := tame.of_suffix (longer.trans (List.suffix_cons _ _))
    exact (hw.sound.now.aim before).congr (.refl _) rfl rfl fun _ => id
  | unprepared free prepared =>
    have claimed := vacant_claim began.sound.stanced free
    have vacant : Vacant _ _ _ _ := claimed.prepared hf prepared
    obtain ⟨aims, grown⟩ := Aims.prepared hf hJ claimed (aims_claim began.sound free) prepared
    refine aimed_ended hw hs aims.before (longer.trans grown) (aims.reported.cons rfl rfl)
      (fun tame => ?_) fun held => absurd held (not_held hw.sound free)
    have none := aims.target (tame.of_suffix (List.suffix_cons _ _))
    exact aim_of_down (fun c => vacant.down c) (none.elim id id)
  | failed free prepared booted logged down =>
    have up := aimed_bringUp hf hJ began loading free prepared
    have told := aimed_alike (boots_error_aimed hf hJ up booted) logged
    exact aimed_failed hw free hs (tearsDown_aimed hf hJ told down)
      (TearsDown.not_live hf told.sound.stanced down)
  | loaded free prepared booted expected =>
    have up := aimed_bringUp hf hJ began loading free prepared
    exact aimed_loaded hw free hs up (boots_ok_aimed hf hJ up booted) expected

/-- Setting the exit target directly is not tame. -/
theorem aimed_directly {w₁ : World} {operation : Operation} {result : operation.Result}
    (hw : Within Aimed Kept w₀ w) (direct : (Event.began operation).aims = true)
    (hs : Within Stance Steadfast w (w₁.after (.ended operation result)))
    (history : w₁.history = (w.after (.began operation)).history) :
    Within Aimed Kept w₀ (w₁.after (.ended operation result)) := by
  have wild : ¬ Tame (w₁.after (.ended operation result)).history := by
    intro tame
    have := tame.unaided ⟨.began operation, w.process⟩
      (by rw [World.history_after, history]; simp)
    rw [direct] at this
    cases this
  have loaded : (Event.ended operation result).loaded? = none := by
    cases operation <;> first | rfl | cases direct
  have began := aimed_began hw.sound operation
  refine aimed_ended hw hs ?_ ?_ ?_ (fun tame => absurd tame wild) fun _ tame => absurd tame wild
  · rw [history]; exact began.before
  · rw [history]; exact List.suffix_cons _ _
  · rw [World.history_after, history]
    exact began.now.reported.cons rfl loaded

/-- Every operation keeps the aim. -/
theorem run_aimed (hf : Respects Stance Steadfast foreign) (hJ : Respects Aimed Kept foreign)
    (operation : Operation) (w₀ : World) :
    Keeps (Within Aimed Kept w₀) (operation.run foreign) := by
  intro w hw
  have hs : Within Stance Steadfast w ((operation.run foreign).run w).2 :=
    run_within hf operation w w (within_stance_refl hw.sound)
  obtain ⟨result, w₁, hr, hrun⟩ := operation.run_eq foreign w
  rw [hrun] at hs ⊢
  have began : Within Aimed Kept (w.after (.began operation)) (w.after (.began operation)) :=
    ⟨aimed_began hw.sound operation, .refl _⟩
  cases operation with
  | load b loader => exact load_aimed hf hJ hw hs (Returns.load hr)
  | registerExit b => exact aimed_directly hw rfl hs (Returns.registerExit hr).2.1
  | releaseExit b => exact aimed_directly hw rfl hs (Returns.releaseExit hr).2.1
  | teardown b =>
    exact aimed_run hw nofun hs (tearsDown_aimed hf hJ began (Returns.teardown hr))
  | runExitTeardown =>
    exact aimed_run hw nofun hs ((runExitTeardown_aimed hf hJ).returns hr began)
  | _ =>
    exact aimed_run hw nofun hs
      ((Operation.perform_keeps (steady_aimed hf hJ _) _ rfl).returns hr began)

theorem aimed_disciplined (hf : Respects Stance Steadfast foreign)
    (hJ : Respects Aimed Kept foreign) : Disciplined Aimed Kept foreign :=
  ⟨run_aimed hf hJ, fun id adapter cells w₀ =>
    (steady_aimed hf hJ w₀).enterAdapter id adapter cells⟩

theorem aimed_start : Aimed [] {} :=
  ⟨stance_start, .nil, fun _ => aim_of_down (fun _ => ⟨rfl, rfl⟩) rfl⟩

end ManagedHost
