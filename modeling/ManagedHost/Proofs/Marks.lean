import ManagedHost.Proofs.Course

/-! # From one call to the next

A load and a teardown are a few calls of code outside with steps of their own between them. `Marks`
is what is known of the milestones between two such calls. Each call adds its own milestone and no
other (`Marks.call`), whatever code outside does before it replies; so the milestones of a load or a
teardown are those of its calls, in the order of the calls. -/

namespace ManagedHost

open ManagedHost.Action

variable {foreign : Foreign} {w₀ w w₁ w' : World}

/-- Between two calls of a load or a teardown: where everything is calm, this is known of the
milestones and of the process. -/
structure Marks (P : List Milestone → Process → Prop) (w : World) : Prop where
  before : Recorded Coursed w.history
  concluded : Concluded w.history
  marks : isCalm w.history = true → P (milestones w.history) w.process

variable {P Q : List Milestone → Process → Prop}

theorem Marks.imp (hm : Marks P w) (next : P (milestones w.history) w.process →
    Q (milestones w.history) w.process) : Marks Q w :=
  ⟨hm.before, hm.concluded, fun calm => next (hm.marks calm)⟩

theorem Marks.alike (hm : Marks P w) (ha : Alike w w') : Marks P w' := by
  obtain ⟨hp, hh, -, -⟩ := ha
  constructor
  · rw [hh]; exact hm.before
  · rw [hh]; exact hm.concluded
  · rw [hh, hp]; exact hm.marks

theorem Marks.put (hm : Marks P w) {p : Process}
    (next : P (milestones w.history) w.process → Q (milestones w.history) p) :
    Marks Q (w.put p) :=
  ⟨hm.before, hm.concluded, fun calm => next (hm.marks calm)⟩

/-- What is known of the milestones alone does not rest on the process. -/
theorem Marks.free {R : List Milestone → Prop} (hm : Marks (fun marks _ => R marks) w)
    {p : Process} : Marks (fun marks _ => R marks) (w.put p) :=
  hm.put id

/-- A call that holds the runtimes where they are adds its own milestones and no others. -/
theorem Marks.call (hJ : Respects Coursed Paced foreign) (hm : Marks P w) {call : ForeignCall}
    (held : call.prepares = true ∨ call.closes = true ∨ call.isTender = true)
    (made : Stance (⟨.called call, w.process⟩ :: w.history) w.process)
    (course : P (milestones w.history) w.process →
      Course (⟨.called call, w.process⟩ :: w.history) w.process) {reply : call.Reply}
    (hr : Returns (foreign call) w reply w')
    (next : ∀ p, SameHosting w.process p → P (milestones w.history) w.process →
      Q (((Event.replied call reply).milestone? (innermostLoad (underway w.history))).toList ++
        ((Event.called call).milestone? none).toList ++ milestones w.history) p) :
    Marks Q w' ∧ w.history <:+ w'.history := by
  have calledMarks := milestones_called call w.process w.history
  have coursed : Coursed (⟨.called call, w.process⟩ :: w.history) w.process :=
    ⟨made, hm.concluded.cons rfl, fun calm => course (hm.marks calm)⟩
  obtain ⟨reply', w₁, hr', hw₁⟩ := hJ call w (.called coursed hm.before)
  cases hr.symm.trans hr'
  have held : IsHeld (⟨.called call, w.process⟩ :: w.history) := by
    rcases held with held | held | held
    · exact .inl (by simp [held])
    · exact .inr (.inl (by simp [held]))
    · exact .inr (.inr (by simp [held]))
  have grown : w.history <:+ w₁.history := (List.suffix_cons _ _).trans hw₁.since.grown
  refine ⟨⟨hw₁.sound.replied call reply, hw₁.sound.now.concluded.cons rfl, fun calm => ?_⟩,
    grown.trans (List.suffix_cons _ _)⟩
  obtain ⟨hosting, same⟩ := hw₁.since.same held calm
  rw [milestones_replied hw₁.since.frames, same, World.history_after, calledMarks,
    ← List.append_assoc]
  exact next _ hosting (hm.marks (isCalm_of_suffix grown calm))

/-! ## Tearing down -/

/-- The milestones by which a bridge tells a runtime its end. -/
def unloads (b : BridgeId) (live : LiveHost) : List Milestone :=
  (live.unload.map fun hook => .unloading b hook.2).toList

theorem Course.of_closing {h : List Moment} {p : Process} (down : p.IsDown)
    (closing : isClosing h = true) : Course h p := by
  constructor
  · intro _ quiet
    rw [closing] at quiet
    cases quiet
  · intro _ b live host
    rw [(down b).2] at host
    cases host

theorem Course.of_down {h : List Moment} {p : Process} (down : p.IsDown)
    (lives : Lives (milestones h)) : Course h p := by
  refine ⟨fun _ _ => lives, fun _ b live host => ?_⟩
  rw [(down b).2] at host
  cases host

theorem Course.of_preparing {h : List Moment} {p : Process} {call : ForeignCall} (down : p.IsDown)
    (quiet : (Event.called call).milestone? none = none) (lives : Lives (milestones h)) :
    Course (⟨.called call, p⟩ :: h) p := by
  refine .of_down down ?_
  rw [milestones_called, quiet]
  exact lives

variable {shut : List (HostId × HostInstance)} {frames : List (List Moment)}

theorem Marks.callUnload (hf : Respects Stance Steadfast foreign)
    (hJ : Respects Coursed Paced foreign) {R : List Milestone → Prop} {b : BridgeId}
    {live : LiveHost} (hv : Vacant ((live.host, live.started) :: shut) shut frames w)
    (hm : Marks (fun marks _ => R marks) w)
    (h : Returns (callUnload foreign b live) w () w') :
    Vacant ((live.host, live.started) :: shut) shut frames w' ∧
      Marks (fun marks _ => ∃ before, R before ∧ marks = unloads b live ++ before) w' ∧
        w.history <:+ w'.history := by
  rcases h.callUnload with ⟨none, rfl⟩ | ⟨name, address, cell, w₁, some, call, alike⟩
  · refine ⟨hv, hm.imp fun known => ⟨_, known, ?_⟩, List.suffix_rfl⟩
    rw [unloads, none]
    rfl
  · have called : isClosing (w.after (.called (.managed (.unload b) address ⟨.void, []⟩
        []))).history = true := by simp [ForeignCall.closes]
    obtain ⟨told, grown⟩ := hm.call (Q := fun marks _ => ∃ before, R before ∧
        marks = unloads b live ++ before) hJ (.inr (.inl rfl)) (hv.unload_call _ _ _ _)
      (fun _ => .of_closing hv.down called) call (by
        intro p _ known
        refine ⟨_, known, ?_⟩
        rw [unloads, some]
        rfl)
    exact ⟨(hv.unload hf call).alike alike, told.alike alike, alike.2.1 ▸ grown⟩

/-- Tearing a bridge down tells its runtime its end and shuts it down. -/
theorem Marks.tearsDown (hf : Respects Stance Steadfast foreign)
    (hJ : Respects Coursed Paced foreign) {R : LiveHost → List Milestone → Prop} {b : BridgeId}
    (hs : Sound Stance w)
    (hm : Marks (fun marks p => ∃ live, (p.bridge b).host = some live ∧ R live marks) w)
    (h : TearsDown foreign b w true w') :
    Marks (fun marks _ => ∃ live before, R live before ∧
      marks = .shut (live.host, live.started) :: (unloads b live ++ before)) w' ∧
        w.history <:+ w'.history := by
  cases h with
  | bare isLive host =>
    obtain ⟨live, -, up, -⟩ := hs.now.up_of_isLive isLive
    rw [up.host] at host
    cases host
  | @down live w₁ w₂ _ isLive host told shut gone =>
    have taken : Marks (fun marks _ => R live marks) (w.put (w.process.takeDown b)) := by
      refine hm.put ?_
      rintro ⟨live', host', known⟩
      cases host.symm.trans host'
      exact known
    obtain ⟨vacant, unloaded, grown⟩ :=
      taken.callUnload hf hJ (vacant_takeDown hs host isLive) told
    obtain ⟨reply, w₃, call, alike⟩ := shut.shutDown
    have called : isClosing (w₁.after (.called (.shutDown live.host live.started))).history =
        true := by simp [ForeignCall.closes]
    obtain ⟨ended, more⟩ := unloaded.call (Q := fun marks _ => ∃ live before, R live before ∧
        marks = .shut (live.host, live.started) :: (unloads b live ++ before)) hJ (.inr (.inl rfl))
      vacant.shutDown_call (fun _ => .of_closing vacant.down called) call (by
        rintro p - ⟨before, known, same⟩
        refine ⟨live, before, known, ?_⟩
        rw [same]
        rfl)
    have forgotten := (ended.alike alike).free.alike gone.forget
    have history := gone.forget.2.1.trans alike.2.1
    exact ⟨forgotten, history ▸ grown.trans more⟩

/-! ## Bringing up -/

/-- No runtime is started by the search for one, and nothing is done about any other. -/
theorem Marks.search (hf : Respects Stance Steadfast foreign)
    (hJ : Respects Coursed Paced foreign) {R : List Milestone → Prop}
    (lives : ∀ marks, R marks → Lives marks) {h : List Moment} :
    SteadySearch foreign (fun w =>
      Vacant shut shut frames w ∧ Marks (fun marks _ => R marks) w ∧ h <:+ w.history) := by
  have step : ∀ call : ForeignCall, call.prepares = true →
      (∀ reply, (Event.replied call reply).started? = none) →
      (∀ reply load, (Event.replied call reply).milestone? load = none) →
      (Event.called call).milestone? none = none →
      Keeps (fun w => Vacant shut shut frames w ∧ Marks (fun marks _ => R marks) w ∧
        h <:+ w.history) (foreign call) := by
    intro call prepares notStarted silent quiet w ⟨vacant, marks, grown⟩
    obtain ⟨reply, w', hr⟩ := Returns.exists (foreign call) w
    have vacant' := vacant.prepare hf call prepares hr
    rw [notStarted reply] at vacant'
    obtain ⟨marks', more⟩ := marks.call (Q := fun marks _ => R marks) hJ (.inl prepares)
      (vacant.preparing_call prepares)
      (fun known => .of_preparing vacant.down quiet (lives _ known)) hr (by
        rintro p - known
        rw [silent, quiet]
        exact known)
    rw [hr]
    exact ⟨vacant', marks', grown.trans more⟩
  constructor
  · exact fun _ _ ⟨vacant, marks, grown⟩ =>
      ⟨vacant.alike ⟨rfl, rfl, rfl, rfl⟩, marks.alike ⟨rfl, rfl, rfl, rfl⟩, grown⟩
  · exact fun _ => step _ rfl (fun _ => rfl) (fun _ _ => rfl) rfl
  · exact fun _ => step _ rfl (fun _ => rfl) (fun _ _ => rfl) rfl
  · exact fun _ => step _ rfl (fun _ => rfl) (fun _ _ => rfl) rfl
  · exact fun _ _ => step _ rfl (fun _ => rfl) (fun _ _ => rfl) rfl

/-- A load that comes to nothing leaves the milestones as they are, and any other one starts its own
runtime. -/
theorem Marks.prepared (hf : Respects Stance Steadfast foreign)
    (hJ : Respects Coursed Paced foreign) {R : List Milestone → Prop}
    (lives : ∀ marks, R marks → Lives marks) (hv : Vacant shut shut frames w)
    (hm : Marks (fun marks _ => R marks) w) {loader : Loader} {r : Except BridgeError LiveHost}
    (h : Returns (prepare foreign loader) w r w') :
    w.history <:+ w'.history ∧ match r with
    | .error _ => Marks (fun marks _ => R marks) w'
    | .ok live => live.unload = none ∧ live.defaultAssembly = loader.identity ∧
        Marks (fun marks _ => ∃ before, R before ∧
          marks = .started (innermostLoad frames) (live.host, live.started) :: before) w' := by
  have start := And.intro hv (And.intro hm (List.suffix_refl w.history))
  rcases h.prepare with
    ⟨⟨e, rfl⟩, steady⟩ | ⟨host, properties, reply, w₁, w₂, steady, call, alike, hr⟩
  · obtain ⟨-, marks, grown⟩ := steady _ (Marks.search hf hJ lives) start
    exact ⟨grown, marks⟩
  · obtain ⟨vacant, marks, grown⟩ := steady _ (Marks.search hf hJ lives) start
    have quiet : (Event.called (.startUp host loader.domainName properties)).milestone? none =
        none := rfl
    obtain ⟨marks', more⟩ := marks.call (Q := fun marks _ => ∃ before, R before ∧ marks =
        ((Event.replied (.startUp host loader.domainName properties) reply).milestone?
          (innermostLoad frames)).toList ++ before) hJ (.inl rfl) (vacant.preparing_call rfl)
      (fun known => .of_preparing vacant.down quiet (lives _ known)) call (by
        rintro p - known
        rw [vacant.frames, quiet, Option.toList_none, List.append_nil]
        exact ⟨_, known, rfl⟩)
    refine ⟨alike.2.1 ▸ grown.trans more, ?_⟩
    rcases hr with ⟨status, rfl, rfl⟩ | ⟨started, live, rfl, rfl, rfl, rfl, unload, assembly⟩
    · refine (marks'.alike alike).imp ?_
      rintro ⟨before, known, same⟩
      rw [same]
      exact known
    · exact ⟨unload, assembly, marks'.alike alike⟩

/-- What a load notes about a look-up that ended in a certain way. -/
def Noted (loader : Loader) (runtime : HostId × HostInstance) (method : String)
    (marks : List Milestone) : Except BridgeError Address → Prop
  | .ok address => address ≠ 0 ∧ marks = [.found loader runtime method address]
  | .error _ => Missed loader runtime method marks

theorem Course.of_tender {h : List Moment} {p : Process} {b : BridgeId} {live : LiveHost}
    (host : (p.bridge b).host = some live) (tender : isTender h = true) : Course h p := by
  constructor
  · intro down _
    rw [(down b).2] at host
    cases host
  · intro quiet
    rw [tender] at quiet
    cases quiet

theorem Marks.hosted {R : List Milestone → Prop} {b : BridgeId} {live : LiveHost}
    (hm : Marks (fun marks p => (p.bridge b).host = some live ∧ R marks) w) {p : Process}
    (hs : SameHosting w.process p) :
    Marks (fun marks p => (p.bridge b).host = some live ∧ R marks) (w.put p) :=
  hm.put fun ⟨host, known⟩ => ⟨(hs.host b).trans host, known⟩

/-- A load that asks its runtime for a method notes the answer. -/
theorem Marks.asks (hf : Respects Stance Steadfast foreign)
    (hJ : Respects Coursed Paced foreign) {R : List Milestone → Prop} {b : BridgeId}
    {live : LiveHost} {call : ForeignCall} (tender : call.isTender = true)
    (prepares : call.prepares = false) (closes : call.closes = false)
    (hs : Sound Stance w)
    (hm : Marks (fun marks p => (p.bridge b).host = some live ∧ R marks) w) {reply : call.Reply}
    (hr : Returns (foreign call) w reply w') :
    Marks (fun marks p => (p.bridge b).host = some live ∧ ∃ before, R before ∧ marks =
      ((Event.replied call reply).milestone? (innermostLoad (underway w.history))).toList ++
        ((Event.called call).milestone? none).toList ++ before) w' ∧
      w.history <:+ w'.history ∧ Within Stance Steadfast w w' := by
  have stance : Within Stance Steadfast w w' :=
    (keeps_call hf prepares closes).returns hr ⟨hs, .refl w⟩
  have called : isTender (w.after (.called call)).history = true := by simp [tender]
  have made : Stance (w.after (.called call)).history w.process :=
    hs.now.congr (.refl _) (by simp [prepares]) (by simp [closes]) rfl
      (shutRuntimes_called closes _ _)
  obtain ⟨marks, grown⟩ := hm.call (Q := fun marks p => (p.bridge b).host = some live ∧
      ∃ before, R before ∧ marks =
        ((Event.replied call reply).milestone? (innermostLoad (underway w.history))).toList ++
          ((Event.called call).milestone? none).toList ++ before) hJ (.inr (.inr tender)) made
    (fun known => .of_tender known.1 called) hr (by
      rintro p hosting ⟨host, known⟩
      exact ⟨(hosting.host b).trans host, _, known, rfl⟩)
  exact ⟨marks, grown, stance⟩

/-- Where everything is calm, the runtime that a load asks for a method is the one that it
started. -/
theorem Marks.asksFor (hf : Respects Stance Steadfast foreign)
    (hJ : Respects Coursed Paced foreign) {R : List Milestone → Prop} {b : BridgeId}
    {live live' : LiveHost} {loader : Loader} {method : String} {reply : Except Int32 Address}
    (assembly : live.defaultAssembly = loader.identity)
    (load : innermostLoad (underway w.history) = some (b, loader)) (hs : Sound Stance w)
    (hm : Marks (fun marks p => (p.bridge b).host = some live ∧ R marks) w)
    (host : (w.process.bridge b).host = some live')
    (asked : Returns (foreign (.createDelegate live'.host live'.started
      (none.getD live'.defaultAssembly) loader.entryType method)) w reply w₁)
    (alike : Alike w₁ w') :
    Marks (fun marks p => (p.bridge b).host = some live ∧ ∃ before, R before ∧ marks =
      .lookedUp (live.host, live.started) loader.identity loader.entryType method reply ::
        before) w' ∧
      w.history <:+ w'.history ∧ Within Stance Steadfast w w' := by
  have same := hm.imp (Q := fun marks p => (p.bridge b).host = some live ∧
    (R marks ∧ live' = live)) fun ⟨there, known⟩ =>
      ⟨there, known, Option.some.inj (host.symm.trans there)⟩
  obtain ⟨marks, grown, stance⟩ := Marks.asks hf hJ rfl rfl rfl hs same asked
  refine ⟨(marks.alike alike).imp ?_, alike.2.1 ▸ grown, within_alike stance alike⟩
  rintro ⟨there, before, ⟨known, rfl⟩, more⟩
  rw [load, Option.getD_none, assembly] at more
  exact ⟨there, before, known, more⟩

theorem Marks.lookUp (hf : Respects Stance Steadfast foreign)
    (hJ : Respects Coursed Paced foreign) {R : List Milestone → Prop} {b : BridgeId}
    {live : LiveHost} {loader : Loader} {method : String} {r : Except BridgeError Address}
    (assembly : live.defaultAssembly = loader.identity)
    (load : innermostLoad (underway w.history) = some (b, loader)) (hs : Sound Stance w)
    (hm : Marks (fun marks p => (p.bridge b).host = some live ∧ R marks) w)
    (h : Returns (resolve foreign b loader.entryType method none) w r w') :
    Marks (fun marks p => (p.bridge b).host = some live ∧ ∃ noted before, R before ∧
      Noted loader (live.host, live.started) method noted r ∧ marks = noted ++ before) w' ∧
      w.history <:+ w'.history ∧ Within Stance Steadfast w w' := by
  cases h.looksUp with
  | hostless host =>
    refine ⟨hm.imp ?_, List.suffix_rfl, hs, .refl w⟩
    rintro ⟨there, -⟩
    rw [host] at there
    cases there
  | unasked host unaskable =>
    refine ⟨hm.imp ?_, List.suffix_rfl, hs, .refl w⟩
    rintro ⟨there, known⟩
    cases host.symm.trans there
    rw [Option.getD_none, assembly] at unaskable
    exact ⟨there, [], _, known, .unasked unaskable, rfl⟩
  | refused host asked useless alike =>
    obtain ⟨marks, grown, stance⟩ := hm.asksFor hf hJ assembly load hs host asked alike
    refine ⟨marks.imp ?_, grown, stance⟩
    rintro ⟨there, before, known, more⟩
    exact ⟨there, _, before, known, .refused useless, more⟩
  | found host asked named alike =>
    obtain ⟨marks, grown, stance⟩ := hm.asksFor hf hJ assembly load hs host asked alike
    refine ⟨marks.imp ?_, grown, stance⟩
    rintro ⟨there, before, known, more⟩
    exact ⟨there, _, before, known, ⟨named, rfl⟩, more⟩

/-- Where an entry point is missing, that is noted. -/
theorem Marks.boots_error (hf : Respects Stance Steadfast foreign)
    (hJ : Respects Coursed Paced foreign) {R : List Milestone → Prop} {b : BridgeId}
    {live : LiveHost} {loader : Loader} {e : BridgeError}
    (assembly : live.defaultAssembly = loader.identity)
    (load : innermostLoad (underway w.history) = some (b, loader)) (hs : Sound Stance w)
    (hm : Marks (fun marks p => (p.bridge b).host = some live ∧ R marks) w)
    (h : Boots foreign b loader w (.error e) w') :
    Marks (fun marks p => (p.bridge b).host = some live ∧ ∃ lookUps before, R before ∧
      Unresolved loader (live.host, live.started) lookUps ∧ marks = lookUps ++ before) w' ∧
      w.history <:+ w'.history ∧ Within Stance Steadfast w w' := by
  cases h with
  | noLoad missing =>
    obtain ⟨marks, grown, stance⟩ := hm.lookUp hf hJ assembly load hs missing
    refine ⟨marks.imp ?_, grown, stance⟩
    rintro ⟨host, noted, before, known, missed, same⟩
    exact ⟨host, noted, before, known, .load missed, same⟩
  | noUnload named missing =>
    obtain ⟨marks₁, grown₁, stance₁⟩ := hm.lookUp hf hJ assembly load hs named
    have load₁ := load
    rw [← stance₁.since.frames] at load₁
    obtain ⟨marks₂, grown₂, stance₂⟩ :=
      marks₁.lookUp hf hJ assembly load₁ stance₁.sound missing
    refine ⟨marks₂.imp ?_, grown₁.trans grown₂, stance₂.sound,
      stance₁.since.trans stance₂.since⟩
    rintro ⟨host, missed, _, ⟨noted, before, known, ⟨nonzero, rfl⟩, rfl⟩, miss, same⟩
    refine ⟨host, _, before, known, .unload miss nonzero, ?_⟩
    rw [same, List.append_assoc]

/-- Where both entry points are named, the load method is called next. -/
theorem Marks.boots_ok (hf : Respects Stance Steadfast foreign)
    (hJ : Respects Coursed Paced foreign) {R : List Milestone → Prop} {b : BridgeId}
    {live : LiveHost} {loader : Loader} (assembly : live.defaultAssembly = loader.identity)
    (load : innermostLoad (underway w.history) = some (b, loader)) (hs : Sound Stance w)
    (hm : Marks (fun marks p => (p.bridge b).host = some live ∧ R marks) w)
    (h : Boots foreign b loader w (.ok ()) w') :
    Marks (fun marks p => ∃ onLoad onUnload before, R before ∧ (onLoad ≠ 0 ∧ onUnload ≠ 0) ∧
      (p.bridge b).host = some { live with unload := some (loader.unloadName, onUnload) } ∧
      marks = .loading b onLoad ::
        (entryPoints loader (live.host, live.started) onLoad onUnload ++ before)) w' ∧
      w.history <:+ w'.history := by
  cases h with
  | @told onLoad onUnload json cells cell w₁ w₂ w₃ namedLoad namedUnload call =>
    obtain ⟨marks₁, grown₁, stance₁⟩ := hm.lookUp hf hJ assembly load hs namedLoad
    have load₁ := load
    rw [← stance₁.since.frames] at load₁
    obtain ⟨marks₂, grown₂, stance₂⟩ :=
      marks₁.lookUp hf hJ assembly load₁ stance₁.sound namedUnload
    have tell : SameHosting w₂.process (w₂.process.tell b json) := .updateBridge rfl rfl
    have told := marks₂.hosted tell
    obtain ⟨marks₃, grown₃, -⟩ := Marks.asks hf hJ rfl rfl rfl
      (within_put ⟨stance₂.sound, .refl w₂⟩ tell).sound told call
    refine ⟨marks₃.put ?_, grown₁.trans (grown₂.trans grown₃)⟩
    rintro ⟨host, _, ⟨_, _, ⟨_, before, known, ⟨nonzero, rfl⟩, rfl⟩, ⟨nonzero', rfl⟩, rfl⟩, same⟩
    refine ⟨onLoad, onUnload, before, known, ⟨nonzero, nonzero'⟩, ?_, same⟩
    rw [Process.hook, Process.bridge_updateBridge_self, host]
    rfl

end ManagedHost
