import ManagedHost.Proofs.CallThrough

/-! # Returned texts stay

Each entry of a binding has at most one buffer, in which it keeps the text that it returned last,
and gives that buffer back only for the next one. So the text that a call of an entry returned can
be read until a later call of the same entry returns another one, whatever else happens: calls of
other entries, failures, clears and teardowns (`returned_text_stays`). -/

namespace ManagedHost

open ManagedHost.Action

/-! ## What a history tells -/

/-- The entry that is called at a moment, with its adapter. -/
def Moment.entry? (moment : Moment) : Option (AdapterId × Adapter) :=
  match moment.event with
  | .called (.managed _ address _ _) => moment.process.adapterAt? address
  | .began (.enter address _) => moment.process.adapterAt? address
  | _ => none

theorem Moment.adapter?_of_entry? {moment : Moment} {id : AdapterId} {adapter : Adapter}
    (h : moment.entry? = some (id, adapter)) : moment.process.adapter? id = some adapter := by
  have there : ∀ address, moment.process.adapterAt? address = some (id, adapter) →
      moment.process.adapter? id = some adapter := by
    intro address found
    obtain ⟨number, -, found⟩ := Option.bind_eq_some_iff.mp found
    obtain ⟨adapter', found, same⟩ := Option.bind_eq_some_iff.mp found
    cases same
    exact found
  unfold Moment.entry? at h
  split at h
  · exact there _ h
  · exact there _ h
  · cases h

/-- The entry whose call is the innermost that is under way. -/
def entryUnderway (history : List Moment) : Option (AdapterId × Adapter) :=
  ((underway history).head?.bind List.head?).bind Moment.entry?

theorem mem_underway_cons {moment : Moment} {h frame : List Moment}
    (under : frame ∈ underway (moment :: h)) : frame = moment :: h ∨ frame ∈ underway h := by
  obtain ⟨event, p⟩ := moment
  cases event with
  | called | began => exact List.mem_cons.mp under
  | replied | ended => exact .inr (List.mem_of_mem_tail under)

theorem frame_of_entryUnderway {h : List Moment} {entry : AdapterId × Adapter}
    (under : entryUnderway h = some entry) :
    ∃ moment earlier, moment :: earlier ∈ underway h ∧ moment.entry? = some entry := by
  rw [entryUnderway] at under
  cases frames : underway h with
  | nil => simp [frames] at under
  | cons frame outer =>
    cases frame with
    | nil => simp [frames] at under
    | cons moment earlier =>
      refine ⟨moment, earlier, List.mem_cons_self, ?_⟩
      simpa [frames] using under

/-- The buffer that a cell points to. -/
def Cell.buffer? : Cell → Option BufferId
  | text (.buffer b) => some b
  | _ => none

theorem Cell.buffer?_ofFailure (type : WireType) : (ofFailure type).buffer? = none := by
  cases type <;> rfl

/-- The buffer that the result of a call of an address points to. -/
def Event.buffer? : Event → Option BufferId
  | .replied (.managed _ _ _ _) cell => cell.buffer?
  | .ended (.enter _ _) cell => cell.buffer?
  | _ => none

/-- The text that a supplied function returns, with the number of the function. -/
def Event.text? : Event → Option (Nat × String)
  | .replied (.native number ⟨.utf8String, _⟩ _) (some text) => some (number, text)
  | _ => none

/-- The entry through which a text is returned at a moment, and the buffer of the text. -/
def Moment.returned? (moment : Moment) (earlier : List Moment) : Option (AdapterId × BufferId) :=
  (entryUnderway earlier).bind fun entry => moment.event.buffer?.map fun b => (entry.1, b)

/-- The buffer of the last text that was returned through an entry, and the text that a function
had returned right before. -/
def lastText (id : AdapterId) : List Moment → Option (BufferId × Option (Nat × String))
  | [] => none
  | moment :: earlier =>
    match moment.returned? earlier with
    | some (through, b) =>
      if through = id then some (b, earlier.head?.bind (·.event.text?)) else lastText id earlier
    | none => lastText id earlier

theorem lastText_of_silent {id : AdapterId} {moment : Moment} {earlier : List Moment}
    (silent : moment.returned? earlier = none) :
    lastText id (moment :: earlier) = lastText id earlier := by
  rw [lastText, silent]

theorem Moment.returned?_of_no_buffer {moment : Moment} (none : moment.event.buffer? = none)
    (earlier : List Moment) : moment.returned? earlier = .none := by
  rw [Moment.returned?, none]
  cases entryUnderway earlier <;> rfl

/-! ## Processes that hold their texts -/

/-- The buffer is that of the entry and holds the text that the function of the entry returned. -/
def HoldsText (p : Process) (id : AdapterId) (b : BufferId) (given : Option (Nat × String)) :
    Prop :=
  ∃ name signature number types text,
    p.adapter? id = some ⟨name, signature, .supplied number types, some b⟩ ∧
    given = some (number, text) ∧ '\x00' ∉ text.toList ∧
    p.buffer? b = some (Text.Utf8.encode text)

/-- After a history, the last text of every entry is held. -/
structure TextsHeld (h : List Moment) (p : Process) : Prop where
  allotted : ∀ {id adapter b}, p.adapter? id = some adapter → adapter.buffer = some b →
    b < p.buffers.length
  /-- No two entries have the same buffer. -/
  own : ∀ {id id' adapter adapter' b}, p.adapter? id = some adapter →
    p.adapter? id' = some adapter' → adapter.buffer = some b → adapter'.buffer = some b → id = id'
  /-- An entry whose call is under way is still what it was. -/
  standing : ∀ {moment earlier id adapter}, moment :: earlier ∈ underway h →
    moment.entry? = some (id, adapter) → ∃ buffer, p.adapter? id = some { adapter with buffer }
  held : ∀ {id b given}, lastText id h = some (b, given) → HoldsText p id b given

theorem textsHeld_start : TextsHeld [] {} where
  allotted := nofun
  own := nofun
  standing := nofun
  held := nofun

/-- Between the states no text was kept, and at most new entries were made. -/
structure Textless (p p' : Process) : Prop where
  buffers : p'.buffers = p.buffers
  adapters : ∃ more, p'.adapters = p.adapters ++ more ∧ ∀ adapter ∈ more, adapter.buffer = none

namespace Textless

variable {p p' : Process}

theorem of_eq (buffers : p'.buffers = p.buffers) (adapters : p'.adapters = p.adapters) :
    Textless p p' := ⟨buffers, [], by simp [adapters], nofun⟩

theorem adapter? (same : Textless p p') {id : AdapterId} {adapter : Adapter}
    (entry : p.adapter? id = some adapter) : p'.adapter? id = some adapter := by
  obtain ⟨-, more, grown, -⟩ := same
  rw [Process.adapter?, grown, List.getElem?_append_left (List.getElem?_eq_some_iff.mp entry).1]
  exact entry

/-- An entry with a buffer is an old one. -/
theorem old (same : Textless p p') {id : AdapterId} {adapter : Adapter} {b : BufferId}
    (entry : p'.adapter? id = some adapter) (has : adapter.buffer = some b) :
    p.adapter? id = some adapter := by
  obtain ⟨-, more, grown, fresh⟩ := same
  rw [Process.adapter?, grown, List.getElem?_append] at entry
  split at entry
  · exact entry
  · simp [fresh adapter (List.mem_of_getElem? entry)] at has

theorem buffer? (same : Textless p p') (b : BufferId) : p'.buffer? b = p.buffer? b := by
  rw [Process.buffer?, Process.buffer?, same.buffers]

theorem textsHeld (same : Textless p p') {h : List Moment} (held : TextsHeld h p) :
    TextsHeld h p' where
  allotted entry has := same.buffers ▸ held.allotted (same.old entry has) has
  own entry entry' has has' := held.own (same.old entry has) (same.old entry' has') has has'
  standing frame entry := by
    obtain ⟨buffer, there⟩ := held.standing frame entry
    exact ⟨buffer, same.adapter? there⟩
  held last := by
    obtain ⟨name, signature, number, types, text, entry, given, noNul, content⟩ := held.held last
    exact ⟨name, signature, number, types, text, same.adapter? entry, given, noNul,
      (same.buffer? _).trans content⟩

end Textless

theorem Effect.textless {operation : Operation} {p p' : Process} (step : Effect operation p p')
    (same : p'.buffers = p.buffers) : Textless p p' := by
  cases step with
  | bound added =>
    obtain ⟨-, -, rfl⟩ := Process.register_adds added
    exact ⟨same, _, Process.adapters_setRegistry _ _ _, by simp⟩
  | cleared => exact .of_eq same (Process.adapters_setRegistry _ _ _)
  | kept _ _ id content =>
    -- A kept text takes one more buffer.
    have grown := congrArg List.length same
    simp only [Process.keepText, List.length_append, List.length_singleton] at grown
    split at grown <;> simp at grown
  | seated | heap | declared | resolved | objects => exact .of_eq same rfl

theorem HostingStep.textless {p p' : Process} (step : HostingStep p p') : Textless p p' := by
  cases step with
  | empty b =>
    exact .of_eq (Process.buffers_setRegistry _ _ _) (Process.adapters_setRegistry _ _ _)
  | _ => exact .of_eq rfl rfl

/-! ## A text that is kept -/

namespace Process

variable {p : Process} {id : AdapterId} {content : List UInt8}

theorem adapter?_keepText_self :
    (p.keepText id content).1.adapter? id =
      (p.adapter? id).map fun adapter => { adapter with buffer := some p.buffers.length } := by
  simp [adapter?, keepText]

theorem adapter?_keepText_of_ne {other : AdapterId} (differs : other ≠ id) :
    (p.keepText id content).1.adapter? other = p.adapter? other := by
  simp [adapter?, keepText, differs.symm]

/-- Only the buffer that the entry had before is given back. -/
theorem buffer?_keepText_of_not_own {b : BufferId} (allotted : b < p.buffers.length)
    (other : ∀ adapter, p.adapter? id = some adapter → adapter.buffer ≠ some b) :
    (p.keepText id content).1.buffer? b = p.buffer? b := by
  simp only [buffer?, keepText]
  cases had : (p.adapter? id).bind (·.buffer) with
  | none => rw [List.getElem?_append_left allotted]
  | some old =>
    obtain ⟨adapter, entry, has⟩ := Option.bind_eq_some_iff.mp had
    have differs : old ≠ b := fun same => other adapter entry (same ▸ has)
    dsimp only
    rw [List.getElem?_append_left (by simpa using allotted), List.getElem?_set_ne differs]

theorem length_keepText : (p.keepText id content).1.buffers.length = p.buffers.length + 1 := by
  simp only [keepText, List.length_append, List.length_singleton]
  split <;> simp

/-- Only the entry itself has the new buffer. -/
theorem entry_of_keepText {other : AdapterId} {adapter : Adapter} {b : BufferId}
    (entry : (p.keepText id content).1.adapter? other = some adapter)
    (has : adapter.buffer = some b) :
    (other = id ∧ b = p.buffers.length) ∨ (other ≠ id ∧ p.adapter? other = some adapter) := by
  by_cases same : other = id
  · subst same
    rw [adapter?_keepText_self] at entry
    obtain ⟨before, -, rfl⟩ := Option.map_eq_some_iff.mp entry
    exact .inl ⟨rfl, (Option.some.inj has).symm⟩
  · rw [adapter?_keepText_of_ne same] at entry
    exact .inr ⟨same, entry⟩

end Process

namespace TextsHeld

variable {h : List Moment} {p : Process}

/-- An event that returns no text through an entry changes nothing. -/
theorem after (held : TextsHeld h p) {event : Event}
    (silent : Moment.returned? ⟨event, p⟩ h = none) : TextsHeld (⟨event, p⟩ :: h) p where
  allotted := held.allotted
  own := held.own
  standing frame entry := by
    rcases mem_underway_cons frame with new | old
    · cases new
      exact ⟨_, Moment.adapter?_of_entry? entry⟩
    · exact held.standing old entry
  held last := held.held (lastText_of_silent silent ▸ last)

/-- An entry that keeps a text gives back its own buffer only. -/
theorem keepText_held (held : TextsHeld h p) {id other : AdapterId} {content : List UInt8}
    {b : BufferId} {given : Option (Nat × String)} (differs : other ≠ id)
    (last : HoldsText p other b given) : HoldsText (p.keepText id content).1 other b given := by
  obtain ⟨name, signature, number, types, text, entry, given, noNul, content⟩ := last
  refine ⟨name, signature, number, types, text, ?_, given, noNul, ?_⟩
  · rw [Process.adapter?_keepText_of_ne differs, entry]
  · rw [Process.buffer?_keepText_of_not_own (held.allotted entry rfl), content]
    exact fun adapter there has => differs (held.own entry there rfl has)

/-- An entry that returns the text of its function holds it from then on, and the other entries
hold theirs. -/
theorem keepText (held : TextsHeld h p) {event : Event} {id : AdapterId} {adapter : Adapter}
    {number : Nat} {types : Signature} {text : String}
    (entered : entryUnderway h = some (id, adapter))
    (function : adapter.function = .supplied number types) (noNul : '\x00' ∉ text.toList)
    (given : h.head?.bind (·.event.text?) = some (number, text))
    (pointer : event.buffer? = some p.buffers.length) :
    TextsHeld (⟨event, (p.keepText id (Text.Utf8.encode text)).1⟩ :: h)
      (p.keepText id (Text.Utf8.encode text)).1 where
  allotted {other adapter b} entry has := by
    rw [Process.length_keepText]
    rcases Process.entry_of_keepText entry has with ⟨-, rfl⟩ | ⟨-, entry⟩
    · exact Nat.lt_succ_self _
    · exact Nat.lt_succ_of_lt (held.allotted entry has)
  own entry entry' has has' := by
    rcases Process.entry_of_keepText entry has with ⟨rfl, rfl⟩ | ⟨-, entry⟩ <;>
      rcases Process.entry_of_keepText entry' has' with ⟨same, fresh⟩ | ⟨-, entry'⟩
    · exact same.symm
    · exact absurd (held.allotted entry' has') (Nat.lt_irrefl _)
    · exact absurd (fresh ▸ held.allotted entry has) (Nat.lt_irrefl _)
    · exact held.own entry entry' has has'
  standing {moment earlier other adapter} frame entry := by
    rcases mem_underway_cons frame with new | old
    · cases new
      exact ⟨_, Moment.adapter?_of_entry? entry⟩
    obtain ⟨buffer, there⟩ := held.standing old entry
    by_cases same : other = id
    · subst same
      exact ⟨some p.buffers.length, by rw [Process.adapter?_keepText_self, there]; rfl⟩
    · exact ⟨buffer, (Process.adapter?_keepText_of_ne same).trans there⟩
  held {other b given'} last := by
    have returned : Moment.returned? ⟨event, (p.keepText id (Text.Utf8.encode text)).1⟩ h =
        some (id, p.buffers.length) := by
      rw [Moment.returned?, entered, pointer]
      rfl
    rw [lastText, returned] at last
    by_cases same : id = other
    · subst same
      simp only [if_pos, given, Option.some.injEq, Prod.mk.injEq] at last
      obtain ⟨rfl, rfl⟩ := last
      obtain ⟨moment, earlier, under, entry⟩ := frame_of_entryUnderway entered
      obtain ⟨buffer, there⟩ := held.standing under entry
      refine ⟨adapter.name, adapter.signature, number, types, text, ?_, rfl, noNul, ?_⟩
      · rw [Process.adapter?_keepText_self, there, ← function]
        rfl
      · exact buffer?_keepText p id (Text.Utf8.encode text)
    · simp only [if_neg same] at last
      exact held.keepText_held (Ne.symm same) (held.held last)

end TextsHeld

/-- The cell of a result points to no buffer, or to the new one of the entry. -/
theorem Action.Returns.pointsTo {id : AdapterId} {adapter : Adapter} {value : Value} {cell : Cell}
    {w w' : World} (ran : Returns (Action.toResultCell id adapter value) w cell w') :
    (cell.buffer? = none ∧ Alike w w') ∨
    ∃ text, value = .text text ∧ '\x00' ∉ text.toList ∧
      cell = .text (.buffer w.process.buffers.length) ∧
      w' = w.put (w.process.keepText id (Text.Utf8.encode text)).1 := by
  unfold Action.toResultCell at ran
  split at ran
  · obtain ⟨rfl, rfl⟩ := Returns.pure ran
    exact .inl ⟨Cell.buffer?_ofFailure _, .refl _⟩
  cases value with
  | text text =>
    dsimp only at ran
    split at ran
    · obtain ⟨u, w₁, logged, ran⟩ := Returns.bind ran
      obtain ⟨rfl, rfl⟩ := Returns.pure ran
      exact .inl ⟨rfl, logged.log⟩
    · next noNul =>
      cases ran
      exact .inr ⟨text, rfl, noNul, rfl, rfl⟩
  | _ =>
    obtain ⟨rfl, rfl⟩ := Returns.pure ran
    exact .inl ⟨rfl, .refl _⟩

/-! ## What operations and calls keep -/

/-- The texts are held now and were held at every moment, and the frames are under way. -/
structure TextsKept (frames : List (List Moment)) (w : World) : Prop where
  now : TextsHeld w.history w.process
  before : ∀ moment earlier, moment :: earlier <:+ w.history →
    TextsHeld (moment :: earlier) moment.process
  frames : underway w.history = frames

namespace TextsKept

variable {frames frames' : List (List Moment)} {w w' : World}

theorem put (kept : TextsKept frames w) {p : Process} (same : Textless w.process p) :
    TextsKept frames (w.put p) :=
  ⟨same.textsHeld kept.now, kept.before, kept.frames⟩

theorem alike (kept : TextsKept frames w) (h : Alike w w') : TextsKept frames w' := by
  obtain ⟨process, history, -, -⟩ := h
  refine ⟨?_, ?_, ?_⟩
  · rw [history, process]
    exact kept.now
  · rw [history]
    exact kept.before
  · rw [history]
    exact kept.frames

theorem record (kept : TextsKept frames w) {event : Event} {p : Process}
    (now : TextsHeld (⟨event, p⟩ :: w.history) p)
    (under : underway (⟨event, p⟩ :: w.history) = frames') :
    TextsKept frames' ((w.put p).after event) := by
  refine ⟨now, fun moment earlier there => ?_, under⟩
  rcases List.suffix_cons_iff.mp there with same | old
  · cases same
    exact now
  · exact kept.before moment earlier old

/-- What begins is under way. -/
theorem called (kept : TextsKept frames w) (call : ForeignCall) :
    TextsKept ((w.after (.called call)).history :: frames) (w.after (.called call)) :=
  kept.record (kept.now.after (Moment.returned?_of_no_buffer rfl _))
    (congrArg (List.cons _) kept.frames)

theorem began (kept : TextsKept frames w) (operation : Operation) :
    TextsKept ((w.after (.began operation)).history :: frames) (w.after (.began operation)) :=
  kept.record (kept.now.after (Moment.returned?_of_no_buffer rfl _))
    (congrArg (List.cons _) kept.frames)

/-- What ends without a text of an entry is no longer under way. -/
theorem replied {frame : List Moment} (kept : TextsKept (frame :: frames) w) {call : ForeignCall}
    {reply : call.Reply}
    (silent : Moment.returned? ⟨.replied call reply, w.process⟩ w.history = none) :
    TextsKept frames (w.after (.replied call reply)) :=
  kept.record (kept.now.after silent) (by rw [underway_replied, kept.frames]; rfl)

theorem ended {frame : List Moment} (kept : TextsKept (frame :: frames) w) {operation : Operation}
    {result : operation.Result}
    (silent : Moment.returned? ⟨.ended operation result, w.process⟩ w.history = none) :
    TextsKept frames (w.after (.ended operation result)) :=
  kept.record (kept.now.after silent) (by rw [underway_ended, kept.frames]; rfl)

end TextsKept

/-- Every call keeps the texts, and its reply is the last thing that happens. -/
structure KeepsTexts (foreign : Foreign) : Prop where
  keeps : ∀ frames call, Keeps (TextsKept frames) (foreign call)
  replies : ∀ {call w reply w'}, Returns (foreign call) w reply w' →
    ∃ earlier, w'.history = ⟨.replied call reply, w'.process⟩ :: earlier

namespace KeepsTexts

variable {foreign : Foreign} (hf : KeepsTexts foreign) {frames : List (List Moment)}
  {w w' : World}
include hf

theorem textless (operation : Operation) :
    TextlessCallsIn operation foreign (TextsKept frames) where
  effect _ _ step _ same kept := kept.put (step.textless same)
  write _ _ kept := kept.alike ⟨rfl, rfl, rfl, rfl⟩
  remember _ _ kept := kept.alike ⟨rfl, rfl, rfl, rfl⟩
  native _ _ _ := hf.keeps frames _
  createDelegate _ _ _ _ _ := hf.keeps frames _
  imported _ _ _ _ _ := hf.keeps frames _

theorem hosting : SteadyHosting foreign (TextsKept frames) where
  step _ _ step kept := kept.put step.textless
  alike _ _ h kept := kept.alike h
  call := hf.keeps frames

/-- A function that returns a text is a supplied one, whose reply was the last thing to happen. -/
theorem runFunction {function : NativeFunction} {args : Arguments function.signature.params}
    {result : function.signature.returns.Carrier} {text : String}
    (ran : Returns (Action.runFunction foreign function args) w (some result) w')
    (returned : Value.ofCarrier _ result = .text text) :
    ∃ number types, function = .supplied number types ∧
      w'.history.head?.bind (·.event.text?) = some (number, text) := by
  cases function with
  | report => cases returned
  | kick lobby => cases returned
  | supplied number types =>
    refine ⟨number, types, rfl, ?_⟩
    obtain ⟨earlier, history⟩ := hf.replies ran
    rw [history]
    obtain ⟨returns, params⟩ := types
    cases returns with
    | utf8String =>
      cases returned
      rfl
    | _ => cases returned

theorem callFunction {name : String} {function : NativeFunction} {args : List Value}
    {text : String}
    (ran : Returns (Action.callFunction foreign name function args) w (.returned (.text text)) w') :
    ∃ number types, function = .supplied number types ∧
      w'.history.head?.bind (·.event.text?) = some (number, text) := by
  unfold Action.callFunction at ran
  split at ran
  · cases (Returns.pure ran).1
  · obtain ⟨result, w₁, ran, returned⟩ := Returns.bind ran
    cases result with
    | none => cases (Returns.pure returned).1
    | some result =>
      obtain ⟨same, rfl⟩ := Returns.pure returned
      exact hf.runFunction ran (Reaction.returned.inj same).symm

/-- The call of an entry returns no text, or the one that its function had just returned. -/
theorem enterAdapter {id : AdapterId} {adapter : Adapter} {cells : List Cell} {cell : Cell}
    (kept : TextsKept frames w)
    (ran : Returns (Action.enterAdapter foreign id adapter cells) w cell w') :
    (cell.buffer? = none ∧ TextsKept frames w') ∨
    ∃ number types text w₁, TextsKept frames w₁ ∧ adapter.function = .supplied number types ∧
      w₁.history.head?.bind (·.event.text?) = some (number, text) ∧ '\x00' ∉ text.toList ∧
      cell = .text (.buffer w₁.process.buffers.length) ∧
      w' = w₁.put (w₁.process.keepText id (Text.Utf8.encode text)).1 := by
  unfold Action.enterAdapter at ran
  obtain ⟨p, w₁, read, ran⟩ := Returns.bind ran
  obtain ⟨rfl, rfl⟩ := Returns.process read
  have failed : ∀ {v : World} {message : String}, TextsKept frames v →
      Returns (do
        Action.log .error .outbound message
        return Cell.ofFailure adapter.signature.returns) v cell w' →
      cell.buffer? = none ∧ TextsKept frames w' := by
    intro v message kept ran
    obtain ⟨u, v₁, logged, ran⟩ := Returns.bind ran
    obtain ⟨rfl, rfl⟩ := Returns.pure ran
    exact ⟨Cell.buffer?_ofFailure _, kept.alike logged.log⟩
  dsimp only at ran
  split at ran
  · exact .inl (failed kept ran)
  obtain ⟨reaction, w₂, called, ran⟩ := Returns.bind ran
  have kept₂ : TextsKept frames w₂ :=
    ((hf.textless (.enter 0 cells)).callFunction _ _ _).returns called kept
  cases reaction with
  | failed e => exact .inl (failed kept₂ ran)
  | panicked => exact .inl (failed kept₂ ran)
  | returned result =>
    rcases Returns.pointsTo ran with ⟨none, alike⟩ | ⟨text, rfl, noNul, pointer, kept⟩
    · exact .inl ⟨none, kept₂.alike alike⟩
    · obtain ⟨number, types, function, given⟩ := hf.callFunction called
      exact .inr ⟨number, types, text, w₂, kept₂, function, given, noNul, pointer, kept⟩

/-- When the call of an entry is over, the texts are held again. -/
theorem leaves {frame : List Moment} {id : AdapterId} {adapter : Adapter} {cells : List Cell}
    {cell : Cell} {event : Event} (kept : TextsKept (frame :: frames) w)
    (entered : entryUnderway w.history = some (id, adapter))
    (ran : Returns (Action.enterAdapter foreign id adapter cells) w cell w')
    (result : event.buffer? = cell.buffer?)
    (ends : ∀ h p, underway (⟨event, p⟩ :: h) = (underway h).tail) :
    TextsKept frames (w'.after event) := by
  have done : ∀ {v p}, TextsKept (frame :: frames) v →
      underway (⟨event, p⟩ :: v.history) = frames := by
    intro v p kept
    rw [ends, kept.frames]
    rfl
  -- Once the new text is kept the old one is gone, but no moment shows that: the next thing to be
  -- recorded is the return itself, so the two are one step.
  rcases hf.enterAdapter kept ran with
    ⟨none, kept'⟩ | ⟨number, types, text, w₁, kept₁, function, given, noNul, rfl, rfl⟩
  · exact kept'.record
      (kept'.now.after (Moment.returned?_of_no_buffer (result.trans none) _)) (done kept')
  · have entered₁ : entryUnderway w₁.history = some (id, adapter) := by
      rw [← entered, entryUnderway, entryUnderway, kept₁.frames, kept.frames]
    exact kept₁.record (kept₁.now.keepText entered₁ function noNul given result) (done kept₁)

theorem perform {operation : Operation} (other : operation.enters = false) :
    Keeps (TextsKept frames) (operation.perform foreign) := by
  cases hosts : operation.hosts with
  | true => exact operation.perform_hosting hf.hosting hosts
  | false => exact operation.perform_textless (hf.textless operation) hosts other

theorem run (operation : Operation) : Keeps (TextsKept frames) (operation.run foreign) := by
  intro w kept
  obtain ⟨result, w₁, ran, whole⟩ := operation.run_eq foreign w
  rw [whole]
  have began := kept.began operation
  cases enters : operation.enters with
  | false =>
    refine ((hf.perform enters).returns ran began).ended (Moment.returned?_of_no_buffer ?_ _)
    cases operation with
    | enter => cases enters
    | _ => rfl
  | true =>
    cases operation with
    | enter address cells =>
      obtain ⟨p, w₂, read, ran⟩ := Returns.bind (x := Action.process) ran
      obtain ⟨rfl, rfl⟩ := Returns.process read
      split at ran
      · next id adapter entry => exact hf.leaves began entry ran rfl fun _ _ => rfl
      · obtain ⟨rfl, rfl⟩ := Returns.pure ran
        exact began.ended (Moment.returned?_of_no_buffer rfl _)
    | _ => cases enters

theorem conduct {ρ : Type} :
    ∀ conduct : Conduct ρ, Keeps (TextsKept frames) (conduct.run foreign)
  | .reply value => .pure value
  | .look next => fun w kept => conduct (next w) w kept
  | .perform operation next => .bind (hf.run operation) fun result => conduct (next result)

end KeepsTexts

/-- Outside an entry no text is returned through one. -/
theorem KeepsTexts.reacts {outside : Outside} {foreign : Foreign} (hf : KeepsTexts foreign)
    {frames : List (List Moment)} {w : World} (call : ForeignCall) (kept : TextsKept frames w)
    (elsewhere : ∀ reply : call.Reply, (Event.replied call reply).buffer? = none ∨
      Moment.entry? ⟨.called call, w.process⟩ = none)
    {reply : call.Reply} {w' : World}
    (ran : Returns (outside.react foreign call) (w.after (.called call)) reply w') :
    TextsKept frames (w'.after (.replied call reply)) := by
  obtain ⟨seen, w₁, looked, ran⟩ := Returns.bind ran
  cases looked
  have kept' := (hf.conduct (outside _ call)).returns ran (kept.called call)
  refine kept'.replied ?_
  rcases elsewhere reply with none | none
  · exact Moment.returned?_of_no_buffer none _
  · rw [Moment.returned?, entryUnderway, kept'.frames]
    exact congrArg (Option.bind · _) none

/-- However deep calls are nested, they keep the texts. -/
theorem keepsTexts_answer (outside : Outside) (depth : Nat) :
    KeepsTexts (outside.answer depth) := by
  induction depth with
  | zero =>
    refine ⟨fun frames call w kept => ?_, fun ran => ?_⟩
    · refine (kept.called call).replied (Moment.returned?_of_no_buffer ?_ _)
      cases call <;> rfl
    · cases ran
      exact ⟨_, rfl⟩
  | succ depth hf =>
    refine ⟨fun frames call w kept => ?_, fun ran => ?_⟩
    · have conducted := Returns.intro (outside.conduct (outside.answer depth) call)
        (w.after (.called call))
      cases call with
      | managed purpose address signature cells =>
        obtain ⟨p, w₁, read, ran⟩ := Returns.bind (x := Action.process) conducted
        obtain ⟨rfl, rfl⟩ := Returns.process read
        split at ran
        · next id adapter entry =>
          have began := kept.called (.managed purpose address signature cells)
          exact hf.leaves began entry ran rfl fun _ _ => rfl
        · next none =>
          exact hf.reacts (.managed purpose address signature cells) kept (fun _ => .inr none) ran
      | _ => exact hf.reacts _ kept (fun _ => .inl rfl) conducted
    · cases ran
      exact ⟨_, rfl⟩

/-! ## All through every run -/

/-- What has happened up to some moment of a run, and the state of the process at that moment. -/
inductive World.Shows (w : World) : List Moment → Process → Prop
  | then {moment : Moment} {earlier : List Moment} (h : moment :: earlier <:+ w.history) :
      w.Shows (moment :: earlier) moment.process
  | now : w.Shows w.history w.process

/-- At every moment of every run, and at its end, the text that was returned last through an entry
is in the buffer to which a pointer was returned, and the buffer is that of the entry. Whoever
reads it gets the text, which the function of the entry had returned right before. -/
theorem returned_text_stays (outside : Outside) (depth : Nat) {ρ : Type} (program : Conduct ρ)
    (files : FileSystem) (directory : Place) {h : List Moment} {p : Process}
    (shown : (outside.leads depth program files directory).Shows h p) {id : AdapterId}
    {b : BufferId} {given : Option (Nat × String)} (last : lastText id h = some (b, given)) :
    ∃ name signature number types text,
      p.adapter? id = some ⟨name, signature, .supplied number types, some b⟩ ∧
      given = some (number, text) ∧ '\x00' ∉ text.toList ∧
      p.buffer? b = some (Text.Utf8.encode text) ∧
      ∀ label, (Cell.text (.buffer b)).toText p.buffer? label = .ok text := by
  have start : TextsKept [] { files, directory } := by
    refine ⟨textsHeld_start, fun moment earlier there => ?_, rfl⟩
    cases List.suffix_nil.mp there
  have kept : TextsKept [] (outside.leads depth program files directory) :=
    (keepsTexts_answer outside depth).conduct program _ start
  have held : TextsHeld h p := by
    cases shown with
    | «then» there => exact kept.before _ _ there
    | now => exact kept.now
  obtain ⟨name, signature, number, types, text, entry, same, noNul, content⟩ := held.held last
  refine ⟨name, signature, number, types, text, entry, same, noNul, content, fun label => ?_⟩
  refine Cell.toText_encode ?_ rfl noNul
  rw [Cell.pointee?, content]
  rfl

/-! ## A function that calls its own entry -/

/-- Code outside whose function returns its text, but first calls its own entry if the text is
`twice`, and returns a text with a NUL if it is `nul`. -/
def Outside.repeating : Outside := fun _ call =>
  match call with
  | .native _ ⟨.utf8String, [.utf8String]⟩ (text, ()) =>
    if text = "twice" then
      .perform (.enter (Adapter.address 0) [.text (.bytes (Text.Utf8.encode "once"))]) fun _ =>
        .reply (some text)
    else .reply (some (if text = "nul" then "\x00" else text))
  | call => .reply call.inertReply

/-- The function is called through its entry and once more for a text that cannot be returned, and
then another one takes its name and is called too. -/
def repetition : Conduct Unit := do
  let text : Signature := ⟨.utf8String, [.utf8String]⟩
  let say (id : AdapterId) (word : String) : Conduct Cell :=
    Conduct.doing (.enter (Adapter.address id) [.text (.bytes (Text.Utf8.encode word))])
  let _ ← Conduct.doing (.register (.alone 0) "say" text (.supplied 0 text))
  let _ ← say 0 "twice"
  let _ ← say 0 "nul"
  Conduct.doing (.clear (.alone 0))
  let _ ← Conduct.doing (.register (.alone 0) "say" text (.supplied 1 text))
  let _ ← say 1 "other"
  return ()

/-- The world after that. -/
def repeated : World := Outside.repeating.leads 2 repetition {} []

theorem repeated_text_stays :
    lastText 0 repeated.history = some (1, some (0, "twice")) ∧
      lastText 1 repeated.history = some (2, some (1, "other")) ∧
      repeated.process.buffer? 1 = some (Text.Utf8.encode "twice") := by
  have last : lastText 0 repeated.history = some (1, some (0, "twice")) := by decide +kernel
  obtain ⟨_, _, _, _, text, _, given, _, content, _⟩ :=
    returned_text_stays .repeating 2 repetition {} [] .now last
  cases given
  exact ⟨last, by decide +kernel, content⟩

end ManagedHost
