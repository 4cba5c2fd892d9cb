import ManagedHost.Proofs.Invariant

/-! # The numbers of imports

A bridge keeps the address of an import under the number of the import. No two imports of a bridge
that were declared have the same number, whatever else the bridge does and however often it is torn
down and loaded again (`Numbered`), so nobody gets the address of another import. -/

namespace ManagedHost

open ManagedHost.Action

/-- The import that an event is the declaration of. -/
def Event.declared? : Event → Option Import
  | .ended (.declare _ _ _ _ _) (.ok imported) => some imported
  | _ => none

/-- The imports that were declared, the last one first. -/
def declaredImports (h : List Moment) : List Import := h.filterMap (·.event.declared?)

/-- No import is called that was not declared before. -/
def callsDeclared : List Moment → Bool
  | [] => true
  | ⟨.began (.call imported _), _⟩ :: earlier =>
    (declaredImports earlier).contains imported && callsDeclared earlier
  | _ :: earlier => callsDeclared earlier

/-- No two imports of a bridge have the same number, and the next one is free. -/
structure Numbered (h : List Moment) (p : Process) : Prop where
  next : ∀ imported ∈ declaredImports h, imported.id < (p.bridge imported.bridge).nextImport
  distinct : ∀ first ∈ declaredImports h, ∀ second ∈ declaredImports h,
    first.bridge = second.bridge → first.id = second.id → first = second

/-- The operation declares an import. -/
def Operation.declares : Operation → Bool
  | declare _ _ _ _ _ => true
  | _ => false

/-- The process in which the next number for an import of a bridge has been used. -/
def Process.count (p : Process) (b : BridgeId) : Process :=
  p.updateBridge b fun bridge => { bridge with nextImport := bridge.nextImport + 1 }

section

variable {h h' : List Moment} {p p' : Process}

theorem mem_declaredImports_of_suffix {imported : Import} (member : imported ∈ declaredImports h)
    (suffix : h <:+ h') : imported ∈ declaredImports h' :=
  (suffix.filterMap _).subset member

theorem declared_of_began (declared : callsDeclared h = true) {imported : Import}
    {args : List Value} {q : Process} {earlier : List Moment}
    (suffix : ⟨.began (.call imported args), q⟩ :: earlier <:+ h) :
    imported ∈ declaredImports h := by
  induction h with
  | nil => cases List.suffix_nil.mp suffix
  | cons moment later ih =>
    have before : callsDeclared later = true := by
      obtain ⟨event, p⟩ := moment
      unfold callsDeclared at declared
      split at declared
      · next same => cases same
      · next same =>
        cases same
        exact (Bool.and_eq_true_iff.mp declared).2
      · next same =>
        cases same
        exact declared
    refine mem_declaredImports_of_suffix ?_ (List.suffix_cons moment later)
    rcases List.suffix_cons_iff.mp suffix with same | suffix
    · cases same
      exact List.contains_iff_mem.mp (Bool.and_eq_true_iff.mp declared).1
    · exact ih before suffix

/-- A declaration gives the next number away, and the import that it makes has it. -/
theorem Action.Returns.declare {b : BridgeId} {name : String} {target : ImportTarget}
    {signature : Signature} {typed : Option Signature} {w w' : World}
    {r : Except BridgeError Import}
    (h : Returns (Action.declare b name target signature typed) w r w') :
    ((∃ e, r = .error e) ∧ (w'.process = w.process ∨ w'.process = w.process.count b)) ∨
      r = .ok ⟨b, (w.process.bridge b).nextImport, name, target, signature⟩ ∧
        w'.process = w.process.count b := by
  unfold Action.declare at h
  cases valid : signature.validate name with
  | error e =>
    rw [valid] at h
    obtain ⟨rfl, rfl⟩ := Returns.pure h
    exact .inl ⟨⟨e, rfl⟩, .inl rfl⟩
  | ok u =>
    rw [valid] at h
    obtain ⟨found, w₁, hb, h⟩ := Returns.bind h
    obtain ⟨rfl, rfl⟩ := Returns.bridge hb
    obtain ⟨u, w₂, hu, h⟩ := Returns.bind h
    obtain ⟨u, w₃, hl, h⟩ := Returns.bind h
    have counted : w₃.process = w₁.process.count b :=
      hl.log.1.trans (congrArg World.process hu.updateBridge)
    cases typed with
    | none =>
      obtain ⟨rfl, rfl⟩ := Returns.pure h
      exact .inr ⟨rfl, counted⟩
    | some typed =>
      obtain ⟨rfl, rfl⟩ := Returns.pure h
      cases signature.checkTyped typed name with
      | error e => exact .inl ⟨⟨e, rfl⟩, .inr counted⟩
      | ok u => exact .inr ⟨rfl, counted⟩

theorem nextImport_count (p : Process) (b c : BridgeId) :
    (p.bridge c).nextImport ≤ ((p.count b).bridge c).nextImport := by
  by_cases same : c = b
  · rw [same, Process.count, Process.bridge_updateBridge_self]
    exact Nat.le_succ _
  · have kept := Process.bridge_updateBridge_of_ne p same
    exact Nat.le_of_eq (congrArg Bridge.nextImport (kept _).symm)

theorem Effect.nextImport {operation : Operation} (step : Effect operation p p')
    (other : operation.declares = false) (c : BridgeId) :
    (p'.bridge c).nextImport = (p.bridge c).nextImport := by
  cases step with
  | @bound _ _ holder _ _ _ _ added =>
    obtain ⟨adapters, registry, rfl⟩ := Process.register_ok added
    exact Process.view_setRegistry (·.nextImport) (fun _ _ => rfl) _ holder registry c
  | cleared _ holder =>
    exact Process.view_setRegistry (·.nextImport) (fun _ _ => rfl) _ holder [] c
  | kept | seated | heap => rfl
  | declared => cases other
  | resolved | objects => exact Process.view_updateBridge (·.nextImport) p rfl c

theorem HostingStep.nextImport (step : HostingStep p p') (c : BridgeId) :
    (p'.bridge c).nextImport = (p.bridge c).nextImport := by
  cases step with
  | claim | free | expect | expectNone | release => rfl
  | bringUp | tell | hook | takeDown => exact Process.view_updateBridge (·.nextImport) p rfl c
  | empty b =>
    have cleared : ((p.clearRegistry (.bridge b)).bridge c).nextImport =
        (p.bridge c).nextImport :=
      Process.view_setRegistry (·.nextImport) (fun _ _ => rfl) _ (.bridge b) [] c
    exact (Process.view_updateBridge (·.nextImport) _ rfl c).trans cleared

namespace Numbered

theorem mono (numbered : Numbered h p) (same : declaredImports h' = declaredImports h)
    (more : ∀ b, (p.bridge b).nextImport ≤ (p'.bridge b).nextImport) : Numbered h' p' := by
  constructor
  · rw [same]
    exact fun imported member => Nat.lt_of_lt_of_le (numbered.next imported member) (more _)
  · rw [same]
    exact numbered.distinct

theorem after (numbered : Numbered h p) (same : declaredImports h' = declaredImports h) :
    Numbered h' p := numbered.mono same fun _ => Nat.le_refl _

/-- An import that was just declared has a number that no other one has. -/
theorem declare (numbered : Numbered h p) {b : BridgeId} {name : String} {target : ImportTarget}
    {signature : Signature}
    (made : declaredImports h' =
      ⟨b, (p.bridge b).nextImport, name, target, signature⟩ :: declaredImports h) :
    Numbered h' (p.count b) := by
  have other : ∀ imported ∈ declaredImports h, imported.bridge = b →
      imported.id ≠ (p.bridge b).nextImport := by
    rintro imported member rfl
    exact Nat.ne_of_lt (numbered.next imported member)
  constructor
  · rw [made]
    intro imported member
    rcases List.mem_cons.mp member with rfl | member
    · rw [Process.count, Process.bridge_updateBridge_self]
      exact Nat.lt_succ_self _
    · exact Nat.lt_of_lt_of_le (numbered.next imported member) (nextImport_count p b _)
  · rw [made]
    intro first one second two bridge id
    rcases List.mem_cons.mp one with rfl | one <;> rcases List.mem_cons.mp two with rfl | two
    · rfl
    · exact absurd id.symm (other second two bridge.symm)
    · exact absurd id (other first one bridge)
    · exact numbered.distinct first one second two bridge id

/-- All through every run the numbers of imports are right. -/
theorem lasting : Lasting Operation.declares Numbered where
  silent operation declares := by
    cases operation with
    | declare => rfl
    | _ => cases declares
  called _ numbered := numbered.after rfl
  replied _ _ numbered := numbered.after rfl
  began _ numbered := numbered.after rfl
  ended {_ _ operation} result other numbered := by
    refine numbered.after ?_
    cases operation with
    | declare => cases other
    | _ => rfl
  effect other step numbered :=
    numbered.mono rfl fun b => Nat.le_of_eq (step.nextImport other b).symm
  host step numbered := numbered.mono rfl fun b => Nat.le_of_eq (step.nextImport b).symm
  atOnce {operation foreign result w w'} declares ran numbered := by
    cases operation with
    | declare b name target signature typed =>
      rcases Returns.declare ran with ⟨⟨e, rfl⟩, same | counted⟩ | ⟨rfl, counted⟩
      · rw [same]
        exact numbered.after rfl
      · rw [counted]
        exact numbered.mono rfl (nextImport_count _ b)
      · rw [counted]
        exact numbered.declare rfl
    | _ => cases declares

end Numbered

theorem World.Reached.numbered {w : World} (reached : w.Reached) :
    Numbered w.history w.process :=
  (reached.lasting ⟨nofun, nofun⟩ Numbered.lasting).now

end

end ManagedHost
