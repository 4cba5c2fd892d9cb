import Mathlib.Data.UInt
import ManagedHost.Bridge.Typed
import ManagedHost.Proofs.ImportCalls
import ManagedHost.Proofs.TypedCalls

/-! # Calls of a typed import have the right types

Declaring an import for given types compares them with the declared ones, a call compares its
arguments with the declared types, the arguments are put into cells, the result is read from a cell
as the declared type and then taken as the given type. These five look at the types one after the
other, and they agree: a declaration is accepted exactly if the types are the same and can be
passed, and no call of an import that was declared so fails on account of types
(`typed_import_calls`). -/

namespace ManagedHost

open ManagedHost.Action

/-- The error says that types, or numbers of them, are not as declared. -/
def BridgeError.isAboutTypes : BridgeError → Bool
  | arityMismatch _ _ _ | argumentCount _ _ _ | typeMismatch _ _ _ | voidParameter _ => true
  | _ => false

/-! ## Declaring -/

namespace Signature

variable {declared types : Signature}

theorem checkTyped_miscounted (name : String) (count : declared.arity ≠ types.arity) :
    declared.checkTyped types name = .error (.arityMismatch name declared.arity types.arity) := by
  rw [checkTyped, if_pos count]

theorem checkTyped_mistyped (name : String) (count : declared.arity = types.arity)
    (differ : declared.params ≠ types.params) :
    ∃ same expected rest actual later, declared.params = same ++ expected :: rest ∧
      types.params = same ++ actual :: later ∧ actual ≠ expected ∧
      declared.checkTyped types name = .error (.typeMismatch name expected actual) := by
  rw [checkTyped, if_neg (not_not.mpr count)]
  cases mismatch : firstMismatch declared.params types.params with
  | none => exact absurd (firstMismatch_eq_none count mismatch) differ
  | some found =>
    obtain ⟨expected, actual⟩ := found
    obtain ⟨same, rest, later, left, right, other⟩ := firstMismatch_eq_some mismatch
    exact ⟨same, expected, rest, actual, later, left, right, other, rfl⟩

theorem checkTyped_misreturning (name : String) (params : declared.params = types.params)
    (differ : declared.returns ≠ types.returns) :
    declared.checkTyped types name =
      .error (.typeMismatch name declared.returns types.returns) := by
  have count : declared.arity = types.arity := congrArg List.length params
  rw [checkTyped, if_neg (not_not.mpr count), params, firstMismatch_self]
  exact if_pos differ

theorem eq_of_checkTyped {name : String} (h : declared.checkTyped types name = .ok ()) :
    declared = types := by
  by_cases count : declared.arity = types.arity
  case neg =>
    rw [checkTyped_miscounted name count] at h
    cases h
  by_cases params : declared.params = types.params
  case neg =>
    obtain ⟨_, _, _, _, _, -, -, -, refused⟩ := checkTyped_mistyped name count params
    rw [refused] at h
    cases h
  by_cases returns : declared.returns = types.returns
  case neg =>
    rw [checkTyped_misreturning name params returns] at h
    cases h
  cases declared
  cases types
  simp_all

theorem checkTyped_self (declared : Signature) (name : String) :
    declared.checkTyped declared name = .ok () := by
  rw [checkTyped, if_neg (not_not.mpr rfl), firstMismatch_self]
  exact if_neg (not_not.mpr rfl)

end Signature

/-- What comes of declaring an import for given types. Void parameters are refused first, then
another number of parameters, then the first parameter that differs, then another result. -/
structure DeclaresChecked (declared types : Signature) (name : String)
    (r : Except BridgeError (TypedImport types)) : Prop where
  accepted : (∃ imported, r = .ok imported) ↔ .void ∉ declared.params ∧ declared = types
  void : .void ∈ declared.params → r = .error (.voidParameter name)
  miscounted : .void ∉ declared.params → declared.arity ≠ types.arity →
    r = .error (.arityMismatch name declared.arity types.arity)
  mistyped : .void ∉ declared.params → declared.arity = types.arity →
    declared.params ≠ types.params →
    ∃ same expected rest actual later, declared.params = same ++ expected :: rest ∧
      types.params = same ++ actual :: later ∧ actual ≠ expected ∧
      r = .error (.typeMismatch name expected actual)
  misreturning : .void ∉ declared.params → declared.params = types.params →
    declared.returns ≠ types.returns →
    r = .error (.typeMismatch name declared.returns types.returns)

variable {foreign : Foreign} {types signature : Signature} {b : BridgeId} {name : String}
  {target : ImportTarget} {w w' : World}

/-- What a declaration comes to depends on the types alone, and the import that it makes has the
next number of the bridge. -/
theorem declareTyped_result (foreign : Foreign) (types : Signature) (b : BridgeId) (name : String)
    (target : ImportTarget) (signature : Signature) (w : World) :
    ((declareTyped foreign types b name target signature).run w).1 =
      (signature.validate name).bind fun () =>
        (signature.checkTyped types name).map fun () =>
          ⟨⟨b, (w.process.bridge b).nextImport, name, target, signature⟩⟩ := by
  cases valid : signature.validate name with
  | error e =>
    have refused : (declare b name target signature (some types)) = pure (.error e) := by
      rw [declare, valid]
    simp only [declareTyped, Operation.run, Operation.perform, refused]
    rfl
  | ok u =>
    have made : ((declare b name target signature (some types)).run
        (w.after (.began (.declare b name target signature (some types))))).1 =
          (signature.checkTyped types name).map fun () =>
            ⟨b, (w.process.bridge b).nextImport, name, target, signature⟩ := by
      rw [declare, valid]
      rfl
    change Except.map _ ((declare b name target signature (some types)).run
        (w.after (.began (.declare b name target signature (some types))))).1 = _
    rw [made]
    cases signature.checkTyped types name <;> rfl

theorem declares_checked (foreign : Foreign) (types : Signature) (b : BridgeId) (name : String)
    (target : ImportTarget) (signature : Signature) (w : World) :
    DeclaresChecked signature types name
      ((declareTyped foreign types b name target signature).run w).1 := by
  rw [declareTyped_result]
  by_cases void : .void ∈ signature.params
  · have refused : signature.validate name = .error (.voidParameter name) := if_pos void
    rw [refused]
    exact ⟨⟨nofun, fun h => absurd void h.1⟩, fun _ => rfl, fun h => absurd void h,
      fun h => absurd void h, fun h => absurd void h⟩
  · have valid : signature.validate name = .ok () := if_neg void
    rw [valid]
    have refused : ∀ {e}, signature.checkTyped types name = .error e →
        (Except.bind (.ok ()) fun () => (signature.checkTyped types name).map fun () =>
          (⟨⟨b, (w.process.bridge b).nextImport, name, target, signature⟩⟩ : TypedImport types)) =
          .error e := fun h => by rw [h]; rfl
    refine ⟨⟨fun ⟨imported, made⟩ => ⟨void, ?_⟩, ?_⟩, fun h => absurd h void, fun _ count => ?_,
      fun _ count differ => ?_, fun _ params differ => ?_⟩
    · cases checked : signature.checkTyped types name with
      | error e => cases made.symm.trans (refused checked)
      | ok u => exact Signature.eq_of_checkTyped checked
    · rintro ⟨-, rfl⟩
      rw [Signature.checkTyped_self]
      exact ⟨_, rfl⟩
    · exact refused (Signature.checkTyped_miscounted name count)
    · obtain ⟨same, expected, rest, actual, later, left, right, other, failed⟩ :=
        Signature.checkTyped_mistyped name count differ
      exact ⟨same, expected, rest, actual, later, left, right, other, refused failed⟩
    · exact refused (Signature.checkTyped_misreturning name params differ)

/-! ## Calling -/

namespace Arguments

@[simp] theorem wireType_toValues (types : List WireType) (args : Arguments types) :
    (toValues types args).map Value.wireType = types := by
  induction types with
  | nil => rfl
  | cons type types ih => rw [toValues, List.map_cons, Value.wireType_ofCarrier, ih]

end Arguments

theorem Value.expect_ofCarrier (type : WireType) (v : type.Carrier) (name : String) :
    (Value.ofCarrier type v).expect type name = .ok v := by
  rw [Value.expect, Value.toCarrier?_ofCarrier]

namespace Cell

variable {buffer : BufferId → Option (List UInt8)} {type : WireType} {cell : Cell}

theorem ofValue_error {value : Value} {e : BridgeError} (nonvoid : value.wireType ≠ .void)
    (h : ofValue name value = .error e) :
    e = .interiorNul name ∧ ∃ text, value = .text text ∧ '\x00' ∈ text.toList := by
  cases value with
  | void => exact absurd rfl nonvoid
  | text text =>
    rw [ofValue] at h
    split at h
    · next nul =>
      cases h
      exact ⟨rfl, text, rfl, nul⟩
    · cases h
  | _ => cases h

/-- Of arguments that are not void only a text with a NUL cannot be put into a cell. -/
theorem ofValues_error {args : List Value} {e : BridgeError}
    (nonvoid : .void ∉ args.map Value.wireType) (h : ofValues name args = .error e) :
    e = .interiorNul name ∧ ∃ text, .text text ∈ args ∧ '\x00' ∈ text.toList := by
  induction args with
  | nil => cases h
  | cons value args ih =>
    rw [List.map_cons, List.mem_cons, not_or] at nonvoid
    rw [ofValues, List.mapM_cons] at h
    cases first : ofValue name value with
    | error bad =>
      obtain ⟨rfl, text, rfl, nul⟩ := ofValue_error (Ne.symm nonvoid.1) first
      rw [first] at h
      cases h
      exact ⟨rfl, text, List.mem_cons_self, nul⟩
    | ok cell =>
      cases rest : args.mapM (ofValue name) with
      | error bad =>
        rw [first, rest] at h
        cases h
        obtain ⟨rfl, text, later, nul⟩ := ih nonvoid.2 rest
        exact ⟨rfl, text, List.mem_cons_of_mem _ later, nul⟩
      | ok cells =>
        rw [first, rest] at h
        cases h

theorem wireType_toResult {value : Value} (h : cell.toResult buffer name type = .ok value) :
    value.wireType = type := by
  cases type with
  | void =>
    cases h
    rfl
  | _ => exact @wireType_toArgument buffer name _ _ _ h

/-- Only a text can fail to be read from the cell of a result. -/
theorem toResult_error {e : BridgeError} (h : cell.toResult buffer name type = .error e) :
    e = .invalidString name ∧ type = .utf8String ∧ ∃ content bad,
      cell.pointee? buffer = some content ∧ Text.Utf8.decode content = .error bad := by
  cases type with
  | void => cases h
  | _ => exact toArgument_error nofun h

end Cell

/-- The ways through a call of an import with a tuple of its types. -/
inductive CallsTyped (foreign : Foreign) (imported : Import) {types : Signature}
    (args : Arguments types.params) (w : World) :
    Except BridgeError types.returns.Carrier → World → Prop
  /-- The method was called with the whole tuple, and what its reply carries is the result. -/
  | returned {address : Address} {cells : List Cell} {cell : Cell} {result : types.returns.Carrier}
      {w₁ w' : World} (named : ResolvesImport foreign imported w (.ok address) w₁)
      (passed : Cell.ofValues imported.name (args.toValues types.params) = .ok cells)
      (call : Returns (foreign (.managed (.imported imported.bridge imported.id) address types
        cells)) w₁ cell w')
      (read : cell.toResult w'.process.buffer? imported.name types.returns =
        .ok (Value.ofCarrier types.returns result)) :
      CallsTyped foreign imported args w (.ok result) w'
  | hostless (host : (w.process.bridge imported.bridge).host = none) :
      CallsTyped foreign imported args w (.error .hostNotLoaded) w
  /-- The runtime cannot be asked, for a name holds a NUL. -/
  | unasked {live : LiveHost} (host : (w.process.bridge imported.bridge).host = some live)
      (nul : '\x00' ∈ (imported.target.assembly.getD live.defaultAssembly).toList ∨
        '\x00' ∈ imported.target.typeName.toList ∨ '\x00' ∈ imported.target.method.toList) :
      CallsTyped foreign imported args w (.error (.interiorNul imported.target.display)) w
  /-- The runtime refuses the method, or hands out nothing for it. -/
  | refused {live : LiveHost} {reply : Except Int32 Address} {w₁ w' : World}
      (host : (w.process.bridge imported.bridge).host = some live)
      (asked : Returns (foreign (.createDelegate live.host live.started
        (imported.target.assembly.getD live.defaultAssembly) imported.target.typeName
        imported.target.method)) w reply w₁)
      (useless : ∀ address, reply = .ok address → address = 0) (alike : Alike w₁ w') :
      CallsTyped foreign imported args w
        (.error (refusal imported.target.typeName imported.target.method reply)) w'
  /-- A text among the arguments holds a NUL. -/
  | stuck {address : Address} {text : String} {w' : World}
      (named : ResolvesImport foreign imported w (.ok address) w')
      (argument : .text text ∈ args.toValues types.params) (nul : '\x00' ∈ text.toList) :
      CallsTyped foreign imported args w (.error (.interiorNul imported.name)) w'
  /-- The method was called, and returned a text that is none. -/
  | unreadable {address : Address} {cells : List Cell} {cell : Cell} {content : List UInt8}
      {bad : Text.Utf8.Fault} {w₁ w' : World}
      (named : ResolvesImport foreign imported w (.ok address) w₁)
      (passed : Cell.ofValues imported.name (args.toValues types.params) = .ok cells)
      (call : Returns (foreign (.managed (.imported imported.bridge imported.id) address types
        cells)) w₁ cell w')
      (text : types.returns = .utf8String) (points : cell.pointee? w'.process.buffer? = some content)
      (undecodable : Text.Utf8.decode content = .error bad) :
      CallsTyped foreign imported args w (.error (.invalidString imported.name)) w'

/-- A call with a tuple of the declared types passes every look at the types. -/
theorem Action.CallsImport.typed {imported : Import} {args : Arguments types.params}
    {r : Except BridgeError Value}
    (h : CallsImport foreign imported (args.toValues types.params) w r w')
    (same : imported.signature = types) (nonvoid : .void ∉ types.params) :
    CallsTyped foreign imported args w
      (r.bind fun value => value.expect types.returns imported.name) w' := by
  subst same
  have fits := Arguments.wireType_toValues imported.signature.params args
  cases h with
  | refused mismatch =>
    rw [Signature.checkArguments_fitting imported.name fits] at mismatch
    cases mismatch
  | unresolved accepted missing =>
    cases missing with
    | missed uncached missing =>
      cases missing with
      | hostless host => exact .hostless host
      | unasked host unaskable => exact .unasked host (nul_of_unaskable unaskable)
      | refused host asked useless alike => exact .refused host asked useless alike
  | stuck accepted named unpassable =>
    obtain ⟨rfl, text, argument, nul⟩ := Cell.ofValues_error (by rwa [fits]) unpassable
    exact .stuck named argument nul
  | @called address cells cell _ _ accepted named passed call =>
    cases read : cell.toResult w'.process.buffer? imported.name imported.signature.returns with
    | error e =>
      obtain ⟨rfl, text, content, bad, points, undecodable⟩ := Cell.toResult_error read
      exact .unreadable named passed call text points undecodable
    | ok value =>
      obtain ⟨result, -, rfl⟩ := toCarrier?_eq_some (Cell.wireType_toResult read)
      change CallsTyped foreign imported args w
        ((Value.ofCarrier _ result).expect imported.signature.returns imported.name) w'
      rw [Value.expect_ofCarrier]
      exact .returned named passed call read

theorem CallsTyped.not_isAboutTypes {imported : Import} {args : Arguments types.params}
    {e : BridgeError} (h : CallsTyped foreign imported args w (.error e) w') :
    e.isAboutTypes = false := by
  cases h with
  | @refused _ reply => cases reply <;> rfl
  | _ => rfl

/-- An import is declared for given types exactly if these are the declared ones and can be passed.
From then on, in every world, a call of it with a tuple of its types ends with what the method
returned, or because the method could not be found or a text could not be passed on. -/
theorem typed_import_calls (foreign : Foreign) (types : Signature) (b : BridgeId) (name : String)
    (target : ImportTarget) (signature : Signature) (w : World) :
    DeclaresChecked signature types name
        ((declareTyped foreign types b name target signature).run w).1 ∧
      ∀ imported w₁,
        Returns (declareTyped foreign types b name target signature) w (.ok imported) w₁ →
        imported.untyped = ⟨b, (w.process.bridge b).nextImport, name, target, types⟩ ∧
        ∀ (below : Foreign) (args : Arguments types.params) (v : World),
          let operation := Operation.call imported.untyped (args.toValues types.params)
          ∃ r reported v', CallsTyped below imported.untyped args (v.after (.began operation)) r v' ∧
            Returns (callTyped below imported args) v r (v'.after (.ended operation reported)) ∧
            ∀ e, r = .error e → e.isAboutTypes = false := by
  have checked := declares_checked foreign types b name target signature w
  refine ⟨checked, fun imported w₁ made => ?_⟩
  have result : ((declareTyped foreign types b name target signature).run w).1 = .ok imported :=
    congrArg Prod.fst made
  obtain ⟨nonvoid, rfl⟩ := checked.accepted.mp ⟨imported, result⟩
  rw [declareTyped_result, show signature.validate name = .ok () from if_neg nonvoid,
    Signature.checkTyped_self] at result
  cases result
  refine ⟨rfl, fun below args v => ?_⟩
  obtain ⟨reported, v', performed, ran⟩ := Operation.run_eq
    (.call ⟨b, (w.process.bridge b).nextImport, name, target, signature⟩
      (args.toValues signature.params)) below v
  have typed := (Returns.callsImport performed).typed rfl nonvoid
  refine ⟨_, reported, v', typed, ?_, fun e failed => (failed ▸ typed).not_isAboutTypes⟩
  refine Returns.then ran ?_
  cases reported <;> rfl

/-! ## An import that adds -/

/-- Code outside whose only method adds its arguments. -/
def Outside.adding : Outside := fun _ call =>
  match call with
  | .createDelegate _ _ _ _ _ => .reply (.ok 8)
  | .managed (.imported _ _) _ _ cells => .reply (.word ((cells.map Cell.bits).sum))
  | call => .reply call.inertReply

/-- The import of its method. -/
def addition : TypedImport ⟨.int32, [.int32, .int32]⟩ :=
  ⟨⟨0, 1, "add", ⟨none, "Calculator", "Add"⟩, ⟨.int32, [.int32, .int32]⟩⟩⟩

/-- A world in which its bridge has a runtime. -/
def calculating : World :=
  { process := ({} : Process).bringUp 0 ⟨"host", ⟨1, 1⟩, "Calculator", "/net", none⟩ }

theorem addition_calls :
    Returns (declareTyped (Outside.adding.answer 1) ⟨.int32, [.int32, .int32]⟩ 0 "add"
        ⟨none, "Calculator", "Add"⟩ ⟨.int32, [.int32, .int32]⟩) {} (.ok addition)
        ((declareTyped (Outside.adding.answer 1) ⟨.int32, [.int32, .int32]⟩ 0 "add"
          ⟨none, "Calculator", "Add"⟩ ⟨.int32, [.int32, .int32]⟩).run {}).2 ∧
      ∃ r reported v', CallsTyped (Outside.adding.answer 1) addition.untyped (2, -7, ())
          (calculating.after (.began (.call addition.untyped [.int32 2, .int32 (-7)]))) r v' ∧
        Returns (callTyped (Outside.adding.answer 1) addition (2, -7, ())) calculating r
          (v'.after (.ended (.call addition.untyped [.int32 2, .int32 (-7)]) reported)) ∧
        r = .ok (-5) := by
  have declared : Returns (declareTyped (Outside.adding.answer 1) ⟨.int32, [.int32, .int32]⟩ 0 "add"
      ⟨none, "Calculator", "Add"⟩ ⟨.int32, [.int32, .int32]⟩) {} (.ok addition)
      ((declareTyped (Outside.adding.answer 1) ⟨.int32, [.int32, .int32]⟩ 0 "add"
        ⟨none, "Calculator", "Add"⟩ ⟨.int32, [.int32, .int32]⟩).run {}).2 := rfl
  obtain ⟨-, calls⟩ := (typed_import_calls _ _ _ _ _ _ _).2 addition _ declared
  obtain ⟨r, reported, v', typed, called, -⟩ :=
    calls (Outside.adding.answer 1) (2, -7, ()) calculating
  refine ⟨declared, r, reported, v', typed, called, ?_⟩
  have sum : ((callTyped (Outside.adding.answer 1) addition (2, -7, ())).run calculating).1 =
      .ok (-5) := by decide +kernel
  rw [← sum, called]

end ManagedHost
