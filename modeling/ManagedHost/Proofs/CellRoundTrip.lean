import ManagedHost.Bridge.Inbound
import ManagedHost.Proofs.Utf8RoundTrip

/-! # Values survive their cells

A value that can be passed on travels in a cell, and reading the cell at the type of the value gives
the value back: an integer with its sign, a float with all its bits, a pointer, and any text without
a NUL (`toArgument_ofValue`). So an argument list that a signature accepts arrives whole
(`toArguments_ofValues`) and is the argument tuple of the function behind it
(`ofValues_accepted`). -/

namespace ManagedHost

/-- Whether a value can be passed on as it is. -/
def Value.isPassable : Value → Bool
  | .text content => ManagedHost.isPassable content
  | _ => true

theorem noNul_of_isPassable {text : String} (h : isPassable text = true) :
    '\x00' ∉ text.toList := by
  simpa [isPassable] using h

/-! ## Signatures and the arguments that they accept -/

namespace Signature

theorem firstMismatch_eq_none {expected actual : List WireType}
    (same : expected.length = actual.length) (h : firstMismatch expected actual = none) :
    expected = actual := by
  induction expected generalizing actual with
  | nil => exact (List.length_eq_zero_iff.mp same.symm).symm
  | cons e expected ih =>
    cases actual with
    | nil => simp at same
    | cons a actual =>
      rw [firstMismatch] at h
      split at h
      · next first => rw [first, ih (by simpa using same) h]
      · cases h

theorem params_of_checkArguments {signature : Signature} {name : String} {args : List Value}
    (h : signature.checkArguments name args = .ok ()) :
    args.map Value.wireType = signature.params := by
  unfold checkArguments at h
  split at h
  · cases h
  · next same =>
    cases mismatch : firstMismatch signature.params (args.map Value.wireType) with
    | some types =>
      rw [mismatch] at h
      cases h
    | none =>
      refine (firstMismatch_eq_none ?_ mismatch).symm
      simpa using (not_not.mp same).symm

/-- A signature is accepted for a function of exactly that signature, and for none that takes
void. -/
theorem eq_of_checkAgainst {declared actual : Signature} {name : String}
    (h : declared.checkAgainst actual name = .ok ()) :
    declared = actual ∧ .void ∉ declared.params := by
  unfold checkAgainst at h
  split at h
  · cases h
  · next noVoid =>
    split at h
    · cases h
    · next arity =>
      cases mismatch : firstMismatch declared.params actual.params with
      | some types =>
        rw [mismatch] at h
        cases h
      | none =>
        rw [mismatch] at h
        dsimp only at h
        split at h
        · cases h
        · next returns =>
          have params := firstMismatch_eq_none (not_not.mp arity) mismatch
          cases declared
          cases actual
          simp_all

end Signature

theorem toCarrier?_eq_some {type : WireType} {value : Value} (h : value.wireType = type) :
    ∃ v, Value.toCarrier? type value = some v ∧ Value.ofCarrier type v = value := by
  subst h
  cases value <;> exact ⟨_, rfl, rfl⟩

namespace Arguments

theorem takeEach_accepted {args : List Value} {types : List WireType} (name : String) (count : Nat)
    (h : args.map Value.wireType = types) :
    ∃ typed, takeEach name count types args = .ok typed ∧ toValues types typed = args := by
  induction types generalizing args count with
  | nil => exact ⟨(), rfl, (List.map_eq_nil_iff.mp h).symm⟩
  | cons type types ih =>
    cases args with
    | nil => cases h
    | cons value args =>
      obtain ⟨first, rest⟩ := List.cons.inj h
      obtain ⟨v, read, back⟩ := toCarrier?_eq_some first
      obtain ⟨typed, taken, whole⟩ := ih (count + 1) rest
      refine ⟨(v, typed), ?_, ?_⟩
      · simp [takeEach, Value.expect, read, taken, bind, Except.bind, pure, Except.pure]
      · rw [toValues, back, whole]

/-- Values of the right types are an argument tuple, which lists the same values. -/
theorem ofValues_accepted {args : List Value} {types : List WireType} (name : String)
    (h : args.map Value.wireType = types) :
    ∃ typed, ofValues name types args = .ok typed ∧ toValues types typed = args := by
  have same : args.length = types.length := by rw [← h, List.length_map]
  rw [ofValues, if_neg (not_not.mpr same)]
  exact takeEach_accepted name 0 h

end Arguments

namespace Cell

variable {buffer : BufferId → Option (List UInt8)} {name : String} {value : Value}

/-! ## One value -/

theorem int8_word (v : Int8) : v.toInt64.toUInt64.toUInt8.toInt8 = v := by
  have narrowed : v.toInt64.toUInt64.toUInt8.toInt8 = v.toInt64.toInt8 := by
    apply Int8.toBitVec_inj.mp
    exact (BitVec.signExtend_eq_setWidth_of_le _ (show 8 ≤ 64 by decide)).symm
  rw [narrowed, Int8.toInt8_toInt64]

theorem int32_word (v : Int32) : v.toInt64.toUInt64.toUInt32.toInt32 = v := by
  have narrowed : v.toInt64.toUInt64.toUInt32.toInt32 = v.toInt64.toInt32 := by
    apply Int32.toBitVec_inj.mp
    exact (BitVec.signExtend_eq_setWidth_of_le _ (show 32 ≤ 64 by decide)).symm
  rw [narrowed, Int32.toInt32_toInt64]

theorem toText_encode {text : String} {pointer : TextPointer} {content : List UInt8}
    (h : (Cell.text pointer).pointee? buffer = some (content.takeWhile (· ≠ 0)))
    (encoded : content = Text.Utf8.encode text) (noNul : '\x00' ∉ text.toList) :
    (Cell.text pointer).toText buffer name = .ok text := by
  rw [toText, h, encoded, Text.Utf8.takeWhile_encode noNul]
  simp only [Text.Utf8.decode_encode]

/-- A value that can be passed on is what is read from its cell. -/
theorem toArgument_ofValue (label : String) (passable : value.isPassable = true)
    (nonvoid : value.wireType ≠ .void) :
    ∃ cell, ofValue label value = .ok cell ∧
      ∀ buffer name, cell.toArgument buffer name value.wireType = .ok value := by
  cases value with
  | int8 v => exact ⟨_, rfl, fun _ _ => by simp [toArgument, bits, Value.wireType, int8_word]⟩
  | int32 v => exact ⟨_, rfl, fun _ _ => by simp [toArgument, bits, Value.wireType, int32_word]⟩
  | uint8 v | uint32 v | float32 v | pointer v =>
    exact ⟨_, rfl, fun _ _ => by simp [toArgument, bits, Value.wireType]⟩
  | text text =>
    have noNul := noNul_of_isPassable passable
    refine ⟨.text (.bytes (Text.Utf8.encode text)), if_neg noNul, fun buffer name => ?_⟩
    simp only [Value.wireType, toArgument]
    rw [toText_encode rfl rfl noNul]
    rfl
  | void => exact absurd rfl nonvoid

/-- A value that can be passed on is what a caller reads from its cell. -/
theorem toResult_ofValue (label : String) (passable : value.isPassable = true)
    (nonvoid : value.wireType ≠ .void) :
    ∃ cell, ofValue label value = .ok cell ∧
      ∀ buffer name, cell.toResult buffer name value.wireType = .ok value := by
  obtain ⟨cell, made, read⟩ := toArgument_ofValue label passable nonvoid
  refine ⟨cell, made, fun buffer name => ?_⟩
  cases value <;> first | exact read buffer name | exact absurd rfl nonvoid

/-- What a failed call leaves behind is read as zero. -/
theorem toResult_ofFailure (buffer : BufferId → Option (List UInt8)) (name : String)
    (type : WireType) : (ofFailure type).toResult buffer name type = .ok (Value.zero type) := by
  cases type <;> rfl

/-! ## All arguments of a call -/

theorem toArguments_ofValues (label : String) {args : List Value}
    (passable : ∀ value ∈ args, value.isPassable = true)
    (nonvoid : .void ∉ args.map Value.wireType) :
    ∃ cells, ofValues label args = .ok cells ∧
      ∀ buffer name, toArguments buffer name (args.map Value.wireType) cells = .ok args := by
  induction args with
  | nil => exact ⟨[], rfl, fun _ _ => rfl⟩
  | cons value args ih =>
    rw [List.map_cons, List.mem_cons, not_or] at nonvoid
    obtain ⟨cells, made, read⟩ := ih (fun v hv => passable v (List.mem_cons_of_mem _ hv)) nonvoid.2
    obtain ⟨cell, madeFirst, readFirst⟩ := toArgument_ofValue label
      (passable value List.mem_cons_self) (Ne.symm nonvoid.1)
    refine ⟨cell :: cells, ?_, fun buffer name => ?_⟩
    · have rest : args.mapM (ofValue label) = .ok cells := made
      simp [ofValues, madeFirst, rest, bind, Except.bind, pure, Except.pure]
    · simp [toArguments, readFirst, read, bind, Except.bind, pure, Except.pure]

/-- Some cell for a text points to bytes that are no text. -/
def Unreadable (buffer : BufferId → Option (List UInt8)) : List WireType → List Cell → Prop
  | [], _ => False
  | type :: types, cells =>
    (type = .utf8String ∧ ∃ content e, (cells.headD (.word 0)).pointee? buffer = some content ∧
      Text.Utf8.decode content = .error e) ∨ Unreadable buffer types cells.tail

theorem Unreadable.toArguments (name : String) {types : List WireType} {cells : List Cell}
    (h : Unreadable buffer types cells) : ∃ e, toArguments buffer name types cells = .error e := by
  induction types generalizing cells with
  | nil => exact h.elim
  | cons type types ih =>
    rw [Cell.toArguments]
    rcases h with ⟨rfl, content, e, points, bad⟩ | later
    · simp only [toArgument, toText, points, bad]
      exact ⟨_, rfl⟩
    · obtain ⟨e, failed⟩ := ih later
      cases (cells.headD (.word 0)).toArgument buffer name type with
      | error e => exact ⟨_, rfl⟩
      | ok value =>
        rw [failed]
        exact ⟨_, rfl⟩

end Cell

end ManagedHost
