import ManagedHost.Bridge.Outside
import ManagedHost.Text.Number

/-!
Native functions to try a bridge with. Between them they take and return every type that may cross
the boundary; some panic, one keeps what it is told, and two turn to the bridge that they are bound
to. Integers wrap.
-/

namespace ManagedHost.StandIn

/-- A native function to try a bridge with. -/
inductive Routine where
  | unit | seven | motd | nulText | echoText | textLength | byteLength | greet
  | negateInt8 | incrementUInt8 | addInt32 | addUInt32 | halveFloat | addFloat | addPointer
  | joinThree | pickOne | sumFive | mixSix
  | sink
  | panicInt32 | panicFloat
  | stop (b : BridgeId)
  /-- Binds one more function. -/
  | late (b : BridgeId)
deriving DecidableEq

namespace Routine

/-- The routines that do not turn to a bridge, under their names. -/
def plain : List (String × Routine) :=
  [("unit", unit), ("seven", seven), ("motd", motd), ("nul_text", nulText),
    ("echo_text", echoText), ("text_len", textLength), ("byte_len", byteLength), ("greet", greet),
    ("neg_i8", negateInt8), ("inc_u8", incrementUInt8), ("add_i32", addInt32),
    ("add_u32", addUInt32), ("half_f32", halveFloat), ("add_f32", addFloat),
    ("add_ptr", addPointer), ("join3", joinThree), ("pick4", pickOne), ("sum5", sumFive),
    ("mix6", mixSix), ("sink", sink), ("boom", panicInt32), ("boom_f32", panicFloat)]

def ofName? (b : BridgeId) (name : String) : Option Routine :=
  if name = "stop" then some (stop b)
  else if name = "late" then some (late b)
  else plain.lookup name

def number : Routine → Nat
  | stop b => 2 * plain.length + 2 * b
  | late b => 2 * plain.length + 2 * b + 1
  | routine => plain.findIdx (·.2 == routine)

def ofNumber (n : Nat) : Routine :=
  if n < 2 * plain.length then (plain.map (·.2)).getD n unit
  else
    let rest := n - 2 * plain.length
    if rest % 2 = 0 then stop (rest / 2) else late (rest / 2)

def bridge? : Routine → Option BridgeId
  | stop b | late b => some b
  | _ => none

@[reducible] def signature : Routine → Signature
  | unit => ⟨.void, []⟩
  | seven => ⟨.int32, []⟩
  | motd => ⟨.utf8String, []⟩
  | nulText => ⟨.utf8String, []⟩
  | echoText => ⟨.utf8String, [.utf8String]⟩
  | textLength => ⟨.int32, [.utf8String]⟩
  | byteLength => ⟨.uint32, [.utf8String]⟩
  | greet => ⟨.utf8String, [.uint8]⟩
  | negateInt8 => ⟨.int8, [.int8]⟩
  | incrementUInt8 => ⟨.uint8, [.uint8]⟩
  | addInt32 => ⟨.int32, [.int32, .int32]⟩
  | addUInt32 => ⟨.uint32, [.uint32, .uint32]⟩
  | halveFloat => ⟨.float32, [.float32]⟩
  | addFloat => ⟨.float32, [.float32, .float32]⟩
  | addPointer => ⟨.pointer, [.pointer, .pointer]⟩
  | joinThree => ⟨.utf8String, [.utf8String, .utf8String, .utf8String]⟩
  | pickOne => ⟨.int32, [.uint8, .int32, .int32, .utf8String]⟩
  | sumFive => ⟨.pointer, [.int8, .uint8, .int32, .uint32, .pointer]⟩
  | mixSix => ⟨.utf8String, [.int8, .uint8, .int32, .uint32, .float32, .utf8String]⟩
  | sink => ⟨.void, [.utf8String]⟩
  | panicInt32 => ⟨.int32, [.int32]⟩
  | panicFloat => ⟨.float32, [.float32]⟩
  | stop _ => ⟨.int32, []⟩
  | late _ => ⟨.int32, []⟩

def byteCount (text : String) : Nat := (Text.Utf8.encode text).length

def mixed (a : Int8) (b : UInt8) (c : Int32) (d bits : UInt32) (text : String) : String :=
  "/".intercalate [toString a.toInt, toString b.toNat, toString c.toInt, toString d.toNat,
    Text.hexWord bits, text]

/-- The function that a routine is when it is bound. -/
def toFunction (routine : Routine) : NativeFunction := .supplied routine.number routine.signature

def run : (routine : Routine) → Arguments routine.signature.params →
    Conduct (Option routine.signature.returns.Carrier)
  | unit, () => return some ()
  | seven, () => return some 7
  | motd, () => return some "welcome"
  | nulText, () => return some "a\x00b"
  | echoText, (text, ()) => return some text
  | textLength, (text, ()) => return some (Int32.ofNat text.length)
  | byteLength, (text, ()) => return some (UInt32.ofNat (byteCount text))
  | greet, (n, ()) => return some ("player " ++ toString n.toNat)
  | negateInt8, (n, ()) => return some (-n)
  | incrementUInt8, (n, ()) => return some (n + 1)
  | addInt32, (a, b, ()) => return some (a + b)
  | addUInt32, (a, b, ()) => return some (a + b)
  | halveFloat, (a, ()) => return some (Float32.ofBits a * 0.5).toBits
  | addFloat, (a, b, ()) => return some (Float32.ofBits a + Float32.ofBits b).toBits
  | addPointer, (a, b, ()) => return some (a + b)
  | joinThree, (a, b, c, ()) => return some ("|".intercalate [a, b, c])
  | pickOne, (which, a, b, text, ()) =>
    return some (if which = 0 then a else if which = 1 then b else Int32.ofNat (byteCount text))
  | sumFive, (a, b, c, d, e, ()) =>
    return some (a.toInt64.toUInt64 + b.toUInt64 + c.toInt64.toUInt64 + d.toUInt64 + e)
  | mixSix, (a, b, c, d, bits, text, ()) => return some (mixed a b c d bits text)
  | sink, (text, ()) => do
    Conduct.doing (.note "sink" text)
    return some ()
  | panicInt32, _ => return none
  | panicFloat, _ => return none
  | stop b, () => return some (if ← Conduct.doing (.teardown b) then 1 else 0)
  | late b, () => do
    match ← Conduct.doing (.register (.bridge b) "late" ⟨.void, []⟩ unit.toFunction) with
    | .ok _ => return some 1
    | .error _ => return some 0

/-- The conduct of the function of a number that was bound with the given types. -/
def conduct (n : Nat) (signature : Signature) (args : Arguments signature.params) :
    Conduct (Option signature.returns.Carrier) :=
  if h : (ofNumber n).signature = signature then h ▸ (ofNumber n).run (h ▸ args)
  else return none

end Routine

end ManagedHost.StandIn
