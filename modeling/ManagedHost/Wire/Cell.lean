import ManagedHost.Text.Utf8
import ManagedHost.Wire.Signature

/-!
Values as they cross the boundary. A number travels as a machine word, a signed one with its sign
extended and a float as its bits; text travels as a pointer to bytes. Reading takes from a word
only the bits that its type has. Text ends at the first zero byte, and a null pointer reads as the
empty text.
-/

namespace ManagedHost

/-- The number of a buffer in which a binding keeps a text that it returned. -/
abbrev BufferId := Nat

inductive TextPointer where
  | null
  /-- Bytes that last as long as the call. -/
  | bytes (content : List UInt8)
  | buffer (id : BufferId)
deriving DecidableEq

/-- One argument or result on its way across the boundary. -/
inductive Cell where
  | word (bits : UInt64)
  | text (pointer : TextPointer)
deriving DecidableEq

namespace Cell

/-- The cell in which a value travels. Text must not hold a NUL, and nothing travels as void. -/
def ofValue (name : String) : Value → Except BridgeError Cell
  | .int8 v => .ok (.word v.toInt64.toUInt64)
  | .uint8 v => .ok (.word v.toUInt64)
  | .int32 v => .ok (.word v.toInt64.toUInt64)
  | .uint32 v => .ok (.word v.toUInt64)
  | .float32 bits => .ok (.word bits.toUInt64)
  | .pointer v => .ok (.word v)
  | .text v =>
    if '\x00' ∈ v.toList then .error (.interiorNul name)
    else .ok (.text (.bytes (Text.Utf8.encode v)))
  | .void => .error (.voidParameter name)

def bits : Cell → UInt64
  | word bits => bits
  | text _ => 0

/-- The bytes that a cell points to, up to the first zero byte. Nothing can be read through a null
pointer or from a buffer that was given back. -/
def pointee? (buffer : BufferId → Option (List UInt8)) : Cell → Option (List UInt8)
  | text (.bytes content) => some (content.takeWhile (· ≠ 0))
  | text (.buffer id) => (buffer id).map fun content => content.takeWhile (· ≠ 0)
  | text (.null) => none
  | word _ => none

def toText (buffer : BufferId → Option (List UInt8)) (name : String) (cell : Cell) :
    Except BridgeError String :=
  match cell.pointee? buffer with
  | none => .ok ""
  | some content =>
    match Text.Utf8.decode content with
    | .ok decoded => .ok decoded
    | .error _ => .error (.invalidString name)

def toArgument (buffer : BufferId → Option (List UInt8)) (name : String) (cell : Cell) :
    WireType → Except BridgeError Value
  | .int8 => .ok (.int8 cell.bits.toUInt8.toInt8)
  | .uint8 => .ok (.uint8 cell.bits.toUInt8)
  | .int32 => .ok (.int32 cell.bits.toUInt32.toInt32)
  | .uint32 => .ok (.uint32 cell.bits.toUInt32)
  | .float32 => .ok (.float32 cell.bits.toUInt32)
  | .pointer => .ok (.pointer cell.bits)
  | .utf8String => (cell.toText buffer name).map .text
  | .void => .error (.voidParameter name)

def toResult (buffer : BufferId → Option (List UInt8)) (name : String) (type : WireType)
    (cell : Cell) : Except BridgeError Value :=
  match type with
  | .void => .ok .void
  | type => cell.toArgument buffer name type

/-- What a failed call leaves behind: zero, and a null pointer for text. -/
def ofFailure : WireType → Cell
  | .utf8String => .text .null
  | _ => .word 0

def ofValues (name : String) (values : List Value) : Except BridgeError (List Cell) :=
  values.mapM (ofValue name)

/-- The arguments that cells carry, one for each type. A missing cell reads as zero. -/
def toArguments (buffer : BufferId → Option (List UInt8)) (name : String) :
    List WireType → List Cell → Except BridgeError (List Value)
  | [], _ => .ok []
  | type :: types, cells => do
    let value ← (cells.headD (.word 0)).toArgument buffer name type
    let values ← toArguments buffer name types cells.tail
    return value :: values

end Cell

end ManagedHost
