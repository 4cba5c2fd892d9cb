/-!
What may cross the boundary between native and managed code: a closed set of types, and values
that carry the type they are of. The values of a type form a Lean type, `WireType.Carrier`, so a
function over the wire can be given its true argument and result types.
-/

namespace ManagedHost

inductive WireType where
  | int8 | uint8 | int32 | uint32 | float32
  | pointer
  /-- Text, passed as a pointer to bytes that end in a zero byte. -/
  | utf8String
  /-- No value; a function may return it but not take it. -/
  | void
deriving DecidableEq, Repr

namespace WireType

def name : WireType → String
  | int8 => "Int8"
  | uint8 => "UInt8"
  | int32 => "Int32"
  | uint32 => "UInt32"
  | float32 => "Float32"
  | pointer => "Pointer"
  | utf8String => "Utf8String"
  | void => "Void"

def all : List WireType := [int8, uint8, int32, uint32, float32, pointer, utf8String, void]

def ofName? (text : String) : Option WireType := all.find? (·.name == text)

/-- The values of a type. A float is given by its bits, so that every float, the different NaNs
included, is one value. -/
abbrev Carrier : WireType → Type
  | int8 => Int8
  | uint8 => UInt8
  | int32 => Int32
  | uint32 => UInt32
  | float32 => UInt32
  | pointer => UInt64
  | utf8String => String
  | void => Unit

end WireType

inductive Value where
  | int8 (v : Int8)
  | uint8 (v : UInt8)
  | int32 (v : Int32)
  | uint32 (v : UInt32)
  | float32 (bits : UInt32)
  | pointer (v : UInt64)
  | text (v : String)
  | void
deriving DecidableEq, Repr

namespace Value

def wireType : Value → WireType
  | int8 _ => .int8
  | uint8 _ => .uint8
  | int32 _ => .int32
  | uint32 _ => .uint32
  | float32 _ => .float32
  | pointer _ => .pointer
  | text _ => .utf8String
  | void => .void

def ofCarrier : (type : WireType) → type.Carrier → Value
  | .int8, v => int8 v
  | .uint8, v => uint8 v
  | .int32, v => int32 v
  | .uint32, v => uint32 v
  | .float32, v => float32 v
  | .pointer, v => pointer v
  | .utf8String, v => text v
  | .void, () => void

def toCarrier? : (type : WireType) → Value → Option type.Carrier
  | .int8, int8 v => some v
  | .uint8, uint8 v => some v
  | .int32, int32 v => some v
  | .uint32, uint32 v => some v
  | .float32, float32 v => some v
  | .pointer, pointer v => some v
  | .utf8String, text v => some v
  | .void, void => some ()
  | _, _ => none

/-- What stands for a value of a type after a failed call: zero, or nothing. -/
def zero : WireType → Value
  | .int8 => int8 0
  | .uint8 => uint8 0
  | .int32 => int32 0
  | .uint32 => uint32 0
  | .float32 => float32 0
  | .pointer => pointer 0
  | .utf8String => text ""
  | .void => void

@[simp] theorem wireType_ofCarrier (type : WireType) (v : type.Carrier) :
    (ofCarrier type v).wireType = type := by
  cases type <;> rfl

@[simp] theorem toCarrier?_ofCarrier (type : WireType) (v : type.Carrier) :
    toCarrier? type (ofCarrier type v) = some v := by
  cases type <;> rfl

end Value

end ManagedHost
