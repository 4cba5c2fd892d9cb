import ManagedHost.Json.Records
import ManagedHost.StandIn.Routine

/-!
Managed methods to try a bridge with. They see what they are told, return values of every type,
texts that are empty, missing or no UTF-8 among them, and call bindings through the addresses that
the load method was told.
-/

namespace ManagedHost.StandIn

/-- A managed method to try a bridge with. -/
inductive Method where
  | onLoad
  | onLoadStop
  | onUnload
  | onUnloadStop
  | constant (which : Nat)
  | nullText
  /-- Returns bytes that are no UTF-8. -/
  | badText
  /-- Returns the cell that it is given. -/
  | identity (type : WireType)
  | addInt32 | textLength | note | mixSix | preConnect | postConnect
  /-- Kicks the player that just connected. -/
  | postKick
  | lengthViaNative | badViaNative | textViaNative
  | nothing
  | number (n : Nat)
deriving DecidableEq

namespace Method

def texts : List String := ["hello from managed", "héllo ☃ 𝄞", "", "hello from lib"]

def named : List (String × Method) :=
  [("on_load", onLoad), ("on_load_stop", onLoadStop), ("on_unload", onUnload),
    ("on_unload_stop", onUnloadStop), ("get_test_string", constant 0),
    ("get_unicode", constant 1), ("get_empty", constant 2), ("null_text", nullText),
    ("bad_text", badText), ("id_i8", identity .int8), ("id_u8", identity .uint8),
    ("id_i32", identity .int32), ("id_u32", identity .uint32), ("id_f32", identity .float32),
    ("id_ptr", identity .pointer), ("id_str", identity .utf8String), ("add_i32", addInt32),
    ("len_text", textLength), ("note", note), ("mix6", mixSix), ("pre_connect", preConnect),
    ("post_connect", postConnect), ("post_kick", postKick),
    ("len_via_native", lengthViaNative), ("bad_via_native", badViaNative),
    ("text_via_native", textViaNative)]

/-- The methods of the stand-in libraries, under their names. -/
def exported : List (String × Method) :=
  [("OnLoad", nothing), ("OnUnload", nothing), ("GetTestString", constant 3),
    ("OnPrePlayerConnect", number 2), ("OnPostPlayerConnect", number 1)]

def all : List Method := named.map (·.2) ++ exported.map (·.2)

def base : Address := 0x10000000

def address (method : Method) : Address := base + 16 * all.findIdx (· == method)

def ofAddress? (address : Address) : Option Method := all.find? (·.address == address)

/-- What the methods were told about the bindings. -/
def toldBindings (world : World) : List (String × Address) :=
  match world.notes.find? (·.topic == "bindings") with
  | some told => (Json.readAddresses told.text).toOption.getD []
  | none => []

/-- Calls a binding, if it is among those the methods were told about. -/
def callBinding (name : String) (cells : List Cell) : Conduct (Option Cell) := do
  match (← Conduct.seeing toldBindings).lookup name with
  | none => return none
  | some address => return some (← Conduct.doing (.enter address cells))

def see (text : String) : Conduct Unit := Conduct.doing (.note "seen" text)

def textAt (cells : List Cell) (n : Nat) : Conduct String := do
  let buffer ← Conduct.seeing fun world => world.process.buffer?
  return ((cells.getD n (.word 0)).toText buffer "").toOption.getD ""

def wordAt (cells : List Cell) (n : Nat) : UInt64 := (cells.getD n (.word 0)).bits

/-- A text of the method's own. -/
def ownText (text : String) : Cell := .text (.bytes (Text.Utf8.encode text))

def signed (n : Int32) : Cell := .word n.toInt64.toUInt64

/-- Calls the binding `stop` and sees what it returns. -/
def stop : Conduct Unit := do
  let shown ←
    match ← callBinding "stop" [] with
    | some cell => pure (toString cell.bits.toUInt32.toInt32.toInt)
    | none => pure "-1"
  see ("stop -> " ++ shown)

def keepBindings (cells : List Cell) : Conduct Unit := do
  let json ← textAt cells 0
  Conduct.doing (.note "bindings" json)
  see ("load " ++ json)

/-- What the connect handler thinks of an address. -/
def opinion (address : String) : Nat :=
  if address.startsWith "10." then 0
  else if address.startsWith "192." then 1
  else if address.startsWith "172." then 7
  else 2

def seePost (cells : List Cell) : Conduct UInt8 := do
  let seat := (wordAt cells 1).toUInt8
  see ("post " ++ (← textAt cells 0) ++ " " ++ toString seat.toNat)
  return seat

def run (cells : List Cell) : Method → Conduct Cell
  | onLoad => do
    keepBindings cells
    return .word 0
  | onLoadStop => do
    keepBindings cells
    stop
    return .word 0
  | onUnload => do
    see "unload"
    return .word 0
  | onUnloadStop => do
    see "unload"
    stop
    return .word 0
  | constant which => return ownText (texts.getD which "")
  | nullText => return .text .null
  | badText => return .text (.bytes [0x61, 0x62, 0xff, 0xfe])
  | identity _ => return cells.getD 0 (.word 0)
  | addInt32 =>
    return signed ((wordAt cells 0).toUInt32.toInt32 + (wordAt cells 1).toUInt32.toInt32)
  | textLength => return signed (Int32.ofNat (Routine.byteCount (← textAt cells 0)))
  | note => do
    see ("note " ++ (← textAt cells 0))
    return .word 0
  | mixSix =>
    return ownText (Routine.mixed (wordAt cells 0).toUInt8.toInt8 (wordAt cells 1).toUInt8
      (wordAt cells 2).toUInt32.toInt32 (wordAt cells 3).toUInt32 (wordAt cells 4).toUInt32
      (← textAt cells 5))
  | preConnect => do
    let address ← textAt cells 0
    see ("pre " ++ address)
    return .word (UInt64.ofNat (opinion address))
  | postConnect => return .word ((← seePost cells) % 4).toUInt64
  | postKick => do
    let seat ← seePost cells
    discard (callBinding "cplayer_kick_by_id" [.word seat.toUInt64])
    return .word 0
  | lengthViaNative =>
    return (← callBinding "text_len" [cells.getD 0 (.text .null)]).getD (signed (-1))
  | badViaNative =>
    return (← callBinding "text_len" [.text (.bytes [0x6f, 0x6b, 0xff])]).getD (signed (-1))
  | textViaNative =>
    return (← callBinding "echo_text" [cells.getD 0 (.text .null)]).getD (.text .null)
  | nothing => return .word 0
  | number n => return .word (UInt64.ofNat n)

end Method

end ManagedHost.StandIn
