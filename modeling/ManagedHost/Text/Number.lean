/-!
Numbers in messages: status codes are shown as eight-digit-wide words in hexadecimal without
leading zeros, a negative one by its two's complement.
-/

namespace ManagedHost.Text

def statusCode (status : Int32) : String :=
  "0x" ++ String.ofList (Nat.toDigits 16 status.toUInt32.toNat)

/-- A word as exactly eight lower-case hexadecimal digits. -/
def hexWord (word : UInt32) : String :=
  let digits := Nat.toDigits 16 word.toNat
  String.ofList (List.replicate (8 - digits.length) '0' ++ digits)

end ManagedHost.Text
