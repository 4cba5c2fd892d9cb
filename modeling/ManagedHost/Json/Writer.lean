import ManagedHost.Text.Quoted

/-!
Writing compact JSON: no spaces, a string in double quotes with short escapes where there are any
and four hexadecimal digits for the other controls.
-/

namespace ManagedHost.Json

/-- A control character by its number, four lower-case hexadecimal digits wide. -/
def controlEscape (c : Char) : List Char :=
  let digits := Nat.toDigits 16 c.toNat
  ['\\', 'u'] ++ List.replicate (4 - digits.length) '0' ++ digits

def writeChar (c : Char) : List Char :=
  match c with
  | '"' => ['\\', '"']
  | '\\' => ['\\', '\\']
  | '\n' => ['\\', 'n']
  | '\r' => ['\\', 'r']
  | '\t' => ['\\', 't']
  | c =>
    if c.toNat = 8 then ['\\', 'b']
    else if c.toNat = 12 then ['\\', 'f']
    else if c.toNat < 0x20 then controlEscape c
    else [c]

def writeString (text : String) : String :=
  String.ofList ('"' :: text.toList.flatMap writeChar ++ ['"'])

/-- A list of values that are written already. -/
def writeList (values : List String) : String := "[" ++ ",".intercalate values ++ "]"

/-- An object of values that are written already, its members in the given order. -/
def writeObject (fields : List (String × String)) : String :=
  "\x7b" ++ ",".intercalate (fields.map fun (key, value) => writeString key ++ ":" ++ value) ++
    "\x7d"

end ManagedHost.Json
