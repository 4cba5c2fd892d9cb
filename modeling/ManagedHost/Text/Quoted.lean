import ManagedHost.Text.Printable

/-!
Text in double quotes, as messages show a name or an input: a quote, a backslash and the common
controls have short escapes, every other character that cannot be shown is written as its code
point in lower-case hexadecimal, and the rest stands as it is.
-/

namespace ManagedHost.Text

/-- A number in lower-case hexadecimal without leading zeros. -/
def hexDigits (n : Nat) : String := String.ofList (Nat.toDigits 16 n)

def quoteChar (c : Char) : String :=
  match c with
  | '\x00' => "\\0"
  | '\t' => "\\t"
  | '\r' => "\\r"
  | '\n' => "\\n"
  | '"' => "\\\""
  | '\\' => "\\\\"
  | c =>
    if isPrintable c then c.toString
    else "\\u\x7b" ++ hexDigits c.toNat ++ "\x7d"

/-- Text in double quotes with everything escaped that would not show. -/
def quoted (text : String) : String :=
  "\"" ++ String.join (text.toList.map quoteChar) ++ "\""

end ManagedHost.Text
