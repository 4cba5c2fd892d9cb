/-!
Texts without addresses. Where the numbers in a text differ from run to run, they are replaced by a
word: hexadecimal numbers after certain words of the log, and the numbers of an address map.
-/

namespace ManagedHost.Text

def addressWord : List Char := ['A', 'D', 'D', 'R']

def isHexDigit (c : Char) : Bool := c.isDigit || ('a' ≤ c && c ≤ 'f')

/-- The words after which the log shows an address. -/
def addressMarks : List (List Char) := ["at ", "object ", "address: "].map String.toList

/-- The word that the characters start with, if an address follows it. -/
def addressMark? (cs : List Char) : Option (List Char) :=
  addressMarks.find? fun mark =>
    (mark ++ ['0', 'x']).isPrefixOf cs && ((cs.drop (mark.length + 2)).head?.any isHexDigit)

/-- Replaces the addresses of a log line. While a number is passed over, its digits are dropped. -/
def withoutAddresses : (inNumber : Bool) → (skip : Nat) → List Char → List Char
  | _, _, [] => []
  | inNumber, skip + 1, _ :: rest => withoutAddresses inNumber skip rest
  | inNumber, 0, c :: rest =>
    if inNumber && isHexDigit c then withoutAddresses true 0 rest
    else
      match addressMark? (c :: rest) with
      | some mark => mark ++ addressWord ++ withoutAddresses true (mark.length + 1) rest
      | none => c :: withoutAddresses false 0 rest

def redactLine (line : String) : String := String.ofList (withoutAddresses false 0 line.toList)

/-- Replaces the numbers after a quote and a colon. -/
def withoutNumbers : (inNumber : Bool) → List Char → List Char
  | _, [] => []
  | _, '"' :: ':' :: c :: rest =>
    if c.isDigit then '"' :: ':' :: (addressWord ++ withoutNumbers true rest)
    else '"' :: ':' :: withoutNumbers false (c :: rest)
  | inNumber, c :: rest =>
    if inNumber && c.isDigit then withoutNumbers true rest else c :: withoutNumbers false rest

def redactMap (text : String) : String := String.ofList (withoutNumbers false text.toList)

end ManagedHost.Text
