import ManagedHost.Decimal.Double
import ManagedHost.Text.Blank
import ManagedHost.Toml.Value

/-!
Reading TOML. A document is a sequence of lines, each empty, a comment, a header or a key with a
value. Values are read by what they start with; a text that is no TOML document gives nothing.
-/

namespace ManagedHost.Toml

abbrev Reader := StateT (List Char) Option

namespace Reader

def fail {α : Type} : Reader α := fun _ => none

/-- The next character, which stays. -/
def peek : Reader (Option Char) := fun cs => some (cs.head?, cs)

def advance : Reader Unit := fun cs => some ((), cs.tail)

def char (expected : Char) : Reader Unit := fun cs =>
  match cs with
  | c :: rest => if c = expected then some ((), rest) else none
  | [] => none

/-- Consumes the given characters if they are next, and tells whether they were. -/
def accept (expected : List Char) : Reader Bool := fun cs =>
  if expected.isPrefixOf cs then some (true, cs.drop expected.length) else some (false, cs)

def takeWhile (p : Char → Bool) : Reader (List Char) := fun cs =>
  some (cs.takeWhile p, cs.dropWhile p)

/-- Reads what can be read, or nothing at all. -/
def optional {α : Type} (read : Reader α) : Reader (Option α) := fun cs =>
  match read cs with
  | some (a, rest) => some (some a, rest)
  | none => some (none, cs)

/-- Reads with the first reader that does not give up. -/
def firstOf {α : Type} : List (Reader α) → Reader α
  | [] => fail
  | read :: rest => fun cs => (read cs).or (firstOf rest cs)

def isSpace (c : Char) : Bool := c == ' ' || c == '\t'

def spaces : Reader Unit := do discard (takeWhile isSpace)

/-- A character that may stand in a comment or in text: a tab or anything that is no control. -/
def isPlain (c : Char) : Bool := c == '\t' || (0x20 ≤ c.toNat && c.toNat ≠ 0x7f)

def newline : Reader Unit := fun cs =>
  match cs with
  | '\n' :: rest => some ((), rest)
  | '\r' :: '\n' :: rest => some ((), rest)
  | _ => none

def comment : Reader Unit := do
  if (← peek) == some '#' then discard (takeWhile isPlain)

/-- What may follow on the line of a header or a value. -/
def lineEnd : Reader Unit := do
  spaces
  comment
  if (← get).isEmpty then return () else newline

/-- Spaces, comments and ends of lines, as lists may hold between their items. -/
def gap : (rounds : Nat) → Reader Unit
  | 0 => pure ()
  | rounds + 1 => do
    spaces
    match ← peek with
    | some '#' =>
      comment
      newline
      gap rounds
    | some '\n' | some '\r' =>
      newline
      gap rounds
    | _ => return ()

def listGap : Reader Unit := do gap ((← get).length + 1)

def hexValue? (c : Char) : Option Nat :=
  let n := c.toNat
  if Text.isDigit c then some (n - '0'.toNat)
  else if 'a' ≤ c && c ≤ 'f' then some (n - 'a'.toNat + 10)
  else if 'A' ≤ c && c ≤ 'F' then some (n - 'A'.toNat + 10)
  else none

/-- The character with the number given by a fixed count of hexadecimal digits. -/
def numberedChar (count : Nat) : Reader Char := fun cs =>
  match (cs.take count).mapM hexValue? with
  | none => none
  | some digits =>
    let n := digits.foldl (fun n d => 16 * n + d) 0
    if digits.length < count || !(n < 0xd800 || (0xe000 ≤ n && n < 0x110000)) then none
    else some (Char.ofNat n, cs.drop count)

def escape : Reader Char := do
  let c ← peek
  advance
  match c with
  | some 'b' => return Char.ofNat 8
  | some 't' => return '\t'
  | some 'n' => return '\n'
  | some 'f' => return Char.ofNat 12
  | some 'r' => return '\r'
  | some '"' => return '"'
  | some '\\' => return '\\'
  | some 'u' => numberedChar 4
  | some 'U' => numberedChar 8
  | _ => fail

def basicRest : (rounds : Nat) → List Char → Reader (List Char)
  | 0, _ => fail
  | rounds + 1, read => do
    match ← peek with
    | some '"' =>
      advance
      return read.reverse
    | some '\\' =>
      advance
      basicRest rounds ((← escape) :: read)
    | some c =>
      if isPlain c then
        advance
        basicRest rounds (c :: read)
      else fail
    | none => fail

/-- The rest of a text over several lines, after its opening quotes. Up to two quotes may stand
anywhere, also right before the closing three. -/
def longBasicRest : (rounds : Nat) → List Char → Reader (List Char)
  | 0, _ => fail
  | rounds + 1, read => do
    match ← get with
    | '"' :: '"' :: '"' :: '"' :: '"' :: rest =>
      set rest
      return ('"' :: '"' :: read).reverse
    | '"' :: '"' :: '"' :: '"' :: rest =>
      set rest
      return ('"' :: read).reverse
    | '"' :: '"' :: '"' :: rest =>
      set rest
      return read.reverse
    | '"' :: rest =>
      set rest
      longBasicRest rounds ('"' :: read)
    | '\\' :: rest =>
      match rest.dropWhile isSpace with
      | '\n' :: _ | '\r' :: '\n' :: _ =>
        set (rest.dropWhile isSpace)
        newline
        let after ← get
        set (skipBlankLines (after.length + 1) after)
        longBasicRest rounds read
      | _ =>
        advance
        longBasicRest rounds ((← escape) :: read)
    | '\n' :: rest =>
      set rest
      longBasicRest rounds ('\n' :: read)
    | '\r' :: '\n' :: rest =>
      set rest
      longBasicRest rounds ('\n' :: read)
    | c :: rest =>
      if isPlain c then
        set rest
        longBasicRest rounds (c :: read)
      else fail
    | [] => fail
where
  skipBlankLines : Nat → List Char → List Char
    | 0, cs => cs
    | rounds + 1, cs =>
      match cs.dropWhile isSpace with
      | '\n' :: rest => skipBlankLines rounds rest
      | '\r' :: '\n' :: rest => skipBlankLines rounds rest
      | rest => rest

def longLiteralRest : (rounds : Nat) → List Char → Reader (List Char)
  | 0, _ => fail
  | rounds + 1, read => do
    match ← get with
    | '\'' :: '\'' :: '\'' :: '\'' :: '\'' :: rest =>
      set rest
      return ('\'' :: '\'' :: read).reverse
    | '\'' :: '\'' :: '\'' :: '\'' :: rest =>
      set rest
      return ('\'' :: read).reverse
    | '\'' :: '\'' :: '\'' :: rest =>
      set rest
      return read.reverse
    | '\n' :: rest =>
      set rest
      longLiteralRest rounds ('\n' :: read)
    | '\r' :: '\n' :: rest =>
      set rest
      longLiteralRest rounds ('\n' :: read)
    | c :: rest =>
      if isPlain c then
        set rest
        longLiteralRest rounds (c :: read)
      else fail
    | [] => fail

def basicString : Reader String := do
  char '"'
  return String.ofList (← basicRest ((← get).length + 1) [])

def literalString : Reader String := do
  char '\''
  let text ← takeWhile fun c => isPlain c && c != '\''
  char '\''
  return String.ofList text

def string : Reader String := do
  if ← accept ['"', '"', '"'] then
    discard (optional newline)
    return String.ofList (← longBasicRest ((← get).length + 1) [])
  else if ← accept ['\'', '\'', '\''] then
    discard (optional newline)
    return String.ofList (← longLiteralRest ((← get).length + 1) [])
  else firstOf [basicString, literalString]

/-- A character of a key without quotes. -/
def isBare (c : Char) : Bool := Text.isDigit c || c.isAlpha || c == '_' || c == '-'

def simpleKey : Reader String := do
  match ← peek with
  | some '"' => basicString
  | some '\'' => literalString
  | _ =>
    let text ← takeWhile isBare
    if text.isEmpty then fail else return String.ofList text

/-- The most levels that keys and values may have. -/
def maxDepth : Nat := 80

def keyRest : (rounds : Nat) → Reader (List String)
  | 0 => fail
  | rounds + 1 => do
    spaces
    let part ← simpleKey
    spaces
    if (← peek) == some '.' then
      advance
      return part :: (← keyRest rounds)
    else return [part]

/-- A dotted key with the spaces around it. -/
def key : Reader (List String) := do
  let parts ← keyRest ((← get).length + 1)
  if maxDepth ≤ parts.length then fail else return parts

/-- Digits with single underscores between them. -/
def digitsWith (isDigit : Char → Bool) : Reader (List Char) := do
  let text ← takeWhile fun c => isDigit c || c == '_'
  if wellSpaced true text then return text.filter (· ≠ '_') else fail
where
  /-- No underscore stands first, last or beside another. -/
  wellSpaced : Bool → List Char → Bool
    | afterGap, [] => !afterGap
    | afterGap, '_' :: rest => !afterGap && wellSpaced true rest
    | _, _ :: rest => wellSpaced false rest

/-- A number in a base other than ten, below 2^63. -/
def based (mark : Char) (base : Nat) : Reader Value := do
  char '0'
  char mark
  let digits ← digitsWith fun c =>
    match hexValue? c with
    | some d => d < base
    | none => false
  let n := digits.foldl (fun n c => base * n + (hexValue? c).getD 0) 0
  if n < Nat.pow 2 63 then return .integer n else fail

/-- An optional sign; whether it is a minus. -/
def sign : Reader Bool := do
  match ← peek with
  | some '-' => advance; return true
  | some '+' => advance; return false
  | _ => return false

/-- Decimal digits without a leading zero. -/
def wholePart : Reader (List Char) := do
  let digits ← digitsWith Text.isDigit
  match digits with
  | '0' :: _ :: _ => fail
  | digits => return digits

def showFloat (isNegative : Bool) (value : Option Decimal.Double) : String :=
  (if isNegative then "-" else "") ++
    match value with
    | some x => x.positional
    | none => "inf"

/-- A float in decimal notation. Beyond the greatest double it is refused, unless it is
negative. -/
def decimalFloat : Reader Value := do
  let isNegative ← sign
  let whole ← wholePart
  let fraction ← do
    if (← peek) == some '.' then
      advance
      let digits ← digitsWith Text.isDigit
      pure (some digits)
    else pure none
  let exponent ← do
    match ← peek with
    | some 'e' | some 'E' =>
      advance
      let negative ← sign
      let digits ← digitsWith Text.isDigit
      let n : Int := Text.digitsValue digits
      pure (some (if negative then -n else n))
    | _ => pure none
  if fraction.isNone && exponent.isNone then fail
  else
    let digits := whole ++ fraction.getD []
    let scale := exponent.getD 0 - (fraction.getD []).length
    let value := Decimal.Double.ofDecimal? (Text.digitsValue digits) scale
    if value.isNone && !isNegative then fail
    else return .float (showFloat isNegative value)

/-- An infinity or a value that is no number. -/
def specialFloat : Reader Value := do
  let isNegative ← sign
  if ← accept ['i', 'n', 'f'] then return .float (showFloat isNegative none)
  else if ← accept ['n', 'a', 'n'] then return .float "NaN"
  else fail

/-- An integer in decimal notation, within 64 bits. -/
def decimalInteger : Reader Value := do
  let isNegative ← sign
  let n := Text.digitsValue (← wholePart)
  if isNegative then
    if n ≤ Nat.pow 2 63 then return .integer (-n) else fail
  else if n < Nat.pow 2 63 then return .integer n
  else fail

def digitsWithin (count low high : Nat) : Reader Nat := fun cs =>
  let digits := (cs.take count).takeWhile Text.isDigit
  let n := Text.digitsValue digits
  if digits.length = count && low ≤ n && n ≤ high then some (n, cs.drop count) else none

def daysOfMonth (year month : Nat) : Nat :=
  if month = 2 then
    if (year % 4 = 0 && year % 100 ≠ 0) || year % 400 = 0 then 29 else 28
  else if month = 4 || month = 6 || month = 9 || month = 11 then 30
  else 31

def date : Reader Unit := do
  let year ← digitsWithin 4 0 9999
  char '-'
  let month ← digitsWithin 2 1 12
  char '-'
  discard (digitsWithin 2 1 (daysOfMonth year month))

def time : Reader Unit := do
  discard (digitsWithin 2 0 23)
  char ':'
  discard (digitsWithin 2 0 59)
  char ':'
  discard (digitsWithin 2 0 60)
  if (← peek) == some '.' then
    advance
    if (← takeWhile Text.isDigit).isEmpty then fail

/-- The distance of a time from the universal one. -/
def offset : Reader Unit := do
  match ← peek with
  | some 'Z' | some 'z' => advance
  | some '+' | some '-' =>
    advance
    discard (digitsWithin 2 0 23)
    char ':'
    discard (digitsWithin 2 0 59)
  | _ => fail

def timeAfterDate : Reader Unit := do
  match ← peek with
  | some 'T' | some 't' | some ' ' =>
    advance
    time
    discard (optional offset)
  | _ => fail

/-- A date, a time or both. -/
def moment : Reader Value := do
  firstOf [do date; discard (optional timeAfterDate), time]
  return .moment

def number : Reader Value := do
  match ← get with
  | '0' :: 'x' :: _ => based 'x' 16
  | '0' :: 'o' :: _ => based 'o' 8
  | '0' :: 'b' :: _ => based 'b' 2
  | c :: _ =>
    if Text.isDigit c then firstOf [moment, decimalFloat, decimalInteger]
    else firstOf [specialFloat, decimalFloat, decimalInteger]
  | [] => fail

def arrayItems (value : Reader Value) : (rounds : Nat) → Reader (List Value)
  | 0 => fail
  | rounds + 1 => do
    listGap
    if (← peek) == some ']' then
      advance
      return []
    else
      let item ← value
      listGap
      match ← peek with
      | some ',' =>
        advance
        return item :: (← arrayItems value rounds)
      | some ']' =>
        advance
        return [item]
      | _ => fail

def inlineFields (value : Reader Value) : (rounds : Nat) → Node.Entries → Reader Node.Entries
  | 0, _ => fail
  | rounds + 1, entries => do
    let name ← key
    char '='
    spaces
    let item ← value
    spaces
    match Node.addValue name item .header entries with
    | none => fail
    | some entries =>
      match ← peek with
      | some ',' =>
        advance
        inlineFields value rounds entries
      | some '\x7d' =>
        advance
        return entries
      | _ => fail

/-- A value whose items, when it is a list or a table, are read by `inner`. -/
def valueOver (inner : Reader Value) : Reader Value := do
  match ← peek with
  | some '"' | some '\'' => return .string (← string)
  | some 't' => if ← accept ['t', 'r', 'u', 'e'] then return .boolean true else fail
  | some 'f' => if ← accept ['f', 'a', 'l', 's', 'e'] then return .boolean false else fail
  | some '[' =>
    advance
    return .array (← arrayItems inner ((← get).length + 1))
  | some '\x7b' =>
    advance
    spaces
    if (← peek) == some '\x7d' then
      advance
      return .table []
    else
      return .table (Node.toFields (← inlineFields inner ((← get).length + 1) []))
  | _ => number

/-- A value with at most `depth` levels of lists and tables. -/
def valueWithin : (depth : Nat) → Reader Value
  | 0 => valueOver fail
  | depth + 1 => valueOver (valueWithin depth)

def value : Reader Value := valueWithin maxDepth

/-- The lines of a document: the tree so far and the path of the table that keys go to. -/
def documentRest : (rounds : Nat) → List String → Node.Entries → Reader Node.Entries
  | 0, _, _ => fail
  | rounds + 1, current, entries => do
    spaces
    match ← get with
    | [] => return entries
    | '#' :: _ =>
      lineEnd
      documentRest rounds current entries
    | '\n' :: _ | '\r' :: _ =>
      newline
      documentRest rounds current entries
    | '[' :: '[' :: rest =>
      set rest
      let path ← key
      char ']'
      char ']'
      lineEnd
      match Node.openListTable path entries with
      | some entries => documentRest rounds path entries
      | none => fail
    | '[' :: rest =>
      set rest
      let path ← key
      char ']'
      lineEnd
      match Node.openTable path entries with
      | some entries => documentRest rounds path entries
      | none => fail
    | _ =>
      let name ← key
      char '='
      spaces
      let item ← value
      lineEnd
      match Node.modifyAt false (Node.addValue name item) current .header entries with
      | some entries => documentRest rounds current entries
      | none => fail

end Reader

/-- The fields of a document, or none when the text is no document. A byte order mark in front
does not count. -/
def fieldsOf? (text : String) : Option (List (String × Value)) :=
  let cs := match text.toList with
    | c :: rest => if c.toNat = 0xfeff then rest else c :: rest
    | [] => []
  (Reader.documentRest (cs.length + 2) [] [] cs).map fun (entries, _) => Node.toFields entries

end ManagedHost.Toml
