import ManagedHost.Text.Blank

/-!
Reading JSON as far as a reader asks for. A reader consumes characters and fails in one of three
ways: the text is not JSON, it ends too early, or it is JSON of another shape than asked for. What
nobody asks for is passed over, but has to be JSON as well.
-/

namespace ManagedHost.Json

inductive Fault where
  /-- The text is not JSON. -/
  | malformed
  /-- The text is JSON, but not of the shape asked for. -/
  | mismatch
  /-- The text ends within a value. -/
  | unfinished
deriving DecidableEq, Repr

abbrev Reader := StateT (List Char) (Except Fault)

namespace Reader

/-- The four characters that may stand between any two tokens. -/
def isSpace (c : Char) : Bool := c == ' ' || c == '\n' || c == '\t' || c == '\r'

def fail {α : Type} (fault : Fault) : Reader α := fun _ => .error fault

/-- The next character, which stays. -/
def peek : Reader (Option Char) := fun cs => .ok (cs.head?, cs)

def advance : Reader Unit := fun cs => .ok ((), cs.tail)

def next : Reader (Option Char) := fun cs => .ok (cs.head?, cs.tail)

/-- The next character that is no space; the spaces before it are consumed. -/
def peekToken : Reader (Option Char) := fun cs =>
  let rest := cs.dropWhile isSpace
  .ok (rest.head?, rest)

def digits : Reader (List Char) := fun cs =>
  .ok (cs.takeWhile Text.isDigit, cs.dropWhile Text.isDigit)

def word : List Char → Reader Unit
  | [] => pure ()
  | expected :: rest => do
    match ← next with
    | none => fail .unfinished
    | some c => if c = expected then word rest else fail .malformed

def hexValue? (c : Char) : Option Nat :=
  let n := c.toNat
  if Text.isDigit c then some (n - '0'.toNat)
  else if 'a' ≤ c && c ≤ 'f' then some (n - 'a'.toNat + 10)
  else if 'A' ≤ c && c ≤ 'F' then some (n - 'A'.toNat + 10)
  else none

def hexUnit : Reader Nat := fun cs =>
  match cs with
  | a :: b :: c :: d :: rest =>
    match hexValue? a, hexValue? b, hexValue? c, hexValue? d with
    | some a, some b, some c, some d => .ok (((a * 16 + b) * 16 + c) * 16 + d, rest)
    | _, _, _, _ => .error .malformed
  | _ => .error .unfinished

/-- The character of an escape with a number: one unit, or two that form a surrogate pair. -/
def unicodeEscape : Reader Char := do
  let unit ← hexUnit
  if 0xdc00 ≤ unit && unit ≤ 0xdfff then fail .malformed
  else if 0xd800 ≤ unit && unit ≤ 0xdbff then
    match ← peek with
    | none => fail .unfinished
    | some '\\' =>
      advance
      match ← peek with
      | none => fail .unfinished
      | some 'u' =>
        advance
        let low ← hexUnit
        if 0xdc00 ≤ low && low ≤ 0xdfff then
          return Char.ofNat (0x10000 + (unit - 0xd800) * 0x400 + (low - 0xdc00))
        else fail .malformed
      | some _ => fail .malformed
    | some _ => fail .malformed
  else return Char.ofNat unit

def escapeChar? : Char → Option Char
  | '"' => some '"'
  | '\\' => some '\\'
  | '/' => some '/'
  | 'b' => some (Char.ofNat 8)
  | 'f' => some (Char.ofNat 12)
  | 'n' => some '\n'
  | 'r' => some '\r'
  | 't' => some '\t'
  | _ => none

/-- The rest of a string after its opening quote, in at most as many rounds as it has
characters. -/
def stringRest : (rounds : Nat) → List Char → Reader (List Char)
  | 0, _ => fail .unfinished
  | rounds + 1, read => do
    match ← next with
    | none => fail .unfinished
    | some '"' => return read.reverse
    | some '\\' =>
      match ← next with
      | none => fail .unfinished
      | some 'u' => stringRest rounds ((← unicodeEscape) :: read)
      | some c =>
        match escapeChar? c with
        | some c => stringRest rounds (c :: read)
        | none => fail .malformed
    | some c => if c.toNat < 0x20 then fail .malformed else stringRest rounds (c :: read)

def stringBody : Reader String := do
  return String.ofList (← stringRest ((← get).length + 1) [])

/-- Passes over the rest of a string. The numbers of escapes need not be characters. -/
def skipStringRest : (rounds : Nat) → Reader Unit
  | 0 => fail .unfinished
  | rounds + 1 => do
    match ← next with
    | none => fail .unfinished
    | some '"' => return ()
    | some '\\' =>
      match ← next with
      | none => fail .unfinished
      | some 'u' =>
        discard hexUnit
        skipStringRest rounds
      | some c => if (escapeChar? c).isSome then skipStringRest rounds else fail .malformed
    | some c => if c.toNat < 0x20 then fail .malformed else skipStringRest rounds

def skipString : Reader Unit := do skipStringRest ((← get).length + 1)

/-- A number as far as its readers care. -/
inductive Number where
  | natural (n : Nat)
  /-- A number with a sign, a fraction or an exponent, or one too large for a word. -/
  | other
deriving DecidableEq, Repr

/-- Whether a decimal is too large for a double: `significand · 10^exponent`, rounded to nearest,
is no longer finite. -/
def isHuge (significand : Nat) (exponent : Int) : Bool :=
  if significand = 0 || exponent < 0 then false
  else if 309 ≤ exponent then true
  else Nat.pow 2 1024 - Nat.pow 2 970 ≤ significand * Nat.pow 10 exponent.toNat

def float (significand : Nat) (exponent : Int) : Reader Number :=
  if isHuge significand exponent then fail .malformed else return .other

/-- The exponent of a number, from the letter on. -/
def exponentPart (significand : Nat) (scale : Int) : Reader Number := do
  advance
  let isNegative ← do
    match ← peek with
    | some '+' => advance; pure false
    | some '-' => advance; pure true
    | _ => pure false
  match ← peek with
  | none => fail .unfinished
  | some c =>
    if !Text.isDigit c then fail .malformed
    else
      let value := Text.digitsValue (← digits)
      float significand (if isNegative then scale - value else scale + value)

/-- The fraction of a number, from the point on. -/
def fractionPart (significand : Nat) (scale : Int) : Reader Number := do
  advance
  let fraction ← digits
  if fraction.isEmpty then
    match ← peek with
    | none => fail .unfinished
    | some _ => fail .malformed
  else
    let significand := significand * Nat.pow 10 fraction.length + Text.digitsValue fraction
    let scale := scale - fraction.length
    match ← peek with
    | some 'e' | some 'E' => exponentPart significand scale
    | _ => float significand scale

/-- A number whose sign, if any, has been consumed. -/
def number (isPositive : Bool) : Reader Number := do
  match ← peek with
  | none => fail .unfinished
  | some c =>
    if !Text.isDigit c then fail .malformed
    else
      let whole ← digits
      if c = '0' && 1 < whole.length then fail .malformed
      else
        let value := Text.digitsValue whole
        match ← peek with
        | some '.' => fractionPart value 0
        | some 'e' | some 'E' => exponentPart value 0
        | _ =>
          if isPositive && value < Nat.pow 2 64 then return .natural value
          else float value 0

def skipExponent : Reader Unit := do
  advance
  match ← peek with
  | some '+' | some '-' => advance
  | _ => pure ()
  if (← digits).isEmpty then fail .malformed

def skipNumber : Reader Unit := do
  match ← digits with
  | [] => fail .malformed
  | '0' :: _ :: _ => fail .malformed
  | _ =>
    match ← peek with
    | some '.' =>
      advance
      if (← digits).isEmpty then fail .malformed
      else
        match ← peek with
        | some 'e' | some 'E' => skipExponent
        | _ => return ()
    | some 'e' | some 'E' => skipExponent
    | _ => return ()

/-- What to do after a value has been passed over: the brackets that are still open. -/
inductive Bracket where
  | list | object
deriving DecidableEq, Repr

def skipKey : Reader Unit := do
  match ← peekToken with
  | some '"' =>
    advance
    skipString
    match ← peekToken with
    | some ':' => advance
    | some _ => fail .malformed
    | none => fail .unfinished
  | some _ => fail .malformed
  | none => fail .unfinished

mutual

/-- Passes over one value and then over what the open brackets still hold. -/
def skipValue : (rounds : Nat) → List Bracket → Reader Unit
  | 0, _ => fail .malformed
  | rounds + 1, opened => do
    match ← peekToken with
    | none => fail .unfinished
    | some 'n' => advance; word ['u', 'l', 'l']; skipNext rounds opened
    | some 't' => advance; word ['r', 'u', 'e']; skipNext rounds opened
    | some 'f' => advance; word ['a', 'l', 's', 'e']; skipNext rounds opened
    | some '-' => advance; skipNumber; skipNext rounds opened
    | some '"' => advance; skipString; skipNext rounds opened
    | some '[' =>
      advance
      match ← peekToken with
      | some ']' => advance; skipNext rounds opened
      | some _ => skipValue rounds (.list :: opened)
      | none => fail .unfinished
    | some '{' =>
      advance
      match ← peekToken with
      | some '}' => advance; skipNext rounds opened
      | some _ => skipKey; skipValue rounds (.object :: opened)
      | none => fail .unfinished
    | some c => if Text.isDigit c then do skipNumber; skipNext rounds opened else fail .malformed

def skipNext : (rounds : Nat) → List Bracket → Reader Unit
  | _, [] => pure ()
  | 0, _ => fail .malformed
  | rounds + 1, bracket :: opened => do
    match ← peekToken, bracket with
    | some ',', .list => advance; skipValue rounds (.list :: opened)
    | some ',', .object => advance; skipKey; skipValue rounds (.object :: opened)
    | some ']', .list => advance; skipNext rounds opened
    | some '}', .object => advance; skipNext rounds opened
    | some _, _ => fail .malformed
    | none, _ => fail .unfinished

end

def skip : Reader Unit := do skipValue (2 * (← get).length + 2) []

/-- Fails because the next value is of another shape than asked for, after reading as much of it
as shows its shape. -/
def wrongShape {α : Type} : Reader α := do
  match ← peek with
  | some 'n' => advance; word ['u', 'l', 'l']; fail .mismatch
  | some 't' => advance; word ['r', 'u', 'e']; fail .mismatch
  | some 'f' => advance; word ['a', 'l', 's', 'e']; fail .mismatch
  | some '-' => advance; discard (number false); fail .mismatch
  | some '"' => advance; discard stringBody; fail .mismatch
  | some '[' | some '{' => fail .mismatch
  | some c =>
    if Text.isDigit c then do discard (number true); fail .mismatch else fail .malformed
  | none => fail .malformed

def natBelow (bound : Nat) : Reader Nat := do
  match ← peekToken with
  | none => fail .unfinished
  | some '-' => advance; discard (number false); fail .mismatch
  | some c =>
    if Text.isDigit c then do
      match ← number true with
      | .natural n => if n < bound then return n else fail .mismatch
      | .other => fail .mismatch
    else wrongShape

def hasElement (isFirst : Bool) : Reader Bool := do
  match ← peekToken with
  | some ']' => return false
  | some ',' =>
    if isFirst then return true
    else
      advance
      match ← peekToken with
      | some ']' => fail .malformed
      | some _ => return true
      | none => fail .unfinished
  | some _ => if isFirst then return true else fail .malformed
  | none => fail .unfinished

def endList : Reader Unit := do
  match ← peekToken with
  | some ']' => advance
  | some _ => fail .malformed
  | none => fail .unfinished

/-- The next element of a list, or the error that the list is too short. -/
def element {α : Type} (isFirst : Bool) (read : Reader α) : Reader α := do
  if ← hasElement isFirst then read else fail .mismatch

/-- The elements of a list after its opening bracket. -/
def elements {α : Type} (read : Reader α) : (rounds : Nat) → Bool → Reader (List α)
  | 0, _ => fail .malformed
  | rounds + 1, isFirst => do
    if ← hasElement isFirst then
      let first ← read
      return first :: (← elements read rounds false)
    else return []

def list {α : Type} (read : Reader α) : Reader (List α) := do
  match ← peekToken with
  | none => fail .unfinished
  | some '[' =>
    advance
    let read ← elements read ((← get).length + 1) true
    endList
    return read
  | some _ => wrongShape

def colon : Reader Unit := do
  match ← peekToken with
  | some ':' => advance
  | some _ => fail .malformed
  | none => fail .unfinished

/-- Whether an object goes on with a member; its key is next. -/
def hasMember (isFirst : Bool) : Reader Bool := do
  match ← peekToken with
  | some '}' => return false
  | some c =>
    if isFirst then
      if c = '"' then return true else fail .malformed
    else if c = ',' then
      advance
      match ← peekToken with
      | some '"' => return true
      | some _ => fail .malformed
      | none => fail .unfinished
    else fail .malformed
  | none => fail .unfinished

/-- The members of an object after its opening bracket, folded into a state. -/
def members {σ : Type} (step : σ → String → Reader σ) : (rounds : Nat) → Bool → σ → Reader σ
  | 0, _, _ => fail .malformed
  | rounds + 1, isFirst, state => do
    if ← hasMember isFirst then
      advance
      let key ← stringBody
      members step rounds false (← step state key)
    else
      advance
      return state

/-- A record: an object whose members are folded into a state, or a list of its fields. -/
def record {α σ : Type} (start : σ) (step : σ → String → Reader σ) (finish : σ → Reader α)
    (fromList : Reader α) : Reader α := do
  match ← peekToken with
  | none => fail .unfinished
  | some '[' =>
    advance
    let result ← fromList
    endList
    return result
  | some '{' =>
    advance
    finish (← members step ((← get).length + 1) true start)
  | some _ => wrongShape

/-- A value that must be named once: the value of a member, unless it was given before. -/
def once {α : Type} (before : Option α) (read : Reader α) : Reader (Option α) := do
  if before.isSome then fail .mismatch
  else
    colon
    return some (← read)

/-- The value of a member that nobody asks for is passed over. -/
def ignore : Reader Unit := do
  colon
  skip

def required {α : Type} : Option α → Reader α
  | some a => return a
  | none => fail .mismatch

/-- One of a set of names: the name as a string, or an object with the name as its only key and
null as its value. -/
def choice {α : Type} (ofName? : String → Option α) : Reader α := do
  match ← peekToken with
  | none => fail .unfinished
  | some '"' =>
    advance
    named (← stringBody)
  | some '{' =>
    advance
    let chosen ← do
      match ← peekToken with
      | none => fail .unfinished
      | some '"' =>
        advance
        named (← stringBody)
      | some _ => wrongShape
    colon
    match ← peekToken with
    | none => fail .unfinished
    | some 'n' =>
      advance
      word ['u', 'l', 'l']
    | some _ => wrongShape
    match ← peekToken with
    | some '}' =>
      advance
      return chosen
    | some _ => fail .malformed
    | none => fail .unfinished
  | some _ => fail .malformed
where
  named (name : String) : Reader α :=
    match ofName? name with
    | some a => return a
    | none => fail .mismatch

/-- Reads a whole text: nothing but spaces may follow the value. -/
def readAll {α : Type} (read : Reader α) (text : String) : Except Fault α :=
  match read text.toList with
  | .error fault => .error fault
  | .ok (a, rest) => if rest.all isSpace then .ok a else .error .malformed

end Reader

end ManagedHost.Json
