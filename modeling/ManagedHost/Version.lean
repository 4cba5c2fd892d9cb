import ManagedHost.Error
import ManagedHost.Text.Blank

/-!
Runtime versions. A version is three numbers below 2^32, compared from the first to the last, and
is written with dots between them. A text carries a version when it starts with three runs of
digits separated by single dots; whatever follows the third run is not looked at.
-/

namespace ManagedHost

/-- A `major.minor.build` runtime version. -/
structure RuntimeVersion where
  major : UInt32
  minor : UInt32
  build : UInt32
deriving DecidableEq, Repr

namespace RuntimeVersion

/-- The lowest version that is accepted when nothing else is asked for. -/
def lowest : RuntimeVersion := ⟨5, 0, 0⟩

/-- Reads a run of digits at the start of the text as a number below 2^32. -/
def takeNumber (cs : List Char) : Option (UInt32 × List Char) :=
  let digits := cs.takeWhile Text.isDigit
  let value := Text.digitsValue digits
  if digits.isEmpty || Nat.pow 2 32 ≤ value then none
  else some (UInt32.ofNat value, cs.dropWhile Text.isDigit)

def takeDot : List Char → Option (List Char)
  | '.' :: rest => some rest
  | _ => none

def ofPrefixChars (cs : List Char) : Option RuntimeVersion := do
  let (major, cs) ← takeNumber cs
  let (minor, cs) ← takeNumber (← takeDot cs)
  let (build, _) ← takeNumber (← takeDot cs)
  return ⟨major, minor, build⟩

def ofPrefix? (text : String) : Option RuntimeVersion := ofPrefixChars text.toList

/-- The version that a text starts with after blanks. -/
def ofText? (text : String) : Option RuntimeVersion := ofPrefix? (Text.trimmed text)

def parse (text : String) : Except BridgeError RuntimeVersion :=
  match ofText? text with
  | some version => .ok version
  | none => .error (.invalidVersion text)

def display (v : RuntimeVersion) : String :=
  toString v.major.toNat ++ "." ++ toString v.minor.toNat ++ "." ++ toString v.build.toNat

/-- Versions are compared by their first number, then by the second, then by the third. -/
def compare (a b : RuntimeVersion) : Ordering :=
  (Ord.compare a.major.toNat b.major.toNat).then
    ((Ord.compare a.minor.toNat b.minor.toNat).then (Ord.compare a.build.toNat b.build.toNat))

instance : Ord RuntimeVersion := ⟨compare⟩

def before (a b : RuntimeVersion) : Bool := compare a b == .lt

def sort (versions : List RuntimeVersion) : List RuntimeVersion :=
  versions.mergeSort fun a b => !before b a

end RuntimeVersion

end ManagedHost
