/-!
Binary floating-point numbers of double precision, exactly: `ofRatio?` rounds a non-negative
fraction to the nearest double, a tie to the even one, and `shortest` finds the fewest decimal
digits that read back, of several the nearest.
-/

namespace ManagedHost.Decimal

/-- The non-negative double `mantissa · 2^exponent`. -/
structure Double where
  mantissa : Nat
  exponent : Int
deriving DecidableEq, Repr

namespace Double

def minExponent : Int := -1074

def maxExponent : Int := 971

/-- `num / (den · 2^exponent)` as a fraction of natural numbers. -/
def scaled (num den : Nat) (exponent : Int) : Nat × Nat :=
  if exponent < 0 then (num * Nat.pow 2 (-exponent).toNat, den)
  else (num, den * Nat.pow 2 exponent.toNat)

/-- The exponent at which a fraction has a mantissa of 53 bits, or the least exponent. -/
def exponentOf (num den : Nat) : Int :=
  let guess : Int := (Nat.log2 num : Int) - (Nat.log2 den : Int) - 52
  let (n, d) := scaled num den guess
  max minExponent (if n / d < Nat.pow 2 52 then guess - 1 else guess)

/-- A fraction rounded to the nearest natural number, a tie to the even one. -/
def roundHalfEven (num den : Nat) : Nat :=
  let q := num / den
  let r := num % den
  if 2 * r < den || (2 * r = den && q % 2 = 0) then q else q + 1

/-- The double nearest to a fraction, or none when it is beyond the greatest double. -/
def ofRatio? (num den : Nat) : Option Double :=
  if num = 0 then some ⟨0, minExponent⟩
  else
    let exponent := exponentOf num den
    let (n, d) := scaled num den exponent
    let mantissa := roundHalfEven n d
    let result : Double :=
      if mantissa = Nat.pow 2 53 then ⟨Nat.pow 2 52, exponent + 1⟩ else ⟨mantissa, exponent⟩
    if maxExponent < result.exponent then none else some result

/-- The double nearest to `digits · 10^scale`. -/
def ofDecimal? (digits : Nat) (scale : Int) : Option Double :=
  if digits = 0 then some ⟨0, minExponent⟩
  else if 400 < scale + (Nat.toDigits 10 digits).length then none
  else if scale + (Nat.toDigits 10 digits).length < -400 then some ⟨0, minExponent⟩
  else if scale < 0 then ofRatio? digits (Nat.pow 10 (-scale).toNat)
  else ofRatio? (digits * Nat.pow 10 scale.toNat) 1

def ratio (x : Double) : Nat × Nat :=
  if x.exponent < 0 then (x.mantissa, Nat.pow 2 (-x.exponent).toNat)
  else (x.mantissa * Nat.pow 2 x.exponent.toNat, 1)

def readsBack (x : Double) (num den : Nat) : Bool := ofRatio? num den == some x

/-- The number of digits before the point of a fraction: the least `p` with a value below
`10^p`, looked for downwards from a bound. -/
def pointPosition (num den : Nat) : (rounds : Nat) → Int → Int
  | 0, p => p
  | rounds + 1, p =>
    let below (p : Int) : Bool :=
      if p < 0 then num * Nat.pow 10 (-p).toNat < den else num < den * Nat.pow 10 p.toNat
    if below (p - 1) then pointPosition num den rounds (p - 1) else p

/-- The digits of a positive double and the position of its point, for a given number of digits:
the nearer of the two neighbours on that decimal grid that reads back. -/
def digitsOf? (x : Double) (point : Int) (count : Nat) : Option (Nat × Int) :=
  let (num, den) := x.ratio
  let step : Int := point - count
  let (n, d) := if step < 0 then (num * Nat.pow 10 (-step).toNat, den)
    else (num, den * Nat.pow 10 step.toNat)
  let low := n / d
  let back (k : Nat) : Bool :=
    if step < 0 then x.readsBack k (Nat.pow 10 (-step).toNat)
    else x.readsBack (k * Nat.pow 10 step.toNat) 1
  let nearLow := 2 * (n % d) ≤ d
  if back low && back (low + 1) then some (if nearLow then low else low + 1, step)
  else if back low then some (low, step)
  else if back (low + 1) then some (low + 1, step)
  else none

/-- The fewest decimal digits that read back, as `digits · 10^scale`. -/
def shortest (x : Double) : Nat × Int :=
  if x.mantissa = 0 then (0, 0)
  else
    let (num, den) := x.ratio
    let point := pointPosition num den 800 400
    ((List.range 17).findSome? fun k => x.digitsOf? point (k + 1)).getD (x.mantissa, 0)

/-- The double in positional notation, with at least one digit on either side of the point. -/
def positional (x : Double) : String :=
  let (digits, scale) := x.shortest
  let text := Nat.toDigits 10 digits
  if 0 ≤ scale then String.ofList (text ++ List.replicate scale.toNat '0' ++ ['.', '0'])
  else
    let places := (-scale).toNat
    let padded := List.replicate (places + 1 - text.length) '0' ++ text
    let whole := padded.take (padded.length - places)
    let fraction := (padded.drop (padded.length - places)).reverse.dropWhile (· == '0') |>.reverse
    String.ofList (whole ++ '.' :: if fraction.isEmpty then ['0'] else fraction)

end Double

end ManagedHost.Decimal
