/-!
UTF-8. `encode` gives the bytes of a text, `decode` reads them back and, where bytes are not
well formed, says how far they were and how many bytes are at fault. Only the shortest form of a
code point is accepted, and surrogates are not code points.
-/

namespace ManagedHost.Text.Utf8

def encodeChar (c : Char) : List UInt8 :=
  let n := c.toNat
  if n < 0x80 then [UInt8.ofNat n]
  else if n < 0x800 then [UInt8.ofNat (0xc0 + n / 64), UInt8.ofNat (0x80 + n % 64)]
  else if n < 0x10000 then
    [UInt8.ofNat (0xe0 + n / 4096), UInt8.ofNat (0x80 + n / 64 % 64), UInt8.ofNat (0x80 + n % 64)]
  else
    [UInt8.ofNat (0xf0 + n / 262144), UInt8.ofNat (0x80 + n / 4096 % 64),
      UInt8.ofNat (0x80 + n / 64 % 64), UInt8.ofNat (0x80 + n % 64)]

def encode (text : String) : List UInt8 := text.toList.flatMap encodeChar

/-- Where and how bytes stop being well formed. -/
structure Fault where
  index : Nat
  /-- The number of bytes that can never begin a character, or none if the bytes just end
  within one. -/
  length : Option Nat
deriving DecidableEq, Repr

def Fault.message (fault : Fault) : String :=
  match fault.length with
  | some n =>
    "invalid utf-8 sequence of " ++ toString n ++ " bytes from index " ++ toString fault.index
  | none => "incomplete utf-8 byte sequence from index " ++ toString fault.index

/-- A byte that may follow the first byte of a character. -/
def isContinuation (b : UInt8) : Bool := 0x80 ≤ b.toNat && b.toNat ≤ 0xbf

/-- The second bytes that may follow a given first byte of a character of three or four bytes:
overlong forms, surrogates and numbers beyond the last code point are excluded here. -/
def secondAllowed (first second : UInt8) : Bool :=
  let a := first.toNat
  let b := second.toNat
  if a = 0xe0 then 0xa0 ≤ b && b ≤ 0xbf
  else if a = 0xed then 0x80 ≤ b && b ≤ 0x9f
  else if a = 0xf0 then 0x90 ≤ b && b ≤ 0xbf
  else if a = 0xf4 then 0x80 ≤ b && b ≤ 0x8f
  else 0x80 ≤ b && b ≤ 0xbf

/-- The first character of a non-empty list of bytes and the number of bytes it takes, or the
length of the fault there. -/
def decodeFirst (first : UInt8) (rest : List UInt8) : Except (Option Nat) (Char × Nat) :=
  let a := first.toNat
  if a < 0x80 then .ok (Char.ofNat a, 1)
  else if 0xc2 ≤ a && a ≤ 0xdf then
    match rest with
    | [] => .error none
    | b :: _ =>
      if isContinuation b then .ok (Char.ofNat ((a - 0xc0) * 64 + (b.toNat - 0x80)), 2)
      else .error (some 1)
  else if 0xe0 ≤ a && a ≤ 0xef then
    match rest with
    | [] => .error none
    | b :: rest =>
      if !secondAllowed first b then .error (some 1)
      else match rest with
        | [] => .error none
        | c :: _ =>
          if isContinuation c then
            .ok (Char.ofNat ((a - 0xe0) * 4096 + (b.toNat - 0x80) * 64 + (c.toNat - 0x80)), 3)
          else .error (some 2)
  else if 0xf0 ≤ a && a ≤ 0xf4 then
    match rest with
    | [] => .error none
    | b :: rest =>
      if !secondAllowed first b then .error (some 1)
      else match rest with
        | [] => .error none
        | c :: rest =>
          if !isContinuation c then .error (some 2)
          else match rest with
            | [] => .error none
            | d :: _ =>
              if isContinuation d then
                .ok (Char.ofNat ((a - 0xf0) * 262144 + (b.toNat - 0x80) * 4096 +
                  (c.toNat - 0x80) * 64 + (d.toNat - 0x80)), 4)
              else .error (some 3)
  else .error (some 1)

/-- Reads characters until the bytes end. The list shrinks at every character, so as many rounds
as there are bytes suffice. -/
def decodeFrom : (rounds index : Nat) → List UInt8 → Except Fault (List Char)
  | _, _, [] => .ok []
  | 0, index, _ :: _ => .error ⟨index, none⟩
  | rounds + 1, index, first :: rest =>
    match decodeFirst first rest with
    | .error length => .error ⟨index, length⟩
    | .ok (c, width) =>
      match decodeFrom rounds (index + width) (rest.drop (width - 1)) with
      | .ok cs => .ok (c :: cs)
      | .error fault => .error fault

def decode (bytes : List UInt8) : Except Fault String :=
  (decodeFrom bytes.length 0 bytes).map String.ofList

end ManagedHost.Text.Utf8
