import ClusterClient.Bytes

namespace ClusterClient.Text

/-!
# Bytes in hexadecimal

Frames are shown and read as pairs of hexadecimal digits, the higher half
first. Writing uses lower-case digits; reading accepts both cases and names the
first byte that is not a digit.
-/

/-- Why a text is not a list of bytes in hexadecimal. -/
inductive HexadecimalFault where
  | oddLength
  | invalidDigit (byte : UInt8) (position : Nat)
  deriving Repr, DecidableEq

/-- The lower-case digit of a value below sixteen. -/
def hexadecimalDigit (value : Nat) : Char :=
  if value < 10 then
    Char.ofNat ('0'.toNat + value)
  else
    Char.ofNat ('a'.toNat + (value - 10))

/-- The value of a hexadecimal digit given as an ASCII byte. -/
def hexadecimalValue? (byte : UInt8) : Option Nat :=
  let code := byte.toNat
  if 0x30 ≤ code ∧ code ≤ 0x39 then
    some (code - 0x30)
  else if 0x41 ≤ code ∧ code ≤ 0x46 then
    some (code - 0x41 + 10)
  else if 0x61 ≤ code ∧ code ≤ 0x66 then
    some (code - 0x61 + 10)
  else
    none

/-- A byte as two digits. -/
def hexadecimalPair (byte : UInt8) : List Char :=
  [hexadecimalDigit (byte.toNat / 16), hexadecimalDigit (byte.toNat % 16)]

/-- Bytes as digits, two to a byte. -/
def hexadecimal (bytes : Bytes) : String :=
  String.ofList (bytes.flatMap hexadecimalPair)

/-- Read pairs of digits, the first of which stands at `position`. -/
def readHexadecimalPairs
    (position : Nat) :
    Bytes → Except HexadecimalFault Bytes
  | [] => .ok []
  | [_] => .error .oddLength
  | high :: low :: rest =>
      match hexadecimalValue? high, hexadecimalValue? low with
      | none, _ => .error (.invalidDigit high position)
      | some _, none => .error (.invalidDigit low (position + 1))
      | some highValue, some lowValue =>
          (readHexadecimalPairs (position + 2) rest).map
            (UInt8.ofNat (highValue * 16 + lowValue) :: ·)

/--
Read bytes written in hexadecimal.

An odd number of digits is reported before any digit is looked at.
-/
def readHexadecimal (digits : Bytes) : Except HexadecimalFault Bytes :=
  if digits.length % 2 = 1 then
    .error .oddLength
  else
    readHexadecimalPairs 0 digits

end ClusterClient.Text
