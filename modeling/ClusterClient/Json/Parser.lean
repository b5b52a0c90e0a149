import ClusterClient.Json.Value
import ClusterClient.KeyedList
import ClusterClient.Text.Decimal

namespace ClusterClient.Json

/-!
# Reading JSON text

The reader accepts standard JSON text with at most 127 levels of arrays and
objects. A number without fraction and exponent that fits 64 bits stays whole;
every other number becomes a double, and one too large for a double is refused.
Of several fields under one key the last counts.

A reader of a part returns what it read and the characters that follow it.
-/

/-- The deepest nesting of arrays and objects that is read. -/
def deepestNesting : Nat := 127

/-- The blank characters of JSON text. -/
def isJsonBlank (character : Char) : Bool :=
  character == ' ' || character == '\n' || character == '\t' ||
    character == '\r'

/-- Drop leading blanks. -/
def skipBlanks (input : List Char) : List Char :=
  input.dropWhile isJsonBlank

/-- The leading decimal digits, by value, and what follows them. -/
def digitRun : List Char → List Nat × List Char
  | [] => ([], [])
  | character :: rest =>
      match Text.digitValue? character with
      | none => ([], character :: rest)
      | some digit =>
          let (digits, remaining) := digitRun rest
          (digit :: digits, remaining)

/-- The largest significand that is gathered digit by digit. -/
def largestSignificand : Nat := 0xffffffffffffffff

/--
Gather digits onto a significand for as long as it fits; the second component
counts the digits left over.
-/
def gatherDigits (significand : Nat) : List Nat → Nat × Nat
  | [] => (significand, 0)
  | digit :: rest =>
      if significand * 10 + digit ≤ largestSignificand then
        gatherDigits (significand * 10 + digit) rest
      else
        (significand, rest.length + 1)

/-- A number as it was read: its digits, their scale and how it was written. -/
structure Numeral where
  significand : Nat
  power : Int
  isWhole : Bool
  deriving Repr, DecidableEq

/-- Read the digits after a decimal point. -/
def readFraction
    (numeral : Numeral)
    (input : List Char) :
    Option (Numeral × List Char) :=
  match digitRun input with
  | ([], _) => none
  | (digits, rest) =>
      let (significand, leftOver) := gatherDigits numeral.significand digits
      let gathered : Int := (digits.length : Int) - (leftOver : Int)
      some (⟨significand, numeral.power - gathered, false⟩, rest)

/-- Read the digits of an exponent after its sign. -/
def readExponentDigits
    (numeral : Numeral)
    (negative : Bool)
    (input : List Char) :
    Option (Numeral × List Char) :=
  match digitRun input with
  | ([], _) => none
  | (digits, rest) =>
      let magnitude : Nat :=
        digits.foldl (fun value digit => value * 10 + digit) 0
      let power : Int := if negative then -(magnitude : Int) else magnitude
      some (⟨numeral.significand, numeral.power + power, false⟩, rest)

/-- Read an exponent after its letter. -/
def readExponent
    (numeral : Numeral) :
    List Char → Option (Numeral × List Char)
  | '+' :: rest => readExponentDigits numeral false rest
  | '-' :: rest => readExponentDigits numeral true rest
  | input => readExponentDigits numeral false input

/-- Read an exponent if one follows. -/
def readOptionalExponent
    (numeral : Numeral) :
    List Char → Option (Numeral × List Char)
  | 'e' :: rest => readExponent numeral rest
  | 'E' :: rest => readExponent numeral rest
  | input => some (numeral, input)

/-- Read the digits before the decimal point; a leading zero stands alone. -/
def readWholeDigits (input : List Char) : Option (Numeral × List Char) :=
  match digitRun input with
  | ([], _) => none
  | (0 :: _ :: _, _) => none
  | (digits, rest) =>
      let (significand, leftOver) := gatherDigits 0 digits
      some (⟨significand, (leftOver : Int), leftOver = 0⟩, rest)

/-- Read a number without its sign. -/
def readNumeral (input : List Char) : Option (Numeral × List Char) :=
  match readWholeDigits input with
  | none => none
  | some (numeral, '.' :: rest) =>
      match readFraction numeral rest with
      | none => none
      | some (withFraction, remaining) =>
          readOptionalExponent withFraction remaining
  | some (numeral, rest) => readOptionalExponent numeral rest

/-- The double that a numeral stands for. -/
def Numeral.toDouble? (numeral : Numeral) (negative : Bool) : Option Json :=
  (Double.ofScientific? numeral.significand numeral.power).map
    fun number => .real (number.withSign negative)

/--
The value of a numeral: whole when it was written so and is in range, except
that a negative zero is a double.
-/
def Numeral.toJson? (numeral : Numeral) (negative : Bool) : Option Json :=
  let value : Int :=
    if negative then -(numeral.significand : Int) else numeral.significand
  if numeral.isWhole ∧ ¬ (negative ∧ numeral.significand = 0) then
    match WholeNumber.ofInt? value with
    | some number => some (.whole number)
    | none => numeral.toDouble? negative
  else
    numeral.toDouble? negative

/-- Read a number. -/
def readNumber (input : List Char) : Option (Json × List Char) :=
  let (negative, unsigned) :=
    match input with
    | '-' :: rest => (true, rest)
    | _ => (false, input)
  match readNumeral unsigned with
  | none => none
  | some (numeral, rest) =>
      (numeral.toJson? negative).map fun number => (number, rest)

/-- The value of a hexadecimal digit. -/
def hexadecimalValue? (character : Char) : Option Nat :=
  let code := character.toNat
  if 0x30 ≤ code ∧ code ≤ 0x39 then
    some (code - 0x30)
  else if 0x41 ≤ code ∧ code ≤ 0x46 then
    some (code - 0x41 + 10)
  else if 0x61 ≤ code ∧ code ≤ 0x66 then
    some (code - 0x61 + 10)
  else
    none

/-- Read four hexadecimal digits. -/
def readFourDigits : List Char → Option (Nat × List Char)
  | first :: second :: third :: fourth :: rest =>
      match hexadecimalValue? first, hexadecimalValue? second,
          hexadecimalValue? third, hexadecimalValue? fourth with
      | some a, some b, some c, some d =>
          some (((a * 16 + b) * 16 + c) * 16 + d, rest)
      | _, _, _, _ => none
  | _ => none

/--
Read an escaped code unit; a leading surrogate must be followed by an escaped
trailing one, and a trailing surrogate cannot stand alone.
-/
def readCodeUnit (input : List Char) : Option (Char × List Char) :=
  match readFourDigits input with
  | none => none
  | some (unit, rest) =>
      if 0xd800 ≤ unit ∧ unit ≤ 0xdbff then
        match rest with
        | '\\' :: 'u' :: trailing =>
            match readFourDigits trailing with
            | none => none
            | some (low, remaining) =>
                if 0xdc00 ≤ low ∧ low ≤ 0xdfff then
                  let code := 0x10000 + (unit - 0xd800) * 0x400 + (low - 0xdc00)
                  some (Char.ofNat code, remaining)
                else
                  none
        | _ => none
      else if 0xdc00 ≤ unit ∧ unit ≤ 0xdfff then
        none
      else
        some (Char.ofNat unit, rest)

/-- Read an escape after its backslash. -/
def readEscape : List Char → Option (Char × List Char)
  | '"' :: rest => some ('"', rest)
  | '\\' :: rest => some ('\\', rest)
  | '/' :: rest => some ('/', rest)
  | 'b' :: rest => some ('\x08', rest)
  | 'f' :: rest => some ('\x0c', rest)
  | 'n' :: rest => some ('\n', rest)
  | 'r' :: rest => some ('\r', rest)
  | 't' :: rest => some ('\t', rest)
  | 'u' :: rest => readCodeUnit rest
  | _ => none

/--
Read a string after its opening quote; `reversed` holds the characters so far,
last first.
-/
def readString :
    (fuel : Nat) → (reversed : List Char) → List Char →
    Option (String × List Char)
  | 0, _, _ => none
  | _, _, [] => none
  | _ + 1, reversed, '"' :: rest => some (String.ofList reversed.reverse, rest)
  | fuel + 1, reversed, '\\' :: rest =>
      match readEscape rest with
      | none => none
      | some (character, remaining) =>
          readString fuel (character :: reversed) remaining
  | fuel + 1, reversed, character :: rest =>
      if character.toNat < 0x20 then
        none
      else
        readString fuel (character :: reversed) rest

mutual

/-- Read a value; `levels` counts the levels of nesting still allowed. -/
def readValue :
    (fuel levels : Nat) → List Char → Option (Json × List Char)
  | 0, _, _ => none
  | fuel + 1, levels, input =>
      match skipBlanks input with
      | 'n' :: 'u' :: 'l' :: 'l' :: rest => some (.null, rest)
      | 't' :: 'r' :: 'u' :: 'e' :: rest => some (.boolean true, rest)
      | 'f' :: 'a' :: 'l' :: 's' :: 'e' :: rest => some (.boolean false, rest)
      | '"' :: rest =>
          (readString (rest.length + 1) [] rest).map
            fun read => (.text read.1, read.2)
      | '[' :: rest =>
          match levels with
          | 0 => none
          | inner + 1 =>
              match skipBlanks rest with
              | ']' :: remaining => some (.array [], remaining)
              | _ => readItems fuel inner [] rest
      | '\x7b' :: rest =>
          match levels with
          | 0 => none
          | inner + 1 =>
              match skipBlanks rest with
              | '\x7d' :: remaining => some (.object [], remaining)
              | _ => readFields fuel inner [] rest
      | other => readNumber other

/-- Read the items of an array up to its end; `reversed` holds those so far. -/
def readItems :
    (fuel levels : Nat) → (reversed : List Json) → List Char →
    Option (Json × List Char)
  | 0, _, _, _ => none
  | fuel + 1, levels, reversed, input =>
      match readValue fuel levels input with
      | none => none
      | some (item, rest) =>
          match skipBlanks rest with
          | ',' :: remaining =>
              readItems fuel levels (item :: reversed) remaining
          | ']' :: remaining =>
              some (.array (item :: reversed).reverse, remaining)
          | _ => none

/-- Read the fields of an object up to its end; `fields` holds those so far. -/
def readFields :
    (fuel levels : Nat) → (fields : Fields) → List Char →
    Option (Json × List Char)
  | 0, _, _, _ => none
  | fuel + 1, levels, fields, input =>
      match skipBlanks input with
      | '"' :: keyText =>
          match readString (keyText.length + 1) [] keyText with
          | none => none
          | some (key, afterKey) =>
              match skipBlanks afterKey with
              | ':' :: valueText =>
                  match readValue fuel levels valueText with
                  | none => none
                  | some (value, rest) =>
                      let extended := KeyedList.insert key value fields
                      match skipBlanks rest with
                      | ',' :: remaining =>
                          readFields fuel levels extended remaining
                      | '\x7d' :: remaining =>
                          some (.object extended, remaining)
                      | _ => none
              | _ => none
      | _ => none

end

/-- Read a whole text as one document, with blanks around it. -/
def parse? (input : String) : Option Json :=
  let characters := input.toList
  match readValue (2 * characters.length + 2) deepestNesting characters with
  | none => none
  | some (document, rest) =>
      if (skipBlanks rest).isEmpty then some document else none

end ClusterClient.Json
