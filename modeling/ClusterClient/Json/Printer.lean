import ClusterClient.Json.Value

namespace ClusterClient.Json

/-!
# Compact JSON text

Documents are written without blanks. Quotes, backslashes and control
characters are escaped and every other character stands for itself. Whole
numbers are written as digits; a double is written with the fewest digits that
read back, always with a fraction or an exponent, so that it stays a double.
-/

/-- How the digits of a double are laid out. -/
structure DoubleLayout where
  lowestPositional : Int
  highestPositional : Int
  deriving Repr, DecidableEq

/--
Magnitudes from `10 ^ -5` up to below `10 ^ 16` are written positionally, all
others with a signed exponent.
-/
def doubleLayout : DoubleLayout := ⟨-5, 15⟩

/-- The decimal digits of a natural number. -/
def digits (value : Nat) : List Char :=
  Nat.toDigits 10 value

/-- The text of an exponent, with its sign. -/
def exponentText (power : Int) : List Char :=
  'e' :: (if power < 0 then '-' else '+') :: digits power.natAbs

/-- A decimal written positionally, with at least one digit after the point. -/
def positionalText (characters : List Char) (power : Int) : List Char :=
  if 0 ≤ power then
    characters ++ List.replicate power.toNat '0' ++ ['.', '0']
  else
    let places := (-power).toNat
    if places < characters.length then
      let wholePart := characters.length - places
      characters.take wholePart ++ ['.'] ++ characters.drop wholePart
    else
      ['0', '.'] ++ List.replicate (places - characters.length) '0' ++
        characters

/-- A decimal written with one digit before the point and an exponent. -/
def exponentialText (characters : List Char) (leading : Int) : List Char :=
  match characters with
  | [] => []
  | [only] => only :: exponentText leading
  | first :: rest => first :: '.' :: rest ++ exponentText leading

/-- The text of a positive or zero magnitude. -/
def magnitudeText (number : Double) : List Char :=
  if number.magnitudeBits = 0 then
    ['0', '.', '0']
  else
    let decimal := number.shortest
    let characters := digits decimal.digits
    let leading := decimal.power + (characters.length : Int) - 1
    if doubleLayout.lowestPositional ≤ leading ∧
        leading ≤ doubleLayout.highestPositional then
      positionalText characters decimal.power
    else
      exponentialText characters leading

/-- The text of a double. -/
def doubleText (number : Double) : List Char :=
  if number.isNegative then
    '-' :: magnitudeText number
  else
    magnitudeText number

/-- The text of a whole number. -/
def wholeText (number : WholeNumber) : List Char :=
  if number.value < 0 then
    '-' :: digits number.value.natAbs
  else
    digits number.value.natAbs

/-- One lower-case hexadecimal digit. -/
def hexadecimalCharacter (value : Nat) : Char :=
  if value < 10 then
    Char.ofNat ('0'.toNat + value)
  else
    Char.ofNat ('a'.toNat + (value - 10))

/-- One character inside a JSON string. -/
def escapeText (character : Char) : List Char :=
  if character = '"' then
    ['\\', '"']
  else if character = '\\' then
    ['\\', '\\']
  else if character = '\x08' then
    ['\\', 'b']
  else if character = '\t' then
    ['\\', 't']
  else if character = '\n' then
    ['\\', 'n']
  else if character = '\x0c' then
    ['\\', 'f']
  else if character = '\r' then
    ['\\', 'r']
  else if character.toNat < 0x20 then
    ['\\', 'u', '0', '0', hexadecimalCharacter (character.toNat / 16),
      hexadecimalCharacter (character.toNat % 16)]
  else
    [character]

/-- A string between quotes. -/
def stringText (content : String) : List Char :=
  '"' :: content.toList.flatMap escapeText ++ ['"']

mutual

/-- The characters of a document. -/
def characters : Json → List Char
  | .null => ['n', 'u', 'l', 'l']
  | .boolean true => ['t', 'r', 'u', 'e']
  | .boolean false => ['f', 'a', 'l', 's', 'e']
  | .whole number => wholeText number
  | .real number => doubleText number
  | .text content => stringText content
  | .array [] => ['[', ']']
  | .array (first :: rest) =>
      '[' :: characters first ++ itemCharacters rest ++ [']']
  | .object [] => ['\x7b', '\x7d']
  | .object ((key, first) :: rest) =>
      '\x7b' :: stringText key ++ ':' :: characters first ++
        fieldCharacters rest ++ ['\x7d']

/-- The characters of the items after the first. -/
def itemCharacters : List Json → List Char
  | [] => []
  | item :: rest => ',' :: characters item ++ itemCharacters rest

/-- The characters of the fields after the first. -/
def fieldCharacters : List (String × Json) → List Char
  | [] => []
  | (key, value) :: rest =>
      ',' :: stringText key ++ ':' :: characters value ++ fieldCharacters rest

end

/-- The compact text of a document. -/
def render (document : Json) : String :=
  String.ofList document.characters

end ClusterClient.Json
