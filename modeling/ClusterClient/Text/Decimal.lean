namespace ClusterClient.Text

/-!
# Decimal numbers in text

Counts and limits are read from text as an optional sign followed by ASCII
digits. The readers say which of the possible faults comes first when the text
is walked from the left: no digit at all, a character that is not a digit, or a
value above the limit of the field.
-/

/-- Why a text is not a number of the expected range. -/
inductive NumberFault where
  | noDigits
  | invalidDigit
  | tooLarge
  | tooSmall
  deriving Repr, DecidableEq

/-- The wording of a number fault. -/
def NumberFault.message : NumberFault → String
  | .noDigits => "cannot parse integer from empty string"
  | .invalidDigit => "invalid digit found in string"
  | .tooLarge => "number too large to fit in target type"
  | .tooSmall => "number too small to fit in target type"

/-- The value of an ASCII digit. -/
def digitValue? (character : Char) : Option Nat :=
  if '0' ≤ character ∧ character ≤ '9' then
    some (character.toNat - '0'.toNat)
  else
    none

/--
Read digits from the left onto a value, up to a limit.

A value above the limit is refused at the digit that exceeds it, before any
later character is looked at.
-/
def readDigits
    (limit value : Nat) :
    List Char → Except NumberFault Nat
  | [] => .ok value
  | character :: rest =>
      match digitValue? character with
      | none => .error .invalidDigit
      | some digit =>
          if value * 10 + digit ≤ limit then
            readDigits limit (value * 10 + digit) rest
          else
            .error .tooLarge

/-- Read one or more digits. -/
def readMagnitude
    (limit : Nat) :
    List Char → Except NumberFault Nat
  | [] => .error .invalidDigit
  | characters => readDigits limit 0 characters

/-- Read a number without a minus sign; a plus sign may precede the digits. -/
def readUnsigned
    (limit : Nat) :
    List Char → Except NumberFault Nat
  | [] => .error .noDigits
  | '+' :: digits => readMagnitude limit digits
  | characters => readDigits limit 0 characters

/-- Read a signed number of at least `-lowest` and at most `highest`. -/
def readSigned
    (lowest highest : Nat) :
    List Char → Except NumberFault Int
  | '-' :: digits =>
      match readMagnitude lowest digits with
      | .ok magnitude => .ok (-(magnitude : Int))
      | .error .tooLarge => .error .tooSmall
      | .error fault => .error fault
  | characters => (readUnsigned highest characters).map Int.ofNat

end ClusterClient.Text
