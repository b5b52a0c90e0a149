import ClusterClient.Bytes
import ClusterClient.Text.Hexadecimal
import ClusterClient.Text.Quoted

namespace ClusterClient

/-!
# Rejected arguments

Everything that a caller can get wrong before a request is sent: document ids,
paths, specs, values, counters, timeouts, map keys and hexadecimal input.
-/

/-- The largest document id, in bytes. -/
def maxKeyLength : Nat := 250

/-- The largest path, in bytes. -/
def maxPathLength : Nat := 1024

/-- The largest number of specs in one multi-path operation. -/
def maxSpecs : Nat := 16

/-- The largest value, in bytes: 20 MiB. -/
def maxValueLength : Nat := 20 * 1024 * 1024

/-- Why an argument is rejected. -/
inductive ArgumentFault where
  | emptyDocumentId
  | documentIdTooLong (length : Nat)
  | negativeDelta
  | negativeInitial
  | noSpecs
  | tooManySpecs (count : Nat)
  | emptyPath
  | pathTooLong (length : Nat)
  | upsertWithoutValue (path : String)
  | removeWithValue (path : String)
  | valueTooLong (length : Nat)
  | unbalancedBacktick (path : String)
  | nestedPath (path : String)
  | emptyMapKey
  | zeroTimeout
  | invalidHexadecimal (fault : Text.HexadecimalFault)
  | described (text : String)
  deriving Repr, DecidableEq

/-- The wording of a hexadecimal fault. -/
def Text.HexadecimalFault.message : Text.HexadecimalFault → String
  | .oddLength => "Odd number of digits"
  | .invalidDigit byte position =>
      "Invalid character " ++ Text.quotedCharacter (Char.ofNat byte.toNat) ++
        " at position " ++ toString position

/-- The wording of an argument fault. -/
def ArgumentFault.message : ArgumentFault → String
  | .emptyDocumentId => "Document id cannot be empty"
  | .documentIdTooLong length =>
      "Document id is " ++ toString length ++ " bytes (max " ++
        toString maxKeyLength ++ ")"
  | .negativeDelta => "The delta cannot be less than 0"
  | .negativeInitial => "The initial needs to be >= 0"
  | .noSpecs => "At least one spec is required"
  | .tooManySpecs count =>
      toString count ++ " specs given (max " ++ toString maxSpecs ++ ")"
  | .emptyPath => "Path cannot be empty"
  | .pathTooLong length =>
      "Path is " ++ toString length ++ " bytes (max " ++
        toString maxPathLength ++ ")"
  | .upsertWithoutValue path =>
      "Upsert of path " ++ Text.quoted path ++ " needs a value"
  | .removeWithValue path =>
      "Remove of path " ++ Text.quoted path ++ " cannot carry a value"
  | .valueTooLong length =>
      "Value is " ++ toString length ++ " bytes (max " ++
        toString maxValueLength ++ ")"
  | .unbalancedBacktick path =>
      "Unbalanced backtick in path " ++ Text.quoted path
  | .nestedPath path =>
      "Only top-level field paths are supported, got " ++ Text.quoted path
  | .emptyMapKey => "Unsupported empty key"
  | .zeroTimeout => "A Timeout must be provided"
  | .invalidHexadecimal fault => "Invalid hex input: " ++ fault.message
  | .described text => text

end ClusterClient
