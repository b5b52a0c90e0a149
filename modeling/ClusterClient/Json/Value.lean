import ClusterClient.Json.Double

namespace ClusterClient

/-!
# JSON documents

A document is a tree of values. Whole numbers between the least signed and the
greatest unsigned 64-bit number stay whole; every other number is a double. The
fields of an object stand in the order of their keys, one field to a key;
`Fields.insert`, `Fields.erase` and `Fields.find?` keep and use that order.
-/

namespace Json

/-- A whole number that fits a signed or an unsigned 64-bit word. -/
structure WholeNumber where
  value : Int
  lower : -0x8000000000000000 ≤ value
  upper : value < 0x10000000000000000
  deriving Repr, DecidableEq

/-- The whole number of a given value, if it is in range. -/
def WholeNumber.ofInt? (value : Int) : Option WholeNumber :=
  if lower : -0x8000000000000000 ≤ value then
    if upper : value < 0x10000000000000000 then
      some ⟨value, lower, upper⟩
    else
      none
  else
    none

/-- An unsigned word as a whole number. -/
def WholeNumber.ofUnsigned (word : UInt64) : WholeNumber where
  value := word.toNat
  lower := by omega
  upper := by
    have bound := word.toNat_lt
    omega

/-- A signed word as a whole number. -/
def WholeNumber.ofSigned (word : Int64) : WholeNumber where
  value := word.toInt
  lower := by
    have bound := word.le_toInt
    omega
  upper := by
    have bound := word.toInt_lt
    omega

end Json

/-- A JSON value. -/
inductive Json where
  | null
  | boolean (value : Bool)
  | whole (value : Json.WholeNumber)
  | real (value : Json.Double)
  | text (value : String)
  | array (items : List Json)
  | object (fields : List (String × Json))
  deriving Repr

namespace Json

instance : Inhabited Json := ⟨.null⟩

/-- The fields of an object, each under its key. -/
abbrev Fields := List (String × Json)

mutual

/-- Equality of documents is decidable. -/
def decideEq : (left right : Json) → Decidable (left = right)
  | .null, .null => isTrue rfl
  | .boolean left, .boolean right =>
      if same : left = right then
        isTrue (by rw [same])
      else
        isFalse (by simpa using same)
  | .whole left, .whole right =>
      if same : left = right then
        isTrue (by rw [same])
      else
        isFalse (by simpa using same)
  | .real left, .real right =>
      if same : left = right then
        isTrue (by rw [same])
      else
        isFalse (by simpa using same)
  | .text left, .text right =>
      if same : left = right then
        isTrue (by rw [same])
      else
        isFalse (by simpa using same)
  | .array left, .array right =>
      match decideEqItems left right with
      | isTrue same => isTrue (by rw [same])
      | isFalse different => isFalse (by simpa using different)
  | .object left, .object right =>
      match decideEqFields left right with
      | isTrue same => isTrue (by rw [same])
      | isFalse different => isFalse (by simpa using different)
  | .null, .boolean _ | .null, .whole _ | .null, .real _ | .null, .text _
  | .null, .array _ | .null, .object _
  | .boolean _, .null | .boolean _, .whole _ | .boolean _, .real _
  | .boolean _, .text _ | .boolean _, .array _ | .boolean _, .object _
  | .whole _, .null | .whole _, .boolean _ | .whole _, .real _
  | .whole _, .text _ | .whole _, .array _ | .whole _, .object _
  | .real _, .null | .real _, .boolean _ | .real _, .whole _
  | .real _, .text _ | .real _, .array _ | .real _, .object _
  | .text _, .null | .text _, .boolean _ | .text _, .whole _
  | .text _, .real _ | .text _, .array _ | .text _, .object _
  | .array _, .null | .array _, .boolean _ | .array _, .whole _
  | .array _, .real _ | .array _, .text _ | .array _, .object _
  | .object _, .null | .object _, .boolean _ | .object _, .whole _
  | .object _, .real _ | .object _, .text _ | .object _, .array _ =>
      isFalse (by simp)

/-- Equality of lists of documents is decidable. -/
def decideEqItems : (left right : List Json) → Decidable (left = right)
  | [], [] => isTrue rfl
  | [], _ :: _ => isFalse (by simp)
  | _ :: _, [] => isFalse (by simp)
  | left :: leftRest, right :: rightRest =>
      match decideEq left right, decideEqItems leftRest rightRest with
      | isTrue sameHead, isTrue sameRest =>
          isTrue (by rw [sameHead, sameRest])
      | isFalse different, _ => isFalse (by simp [different])
      | _, isFalse different => isFalse (by simp [different])

/-- Equality of lists of fields is decidable. -/
def decideEqFields :
    (left right : List (String × Json)) → Decidable (left = right)
  | [], [] => isTrue rfl
  | [], _ :: _ => isFalse (by simp)
  | _ :: _, [] => isFalse (by simp)
  | (leftKey, left) :: leftRest, (rightKey, right) :: rightRest =>
      match decEq leftKey rightKey, decideEq left right,
          decideEqFields leftRest rightRest with
      | isTrue sameKey, isTrue sameHead, isTrue sameRest =>
          isTrue (by rw [sameKey, sameHead, sameRest])
      | isFalse different, _, _ => isFalse (by simp [different])
      | _, isFalse different, _ => isFalse (by simp [different])
      | _, _, isFalse different => isFalse (by simp [different])

end

instance : DecidableEq Json := decideEq

/-- The empty object. -/
def emptyObject : Json := .object []

end Json

end ClusterClient
