import ClusterClient.Client.RemoteStore
import ClusterClient.Proofs.Text.Numerals

namespace ClusterClient

/-!
# How long the texts of documents are, and counts in decimal

The text of an object is longer than the text of any of its fields, and it has
more bytes than the object has fields. So what a server reports about a part of
a document is no longer than the document, and the number of its fields is a
count that the client reads back.
-/

namespace Text

/-- The bytes that characters take in UTF-8. -/
def extent (characters : List Char) : Nat :=
  (String.ofList characters).utf8ByteSize

@[simp] theorem extent_nil : extent [] = 0 := rfl

@[simp] theorem extent_cons (character : Char) (rest : List Char) :
    extent (character :: rest) = character.utf8Size + extent rest := by
  rw [extent, String.ofList_cons, String.utf8ByteSize_append,
    String.utf8ByteSize_singleton]
  rfl

@[simp] theorem extent_append (first second : List Char) :
    extent (first ++ second) = extent first + extent second := by
  rw [extent, String.ofList_append, String.utf8ByteSize_append]
  rfl

/-- No character takes more than four bytes. -/
theorem extent_le (characters : List Char) :
    extent characters ≤ 4 * characters.length := by
  induction characters with
  | nil => exact Nat.le_refl 0
  | cons character rest inductionHypothesis =>
      have size := character.utf8Size_le_four
      rw [extent_cons, List.length_cons]
      omega

end Text

namespace Json

open Text

/-! Parts of a document. -/

/-- Items take a byte each at least. -/
theorem length_le_extent_itemCharacters (items : List Json) :
    items.length ≤ extent (itemCharacters items) := by
  induction items with
  | nil => exact Nat.le_refl 0
  | cons item rest inductionHypothesis =>
      have comma : Char.utf8Size ',' = 1 := rfl
      simp only [itemCharacters, List.length_cons, List.cons_append,
        extent_cons, extent_append, comma]
      omega

theorem length_le_extent_fieldCharacters (fields : Fields) :
    fields.length ≤ extent (fieldCharacters fields) := by
  induction fields with
  | nil => exact Nat.le_refl 0
  | cons field rest inductionHypothesis =>
      have comma : Char.utf8Size ',' = 1 := rfl
      simp only [fieldCharacters, List.length_cons, List.cons_append,
        extent_cons, extent_append, comma]
      omega

/-- An array has more bytes than its items with a comma before each. -/
theorem extent_itemCharacters_lt (items : List Json) :
    extent (itemCharacters items) < extent (array items).characters := by
  have bracket : Char.utf8Size '[' = 1 := rfl
  have comma : Char.utf8Size ',' = 1 := rfl
  have closing : Char.utf8Size ']' = 1 := rfl
  cases items with
  | nil => simp [itemCharacters, characters, bracket, closing]
  | cons item rest =>
      simp [itemCharacters, characters, bracket, comma, closing]

theorem extent_fieldCharacters_lt (fields : Fields) :
    extent (fieldCharacters fields) < extent (object fields).characters := by
  have brace : Char.utf8Size '\x7b' = 1 := rfl
  have comma : Char.utf8Size ',' = 1 := rfl
  have closing : Char.utf8Size '\x7d' = 1 := rfl
  cases fields with
  | nil => simp [fieldCharacters, characters, brace, closing]
  | cons field rest =>
      simp [fieldCharacters, characters, brace, comma, closing]

theorem extent_le_of_find?
    {key : String}
    {fields : Fields}
    {value : Json}
    (found : KeyedList.find? key fields = some value) :
    extent value.characters ≤ extent (fieldCharacters fields) := by
  induction fields with
  | nil => cases found
  | cons field rest inductionHypothesis =>
      rw [KeyedList.find?] at found
      simp only [fieldCharacters, List.cons_append, extent_cons, extent_append]
      split at found
      · cases found
        omega
      · have later := inductionHypothesis found
        omega

end Json

namespace Client

open Text

theorem length_encodeJson (value : Json) :
    (encodeJson value).length = extent value.characters :=
  Text.length_encode _

/-- An array has more bytes than items. -/
theorem length_items_lt (items : List Json) :
    items.length < (encodeJson (.array items)).length :=
  Nat.lt_of_le_of_lt (Json.length_le_extent_itemCharacters items)
    (length_encodeJson _ ▸ Json.extent_itemCharacters_lt items)

theorem length_fields_lt (fields : Json.Fields) :
    fields.length < (encodeJson (.object fields)).length :=
  Nat.lt_of_le_of_lt (Json.length_le_extent_fieldCharacters fields)
    (length_encodeJson _ ▸ Json.extent_fieldCharacters_lt fields)

/-- The text of a field is shorter than that of its object. -/
theorem length_encodeJson_lt_of_find?
    {key : String}
    {fields : Json.Fields}
    {value : Json}
    (found : KeyedList.find? key fields = some value) :
    (encodeJson value).length < (encodeJson (.object fields)).length := by
  rw [length_encodeJson, length_encodeJson]
  exact
    Nat.lt_of_le_of_lt (Json.extent_le_of_find? found)
      (Json.extent_fieldCharacters_lt fields)

/-- The decimal text of a count is short. -/
theorem length_encode_toString_le
    {count : Nat}
    (inRange : count ≤ largestCount) :
    (Text.encode (toString count)).length ≤ 80 := by
  have digits : (Nat.toDigits 10 count).length ≤ 20 := by
    apply (Nat.length_toDigits_le_iff (by decide) (by decide)).mpr
    exact Nat.lt_of_le_of_lt inRange (by decide)
  have bytes := extent_le (Nat.toDigits 10 count)
  rw [Text.length_encode, Nat.toString_eq_repr, Nat.repr_eq_ofList_toDigits]
  exact Nat.le_trans bytes (Nat.mul_le_mul_left 4 digits)

/-- A count within its limit is read back from its decimal text. -/
theorem readCount?_encode_toString
    {count : Nat}
    (inRange : count ≤ largestCount) :
    readCount? (Text.encode (toString count)) = some count := by
  have digits : ∀ character ∈ Nat.toDigits 10 count,
      isBlank character = false := fun character member =>
    isBlank_of_isDigit
      (Nat.isDigit_of_mem_toDigits (by decide) (by decide) member)
  rw [readCount?, Text.decode?_encode]
  dsimp only
  rw [Nat.toString_eq_repr, Nat.toList_repr, trimBlank_eq_self digits,
    readUnsigned_toDigits inRange]
  rfl

end Client

end ClusterClient
