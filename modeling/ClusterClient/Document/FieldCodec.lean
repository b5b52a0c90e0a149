import ClusterClient.Json.Value
import ClusterClient.KeyedList

namespace ClusterClient.Document

/-!
# Typed values of a map

The values of a map have a type with a form in JSON. Reading accepts a value
only when it has the shape and the range of the type; a whole number is never
read from a double. Records are written as objects and read from an object,
whose further fields are ignored, or from the array of their fields.
-/

/-- How values of a type are written to and read from JSON. -/
structure ValueCodec (Value : Type) where
  encode : Value → Option Json
  decode : Json → Option Value

namespace ValueCodec

/-- Any JSON value. -/
def json : ValueCodec Json where
  encode := some
  decode := some

/-- The whole number in a value. -/
def wholeNumber? : Json → Option Int
  | .whole number => some number.value
  | _ => none

/-- A value as a natural number below a limit. -/
def naturalBelow? (limit : Nat) (value : Json) : Option Nat :=
  match wholeNumber? value with
  | some number =>
      if 0 ≤ number ∧ number < limit then some number.toNat else none
  | none => none

/-- Unsigned bytes. -/
def unsigned8 : ValueCodec UInt8 where
  encode word := some (.whole (.ofUnsigned word.toUInt64))
  decode value := (naturalBelow? 0x100 value).map UInt8.ofNat

/-- Unsigned 32-bit words. -/
def unsigned32 : ValueCodec UInt32 where
  encode word := some (.whole (.ofUnsigned word.toUInt64))
  decode value := (naturalBelow? 0x100000000 value).map UInt32.ofNat

/-- Unsigned 64-bit words. -/
def unsigned64 : ValueCodec UInt64 where
  encode word := some (.whole (.ofUnsigned word))
  decode value := (naturalBelow? 0x10000000000000000 value).map UInt64.ofNat

/-- A value as a signed 64-bit word. -/
def signed64? (value : Json) : Option Int64 :=
  match wholeNumber? value with
  | some number =>
      if -0x8000000000000000 ≤ number ∧ number < 0x8000000000000000 then
        some (Int64.ofInt number)
      else
        none
  | none => none

/-- Signed 64-bit words. -/
def signed64 : ValueCodec Int64 where
  encode word := some (.whole (.ofSigned word))
  decode := signed64?

/-- A value as a text. -/
def text? : Json → Option String
  | .text content => some content
  | _ => none

/-- Texts. -/
def text : ValueCodec String where
  encode content := some (.text content)
  decode := text?

/-- Truth values. -/
def boolean : ValueCodec Bool where
  encode value := some (.boolean value)
  decode
    | .boolean value => some value
    | _ => none

/-- Lists of signed 64-bit words. -/
def signed64List : ValueCodec (List Int64) where
  encode words := some (.array (words.map fun word => .whole (.ofSigned word)))
  decode
    | .array items => items.mapM signed64?
    | _ => none

/-- A user's session and the time at which it expires. -/
structure Session where
  user : String
  expiresAt : UInt64
  deriving Repr, DecidableEq

/-- A session from its two fields. -/
def session? (user expiresAt : Json) : Option Session :=
  match text? user, unsigned64.decode expiresAt with
  | some user, some expiresAt => some ⟨user, expiresAt⟩
  | _, _ => none

/-- Sessions. -/
def session : ValueCodec Session where
  encode value :=
    some
      (.object
        [("expires_at", .whole (.ofUnsigned value.expiresAt)),
          ("user", .text value.user)])
  decode
    | .object fields =>
        match KeyedList.find? "user" fields,
            KeyedList.find? "expires_at" fields with
        | some user, some expiresAt => session? user expiresAt
        | _, _ => none
    | .array [user, expiresAt] => session? user expiresAt
    | _ => none

end ValueCodec

end ClusterClient.Document
