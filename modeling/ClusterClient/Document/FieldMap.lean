import ClusterClient.Document.Access
import ClusterClient.Document.FieldCodec
import ClusterClient.Document.FieldPath

namespace ClusterClient.Document

/-!
# Maps kept in a document

The entries of a map are the top-level fields of one document. `put` and
`remove` are guarded updates of one field, `clear` replaces the whole document
whatever others do, and the remaining operations are single reads. No lock is
taken: every operation is a program of store calls.
-/

/-- The fault of a value that cannot be converted. -/
def unexpectedShape : Error :=
  .serialization .unexpectedShape

/-- The path of a map key; the empty key is refused. -/
def keyPath (key : String) : Except Error String :=
  if key = "" then
    .error (.invalidArgument .emptyMapKey)
  else
    .ok (pathOfKey key)

/-- The JSON form of a value of a map. -/
def encodeField
    {Value : Type}
    (codec : ValueCodec Value)
    (value : Value) : Except Error Json :=
  match codec.encode value with
  | some encoded => .ok encoded
  | none => .error unexpectedShape

/-- Read a value of a map, if there is one. -/
def decodeField
    {Value : Type}
    (codec : ValueCodec Value) :
    Option Json → Except Error (Option Value)
  | none => .ok none
  | some value =>
      match codec.decode value with
      | some decoded => .ok (some decoded)
      | none => .error unexpectedShape

/-- Read all entries of an object. -/
def decodeEntries
    {Value : Type}
    (codec : ValueCodec Value) :
    Json.Fields → Except Error (List (String × Value))
  | [] => .ok []
  | (key, value) :: rest =>
      match codec.decode value with
      | none => .error unexpectedShape
      | some decoded =>
          match decodeEntries codec rest with
          | .error error => .error error
          | .ok entries => .ok ((key, decoded) :: entries)

/-- The fields of a document that is an object. -/
def objectFields : Json → Except Error Json.Fields
  | .object fields => .ok fields
  | _ => .error (.pathMismatch "")

/-- A map of texts to values, kept in the document with an id. -/
structure FieldMap where
  id : String
  settings : Settings
  deriving Repr, DecidableEq

namespace FieldMap

variable {Value : Type}

/--
Bind to a document, creating it empty if it is absent. Openers that race to
create the same document all succeed.
-/
def attach (id : String) (settings : Settings) : Action FieldMap := do
  try
    discard (perform (.insert id Json.emptyObject))
    return ⟨id, settings⟩
  catch
    | .documentExists _ => return ⟨id, settings⟩
    | error => throw error

/-- Insert or replace an entry; the result is the value it replaced. -/
def put
    (map : FieldMap)
    (codec : ValueCodec Value)
    (key : String)
    (value : Value) : Action (Option Value) := do
  let path ← keyPath key
  let encoded ← encodeField codec value
  let update := Optimistic.Update.ofSettings "put" map.settings
  let replaced ←
    ExceptT.mk
      (update.run
        (perform (.lookupField map.id path)).run
        (fun _ => pure encoded)
        (fun next cas =>
          (discard (perform (.upsertField map.id path next cas))).run)
        pause)
  decodeField codec replaced

/-- The value of an entry. -/
def get
    (map : FieldMap)
    (codec : ValueCodec Value)
    (key : String) : Action (Option Value) := do
  let path ← keyPath key
  let current ← perform (.lookupField map.id path)
  decodeField codec current.value

/-- Remove an entry; the result is the value that it held. -/
def remove
    (map : FieldMap)
    (codec : ValueCodec Value)
    (key : String) : Action (Option Value) := do
  let path ← keyPath key
  let update :=
    (Optimistic.Update.ofSettings "remove" map.settings).acceptingMissingPath
  let held ←
    ExceptT.mk
      (update.run
        (perform (.lookupField map.id path)).run
        (fun _ => pure ())
        (fun _ cas =>
          (discard (perform (.removeField map.id path cas))).run)
        pause)
  decodeField codec held

/-- There is an entry under a key. -/
def containsKey (map : FieldMap) (key : String) : Action Bool := do
  let path ← keyPath key
  perform (.fieldExists map.id path)

/-- The number of entries. -/
def size (map : FieldMap) : Action Nat :=
  perform (.fieldCount map.id "")

/-- There are no entries. -/
def isEmpty (map : FieldMap) : Action Bool := do
  let count ← map.size
  return count == 0

/-- Replace the document by an empty one. -/
def clear (map : FieldMap) : Action Unit :=
  discard (perform (.upsert map.id Json.emptyObject))

end FieldMap

end ClusterClient.Document
