import ClusterClient.Document.FieldMap

namespace ClusterClient.Document

/-!
# Snapshots of maps

A snapshot holds the entries of a map as of one read. Changes through a
snapshot are made to the map first and to the snapshot only when they succeed.
-/

/-- The entries of a map as of one read, in the order of their keys. -/
structure MapSnapshot (Value : Type) where
  map : FieldMap
  entries : List (String × Value)
  deriving Repr

/-- All entries of a map at the time of the call. -/
def FieldMap.entries
    {Value : Type}
    (map : FieldMap)
    (codec : ValueCodec Value) : Action (MapSnapshot Value) := do
  let document ← perform (.get map.id)
  let fields ← objectFields document.value
  let entries ← decodeEntries codec fields
  return ⟨map, entries⟩

namespace MapSnapshot

variable {Value : Type}

/-- The number of entries. -/
def size (snapshot : MapSnapshot Value) : Nat :=
  snapshot.entries.length

/-- There are no entries. -/
def isEmpty (snapshot : MapSnapshot Value) : Bool :=
  snapshot.entries.isEmpty

/-- The value of an entry. -/
def find? (snapshot : MapSnapshot Value) (key : String) : Option Value :=
  KeyedList.find? key snapshot.entries

/-- The keys in order. -/
def keys (snapshot : MapSnapshot Value) : List String :=
  snapshot.entries.map Prod.fst

/--
Remove an entry from the map and then from the snapshot, which is returned
beside the result. A key that is not in the snapshot is left alone.
-/
def remove
    (snapshot : MapSnapshot Value)
    (codec : ValueCodec Value)
    (key : String) : Action (Option Value × MapSnapshot Value) :=
  if KeyedList.contains key snapshot.entries then do
    let held ← snapshot.map.remove codec key
    return (held,
      { snapshot with entries := KeyedList.erase key snapshot.entries })
  else
    return (none, snapshot)

/-- Write an entry to the map and then to the snapshot. -/
def set
    (snapshot : MapSnapshot Value)
    (codec : ValueCodec Value)
    (key : String)
    (value : Value) : Action (Option Value × MapSnapshot Value) := do
  let replaced ← snapshot.map.put codec key value
  return (replaced,
    { snapshot with
      entries := KeyedList.insert key value snapshot.entries })

/-- Clear the map and then the snapshot. -/
def clear
    (snapshot : MapSnapshot Value) :
    Action (Unit × MapSnapshot Value) := do
  snapshot.map.clear
  return ((), { snapshot with entries := [] })

end MapSnapshot

end ClusterClient.Document
