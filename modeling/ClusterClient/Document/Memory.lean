import ClusterClient.Document.FieldPath
import ClusterClient.Document.Access
import ClusterClient.KeyedList

namespace ClusterClient.Document

/-!
# Documents in memory

A memory store holds documents with their versions. Every successful write
takes the next version number, which is never given out again, and a field write
is checked against the current version the way a server does it.

Replacing a whole document takes its version first and puts the document in
place afterwards; the two steps are `takeVersion` and `place`.
-/

/-- A document and its version. -/
structure Revision where
  content : Json
  cas : Wire.Cas
  deriving Repr, DecidableEq

/-- The documents of one process, and the next version number. -/
structure Memory where
  documents : List (String × Revision)
  nextCas : Wire.Cas
  deriving Repr, DecidableEq

namespace Memory

/-- A store without documents; versions start at one. -/
def empty : Memory := ⟨[], 1⟩

/-- The document with an id. -/
def find? (memory : Memory) (id : String) : Option Revision :=
  KeyedList.find? id memory.documents

/-- The number of documents. -/
def documentCount (memory : Memory) : Nat :=
  memory.documents.length

/-- There is a document with an id. -/
def contains (memory : Memory) (id : String) : Bool :=
  (memory.find? id).isSome

/-- Drop a document; the result says whether there was one. -/
def remove (memory : Memory) (id : String) : Bool × Memory :=
  (memory.contains id,
    { memory with documents := KeyedList.erase id memory.documents })

/-- Take the next version number. -/
def takeVersion (memory : Memory) : Wire.Cas × Memory :=
  (memory.nextCas, { memory with nextCas := memory.nextCas + 1 })

/-- Put a document in place. -/
def place
    (memory : Memory)
    (id : String)
    (document : Revision) : Memory :=
  { memory with
    documents := KeyedList.insert id document memory.documents }

/-- Create a document that is not there yet. -/
def insert
    (memory : Memory)
    (id : String)
    (content : Json) : Except Error Wire.Cas × Memory :=
  if memory.contains id then
    (.error (.documentExists id), memory)
  else
    let (cas, later) := memory.takeVersion
    (.ok cas, later.place id ⟨content, cas⟩)

/-- Create or replace a document. -/
def upsert
    (memory : Memory)
    (id : String)
    (content : Json) : Except Error Wire.Cas × Memory :=
  let (cas, later) := memory.takeVersion
  (.ok cas, later.place id ⟨content, cas⟩)

/-- The whole document with an id. -/
def get
    (memory : Memory)
    (id : String) : Except Error (Optimistic.Versioned Json) :=
  match memory.find? id with
  | none => .error (.documentNotFound id)
  | some document => .ok ⟨document.content, document.cas⟩

/-- The fields and the version of the object with an id. -/
def getObject
    (memory : Memory)
    (id : String) : Except Error (Optimistic.Versioned Json.Fields) :=
  match memory.find? id with
  | none => .error (.documentNotFound id)
  | some document =>
      match document.content with
      | .object fields => .ok ⟨fields, document.cas⟩
      | _ => .error (.pathMismatch "")

/-- The key that a path addresses. -/
def fieldOf (path : String) : Except Error String :=
  match keyOfPath path with
  | .ok key => .ok key
  | .error fault => .error (.invalidArgument fault)

/-- The field at a path, with the version of its document. -/
def lookupField
    (memory : Memory)
    (id path : String) : Except Error (Optimistic.Versioned (Option Json)) :=
  match fieldOf path with
  | .error error => .error error
  | .ok key =>
      match memory.getObject id with
      | .error error => .error error
      | .ok fields => .ok ⟨KeyedList.find? key fields.value, fields.cas⟩

/-- There is a field at a path. -/
def fieldExists (memory : Memory) (id path : String) : Except Error Bool :=
  match fieldOf path with
  | .error error => .error error
  | .ok key =>
      match memory.getObject id with
      | .error error => .error error
      | .ok fields => .ok (KeyedList.contains key fields.value)

/-- The number of children at a path; the empty path counts the fields. -/
def fieldCount (memory : Memory) (id path : String) : Except Error Nat :=
  if path = "" then
    match memory.getObject id with
    | .error error => .error error
    | .ok fields => .ok fields.value.length
  else
    match fieldOf path with
    | .error error => .error error
    | .ok key =>
        match memory.getObject id with
        | .error error => .error error
        | .ok fields =>
            match KeyedList.find? key fields.value with
            | some (.object children) => .ok children.length
            | some (.array children) => .ok children.length
            | some _ => .error (.pathMismatch path)
            | none => .error (.pathNotFound path)

/--
Change the fields of an object under a version precondition. The version is
compared before the document is looked into, and a new version is taken only
when the change succeeds.
-/
def changeFields
    (memory : Memory)
    (id : String)
    (cas : Wire.Cas)
    (change : Json.Fields → Except Error Json.Fields) :
    Except Error Wire.Cas × Memory :=
  match memory.find? id with
  | none => (.error (.documentNotFound id), memory)
  | some document =>
      if cas ≠ Wire.anyVersion ∧ cas ≠ document.cas then
        (.error (.casMismatch id), memory)
      else
        match document.content with
        | .object fields =>
            match change fields with
            | .error error => (.error error, memory)
            | .ok changed =>
                let (fresh, later) := memory.takeVersion
                (.ok fresh, later.place id ⟨.object changed, fresh⟩)
        | _ => (.error (.pathMismatch ""), memory)

/-- Set the field at a path. -/
def upsertField
    (memory : Memory)
    (id path : String)
    (value : Json)
    (cas : Wire.Cas) : Except Error Wire.Cas × Memory :=
  match fieldOf path with
  | .error error => (.error error, memory)
  | .ok key =>
      memory.changeFields id cas fun fields =>
        .ok (KeyedList.insert key value fields)

/-- Remove the field at a path, which must be there. -/
def removeField
    (memory : Memory)
    (id path : String)
    (cas : Wire.Cas) : Except Error Wire.Cas × Memory :=
  match fieldOf path with
  | .error error => (.error error, memory)
  | .ok key =>
      memory.changeFields id cas fun fields =>
        if KeyedList.contains key fields then
          .ok (KeyedList.erase key fields)
        else
          .error (.pathNotFound path)

/-- A memory store answers every store call in one step. -/
def store : Store Memory := fun call memory =>
  match call with
  | .insert id content => memory.insert id content
  | .upsert id content => memory.upsert id content
  | .get id => (memory.get id, memory)
  | .lookupField id path => (memory.lookupField id path, memory)
  | .fieldExists id path => (memory.fieldExists id path, memory)
  | .fieldCount id path => (memory.fieldCount id path, memory)
  | .upsertField id path value cas => memory.upsertField id path value cas
  | .removeField id path cas => memory.removeField id path cas

end Memory

end ClusterClient.Document
