import ClusterClient.Wire.Frame
import ClusterClient.Wire.Operation

namespace ClusterClient.Wire

/-!
# Request frames

Every operation has exactly one request frame for a given correlation number
and channel. Documents carry flags and an expiry in their extras, counters
their delta, initial value and expiry; multi-path operations carry their specs
one after the other in the value section.
-/

/-- The flags that mark a document as JSON. -/
def jsonDocumentFlags : UInt32 := 0x02000006

/-- The expiry that tells the server not to create a missing counter. -/
def doNotCreateExpiry : UInt32 := 0xffffffff

/-- The version of the metadata that is asked for. -/
def metadataVersion : UInt8 := 0x02

/-- The extras of a document: flags and expiry. -/
def contentExtras (expiry : UInt32) : Bytes :=
  writeNumber 4 jsonDocumentFlags.toNat ++ writeNumber 4 expiry.toNat

/--
The extras of a counter: delta, initial value and expiry. Without an initial
value the expiry asks the server to fail on a missing counter.
-/
def CounterChange.extras (counter : CounterChange) : Bytes :=
  let (initial, expiry) :=
    match counter.initial with
    | some initial => (initial, counter.expiry)
    | none => (0, doNotCreateExpiry)
  writeNumber 8 counter.delta.toNat ++
    (writeNumber 8 initial.toNat ++ writeNumber 4 expiry.toNat)

/-- The extras of a mutation: its expiry, unless that is zero. -/
def mutationExtras (expiry : UInt32) : Bytes :=
  if expiry = 0 then [] else writeNumber 4 expiry.toNat

/-- One lookup: command, flags, path length and path. -/
def lookupRecord (spec : LookupSpec) : Bytes :=
  [spec.command.byte, noPathFlags] ++
    (writeNumber 2 spec.path.utf8ByteSize ++ Text.encode spec.path)

/--
One mutation: command, flags, path length, value length, path and value.
-/
def mutationRecord (spec : MutationSpec) : Bytes :=
  let flags := if spec.createParents then createParentsFlag else noPathFlags
  [spec.command.byte, flags] ++
    (writeNumber 2 spec.path.utf8ByteSize ++
    (writeNumber 4 spec.value.length ++
    (Text.encode spec.path ++ spec.value)))

/-- The lookups of a body one after the other. -/
def lookupRecords (specs : List LookupSpec) : Bytes :=
  (specs.map lookupRecord).flatten

/-- The mutations of a body one after the other. -/
def mutationRecords (specs : List MutationSpec) : Bytes :=
  (specs.map mutationRecord).flatten

namespace Operation

/-- The data type of the value of a request. -/
def datatype : Operation → UInt8
  | .insert .. | .upsert .. => jsonDatatype
  | _ => rawDatatype

/-- The extras section of a request. -/
def extras : Operation → Bytes
  | .insert _ _ expiry => contentExtras expiry
  | .upsert _ _ expiry _ => contentExtras expiry
  | .increment _ counter => counter.extras
  | .decrement _ counter => counter.extras
  | .getMeta _ => [metadataVersion]
  | .mutateIn _ _ _ expiry => mutationExtras expiry
  | .get _ | .lookupIn .. => []

/-- The value section of a request. -/
def value : Operation → Bytes
  | .insert _ content _ => content.bytes
  | .upsert _ content _ _ => content.bytes
  | .lookupIn _ specs => lookupRecords specs.specs
  | .mutateIn _ specs _ _ => mutationRecords specs.specs
  | .get _ | .increment .. | .decrement .. | .getMeta _ => []

/-- The key section of a request. -/
def wireKey (operation : Operation) (channel : Channel) : Bytes :=
  Wire.wireKey operation.key.id operation.key.collection channel

/-- The request frame of an operation. -/
def encode
    (operation : Operation)
    (correlation : UInt32)
    (channel : Channel) : Bytes :=
  requestFrame operation.command operation.datatype operation.key.partition
    correlation operation.cas
    ⟨operation.extras, operation.wireKey channel, operation.value⟩

end Operation

end ClusterClient.Wire
