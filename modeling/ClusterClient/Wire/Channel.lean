import ClusterClient.Bytes
import ClusterClient.Text.Utf8

namespace ClusterClient.Wire

/-!
# Channels, collections and partitions

What a connection negotiated decides how keys are written and whether mutation
tokens are read. A key is qualified by its collection in unsigned LEB128, seven
bits to a byte with the lowest bits first, and is assigned to a partition by
the CRC-32 of its id.
-/

/-- What a connection negotiated with the server. -/
structure Channel where
  hasCollections : Bool
  hasMutationTokens : Bool
  bucket : String
  deriving Repr, DecidableEq

/-- A channel without optional capabilities. -/
def Channel.ofBucket (bucket : String) : Channel where
  hasCollections := false
  hasMutationTokens := false
  bucket := bucket

/-- The number of a collection inside a bucket. -/
structure Collection where
  number : UInt32
  deriving Repr, DecidableEq

/-- The collection that holds keys of no other collection. -/
def Collection.default : Collection := ⟨0⟩

/-- A number in unsigned LEB128. -/
def leb128 (value : Nat) : Bytes :=
  if value < 128 then
    [UInt8.ofNat value]
  else
    UInt8.ofNat (value % 128 + 128) :: leb128 (value / 128)

/-- A collection number in unsigned LEB128. -/
def Collection.leb128 (collection : Collection) : Bytes :=
  Wire.leb128 collection.number.toNat

/--
The key section for a document id: the id alone, or behind its collection when
the channel knows collections.
-/
def wireKey
    (id : String)
    (collection : Collection)
    (channel : Channel) : Bytes :=
  if channel.hasCollections then
    collection.leb128 ++ Text.encode id
  else
    Text.encode id

/-- The reflected generator polynomial of CRC-32. -/
def crcPolynomial : UInt32 := 0xedb88320

/-- One bit of the CRC-32 register. -/
def crcBit (register : UInt32) : UInt32 :=
  if register &&& 1 = 1 then
    (register >>> 1) ^^^ crcPolynomial
  else
    register >>> 1

/-- One byte of the CRC-32 register. -/
def crcByte (register : UInt32) (byte : UInt8) : UInt32 :=
  Nat.repeat crcBit 8 (register ^^^ byte.toUInt32)

/-- The standard CRC-32 of some bytes. -/
def crc32 (bytes : Bytes) : UInt32 :=
  bytes.foldl crcByte 0xffffffff ^^^ 0xffffffff

/--
The partition of a key: fifteen bits from the upper half of its CRC-32, reduced
to the number of partitions. Without partitions every key is on partition 0.
-/
def partitionOfKey (key : Bytes) (partitionCount : UInt16) : UInt16 :=
  if partitionCount = 0 then
    0
  else
    let hashed := (crc32 key >>> 16) &&& 0x7fff
    UInt16.ofNat (hashed.toNat % partitionCount.toNat)

end ClusterClient.Wire
