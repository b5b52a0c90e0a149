import ClusterClient.Bytes
import ClusterClient.Wire.Command
import ClusterClient.Wire.ProtocolFault
import ClusterClient.Wire.Status

namespace ClusterClient.Wire

/-!
# Frames

A frame is a 24-byte header followed by three sections: extras, key and value.
All numbers are big-endian.

| offset | width | field                     |
|--------|-------|---------------------------|
| 0      | 1     | magic                     |
| 1      | 1     | command                   |
| 2      | 2     | key length                |
| 4      | 1     | extras length             |
| 5      | 1     | data type                 |
| 6      | 2     | partition or status       |
| 8      | 4     | body length               |
| 12     | 4     | correlation number        |
| 16     | 8     | document version          |

The body length is the sum of the lengths of the sections. A header is refused
when its magic is unknown, its body is too large, or its extras and key exceed
its body; a frame is refused when bytes of its body are missing.
-/

/-- The fields of a frame header. -/
structure Header where
  magic : UInt8
  command : UInt8
  keyLength : UInt16
  extrasLength : UInt8
  datatype : UInt8
  partitionOrStatus : UInt16
  bodyLength : UInt32
  correlation : UInt32
  cas : UInt64
  deriving Repr, DecidableEq

namespace Header

/-- The frame is a response. -/
def isResponse (header : Header) : Bool :=
  header.magic = responseMagic

/-- The status in the header of a response. -/
def status (header : Header) : Status :=
  Status.ofCode header.partitionOrStatus

/-- The length of the value section. -/
def valueLength (header : Header) : Nat :=
  header.bodyLength.toNat - header.extrasLength.toNat -
    header.keyLength.toNat

/-- The length of the whole frame. -/
def frameLength (header : Header) : Nat :=
  headerSize + header.bodyLength.toNat

/-- The header fields in the first 24 bytes, without any check. -/
def ofBytes (bytes : Bytes) : Header where
  magic := UInt8.ofNat (numberAt bytes 0 1)
  command := UInt8.ofNat (numberAt bytes 1 1)
  keyLength := UInt16.ofNat (numberAt bytes 2 2)
  extrasLength := UInt8.ofNat (numberAt bytes 4 1)
  datatype := UInt8.ofNat (numberAt bytes 5 1)
  partitionOrStatus := UInt16.ofNat (numberAt bytes 6 2)
  bodyLength := UInt32.ofNat (numberAt bytes 8 4)
  correlation := UInt32.ofNat (numberAt bytes 12 4)
  cas := UInt64.ofNat (numberAt bytes 16 8)

/-- Read and check the header at the start of some bytes. -/
def parse (bytes : Bytes) : Except ProtocolFault Header :=
  if bytes.length < headerSize then
    .error (.incompleteHeader bytes.length)
  else
    let header := ofBytes bytes
    if header.magic ≠ requestMagic ∧ header.magic ≠ responseMagic then
      .error (.unknownMagic header.magic)
    else if maxBodySize < header.bodyLength.toNat then
      .error (.bodyTooLarge header.bodyLength.toNat)
    else if header.bodyLength.toNat <
        header.extrasLength.toNat + header.keyLength.toNat then
      .error
        (.inconsistentHeader header.extrasLength.toNat
          header.keyLength.toNat header.bodyLength.toNat)
    else
      .ok header

end Header

/-- The three sections of a frame body. -/
structure Sections where
  extras : Bytes
  key : Bytes
  value : Bytes
  deriving Repr, DecidableEq

namespace Sections

/-- The length of all sections together. -/
def length (sections : Sections) : Nat :=
  sections.extras.length + sections.key.length + sections.value.length

/-- The sections one after the other. -/
def bytes (sections : Sections) : Bytes :=
  sections.extras ++ (sections.key ++ sections.value)

end Sections

/-- A frame: its header and its sections. -/
structure Frame where
  header : Header
  sections : Sections
  deriving Repr, DecidableEq

namespace Frame

/-- Read the frame at the start of some bytes; later bytes do not matter. -/
def parse (bytes : Bytes) : Except ProtocolFault Frame :=
  match Header.parse bytes with
  | .error fault => .error fault
  | .ok header =>
      if bytes.length < header.frameLength then
        .error (.incompleteBody header.frameLength bytes.length)
      else
        let body := (bytes.drop headerSize).take header.bodyLength.toNat
        let afterExtras := body.drop header.extrasLength.toNat
        .ok {
          header := header
          sections := {
            extras := body.take header.extrasLength.toNat
            key := afterExtras.take header.keyLength.toNat
            value := afterExtras.drop header.keyLength.toNat
          }
        }

end Frame

/-- The header fields that do not follow from the sections. -/
structure Envelope where
  magic : UInt8
  command : UInt8
  datatype : UInt8
  partitionOrStatus : UInt16
  correlation : UInt32
  cas : UInt64
  deriving Repr, DecidableEq

/--
The bytes of a frame. The length fields hold the lengths of the sections, cut
to the width of their fields.
-/
def frameBytes (envelope : Envelope) (sections : Sections) : Bytes :=
  writeNumber 1 envelope.magic.toNat ++
    (writeNumber 1 envelope.command.toNat ++
    (writeNumber 2 sections.key.length ++
    (writeNumber 1 sections.extras.length ++
    (writeNumber 1 envelope.datatype.toNat ++
    (writeNumber 2 envelope.partitionOrStatus.toNat ++
    (writeNumber 4 sections.length ++
    (writeNumber 4 envelope.correlation.toNat ++
    (writeNumber 8 envelope.cas.toNat ++
      sections.bytes))))))))

/-- A request frame. -/
def requestFrame
    (command : Command)
    (datatype : UInt8)
    (partition : UInt16)
    (correlation : UInt32)
    (cas : UInt64)
    (sections : Sections) : Bytes :=
  frameBytes
    ⟨requestMagic, command.byte, datatype, partition, correlation, cas⟩
    sections

/-- A response frame. -/
def responseFrame
    (command : UInt8)
    (datatype : UInt8)
    (status : Status)
    (correlation : UInt32)
    (cas : UInt64)
    (sections : Sections) : Bytes :=
  frameBytes
    ⟨responseMagic, command, datatype, status.code, correlation, cas⟩
    sections

/--
The length of the frame that a buffer begins with, or nothing while bytes of it
are missing.
-/
def firstFrameLength
    (buffer : Bytes) : Except ProtocolFault (Option Nat) :=
  if buffer.length < headerSize then
    .ok none
  else
    match Header.parse buffer with
    | .error fault => .error fault
    | .ok header =>
        if buffer.length < header.frameLength then
          .ok none
        else
          .ok (some header.frameLength)

end ClusterClient.Wire
