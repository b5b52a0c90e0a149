import ClusterClient.Text.Hexadecimal
import ClusterClient.Text.Quoted

namespace ClusterClient.Wire

/-!
# Protocol faults

Everything that can be wrong with the bytes of a frame: its header, the extent
of its body, its fit to the request, and the records inside multi-path bodies.
-/

/-- The size of a frame header, in bytes. -/
def headerSize : Nat := 24

/-- The largest body of a frame, in bytes: 21 MiB. -/
def maxBodySize : Nat := 21 * 1024 * 1024

/-- What is wrong with a frame or with the answer that it carries. -/
inductive ProtocolFault where
  | incompleteHeader (available : Nat)
  | unknownMagic (magic : UInt8)
  | bodyTooLarge (length : Nat)
  | inconsistentHeader (extras key body : Nat)
  | incompleteBody (expected available : Nat)
  | notResponse (magic : UInt8)
  | wrongCommand (command : UInt8) (operation : String) (expected : UInt8)
  | compressed
  | counterTruncated (available : Nat)
  | lookupHeaderTruncated (index : Nat)
  | lookupValueTruncated (index declared available : Nat)
  | lookupCount (expected available : Nat)
  | mutationHeaderTruncated
  | mutationIndexOutOfRange (index count : Nat)
  | mutationValueTruncated (index declared available : Nat)
  | multiPathFailureTruncated (available : Nat)
  | failingIndexOutOfRange (index count : Nat)
  | noLookupResults
  | countNotNumber (path : String)
  | described (text : String)
  deriving Repr, DecidableEq

/-- A byte as two hexadecimal digits behind `0x`. -/
def byteText (byte : UInt8) : String :=
  "0x" ++ Text.hexadecimal [byte]

/-- The wording of a protocol fault. -/
def ProtocolFault.message : ProtocolFault → String
  | .incompleteHeader available =>
      "Incomplete header: expected " ++ toString headerSize ++
        " bytes, got " ++ toString available
  | .unknownMagic magic => "Unknown magic byte: " ++ byteText magic
  | .bodyTooLarge length =>
      "Body too large: " ++ toString length ++ " bytes (max " ++
        toString maxBodySize ++ ")"
  | .inconsistentHeader extras key body =>
      "Inconsistent header: extras (" ++ toString extras ++ ") + key (" ++
        toString key ++ ") exceed body length " ++ toString body
  | .incompleteBody expected available =>
      "Incomplete body: expected " ++ toString expected ++
        " bytes, got " ++ toString available
  | .notResponse magic =>
      "Expected a response frame, got magic " ++ byteText magic
  | .wrongCommand command operation expected =>
      "Response opcode " ++ byteText command ++ " does not answer " ++
        operation ++ " (" ++ byteText expected ++ ")"
  | .compressed =>
      "Compressed response received but compression was not negotiated"
  | .counterTruncated available =>
      "Counter value truncated: expected 8 bytes, got " ++ toString available
  | .lookupHeaderTruncated index =>
      "Lookup result " ++ toString index ++ " truncated in its header"
  | .lookupValueTruncated index declared available =>
      "Lookup result " ++ toString index ++ " declares " ++
        toString declared ++ " bytes, " ++ toString available ++ " remain"
  | .lookupCount expected available =>
      "Expected " ++ toString expected ++ " lookup results, got " ++
        toString available
  | .mutationHeaderTruncated => "Mutation result truncated in its header"
  | .mutationIndexOutOfRange index count =>
      "Mutation result index " ++ toString index ++ " out of range (" ++
        toString count ++ " specs)"
  | .mutationValueTruncated index declared available =>
      "Mutation result " ++ toString index ++ " declares " ++
        toString declared ++ " bytes, " ++ toString available ++ " remain"
  | .multiPathFailureTruncated available =>
      "Multi-path failure body truncated: expected 3 bytes, got " ++
        toString available
  | .failingIndexOutOfRange index count =>
      "Failing spec index " ++ toString index ++ " out of range (" ++
        toString count ++ " specs)"
  | .noLookupResults => "Lookup returned no results"
  | .countNotNumber path =>
      "Count of " ++ Text.quoted path ++ " is not a number"
  | .described text => text

end ClusterClient.Wire
