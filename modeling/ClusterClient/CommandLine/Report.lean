import ClusterClient.Settings
import ClusterClient.CommandLine.Arguments
import ClusterClient.Wire.RequestFrame

namespace ClusterClient.CommandLine

/-!
# What commands print

The encoding commands print one request frame in hexadecimal. The decoding
command reads a frame in hexadecimal, with ASCII blanks anywhere in it, and
prints its fields one a line. Every command needs valid settings first; the
version is printed without them.
-/

/-- The version of the program. -/
def release : String := "0.1.0"

/-- The line that names the program and its version. -/
def versionLine : String :=
  "kvlink-frame " ++ release

/-- The key of a document id, in a collection if one is given. -/
def documentKey
    (id : String)
    (collection : Option UInt32) : Except Error Wire.DocumentKey :=
  match Wire.DocumentKey.ofId id with
  | .error fault => .error (.invalidArgument fault)
  | .ok key =>
      match collection with
      | none => .ok key
      | some number => .ok (key.inCollection ⟨number⟩)

/-- The request frame of an operation, routed as the settings say. -/
def encodedLine
    (settings : Settings)
    (operation : Wire.Operation)
    (correlation : UInt32)
    (collection : Option UInt32) : String :=
  let channel : Wire.Channel :=
    { Wire.Channel.ofBucket settings.bucket with
      hasCollections := collection.isSome }
  Text.hexadecimal
    ((operation.route settings.partitionCount).encode correlation channel)

/-- A number as four hexadecimal digits behind `0x`. -/
def wordText (word : UInt16) : String :=
  "0x" ++ Text.hexadecimal (writeNumber 2 word.toNat)

/-- The name of a command byte. -/
def commandName (byte : UInt8) : String :=
  match Wire.Command.ofByte? byte with
  | some command => command.name
  | none => "Unknown"

/-- A section: its length and its bytes. -/
def sectionText (length : Nat) (bytes : Bytes) : String :=
  toString length ++ " [" ++ Text.hexadecimal bytes ++ "]"

/-- The line for the status of a response or the partition of a request. -/
def routeLine (header : Wire.Header) : String :=
  if header.isResponse then
    "status:   " ++ wordText header.partitionOrStatus ++ " (" ++
      header.status.name ++ ")"
  else
    "partition: " ++ toString header.partitionOrStatus

/-- The fields of a frame, one a line. -/
def frameLines (frame : Wire.Frame) : List String :=
  let header := frame.header
  [ "magic:    " ++ Wire.byteText header.magic,
    "opcode:   " ++ Wire.byteText header.command ++ " (" ++
      commandName header.command ++ ")",
    routeLine header,
    "datatype: " ++ Wire.byteText header.datatype,
    "extras:   " ++
      sectionText header.extrasLength.toNat frame.sections.extras,
    "key:      " ++ sectionText header.keyLength.toNat frame.sections.key,
    "value:    " ++ sectionText header.valueLength frame.sections.value,
    "opaque:   " ++ toString header.correlation,
    "cas:      " ++ toString header.cas ]

/-- Read bytes in hexadecimal with ASCII blanks anywhere. -/
def readBytes (digits : String) : Except Error Bytes :=
  let visible := digits.toList.filter fun character =>
    !Text.isAsciiBlank character
  match Text.readHexadecimal (Text.encode (String.ofList visible)) with
  | .ok bytes => .ok bytes
  | .error fault => .error (.invalidArgument (.invalidHexadecimal fault))

/-- The lines that a command prints. -/
def Command.lines (settings : Settings) : Command → Except Error (List String)
  | .encodeIncrement id delta initial expiry collection correlation =>
      match Wire.CounterChange.ofSigned delta initial expiry with
      | .error fault => .error (.invalidArgument fault)
      | .ok counter =>
          (documentKey id collection).map fun key =>
            [encodedLine settings (.increment key counter) correlation
              collection]
  | .encodeGetMeta id collection =>
      (documentKey id collection).map fun key =>
        [encodedLine settings (.getMeta key) 1 collection]
  | .decode digits => do
      let bytes ← readBytes digits
      match Wire.Frame.parse bytes with
      | .ok frame => return frameLines frame
      | .error fault => throw (.protocol fault)

/-- How a run ends. -/
inductive Ending where
  | helped
  | misused
  | failed (log : String)
  | printed (lines : List String)
  deriving Repr, DecidableEq

/-- The exit code of a run. -/
def Ending.exitCode : Ending → UInt32
  | .helped => 0
  | .misused => 2
  | .failed _ => 1
  | .printed _ => 0

/-- How a run without a command ends. -/
def Stop.ending : Stop → Ending
  | .help => .helped
  | .version => .printed [versionLine]
  | .misuse => .misused

/-- Run a command line; `setting` is the retry limit of the environment. -/
def run (arguments : List String) (setting : Option String) : Ending :=
  match readCommand arguments with
  | .error stop => stop.ending
  | .ok command =>
      match Settings.ofEnvironment setting with
      | .error fault =>
          .failed ("Invalid configuration: " ++ (Error.settings fault).message)
      | .ok settings =>
          match command.lines settings with
          | .error error => .failed error.message
          | .ok lines => .printed lines

end ClusterClient.CommandLine
