import ClusterClient.CommandLine.Report
import ClusterClient.Proofs.CommandLine.Options
import ClusterClient.Proofs.Text.Hexadecimal
import ClusterClient.Proofs.Wire.CounterExtras
import ClusterClient.Proofs.Wire.Partitions

namespace ClusterClient.CommandLine

/-!
# Decoding what was encoded

The decoding command drops the ASCII blanks of its text and reads the rest in
hexadecimal, so it accepts every spelling of some bytes, and it prints the frame
that these bytes begin with. The encoding commands print the frame of an
operation that was routed among the partitions of the settings. What they print
is therefore decoded to the fields of this frame, however it is spelled.
-/

/-- The run ends well and prints these lines. -/
def Ending.Prints (ending : Ending) (lines : List String) : Prop :=
  ending = .printed lines ∧ ending.exitCode = 0

/-- The run fails with an error that begins with this text. -/
def Ending.FailsWith (ending : Ending) (text : String) : Prop :=
  (∃ rest, ending = .failed (text ++ rest)) ∧ ending.exitCode = 1

/-- How an error about digits begins. -/
def invalidHexadecimal : String :=
  "Invalid argument: Invalid hex input: "

/-- How an error about a frame begins. -/
def protocolError : String :=
  "Protocol error: "

namespace Ending

variable {ending : Ending} {lines : List String}

/-- A run that ends well does not fail. -/
theorem Prints.not_failsWith
    (prints : ending.Prints lines)
    (text : String) : ¬ ending.FailsWith text := by
  rintro ⟨⟨rest, failed⟩, -⟩
  cases prints.1.symm.trans failed

/-- An error about a frame is not one about digits. -/
theorem FailsWith.not_invalidHexadecimal
    (fails : ending.FailsWith protocolError) :
    ¬ ending.FailsWith invalidHexadecimal := by
  rintro ⟨⟨other, isOther⟩, -⟩
  obtain ⟨⟨rest, failed⟩, -⟩ := fails
  have same : protocolError ++ rest = invalidHexadecimal ++ other :=
    Ending.failed.inj (failed.symm.trans isOther)
  have first := congrArg (fun text => text.toList.head?) same
  simp [protocolError, invalidHexadecimal, String.toList_append] at first

end Ending

/-! Reading bytes. -/

/-- The characters of a text that are not ASCII blanks. -/
def visible (text : String) : List Char :=
  text.toList.filter fun character => !Text.isAsciiBlank character

/--
A text spells some bytes when, without its ASCII blanks and in lower case, it is
what is written for them.
-/
def Spells (text : String) (bytes : Bytes) : Prop :=
  (visible text).map Char.toLower = (Text.hexadecimal bytes).toList

theorem readBytes_eq_ok_iff {text : String} {bytes : Bytes} :
    readBytes text = .ok bytes ↔ Spells text bytes := by
  rw [Spells, ← Text.readHexadecimal_encode_eq_ok_iff, readBytes, ← visible]
  cases Text.readHexadecimal (Text.encode (String.ofList (visible text))) <;>
    simp

/-- Text that cannot be read gets an error about its digits. -/
theorem readBytes_eq_error
    {text : String}
    (unreadable : ¬ Text.IsHexadecimal (visible text)) :
    ∃ fault,
      readBytes text =
        .error (.invalidArgument (.invalidHexadecimal fault)) := by
  cases read : readBytes text with
  | ok bytes =>
      have spells := readBytes_eq_ok_iff.mp read
      exact (unreadable (Text.isHexadecimal_of_written spells)).elim
  | error error =>
      unfold readBytes at read
      dsimp only at read
      split at read
      · cases read
      · cases read
        exact ⟨_, rfl⟩

/-! The decoding command. -/

/-- A text that does not look like an option is a text to decode. -/
theorem readCommand_decode
    {text : String}
    (plain : text.toList.head? ≠ some '-') :
    readCommand ["decode", text] = .ok (.decode text) := by
  have isPlain : shapeOf text = .plain := by
    unfold shapeOf
    split
    · rename_i dashes
      simp [dashes] at plain
    · rename_i dashes
      simp [dashes] at plain
    · rename_i dash
      simp [dash] at plain
    · rfl
  change readDecode [text] = _
  rw [readDecode, readArguments, isPlain]
  rfl

/-- What spells some bytes does not look like an option. -/
theorem Spells.plain
    {text : String}
    {bytes : Bytes}
    (spells : Spells text bytes) : text.toList.head? ≠ some '-' := by
  intro minus
  have isVisible : '-' ∈ visible text :=
    List.mem_filter.mpr ⟨List.mem_of_head? minus, rfl⟩
  have isDigit := (Text.isHexadecimal_of_written spells).digits '-' isVisible
  revert isDigit
  unfold Text.IsHexadecimalDigit
  decide

section Runs

variable {setting : Option String} {settings : Settings}
variable (valid : Settings.ofEnvironment setting = .ok settings)

include valid

/-- With valid settings a run prints the lines of its command. -/
theorem run_of_lines
    {arguments : List String}
    {command : Command}
    {lines : List String}
    (read : readCommand arguments = .ok command)
    (isPrinted : command.lines settings = .ok lines) :
    (run arguments setting).Prints lines := by
  have printed : run arguments setting = .printed lines := by
    simp only [run, read, valid, isPrinted]
  rw [printed]
  exact ⟨rfl, rfl⟩

/-- With valid settings a run fails with the error of its command. -/
theorem run_of_error
    {arguments : List String}
    {command : Command}
    {error : Error}
    {text rest : String}
    (read : readCommand arguments = .ok command)
    (isError : command.lines settings = .error error)
    (isMessage : error.message = text ++ rest) :
    (run arguments setting).FailsWith text := by
  have failed : run arguments setting = .failed (text ++ rest) := by
    simp only [run, read, valid, isError, isMessage]
  rw [failed]
  exact ⟨⟨rest, rfl⟩, rfl⟩

/-- Bytes that begin with a frame are decoded, however they are spelled. -/
theorem run_decode_of_frame
    {text : String}
    {bytes : Bytes}
    {frame : Wire.Frame}
    (spells : Spells text bytes)
    (parsed : Wire.Frame.parse bytes = .ok frame) :
    (run ["decode", text] setting).Prints (frameLines frame) := by
  apply run_of_lines valid (readCommand_decode spells.plain)
  simp only [Command.lines, readBytes_eq_ok_iff.mpr spells, parsed, bind,
    Except.bind, pure, Except.pure]

/-- Bytes that do not begin with a frame are an error of the protocol. -/
theorem run_decode_of_fault
    {text : String}
    {bytes : Bytes}
    {fault : Wire.ProtocolFault}
    (spells : Spells text bytes)
    (refused : Wire.Frame.parse bytes = .error fault) :
    (run ["decode", text] setting).FailsWith protocolError := by
  have isError :
      (Command.decode text).lines settings = .error (.protocol fault) := by
    simp only [Command.lines, readBytes_eq_ok_iff.mpr spells, refused, bind,
      Except.bind, throw, throwThe, MonadExceptOf.throw]
  exact run_of_error valid (readCommand_decode spells.plain) isError rfl

/-- What is not hexadecimal is an error about the digits. -/
theorem run_decode_of_unreadable
    {text : String}
    (plain : text.toList.head? ≠ some '-')
    (unreadable : ¬ Text.IsHexadecimal (visible text)) :
    (run ["decode", text] setting).FailsWith invalidHexadecimal := by
  obtain ⟨fault, read⟩ := readBytes_eq_error unreadable
  have isError :
      (Command.decode text).lines settings =
        .error (.invalidArgument (.invalidHexadecimal fault)) := by
    simp only [Command.lines, read, bind, Except.bind]
  apply run_of_error valid (readCommand_decode plain) isError
  change
    "Invalid argument: " ++ ("Invalid hex input: " ++ fault.message) =
      invalidHexadecimal ++ fault.message
  rw [← String.append_assoc]
  rfl

/-- Bytes are decoded just when they begin with a well-formed frame. -/
theorem prints_iff_of_spells
    {text : String}
    {bytes : Bytes}
    (spells : Spells text bytes) :
    (∃ lines, (run ["decode", text] setting).Prints lines) ↔
      ∃ frame : Wire.Frame, frame.IsWellFormed ∧ frame.bytes <+: bytes := by
  simp only [← Wire.Frame.parse_eq_ok_iff]
  cases parsed : Wire.Frame.parse bytes with
  | ok frame =>
      exact
        iff_of_true ⟨_, run_decode_of_frame valid spells parsed⟩ ⟨frame, rfl⟩
  | error fault =>
      refine iff_of_false ?_ nofun
      rintro ⟨lines, prints⟩
      exact prints.not_failsWith _ (run_decode_of_fault valid spells parsed)

/-- Only the digits of a text can be why it fails with an error about them. -/
theorem failsWith_invalidHexadecimal_iff
    {text : String}
    (plain : text.toList.head? ≠ some '-') :
    (run ["decode", text] setting).FailsWith invalidHexadecimal ↔
      ¬ Text.IsHexadecimal (visible text) := by
  refine ⟨fun fails isHexadecimal => ?_, run_decode_of_unreadable valid plain⟩
  obtain ⟨bytes, spells⟩ :=
    Text.IsHexadecimal.exists_bytes (visible text) isHexadecimal
  cases parsed : Wire.Frame.parse bytes with
  | ok frame =>
      have prints := run_decode_of_frame valid spells parsed
      exact prints.not_failsWith _ fails
  | error fault =>
      have refused := run_decode_of_fault valid spells parsed
      exact refused.not_invalidHexadecimal fails

end Runs

/-! The encoding commands. -/

/-- Valid settings have the partitions that they have by default. -/
theorem partitionCount_of_environment
    {setting : Option String}
    {settings : Settings}
    (valid : Settings.ofEnvironment setting = .ok settings) :
    settings.partitionCount = 1024 := by
  unfold Settings.ofEnvironment at valid
  split at valid
  · cases valid
    rfl
  · split at valid
    · cases valid
    · cases valid
      rfl

/-- A document id within the limit has a key in the collection that is given. -/
theorem exists_documentKey
    {id : String}
    (nonempty : id ≠ "")
    (fits : id.utf8ByteSize ≤ maxKeyLength)
    (collection : Option UInt32) :
    ∃ key : Wire.DocumentKey,
      documentKey id collection = .ok key ∧
        key.id = id ∧
        ∀ number ∈ collection, key.collection = ⟨number⟩ := by
  unfold documentKey Wire.DocumentKey.ofId
  rw [dif_neg nonempty, dif_pos fits]
  cases collection with
  | none => exact ⟨_, rfl, rfl, nofun⟩
  | some number =>
      refine ⟨_, rfl, rfl, ?_⟩
      rintro _ ⟨⟩
      rfl

/-- The key section of a document id: behind its collection, if one is given. -/
def qualifiedKey (id : String) (collection : Option UInt32) : Bytes :=
  match collection with
  | some number => Wire.leb128 number.toNat ++ Text.encode id
  | none => Text.encode id

/-- The lines for a request without a value and without a version. -/
def requestLines
    (command : String)
    (partition : Nat)
    (extras key : Bytes)
    (correlation : UInt32) : List String :=
  [ "magic:    0x80",
    "opcode:   " ++ command,
    "partition: " ++ toString partition,
    "datatype: 0x00",
    "extras:   " ++ sectionText extras.length extras,
    "key:      " ++ sectionText key.length key,
    "value:    0 []",
    "opaque:   " ++ toString correlation.toNat,
    "cas:      0" ]

/-- The text for a command: its byte and its name. -/
def commandText (command : Wire.Command) : String :=
  Wire.byteText command.byte ++ " (" ++ command.name ++ ")"

/-- The frame of an operation without a value and a version is printed so. -/
theorem frameLines_frame
    {operation : Wire.Operation}
    (isRaw : operation.datatype = Wire.rawDatatype)
    (noValue : operation.value = [])
    (noVersion : operation.cas = Wire.anyVersion)
    (correlation : UInt32)
    (channel : Wire.Channel) :
    frameLines (operation.frame correlation channel) =
      requestLines (commandText operation.command)
        operation.key.partition.toNat operation.extras
        (operation.wireKey channel) correlation := by
  let frame := operation.frame correlation channel
  have wellFormed : frame.IsWellFormed :=
    operation.isWellFormed_frame correlation channel
  have noLength : frame.header.valueLength = 0 := by
    have total := wellFormed.bodyLength
    have valueLength : frame.sections.value.length = 0 :=
      congrArg List.length noValue
    rw [Wire.Sections.length, valueLength] at total
    rw [Wire.Header.valueLength, wellFormed.extrasLength, wellFormed.keyLength,
      total]
    omega
  have isMagic : Wire.byteText Wire.requestMagic = "0x80" := by decide
  have isCommand :
      "opcode:   " ++ Wire.byteText operation.command.byte ++ " (" ++
          commandName operation.command.byte ++ ")" =
        "opcode:   " ++ commandText operation.command := by
    rw [commandName, Wire.Command.ofByte?_byte, commandText]
    simp only [String.append_assoc]
  calc
    frameLines frame =
        [ "magic:    " ++ Wire.byteText Wire.requestMagic,
          "opcode:   " ++ Wire.byteText operation.command.byte ++ " (" ++
            commandName operation.command.byte ++ ")",
          "partition: " ++ toString operation.key.partition,
          "datatype: " ++ Wire.byteText operation.datatype,
          "extras:   " ++
            sectionText frame.header.extrasLength.toNat operation.extras,
          "key:      " ++
            sectionText frame.header.keyLength.toNat
              (operation.wireKey channel),
          "value:    " ++ sectionText frame.header.valueLength operation.value,
          "opaque:   " ++ toString correlation,
          "cas:      " ++ toString operation.cas ] := rfl
    _ = _ := by
      rw [isMagic, isCommand, isRaw, noValue, noVersion, noLength,
        wellFormed.extrasLength, wellFormed.keyLength]
      rfl

/-- The extras of a counter: its delta, and how it is created, if at all. -/
def counterExtras
    (delta : Int64)
    (initial : Option Int64)
    (expiry : UInt32) : Bytes :=
  writeNumber 8 delta.toInt.toNat ++
    match initial with
    | some value =>
        writeNumber 8 value.toInt.toNat ++ writeNumber 4 expiry.toNat
    | none => writeNumber 8 0 ++ writeNumber 4 0xffffffff

theorem extras_of_ofSigned
    {delta : Int64}
    {initial : Option Int64}
    {expiry : UInt32}
    {counter : Wire.CounterChange}
    (accepted :
      Wire.CounterChange.ofSigned delta initial expiry = .ok counter) :
    counter.extras = counterExtras delta initial expiry := by
  obtain ⟨⟨deltaPositive, initialPositive⟩, isDelta, isInitial, isExpiry⟩ :=
    Wire.CounterChange.ofSigned_eq_ok_iff.mp accepted
  have unsigned : ∀ word : Int64, 0 ≤ word.toInt →
      word.toUInt64.toNat = word.toInt.toNat := by
    intro word positive
    rw [← Wire.CounterChange.toNat_toUInt64 positive, Int.toNat_natCast]
  unfold Wire.CounterChange.extras counterExtras
  rw [isDelta, isInitial, isExpiry, unsigned delta deltaPositive]
  cases initial with
  | none => rfl
  | some value =>
      have isUnsigned := unsigned value (initialPositive value rfl)
      simp only [Option.map_some, isUnsigned]

/-- The channel of a command that was given a collection, or none. -/
def channelFor (settings : Settings) (collection : Option UInt32) :
    Wire.Channel :=
  { Wire.Channel.ofBucket settings.bucket with
    hasCollections := collection.isSome }

theorem wireKey_channelFor
    {key : Wire.DocumentKey}
    {collection : Option UInt32}
    (isCollection : ∀ number ∈ collection, key.collection = ⟨number⟩)
    (settings : Settings) :
    Wire.wireKey key.id key.collection (channelFor settings collection) =
      qualifiedKey key.id collection := by
  cases collection with
  | none => rfl
  | some number =>
      rw [isCollection number rfl]
      rfl

/--
The run prints one line of digits, and whatever spells this line is decoded to
some other lines.
-/
def RoundTrips
    (setting : Option String)
    (arguments : List String)
    (lines : List String) : Prop :=
  ∃ bytes,
    (run arguments setting).Prints [Text.hexadecimal bytes] ∧
      ∀ text,
        Spells text bytes → (run ["decode", text] setting).Prints lines

/-- Routing changes nothing but the key of a request. -/
theorem route_keeps_request (operation : Wire.Operation) (count : UInt16) :
    (operation.route count).command = operation.command ∧
      (operation.route count).datatype = operation.datatype ∧
      (operation.route count).cas = operation.cas ∧
      (operation.route count).extras = operation.extras ∧
      (operation.route count).value = operation.value := by
  cases operation <;> exact ⟨rfl, rfl, rfl, rfl, rfl⟩

theorem wireKey_route
    {operation : Wire.Operation}
    {collection : Option UInt32}
    (isCollection : ∀ number ∈ collection,
      operation.key.collection = ⟨number⟩)
    (settings : Settings) :
    (operation.route settings.partitionCount).wireKey
        (channelFor settings collection) =
      qualifiedKey operation.key.id collection := by
  rw [← wireKey_channelFor isCollection settings]
  cases operation <;> rfl

section Encoding

variable {setting : Option String} {settings : Settings}
variable (valid : Settings.ofEnvironment setting = .ok settings)
variable {arguments : List String} {collection : Option UInt32}
variable {correlation : UInt32}

include valid

/-- A request that is printed is decoded to its lines, however it is spelled. -/
theorem roundTrips_of_request
    {command : Command}
    (operation : Wire.Operation)
    (isRaw : operation.datatype = Wire.rawDatatype)
    (noValue : operation.value = [])
    (noVersion : operation.cas = Wire.anyVersion)
    (isCollection : ∀ number ∈ collection,
      operation.key.collection = ⟨number⟩)
    (read : readCommand arguments = .ok command)
    (isPrinted :
      command.lines settings =
        .ok [encodedLine settings operation correlation collection]) :
    RoundTrips setting arguments
      (requestLines (commandText operation.command)
        (Wire.partitionSlot operation.key.id 1024) operation.extras
        (qualifiedKey operation.key.id collection) correlation) := by
  let channel := channelFor settings collection
  let routed := operation.route settings.partitionCount
  obtain ⟨sameCommand, sameDatatype, sameVersion, sameExtras, sameValue⟩ :=
    route_keeps_request operation settings.partitionCount
  have isPartition :
      routed.key.partition.toNat =
        Wire.partitionSlot operation.key.id 1024 := by
    rw [operation.partition_route, partitionCount_of_environment valid]
    rfl
  have lines :
      frameLines (routed.frame correlation channel) =
        requestLines (commandText operation.command)
          (Wire.partitionSlot operation.key.id 1024) operation.extras
          (qualifiedKey operation.key.id collection) correlation := by
    rw [frameLines_frame (sameDatatype.trans isRaw) (sameValue.trans noValue)
      (sameVersion.trans noVersion), isPartition, sameCommand, sameExtras,
      wireKey_route isCollection]
  refine ⟨_, run_of_lines valid read isPrinted, fun text spells => ?_⟩
  rw [← lines]
  exact
    run_decode_of_frame valid spells (routed.parse_encode correlation channel)

theorem roundTrips_increment
    {id : String}
    {delta : Int64}
    {initial : Option Int64}
    {expiry : UInt32}
    (nonempty : id ≠ "")
    (fits : id.utf8ByteSize ≤ maxKeyLength)
    (deltaPositive : 0 ≤ delta.toInt)
    (initialPositive : ∀ value ∈ initial, 0 ≤ value.toInt)
    (read :
      readCommand arguments =
        .ok (.encodeIncrement id delta initial expiry collection correlation)) :
    RoundTrips setting arguments
      (requestLines "0x05 (Increment)" (Wire.partitionSlot id 1024)
        (counterExtras delta initial expiry) (qualifiedKey id collection)
        correlation) := by
  obtain ⟨key, accepted, rfl, isCollection⟩ :=
    exists_documentKey nonempty fits collection
  obtain ⟨counter, isCounter⟩ :=
    Wire.CounterChange.exists_ofSigned_iff.mpr ⟨deltaPositive, initialPositive⟩
  have isPrinted :
      Command.lines settings
          (.encodeIncrement key.id delta initial expiry collection
            correlation) =
        .ok [encodedLine settings (.increment key counter) correlation
          collection] := by
    rw [Command.lines, isCounter]
    dsimp only
    rw [accepted]
    rfl
  have isCommand : commandText .increment = "0x05 (Increment)" := by decide
  rw [← isCommand, ← extras_of_ofSigned isCounter]
  exact
    roundTrips_of_request valid (.increment key counter) rfl rfl rfl
      isCollection read isPrinted

theorem roundTrips_getMeta
    {id : String}
    (nonempty : id ≠ "")
    (fits : id.utf8ByteSize ≤ maxKeyLength)
    (read : readCommand arguments = .ok (.encodeGetMeta id collection)) :
    RoundTrips setting arguments
      (requestLines "0xa0 (GetMeta)" (Wire.partitionSlot id 1024) [0x02]
        (qualifiedKey id collection) 1) := by
  obtain ⟨key, accepted, rfl, isCollection⟩ :=
    exists_documentKey nonempty fits collection
  have isPrinted :
      Command.lines settings (.encodeGetMeta key.id collection) =
        .ok [encodedLine settings (.getMeta key) 1 collection] := by
    rw [Command.lines, accepted]
    rfl
  have isCommand : commandText .getMeta = "0xa0 (GetMeta)" := by decide
  rw [← isCommand]
  exact
    roundTrips_of_request valid (.getMeta key) rfl rfl rfl isCollection read
      isPrinted

end Encoding

/--
The command line decodes what it encodes. With a retry limit that is valid or
unset, every increment of a document id within the limit, by numbers that are
not negative, can be asked for, and so can every metadata probe; however they
are asked for, one line of digits is printed, and whatever spells this line is
decoded to the fields of the request. A text that does not look like an option
is refused for its digits just when, without its ASCII blanks, it is not an even
number of digits. Otherwise it spells some bytes, and is decoded just when these
begin with a whole and well-formed frame.
-/
theorem command_line_decodes_what_it_encodes
    {setting : Option String}
    (valid : ∃ settings, Settings.ofEnvironment setting = .ok settings) :
    (∀ (id : String) (collection : Option UInt32),
      id ≠ "" →
      id.utf8ByteSize ≤ maxKeyLength →
      (∀ (delta : Int64) (initial : Option Int64) (expiry correlation : UInt32),
        0 ≤ delta.toInt →
        (∀ value ∈ initial, 0 ≤ value.toInt) →
        let command : Command :=
          .encodeIncrement id delta initial expiry collection correlation
        (∃ options, readCommand ("encode-increment" :: options) = .ok command) ∧
          ∀ arguments,
            readCommand arguments = .ok command →
            RoundTrips setting arguments
              (requestLines "0x05 (Increment)" (Wire.partitionSlot id 1024)
                (counterExtras delta initial expiry)
                (qualifiedKey id collection) correlation)) ∧
        let command : Command := .encodeGetMeta id collection
        (∃ options, readCommand ("encode-get-meta" :: options) = .ok command) ∧
          ∀ arguments,
            readCommand arguments = .ok command →
            RoundTrips setting arguments
              (requestLines "0xa0 (GetMeta)" (Wire.partitionSlot id 1024)
                [0x02] (qualifiedKey id collection) 1)) ∧
      ∀ text : String,
        text.toList.head? ≠ some '-' →
        let ending := run ["decode", text] setting
        (ending.FailsWith invalidHexadecimal ↔
          ¬ Text.IsHexadecimal (visible text)) ∧
          (Text.IsHexadecimal (visible text) →
            ∃ bytes,
              Spells text bytes ∧
                (∀ frame : Wire.Frame,
                  frame.IsWellFormed →
                  frame.bytes <+: bytes →
                  ending.Prints (frameLines frame)) ∧
                ((∃ lines, ending.Prints lines) ↔
                  ∃ frame : Wire.Frame,
                    frame.IsWellFormed ∧ frame.bytes <+: bytes)) := by
  obtain ⟨settings, valid⟩ := valid
  constructor
  · intro id collection nonempty fits
    constructor
    · intro delta initial expiry correlation deltaPositive initialPositive
      have isRead :=
        readCommand_increment deltaPositive initialPositive id expiry
          collection correlation
      refine ⟨⟨_, isRead⟩, fun arguments read => ?_⟩
      exact
        roundTrips_increment valid nonempty fits deltaPositive initialPositive
          read
    · refine ⟨⟨_, readCommand_getMeta id collection⟩, fun arguments read => ?_⟩
      exact roundTrips_getMeta valid nonempty fits read
  · intro text plain ending
    refine
      ⟨failsWith_invalidHexadecimal_iff valid plain, fun isHexadecimal => ?_⟩
    obtain ⟨bytes, spells⟩ :=
      Text.IsHexadecimal.exists_bytes (visible text) isHexadecimal
    refine ⟨bytes, spells, ?_, prints_iff_of_spells valid spells⟩
    intro frame wellFormed isPrefix
    exact
      run_decode_of_frame valid spells
        (Wire.Frame.parse_eq_ok_iff.mpr ⟨wellFormed, isPrefix⟩)

/-- A metadata probe, and its line in upper case with blanks between. -/
theorem command_line_decodes_what_it_encodes_probe :
    let setting := some " 7\n"
    let text := "80A00001 010000B7 00000002\t00000001 0000000000000000 0261\n"
    (run ["encode-get-meta", "-k", "a"] setting).Prints
        ["80a00001010000b700000002000000010000000000000000" ++ "0261"] ∧
      (run ["decode", text] setting).Prints
        (requestLines "0xa0 (GetMeta)" 183 [0x02] [0x61] 1) := by
  intro setting text
  obtain ⟨probes, -⟩ :=
    command_line_decodes_what_it_encodes
      (⟨_, rfl⟩ : ∃ settings, Settings.ofEnvironment setting = .ok settings)
  obtain ⟨bytes, prints, decodes⟩ :=
    (probes "a" none (by decide) (by decide)).2.2
      ["encode-get-meta", "-k", "a"] rfl
  have isPrinted :
      run ["encode-get-meta", "-k", "a"] setting =
        .printed
          ["80a00001010000b700000002000000010000000000000000" ++ "0261"] := by
    decide +kernel
  have isLine :
      Text.hexadecimal bytes =
        "80a00001010000b700000002000000010000000000000000" ++ "0261" := by
    simpa using prints.1.symm.trans isPrinted
  have isSlot : Wire.partitionSlot "a" 1024 = 183 := by decide +kernel
  refine ⟨isLine ▸ prints, ?_⟩
  have spells : Spells text bytes := by
    rw [Spells, isLine]
    decide +kernel
  have lines := decodes text spells
  rwa [isSlot] at lines

end ClusterClient.CommandLine
