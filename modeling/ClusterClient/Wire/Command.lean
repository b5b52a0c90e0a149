namespace ClusterClient.Wire

/-!
# Commands and fixed bytes

The command byte of a frame, the command byte of one path inside a multi-path
body, and the magic, data-type and flag bytes that the protocol fixes.
-/

/-- The first byte of a request frame. -/
def requestMagic : UInt8 := 0x80

/-- The first byte of a response frame. -/
def responseMagic : UInt8 := 0x81

/-- The data type of an uninterpreted value. -/
def rawDatatype : UInt8 := 0x00

/-- The data type of a JSON value. -/
def jsonDatatype : UInt8 := 0x01

/-- The data-type bit of a compressed value. -/
def snappyDatatype : UInt8 := 0x02

/-- The flags of a path that must exist already. -/
def noPathFlags : UInt8 := 0x00

/-- The flag that creates missing parents of a path. -/
def createParentsFlag : UInt8 := 0x01

/-- The commands of a request frame. -/
inductive Command where
  | get
  | upsert
  | insert
  | increment
  | decrement
  | getMeta
  | subdocMultiLookup
  | subdocMultiMutation
  deriving Repr, DecidableEq

namespace Command

/-- The byte of a command. -/
def byte : Command → UInt8
  | .get => 0x00
  | .upsert => 0x01
  | .insert => 0x02
  | .increment => 0x05
  | .decrement => 0x06
  | .getMeta => 0xa0
  | .subdocMultiLookup => 0xd0
  | .subdocMultiMutation => 0xd1

/-- The command of a byte. -/
def ofByte? (byte : UInt8) : Option Command :=
  match byte with
  | 0x00 => some .get
  | 0x01 => some .upsert
  | 0x02 => some .insert
  | 0x05 => some .increment
  | 0x06 => some .decrement
  | 0xa0 => some .getMeta
  | 0xd0 => some .subdocMultiLookup
  | 0xd1 => some .subdocMultiMutation
  | _ => none

/-- The name of a command. -/
def name : Command → String
  | .get => "Get"
  | .upsert => "Upsert"
  | .insert => "Insert"
  | .increment => "Increment"
  | .decrement => "Decrement"
  | .getMeta => "GetMeta"
  | .subdocMultiLookup => "SubdocMultiLookup"
  | .subdocMultiMutation => "SubdocMultiMutation"

/-- Every command is found by its byte. -/
@[simp] theorem ofByte?_byte (command : Command) :
    ofByte? command.byte = some command := by
  cases command <;> rfl

/-- A byte that stands for a command is the byte of that command. -/
theorem byte_of_ofByte?
    {byte : UInt8}
    {command : Command}
    (found : ofByte? byte = some command) :
    command.byte = byte := by
  unfold ofByte? at found
  split at found <;> simp_all [Command.byte] <;> subst found <;> rfl

end Command

/-- The commands of one path inside a multi-path body. -/
inductive PathCommand where
  | get
  | exists
  | dictUpsert
  | delete
  | getCount
  deriving Repr, DecidableEq

namespace PathCommand

/-- The byte of a path command. -/
def byte : PathCommand → UInt8
  | .get => 0xc5
  | .exists => 0xc6
  | .dictUpsert => 0xc8
  | .delete => 0xcd
  | .getCount => 0xd2

/-- The path command of a byte. -/
def ofByte? (byte : UInt8) : Option PathCommand :=
  match byte with
  | 0xc5 => some .get
  | 0xc6 => some .exists
  | 0xc8 => some .dictUpsert
  | 0xcd => some .delete
  | 0xd2 => some .getCount
  | _ => none

/-- The name of a path command. -/
def name : PathCommand → String
  | .get => "Get"
  | .exists => "Exists"
  | .dictUpsert => "DictUpsert"
  | .delete => "Delete"
  | .getCount => "GetCount"

end PathCommand

end ClusterClient.Wire
