import ClusterClient.Text.Decimal

namespace ClusterClient.CommandLine

/-!
# Arguments

The first argument names a command; the rest are its options and, for
`decode`, the digits. An option has a long name and a letter, and its value is
attached to it or is the next argument, unless that begins with a minus sign. A
lone `--` makes all later arguments plain ones. The arguments are read from the
left, and the first fault or request for information decides.
-/

/-- What a command line asks for. -/
inductive Command where
  | encodeIncrement
      (key : String)
      (delta : Int64)
      (initial : Option Int64)
      (expiry : UInt32)
      (collection : Option UInt32)
      (correlation : UInt32)
  | encodeGetMeta (key : String) (collection : Option UInt32)
  | decode (digits : String)
  deriving Repr, DecidableEq

/--
Why no command is run: help or the version was asked for, or the arguments are
wrong.
-/
inductive Stop where
  | help
  | version
  | misuse
  deriving Repr, DecidableEq

/-- The kinds of values that an option takes. -/
inductive ValueKind where
  | text
  | signed64
  | unsigned32
  deriving Repr, DecidableEq

/-- The largest signed 64-bit number. -/
def largestSigned64 : Nat := 0x7fffffffffffffff

/-- The largest unsigned 32-bit number. -/
def largestUnsigned32 : Nat := 0xffffffff

/-- Read a signed 64-bit number. -/
def readSigned64? (text : String) : Option Int :=
  (Text.readSigned (largestSigned64 + 1) largestSigned64
    text.toList).toOption

/-- Read an unsigned 32-bit number; a signed reading is narrowed to it. -/
def readUnsigned32? (text : String) : Option Nat :=
  match readSigned64? text with
  | some number =>
      if 0 ≤ number ∧ number ≤ largestUnsigned32 then
        some number.toNat
      else
        none
  | none => none

/-- A text is a value of a kind. -/
def ValueKind.accepts (text : String) : ValueKind → Bool
  | .text => true
  | .signed64 => (readSigned64? text).isSome
  | .unsigned32 => (readUnsigned32? text).isSome

/-- An option of a command. -/
structure OptionRule where
  name : String
  letter : Char
  kind : ValueKind
  deriving Repr, DecidableEq

/-- The option for the document id. -/
def keyRule : OptionRule := ⟨"key", 'k', .text⟩

/-- The option for the collection. -/
def collectionRule : OptionRule := ⟨"collection-id", 'c', .unsigned32⟩

/-- The options of the command that encodes an increment. -/
def incrementRules : List OptionRule :=
  [keyRule, ⟨"delta", 'd', .signed64⟩, ⟨"initial", 'i', .signed64⟩,
    ⟨"expiry", 'e', .unsigned32⟩, collectionRule,
    ⟨"opaque", 'o', .unsigned32⟩]

/-- The options of the command that encodes a metadata probe. -/
def getMetaRules : List OptionRule := [keyRule, collectionRule]

/-- The option values and the plain arguments that were given. -/
structure Given where
  values : List (String × String)
  plain : List String
  deriving Repr, DecidableEq

namespace Given

/-- Nothing was given. -/
def nothing : Given := ⟨[], []⟩

/-- The value of an option. -/
def value? (given : Given) (name : String) : Option String :=
  given.values.lookup name

/-- Add the value of an option, which must be acceptable and the first. -/
def addValue
    (given : Given)
    (rule : OptionRule)
    (value : String) : Except Stop Given :=
  if (given.value? rule.name).isSome || !rule.kind.accepts value then
    .error .misuse
  else
    .ok { given with values := (rule.name, value) :: given.values }

/-- Add plain arguments, of which only so many are allowed. -/
def addPlain
    (given : Given)
    (allowed : Nat)
    (arguments : List String) : Except Stop Given :=
  if given.plain.length + arguments.length ≤ allowed then
    .ok { given with plain := given.plain ++ arguments }
  else
    .error .misuse

end Given

/-- What one argument looks like. -/
inductive Shape where
  | separator
  | long (name : String) (value : Option String)
  | short (letter : Char) (attached : List Char)
  | plain
  deriving Repr, DecidableEq

/-- A long option with the value behind its equals sign, if there is one. -/
def longShape (characters : List Char) : Shape :=
  let name := String.ofList (characters.takeWhile (· != '='))
  match characters.dropWhile (· != '=') with
  | [] => .long name none
  | _ :: value => .long name (some (String.ofList value))

/-- The shape of an argument. -/
def shapeOf (argument : String) : Shape :=
  match argument.toList with
  | ['-', '-'] => .separator
  | '-' :: '-' :: rest => longShape rest
  | '-' :: letter :: rest => .short letter rest
  | _ => .plain

/-- The value attached to an option letter, behind an optional equals sign. -/
def attachedValue? : List Char → Option String
  | [] => none
  | '=' :: value => some (String.ofList value)
  | value => some (String.ofList value)

/-- What an argument that looks like an option asks for. -/
inductive OptionUse where
  | complete (rule : OptionRule) (value : String)
  | incomplete (rule : OptionRule)
  deriving Repr, DecidableEq

/-- Use an option with the value that is attached to it, if there is one. -/
def useRule (value : Option String) : Option OptionRule →
    Except Stop OptionUse
  | none => .error .misuse
  | some rule =>
      match value with
      | some value => .ok (.complete rule value)
      | none => .ok (.incomplete rule)

/-- Use an option by its long name. -/
def useLong
    (rules : List OptionRule)
    (name : String)
    (value : Option String) : Except Stop OptionUse :=
  if name = "help" then
    .error (if value.isNone then .help else .misuse)
  else
    useRule value (rules.find? fun rule => rule.name = name)

/-- Use an option by its letter. -/
def useShort
    (rules : List OptionRule)
    (letter : Char)
    (attached : List Char) : Except Stop OptionUse :=
  if letter = 'h' then
    .error .help
  else
    useRule (attachedValue? attached)
      (rules.find? fun rule => rule.letter = letter)

/--
Read the arguments of a command. `pending` is an option that was named by the
argument before and takes this one as its value.
-/
def readArguments
    (rules : List OptionRule)
    (plainAllowed : Nat) :
    (pending : Option OptionRule) → Given → List String →
    Except Stop Given
  | none, given, [] => .ok given
  | some _, _, [] => .error .misuse
  | some rule, given, argument :: rest =>
      match shapeOf argument with
      | .plain => do
          let given ← given.addValue rule argument
          readArguments rules plainAllowed none given rest
      | _ => .error .misuse
  | none, given, argument :: rest =>
      match shapeOf argument with
      | .separator => given.addPlain plainAllowed rest
      | .plain => do
          let given ← given.addPlain plainAllowed [argument]
          readArguments rules plainAllowed none given rest
      | .long name value => do
          match ← useLong rules name value with
          | .complete rule value =>
              let given ← given.addValue rule value
              readArguments rules plainAllowed none given rest
          | .incomplete rule =>
              readArguments rules plainAllowed (some rule) given rest
      | .short letter attached => do
          match ← useShort rules letter attached with
          | .complete rule value =>
              let given ← given.addValue rule value
              readArguments rules plainAllowed none given rest
          | .incomplete rule =>
              readArguments rules plainAllowed (some rule) given rest

/-- The value of an option that must be given. -/
def Given.require (given : Given) (name : String) : Except Stop String :=
  match given.value? name with
  | some value => .ok value
  | none => .error .misuse

/-- The signed number given for an option. -/
def Given.signed64? (given : Given) (name : String) : Option Int64 :=
  ((given.value? name).bind readSigned64?).map Int64.ofInt

/-- The unsigned number given for an option. -/
def Given.unsigned32? (given : Given) (name : String) : Option UInt32 :=
  ((given.value? name).bind readUnsigned32?).map UInt32.ofNat

/-- The command that encodes an increment. -/
def readIncrement (arguments : List String) : Except Stop Command := do
  let given ← readArguments incrementRules 0 none .nothing arguments
  let key ← given.require "key"
  return .encodeIncrement key
    ((given.signed64? "delta").getD 1)
    (given.signed64? "initial")
    ((given.unsigned32? "expiry").getD 0)
    (given.unsigned32? "collection-id")
    ((given.unsigned32? "opaque").getD 1)

/-- The command that encodes a metadata probe. -/
def readGetMeta (arguments : List String) : Except Stop Command := do
  let given ← readArguments getMetaRules 0 none .nothing arguments
  let key ← given.require "key"
  return .encodeGetMeta key (given.unsigned32? "collection-id")

/-- The command that decodes a frame. -/
def readDecode (arguments : List String) : Except Stop Command := do
  let given ← readArguments [] 1 none .nothing arguments
  match given.plain with
  | [digits] => return .decode digits
  | _ => throw .misuse

/-- The names of the commands. -/
def commandNames : List String :=
  ["encode-increment", "encode-get-meta", "decode", "help"]

/-- Help about the tool or about one command. -/
def helpAbout : List String → Stop
  | [] => .help
  | [name] => if commandNames.contains name then .help else .misuse
  | _ => .misuse

/-- What an argument in the place of a command asks for. -/
def leadingOption (argument : String) : Stop :=
  match shapeOf argument with
  | .long "help" none | .short 'h' _ => .help
  | .long "version" none | .short 'V' _ => .version
  | _ => .misuse

/-- Read a whole command line. -/
def readCommand : List String → Except Stop Command
  | [] => .error .misuse
  | "encode-increment" :: rest => readIncrement rest
  | "encode-get-meta" :: rest => readGetMeta rest
  | "decode" :: rest => readDecode rest
  | "help" :: rest => .error (helpAbout rest)
  | argument :: _ => .error (leadingOption argument)

end ClusterClient.CommandLine
