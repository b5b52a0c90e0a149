namespace ClusterClient.Wire

/-!
# Response status

A server puts a two-byte status into the header of every response and into
every result of a multi-path body. Codes without a name are kept as they are,
so that `ofCode` and `code` are inverse to each other on codes.
-/

/-- The status of a response or of one result inside it. -/
inductive Status where
  | success
  | notFound
  | alreadyExists
  | tooBig
  | invalidArgs
  | notStored
  | deltaBadValue
  | notMyVbucket
  | locked
  | authError
  | unknownCommand
  | outOfMemory
  | busy
  | temporaryFailure
  | subdocPathNotFound
  | subdocPathMismatch
  | subdocPathInvalid
  | subdocPathTooBig
  | subdocDocTooDeep
  | subdocValueCantInsert
  | subdocDocNotJson
  | subdocNumRange
  | subdocDeltaInvalid
  | subdocPathExists
  | subdocValueTooDeep
  | subdocInvalidCombo
  | subdocMultiPathFailure
  | subdocSuccessDeleted
  | subdocMultiPathFailureDeleted
  | unknown (code : UInt16)
  deriving Repr, DecidableEq

namespace Status

/-- The status that a code stands for. -/
def ofCode (code : UInt16) : Status :=
  match code with
  | 0x0000 => .success
  | 0x0001 => .notFound
  | 0x0002 => .alreadyExists
  | 0x0003 => .tooBig
  | 0x0004 => .invalidArgs
  | 0x0005 => .notStored
  | 0x0006 => .deltaBadValue
  | 0x0007 => .notMyVbucket
  | 0x0009 => .locked
  | 0x0020 => .authError
  | 0x0081 => .unknownCommand
  | 0x0082 => .outOfMemory
  | 0x0085 => .busy
  | 0x0086 => .temporaryFailure
  | 0x00c0 => .subdocPathNotFound
  | 0x00c1 => .subdocPathMismatch
  | 0x00c2 => .subdocPathInvalid
  | 0x00c3 => .subdocPathTooBig
  | 0x00c4 => .subdocDocTooDeep
  | 0x00c5 => .subdocValueCantInsert
  | 0x00c6 => .subdocDocNotJson
  | 0x00c7 => .subdocNumRange
  | 0x00c8 => .subdocDeltaInvalid
  | 0x00c9 => .subdocPathExists
  | 0x00ca => .subdocValueTooDeep
  | 0x00cb => .subdocInvalidCombo
  | 0x00cc => .subdocMultiPathFailure
  | 0x00cd => .subdocSuccessDeleted
  | 0x00d3 => .subdocMultiPathFailureDeleted
  | other => .unknown other

/-- The code of a status. -/
def code : Status → UInt16
  | .success => 0x0000
  | .notFound => 0x0001
  | .alreadyExists => 0x0002
  | .tooBig => 0x0003
  | .invalidArgs => 0x0004
  | .notStored => 0x0005
  | .deltaBadValue => 0x0006
  | .notMyVbucket => 0x0007
  | .locked => 0x0009
  | .authError => 0x0020
  | .unknownCommand => 0x0081
  | .outOfMemory => 0x0082
  | .busy => 0x0085
  | .temporaryFailure => 0x0086
  | .subdocPathNotFound => 0x00c0
  | .subdocPathMismatch => 0x00c1
  | .subdocPathInvalid => 0x00c2
  | .subdocPathTooBig => 0x00c3
  | .subdocDocTooDeep => 0x00c4
  | .subdocValueCantInsert => 0x00c5
  | .subdocDocNotJson => 0x00c6
  | .subdocNumRange => 0x00c7
  | .subdocDeltaInvalid => 0x00c8
  | .subdocPathExists => 0x00c9
  | .subdocValueTooDeep => 0x00ca
  | .subdocInvalidCombo => 0x00cb
  | .subdocMultiPathFailure => 0x00cc
  | .subdocSuccessDeleted => 0x00cd
  | .subdocMultiPathFailureDeleted => 0x00d3
  | .unknown code => code

/-- The name of a status; an unnamed one shows its code in decimal. -/
def name : Status → String
  | .success => "Success"
  | .notFound => "NotFound"
  | .alreadyExists => "Exists"
  | .tooBig => "TooBig"
  | .invalidArgs => "InvalidArgs"
  | .notStored => "NotStored"
  | .deltaBadValue => "DeltaBadValue"
  | .notMyVbucket => "NotMyVbucket"
  | .locked => "Locked"
  | .authError => "AuthError"
  | .unknownCommand => "UnknownCommand"
  | .outOfMemory => "OutOfMemory"
  | .busy => "Busy"
  | .temporaryFailure => "TemporaryFailure"
  | .subdocPathNotFound => "SubdocPathNotFound"
  | .subdocPathMismatch => "SubdocPathMismatch"
  | .subdocPathInvalid => "SubdocPathInvalid"
  | .subdocPathTooBig => "SubdocPathTooBig"
  | .subdocDocTooDeep => "SubdocDocTooDeep"
  | .subdocValueCantInsert => "SubdocValueCantInsert"
  | .subdocDocNotJson => "SubdocDocNotJson"
  | .subdocNumRange => "SubdocNumRange"
  | .subdocDeltaInvalid => "SubdocDeltaInvalid"
  | .subdocPathExists => "SubdocPathExists"
  | .subdocValueTooDeep => "SubdocValueTooDeep"
  | .subdocInvalidCombo => "SubdocInvalidCombo"
  | .subdocMultiPathFailure => "SubdocMultiPathFailure"
  | .subdocSuccessDeleted => "SubdocSuccessDeleted"
  | .subdocMultiPathFailureDeleted => "SubdocMultiPathFailureDeleted"
  | .unknown code => "Unknown(" ++ toString code.toNat ++ ")"

/-- The code of a status that was read from a code is that code. -/
@[simp] theorem code_ofCode (code : UInt16) : (ofCode code).code = code := by
  unfold ofCode
  split <;> rfl

/-- The operation took effect, on a live or on a deleted document. -/
def isSuccess : Status → Bool
  | .success | .subdocSuccessDeleted => true
  | _ => false

/-- At least one path of a multi-path operation failed. -/
def isMultiPathFailure : Status → Bool
  | .subdocMultiPathFailure | .subdocMultiPathFailureDeleted => true
  | _ => false

/-- The operation may succeed when it is sent again. -/
def isTemporary : Status → Bool
  | .temporaryFailure | .busy | .notMyVbucket => true
  | _ => false

end Status

end ClusterClient.Wire
