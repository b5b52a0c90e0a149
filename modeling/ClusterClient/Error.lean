import ClusterClient.ArgumentFault
import ClusterClient.Duration
import ClusterClient.Text.Decimal
import ClusterClient.Wire.ProtocolFault
import ClusterClient.Wire.Status

namespace ClusterClient

/-!
# Errors

One type for everything that can go wrong, so that a failure can be handed to
every waiter of a request. Constructors are causes; `Error.message` is the only
place where causes are put into words.
-/

/-- The environment variable that overrides the retry limit. -/
def retryLimitVariable : String := "KVLINK_CAS_RETRY_LIMIT"

/-- Why a setting is rejected. -/
inductive SettingsFault where
  | zeroRetryLimit
  | malformedRetryLimit (setting : String) (fault : Text.NumberFault)
  | described (text : String)
  deriving Repr, DecidableEq

/-- The wording of a fault in a setting. -/
def SettingsFault.message : SettingsFault → String
  | .zeroRetryLimit => retryLimitVariable ++ " must be at least 1"
  | .malformedRetryLimit setting fault =>
      retryLimitVariable ++ " is not a valid attempt count (" ++
        Text.quoted setting ++ "): " ++ fault.message
  | .described text => text

/-- Why a document or a value could not be converted. -/
inductive SerializationFault where
  | malformedJson
  | unexpectedShape
  | described (text : String)
  deriving Repr, DecidableEq

/-- The wording of a serialization fault. -/
def SerializationFault.message : SerializationFault → String
  | .malformedJson => "malformed JSON text"
  | .unexpectedShape => "value of another type"
  | .described text => text

/-- Why a frame could not be handed over. -/
inductive TransportFault where
  | outboundClosed
  | described (text : String)
  deriving Repr, DecidableEq

/-- The wording of a transport fault. -/
def TransportFault.message : TransportFault → String
  | .outboundClosed => "outbound channel closed"
  | .described text => text

/-- Why a request was cancelled. -/
inductive Cancellation where
  | timeout
  | shutdown
  | channelClosed
  | callerRequested
  deriving Repr, DecidableEq

/-- The name of a cancellation reason. -/
def Cancellation.name : Cancellation → String
  | .timeout => "Timeout"
  | .shutdown => "Shutdown"
  | .channelClosed => "ChannelClosed"
  | .callerRequested => "CallerRequested"

/-- Everything that can go wrong. -/
inductive Error where
  | invalidArgument (fault : ArgumentFault)
  | settings (fault : SettingsFault)
  | protocol (fault : Wire.ProtocolFault)
  | status (status : Wire.Status) (context : Option String)
  | casMismatch (id : String)
  | documentExists (id : String)
  | documentNotFound (id : String)
  | pathNotFound (path : String)
  | pathExists (path : String)
  | pathMismatch (path : String)
  | concurrentModification (operation : String) (attempts : Nat)
  | cancelled (reason : Cancellation)
  | timeout (after : Duration)
  | serialization (fault : SerializationFault)
  | transport (fault : TransportFault)
  deriving Repr, DecidableEq

namespace Error

/-- The kind of an error, without its details. -/
def kind : Error → String
  | .invalidArgument _ => "InvalidArgument"
  | .settings _ => "Config"
  | .protocol _ => "Protocol"
  | .status .. => "Status"
  | .casMismatch _ => "CasMismatch"
  | .documentExists _ => "DocumentExists"
  | .documentNotFound _ => "DocumentNotFound"
  | .pathNotFound _ => "PathNotFound"
  | .pathExists _ => "PathExists"
  | .pathMismatch _ => "PathMismatch"
  | .concurrentModification .. => "ConcurrentModification"
  | .cancelled _ => "Cancelled"
  | .timeout _ => "Timeout"
  | .serialization _ => "Serialization"
  | .transport _ => "Transport"

/-- The wording of an error. -/
def message : Error → String
  | .invalidArgument fault => "Invalid argument: " ++ fault.message
  | .settings fault => "Configuration error: " ++ fault.message
  | .protocol fault => "Protocol error: " ++ fault.message
  | .status code none => "Server responded with " ++ code.name
  | .status code (some context) =>
      "Server responded with " ++ code.name ++ ": " ++ context
  | .casMismatch id => "CAS mismatch on document " ++ id
  | .documentExists id => "Document already exists: " ++ id
  | .documentNotFound id => "Document not found: " ++ id
  | .pathNotFound path => "Path not found: " ++ path
  | .pathExists path => "Path already exists: " ++ path
  | .pathMismatch path => "Path mismatch: " ++ path
  | .concurrentModification operation attempts =>
      "Couldn't perform " ++ operation ++ " in less than " ++
        toString attempts ++ " iterations"
  | .cancelled reason => "Request cancelled: " ++ reason.name
  | .timeout after => "Request timed out after " ++ after.text
  | .serialization fault => "Serialization error: " ++ fault.message
  | .transport fault => "Transport error: " ++ fault.message

/-- A guarded write lost against another writer. -/
def isCasMismatch : Error → Bool
  | .casMismatch _ => true
  | _ => false

/-- The document or the path is absent. -/
def isNotFound : Error → Bool
  | .documentNotFound _ | .pathNotFound _ => true
  | _ => false

/-- A guarded update ran out of attempts. -/
def isContention : Error → Bool
  | .concurrentModification .. => true
  | _ => false

end Error

end ClusterClient
