import ClusterClient.Error
import ClusterClient.Optimistic.Backoff
import ClusterClient.Text.Blank

namespace ClusterClient

/-!
# Settings

The retry limit, the delay between conflicting attempts, the timeout of a
request, the number of partitions and the bucket. The retry limit may be taken
from the environment, where it is an unsigned 32-bit number of at least one with
blanks around it.
-/

/-- The settings of a client. -/
structure Settings where
  retryLimit : UInt32
  backoff : Optimistic.Backoff
  requestTimeout : Duration
  partitionCount : UInt16
  bucket : String
  deriving Repr, DecidableEq

namespace Settings

/-- The settings that hold unless something else is said. -/
def default : Settings where
  retryLimit := 10
  backoff := .none
  requestTimeout := .ofMilliseconds 2500
  partitionCount := 1024
  bucket := "default"

/-- The largest retry limit. -/
def largestRetryLimit : Nat := 0xffffffff

/-- Read a retry limit. -/
def readRetryLimit (setting : String) : Except SettingsFault UInt32 :=
  match Text.readUnsigned largestRetryLimit (Text.trimBlank setting.toList) with
  | .error fault => .error (.malformedRetryLimit setting fault)
  | .ok 0 => .error .zeroRetryLimit
  | .ok limit => .ok (UInt32.ofNat limit)

/-- The default settings with the retry limit of the environment, if any. -/
def ofEnvironment (setting : Option String) : Except SettingsFault Settings :=
  match setting with
  | none => .ok default
  | some text =>
      match readRetryLimit text with
      | .error fault => .error fault
      | .ok limit => .ok { default with retryLimit := limit }

end Settings

end ClusterClient
