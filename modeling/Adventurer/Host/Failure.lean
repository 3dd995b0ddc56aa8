import Adventurer.Creature
import Adventurer.Dressing.Refusal

/-!
# Failures of a host

Why a request to a running simulation, the start of one or the keeping of a snapshot has failed.
-/

namespace Adventurer

/-- Why a snapshot cannot be kept or found. -/
inductive StoreFailure where
  | lockPoisoned
  /-- The file system refused. -/
  | io (reason : String)
  /-- The stored text is no snapshot. -/
  | json (reason : String)
  /-- The stored snapshot is that of another character. -/
  | mismatch (expected found : CreatureId)
  deriving DecidableEq, Repr

namespace StoreFailure

def message : StoreFailure → String
  | lockPoisoned => "snapshot repository lock was poisoned"
  | io reason => "I/O error: " ++ reason
  | json reason => "JSON error: " ++ reason
  | mismatch expected found =>
    "snapshot for " ++ expected.render ++ " holds character " ++ found.render

end StoreFailure

/-- Why a host cannot do what it is asked. -/
inductive HostFailure where
  /-- The simulation takes no more requests. -/
  | commandChannelClosed
  /-- The simulation has ended before it answered. -/
  | replyChannelClosed
  /-- The simulation did not end as it should. -/
  | workerJoin
  | missingCharacter
  | missingContent
  | equip (refusal : Refusal)
  | store (failure : StoreFailure)
  | content (text : String)
  | logging (text : String)
  deriving DecidableEq, Repr

namespace HostFailure

def message : HostFailure → String
  | commandChannelClosed => "simulation worker command channel closed"
  | replyChannelClosed => "simulation worker reply channel closed"
  | workerJoin => "simulation worker join failed"
  | missingCharacter => "runtime requires a character before building"
  | missingContent => "runtime requires content to be configured before building"
  | equip refusal => refusal.message
  | store failure => failure.message
  | content text => text
  | logging text => "failed to initialize logging: " ++ text

/-- The code by which clients know the failure. -/
def code : HostFailure → String
  | commandChannelClosed => "RUNTIME_COMMAND_CHANNEL_CLOSED"
  | replyChannelClosed => "RUNTIME_REPLY_CHANNEL_CLOSED"
  | workerJoin => "RUNTIME_WORKER_JOIN"
  | missingCharacter => "RUNTIME_MISSING_CHARACTER"
  | missingContent => "RUNTIME_MISSING_CONTENT"
  | equip refusal => refusal.code
  | store _ => "RUNTIME_REPOSITORY"
  | content _ => "RUNTIME_CONTENT"
  | logging _ => "RUNTIME_LOGGING"

def severity : HostFailure → Severity
  | commandChannelClosed | replyChannelClosed | workerJoin => .fatal
  | missingCharacter | missingContent | content _ => .validation
  | equip refusal => refusal.severity
  | store _ => .internal
  | logging _ => .recoverable

instance : Fault HostFailure := ⟨code, message, severity⟩

end HostFailure

end Adventurer
