import MessageContract.Disk
import MessageContract.Json.Fault
import MessageContract.Node.Fault
import MessageContract.Text.Base64

/-!
All that can go wrong, as causes. Every error has one message; a failure of the
contract store is an error of its own that verification passes on.
-/

namespace MessageContract

inductive SettingsFault where
  | blankConsumer
  | blankProvider
  /-- A reason given in words by the caller. -/
  | stated (reason : String)
deriving DecidableEq

def SettingsFault.message : SettingsFault → String
  | .blankConsumer => "consumer name is required"
  | .blankProvider => "provider name is required"
  | .stated reason => reason

inductive InteractionFault where
  | unknownEncoding (scheme : String)
  | encodedNotString
  | badBase64 (fault : Base64.Fault)
  | blankDescription
  /-- The content could not be read when it was set, for the reason given. -/
  | badContent (reason : String)
  | noHandler
  /-- A reason given in words by the caller. -/
  | stated (reason : String)
deriving DecidableEq

def InteractionFault.message : InteractionFault → String
  | .unknownEncoding scheme => s!"unsupported content encoding `{scheme}`"
  | .encodedNotString => "base64 encoded content must be a string"
  | .badBase64 fault => s!"invalid base64 content: {fault.message}"
  | .blankDescription => "description is required, call expects_to_receive"
  | .badContent reason => s!"message content is invalid: {reason}"
  | .noHandler => "no handler registered, call consumed_by before verify"
  | .stated reason => reason

/-- Why two contracts cannot become one. -/
inductive MergeFault where
  | otherPair (theirConsumer theirProvider ourConsumer ourProvider : String)
  | otherSpecification (theirs ours : String)
  /-- A reason given in words by the caller. -/
  | stated (reason : String)
deriving DecidableEq

def MergeFault.message : MergeFault → String
  | .otherPair theirConsumer theirProvider ourConsumer ourProvider =>
      s!"cannot merge pact for {theirConsumer} -> {theirProvider} into pact for " ++
        s!"{ourConsumer} -> {ourProvider}"
  | .otherSpecification theirs ours =>
      s!"cannot merge pact specification {theirs} into existing pact specification {ours}"
  | .stated reason => reason

inductive StoreFault where
  | io (path : String) (fault : DiskFault)
  | corrupt (path : String) (error : Json.Error)
  | serialization (error : Json.Error)
  | incompatible (fault : MergeFault)
deriving DecidableEq

def StoreFault.message : StoreFault → String
  | .io path fault => s!"I/O error on {path}: {fault.message}"
  | .corrupt path error => s!"Unreadable pact file {path}: {error.message}"
  | .serialization error => s!"Serialization error: {error.message}"
  | .incompatible fault => s!"Incompatible pact file: {fault.message}"

inductive Error where
  | invalidSettings (fault : SettingsFault)
  | invalidInteraction (fault : InteractionFault)
  | invalidMatcher (fault : MatcherFault)
  /-- Content cannot be made concrete under a rule that is not understood. -/
  | unsupportedKind (kind : String)
  /-- Concrete content does not have the shape the handler asked for. -/
  | undecodable (target : String) (error : Json.Error)
  /-- The handler rejected the message. -/
  | handler (reason : String)
  | storage (fault : StoreFault)
  | serialization (error : Json.Error)

namespace Error

def message : Error → String
  | .invalidSettings fault => s!"Invalid configuration: {fault.message}"
  | .invalidInteraction fault => s!"Invalid interaction: {fault.message}"
  | .invalidMatcher fault => s!"Invalid matcher: {fault.message}"
  | .unsupportedKind kind => s!"Unsupported matcher kind: {kind}"
  | .undecodable target error =>
      s!"Unable to narrow message content to {target}: {error.message}"
  | .handler reason => s!"Message handler failed: {reason}"
  | .storage error => s!"Failed to persist pact: {error.message}"
  | .serialization error => s!"Serialization error: {error.message}"

/-- The failure arose while the contract file was being written, after the
handler had accepted the message. -/
def concernsStorage : Error → Bool
  | .storage _ => true
  | _ => false

/-- The message of the failure beneath this one, if another part raised it. -/
def cause : Error → Option String
  | .undecodable _ error | .serialization error => some error.message
  | .handler reason => some reason
  | .storage error => some error.message
  | _ => none

end Error

end MessageContract
