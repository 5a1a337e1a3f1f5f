import Mathlib.Data.List.Basic
import Elektrine.Data.DateTime
import Elektrine.Data.Json
import Elektrine.Data.Text

/-!
# Failure reasons
-/

namespace Elektrine.Messaging.Federation

inductive Reason where
  | invalidPayload
  | invalidEventPayload
  | invalidChangeset
  | invalidMessagePayload
  | sequenceGap
  | unsupportedVersion
  | originDomainMismatch
  | originActorDomainMismatch
  | originIdentifierHostMismatch
  | originStreamHostMismatch
  | invalidStreamId
  | invalidServerPayload
  | invalidSnapshotGovernance
  | invalidSnapshotStreamPositions
  | invalidSnapshotSignature
  | snapshotLimitExceeded
  | unknownPeer
  | notFound
  | notAuthorizedForRoom
  | unsupportedEventType
  | unhandledEventType
  | userNotFound
  | busy
  | invalidCallType
  | unsupportedConversationType
  | notMember
  | localCallAlreadyActive
  | remoteCallAlreadyActive
  | invalidRemoteHandle
  | invalidRemoteCall
  | invalidTransition
  | unsupportedProtocol
  | invalidEventId
  | invalidOriginDomain
  | invalidSequence
  | invalidIdempotencyKey
  | invalidSentAt
  | invalidSignature
  | invalidEventSignature
  deriving DecidableEq, Repr

end Elektrine.Messaging.Federation

/-!
## Shared readers of payload values
-/

namespace Elektrine.Messaging.Federation

def parseInt (value : Json) (fallback : Int) : Int :=
  match value with
  | .int number => number
  | .str text => (integerParse text).getD fallback
  | _ => fallback

def parseDatetime : Json → Option DateTime
  | .str text => DateTime.fromIso8601 text
  | _ => none

@[simp] theorem parseInt_int (number fallback : Int) :
    parseInt (.int number) fallback = number :=
  rfl

end Elektrine.Messaging.Federation
