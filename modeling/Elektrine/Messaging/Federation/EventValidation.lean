import Elektrine.Messaging.ArblargSDK.EventSignatures

/-!
# Events of peers

An event of a peer passes when its envelope is well formed and signed and when
the actors, the identifiers and the stream in it belong to the peer.  The stream
it is counted on is then the stream of the object that it names.
-/

namespace Elektrine.Messaging.Federation

open ArblargSDK

variable {payload streamId : Json} {eventType scope identifier : String}

end Elektrine.Messaging.Federation
