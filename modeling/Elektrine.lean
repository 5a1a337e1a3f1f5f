import Elektrine.Library.Transaction
import Elektrine.Data.Json
import Elektrine.Data.Text
import Elektrine.Data.Uri
import Elektrine.Messaging.ArblargSDK
import Elektrine.Messaging.Federation.Utils
import Elektrine.Messaging.Federation.EventTracking
import Elektrine.Messaging.Federation.Ingress
import Elektrine.Library.Consecutive
import Elektrine.Library.Runs
import Elektrine.Messaging.Federation.ConcurrentTracking
import Elektrine.Messaging.Federation.ConcurrentTrackingSafety
import Elektrine.Messaging.Federation.Identity
import Elektrine.Messaging.Federation.Validation
import Elektrine.Messaging.Federation.Snapshots
import Elektrine.Messaging.Federation.SnapshotPositions
import Elektrine.Messaging.Federation.Dispatch
import Elektrine.Messaging.Federation.StreamReplay
import Elektrine.Library.LastWriter
import Elektrine.Data.DateTime
import Elektrine.Messaging.Federation.State
import Elektrine.Messaging.Federation.Convergence
import Elektrine.Messaging.RoomACL
import Elektrine.Messaging.Federation.MirrorEvents
import Elektrine.Messaging.Federation.GovernanceEffects
import Elektrine.Messaging.Federation.RoomAdmission
import Elektrine.Messaging.Federation.BanProjection
import Elektrine.Messaging.ChatMessage
import Elektrine.Messaging.Federation.Mirrors
import Elektrine.Messaging.Federation.MessageEvents
import Elektrine.Messaging.Federation.MessageEffects
import Elektrine.Messaging.Federation.Tombstones
import Elektrine.Messaging.ArblargSDK.EventPayloads
import Elektrine.Messaging.Federation.DirectMessageState
import Elektrine.Messaging.FederationCallSession
import Elektrine.Messaging.Federation.VoiceCalls
import Elektrine.Messaging.Federation.CallSafety
import Elektrine.Data.Enum
import Elektrine.Messaging.Federation.Delivery
import Elektrine.Messaging.Federation.OutboxAccounting
import Elektrine.Messaging.FederationSessionClient
import Elektrine.Messaging.SessionAccounting
import Elektrine.Messaging.SessionOrder
import Elektrine.Messaging.Federation.ExtensionEvents
import Elektrine.Library.Separated
import Elektrine.Messaging.ArblargSDK.EventSignatures
import Elektrine.Data.Bytes
import Elektrine.Messaging.ArblargSDK.RequestSignatures
import Elektrine.Messaging.Federation.RequestReplays
import Elektrine.Messaging.RoomGovernance
import Elektrine.Messaging.Federation.EventValidation
import Elektrine.DNS.Zone
import Elektrine.DNS.Query
import Elektrine.DNS.PrivateRecords
import Elektrine.DNS.Lookup
import Elektrine.DNS.AnswerOwners
import Elektrine.DNS.ZoneSearch
import Elektrine.Library.KeyedRows
import Elektrine.DNS.RecordWrites
import Elektrine.DNS.CnameExclusivity
import Elektrine.DNS.Packet
import Elektrine.DNS.PacketNames
import Elektrine.DNS.PacketReplies
import Elektrine.Library.Attempts
import Elektrine.Library.SerialRows
import Elektrine.Email.Messages
import Elektrine.IMAP.Helpers
import Elektrine.Email.Listings
import Elektrine.IMAP.Folders
import Elektrine.IMAP.FolderListings
import Elektrine.IMAP.Response
import Elektrine.IMAP.MessageCommands
import Elektrine.Email.Writes
import Elektrine.IMAP.Addressed
import Elektrine.IMAP.FlagStores
import Elektrine.IMAP.StoreCommands
import Elektrine.IMAP.Copies
import Elektrine.IMAP.Moves
import Elektrine.Library.Places
import Elektrine.IMAP.Mailboxes
import Elektrine.IMAP.SelectedState
import Elektrine.IMAP.ListAgreement
import Elektrine.IMAP.Session
import Elektrine.Library.Interleavings
import Elektrine.Email.ExternalDelivery
import Elektrine.Email.SettledDeliveries
import Elektrine.Email.DeliveryRuns
import Elektrine.Email.RecipientLists
import Elektrine.SMTP.Commands
import Elektrine.Library.FirstMatch
import Elektrine.SMTP.Server
import Elektrine.SMTP.Stuffing
import Elektrine.SMTP.Transparency
import Elektrine.SMTP.Submissions
import Elektrine.SMTP.Session
import Elektrine.SMTP.Recipients
import Elektrine.SMTP.Authorisation
import Elektrine.SMTP.DuplicateRuns
import Elektrine.IMAP.SequenceSets
import Elektrine.IMAP.SetAgreement
import Elektrine.IMAP.UidPromise
import Elektrine.Email.InternalDelivery
import Elektrine.Email.InternalDeliveryRuns
import Elektrine.IMAP.FetchItems
import Elektrine.IMAP.SectionFit
import Elektrine.JMAP.Membership
import Elektrine.Library.Tallies
import Elektrine.Email.UnreadBadges
import Elektrine.JMAP.ThreadIds
import Elektrine.POP3.Server
import Elektrine.POP3.Commands
import Elektrine.POP3.Deletions
import Elektrine.Email.SavedBodies
import Elektrine.JMAP.EmailChanges
import Elektrine.JMAP.Synchronisation
import Elektrine.JMAP.EmailSubmission
import Elektrine.JMAP.SubmissionRuns
import Elektrine.Library.ParentLinks
import Elektrine.Email.CustomFolders
import Elektrine.Email.Filters
import Elektrine.IMAP.FiledCopies
import Elektrine.Email.FolderOwnership
import Elektrine.Library.CacheAside
import Elektrine.Email.MailCache
import Elektrine.JMAP.ThreadAssignment
import Elektrine.JMAP.MessageOperations
import Elektrine.JMAP.RecordedChanges
import Elektrine.Security.UrlValidator
import Elektrine.VPN.AddressPlan
import Elektrine.Drive.Subtrees
import Elektrine.Drive.TreeShape
import Elektrine.VPN.Quota
import Elektrine.Atomine.CreditLedger
import Elektrine.ActivityPub.SignatureReplays
import Elektrine.ActivityPub.SignatureBinding
import Elektrine.ActivityPub.EmbeddedAuthors
import Elektrine.Atomine.Personhood
import Elektrine.VPN.PeerRevocation
import Elektrine.OAuth.SingleUse
import Elektrine.RateLimiting.Limits
import Elektrine.Uptime.RecordCheck
import Elektrine.Drive.UploadCalls
import Elektrine.Drive.KeptContent
import Elektrine.Subscriptions.Webhooks
import Elektrine.Subscriptions.WebhookOrder
import Elektrine.Subscriptions.RegistrationCheckouts
import Elektrine.Subscriptions.OneInvite
import Elektrine.ActivityPub.InboxQueue
import Elektrine.ActivityPub.InboxDelivery
import Elektrine.DNS.QueryRoundTrip
import Elektrine.DNS.NameMeaning
import Elektrine.Messaging.ArblargSDK.CanonicalForm
import Elektrine.Messaging.ArblargSDK.KeyMaterial
import Elektrine.Messaging.SessionFrames
import Elektrine.Library.PiecePattern
import Elektrine.IMAP.ListPatterns
import Elektrine.IMAP.QuotedStrings
import Elektrine.Library.DotStuffing
import Elektrine.POP3.Transfer
import Elektrine.DNS.ServiceBinding
import Elektrine.Library.Codecs
import Elektrine.Library.Words
import Elektrine.DNS.BindingContents
import Elektrine.Messaging.Federation.SnapshotLimits
import Elektrine.Messaging.Federation.StreamRecovery
import Elektrine.Library.Saturation
import Elektrine.Email.ThreadView
import Elektrine.Library.Pages
import Elektrine.Email.InboxPages
import Elektrine.Drive.Listings
import Elektrine.Security.ProxyProtocol
