import Torchat.Domain.Nicknames
import Torchat.Engine.RelayExchange
import Torchat.Engine.NonInterference
import Torchat.Engine.RemovalAcks
import Torchat.Storage.Revocation
import Torchat.Engine.RetryDeadlines
import Torchat.Engine.Offers
import Torchat.Peer.Access
import Torchat.Peer.SessionReports
import Torchat.Engine.PeerSessions
import Torchat.Engine.Probing
import Torchat.Runtime.EventScopes
import Torchat.Engine.Nicknames
import Torchat.Engine.LocalSettings
import Torchat.Engine.OperationBinding
import Torchat.Engine.Projections
import Torchat.Crypto.Snapshot
import Torchat.Engine.AnchorRuns
import Torchat.Engine.RelationshipEpochs
import Torchat.Relay.Attempts
import Torchat.Engine.OutgoingPairings
import Torchat.Peer.CommandQueues
