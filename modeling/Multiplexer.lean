import Multiplexer.Core.KeyedTimers
import Multiplexer.Core.Outbox.Keys
import Multiplexer.Io.SharedConnection
import Multiplexer.Server.RoutingRuns
import Multiplexer.Server.PeerEvents
import Multiplexer.Frames.HoldsNext
import Multiplexer.Frames.ConnectionReaderProperties
import Multiplexer.Io.InboxProperties
import Multiplexer.Servers.Confirmations
import Multiplexer.Runs.Written
import Multiplexer.Batches.Pieces
import Multiplexer.Queries.SentAgain
import Multiplexer.Confirmed.Owed
import Multiplexer.Received.Duplicates
import Multiplexer.Frames.Constructors
import Multiplexer.Wire.SplitMix
import Multiplexer.Wire.Endpoint
