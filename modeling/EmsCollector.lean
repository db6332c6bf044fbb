import EmsCollector.Misc.Run
import EmsCollector.Misc.Ring
import EmsCollector.Collector.IoHandlerProof.Resync
import EmsCollector.Collector.IoHandlerProof.Recover
import EmsCollector.Framer.Link
import EmsCollector.Collector.EmsMessageProof.ErrorWindow
import EmsCollector.Collector.CommandSchedulerProof.Exclusive
import EmsCollector.Collector.ApiCommandParserProof.Responses
import EmsCollector.Collector.CommandSchedulerProof.Held
import EmsCollector.Collector.CommandHandlerProof.Connection
import EmsCollector.Collector.CommandHandlerProof.Orphan
import EmsCollector.Collector.CommandHandlerProof.Disconnect
import EmsCollector.Collector.CommandHandlerProof.TestMode
import EmsCollector.Collector.IStreamProof.Forward
import EmsCollector.Collector.ApiCommandParserProof.Forward
import EmsCollector.Collector.CommandHandlerProof.LineFraming
import EmsCollector.Collector.CommandSchedulerProof.Accounting
import EmsCollector.Collector.SendingSerialHandler
import EmsCollector.Collector.ApiCommandParserProof.Outcome
import EmsCollector.Collector.CommandSchedulerProof.Load
import EmsCollector.Collector.CommandHandlerProof.SilentBus
import EmsCollector.Collector.ApiCommandParserProof.RawRead
import EmsCollector.Collector.CommandHandlerProof.ChunkedRead
import EmsCollector.Collector.Database
import EmsCollector.Collector.DatabaseProof.History
import EmsCollector.Collector.ApiCommandParserProof.Unicode
import EmsCollector.Collector.ApiCommandParserProof.Returns
import EmsCollector.Collector.ApiCommandParserProof.Domain
import EmsCollector.Collector.ApiCommandParserProof.Guarded
import EmsCollector.Collector.ApiCommandParserProof.DataLines
import EmsCollector.Collector.ApiCommandParserProof.Reply
import EmsCollector.Collector.CommandHandlerProof.OneReply
import EmsCollector.Collector.ValueApi
import EmsCollector.Collector.ValueCache
import EmsCollector.Collector.IStreamProof.Round
import EmsCollector.Collector.ValueApiProof.Decimal
import EmsCollector.Collector.ApiCommandParserProof.ReadBack
import EmsCollector.Collector.ApiCommandParserProof.EndOfData
import EmsCollector.Collector.ApiCommandParserProof.Listing
import EmsCollector.Collector.IoHandlerProof.Segments
import EmsCollector.Framer.Checksum
import EmsCollector.Collector.DatabaseProof.Failures
import EmsCollector.Collector.CommandSchedulerProof.Distance
import EmsCollector.Collector.ApiCommandParserProof.FollowUps
import EmsCollector.Collector.ApiCommandParserProof.ContactText
import EmsCollector.Collector.ApiCommandParserProof.ContactInfo
import EmsCollector.Collector.ApiCommandParserProof.RequestData
import EmsCollector.Collector.CommandHandlerProof.RequestData
import EmsCollector.Collector.ApiCommandParserProof.Repeater
import EmsCollector.Collector.ApiCommandParserProof.ReadCommands
import EmsCollector.Collector.CommandHandlerProof.Foreground
import EmsCollector.Collector.CommandHandlerProof.Interference
import EmsCollector.Collector.ApiCommandParserProof.SetTime
import EmsCollector.Collector.EmsMessageProof.Kinds
import EmsCollector.Collector.ValueApiProof.Lines
import EmsCollector.Collector.EmsMessageProof.Consumers
import EmsCollector.Collector.ValueCacheProof.Latest
import EmsCollector.Collector.ValueCacheProof.Fetch
import EmsCollector.Collector.DataHandlerProof.Stream
import EmsCollector.Collector.MainProof.EndToEnd
import EmsCollector.Collector.MainProof.Rows
import EmsCollector.Framer.Overflow
import EmsCollector.Collector.DatabaseProof.Schema
import EmsCollector.Collector.MainProof.TcpSession
import EmsCollector.Collector.MainProof.Sent
import EmsCollector.Collector.CommandSchedulerProof.Progress
