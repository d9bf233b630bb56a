import BbtInfra.Rpc.Agreement
import BbtInfra.Rpc.Attribution
import BbtInfra.Rpc.Correlation
import BbtInfra.Rpc.LaneGauge
import BbtInfra.Rpc.ReplyWait
import BbtInfra.Rpc.WriteLedger
import BbtInfra.Rpc.OwnerLifecycle
import BbtInfra.Rpc.RejectionAnswered
import BbtInfra.Rpc.InboundDeadline
import BbtInfra.Rpc.ServerLinks
import BbtInfra.Http.Send
import BbtInfra.Net.DriverSleep
import BbtInfra.Net.TerminalRead
import BbtInfra.Net.ReadResume
import BbtInfra.Http.PoolLedger
import BbtInfra.Http.PoolReuse
import BbtInfra.Http.PoolQueue
import BbtInfra.Mcp.SlotLedger
import BbtInfra.Mcp.InFlight
import BbtInfra.Mcp.EventDelivery
import BbtInfra.Net.AcceptLedger
import BbtInfra.Net.AcceptStopped
import BbtInfra.Http.ServerLedger
import BbtInfra.Consul.Terminal
import BbtInfra.Rpc.TcpExchangeLedger
import BbtInfra.Net.WriteCapacity
import BbtInfra.Rpc.DecoderBound
import BbtInfra.Rpc.LaneSchedule
import BbtInfra.Rpc.AdmissionQueue
import BbtInfra.Rpc.DropAccounting
import BbtInfra.Rpc.GeneratedIds
import BbtInfra.Rpc.Payload
import BbtInfra.Rpc.WireServer
import BbtInfra.Mcp.ListPages
import BbtInfra.Mcp.EventLedger
import BbtInfra.Net.ConnCount
import BbtInfra.Net.ConnectLedger
import BbtInfra.Mcp.StdioTeardown
import BbtInfra.Mcp.SchemaFallback
import BbtInfra.Http.HeaderMerge
import BbtInfra.Http.Streaming
import BbtInfra.Consul.Health
import BbtInfra.Mongo.Bson
import BbtInfra.Redis.Connect
import BbtInfra.Utf8
import BbtInfra.Net.RingStorage
import BbtInfra.Config.FileSource
