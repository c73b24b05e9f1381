import TgwGateway.Lib.ByteStrings
import TgwGateway.Lib.TrailingRun
import TgwGateway.Lib.DecimalText
import TgwGateway.Lib.MachineInt
import TgwGateway.Lib.CheckedInt
import TgwGateway.Lib.PrometheusText
import TgwGateway.Lib.RequestLoop
import TgwGateway.Lib.FixedWindow
import TgwGateway.Lib.KeyedHistory
import TgwGateway.Lib.ByteSearch
import TgwGateway.Lib.ByteMaps
import TgwGateway.Lib.LongestPrefix
import TgwGateway.Lib.RespText
import TgwGateway.Lib.WatchedRuns
import TgwGateway.Lib.CountedMaps
import TgwGateway.Lib.ShellWords
import TgwGateway.Lib.SqlLiterals
import TgwGateway.Lib.JsonGrammar
import TgwGateway.Lib.JsonStrings
import TgwGateway.Lib.JsonScan
import TgwGateway.Lib.JsonPrinter
import TgwGateway.Lib.JsonNumbers
import TgwGateway.Lib.BitTexts
import TgwGateway.Lib.SecureHash
import TgwGateway.Lib.Hmac
import TgwGateway.Lib.JsonValues
import TgwGateway.Common.Config
import TgwGateway.Common.Clock
import TgwGateway.Common.WatchedDeadline
import TgwGateway.Common.Status
import TgwGateway.Common.JsonEscaping
import TgwGateway.Common.Exceptions
import TgwGateway.Gateway.Http
import TgwGateway.Gateway.RouteRule
import TgwGateway.Governance.CircuitBreaker
import TgwGateway.Governance.BreakerHistory
import TgwGateway.Governance.LateResults
import TgwGateway.Governance.UpstreamClient
import TgwGateway.Governance.ForwardRuns
import TgwGateway.Governance.ForwardLaws
import TgwGateway.Governance.WatchedForward
import TgwGateway.Governance.OpenCalls
import TgwGateway.Governance.CircuitHeader
import TgwGateway.Governance.RateLimitFilter
import TgwGateway.Governance.LocalBuckets
import TgwGateway.Governance.LocalReports
import TgwGateway.Governance.RuleQuota
import TgwGateway.Governance.RedisServer
import TgwGateway.Governance.RedisProtocol
import TgwGateway.Governance.RedisConnection
import TgwGateway.Governance.RedisExpiry
import TgwGateway.Governance.CheckAgreement
import TgwGateway.Governance.RedisFleet
import TgwGateway.Auth.Base64Url
import TgwGateway.Auth.Sha256
import TgwGateway.Auth.Sha256Standard
import TgwGateway.Auth.TokenService
import TgwGateway.Auth.SafeShifts
import TgwGateway.Auth.TokenPayload
import TgwGateway.Auth.TokenSignature
import TgwGateway.Auth.TokenClaims
import TgwGateway.Auth.AuthFilter
import TgwGateway.Observability.Tracing
import TgwGateway.Observability.SpanIds
import TgwGateway.Observability.TraceLinks
import TgwGateway.Observability.GeneratedIds
import TgwGateway.Observability.OtlpExport
import TgwGateway.Observability.Metrics
import TgwGateway.Observability.MetricsLaws
import TgwGateway.Gateway.GatewayHandler
import TgwGateway.Gateway.HandlerTrace
import TgwGateway.Gateway.HandlerExits
import TgwGateway.Gateway.CallRuns
import TgwGateway.Observability.SpanExport
import TgwGateway.Gateway.CallAccounting
import TgwGateway.Gateway.Mediation
import TgwGateway.Gateway.RuleSelection
import TgwGateway.Gateway.RouteTable
import TgwGateway.Gateway.IdentityHeaders
import TgwGateway.Gateway.HeaderCase
import TgwGateway.Service.RpcMessages
import TgwGateway.Service.UserService
import TgwGateway.Service.UserRepository
import TgwGateway.Service.ShellQuoting
import TgwGateway.Service.SqlQuoting
import TgwGateway.Service.UserRows
import TgwGateway.Service.TaskService
import TgwGateway.Service.FileMetaService
import TgwGateway.Service.StoreRuns
import TgwGateway.Service.WatchedServices
import TgwGateway.Service.RemoteUserService
import TgwGateway.Service.RemoteEquivalence
import TgwGateway.Gateway.FlatJson
import TgwGateway.Gateway.QueryText
import TgwGateway.Gateway.LooseJson
import TgwGateway.Gateway.LocalRpcUpstreamClient
import TgwGateway.Gateway.LocalRpcErrors
import TgwGateway.Gateway.RenderedBodies
import TgwGateway.Gateway.EncodedFields
import TgwGateway.Gateway.FlatJsonMeaning
import TgwGateway.Gateway.MalformedBodies
import TgwGateway.Gateway.IntegerFields
import TgwGateway.Gateway.WatchedLocalRpc
import TgwGateway.Gateway.TaskEvents
import TgwGateway.Gateway.DeadlinePath
import TgwGateway.Governance.SleepTurns
import TgwGateway.Gateway.SessionTimers
import TgwGateway.Gateway.SessionFlow
import TgwGateway.Gateway.SilentPeer
import TgwGateway.Observability.MetricsText
import TgwGateway.Gateway.HttpServer
import TgwGateway.Common.AppConfig
import TgwGateway.Common.ConfigLoader
import TgwGateway.Gateway.Router
import TgwGateway.Common.ConfigLaws
import TgwGateway.Lib.HttpText
import TgwGateway.Gateway.ResponseHeaders
import TgwGateway.Gateway.WireResponses
import TgwGateway.Lib.JsonDocuments
import TgwGateway.Admin.AdminHandler
import TgwGateway.Observability.RecentSpans
import TgwGateway.Gateway.GatewayRouter
import TgwGateway.Gateway.GatewayResponses
import TgwGateway.Observability.OtlpPost
import TgwGateway.Gateway.OwnDocuments
import TgwGateway.Governance.InnerCalls
import TgwGateway.Gateway.StoreForwarding
import TgwGateway.Gateway.ForwardedCalls
import TgwGateway.Gateway.StoresOverHttp
