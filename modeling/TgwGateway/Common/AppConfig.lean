import TgwGateway.Common.Config
import TgwGateway.Lib.Doubles

/- The whole configuration of the process, around the settings that its components read. -/
namespace TgwAppConfig
open ByteStrings Doubles TgwConfig

structure ServerSettings extends ServerConfig where
  name : Bytes := bytes "tgw-gateway"
  host : Bytes := bytes "0.0.0.0"
  port : UInt16 := 8080
  deriving DecidableEq

structure RuntimeConfig where
  ioThreads : Int := 2
  workerThreads : Int := 4
  deriving DecidableEq

structure LogConfig where
  level : Bytes := bytes "info"
  path : Bytes := bytes "logs/gateway.log"
  async : Bool := false
  deriving DecidableEq

structure GatewayConfig where
  enableAuth : Bool := true
  enableRateLimit : Bool := true
  enableTracing : Bool := true
  requestTimeoutMs : Int := 3000
  deriving DecidableEq

structure UserServiceRpcConfig where
  enabled : Bool := false
  host : Bytes := bytes "127.0.0.1"
  port : UInt16 := 9001
  timeoutMs : Int := 1000
  deriving DecidableEq

structure MysqlSettings extends MysqlConfig where
  enabled : Bool := false
  deriving DecidableEq

structure TracingSettings where
  enabled : Bool := true
  serviceName : Bytes := bytes "tgw-gateway"
  sampleRatio : Double := .one
  maxFinishedSpans : Nat := 1024
  acceptTraceparent : Bool := true
  exposeDebugHeaders : Bool := false
  otlpExporterEnabled : Bool := false
  otlpHost : Bytes := bytes "127.0.0.1"
  otlpHttpPort : UInt16 := 4318
  otlpPath : Bytes := bytes "/v1/traces"
  otlpTimeoutMs : Int := 1000
  deriving DecidableEq

structure AppConfig where
  server : ServerSettings := {}
  runtime : RuntimeConfig := {}
  log : LogConfig := {}
  gateway : GatewayConfig := {}
  userServiceRpc : UserServiceRpcConfig := {}
  mysql : MysqlSettings := {}
  auth : AuthConfig := {}
  rbacRules : List RbacRuleConfig := []
  rateLimit : RateLimitConfig := {}
  governance : GovernanceConfig := {}
  tracing : TracingSettings := {}
  routes : List RouteConfig := []
  deriving DecidableEq

end TgwAppConfig
