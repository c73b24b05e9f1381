import TgwGateway.Lib.ByteStrings

/- Settings the modelled components read, with the defaults of their declarations.
   An int setting is an unbounded integer here where no component does wrapping arithmetic on it.
   The sampling ratio is the rational value of its double. -/
namespace TgwConfig
open ByteStrings

structure AuthConfig where
  enabled : Bool := true
  jwtSecret : Bytes := bytes "tgw-dev-secret"
  tokenTtlSeconds : Int32 := 7200
  rbacEnabled : Bool := true
  publicPaths : List Bytes := [bytes "/api/user/login"]
  deriving DecidableEq

structure RbacRuleConfig where
  path : Bytes := []
  roles : List Bytes := []
  deriving DecidableEq

structure MysqlConfig where
  host : Bytes := bytes "127.0.0.1"
  port : UInt16 := 3306
  user : Bytes := bytes "tgw"
  password : Bytes := bytes "tgw"
  database : Bytes := bytes "tgw_gateway"
  deriving DecidableEq

structure RateLimitRuleConfig where
  path : Bytes := []
  maxRequests : Int := 120
  deriving DecidableEq

structure RedisRateLimitConfig where
  enabled : Bool := false
  host : Bytes := bytes "127.0.0.1"
  port : UInt16 := 6379
  keyPrefix : Bytes := bytes "tgw:rate_limit"
  failOpen : Bool := true
  deriving DecidableEq

structure RateLimitConfig where
  enabled : Bool := true
  windowSeconds : Int := 60
  defaultMaxRequests : Int := 120
  redis : RedisRateLimitConfig := {}
  rules : List RateLimitRuleConfig := []
  deriving DecidableEq

structure RetryConfig where
  enabled : Bool := true
  maxAttempts : Int := 2
  backoffMs : Int := 20
  retryNonIdempotent : Bool := false
  deriving DecidableEq

structure CircuitBreakerConfig where
  enabled : Bool := true
  failureThreshold : Int := 5
  openSeconds : Int := 10
  halfOpenSuccessThreshold : Int := 2
  deriving DecidableEq

structure FallbackConfig where
  enabled : Bool := true
  message : Bytes := bytes "service degraded"
  deriving DecidableEq

structure GovernanceConfig where
  enabled : Bool := true
  retry : RetryConfig := {}
  circuitBreaker : CircuitBreakerConfig := {}
  fallback : FallbackConfig := {}
  deriving DecidableEq

structure TracingConfig where
  enabled : Bool := true
  serviceName : Bytes := bytes "tgw-gateway"
  sampleRatio : Rat := 1
  maxFinishedSpans : Nat := 1024
  acceptTraceparent : Bool := true
  exposeDebugHeaders : Bool := false
  otlpExporterEnabled : Bool := false
  deriving DecidableEq

structure ServerConfig where
  keepAlive : Bool := true
  readTimeoutMs : Int := 3000
  writeTimeoutMs : Int := 3000
  bodyLimitBytes : Nat := 1048576
  deriving DecidableEq

structure RouteConfig where
  name : Bytes := []
  matchType : Bytes := bytes "prefix"
  path : Bytes := []
  upstream : Bytes := []
  stripRoutePrefix : Bool := true
  timeoutMs : Int := 1000
  deriving DecidableEq

end TgwConfig
