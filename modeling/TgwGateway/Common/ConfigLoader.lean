import TgwGateway.Common.AppConfig
import TgwGateway.Common.Exceptions

/- ConfigLoader: a document becomes a configuration, section by section. The library that reads the
   document is given by what the loader asks of it. -/
namespace TgwConfigLoader
open ByteStrings Doubles TgwConfig TgwExceptions TgwAppConfig

section loader

/-- A node of a document: the value under a key if there is one, the elements of a sequence, and
    the conversions of a scalar, each of which may throw. -/
structure Yaml (Node : Type) where
  subscript : Node → String → Except CppException (Option Node)
  isSequence : Node → Bool
  elements : Node → List Node
  asString : Node → Except CppException Bytes
  asBool : Node → Except CppException Bool
  asInt : Node → Except CppException Int32
  asUInt16 : Node → Except CppException UInt16
  asSize : Node → Except CppException UInt64
  asDouble : Node → Except CppException Double

variable {Node Value Settings : Type} (yaml : Yaml Node)

def getOrDefault (read : Node → Except CppException Value) (node : Node) (key : String)
    (default : Value) : Except CppException Value := do
  match ← yaml.subscript node key with
  | none => .ok default
  | some item => read item

/-- The throw behind an if. -/
def refuse (bad : Bool) (message : Bytes) : Except CppException Unit :=
  if bad then .error (.runtimeError message) else .ok ()

/-- The settings of a section, which stay as they are when the document does not have it. -/
def inSection (node : Node) (key : String) (current : Settings)
    (load : Node → Settings → Except CppException Settings) : Except CppException Settings := do
  match ← yaml.subscript node key with
  | none => .ok current
  | some item => load item current

def readInt (node : Node) : Except CppException Int := (yaml.asInt node).map Int32.toInt

def readSize (node : Node) : Except CppException Nat := (yaml.asSize node).map UInt64.toNat

def loadServer (server : Node) (current : ServerSettings) : Except CppException ServerSettings := do
  let name ← getOrDefault yaml yaml.asString server "name" current.name
  let host ← getOrDefault yaml yaml.asString server "host" current.host
  let port ← getOrDefault yaml yaml.asUInt16 server "port" current.port
  let keepAlive ← getOrDefault yaml yaml.asBool server "keep_alive" current.keepAlive
  let readTimeoutMs ← getOrDefault yaml (readInt yaml) server "read_timeout_ms"
    current.readTimeoutMs
  let writeTimeoutMs ← getOrDefault yaml (readInt yaml) server "write_timeout_ms"
    current.writeTimeoutMs
  let bodyLimitBytes ← getOrDefault yaml (readSize yaml) server "body_limit_bytes"
    current.bodyLimitBytes
  refuse (readTimeoutMs ≤ 0) (bytes "server.read_timeout_ms must be positive")
  refuse (writeTimeoutMs ≤ 0) (bytes "server.write_timeout_ms must be positive")
  refuse (bodyLimitBytes = 0) (bytes "server.body_limit_bytes must be positive")
  .ok
    { name := name
      host := host
      port := port
      keepAlive := keepAlive
      readTimeoutMs := readTimeoutMs
      writeTimeoutMs := writeTimeoutMs
      bodyLimitBytes := bodyLimitBytes }

def loadRuntime (runtime : Node) (current : RuntimeConfig) : Except CppException RuntimeConfig := do
  let ioThreads ← getOrDefault yaml (readInt yaml) runtime "io_threads" current.ioThreads
  let workerThreads ← getOrDefault yaml (readInt yaml) runtime "worker_threads"
    current.workerThreads
  .ok { ioThreads := ioThreads, workerThreads := workerThreads }

def loadLog (log : Node) (current : LogConfig) : Except CppException LogConfig := do
  let level ← getOrDefault yaml yaml.asString log "level" current.level
  let path ← getOrDefault yaml yaml.asString log "path" current.path
  let async ← getOrDefault yaml yaml.asBool log "async" current.async
  .ok { level := level, path := path, async := async }

def loadGateway (gateway : Node) (current : GatewayConfig) : Except CppException GatewayConfig := do
  let enableAuth ← getOrDefault yaml yaml.asBool gateway "enable_auth" current.enableAuth
  let enableRateLimit ← getOrDefault yaml yaml.asBool gateway "enable_rate_limit"
    current.enableRateLimit
  let enableTracing ← getOrDefault yaml yaml.asBool gateway "enable_tracing" current.enableTracing
  let requestTimeoutMs ← getOrDefault yaml (readInt yaml) gateway "request_timeout_ms"
    current.requestTimeoutMs
  .ok
    { enableAuth := enableAuth
      enableRateLimit := enableRateLimit
      enableTracing := enableTracing
      requestTimeoutMs := requestTimeoutMs }

def loadUserServiceRpc (rpc : Node) (current : UserServiceRpcConfig) :
    Except CppException UserServiceRpcConfig := do
  let enabled ← getOrDefault yaml yaml.asBool rpc "enabled" current.enabled
  let host ← getOrDefault yaml yaml.asString rpc "host" current.host
  let port ← getOrDefault yaml yaml.asUInt16 rpc "port" current.port
  let timeoutMs ← getOrDefault yaml (readInt yaml) rpc "timeout_ms" current.timeoutMs
  refuse (timeoutMs ≤ 0) (bytes "user_service_rpc.timeout_ms must be positive")
  .ok { enabled := enabled, host := host, port := port, timeoutMs := timeoutMs }

def loadMysql (mysql : Node) (current : MysqlSettings) : Except CppException MysqlSettings := do
  let enabled ← getOrDefault yaml yaml.asBool mysql "enabled" current.enabled
  let host ← getOrDefault yaml yaml.asString mysql "host" current.host
  let port ← getOrDefault yaml yaml.asUInt16 mysql "port" current.port
  let user ← getOrDefault yaml yaml.asString mysql "user" current.user
  let password ← getOrDefault yaml yaml.asString mysql "password" current.password
  let database ← getOrDefault yaml yaml.asString mysql "database" current.database
  .ok
    { enabled := enabled
      host := host
      port := port
      user := user
      password := password
      database := database }

def loadPublicPath (item : Node) : Except CppException Bytes := do
  let path ← yaml.asString item
  refuse path.isEmpty (bytes "auth.public_paths cannot contain empty path")
  .ok path

def loadPublicPaths (publicPaths : Node) (_ : List Bytes) : Except CppException (List Bytes) := do
  refuse (!yaml.isSequence publicPaths) (bytes "auth.public_paths must be a yaml sequence")
  (yaml.elements publicPaths).mapM (loadPublicPath yaml)

def loadAuth (auth : Node) (current : AuthConfig) : Except CppException AuthConfig := do
  let enabled ← getOrDefault yaml yaml.asBool auth "enabled" current.enabled
  let jwtSecret ← getOrDefault yaml yaml.asString auth "jwt_secret" current.jwtSecret
  let rbacEnabled ← getOrDefault yaml yaml.asBool auth "rbac_enabled" current.rbacEnabled
  let tokenTtlSeconds ← getOrDefault yaml yaml.asInt auth "token_ttl_seconds"
    current.tokenTtlSeconds
  let publicPaths ← inSection yaml auth "public_paths" current.publicPaths (loadPublicPaths yaml)
  .ok
    { enabled := enabled
      jwtSecret := jwtSecret
      rbacEnabled := rbacEnabled
      tokenTtlSeconds := tokenTtlSeconds
      publicPaths := publicPaths }

def loadRbacRule (item : Node) : Except CppException RbacRuleConfig := do
  let path ← getOrDefault yaml yaml.asString item "path" []
  refuse path.isEmpty (bytes "rbac rule path cannot be empty")
  let roles ← yaml.subscript item "roles"
  refuse (!roles.any yaml.isSequence) (bytes "rbac rule roles must be a yaml sequence")
  let names ← (roles.elim [] yaml.elements).mapM yaml.asString
  let kept := names.filter fun name => !name.isEmpty
  refuse kept.isEmpty (bytes "rbac rule roles cannot be empty, path=" ++ path)
  .ok { path := path, roles := kept }

def loadRbac (rules : Node) (_ : List RbacRuleConfig) :
    Except CppException (List RbacRuleConfig) := do
  refuse (!yaml.isSequence rules) (bytes "rbac must be a yaml sequence")
  (yaml.elements rules).mapM (loadRbacRule yaml)

def loadRedis (redis : Node) (current : RedisRateLimitConfig) :
    Except CppException RedisRateLimitConfig := do
  let enabled ← getOrDefault yaml yaml.asBool redis "enabled" current.enabled
  let host ← getOrDefault yaml yaml.asString redis "host" current.host
  let port ← getOrDefault yaml yaml.asUInt16 redis "port" current.port
  let keyPrefix ← getOrDefault yaml yaml.asString redis "key_prefix" current.keyPrefix
  let failOpen ← getOrDefault yaml yaml.asBool redis "fail_open" current.failOpen
  .ok
    { enabled := enabled
      host := host
      port := port
      keyPrefix := keyPrefix
      failOpen := failOpen }

def loadRateLimitRule (defaultMaxRequests : Int) (item : Node) :
    Except CppException RateLimitRuleConfig := do
  let path ← getOrDefault yaml yaml.asString item "path" []
  let maxRequests ← getOrDefault yaml (readInt yaml) item "max_requests" defaultMaxRequests
  refuse path.isEmpty (bytes "rate_limit rule path cannot be empty")
  refuse (maxRequests ≤ 0) (bytes "rate_limit max_requests must be positive, path=" ++ path)
  .ok { path := path, maxRequests := maxRequests }

def loadRateLimitRules (defaultMaxRequests : Int) (rules : Node) (_ : List RateLimitRuleConfig) :
    Except CppException (List RateLimitRuleConfig) := do
  refuse (!yaml.isSequence rules) (bytes "rate_limit.rules must be a yaml sequence")
  (yaml.elements rules).mapM (loadRateLimitRule yaml defaultMaxRequests)

def loadRateLimit (rateLimit : Node) (current : RateLimitConfig) :
    Except CppException RateLimitConfig := do
  let enabled ← getOrDefault yaml yaml.asBool rateLimit "enabled" current.enabled
  let windowSeconds ← getOrDefault yaml (readInt yaml) rateLimit "window_seconds"
    current.windowSeconds
  let defaultMaxRequests ← getOrDefault yaml (readInt yaml) rateLimit "default_max_requests"
    current.defaultMaxRequests
  let redis ← inSection yaml rateLimit "redis" current.redis (loadRedis yaml)
  let rules ← inSection yaml rateLimit "rules" current.rules
    (loadRateLimitRules yaml defaultMaxRequests)
  .ok
    { enabled := enabled
      windowSeconds := windowSeconds
      defaultMaxRequests := defaultMaxRequests
      redis := redis
      rules := rules }

def loadRetry (retry : Node) (current : RetryConfig) : Except CppException RetryConfig := do
  let enabled ← getOrDefault yaml yaml.asBool retry "enabled" current.enabled
  let maxAttempts ← getOrDefault yaml (readInt yaml) retry "max_attempts" current.maxAttempts
  let backoffMs ← getOrDefault yaml (readInt yaml) retry "backoff_ms" current.backoffMs
  let retryNonIdempotent ← getOrDefault yaml yaml.asBool retry "retry_non_idempotent"
    current.retryNonIdempotent
  refuse (maxAttempts ≤ 0) (bytes "governance.retry.max_attempts must be positive")
  refuse (backoffMs < 0) (bytes "governance.retry.backoff_ms cannot be negative")
  .ok
    { enabled := enabled
      maxAttempts := maxAttempts
      backoffMs := backoffMs
      retryNonIdempotent := retryNonIdempotent }

def loadCircuitBreaker (breaker : Node) (current : CircuitBreakerConfig) :
    Except CppException CircuitBreakerConfig := do
  let enabled ← getOrDefault yaml yaml.asBool breaker "enabled" current.enabled
  let failureThreshold ← getOrDefault yaml (readInt yaml) breaker "failure_threshold"
    current.failureThreshold
  let openSeconds ← getOrDefault yaml (readInt yaml) breaker "open_seconds" current.openSeconds
  let halfOpenSuccessThreshold ← getOrDefault yaml (readInt yaml) breaker
    "half_open_success_threshold" current.halfOpenSuccessThreshold
  refuse (failureThreshold ≤ 0)
    (bytes "governance.circuit_breaker.failure_threshold must be positive")
  refuse (openSeconds ≤ 0) (bytes "governance.circuit_breaker.open_seconds must be positive")
  refuse (halfOpenSuccessThreshold ≤ 0)
    (bytes "governance.circuit_breaker.half_open_success_threshold must be positive")
  .ok
    { enabled := enabled
      failureThreshold := failureThreshold
      openSeconds := openSeconds
      halfOpenSuccessThreshold := halfOpenSuccessThreshold }

def loadFallback (fallback : Node) (current : FallbackConfig) :
    Except CppException FallbackConfig := do
  let enabled ← getOrDefault yaml yaml.asBool fallback "enabled" current.enabled
  let message ← getOrDefault yaml yaml.asString fallback "message" current.message
  .ok { enabled := enabled, message := message }

def loadGovernance (governance : Node) (current : GovernanceConfig) :
    Except CppException GovernanceConfig := do
  let enabled ← getOrDefault yaml yaml.asBool governance "enabled" current.enabled
  let retry ← inSection yaml governance "retry" current.retry (loadRetry yaml)
  let circuitBreaker ← inSection yaml governance "circuit_breaker" current.circuitBreaker
    (loadCircuitBreaker yaml)
  let fallback ← inSection yaml governance "fallback" current.fallback (loadFallback yaml)
  .ok
    { enabled := enabled
      retry := retry
      circuitBreaker := circuitBreaker
      fallback := fallback }

def loadTracing (tracing : Node) (current : TracingSettings) :
    Except CppException TracingSettings := do
  let enabled ← getOrDefault yaml yaml.asBool tracing "enabled" current.enabled
  let serviceName ← getOrDefault yaml yaml.asString tracing "service_name" current.serviceName
  let sampleRatio ← getOrDefault yaml yaml.asDouble tracing "sample_ratio" current.sampleRatio
  let maxFinishedSpans ← getOrDefault yaml (readSize yaml) tracing "max_finished_spans"
    current.maxFinishedSpans
  let acceptTraceparent ← getOrDefault yaml yaml.asBool tracing "accept_traceparent"
    current.acceptTraceparent
  let exposeDebugHeaders ← getOrDefault yaml yaml.asBool tracing "expose_debug_headers"
    current.exposeDebugHeaders
  let otlpExporterEnabled ← getOrDefault yaml yaml.asBool tracing "otlp_exporter_enabled"
    current.otlpExporterEnabled
  let otlpHost ← getOrDefault yaml yaml.asString tracing "otlp_host" current.otlpHost
  let otlpHttpPort ← getOrDefault yaml yaml.asUInt16 tracing "otlp_http_port" current.otlpHttpPort
  let otlpPath ← getOrDefault yaml yaml.asString tracing "otlp_path" current.otlpPath
  let otlpTimeoutMs ← getOrDefault yaml (readInt yaml) tracing "otlp_timeout_ms"
    current.otlpTimeoutMs
  refuse (sampleRatio.lessThan .zero || Double.one.lessThan sampleRatio)
    (bytes "tracing.sample_ratio must be between 0.0 and 1.0")
  refuse (maxFinishedSpans = 0) (bytes "tracing.max_finished_spans must be positive")
  refuse (otlpTimeoutMs ≤ 0) (bytes "tracing.otlp_timeout_ms must be positive")
  .ok
    { enabled := enabled
      serviceName := serviceName
      sampleRatio := sampleRatio
      maxFinishedSpans := maxFinishedSpans
      acceptTraceparent := acceptTraceparent
      exposeDebugHeaders := exposeDebugHeaders
      otlpExporterEnabled := otlpExporterEnabled
      otlpHost := otlpHost
      otlpHttpPort := otlpHttpPort
      otlpPath := otlpPath
      otlpTimeoutMs := otlpTimeoutMs }

def loadRoute (item : Node) : Except CppException RouteConfig := do
  let name ← getOrDefault yaml yaml.asString item "name" []
  let matchType ← getOrDefault yaml yaml.asString item "match_type" (bytes "prefix")
  let path ← getOrDefault yaml yaml.asString item "path" []
  let upstream ← getOrDefault yaml yaml.asString item "upstream" []
  let stripRoutePrefix ← getOrDefault yaml yaml.asBool item "strip_prefix" true
  let timeoutMs ← getOrDefault yaml (readInt yaml) item "timeout_ms" 1000
  refuse name.isEmpty (bytes "route name cannot be empty")
  refuse path.isEmpty (bytes "route path cannot be empty, route=" ++ name)
  refuse upstream.isEmpty (bytes "route upstream cannot be empty, route=" ++ name)
  refuse (timeoutMs ≤ 0) (bytes "route timeout_ms must be positive, route=" ++ name)
  .ok
    { name := name
      matchType := matchType
      path := path
      upstream := upstream
      stripRoutePrefix := stripRoutePrefix
      timeoutMs := timeoutMs }

def loadRoutes (routes : Node) (current : List RouteConfig) :
    Except CppException (List RouteConfig) := do
  refuse (!yaml.isSequence routes) (bytes "routes must be a yaml sequence")
  let loaded ← (yaml.elements routes).mapM (loadRoute yaml)
  .ok (current ++ loaded)

/-- Three switches of the gateway section are the defaults of the sections behind it. -/
def loadRoot (root : Node) : Except CppException AppConfig := do
  let config : AppConfig := {}
  let server ← inSection yaml root "server" config.server (loadServer yaml)
  let runtime ← inSection yaml root "runtime" config.runtime (loadRuntime yaml)
  let log ← inSection yaml root "log" config.log (loadLog yaml)
  let gateway ← inSection yaml root "gateway" config.gateway (loadGateway yaml)
  let userServiceRpc ← inSection yaml root "user_service_rpc" config.userServiceRpc
    (loadUserServiceRpc yaml)
  let mysql ← inSection yaml root "mysql" config.mysql (loadMysql yaml)
  let auth ← inSection yaml root "auth" { config.auth with enabled := gateway.enableAuth }
    (loadAuth yaml)
  let rbacRules ← inSection yaml root "rbac" config.rbacRules (loadRbac yaml)
  let rateLimit ← inSection yaml root "rate_limit"
    { config.rateLimit with enabled := gateway.enableRateLimit } (loadRateLimit yaml)
  let governance ← inSection yaml root "governance" config.governance (loadGovernance yaml)
  let tracing ← inSection yaml root "tracing"
    { config.tracing with enabled := gateway.enableTracing } (loadTracing yaml)
  let routes ← inSection yaml root "routes" config.routes (loadRoutes yaml)
  .ok
    { server := server
      runtime := runtime
      log := log
      gateway := gateway
      userServiceRpc := userServiceRpc
      mysql := mysql
      auth := auth
      rbacRules := rbacRules
      rateLimit := rateLimit
      governance := governance
      tracing := tracing
      routes := routes }

/-- LoadFromFile, with what the library made of the file. -/
def loadFromFile (path : Bytes) (file : Except Bytes Node) : Except CppException AppConfig :=
  match file with
  | .ok root => loadRoot yaml root
  | .error what => .error (.runtimeError
      (bytes "failed to load config file: " ++ path ++ bytes ", error: " ++ what))

end loader

end TgwConfigLoader
