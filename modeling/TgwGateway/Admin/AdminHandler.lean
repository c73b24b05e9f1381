import TgwGateway.Common.AppConfig
import TgwGateway.Common.JsonEscaping
import TgwGateway.Gateway.Http
import TgwGateway.Gateway.RouteRule
import TgwGateway.Lib.JsonDocuments

/- AdminHandler: the settings, the routes and the features of the running process, as JSON. -/
namespace TgwAdminHandler
open ByteStrings DecimalText Doubles JsonGrammar JsonStrings JsonPrinter JsonDocuments
open TgwAppConfig TgwConfig TgwStatus TgwJsonEscaping TgwHttp TgwRouteRule

section handler

structure AdminHandler where
  config : AppConfig
  exactRoutes : List Bytes
  routeManager : RouteRuleManager

def boolToJson (value : Bool) : Bytes := if value then bytes "true" else bytes "false"

/-- What JsonEscape leaves of a text, in quotes. -/
def stringToJson (value : Bytes) : Bytes := quoted jsonEscape value

def uint16ToJson (value : UInt16) : Bytes := natText value.toNat

def jsonResponse (rawJson : Bytes) : HttpResponse :=
  { status := 200
    contentType := bytes "application/json"
    body := (ApiResponse.success rawJson).toJson }

def serviceJson (server : ServerSettings) : Bytes := rawObject
  [(bytes "name", stringToJson server.name), (bytes "host", stringToJson server.host),
    (bytes "port", uint16ToJson server.port)]

def redisJson (redis : RedisRateLimitConfig) : Bytes := rawObject
  [(bytes "enabled", boolToJson redis.enabled), (bytes "host", stringToJson redis.host),
    (bytes "port", uint16ToJson redis.port), (bytes "key_prefix", stringToJson redis.keyPrefix),
    (bytes "fail_open", boolToJson redis.failOpen)]

def governanceJson (governance : GovernanceConfig) : Bytes := rawObject
  [(bytes "enabled", boolToJson governance.enabled),
    (bytes "retry", rawObject
      [(bytes "enabled", boolToJson governance.retry.enabled),
        (bytes "max_attempts", intText governance.retry.maxAttempts),
        (bytes "backoff_ms", intText governance.retry.backoffMs),
        (bytes "retry_non_idempotent", boolToJson governance.retry.retryNonIdempotent)]),
    (bytes "circuit_breaker", rawObject
      [(bytes "enabled", boolToJson governance.circuitBreaker.enabled),
        (bytes "failure_threshold", intText governance.circuitBreaker.failureThreshold),
        (bytes "open_seconds", intText governance.circuitBreaker.openSeconds),
        (bytes "half_open_success_threshold",
          intText governance.circuitBreaker.halfOpenSuccessThreshold)]),
    (bytes "fallback", rawObject
      [(bytes "enabled", boolToJson governance.fallback.enabled),
        (bytes "message", stringToJson governance.fallback.message)])]

def otlpEndpoint (tracing : TracingSettings) : Bytes :=
  tracing.otlpHost ++ bytes ":" ++ natText tracing.otlpHttpPort.toNat ++ tracing.otlpPath

def tracingJson (tracing : TracingSettings) : Bytes := rawObject
  [(bytes "enabled", boolToJson tracing.enabled),
    (bytes "service_name", stringToJson tracing.serviceName),
    (bytes "sample_ratio", writeDouble tracing.sampleRatio),
    (bytes "max_finished_spans", natText tracing.maxFinishedSpans),
    (bytes "accept_traceparent", boolToJson tracing.acceptTraceparent),
    (bytes "otlp_exporter_enabled", boolToJson tracing.otlpExporterEnabled),
    (bytes "otlp_endpoint", stringToJson (otlpEndpoint tracing))]

def runtimeJson (config : AppConfig) : Bytes := rawObject
  [(bytes "service", serviceJson config.server),
    (bytes "runtime", rawObject
      [(bytes "io_threads", intText config.runtime.ioThreads),
        (bytes "worker_threads", intText config.runtime.workerThreads)]),
    (bytes "gateway", rawObject
      [(bytes "request_timeout_ms", intText config.gateway.requestTimeoutMs),
        (bytes "enable_tracing", boolToJson config.gateway.enableTracing)]),
    (bytes "user_service_rpc", rawObject
      [(bytes "enabled", boolToJson config.userServiceRpc.enabled),
        (bytes "host", stringToJson config.userServiceRpc.host),
        (bytes "port", uint16ToJson config.userServiceRpc.port),
        (bytes "timeout_ms", intText config.userServiceRpc.timeoutMs)]),
    (bytes "auth", rawObject
      [(bytes "enabled", boolToJson config.auth.enabled),
        (bytes "token_ttl_seconds", intText config.auth.tokenTtlSeconds.toInt),
        (bytes "rbac_enabled", boolToJson config.auth.rbacEnabled),
        (bytes "rbac_rule_count", natText config.rbacRules.length)]),
    (bytes "mysql", rawObject
      [(bytes "enabled", boolToJson config.mysql.enabled),
        (bytes "host", stringToJson config.mysql.host),
        (bytes "port", uint16ToJson config.mysql.port),
        (bytes "database", stringToJson config.mysql.database)]),
    (bytes "rate_limit", rawObject
      [(bytes "enabled", boolToJson config.rateLimit.enabled),
        (bytes "window_seconds", intText config.rateLimit.windowSeconds),
        (bytes "default_max_requests", intText config.rateLimit.defaultMaxRequests),
        (bytes "redis", redisJson config.rateLimit.redis)]),
    (bytes "governance", governanceJson config.governance),
    (bytes "tracing", tracingJson config.tracing)]

def AdminHandler.runtime (handler : AdminHandler) (_request : HttpRequest) : HttpResponse :=
  jsonResponse (runtimeJson handler.config)

def routeJson (route : RouteConfig) : Bytes := rawObject
  [(bytes "name", stringToJson route.name), (bytes "match_type", stringToJson route.matchType),
    (bytes "path", stringToJson route.path), (bytes "upstream", stringToJson route.upstream),
    (bytes "strip_prefix", boolToJson route.stripRoutePrefix),
    (bytes "timeout_ms", intText route.timeoutMs)]

def AdminHandler.routes (handler : AdminHandler) (_request : HttpRequest) : HttpResponse :=
  jsonResponse (rawObject
    [(bytes "exact_routes", arrayText (handler.exactRoutes.map stringToJson)),
      (bytes "gateway_routes", arrayText (handler.routeManager.routes.map routeJson))])

def featuresJson (config : AppConfig) : Bytes := rawObject
  [(bytes "auth_enabled", boolToJson config.auth.enabled),
    (bytes "rbac_enabled", boolToJson config.auth.rbacEnabled),
    (bytes "mysql_enabled", boolToJson config.mysql.enabled),
    (bytes "rate_limit_enabled", boolToJson config.rateLimit.enabled),
    (bytes "redis_rate_limit_enabled", boolToJson config.rateLimit.redis.enabled),
    (bytes "governance_enabled", boolToJson config.governance.enabled),
    (bytes "retry_enabled", boolToJson config.governance.retry.enabled),
    (bytes "circuit_breaker_enabled", boolToJson config.governance.circuitBreaker.enabled),
    (bytes "fallback_enabled", boolToJson config.governance.fallback.enabled),
    (bytes "remote_user_service_enabled", boolToJson config.userServiceRpc.enabled),
    (bytes "tracing_enabled", boolToJson config.tracing.enabled),
    (bytes "otlp_exporter_enabled", boolToJson config.tracing.otlpExporterEnabled),
    (bytes "metrics_enabled", bytes "true"),
    (bytes "admin_enabled", bytes "true")]

def AdminHandler.features (handler : AdminHandler) (_request : HttpRequest) : HttpResponse :=
  jsonResponse (featuresJson handler.config)

end handler

end TgwAdminHandler
