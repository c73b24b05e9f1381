import TgwGateway.Gateway.GatewayRouter
import TgwGateway.Gateway.RenderedBodies

/- The documents that the gateway answers on its own routes: what a reader finds in them, as long as
   the texts of the configuration and of the spans hold no control character that JsonEscape has no
   escape for. -/
namespace TgwOwnDocuments
open ByteStrings DecimalText Doubles JsonGrammar JsonStrings JsonPrinter JsonDocuments
open TgwAppConfig TgwConfig TgwStatus TgwJsonEscaping TgwHttp TgwRouteRule TgwTracing TgwRecentSpans
open TgwAdminHandler TgwGatewayRouter

section documents

def integer (n : Int) : Document := .number (intText n)

def natural (n : Nat) : Document := .number (natText n)

def serviceDocument (server : ServerSettings) : Document := .record
  [(bytes "name", .text server.name), (bytes "host", .text server.host),
    (bytes "port", natural server.port.toNat)]

def redisDocument (redis : RedisRateLimitConfig) : Document := .record
  [(bytes "enabled", .truth redis.enabled), (bytes "host", .text redis.host),
    (bytes "port", natural redis.port.toNat), (bytes "key_prefix", .text redis.keyPrefix),
    (bytes "fail_open", .truth redis.failOpen)]

def governanceDocument (governance : GovernanceConfig) : Document := .record
  [(bytes "enabled", .truth governance.enabled),
    (bytes "retry", .record
      [(bytes "enabled", .truth governance.retry.enabled),
        (bytes "max_attempts", integer governance.retry.maxAttempts),
        (bytes "backoff_ms", integer governance.retry.backoffMs),
        (bytes "retry_non_idempotent", .truth governance.retry.retryNonIdempotent)]),
    (bytes "circuit_breaker", .record
      [(bytes "enabled", .truth governance.circuitBreaker.enabled),
        (bytes "failure_threshold", integer governance.circuitBreaker.failureThreshold),
        (bytes "open_seconds", integer governance.circuitBreaker.openSeconds),
        (bytes "half_open_success_threshold",
          integer governance.circuitBreaker.halfOpenSuccessThreshold)]),
    (bytes "fallback", .record
      [(bytes "enabled", .truth governance.fallback.enabled),
        (bytes "message", .text governance.fallback.message)])]

def tracingDocument (tracing : TracingSettings) : Document := .record
  [(bytes "enabled", .truth tracing.enabled),
    (bytes "service_name", .text tracing.serviceName),
    (bytes "sample_ratio", .number (writeDouble tracing.sampleRatio)),
    (bytes "max_finished_spans", natural tracing.maxFinishedSpans),
    (bytes "accept_traceparent", .truth tracing.acceptTraceparent),
    (bytes "otlp_exporter_enabled", .truth tracing.otlpExporterEnabled),
    (bytes "otlp_endpoint", .text (otlpEndpoint tracing))]

/-- The settings that the runtime document shows; no secret and no password is among them. -/
def runtimeDocument (config : AppConfig) : Document := .record
  [(bytes "service", serviceDocument config.server),
    (bytes "runtime", .record
      [(bytes "io_threads", integer config.runtime.ioThreads),
        (bytes "worker_threads", integer config.runtime.workerThreads)]),
    (bytes "gateway", .record
      [(bytes "request_timeout_ms", integer config.gateway.requestTimeoutMs),
        (bytes "enable_tracing", .truth config.gateway.enableTracing)]),
    (bytes "user_service_rpc", .record
      [(bytes "enabled", .truth config.userServiceRpc.enabled),
        (bytes "host", .text config.userServiceRpc.host),
        (bytes "port", natural config.userServiceRpc.port.toNat),
        (bytes "timeout_ms", integer config.userServiceRpc.timeoutMs)]),
    (bytes "auth", .record
      [(bytes "enabled", .truth config.auth.enabled),
        (bytes "token_ttl_seconds", integer config.auth.tokenTtlSeconds.toInt),
        (bytes "rbac_enabled", .truth config.auth.rbacEnabled),
        (bytes "rbac_rule_count", natural config.rbacRules.length)]),
    (bytes "mysql", .record
      [(bytes "enabled", .truth config.mysql.enabled),
        (bytes "host", .text config.mysql.host),
        (bytes "port", natural config.mysql.port.toNat),
        (bytes "database", .text config.mysql.database)]),
    (bytes "rate_limit", .record
      [(bytes "enabled", .truth config.rateLimit.enabled),
        (bytes "window_seconds", integer config.rateLimit.windowSeconds),
        (bytes "default_max_requests", integer config.rateLimit.defaultMaxRequests),
        (bytes "redis", redisDocument config.rateLimit.redis)]),
    (bytes "governance", governanceDocument config.governance),
    (bytes "tracing", tracingDocument config.tracing)]

def routeDocument (route : RouteConfig) : Document := .record
  [(bytes "name", .text route.name), (bytes "match_type", .text route.matchType),
    (bytes "path", .text route.path), (bytes "upstream", .text route.upstream),
    (bytes "strip_prefix", .truth route.stripRoutePrefix),
    (bytes "timeout_ms", integer route.timeoutMs)]

def routesDocument (exactRoutes : List Bytes) (routes : List RouteConfig) : Document := .record
  [(bytes "exact_routes", .list (exactRoutes.map .text)),
    (bytes "gateway_routes", .list (routes.map routeDocument))]

def featuresDocument (config : AppConfig) : Document := .record
  [(bytes "auth_enabled", .truth config.auth.enabled),
    (bytes "rbac_enabled", .truth config.auth.rbacEnabled),
    (bytes "mysql_enabled", .truth config.mysql.enabled),
    (bytes "rate_limit_enabled", .truth config.rateLimit.enabled),
    (bytes "redis_rate_limit_enabled", .truth config.rateLimit.redis.enabled),
    (bytes "governance_enabled", .truth config.governance.enabled),
    (bytes "retry_enabled", .truth config.governance.retry.enabled),
    (bytes "circuit_breaker_enabled", .truth config.governance.circuitBreaker.enabled),
    (bytes "fallback_enabled", .truth config.governance.fallback.enabled),
    (bytes "remote_user_service_enabled", .truth config.userServiceRpc.enabled),
    (bytes "tracing_enabled", .truth config.tracing.enabled),
    (bytes "otlp_exporter_enabled", .truth config.tracing.otlpExporterEnabled),
    (bytes "metrics_enabled", .truth true),
    (bytes "admin_enabled", .truth true)]

def spanDocument (span : FinishedSpan) : Document := .record
  [(bytes "trace_id", .text span.traceId), (bytes "span_id", .text span.spanId),
    (bytes "parent_span_id", .text span.parentSpanId), (bytes "name", .text span.name),
    (bytes "service_name", .text span.serviceName), (bytes "kind", .text span.kind),
    (bytes "path", .text span.path), (bytes "upstream", .text span.upstream),
    (bytes "status", integer span.status),
    (bytes "start_unix_ms", natural span.startUnixMs.toNat),
    (bytes "duration_ms", natural span.durationMs.toNat),
    (bytes "attributes", .record (span.attributes.toList.map fun attr => (attr.1, .text attr.2)))]

def spansDocument (spans : List FinishedSpan) : Document := .record
  [(bytes "count", natural spans.length), (bytes "spans", .list (spans.map spanDocument))]

def healthDocument (config : AppConfig) : Document := .record
  [(bytes "status", .text (bytes "ok")), (bytes "service", .text config.server.name)]

def answerDocument (data : Document) : Document := .record
  [(bytes "code", integer 0), (bytes "message", .text (bytes "ok")), (bytes "data", data)]

end documents

section printing

theorem jsonEscape_unescaped {s : Bytes} (plain : s.all isUnescaped = true) : jsonEscape s = s := by
  induction s with
  | nil => rfl
  | cons c s ih =>
    simp only [List.all_cons, isUnescaped, Bool.and_eq_true, decide_eq_true_eq, bne_iff_ne,
      ne_eq] at plain
    obtain ⟨⟨⟨printable, noQuote⟩, noBackslash⟩, others⟩ := plain
    have control : ∀ d : UInt8, ¬ 32 ≤ d → c ≠ d := by
      rintro d below rfl
      exact below printable
    have own : jsonEscapeByte c = [c] := by
      simp [jsonEscapeByte, quote, backslash, noQuote, noBackslash, control 10 (by decide),
        control 13 (by decide), control 9 (by decide)]
    rw [jsonEscape_cons, ih others, own, List.singleton_append]

theorem print_truth (value : Bool) : (Document.truth value).print jsonEscape = boolToJson value := by
  cases value <;> rfl

theorem rawObject_record {fields : List (Bytes × Document)}
    (plain : (fields.all fun f => f.1.all isUnescaped) = true) :
    (Document.record fields).print jsonEscape =
      rawObject (fields.map fun f => (f.1, f.2.print jsonEscape)) :=
  (rawObject_print jsonEscape fields fun f listed =>
    jsonEscape_unescaped (List.all_eq_true.mp plain f listed)).symm

theorem print_list (items : List Document) :
    (Document.list items).print jsonEscape = arrayText (items.map (Document.print jsonEscape)) := by
  rw [Document.print, printItems_eq]

theorem service_print (server : ServerSettings) :
    (serviceDocument server).print jsonEscape = serviceJson server :=
  rawObject_record rfl

theorem redis_print (redis : RedisRateLimitConfig) :
    (redisDocument redis).print jsonEscape = redisJson redis := by
  rw [redisDocument, rawObject_record rfl]
  simp only [List.map_cons, List.map_nil, print_truth]
  rfl

theorem governance_print (governance : GovernanceConfig) :
    (governanceDocument governance).print jsonEscape = governanceJson governance := by
  rw [governanceDocument, rawObject_record rfl]
  simp only [List.map_cons, List.map_nil, print_truth]
  rw [rawObject_record rfl, rawObject_record rfl, rawObject_record rfl]
  simp only [List.map_cons, List.map_nil, print_truth]
  rfl

theorem tracing_print (tracing : TracingSettings) :
    (tracingDocument tracing).print jsonEscape = tracingJson tracing := by
  rw [tracingDocument, rawObject_record rfl]
  simp only [List.map_cons, List.map_nil, print_truth]
  rfl

theorem runtime_print (config : AppConfig) :
    (runtimeDocument config).print jsonEscape = runtimeJson config := by
  rw [runtimeDocument, rawObject_record rfl]
  simp only [List.map_cons, List.map_nil, service_print, governance_print, tracing_print]
  rw [rawObject_record rfl, rawObject_record rfl, rawObject_record rfl, rawObject_record rfl,
    rawObject_record rfl, rawObject_record rfl]
  simp only [List.map_cons, List.map_nil, print_truth, redis_print]
  rfl

theorem route_print (route : RouteConfig) :
    (routeDocument route).print jsonEscape = routeJson route := by
  rw [routeDocument, rawObject_record rfl]
  simp only [List.map_cons, List.map_nil, print_truth]
  rfl

theorem features_print (config : AppConfig) :
    (featuresDocument config).print jsonEscape = featuresJson config := by
  rw [featuresDocument, rawObject_record rfl]
  simp only [List.map_cons, List.map_nil, print_truth]
  rfl

theorem routes_print (exactRoutes : List Bytes) (routes : List RouteConfig) :
    (routesDocument exactRoutes routes).print jsonEscape = rawObject
      [(bytes "exact_routes", arrayText (exactRoutes.map stringToJson)),
        (bytes "gateway_routes", arrayText (routes.map routeJson))] := by
  have texts : exactRoutes.map (Document.print jsonEscape ∘ Document.text) =
      exactRoutes.map stringToJson := List.map_congr_left fun _ _ => rfl
  have rules : routes.map (Document.print jsonEscape ∘ routeDocument) = routes.map routeJson :=
    List.map_congr_left fun route _ => route_print route
  rw [routesDocument, rawObject_record rfl]
  simp only [List.map_cons, List.map_nil, print_list, List.map_map, texts, rules]

theorem attributes_print (attributes : List (Bytes × Bytes)) :
    (Document.record (attributes.map fun attr => (attr.1, .text attr.2))).print jsonEscape =
      objectText (attributes.map fun attr => jsonKV attr.1 attr.2) := by
  rw [Document.print, printFields_eq, List.map_map]
  rfl

theorem jsonKV_plain (key : Bytes) (plain : key.all isUnescaped = true) (value : Bytes) :
    jsonKV key value = plainField key ((Document.text value).print jsonEscape) := by
  rw [jsonKV, member, quoted, jsonEscape_unescaped plain]
  rfl

theorem span_print (span : FinishedSpan) :
    (spanDocument span).print jsonEscape = spanJson span := by
  rw [spanDocument, rawObject_record rfl]
  simp only [List.map_cons, List.map_nil, attributes_print, spanJson,
    jsonKV_plain (bytes "trace_id") rfl, jsonKV_plain (bytes "span_id") rfl,
    jsonKV_plain (bytes "parent_span_id") rfl, jsonKV_plain (bytes "name") rfl,
    jsonKV_plain (bytes "service_name") rfl, jsonKV_plain (bytes "kind") rfl,
    jsonKV_plain (bytes "path") rfl, jsonKV_plain (bytes "upstream") rfl]
  rfl

theorem spans_print (spans : List FinishedSpan) :
    (spansDocument spans).print jsonEscape = renderRecentSpansJson spans := by
  have each : spans.map (Document.print jsonEscape ∘ spanDocument) = spans.map spanJson :=
    List.map_congr_left fun span _ => span_print span
  rw [spansDocument, rawObject_record rfl]
  simp only [List.map_cons, List.map_nil, print_list, List.map_map, each]
  rfl

theorem health_print (config : AppConfig) :
    (healthDocument config).print jsonEscape = healthJson config := by
  have ok : bytes "\"ok\"" = (Document.text (bytes "ok")).print jsonEscape := by decide +kernel
  rw [healthDocument, rawObject_record rfl, healthJson, ok]
  rfl

theorem success_print (data : Document) (filled : data.print jsonEscape ≠ []) :
    (ApiResponse.success (data.print jsonEscape)).toJson =
      (answerDocument data).print jsonEscape := by
  obtain ⟨f1, f2, f3, _, f5, _, f7, f8, f9⟩ := TgwRenderedBodies.keyFragments
  have ok : jsonEscape (bytes "ok") = bytes "ok" := jsonEscape_unescaped rfl
  rw [answerDocument, rawObject_record rfl]
  simp [ApiResponse.success, filled, ApiResponse.toJson, rawObject, objectText, commas,
    member, Document.print, quoted, integer, ErrorCode.value, List.intercalate, f1, f2, f3, f5, f7,
    f8, f9, ok]

end printing

section regular

/-- The texts of the configuration that the documents show, and a ratio that is a number. -/
structure RegularConfig (config : AppConfig) : Prop where
  serverName : Regular config.server.name
  serverHost : Regular config.server.host
  userServiceHost : Regular config.userServiceRpc.host
  mysqlHost : Regular config.mysql.host
  mysqlDatabase : Regular config.mysql.database
  redisHost : Regular config.rateLimit.redis.host
  redisKeyPrefix : Regular config.rateLimit.redis.keyPrefix
  fallbackMessage : Regular config.governance.fallback.message
  tracingName : Regular config.tracing.serviceName
  otlpEndpoint : Regular (otlpEndpoint config.tracing)
  sampleRatio : config.tracing.sampleRatio.value ≠ none
  routes : ∀ route ∈ config.routes, Regular route.name ∧ Regular route.matchType ∧
    Regular route.path ∧ Regular route.upstream

structure RegularSpan (span : FinishedSpan) : Prop where
  traceId : Regular span.traceId
  spanId : Regular span.spanId
  parentSpanId : Regular span.parentSpanId
  name : Regular span.name
  serviceName : Regular span.serviceName
  kind : Regular span.kind
  path : Regular span.path
  upstream : Regular span.upstream
  attributes : ∀ attr ∈ span.attributes.toList, Regular attr.1 ∧ Regular attr.2

theorem regular_unescaped {s : Bytes} (plain : s.all isUnescaped = true) : Regular s := by
  intro c inside
  have own := List.all_eq_true.mp plain c inside
  simp only [isUnescaped, Bool.and_eq_true, decide_eq_true_eq] at own
  exact .inl own.1.1

theorem integer_printable (n : Int) : (integer n).Printable Regular := intText_number n

theorem natural_printable (n : Nat) : (natural n).Printable Regular :=
  ⟨[], natText n, [], [], by simp, .inl rfl, natText_whole n, .inl rfl, .inl rfl⟩

theorem record_printable {fields : List (Bytes × Document)}
    (plain : (fields.all fun f => f.1.all isUnescaped) = true)
    (each : ∀ f ∈ fields, f.2.Printable Regular) : (Document.record fields).Printable Regular :=
  (printableFields_iff Regular fields).mpr fun f listed =>
    ⟨regular_unescaped (List.all_eq_true.mp plain f listed), each f listed⟩

theorem list_printable {items : List Document} (each : ∀ item ∈ items, item.Printable Regular) :
    (Document.list items).Printable Regular :=
  (printableItems_iff Regular items).mpr each

variable {config : AppConfig}

theorem redis_printable (regular : RegularConfig config) :
    (redisDocument config.rateLimit.redis).Printable Regular := by
  refine record_printable rfl ?_
  simp only [List.forall_mem_cons, List.not_mem_nil, false_imp_iff, implies_true, and_true]
  exact ⟨trivial, regular.redisHost, natural_printable _, regular.redisKeyPrefix, trivial⟩

theorem governance_printable (regular : RegularConfig config) :
    (governanceDocument config.governance).Printable Regular := by
  refine record_printable rfl ?_
  simp only [List.forall_mem_cons, List.not_mem_nil, false_imp_iff, implies_true, and_true]
  refine ⟨trivial, ?_, ?_, ?_⟩
  · refine record_printable rfl ?_
    simp only [List.forall_mem_cons, List.not_mem_nil, false_imp_iff, implies_true, and_true]
    exact ⟨trivial, integer_printable _, integer_printable _, trivial⟩
  · refine record_printable rfl ?_
    simp only [List.forall_mem_cons, List.not_mem_nil, false_imp_iff, implies_true, and_true]
    exact ⟨trivial, integer_printable _, integer_printable _, integer_printable _⟩
  · refine record_printable rfl ?_
    simp only [List.forall_mem_cons, List.not_mem_nil, false_imp_iff, implies_true, and_true]
    exact ⟨trivial, regular.fallbackMessage⟩

theorem tracing_printable (regular : RegularConfig config) :
    (tracingDocument config.tracing).Printable Regular := by
  refine record_printable rfl ?_
  simp only [List.forall_mem_cons, List.not_mem_nil, false_imp_iff, implies_true, and_true]
  exact ⟨trivial, regular.tracingName, writeDouble_number regular.sampleRatio, natural_printable _,
    trivial, trivial, regular.otlpEndpoint⟩

theorem runtime_printable (regular : RegularConfig config) :
    (runtimeDocument config).Printable Regular := by
  refine record_printable rfl ?_
  simp only [List.forall_mem_cons, List.not_mem_nil, false_imp_iff, implies_true, and_true]
  refine ⟨?_, ?_, ?_, ?_, ?_, ?_, ?_, governance_printable regular,
    tracing_printable regular⟩
  · refine record_printable rfl ?_
    simp only [List.forall_mem_cons, List.not_mem_nil, false_imp_iff, implies_true, and_true]
    exact ⟨regular.serverName, regular.serverHost, natural_printable _⟩
  · refine record_printable rfl ?_
    simp only [List.forall_mem_cons, List.not_mem_nil, false_imp_iff, implies_true, and_true]
    exact ⟨integer_printable _, integer_printable _⟩
  · refine record_printable rfl ?_
    simp only [List.forall_mem_cons, List.not_mem_nil, false_imp_iff, implies_true, and_true]
    exact ⟨integer_printable _, trivial⟩
  · refine record_printable rfl ?_
    simp only [List.forall_mem_cons, List.not_mem_nil, false_imp_iff, implies_true, and_true]
    exact ⟨trivial, regular.userServiceHost, natural_printable _, integer_printable _⟩
  · refine record_printable rfl ?_
    simp only [List.forall_mem_cons, List.not_mem_nil, false_imp_iff, implies_true, and_true]
    exact ⟨trivial, integer_printable _, trivial, natural_printable _⟩
  · refine record_printable rfl ?_
    simp only [List.forall_mem_cons, List.not_mem_nil, false_imp_iff, implies_true, and_true]
    exact ⟨trivial, regular.mysqlHost, natural_printable _, regular.mysqlDatabase⟩
  · refine record_printable rfl ?_
    simp only [List.forall_mem_cons, List.not_mem_nil, false_imp_iff, implies_true, and_true]
    exact ⟨trivial, integer_printable _, integer_printable _, redis_printable regular⟩

theorem routes_printable {exactRoutes : List Bytes} {routes : List RouteConfig}
    (texts : ∀ text ∈ exactRoutes, Regular text)
    (rules : ∀ route ∈ routes, Regular route.name ∧ Regular route.matchType ∧
      Regular route.path ∧ Regular route.upstream) :
    (routesDocument exactRoutes routes).Printable Regular := by
  refine record_printable rfl ?_
  simp only [List.forall_mem_cons, List.not_mem_nil, false_imp_iff, implies_true, and_true]
  constructor
  · refine list_printable fun item listed => ?_
    obtain ⟨text, inside, rfl⟩ := List.mem_map.mp listed
    exact texts text inside
  · refine list_printable fun item listed => ?_
    obtain ⟨route, inside, rfl⟩ := List.mem_map.mp listed
    obtain ⟨name, matchType, path, upstream⟩ := rules route inside
    refine record_printable rfl ?_
    simp only [List.forall_mem_cons, List.not_mem_nil, false_imp_iff, implies_true, and_true]
    exact ⟨name, matchType, path, upstream, trivial, integer_printable _⟩

theorem features_printable (config : AppConfig) : (featuresDocument config).Printable Regular := by
  refine record_printable rfl ?_
  simp only [List.forall_mem_cons, List.not_mem_nil, false_imp_iff, implies_true, and_true]
  repeat' constructor

theorem span_printable {span : FinishedSpan} (regular : RegularSpan span) :
    (spanDocument span).Printable Regular := by
  refine record_printable rfl ?_
  simp only [List.forall_mem_cons, List.not_mem_nil, false_imp_iff, implies_true, and_true]
  refine ⟨regular.traceId, regular.spanId, regular.parentSpanId, regular.name, regular.serviceName,
    regular.kind, regular.path, regular.upstream, integer_printable _, natural_printable _,
    natural_printable _, ?_⟩
  refine (printableFields_iff Regular _).mpr fun f listed => ?_
  obtain ⟨attr, inside, rfl⟩ := List.mem_map.mp listed
  exact regular.attributes attr inside

theorem spans_printable {spans : List FinishedSpan} (regular : ∀ span ∈ spans, RegularSpan span) :
    (spansDocument spans).Printable Regular := by
  refine record_printable rfl ?_
  simp only [List.forall_mem_cons, List.not_mem_nil, false_imp_iff, implies_true, and_true]
  refine ⟨natural_printable _, list_printable fun item listed => ?_⟩
  obtain ⟨span, inside, rfl⟩ := List.mem_map.mp listed
  exact span_printable (regular span inside)

theorem health_printable (regular : RegularConfig config) :
    (healthDocument config).Printable Regular := by
  refine record_printable rfl ?_
  simp only [List.forall_mem_cons, List.not_mem_nil, false_imp_iff, implies_true, and_true]
  exact ⟨regular_unescaped rfl, regular.serverName⟩

theorem answer_printable {data : Document} (printable : data.Printable Regular) :
    (answerDocument data).Printable Regular := by
  refine record_printable rfl ?_
  simp only [List.forall_mem_cons, List.not_mem_nil, false_imp_iff, implies_true, and_true]
  exact ⟨integer_printable 0, regular_unescaped rfl, printable⟩

theorem success_reads {fields : List (Bytes × Document)}
    (printable : (Document.record fields).Printable Regular) :
    ReadsAs (ApiResponse.success ((Document.record fields).print jsonEscape)).toJson
      (answerDocument (.record fields)) := by
  rw [success_print _ (by simp [Document.print, objectText])]
  exact print_reads jsonEscape_body decoded_jsonEscape (answer_printable printable)

end regular

section routes
variable {Redis State : Type}

/-- The data that a route of the gateway answers with, if it answers in JSON. -/
def documentFor (process : Process Redis State) (s : ProcessState Redis State) :
    OwnRoute → Option Document
  | .health => some (healthDocument process.config)
  | .routes | .adminRoutes =>
    some (routesDocument process.exactRoutes process.routeManager.routes)
  | .adminRuntime => some (runtimeDocument process.config)
  | .adminFeatures => some (featuresDocument process.config)
  | .metrics => none
  | .debugTraces => some (spansDocument s.tracer.finishedSpans)

theorem routeNames_regular : routeNames.all (fun name => name.all isUnescaped) = true := by
  decide +kernel

/-- Each route of the gateway but that of the metrics answers with a JSON text, and a reader of it
    finds the envelope around the settings, the routes, the features or the spans as they are. -/
theorem own_documents_read (process : Process Redis State) (regular : RegularConfig process.config)
    (s : ProcessState Redis State) (spans : ∀ span ∈ s.tracer.finishedSpans, RegularSpan span)
    (request : HttpRequest) (route : OwnRoute) {data : Document}
    (shown : documentFor process s route = some data) :
    ReadsAs (route.answer process request s).body (answerDocument data) := by
  have rules : ∀ rule ∈ process.routeManager.routes, Regular rule.name ∧ Regular rule.matchType ∧
      Regular rule.path ∧ Regular rule.upstream :=
    fun rule listed => regular.routes rule (process.sorted.mem_iff.mp listed)
  have names : ∀ name ∈ process.exactRoutes, Regular name := fun name listed =>
    regular_unescaped (List.all_eq_true.mp routeNames_regular name
      (process.listed.mem_iff.mp listed))
  have listing : ReadsAs (process.adminHandler.routes request).body
      (answerDocument (routesDocument process.exactRoutes process.routeManager.routes)) := by
    rw [AdminHandler.routes, jsonResponse, ← routes_print]
    exact success_reads (routes_printable names rules)
  cases route with
  | health =>
    obtain rfl := Option.some.inj shown
    rw [OwnRoute.answer, healthResponse, ← health_print]
    exact success_reads (health_printable regular)
  | routes =>
    obtain rfl := Option.some.inj shown
    exact listing
  | adminRoutes =>
    obtain rfl := Option.some.inj shown
    exact listing
  | adminRuntime =>
    obtain rfl := Option.some.inj shown
    rw [OwnRoute.answer, AdminHandler.runtime, jsonResponse, ← runtime_print]
    exact success_reads (runtime_printable regular)
  | adminFeatures =>
    obtain rfl := Option.some.inj shown
    rw [OwnRoute.answer, AdminHandler.features, jsonResponse, ← features_print]
    exact success_reads (features_printable _)
  | metrics => cases shown
  | debugTraces =>
    obtain rfl := Option.some.inj shown
    rw [OwnRoute.answer, buildTraceDebugResponse, ← spans_print]
    exact success_reads (spans_printable spans)

def tenth : Double :=
  .finite (3602879701896397 / 36028797018963968)
    ⟨3602879701896397, -55, by decide, by decide, by decide, by norm_num⟩

def quotedRoute : RouteConfig where
  name := bytes "tasks \"v1\""
  path := bytes "/api/v1/task"
  upstream := bytes "TaskService"

def shownConfig : AppConfig :=
  { routes := [quotedRoute]
    tracing := { sampleRatio := tenth }
    governance := { fallback := { message := bytes "try\nlater" } } }

def shownProcess : Process Unit Unit :=
  { idleProcess with
    config := shownConfig
    routeManager := ⟨[quotedRoute], List.pairwise_singleton _ _⟩
    sorted := List.Perm.refl _ }

def shownSpan : FinishedSpan where
  traceId := bytes "a\\b"
  spanId := bytes "00f067aa0ba902b7"
  name := bytes "gateway.handle"
  kind := bytes "server"
  path := bytes "/api/\"x\""
  status := 404
  attributes := (∅ : ByteMap Bytes).insert (bytes "http.method") (bytes "GET")

theorem shown_regular : RegularConfig shownConfig where
  serverName := regular_unescaped (by decide)
  serverHost := regular_unescaped (by decide)
  userServiceHost := regular_unescaped (by decide)
  mysqlHost := regular_unescaped (by decide)
  mysqlDatabase := regular_unescaped (by decide)
  redisHost := regular_unescaped (by decide)
  redisKeyPrefix := regular_unescaped (by decide)
  fallbackMessage := by decide +kernel
  tracingName := regular_unescaped (by decide)
  otlpEndpoint := regular_unescaped (by decide)
  sampleRatio := by decide
  routes := by
    intro route listed
    obtain rfl : route = quotedRoute := by simpa [shownConfig] using listed
    decide +kernel

theorem shownSpan_regular : RegularSpan shownSpan where
  traceId := by decide +kernel
  spanId := by decide +kernel
  parentSpanId := by decide +kernel
  name := by decide +kernel
  serviceName := by decide +kernel
  kind := by decide +kernel
  path := by decide +kernel
  upstream := by decide +kernel
  attributes := by decide +kernel

theorem own_documents_read_shown :
    let s : ProcessState Unit Unit :=
      { idleEnv.state with tracer := { idleEnv.state.tracer with finishedSpans := [shownSpan] } }
    ReadsAs (OwnRoute.answer shownProcess {} s .adminRuntime).body
        (answerDocument (runtimeDocument shownConfig)) ∧
      ReadsAs (OwnRoute.answer shownProcess {} s .adminRoutes).body
        (answerDocument (routesDocument routeNames [quotedRoute])) ∧
      ReadsAs (OwnRoute.answer shownProcess {} s .debugTraces).body
        (answerDocument (spansDocument [shownSpan])) := by
  intro s
  have regular : ∀ span ∈ s.tracer.finishedSpans, RegularSpan span := by
    intro span listed
    obtain rfl : span = shownSpan := by simpa [s] using listed
    exact shownSpan_regular
  exact ⟨own_documents_read shownProcess shown_regular s regular {} .adminRuntime rfl,
    own_documents_read shownProcess shown_regular s regular {} .adminRoutes rfl,
    own_documents_read shownProcess shown_regular s regular {} .debugTraces rfl⟩

end routes

end TgwOwnDocuments
