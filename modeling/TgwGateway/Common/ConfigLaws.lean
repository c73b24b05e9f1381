import TgwGateway.Common.ConfigLoader

/- Which configurations the loader returns: those within the bounds of their settings. A document
   written for such a configuration is read back as it. -/
namespace TgwConfigLaws
open ByteStrings Doubles TgwConfig TgwExceptions TgwAppConfig TgwConfigLoader

section valid

def FitsInt (n : Int) : Prop := -2 ^ 31 ≤ n ∧ n < 2 ^ 31

def FitsSize (n : Nat) : Prop := n < 2 ^ 64

instance (n : Int) : Decidable (FitsInt n) := inferInstanceAs (Decidable (_ ∧ _))

instance (n : Nat) : Decidable (FitsSize n) := inferInstanceAs (Decidable (n < 2 ^ 64))

structure ValidServer (s : ServerSettings) : Prop where
  readTimeoutMs : 0 < s.readTimeoutMs ∧ FitsInt s.readTimeoutMs
  writeTimeoutMs : 0 < s.writeTimeoutMs ∧ FitsInt s.writeTimeoutMs
  bodyLimitBytes : 0 < s.bodyLimitBytes ∧ FitsSize s.bodyLimitBytes

structure ValidRuntime (s : RuntimeConfig) : Prop where
  ioThreads : FitsInt s.ioThreads
  workerThreads : FitsInt s.workerThreads

def ValidGateway (s : GatewayConfig) : Prop := FitsInt s.requestTimeoutMs

def ValidUserServiceRpc (s : UserServiceRpcConfig) : Prop := 0 < s.timeoutMs ∧ FitsInt s.timeoutMs

def ValidAuth (s : AuthConfig) : Prop := ∀ path ∈ s.publicPaths, path ≠ []

structure ValidRbacRule (rule : RbacRuleConfig) : Prop where
  path : rule.path ≠ []
  roles : rule.roles ≠ []
  named : ∀ role ∈ rule.roles, role ≠ []

structure ValidRateLimitRule (rule : RateLimitRuleConfig) : Prop where
  path : rule.path ≠ []
  maxRequests : 0 < rule.maxRequests ∧ FitsInt rule.maxRequests

structure ValidRateLimit (s : RateLimitConfig) : Prop where
  windowSeconds : FitsInt s.windowSeconds
  defaultMaxRequests : FitsInt s.defaultMaxRequests
  rules : ∀ rule ∈ s.rules, ValidRateLimitRule rule

structure ValidGovernance (s : GovernanceConfig) : Prop where
  maxAttempts : 0 < s.retry.maxAttempts ∧ FitsInt s.retry.maxAttempts
  backoffMs : 0 ≤ s.retry.backoffMs ∧ FitsInt s.retry.backoffMs
  failureThreshold : 0 < s.circuitBreaker.failureThreshold ∧
    FitsInt s.circuitBreaker.failureThreshold
  openSeconds : 0 < s.circuitBreaker.openSeconds ∧ FitsInt s.circuitBreaker.openSeconds
  halfOpenSuccessThreshold : 0 < s.circuitBreaker.halfOpenSuccessThreshold ∧
    FitsInt s.circuitBreaker.halfOpenSuccessThreshold

/-- A ratio that is no number passes both comparisons. -/
def ValidRatio : Double → Prop
  | .finite value _ => 0 ≤ value ∧ value ≤ 1
  | .negativeZero => True
  | .infinite _ => False
  | .notANumber => True

structure ValidTracing (s : TracingSettings) : Prop where
  sampleRatio : ValidRatio s.sampleRatio
  maxFinishedSpans : 0 < s.maxFinishedSpans ∧ FitsSize s.maxFinishedSpans
  otlpTimeoutMs : 0 < s.otlpTimeoutMs ∧ FitsInt s.otlpTimeoutMs

structure ValidRoute (route : RouteConfig) : Prop where
  name : route.name ≠ []
  path : route.path ≠ []
  upstream : route.upstream ≠ []
  timeoutMs : 0 < route.timeoutMs ∧ FitsInt route.timeoutMs

structure ValidConfig (config : AppConfig) : Prop where
  server : ValidServer config.server
  runtime : ValidRuntime config.runtime
  gateway : ValidGateway config.gateway
  userServiceRpc : ValidUserServiceRpc config.userServiceRpc
  auth : ValidAuth config.auth
  rbacRules : ∀ rule ∈ config.rbacRules, ValidRbacRule rule
  rateLimit : ValidRateLimit config.rateLimit
  governance : ValidGovernance config.governance
  tracing : ValidTracing config.tracing
  routes : ∀ route ∈ config.routes, ValidRoute route

end valid

section accepted
variable {Node Value Settings First Second : Type} {yaml : Yaml Node}

theorem bind_ok {first : Except CppException First} {next : First → Except CppException Second}
    {result : Second} : first >>= next = .ok result ↔ ∃ a, first = .ok a ∧ next a = .ok result := by
  cases first with
  | error e => exact ⟨nofun, nofun⟩
  | ok a => exact ⟨fun done => ⟨a, rfl, done⟩, fun ⟨_, same, done⟩ => by cases same; exact done⟩

@[simp] theorem ok_bind (a : First) (next : First → Except CppException Second) :
    (.ok a : Except CppException First) >>= next = next a := rfl

theorem refuse_ok {bad : Bool} {message : Bytes} {u : Unit} :
    refuse bad message = .ok u ↔ bad = false := by
  cases bad <;> simp [refuse]

theorem refuse_false (message : Bytes) : refuse false message = .ok () := rfl

theorem refuse_not {bad : Prop} [Decidable bad] (good : ¬ bad) (message : Bytes) :
    refuse (decide bad) message = .ok () := by
  rw [decide_eq_false good, refuse_false]

theorem refuse_isEmpty {Item : Type} {items : List Item} (some_item : items ≠ []) (message : Bytes) :
    refuse items.isEmpty message = .ok () := by
  rw [List.isEmpty_eq_false_iff.mpr some_item, refuse_false]

theorem getOrDefault_ok {read : Node → Except CppException Value} {node : Node} {key : String}
    {default value : Value} (loaded : getOrDefault yaml read node key default = .ok value) :
    value = default ∨ ∃ item, read item = .ok value := by
  obtain ⟨found, _, rest⟩ := bind_ok.mp loaded
  cases found with
  | none => exact Or.inl (Except.ok.inj rest).symm
  | some item => exact Or.inr ⟨item, rest⟩

theorem inSection_ok {node : Node} {key : String} {current settings : Settings}
    {load : Node → Settings → Except CppException Settings}
    (loaded : inSection yaml node key current load = .ok settings) :
    settings = current ∨ ∃ item, load item current = .ok settings := by
  obtain ⟨found, _, rest⟩ := bind_ok.mp loaded
  cases found with
  | none => exact Or.inl (Except.ok.inj rest).symm
  | some item => exact Or.inr ⟨item, rest⟩

theorem inSection_valid {Valid : Settings → Prop} {node : Node} {key : String}
    {current settings : Settings} {load : Node → Settings → Except CppException Settings}
    (loaded : inSection yaml node key current load = .ok settings) (before : Valid current)
    (after : ∀ item, load item current = .ok settings → Valid settings) : Valid settings := by
  rcases inSection_ok loaded with rfl | ⟨item, own⟩
  · exact before
  · exact after item own

theorem readInt_fits {node : Node} {n : Int} (loaded : readInt yaml node = .ok n) : FitsInt n := by
  unfold readInt at loaded
  cases read : yaml.asInt node with
  | error e => rw [read] at loaded; cases loaded
  | ok value =>
    rw [read] at loaded
    rw [← Except.ok.inj loaded]
    exact ⟨Int32.le_toInt value, Int32.toInt_lt value⟩

theorem readSize_fits {node : Node} {n : Nat} (loaded : readSize yaml node = .ok n) :
    FitsSize n := by
  unfold readSize at loaded
  cases read : yaml.asSize node with
  | error e => rw [read] at loaded; cases loaded
  | ok value =>
    rw [read] at loaded
    rw [← Except.ok.inj loaded]
    exact UInt64.toNat_lt value

theorem getInt_fits {node : Node} {key : String} {default n : Int} (fits : FitsInt default)
    (loaded : getOrDefault yaml (readInt yaml) node key default = .ok n) : FitsInt n := by
  rcases getOrDefault_ok loaded with rfl | ⟨item, read⟩
  · exact fits
  · exact readInt_fits read

theorem getSize_fits {node : Node} {key : String} {default n : Nat} (fits : FitsSize default)
    (loaded : getOrDefault yaml (readSize yaml) node key default = .ok n) : FitsSize n := by
  rcases getOrDefault_ok loaded with rfl | ⟨item, read⟩
  · exact fits
  · exact readSize_fits read

theorem mapM_ok {load : Node → Except CppException Value} {items : List Node}
    {values : List Value} (loaded : items.mapM load = .ok values) :
    ∀ value ∈ values, ∃ item ∈ items, load item = .ok value := by
  induction items generalizing values with
  | nil =>
    rw [List.mapM_nil] at loaded
    obtain rfl := Except.ok.inj loaded
    simp
  | cons item items ih =>
    rw [List.mapM_cons] at loaded
    obtain ⟨first, own, rest⟩ := bind_ok.mp loaded
    obtain ⟨others, read, same⟩ := bind_ok.mp rest
    obtain rfl := Except.ok.inj same
    intro value member
    rcases List.mem_cons.mp member with rfl | later
    · exact ⟨item, List.mem_cons_self, own⟩
    · obtain ⟨other, listed, good⟩ := ih read value later
      exact ⟨other, List.mem_cons_of_mem item listed, good⟩

theorem loadServer_valid {node : Node} {current settings : ServerSettings}
    (valid : ValidServer current) (loaded : loadServer yaml node current = .ok settings) :
    ValidServer settings := by
  simp only [loadServer, bind_ok, refuse_ok, decide_eq_false_iff_not] at loaded
  obtain ⟨name, _, host, _, port, _, keepAlive, _, readTimeoutMs, read, writeTimeoutMs, write,
    bodyLimitBytes, limit, _, readPositive, _, writePositive, _, limitPositive, same⟩ := loaded
  obtain rfl := Except.ok.inj same
  exact ⟨⟨by simpa using readPositive, getInt_fits valid.readTimeoutMs.2 read⟩,
    ⟨by simpa using writePositive, getInt_fits valid.writeTimeoutMs.2 write⟩,
    ⟨Nat.pos_of_ne_zero limitPositive, getSize_fits valid.bodyLimitBytes.2 limit⟩⟩

theorem loadRuntime_valid {node : Node} {current settings : RuntimeConfig}
    (valid : ValidRuntime current) (loaded : loadRuntime yaml node current = .ok settings) :
    ValidRuntime settings := by
  simp only [loadRuntime, bind_ok] at loaded
  obtain ⟨ioThreads, io, workerThreads, worker, same⟩ := loaded
  obtain rfl := Except.ok.inj same
  exact ⟨getInt_fits valid.ioThreads io, getInt_fits valid.workerThreads worker⟩

theorem loadGateway_valid {node : Node} {current settings : GatewayConfig}
    (valid : ValidGateway current) (loaded : loadGateway yaml node current = .ok settings) :
    ValidGateway settings := by
  simp only [loadGateway, bind_ok] at loaded
  obtain ⟨_, _, _, _, _, _, requestTimeoutMs, read, same⟩ := loaded
  obtain rfl := Except.ok.inj same
  exact getInt_fits valid read

theorem loadUserServiceRpc_valid {node : Node} {current settings : UserServiceRpcConfig}
    (valid : ValidUserServiceRpc current)
    (loaded : loadUserServiceRpc yaml node current = .ok settings) :
    ValidUserServiceRpc settings := by
  simp only [loadUserServiceRpc, bind_ok, refuse_ok, decide_eq_false_iff_not, not_le] at loaded
  obtain ⟨_, _, _, _, _, _, timeoutMs, read, _, positive, same⟩ := loaded
  obtain rfl := Except.ok.inj same
  exact ⟨positive, getInt_fits valid.2 read⟩

theorem loadAuth_valid {node : Node} {current settings : AuthConfig} (valid : ValidAuth current)
    (loaded : loadAuth yaml node current = .ok settings) : ValidAuth settings := by
  simp only [loadAuth, bind_ok] at loaded
  obtain ⟨_, _, _, _, _, _, _, _, publicPaths, listed, same⟩ := loaded
  obtain rfl := Except.ok.inj same
  refine @inSection_valid _ _ yaml (fun paths => ∀ path ∈ paths, path ≠ []) _ _ _ _ _ listed valid
    fun item own => ?_
  simp only [loadPublicPaths, bind_ok] at own
  obtain ⟨_, _, each⟩ := own
  intro path member
  obtain ⟨entry, _, read⟩ := mapM_ok each path member
  simp only [loadPublicPath, bind_ok, refuse_ok, List.isEmpty_eq_false_iff] at read
  obtain ⟨text, _, _, nonempty, same⟩ := read
  rwa [← Except.ok.inj same]

theorem loadRbac_valid {node : Node} {current settings : List RbacRuleConfig}
    (loaded : loadRbac yaml node current = .ok settings) :
    ∀ rule ∈ settings, ValidRbacRule rule := by
  simp only [loadRbac, bind_ok] at loaded
  obtain ⟨_, _, each⟩ := loaded
  intro rule member
  obtain ⟨item, _, read⟩ := mapM_ok each rule member
  simp only [loadRbacRule, bind_ok, refuse_ok, List.isEmpty_eq_false_iff] at read
  obtain ⟨path, _, _, nonempty, roles, _, _, _, names, _, _, kept, same⟩ := read
  obtain rfl := Except.ok.inj same
  refine ⟨nonempty, kept, fun role listed => ?_⟩
  simpa using (List.mem_filter.mp listed).2

theorem loadRateLimitRules_valid {node : Node} {defaultMaxRequests : Int}
    (fits : FitsInt defaultMaxRequests) {current settings : List RateLimitRuleConfig}
    (loaded : loadRateLimitRules yaml defaultMaxRequests node current = .ok settings) :
    ∀ rule ∈ settings, ValidRateLimitRule rule := by
  simp only [loadRateLimitRules, bind_ok] at loaded
  obtain ⟨_, _, each⟩ := loaded
  intro rule member
  obtain ⟨item, _, read⟩ := mapM_ok each rule member
  simp only [loadRateLimitRule, bind_ok, refuse_ok, List.isEmpty_eq_false_iff,
    decide_eq_false_iff_not, not_le] at read
  obtain ⟨path, _, maxRequests, limit, _, nonempty, _, positive, same⟩ := read
  obtain rfl := Except.ok.inj same
  exact ⟨nonempty, positive, getInt_fits fits limit⟩

theorem loadRateLimit_valid {node : Node} {current settings : RateLimitConfig}
    (valid : ValidRateLimit current) (loaded : loadRateLimit yaml node current = .ok settings) :
    ValidRateLimit settings := by
  simp only [loadRateLimit, bind_ok] at loaded
  obtain ⟨_, _, windowSeconds, window, defaultMaxRequests, default, _, _, rules, listed, same⟩ :=
    loaded
  obtain rfl := Except.ok.inj same
  have fits := getInt_fits valid.defaultMaxRequests default
  refine ⟨getInt_fits valid.windowSeconds window, fits, ?_⟩
  exact @inSection_valid _ _ yaml (fun rules => ∀ rule ∈ rules, ValidRateLimitRule rule) _ _ _ _ _
    listed valid.rules fun item own => loadRateLimitRules_valid fits own

theorem loadGovernance_valid {node : Node} {current settings : GovernanceConfig}
    (valid : ValidGovernance current) (loaded : loadGovernance yaml node current = .ok settings) :
    ValidGovernance settings := by
  simp only [loadGovernance, bind_ok] at loaded
  obtain ⟨_, _, retry, retried, breaker, broken, fallback, _, same⟩ := loaded
  obtain rfl := Except.ok.inj same
  have retryValid : (0 < retry.maxAttempts ∧ FitsInt retry.maxAttempts) ∧
      (0 ≤ retry.backoffMs ∧ FitsInt retry.backoffMs) := by
    refine @inSection_valid _ _ yaml (fun r => (0 < r.maxAttempts ∧ FitsInt r.maxAttempts) ∧
      (0 ≤ r.backoffMs ∧ FitsInt r.backoffMs)) _ _ _ _ _ retried
      ⟨valid.maxAttempts, valid.backoffMs⟩ fun item own => ?_
    simp only [loadRetry, bind_ok, refuse_ok, decide_eq_false_iff_not, not_le, not_lt] at own
    obtain ⟨_, _, maxAttempts, attempts, backoffMs, backoff, _, _, _, positive, _, nonnegative,
      same⟩ := own
    obtain rfl := Except.ok.inj same
    exact ⟨⟨positive, getInt_fits valid.maxAttempts.2 attempts⟩,
      ⟨nonnegative, getInt_fits valid.backoffMs.2 backoff⟩⟩
  have breakerValid : (0 < breaker.failureThreshold ∧ FitsInt breaker.failureThreshold) ∧
      (0 < breaker.openSeconds ∧ FitsInt breaker.openSeconds) ∧
      (0 < breaker.halfOpenSuccessThreshold ∧ FitsInt breaker.halfOpenSuccessThreshold) := by
    refine @inSection_valid _ _ yaml
      (fun b => (0 < b.failureThreshold ∧ FitsInt b.failureThreshold) ∧
        (0 < b.openSeconds ∧ FitsInt b.openSeconds) ∧
        (0 < b.halfOpenSuccessThreshold ∧ FitsInt b.halfOpenSuccessThreshold)) _ _ _ _ _ broken
      ⟨valid.failureThreshold, valid.openSeconds, valid.halfOpenSuccessThreshold⟩
      fun item own => ?_
    simp only [loadCircuitBreaker, bind_ok, refuse_ok, decide_eq_false_iff_not, not_le] at own
    obtain ⟨_, _, _, failures, _, seconds, _, successes, _, first, _, second, _, third, same⟩ := own
    obtain rfl := Except.ok.inj same
    exact ⟨⟨first, getInt_fits valid.failureThreshold.2 failures⟩,
      ⟨second, getInt_fits valid.openSeconds.2 seconds⟩,
      ⟨third, getInt_fits valid.halfOpenSuccessThreshold.2 successes⟩⟩
  exact ⟨retryValid.1, retryValid.2, breakerValid.1, breakerValid.2.1, breakerValid.2.2⟩

theorem validRatio_iff (ratio : Double) : ValidRatio ratio ↔
    (ratio.lessThan .zero || Double.one.lessThan ratio) =
      false := by
  cases ratio with
  | finite value exact => simp [ValidRatio, Double.lessThan, Double.zero, Double.one]
  | negativeZero => simp [ValidRatio, Double.lessThan, Double.zero, Double.one]
  | infinite negative => cases negative <;> simp [ValidRatio, Double.lessThan, Double.zero, Double.one]
  | notANumber => simp [ValidRatio, Double.lessThan, Double.one]

theorem loadTracing_valid {node : Node} {current settings : TracingSettings}
    (valid : ValidTracing current) (loaded : loadTracing yaml node current = .ok settings) :
    ValidTracing settings := by
  simp only [loadTracing, bind_ok, refuse_ok, ← validRatio_iff, decide_eq_false_iff_not,
    not_le] at loaded
  obtain ⟨_, _, _, _, _, _, maxFinishedSpans, spans, _, _, _, _, _, _, _, _, _, _, _, _,
    otlpTimeoutMs, timeout, _, within, _, some_spans, _, positive, same⟩ := loaded
  obtain rfl := Except.ok.inj same
  exact ⟨within, ⟨Nat.pos_of_ne_zero some_spans, getSize_fits valid.maxFinishedSpans.2 spans⟩,
    ⟨positive, getInt_fits valid.otlpTimeoutMs.2 timeout⟩⟩

theorem loadRoutes_valid {node : Node} {current settings : List RouteConfig}
    (valid : ∀ route ∈ current, ValidRoute route)
    (loaded : loadRoutes yaml node current = .ok settings) :
    ∀ route ∈ settings, ValidRoute route := by
  simp only [loadRoutes, bind_ok] at loaded
  obtain ⟨_, _, routes, each, same⟩ := loaded
  obtain rfl := Except.ok.inj same
  intro route member
  rcases List.mem_append.mp member with before | new
  · exact valid route before
  · obtain ⟨item, _, read⟩ := mapM_ok each route new
    simp only [loadRoute, bind_ok, refuse_ok, List.isEmpty_eq_false_iff, decide_eq_false_iff_not,
      not_le] at read
    obtain ⟨name, _, _, _, path, _, upstream, _, _, _, timeoutMs, timeout, _, named, _, pathed, _,
      streamed, _, positive, same⟩ := read
    obtain rfl := Except.ok.inj same
    exact ⟨named, pathed, streamed, positive, getInt_fits (by decide) timeout⟩

end accepted

theorem defaults_valid : ValidConfig {} where
  server := ⟨by decide, by decide, by decide⟩
  runtime := ⟨by decide, by decide⟩
  gateway := show FitsInt 3000 by decide
  userServiceRpc := show 0 < (1000 : Int) ∧ FitsInt 1000 by decide
  auth := show ∀ path ∈ [bytes "/api/user/login"], path ≠ [] by decide
  rbacRules := by simp
  rateLimit := ⟨by decide, by decide, by simp⟩
  governance := ⟨by decide, by decide, by decide, by decide, by decide⟩
  tracing := ⟨show 0 ≤ (1 : Rat) ∧ (1 : Rat) ≤ 1 by decide, by decide, by decide⟩
  routes := by simp

section results
variable {Node : Type} (yaml : Yaml Node)

theorem loadRoot_valid {root : Node} {config : AppConfig}
    (loaded : loadRoot yaml root = .ok config) : ValidConfig config := by
  simp only [loadRoot, bind_ok] at loaded
  obtain ⟨server, serverLoaded, runtime, runtimeLoaded, log, _, gateway, gatewayLoaded, rpc,
    rpcLoaded, mysql, _, auth, authLoaded, rbac, rbacLoaded, rateLimit, rateLimitLoaded, governance,
    governanceLoaded, tracing, tracingLoaded, routes, routesLoaded, same⟩ := loaded
  obtain rfl := Except.ok.inj same
  have base := defaults_valid
  have authBase : ValidAuth { enabled := gateway.enableAuth } := base.auth
  have rateLimitBase : ValidRateLimit { enabled := gateway.enableRateLimit } :=
    ⟨base.rateLimit.windowSeconds, base.rateLimit.defaultMaxRequests, base.rateLimit.rules⟩
  have tracingBase : ValidTracing { enabled := gateway.enableTracing } :=
    ⟨base.tracing.sampleRatio, base.tracing.maxFinishedSpans, base.tracing.otlpTimeoutMs⟩
  exact
    { server := inSection_valid serverLoaded base.server
        fun _ own => loadServer_valid base.server own
      runtime := inSection_valid runtimeLoaded base.runtime
        fun _ own => loadRuntime_valid base.runtime own
      gateway := inSection_valid gatewayLoaded base.gateway
        fun _ own => loadGateway_valid base.gateway own
      userServiceRpc := inSection_valid rpcLoaded base.userServiceRpc
        fun _ own => loadUserServiceRpc_valid base.userServiceRpc own
      auth := inSection_valid authLoaded authBase fun _ own => loadAuth_valid authBase own
      rbacRules := @inSection_valid _ _ yaml (fun rules => ∀ rule ∈ rules, ValidRbacRule rule)
        _ _ _ _ _ rbacLoaded base.rbacRules fun _ own => loadRbac_valid own
      rateLimit := inSection_valid rateLimitLoaded rateLimitBase
        fun _ own => loadRateLimit_valid rateLimitBase own
      governance := inSection_valid governanceLoaded base.governance
        fun _ own => loadGovernance_valid base.governance own
      tracing := inSection_valid tracingLoaded tracingBase
        fun _ own => loadTracing_valid tracingBase own
      routes := @inSection_valid _ _ yaml (fun routes => ∀ route ∈ routes, ValidRoute route)
        _ _ _ _ _ routesLoaded base.routes fun _ own => loadRoutes_valid base.routes own }

/-- What the library can write, and what it makes of that when it reads it. -/
structure YamlWriter (Node : Type) where
  mapping : List (String × Node) → Node
  sequence : List Node → Node
  string : Bytes → Node
  bool : Bool → Node
  integer : Int → Node
  double : Double → Node

structure ReadsBack (writer : YamlWriter Node) : Prop where
  subscript : ∀ members key, yaml.subscript (writer.mapping members) key =
    .ok ((members.find? fun member => member.1 = key).map Prod.snd)
  isSequence : ∀ items, yaml.isSequence (writer.sequence items) = true
  elements : ∀ items, yaml.elements (writer.sequence items) = items
  asString : ∀ text, yaml.asString (writer.string text) = .ok text
  asBool : ∀ value, yaml.asBool (writer.bool value) = .ok value
  asInt : ∀ n : Int32, yaml.asInt (writer.integer n.toInt) = .ok n
  asUInt16 : ∀ n : UInt16, yaml.asUInt16 (writer.integer n.toNat) = .ok n
  asSize : ∀ n : UInt64, yaml.asSize (writer.integer n.toNat) = .ok n
  asDouble : ∀ value, yaml.asDouble (writer.double value) = .ok value

end results

section document
variable {Node : Type} (writer : YamlWriter Node)

def serverNode (s : ServerSettings) : Node :=
  writer.mapping [("name", writer.string s.name), ("host", writer.string s.host),
    ("port", writer.integer s.port.toNat), ("keep_alive", writer.bool s.keepAlive),
    ("read_timeout_ms", writer.integer s.readTimeoutMs),
    ("write_timeout_ms", writer.integer s.writeTimeoutMs),
    ("body_limit_bytes", writer.integer s.bodyLimitBytes)]

def runtimeNode (s : RuntimeConfig) : Node :=
  writer.mapping [("io_threads", writer.integer s.ioThreads),
    ("worker_threads", writer.integer s.workerThreads)]

def logNode (s : LogConfig) : Node :=
  writer.mapping [("level", writer.string s.level), ("path", writer.string s.path),
    ("async", writer.bool s.async)]

def gatewayNode (s : GatewayConfig) : Node :=
  writer.mapping [("enable_auth", writer.bool s.enableAuth),
    ("enable_rate_limit", writer.bool s.enableRateLimit),
    ("enable_tracing", writer.bool s.enableTracing),
    ("request_timeout_ms", writer.integer s.requestTimeoutMs)]

def userServiceRpcNode (s : UserServiceRpcConfig) : Node :=
  writer.mapping [("enabled", writer.bool s.enabled), ("host", writer.string s.host),
    ("port", writer.integer s.port.toNat), ("timeout_ms", writer.integer s.timeoutMs)]

def mysqlNode (s : MysqlSettings) : Node :=
  writer.mapping [("enabled", writer.bool s.enabled), ("host", writer.string s.host),
    ("port", writer.integer s.port.toNat), ("user", writer.string s.user),
    ("password", writer.string s.password), ("database", writer.string s.database)]

def authNode (s : AuthConfig) : Node :=
  writer.mapping [("enabled", writer.bool s.enabled), ("jwt_secret", writer.string s.jwtSecret),
    ("rbac_enabled", writer.bool s.rbacEnabled),
    ("token_ttl_seconds", writer.integer s.tokenTtlSeconds.toInt),
    ("public_paths", writer.sequence (s.publicPaths.map writer.string))]

def rbacRuleNode (rule : RbacRuleConfig) : Node :=
  writer.mapping [("path", writer.string rule.path),
    ("roles", writer.sequence (rule.roles.map writer.string))]

def redisNode (s : RedisRateLimitConfig) : Node :=
  writer.mapping [("enabled", writer.bool s.enabled), ("host", writer.string s.host),
    ("port", writer.integer s.port.toNat), ("key_prefix", writer.string s.keyPrefix),
    ("fail_open", writer.bool s.failOpen)]

def rateLimitRuleNode (rule : RateLimitRuleConfig) : Node :=
  writer.mapping [("path", writer.string rule.path),
    ("max_requests", writer.integer rule.maxRequests)]

def rateLimitNode (s : RateLimitConfig) : Node :=
  writer.mapping [("enabled", writer.bool s.enabled),
    ("window_seconds", writer.integer s.windowSeconds),
    ("default_max_requests", writer.integer s.defaultMaxRequests),
    ("redis", redisNode writer s.redis),
    ("rules", writer.sequence (s.rules.map (rateLimitRuleNode writer)))]

def retryNode (s : RetryConfig) : Node :=
  writer.mapping [("enabled", writer.bool s.enabled),
    ("max_attempts", writer.integer s.maxAttempts), ("backoff_ms", writer.integer s.backoffMs),
    ("retry_non_idempotent", writer.bool s.retryNonIdempotent)]

def circuitBreakerNode (s : CircuitBreakerConfig) : Node :=
  writer.mapping [("enabled", writer.bool s.enabled),
    ("failure_threshold", writer.integer s.failureThreshold),
    ("open_seconds", writer.integer s.openSeconds),
    ("half_open_success_threshold", writer.integer s.halfOpenSuccessThreshold)]

def fallbackNode (s : FallbackConfig) : Node :=
  writer.mapping [("enabled", writer.bool s.enabled), ("message", writer.string s.message)]

def governanceNode (s : GovernanceConfig) : Node :=
  writer.mapping [("enabled", writer.bool s.enabled), ("retry", retryNode writer s.retry),
    ("circuit_breaker", circuitBreakerNode writer s.circuitBreaker),
    ("fallback", fallbackNode writer s.fallback)]

def tracingNode (s : TracingSettings) : Node :=
  writer.mapping [("enabled", writer.bool s.enabled),
    ("service_name", writer.string s.serviceName), ("sample_ratio", writer.double s.sampleRatio),
    ("max_finished_spans", writer.integer s.maxFinishedSpans),
    ("accept_traceparent", writer.bool s.acceptTraceparent),
    ("expose_debug_headers", writer.bool s.exposeDebugHeaders),
    ("otlp_exporter_enabled", writer.bool s.otlpExporterEnabled),
    ("otlp_host", writer.string s.otlpHost),
    ("otlp_http_port", writer.integer s.otlpHttpPort.toNat),
    ("otlp_path", writer.string s.otlpPath),
    ("otlp_timeout_ms", writer.integer s.otlpTimeoutMs)]

def routeNode (route : RouteConfig) : Node :=
  writer.mapping [("name", writer.string route.name),
    ("match_type", writer.string route.matchType), ("path", writer.string route.path),
    ("upstream", writer.string route.upstream),
    ("strip_prefix", writer.bool route.stripRoutePrefix),
    ("timeout_ms", writer.integer route.timeoutMs)]

/-- The document with every setting of a configuration in it. -/
def document (config : AppConfig) : Node :=
  writer.mapping [("server", serverNode writer config.server),
    ("runtime", runtimeNode writer config.runtime), ("log", logNode writer config.log),
    ("gateway", gatewayNode writer config.gateway),
    ("user_service_rpc", userServiceRpcNode writer config.userServiceRpc),
    ("mysql", mysqlNode writer config.mysql), ("auth", authNode writer config.auth),
    ("rbac", writer.sequence (config.rbacRules.map (rbacRuleNode writer))),
    ("rate_limit", rateLimitNode writer config.rateLimit),
    ("governance", governanceNode writer config.governance),
    ("tracing", tracingNode writer config.tracing),
    ("routes", writer.sequence (config.routes.map (routeNode writer)))]

end document

section readBack
variable {Node : Type} {yaml : Yaml Node} {writer : YamlWriter Node}
  (back : ReadsBack yaml writer)
include back

theorem readInt_back {n : Int} (fits : FitsInt n) : readInt yaml (writer.integer n) = .ok n := by
  have same : (Int32.ofInt n).toInt = n := Int32.toInt_ofInt_of_le fits.1 fits.2
  have read := back.asInt (Int32.ofInt n)
  rw [same] at read
  rw [readInt, read, Except.map, same]

theorem readSize_back {n : Nat} (fits : FitsSize n) : readSize yaml (writer.integer n) = .ok n := by
  have same : (UInt64.ofNat n).toNat = n := UInt64.toNat_ofNat_of_lt fits
  have read := back.asSize (UInt64.ofNat n)
  rw [same] at read
  rw [readSize, read, Except.map, same]

theorem serverNode_back {s : ServerSettings} (valid : ValidServer s) (current : ServerSettings) :
    loadServer yaml (serverNode writer s) current = .ok s := by
  simp [loadServer, serverNode, getOrDefault, back.subscript, back.asString, back.asUInt16,
    back.asBool, readInt_back back valid.readTimeoutMs.2, readInt_back back valid.writeTimeoutMs.2,
    readSize_back back valid.bodyLimitBytes.2, refuse_false, refuse_not, valid.readTimeoutMs.1,
    valid.writeTimeoutMs.1, Nat.ne_of_gt valid.bodyLimitBytes.1]

theorem runtimeNode_back {s : RuntimeConfig} (valid : ValidRuntime s) (current : RuntimeConfig) :
    loadRuntime yaml (runtimeNode writer s) current = .ok s := by
  simp [loadRuntime, runtimeNode, getOrDefault, back.subscript, readInt_back back valid.ioThreads,
    readInt_back back valid.workerThreads]

theorem logNode_back (s current : LogConfig) :
    loadLog yaml (logNode writer s) current = .ok s := by
  simp [loadLog, logNode, getOrDefault, back.subscript, back.asString, back.asBool]

theorem gatewayNode_back {s : GatewayConfig} (valid : ValidGateway s) (current : GatewayConfig) :
    loadGateway yaml (gatewayNode writer s) current = .ok s := by
  simp [loadGateway, gatewayNode, getOrDefault, back.subscript, back.asBool,
    readInt_back back valid]

theorem userServiceRpcNode_back {s : UserServiceRpcConfig} (valid : ValidUserServiceRpc s)
    (current : UserServiceRpcConfig) :
    loadUserServiceRpc yaml (userServiceRpcNode writer s) current = .ok s := by
  simp [loadUserServiceRpc, userServiceRpcNode, getOrDefault, back.subscript, back.asBool,
    back.asString, back.asUInt16, readInt_back back valid.2, refuse_not, valid.1]

theorem mysqlNode_back (s current : MysqlSettings) :
    loadMysql yaml (mysqlNode writer s) current = .ok s := by
  simp [loadMysql, mysqlNode, getOrDefault, back.subscript, back.asBool, back.asString,
    back.asUInt16]

omit back in
theorem mapM_back {Value : Type} {load : Node → Except CppException Value} {node : Value → Node}
    {values : List Value} (each : ∀ value ∈ values, load (node value) = .ok value) :
    (values.map node).mapM load = .ok values := by
  induction values with
  | nil => rfl
  | cons value values ih =>
    have others := ih fun other member => each other (List.mem_cons_of_mem value member)
    rw [List.map_cons, List.mapM_cons, each value List.mem_cons_self, others]
    rfl

theorem authNode_back {s : AuthConfig} (valid : ValidAuth s) (current : AuthConfig) :
    loadAuth yaml (authNode writer s) current = .ok s := by
  have paths : (s.publicPaths.map writer.string).mapM (loadPublicPath yaml) =
      .ok s.publicPaths := by
    refine mapM_back fun path member => ?_
    simp [loadPublicPath, back.asString, refuse_isEmpty (valid path member)]
  simp [loadAuth, authNode, getOrDefault, inSection, loadPublicPaths, back.subscript, back.asBool,
    back.asString, back.asInt, back.isSequence, back.elements, refuse_false, paths]

theorem rbac_back {rules : List RbacRuleConfig} (valid : ∀ rule ∈ rules, ValidRbacRule rule)
    (current : List RbacRuleConfig) :
    loadRbac yaml (writer.sequence (rules.map (rbacRuleNode writer))) current = .ok rules := by
  have each : (rules.map (rbacRuleNode writer)).mapM (loadRbacRule yaml) = .ok rules := by
    refine mapM_back fun rule member => ?_
    have own := valid rule member
    have names : (rule.roles.map writer.string).mapM yaml.asString = .ok rule.roles :=
      mapM_back fun role _ => back.asString role
    have kept : (rule.roles.filter fun name => !name.isEmpty) = rule.roles :=
      List.filter_eq_self.mpr fun role listed => by simpa using own.named role listed
    simp [loadRbacRule, rbacRuleNode, getOrDefault, back.subscript, back.asString,
      back.isSequence, back.elements, refuse_false, refuse_isEmpty own.path,
      refuse_isEmpty own.roles, names, kept]
  rw [loadRbac, back.isSequence, back.elements, each]
  rfl

theorem redisNode_back (s current : RedisRateLimitConfig) :
    loadRedis yaml (redisNode writer s) current = .ok s := by
  simp [loadRedis, redisNode, getOrDefault, back.subscript, back.asBool, back.asString,
    back.asUInt16]

theorem rateLimitRules_back {defaultMaxRequests : Int} {rules : List RateLimitRuleConfig}
    (valid : ∀ rule ∈ rules, ValidRateLimitRule rule) (current : List RateLimitRuleConfig) :
    loadRateLimitRules yaml defaultMaxRequests
      (writer.sequence (rules.map (rateLimitRuleNode writer))) current = .ok rules := by
  have each : (rules.map (rateLimitRuleNode writer)).mapM
      (loadRateLimitRule yaml defaultMaxRequests) = .ok rules := by
    refine mapM_back fun rule member => ?_
    have own := valid rule member
    simp [loadRateLimitRule, rateLimitRuleNode, getOrDefault, back.subscript, back.asString,
      readInt_back back own.maxRequests.2, refuse_isEmpty own.path, refuse_not,
      own.maxRequests.1]
  rw [loadRateLimitRules, back.isSequence, back.elements, each]
  rfl

theorem rateLimitNode_back {s : RateLimitConfig} (valid : ValidRateLimit s)
    (current : RateLimitConfig) : loadRateLimit yaml (rateLimitNode writer s) current = .ok s := by
  simp [loadRateLimit, rateLimitNode, getOrDefault, inSection, back.subscript, back.asBool,
    readInt_back back valid.windowSeconds, readInt_back back valid.defaultMaxRequests,
    redisNode_back back, rateLimitRules_back back valid.rules]

theorem governanceNode_back {s : GovernanceConfig} (valid : ValidGovernance s)
    (current : GovernanceConfig) :
    loadGovernance yaml (governanceNode writer s) current = .ok s := by
  have retry : loadRetry yaml (retryNode writer s.retry) current.retry = .ok s.retry := by
    simp [loadRetry, retryNode, getOrDefault, back.subscript, back.asBool,
      readInt_back back valid.maxAttempts.2, readInt_back back valid.backoffMs.2, refuse_not,
      valid.maxAttempts.1, valid.backoffMs.1]
  have breaker : loadCircuitBreaker yaml (circuitBreakerNode writer s.circuitBreaker)
      current.circuitBreaker = .ok s.circuitBreaker := by
    simp [loadCircuitBreaker, circuitBreakerNode, getOrDefault, back.subscript, back.asBool,
      readInt_back back valid.failureThreshold.2, readInt_back back valid.openSeconds.2,
      readInt_back back valid.halfOpenSuccessThreshold.2, refuse_not, valid.failureThreshold.1,
      valid.openSeconds.1, valid.halfOpenSuccessThreshold.1]
  have fallback : loadFallback yaml (fallbackNode writer s.fallback) current.fallback =
      .ok s.fallback := by
    simp [loadFallback, fallbackNode, getOrDefault, back.subscript, back.asBool, back.asString]
  simp [loadGovernance, governanceNode, getOrDefault, inSection, back.subscript, back.asBool,
    retry, breaker, fallback]

theorem tracingNode_back {s : TracingSettings} (valid : ValidTracing s)
    (current : TracingSettings) : loadTracing yaml (tracingNode writer s) current = .ok s := by
  have within := (validRatio_iff s.sampleRatio).mp valid.sampleRatio
  simp [loadTracing, tracingNode, getOrDefault, back.subscript, back.asBool, back.asString,
    back.asDouble, back.asUInt16, readSize_back back valid.maxFinishedSpans.2,
    readInt_back back valid.otlpTimeoutMs.2, refuse_false, refuse_not, within,
    Nat.ne_of_gt valid.maxFinishedSpans.1, valid.otlpTimeoutMs.1]

theorem routes_back {routes : List RouteConfig} (valid : ∀ route ∈ routes, ValidRoute route) :
    loadRoutes yaml (writer.sequence (routes.map (routeNode writer))) [] = .ok routes := by
  have each : (routes.map (routeNode writer)).mapM (loadRoute yaml) = .ok routes := by
    refine mapM_back fun route member => ?_
    have own := valid route member
    simp [loadRoute, routeNode, getOrDefault, back.subscript, back.asBool, back.asString,
      readInt_back back own.timeoutMs.2, refuse_isEmpty own.name, refuse_isEmpty own.path,
      refuse_isEmpty own.upstream, refuse_not, own.timeoutMs.1]
  rw [loadRoutes, back.isSequence, back.elements, each]
  rfl

theorem document_back {config : AppConfig} (valid : ValidConfig config) :
    loadRoot yaml (document writer config) = .ok config := by
  simp [loadRoot, document, inSection, back.subscript, serverNode_back back valid.server,
    runtimeNode_back back valid.runtime, logNode_back back, gatewayNode_back back valid.gateway,
    userServiceRpcNode_back back valid.userServiceRpc, mysqlNode_back back,
    authNode_back back valid.auth, rbac_back back valid.rbacRules,
    rateLimitNode_back back valid.rateLimit, governanceNode_back back valid.governance,
    tracingNode_back back valid.tracing, routes_back back valid.routes]

end readBack

/-- Whatever the library makes of a file, a configuration that comes out is within its bounds. -/
theorem loaded_config_valid {Node : Type} (yaml : Yaml Node) (path : Bytes)
    (file : Except Bytes Node) (config : AppConfig)
    (loaded : loadFromFile yaml path file = .ok config) : ValidConfig config := by
  cases file with
  | error what => cases loaded
  | ok root => exact loadRoot_valid yaml loaded

/-- The configurations that some document gives are those within their bounds, and each of them is
    read back from the document of its own settings. -/
theorem config_read_back {Node : Type} (yaml : Yaml Node) (writer : YamlWriter Node)
    (back : ReadsBack yaml writer) (path : Bytes) (config : AppConfig) :
    ((∃ file, loadFromFile yaml path file = .ok config) ↔ ValidConfig config) ∧
      (ValidConfig config →
        loadFromFile yaml path (.ok (document writer config)) = .ok config) := by
  have own : ValidConfig config →
      loadFromFile yaml path (.ok (document writer config)) = .ok config :=
    fun valid => document_back back valid
  refine ⟨⟨?_, fun valid => ⟨_, own valid⟩⟩, own⟩
  rintro ⟨file, loaded⟩
  cases file with
  | error what => cases loaded
  | ok root => exact loadRoot_valid yaml loaded

section trees

inductive Tree where
  | mapping (members : List (String × Tree))
  | sequence (items : List Tree)
  | string (text : Bytes)
  | bool (value : Bool)
  | integer (n : Int)
  | double (value : Double)

def badConversion {Value : Type} : Except CppException Value :=
  .error (.runtimeError (bytes "bad conversion"))

def treeYaml : Yaml Tree where
  subscript node key :=
    match node with
    | .mapping members => .ok ((members.find? fun member => member.1 = key).map Prod.snd)
    | .sequence _ => .ok none
    | _ => .error (.runtimeError (bytes "operator[] call on a scalar"))
  isSequence node :=
    match node with
    | .sequence _ => true
    | _ => false
  elements node :=
    match node with
    | .sequence items => items
    | _ => []
  asString node :=
    match node with
    | .string text => .ok text
    | _ => badConversion
  asBool node :=
    match node with
    | .bool value => .ok value
    | _ => badConversion
  asInt node :=
    match node with
    | .integer n => if FitsInt n then .ok (Int32.ofInt n) else badConversion
    | _ => badConversion
  asUInt16 node :=
    match node with
    | .integer n => if 0 ≤ n ∧ n < 2 ^ 16 then .ok (UInt16.ofNat n.toNat) else badConversion
    | _ => badConversion
  asSize node :=
    match node with
    | .integer n => if 0 ≤ n ∧ n < 2 ^ 64 then .ok (UInt64.ofNat n.toNat) else badConversion
    | _ => badConversion
  asDouble node :=
    match node with
    | .double value => .ok value
    | _ => badConversion

def treeWriter : YamlWriter Tree where
  mapping := .mapping
  sequence := .sequence
  string := .string
  bool := .bool
  integer := .integer
  double := .double

theorem tree_reads_back : ReadsBack treeYaml treeWriter where
  subscript _ _ := rfl
  isSequence _ := rfl
  elements _ := rfl
  asString _ := rfl
  asBool _ := rfl
  asInt n := by
    have fits : FitsInt n.toInt := ⟨Int32.le_toInt n, Int32.toInt_lt n⟩
    simp [treeYaml, treeWriter, fits]
  asUInt16 n := by
    have small := UInt16.toNat_lt n
    simp only [treeYaml, treeWriter, Int.toNat_natCast, UInt16.ofNat_toNat]
    exact if_pos ⟨Int.natCast_nonneg _, by omega⟩
  asSize n := by
    have small := UInt64.toNat_lt n
    simp only [treeYaml, treeWriter, Int.toNat_natCast, UInt64.ofNat_toNat]
    exact if_pos ⟨Int.natCast_nonneg _, by omega⟩
  asDouble _ := rfl

end trees

theorem loaded_config_valid_defaults : ValidConfig {} :=
  loaded_config_valid treeYaml (bytes "gateway.yaml") (.ok (document treeWriter {})) {}
    (document_back tree_reads_back defaults_valid)

theorem config_read_back_defaults :
    loadFromFile treeYaml (bytes "gateway.yaml") (.ok (document treeWriter {})) = .ok {} :=
  (config_read_back treeYaml treeWriter tree_reads_back (bytes "gateway.yaml") {}).2 defaults_valid

end TgwConfigLaws
