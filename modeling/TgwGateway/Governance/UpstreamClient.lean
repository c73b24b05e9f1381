import TgwGateway.Common.Exceptions
import TgwGateway.Common.Status
import TgwGateway.Gateway.Http
import TgwGateway.Governance.CircuitBreaker

/- GovernanceUpstreamClient: deadline, retry, breaker and fallback around an inner client. The
   inner client is any function of the context and of what it shares with this one. The trace
   lists what one client did, oldest first; no decision of the client reads it. -/
namespace TgwGovernance
open ByteStrings DecimalText TgwClock TgwConfig TgwExceptions TgwStatus TgwHttp
open TgwCircuitBreaker

abbrev UpstreamClient (State : Type) := ForwardContext → Env State → HttpResponse × Env State

inductive GovernanceEvent where
  | allowRequest (upstream : Bytes) (admitted : Bool)
  | callOnce
  | sleepFor (ms : Int)
  | innerForward (upstream : Bytes) (breaker : CircuitBreakerRuntimeState) (now : Int)
  | response (rsp : HttpResponse)
  | recordResult (upstream : Bytes) (success : Bool)
  deriving DecidableEq

structure GovernanceState (State : Type) where
  circuitStates : CircuitStates := ∅
  inner : State
  trace : List GovernanceEvent := []

variable {State : Type}

abbrev GovernanceEnv (State : Type) := Env (GovernanceState State)

def freshClient (steady : SteadyClock) (system : SystemClock) (inner : State) :
    GovernanceEnv State :=
  { steady := steady, system := system, deadline := none, state := { inner := inner } }

def emit (env : GovernanceEnv State) (e : GovernanceEvent) : GovernanceEnv State :=
  { env with state := { env.state with trace := env.state.trace ++ [e] } }

def headerToInt (headers : ByteMap Bytes) (key : Bytes) (default : Int) : Int :=
  match headers[key]? with
  | none => default
  | some text =>
    match stoi text with
    | .ok n => n
    | .error _ => default

def buildErrorResponse (httpStatus : Int) (code : ErrorCode) (message requestId : Bytes) :
    HttpResponse :=
  { status := httpStatus
    contentType := bytes "application/json"
    body := (ApiResponse.error code message).toJson
    headers := (∅ : ByteMap Bytes).insert (bytes "X-Request-Id") requestId }

def timeoutResponse (ctx : ForwardContext) (attempt : Int) : HttpResponse :=
  ((buildErrorResponse 504 .rpcTimeout (bytes "upstream timeout") ctx.requestId).setHeader
    (bytes "X-Governance-Timeout") (bytes "true")).setHeader
    (bytes "X-Governance-Attempt") (intText attempt)

def fallbackResponse (config : GovernanceConfig) (ctx : ForwardContext) (reason : Bytes) :
    HttpResponse :=
  let data := bytes "\x7b" ++ bytes "\"degraded\":true," ++
    bytes "\"upstream\":\"" ++ jsonEscape ctx.upstream ++ bytes "\"," ++
    bytes "\"reason\":\"" ++ jsonEscape reason ++ bytes "\"," ++
    bytes "\"message\":\"" ++ jsonEscape config.fallback.message ++ bytes "\"" ++ bytes "\x7d"
  { status := 200
    contentType := bytes "application/json"
    body := (ApiResponse.success data).toJson
    headers := (((∅ : ByteMap Bytes).insert (bytes "X-Request-Id") ctx.requestId).insert
      (bytes "X-Governance-Fallback") (bytes "true")).insert
      (bytes "X-Circuit-State") (bytes "open") }

def circuitOpenResponse (config : GovernanceConfig) (ctx : ForwardContext) : HttpResponse :=
  if config.fallback.enabled then fallbackResponse config ctx (bytes "circuit breaker open")
  else
    (buildErrorResponse 503 .rpcFailed (bytes "circuit breaker open") ctx.requestId).setHeader
      (bytes "X-Circuit-State") (bytes "open")

def isFailureResponse (response : HttpResponse) : Bool :=
  response.status == 504 || 500 ≤ response.status

def isIdempotentMethod (method : Bytes) : Bool :=
  method == bytes "GET" || method == bytes "HEAD" || method == bytes "OPTIONS"

def canRetryMethod (config : GovernanceConfig) (ctx : ForwardContext) : Bool :=
  isIdempotentMethod ctx.method || config.retry.retryNonIdempotent

def readyBeforeDeadline (env : GovernanceEnv State) : Bool × GovernanceEnv State :=
  (!env.deadlineExceeded.1, env.deadlineExceeded.2)

/-- Every turn sleeps at least one millisecond, so sleepMs turns are enough. -/
def sleepLoop (sleepMs : Int) : Nat → Int → GovernanceEnv State → Bool × GovernanceEnv State
  | 0, _, env => readyBeforeDeadline env
  | fuel + 1, sleptMs, env =>
    if sleepMs ≤ sleptMs then readyBeforeDeadline env
    else
      let done := env.deadlineExceeded
      if done.1 then (false, done.2.cancelDeadline (bytes "deadline exceeded"))
      else
        let stepMs := min 10 (sleepMs - sleptMs)
        match done.2.deadline with
        | none => sleepLoop sleepMs fuel (sleptMs + stepMs) (emit done.2 (.sleepFor stepMs))
        | some d =>
          let remainingMs := d.remainingMs done.2.now
          if remainingMs ≤ 0 then
            (false, done.2.tick.cancelDeadline (bytes "deadline exceeded"))
          else
            let stepMs := min stepMs remainingMs
            sleepLoop sleepMs fuel (sleptMs + stepMs) (emit done.2.tick (.sleepFor stepMs))

def sleepUntilReadyOrDeadline (sleepMs : Int) (env : GovernanceEnv State) :
    Bool × GovernanceEnv State :=
  if sleepMs ≤ 0 then readyBeforeDeadline env else sleepLoop sleepMs sleepMs.toNat 0 env

def elapsedMsSince (startedAt : Int) (env : GovernanceEnv State) : Int × GovernanceEnv State :=
  match env.deadline with
  | some d => (d.elapsedMs env.now, env.tick)
  | none => ((env.now - startedAt).tdiv nanosPerMilli, env.tick)

def admission (config : GovernanceConfig) (upstream : Bytes) (env : GovernanceEnv State) :
    Bool × GovernanceEnv State :=
  if config.circuitBreaker.enabled then
    let entry := allowRequest config env.state.circuitStates upstream env.now
    (entry.1, emit { env.tick with state := { env.state with circuitStates := entry.2 } }
      (.allowRequest upstream entry.1))
  else (true, emit env (.allowRequest upstream true))

def record (config : GovernanceConfig) (upstream : Bytes) (success : Bool)
    (env : GovernanceEnv State) : GovernanceEnv State :=
  let env := emit env (.recordResult upstream success)
  if config.circuitBreaker.enabled then
    { env.tick with
      state :=
        { env.state with
          circuitStates := recordResult config env.state.circuitStates upstream success env.now } }
  else env

def innerForward (inner : UpstreamClient State) (ctx : ForwardContext)
    (env : GovernanceEnv State) : HttpResponse × GovernanceEnv State :=
  let env := emit env
    (.innerForward ctx.upstream (stateOf env.state.circuitStates ctx.upstream) env.now)
  let called := inner ctx ⟨env.steady, env.system, env.deadline, env.state.inner⟩
  (called.1, ⟨called.2.steady, called.2.system, called.2.deadline,
    { env.state with inner := called.2.state }⟩)

def callOnce (inner : UpstreamClient State) (ctx : ForwardContext) (env : GovernanceEnv State) :
    HttpResponse × GovernanceEnv State :=
  let debugSleepMs := headerToInt ctx.headers (bytes "X-Debug-Sleep-Ms") 0
  let slept :=
    if 0 < debugSleepMs then sleepUntilReadyOrDeadline debugSleepMs (emit env .callOnce)
    else (true, emit env .callOnce)
  if slept.1 then
    let done := slept.2.deadlineExceeded
    if done.1 then
      (timeoutResponse ctx 1, done.2.cancelDeadline (bytes "deadline exceeded"))
    else
      let debugForceStatus := headerToInt ctx.headers (bytes "X-Debug-Force-Status") 0
      if 500 ≤ debugForceStatus then
        ((buildErrorResponse debugForceStatus .rpcFailed
          (bytes "debug forced upstream failure") ctx.requestId).setHeader
          (bytes "X-Debug-Forced") (bytes "true"), done.2)
      else innerForward inner ctx done.2
  else (timeoutResponse ctx 1, slept.2)

def withGovernanceHeaders (response : HttpResponse) (attempt elapsedMs : Int) : HttpResponse :=
  (response.setHeader (bytes "X-Governance-Attempt") (intText attempt)).setHeader
    (bytes "X-Governance-Elapsed-Ms") (intText elapsedMs)

/-- The body of the attempt loop from the start of the attempt to RecordResult. -/
def runAttempt (inner : UpstreamClient State) (config : GovernanceConfig) (ctx : ForwardContext)
    (attempt : Int) (env : GovernanceEnv State) : HttpResponse × GovernanceEnv State :=
  let startedAt := env.now
  let called := callOnce inner ctx env.tick
  let elapsed := elapsedMsSince startedAt called.2
  let done := elapsed.2.deadlineExceeded
  let timedOut := done.1 || ctx.timeoutMs < elapsed.1
  let response := if timedOut then timeoutResponse ctx attempt else called.1
  let env := if timedOut then done.2.cancelDeadline (bytes "deadline exceeded") else done.2
  let stamped := withGovernanceHeaders response attempt elapsed.1
  (stamped, record config ctx.upstream (!isFailureResponse stamped) (emit env (.response response)))

inductive LoopExit where
  | returned (response : HttpResponse)
  | left (lastResponse : Option HttpResponse)

/-- The loop over attempts with the attempts still allowed, the number of the next one, and
   last_response once has_response is set. -/
def forwardLoop (inner : UpstreamClient State) (config : GovernanceConfig) (ctx : ForwardContext)
    (maxAttempts : Int) :
    Nat → Int → Option HttpResponse → GovernanceEnv State → LoopExit × GovernanceEnv State
  | 0, _, lastResponse, env => (.left lastResponse, env)
  | left + 1, attempt, _, env =>
    let done := env.deadlineExceeded
    if done.1 then
      (.left (some (timeoutResponse ctx attempt)),
        done.2.cancelDeadline (bytes "deadline exceeded"))
    else
      let tried := runAttempt inner config ctx attempt done.2
      if !isFailureResponse tried.1 then (.returned tried.1, tried.2)
      else if !(config.retry.enabled && attempt < maxAttempts && canRetryMethod config ctx) then
        (.left (some tried.1), tried.2)
      else if 0 < config.retry.backoffMs then
        let slept := sleepUntilReadyOrDeadline config.retry.backoffMs tried.2
        if slept.1 then
          forwardLoop inner config ctx maxAttempts left (attempt + 1) (some tried.1) slept.2
        else (.left (some (timeoutResponse ctx attempt)), slept.2)
      else forwardLoop inner config ctx maxAttempts left (attempt + 1) (some tried.1) tried.2

def attemptLimit (config : GovernanceConfig) : Int :=
  let maxAttempts := if config.retry.enabled then config.retry.maxAttempts else 1
  if maxAttempts ≤ 0 then 1 else maxAttempts

def forward (inner : UpstreamClient State) (config : GovernanceConfig) (ctx : ForwardContext)
    (env : GovernanceEnv State) : HttpResponse × GovernanceEnv State :=
  if config.enabled then
    let allowed := admission config ctx.upstream env
    if allowed.1 then
      let exit := forwardLoop inner config ctx (attemptLimit config) (attemptLimit config).toNat 1
        none allowed.2
      match exit.1 with
      | .returned response => (response, exit.2)
      | .left none =>
        (buildErrorResponse 500 .internalError (bytes "governance call produced no response")
          ctx.requestId, exit.2)
      | .left (some last) =>
        if isFailureResponse last && config.fallback.enabled then
          (fallbackResponse config ctx (bytes "all retry attempts failed"), exit.2)
        else (last, exit.2)
    else (circuitOpenResponse config ctx, allowed.2)
  else innerForward inner ctx env

/-- Forward calls one after another; each context brings its own deadline. -/
def runForwards (inner : UpstreamClient State) (config : GovernanceConfig)
    (calls : List ForwardContext) (env : GovernanceEnv State) : GovernanceEnv State :=
  calls.foldl (fun env ctx => (forward inner config ctx { env with deadline := ctx.deadline }).2) env

end TgwGovernance
