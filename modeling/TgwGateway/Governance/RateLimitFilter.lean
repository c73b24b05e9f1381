import TgwGateway.Common.Exceptions
import TgwGateway.Common.Status
import TgwGateway.Gateway.Http
import TgwGateway.Gateway.RouteRule
import TgwGateway.Lib.MachineInt

/- RateLimitFilter: fixed windows in local buckets or in Redis. The Redis server and the way to
   it are a parameter; a failed command throws. -/
namespace TgwRateLimitFilter
open ByteStrings DecimalText MachineInt TgwClock TgwConfig TgwExceptions TgwStatus TgwHttp
open TgwRouteRule

structure RateLimitDecision where
  allowed : Bool := true
  limit : Int := 0
  remaining : Int := 0
  resetSeconds : Int := 0
  key : Bytes := []
  response : HttpResponse := {}
  deriving DecidableEq

structure Bucket where
  windowStart : Int := 0
  count : Int := 0
  deriving DecidableEq, Repr

abbrev Buckets := ByteMap Bucket

structure RateLimitState (Redis : Type) where
  buckets : Buckets := ∅
  redis : Redis

structure RedisLink (Redis : Type) where
  connect : Redis → Except CppException Unit × Redis
  executeInteger : List Bytes → Redis → Except CppException Int × Redis

variable {Redis : Type}

abbrev RateLimitEnv (Redis : Type) := Env (RateLimitState Redis)

/-- Named after the epoch in the source, although the clock it reads is the steady one. -/
def nowUnixSeconds (now : Int) : Int := now.tdiv nanosPerSecond

def headerValue (request : HttpRequest) (key : Bytes) : Bytes := request.headers.getD key []

def tooManyRequests (requestId : Bytes) (limit remaining resetSeconds : Int) : HttpResponse :=
  { status := 429
    contentType := bytes "application/json"
    body := (ApiResponse.error .rateLimited (bytes "rate limit exceeded")).toJson
    headers := ((((∅ : ByteMap Bytes).insert (bytes "X-Request-Id") requestId).insert
      (bytes "X-RateLimit-Limit") (intText limit)).insert
      (bytes "X-RateLimit-Remaining") (intText remaining)).insert
      (bytes "X-RateLimit-Reset") (intText resetSeconds) }

/-- Written again in this file of the source; the route table has its own. -/
def isPrefixMatch (rulePath requestPath : Bytes) : Bool :=
  if rulePath = [] ∨ requestPath.length < rulePath.length then false
  else if requestPath.take rulePath.length ≠ rulePath then false
  else requestPath.length = rulePath.length || requestPath[rulePath.length]? == some slash

theorem isPrefixMatch_eq : isPrefixMatch = TgwRouteRule.isPrefixMatch := by
  funext rulePath requestPath
  unfold isPrefixMatch TgwRouteRule.isPrefixMatch
  by_cases empty : rulePath = []
  · simp [empty]
  by_cases short : requestPath.length < rulePath.length
  · simp [short]
  by_cases agree : requestPath.take rulePath.length = rulePath
  · by_cases same : requestPath.length = rulePath.length <;> simp [empty, short, agree, same]
  · simp [agree]

/-- The loop over the rules with the best size so far: a later rule of the same size wins. -/
def resolveLimitLoop (originalPath : Bytes) :
    List RateLimitRuleConfig → Nat → Int → Int
  | [], _, limit => limit
  | rule :: rules, bestSize, limit =>
    if !isPrefixMatch rule.path originalPath then
      resolveLimitLoop originalPath rules bestSize limit
    else if bestSize ≤ rule.path.length then
      resolveLimitLoop originalPath rules rule.path.length rule.maxRequests
    else resolveLimitLoop originalPath rules bestSize limit

def resolveLimit (config : RateLimitConfig) (matched : RouteMatchResult) : Int :=
  resolveLimitLoop matched.originalPath config.rules 0 config.defaultMaxRequests

def buildKey (request : HttpRequest) (matched : RouteMatchResult) : Bytes :=
  let userId := headerValue request (bytes "X-User-Id")
  (if userId ≠ [] then bytes "user:" ++ userId
    else bytes "ip:" ++ (if request.clientIp = [] then bytes "unknown" else request.clientIp)) ++
    bytes "|route:" ++ matched.route.path

def startsWindow (windowSeconds now : Int) (bucket : Bucket) : Bool :=
  bucket.windowStart = 0 || windowSeconds ≤ now - bucket.windowStart

/-- The critical section of CheckLocal on the bucket of its key. -/
def checkBucket (windowSeconds limit : Int) (key requestId : Bytes) (now : Int)
    (found : Bucket) : RateLimitDecision × Bucket :=
  let bucket := if startsWindow windowSeconds now found then ⟨now, 0⟩ else found
  let resetSeconds := toInt32 (windowSeconds - (now - bucket.windowStart))
  let resetSeconds := if resetSeconds < 0 then 0 else resetSeconds
  if limit ≤ bucket.count then
    ({ allowed := false
       limit := limit
       remaining := 0
       resetSeconds := resetSeconds
       key := key
       response := tooManyRequests requestId limit 0 resetSeconds }, bucket)
  else
    ({ limit := limit
       remaining := max (limit - (bucket.count + 1)) 0
       resetSeconds := resetSeconds
       key := key }, { bucket with count := bucket.count + 1 })

def checkLocked (windowSeconds limit : Int) (key requestId : Bytes) (now : Int)
    (buckets : Buckets) : RateLimitDecision × Buckets :=
  let checked := checkBucket windowSeconds limit key requestId now (buckets.getD key {})
  (checked.1, buckets.insert key checked.2)

def checkLocal (request : HttpRequest) (windowSeconds limit : Int) (key : Bytes)
    (env : RateLimitEnv Redis) : RateLimitDecision × RateLimitEnv Redis :=
  let now := nowUnixSeconds env.now
  let checked := checkLocked windowSeconds limit key request.requestId now env.state.buckets
  (checked.1, { env.tick with state := { env.state with buckets := checked.2 } })

def redisKey (config : RateLimitConfig) (key : Bytes) (windowSeconds nowSeconds : Int) : Bytes :=
  config.redis.keyPrefix ++ bytes ":" ++ key ++ bytes ":" ++
    intText (nowSeconds.tdiv windowSeconds)

def redisDecision (redisKey requestId : Bytes) (windowSeconds limit count ttl : Int) :
    RateLimitDecision :=
  let resetSeconds := if 0 < ttl then toInt32 ttl else windowSeconds
  if limit < count then
    { allowed := false
      limit := limit
      remaining := 0
      resetSeconds := resetSeconds
      key := redisKey
      response := tooManyRequests requestId limit 0 resetSeconds }
  else
    { limit := limit
      remaining := toInt32 (max (limit - count) 0)
      resetSeconds := resetSeconds
      key := redisKey }

def incrCommand (redisKey : Bytes) : List Bytes := [bytes "INCR", redisKey]

def expireCommand (redisKey : Bytes) (windowSeconds : Int) : List Bytes :=
  [bytes "EXPIRE", redisKey, intText windowSeconds]

def ttlCommand (redisKey : Bytes) : List Bytes := [bytes "TTL", redisKey]

/-- The commands of one check, from the connection to the TTL. -/
def countRequest (link : RedisLink Redis) (redisKey : Bytes) (windowSeconds : Int)
    (redis : Redis) : Except CppException (Int × Int) × Redis :=
  match link.connect redis with
  | (.error e, redis) => (.error e, redis)
  | (.ok (), redis) =>
    match link.executeInteger (incrCommand redisKey) redis with
    | (.error e, redis) => (.error e, redis)
    | (.ok count, redis) =>
      let expired :=
        if count = 1 then link.executeInteger (expireCommand redisKey windowSeconds) redis
        else (.ok 0, redis)
      match expired with
      | (.error e, redis) => (.error e, redis)
      | (.ok _, redis) =>
        match link.executeInteger (ttlCommand redisKey) redis with
        | (.error e, redis) => (.error e, redis)
        | (.ok ttl, redis) => (.ok (count, ttl), redis)

def checkRedis (link : RedisLink Redis) (config : RateLimitConfig) (request : HttpRequest)
    (windowSeconds limit : Int) (key : Bytes) (env : RateLimitEnv Redis) :
    Except CppException RateLimitDecision × RateLimitEnv Redis :=
  let redisKey := redisKey config key windowSeconds (nowUnixSeconds env.now)
  let counted := countRequest link redisKey windowSeconds env.state.redis
  let env := { env.tick with state := { env.state with redis := counted.2 } }
  match counted.1 with
  | .error e => (.error e, env)
  | .ok (count, ttl) =>
    (.ok (redisDecision redisKey request.requestId windowSeconds limit count ttl), env)

def windowOf (config : RateLimitConfig) : Int := max config.windowSeconds 1

theorem windowOf_pos (config : RateLimitConfig) : 0 < windowOf config := by
  unfold windowOf
  omega

theorem windowOf_fits {config : RateLimitConfig} (fits : FitsInt32 config.windowSeconds) :
    FitsInt32 (windowOf config) := by
  obtain ⟨low, high⟩ := fits
  unfold windowOf
  exact ⟨by omega, by omega⟩

def limitOf (config : RateLimitConfig) (matched : RouteMatchResult) : Int :=
  max (resolveLimit config matched) 1

def check (link : RedisLink Redis) (config : RateLimitConfig) (request : HttpRequest)
    (matched : RouteMatchResult) (env : RateLimitEnv Redis) :
    RateLimitDecision × RateLimitEnv Redis :=
  if !config.enabled then ({}, env)
  else
    let windowSeconds := windowOf config
    let limit := limitOf config matched
    let key := buildKey request matched
    if config.redis.enabled then
      match checkRedis link config request windowSeconds limit key env with
      | (.ok decision, env) => (decision, env)
      | (.error _, env) =>
        if !config.redis.failOpen then
          ({ allowed := false
             limit := limit
             remaining := 0
             resetSeconds := windowSeconds
             key := key
             response := tooManyRequests request.requestId limit 0 windowSeconds }, env)
        else checkLocal request windowSeconds limit key env
    else checkLocal request windowSeconds limit key env

end TgwRateLimitFilter
