import TgwGateway.Governance.RateLimitFilter
import TgwGateway.Lib.RespText

/- The text of the commands of a check and of the answers, on a socket whose operations may fail.
   The text a check writes is read back as its commands, whatever the request holds. -/
namespace TgwRedisProtocol
open ByteStrings DecimalText RespText TgwClock TgwConfig TgwExceptions TgwHttp TgwRouteRule
open TgwRateLimitFilter

def lineEnd : Bytes := [13, 10]

def redisBulkString (value : Bytes) : Bytes :=
  bytes "$" ++ natText value.length ++ lineEnd ++ value ++ lineEnd

def redisCommand (args : List Bytes) : Bytes :=
  bytes "*" ++ natText args.length ++ lineEnd ++ args.flatMap redisBulkString

/-- readUntil answers what has arrived once it holds a line end. -/
structure RedisSocket (State : Type) where
  connect : State → Except CppException Unit × State
  write : Bytes → State → Except CppException Unit × State
  readUntil : State → Except CppException Bytes × State

variable {State : Type}

def readRedisLine (arrived : Bytes) : Bytes :=
  let line := arrived.takeWhile (· != 10)
  if line.getLast? = some 13 then line.dropLast else line

def redisInteger (line : Bytes) : Except CppException Int :=
  match line with
  | [] => .error (.runtimeError (bytes "empty redis response"))
  | 58 :: rest => stoll rest
  | 43 :: _ => .ok 0
  | 45 :: rest => .error (.runtimeError (bytes "redis error: " ++ rest))
  | line => .error (.runtimeError (bytes "unexpected redis response: " ++ line))

def executeRedisInteger (socket : RedisSocket State) (args : List Bytes) (state : State) :
    Except CppException Int × State :=
  match socket.write (redisCommand args) state with
  | (.error e, state) => (.error e, state)
  | (.ok (), state) =>
    match socket.readUntil state with
    | (.error e, state) => (.error e, state)
    | (.ok arrived, state) => (redisInteger (readRedisLine arrived), state)

def socketLink (socket : RedisSocket State) : RedisLink State where
  connect := socket.connect
  executeInteger := executeRedisInteger socket

def recorded (socket : RedisSocket State) : RedisSocket (State × Bytes) where
  connect s := ((socket.connect s.1).1, (socket.connect s.1).2, s.2)
  write text s := ((socket.write text s.1).1, (socket.write text s.1).2, s.2 ++ text)
  readUntil s := ((socket.readUntil s.1).1, (socket.readUntil s.1).2, s.2)

def sentText (socket : RedisSocket State) (config : RateLimitConfig) (request : HttpRequest)
    (matched : RouteMatchResult) (env : RateLimitEnv State) : Bytes :=
  (check (socketLink (recorded socket)) config request matched
    { env with state := { env.state with redis := (env.state.redis, []) } }).2.state.redis.2

theorem redisBulkString_read : Reads readBulkString redisBulkString := by
  intro value rest
  have text : redisBulkString value ++ rest =
      36 :: (natText value.length ++ 13 :: 10 :: (value ++ 13 :: 10 :: rest)) := by
    have marker : bytes "$" = [36] := by decide
    simp [redisBulkString, lineEnd, marker]
  rw [text, readBulkString_append]

theorem redisCommand_read : Reads readCommand redisCommand := by
  intro args rest
  have text : redisCommand args ++ rest =
      42 :: (natText args.length ++ 13 :: 10 :: (args.flatMap redisBulkString ++ rest)) := by
    have marker : bytes "*" = [42] := by decide
    simp [redisCommand, lineEnd, marker]
  rw [text, readCommand, readLength_natText]
  exact readTimes_append redisBulkString_read args rest

theorem redisCommand_ne_nil (args : List Bytes) : redisCommand args ≠ [] := by
  have marker : bytes "*" = [42] := by decide
  simp [redisCommand, marker]

theorem recorded_execute (socket : RedisSocket State) (args : List Bytes) (s : State × Bytes) :
    (executeRedisInteger (recorded socket) args s).2.2 = s.2 ++ redisCommand args := by
  simp only [executeRedisInteger, recorded]
  cases (socket.write (redisCommand args) s.1).1 with
  | error e => rfl
  | ok =>
    simp only
    cases (socket.readUntil (socket.write (redisCommand args) s.1).2).1 <;> rfl

def CommandsOf (redisKey : Bytes) (windowSeconds : Int) (commands : List (List Bytes)) : Prop :=
  commands <+: [incrCommand redisKey, expireCommand redisKey windowSeconds, ttlCommand redisKey] ∨
    commands <+: [incrCommand redisKey, ttlCommand redisKey]

theorem countRequest_sends (socket : RedisSocket State) (redisKey : Bytes) (windowSeconds : Int)
    (state : State) :
    ∃ commands, CommandsOf redisKey windowSeconds commands ∧
      (countRequest (socketLink (recorded socket)) redisKey windowSeconds (state, [])).2.2 =
        commands.flatMap redisCommand := by
  have sends := recorded_execute socket
  have connects : ((recorded socket).connect (state, [])).2.2 = [] := rfl
  unfold countRequest socketLink
  simp only
  generalize (recorded socket).connect (state, []) = connected at connects ⊢
  obtain ⟨outcome, s⟩ := connected
  cases outcome with
  | error e => exact ⟨[], Or.inl (by simp), by simpa using connects⟩
  | ok =>
    have first := sends (incrCommand redisKey) s
    simp only at connects ⊢
    generalize executeRedisInteger (recorded socket) (incrCommand redisKey) s = counted at first ⊢
    obtain ⟨outcome, s⟩ := counted
    cases outcome with
    | error e =>
      exact ⟨[incrCommand redisKey], Or.inl (by simp), by simpa [connects] using first⟩
    | ok count =>
      simp only [connects, List.nil_append] at first ⊢
      by_cases new : count = 1
      · have second := sends (expireCommand redisKey windowSeconds) s
        simp only [if_pos new]
        generalize executeRedisInteger (recorded socket) (expireCommand redisKey windowSeconds) s =
          expired at second ⊢
        obtain ⟨outcome, s⟩ := expired
        cases outcome with
        | error e =>
          refine ⟨[incrCommand redisKey, expireCommand redisKey windowSeconds], Or.inl (by simp), ?_⟩
          simpa [first] using second
        | ok set =>
          have third := sends (ttlCommand redisKey) s
          simp only at second ⊢
          generalize executeRedisInteger (recorded socket) (ttlCommand redisKey) s = asked at third ⊢
          refine ⟨[incrCommand redisKey, expireCommand redisKey windowSeconds, ttlCommand redisKey],
            Or.inl (List.prefix_refl _), ?_⟩
          obtain ⟨outcome, s⟩ := asked
          cases outcome <;> simpa [first, second] using third
      · have third := sends (ttlCommand redisKey) s
        simp only [if_neg new]
        generalize executeRedisInteger (recorded socket) (ttlCommand redisKey) s = asked at third ⊢
        refine ⟨[incrCommand redisKey, ttlCommand redisKey], Or.inr (List.prefix_refl _), ?_⟩
        obtain ⟨outcome, s⟩ := asked
        cases outcome <;> simpa [first] using third

/-- Only the commands of the one key of the request leave for the server. -/
theorem check_sends (socket : RedisSocket State) (config : RateLimitConfig)
    (request : HttpRequest) (matched : RouteMatchResult) (env : RateLimitEnv State) :
    ∃ commands,
      CommandsOf (redisKey config (buildKey request matched) (windowOf config)
        (nowUnixSeconds env.now)) (windowOf config) commands ∧
      sentText socket config request matched env = commands.flatMap redisCommand := by
  obtain ⟨commands, own, sent⟩ := countRequest_sends socket (redisKey config
    (buildKey request matched) (windowOf config) (nowUnixSeconds env.now)) (windowOf config)
    env.state.redis
  have silent : CommandsOf (redisKey config (buildKey request matched) (windowOf config)
      (nowUnixSeconds env.now)) (windowOf config) [] := Or.inl (by simp)
  unfold sentText check
  split
  · exact ⟨[], silent, rfl⟩
  · simp only
    split
    · refine ⟨commands, own, ?_⟩
      rw [← sent]
      simp only [checkRedis, Env.now]
      generalize countRequest (socketLink (recorded socket)) _ _ (env.state.redis, []) = counted
      obtain ⟨outcome, s⟩ := counted
      cases outcome with
      | ok answers => rfl
      | error e =>
        simp only
        split <;> rfl
    · exact ⟨[], silent, rfl⟩

/-- The text of any commands is read back as these commands, and no request makes a check write
    anything but its own commands on its own key. -/
theorem commands_read_back :
    (∀ args rest, readCommand (redisCommand args ++ rest) = some (args, rest)) ∧
      (∀ commands : List (List Bytes),
        readCommands (commands.flatMap redisCommand) = some commands) ∧
      ∀ (State : Type) (socket : RedisSocket State) (config : RateLimitConfig)
        (request : HttpRequest) (matched : RouteMatchResult) (env : RateLimitEnv State),
        ∃ commands,
          readCommands (sentText socket config request matched env) = some commands ∧
          CommandsOf (redisKey config (buildKey request matched) (windowOf config)
            (nowUnixSeconds env.now)) (windowOf config) commands := by
  have whole : ∀ commands : List (List Bytes),
      readCommands (commands.flatMap redisCommand) = some commands :=
    readAll_flatMap redisCommand_read redisCommand_ne_nil
  refine ⟨redisCommand_read, whole, ?_⟩
  intro State socket config request matched env
  obtain ⟨commands, own, sent⟩ := check_sends socket config request matched env
  exact ⟨commands, by rw [sent, whole], own⟩

end TgwRedisProtocol
