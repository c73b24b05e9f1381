import TgwGateway.Governance.RedisServer

/- One check over a connection that takes its time and may fail at any command. The server runs a
   command that reaches it even if the answer is lost on the way back. -/
namespace TgwRedisConnection
open ByteStrings TgwClock TgwConfig TgwExceptions TgwHttp TgwRateLimitFilter TgwRedisServer
variable {Redis : Type}

inductive Fate where
  | answered
  | unanswered (what : Bytes)
  | lost (what : Bytes)
  deriving DecidableEq

def Fate.reaches : Fate → Bool
  | .lost _ => false
  | _ => true

structure Operation where
  delay : Nat := 0
  fate : Fate := .answered
  deriving DecidableEq

/-- The connection with what is to happen on it: connecting first, then one command at a time. -/
structure Connection (Redis : Type) where
  server : Redis
  time : Nat
  script : List Operation
  done : Nat := 0

def Connection.next (c : Connection Redis) : Operation := c.script.getD c.done {}

def Connection.after (c : Connection Redis) : Connection Redis :=
  { c with time := c.time + c.next.delay, done := c.done + 1 }

def connection (link : Nat → RedisLink Redis) : RedisLink (Connection Redis) where
  connect c :=
    match c.next.fate with
    | .answered => (.ok (), c.after)
    | .unanswered what => (.error (.runtimeError what), c.after)
    | .lost what => (.error (.runtimeError what), c.after)
  executeInteger args c :=
    let ran := (link c.after.time).executeInteger args c.server
    match c.next.fate with
    | .answered => (ran.1, { c.after with server := ran.2 })
    | .unanswered what => (.error (.runtimeError what), { c.after with server := ran.2 })
    | .lost what => (.error (.runtimeError what), c.after)

/-- A call of CheckRedis with the clock it finds and the fate of its connection. -/
structure TimedCheck where
  request : HttpRequest := {}
  key : Bytes
  limit : Int := 1
  steady : SteadyClock
  pause : Nat := 0
  script : List Operation := []

structure RedisState (Redis : Type) where
  server : Redis
  time : Nat := 0

def noKeys : RedisState RedisServer := { server := ∅ }

def TimedCheck.seconds (check : TimedCheck) : Int := nowUnixSeconds check.steady.now

def TimedCheck.redisKey (config : RateLimitConfig) (check : TimedCheck) : Bytes :=
  TgwRateLimitFilter.redisKey config check.key (windowOf config) check.seconds

/-- Connecting is operation 0, then come INCR, EXPIRE for a new key, and TTL. -/
def TimedCheck.operation (check : TimedCheck) (index : Nat) : Operation :=
  check.script.getD index {}

def TimedCheck.Undisturbed (check : TimedCheck) : Prop :=
  ∀ index, (check.operation index).fate = .answered

def TimedCheck.countTime (state : RedisState Redis) (check : TimedCheck) : Nat :=
  state.time + check.pause + (check.operation 0).delay + (check.operation 1).delay

def TimedCheck.expireTime (state : RedisState Redis) (check : TimedCheck) : Nat :=
  check.countTime state + (check.operation 2).delay

section model
variable (link : Nat → RedisLink Redis) (config : RateLimitConfig) (state : RedisState Redis)
  (check : TimedCheck)

def runCheck : Except CppException RateLimitDecision × RedisState Redis :=
  let ran := checkRedis (connection link) config check.request (windowOf config) check.limit
    check.key
    { steady := check.steady
      system := stopped 0
      deadline := none
      state := { redis := ⟨state.server, state.time + check.pause, check.script, 0⟩ } }
  (ran.1, ⟨ran.2.state.redis.server, ran.2.state.redis.time⟩)

/-- What the server makes of INCR when it reaches it. -/
def counting : Except CppException Int × Redis :=
  (link (check.countTime state)).executeInteger (incrCommand (check.redisKey config)) state.server

/-- What it makes of an EXPIRE behind that. -/
def expiring : Except CppException Int × Redis :=
  (link (check.expireTime state)).executeInteger
    (expireCommand (check.redisKey config) (windowOf config)) (counting link config state check).2

/-- The server as INCR finds it has no live entry of the key. -/
def Creates : Prop := (counting link config state check).1 = .ok 1

/-- The key is created and the connection fails before the server has run EXPIRE. -/
structure Interrupted : Prop where
  connected : (check.operation 0).fate = .answered
  counted : (check.operation 1).fate.reaches = true
  created : Creates link config state check
  unexpired : (check.operation 1).fate ≠ .answered ∨ (check.operation 2).fate.reaches = false

/-- What one check does to the server, and when it completes. -/
inductive CheckCase (out : Except CppException RateLimitDecision × RedisState Redis) : Prop where
  | uncounted (e : CppException) (failed : out.1 = .error e)
      (kept : out.2.server = state.server) (time : state.time ≤ out.2.time)
      (whole : ¬ Interrupted link config state check)
  | counted (old : ¬ Creates link config state check)
      (changed : out.2.server = (counting link config state check).2)
      (time : check.countTime state ≤ out.2.time)
  | interrupted (cut : Interrupted link config state check) (e : CppException)
      (failed : out.1 = .error e) (changed : out.2.server = (counting link config state check).2)
      (time : check.countTime state ≤ out.2.time)
  | created (new : Creates link config state check)
      (whole : ¬ Interrupted link config state check)
      (changed : out.2.server = (expiring link config state check).2)
      (time : check.expireTime state ≤ out.2.time)

def commands : Except CppException (Int × Int) × Connection Redis :=
  countRequest (connection link) (check.redisKey config) (windowOf config)
    ⟨state.server, state.time + check.pause, check.script, 0⟩

end model

section cases
variable {link : Nat → RedisLink Redis} {entry : Redis → Bytes → Nat → Option RedisEntry}
  (laws : EntryLaws link entry) {config : RateLimitConfig} (narrow : windowOf config < 2 ^ 31)
  (state : RedisState Redis) (check : TimedCheck)

theorem runCheck_eq : runCheck link config state check =
    ((commands link config state check).1.map fun answers =>
        redisDecision (check.redisKey config) check.request.requestId (windowOf config) check.limit
          answers.1 answers.2,
      ⟨(commands link config state check).2.server, (commands link config state check).2.time⟩) := by
  have key : TgwRateLimitFilter.redisKey config check.key (windowOf config)
      (nowUnixSeconds check.steady.now) = check.redisKey config := rfl
  simp only [runCheck, checkRedis, Env.now, key]
  rw [← commands]
  cases (commands link config state check).1 <;> rfl

theorem next_operation (server : Redis) (time index : Nat) :
    Connection.next ⟨server, time, check.script, index⟩ = check.operation index := rfl

section operations
variable {check} (server : Redis) (time : Nat) {index : Nat} {what : Bytes} (args : List Bytes)

theorem connect_answered (fate : (check.operation index).fate = .answered) :
    (connection link).connect ⟨server, time, check.script, index⟩ =
      (.ok (), ⟨server, time + (check.operation index).delay, check.script, index + 1⟩) := by
  simp [connection, next_operation, fate, Connection.after]

theorem connect_failed (fate : (check.operation index).fate ≠ .answered) :
    ∃ what, (connection link).connect ⟨server, time, check.script, index⟩ =
      (.error (.runtimeError what),
        ⟨server, time + (check.operation index).delay, check.script, index + 1⟩) := by
  cases failed : (check.operation index).fate with
  | answered => exact absurd failed fate
  | unanswered what => exact ⟨what, by simp [connection, next_operation, failed, Connection.after]⟩
  | lost what => exact ⟨what, by simp [connection, next_operation, failed, Connection.after]⟩

theorem execute_answered (fate : (check.operation index).fate = .answered) :
    (connection link).executeInteger args ⟨server, time, check.script, index⟩ =
      (((link (time + (check.operation index).delay)).executeInteger args server).1,
        ⟨((link (time + (check.operation index).delay)).executeInteger args server).2,
          time + (check.operation index).delay, check.script, index + 1⟩) := by
  simp [connection, next_operation, fate, Connection.after]

theorem execute_unanswered (fate : (check.operation index).fate = .unanswered what) :
    (connection link).executeInteger args ⟨server, time, check.script, index⟩ =
      (.error (.runtimeError what),
        ⟨((link (time + (check.operation index).delay)).executeInteger args server).2,
          time + (check.operation index).delay, check.script, index + 1⟩) := by
  simp [connection, next_operation, fate, Connection.after]

theorem execute_lost (fate : (check.operation index).fate = .lost what) :
    (connection link).executeInteger args ⟨server, time, check.script, index⟩ =
      (.error (.runtimeError what),
        ⟨server, time + (check.operation index).delay, check.script, index + 1⟩) := by
  simp [connection, next_operation, fate, Connection.after]

include laws in
theorem execute_ttl (key : Bytes) :
    ∃ outcome, (connection link).executeInteger (ttlCommand key)
        ⟨server, time, check.script, index⟩ =
      (outcome, ⟨server, time + (check.operation index).delay, check.script, index + 1⟩) := by
  obtain ⟨n, asked⟩ := laws.ttl_reads (time + (check.operation index).delay) server key
  cases fate : (check.operation index).fate with
  | answered => exact ⟨_, by rw [execute_answered _ _ _ fate, asked]⟩
  | unanswered what => exact ⟨_, by rw [execute_unanswered _ _ _ fate, asked]⟩
  | lost what => exact ⟨_, execute_lost _ _ _ fate⟩

end operations

include laws in
theorem counting_answer : ∃ n, (counting link config state check).1 = .ok n :=
  ⟨_, laws.incr_answer _ _ _⟩

include laws narrow in
theorem expiring_answer : ∃ n, (expiring link config state check).1 = .ok n :=
  laws.expire_answer _ _ _ _ (windowOf_pos config) narrow

section counted
variable {state check} (connected : (check.operation 0).fate = .answered)
include connected

theorem unanswered_count {what : Bytes} (counted : (check.operation 1).fate = .unanswered what) :
    (commands link config state check).1 = .error (.runtimeError what) ∧
      (commands link config state check).2.server = (counting link config state check).2 ∧
      (commands link config state check).2.time = check.countTime state := by
  simp [commands, countRequest, connect_answered _ _ connected, execute_unanswered _ _ _ counted,
    counting, TimedCheck.countTime]

variable (counted : (check.operation 1).fate = .answered)
include counted

include laws in
theorem old_count (old : ¬ Creates link config state check) :
    (commands link config state check).2.server = (counting link config state check).2 ∧
      check.countTime state ≤ (commands link config state check).2.time := by
  obtain ⟨n, answer⟩ : ∃ n, (counting link config state check).1 = .ok n :=
    counting_answer laws state check
  have other : n ≠ 1 := fun one => old (answer.trans (congrArg _ one))
  obtain ⟨outcome, asked⟩ := @execute_ttl _ link entry laws check
    (counting link config state check).2 (check.countTime state) 2 (check.redisKey config)
  simp only [counting, TimedCheck.countTime] at answer asked
  cases outcome <;>
    simp [commands, countRequest, connect_answered _ _ connected, execute_answered _ _ _ counted,
      answer, other, asked, counting, TimedCheck.countTime]

variable (new : Creates link config state check)
include new

theorem lost_expiry {what : Bytes} (expired : (check.operation 2).fate = .lost what) :
    (commands link config state check).1 = .error (.runtimeError what) ∧
      (commands link config state check).2.server = (counting link config state check).2 ∧
      check.countTime state ≤ (commands link config state check).2.time := by
  have one := new
  simp only [Creates, counting, TimedCheck.countTime] at one
  simp [commands, countRequest, connect_answered _ _ connected, execute_answered _ _ _ counted,
    one, execute_lost _ _ _ expired, counting, TimedCheck.countTime]

include laws narrow in
theorem run_expiry (expired : (check.operation 2).fate.reaches = true) :
    (commands link config state check).2.server = (expiring link config state check).2 ∧
      check.expireTime state ≤ (commands link config state check).2.time := by
  have one := new
  obtain ⟨n, expires⟩ := expiring_answer laws narrow state check
  obtain ⟨outcome, asked⟩ := @execute_ttl _ link entry laws check
    (expiring link config state check).2 (check.expireTime state) 3 (check.redisKey config)
  simp only [Creates, expiring, counting, TimedCheck.expireTime, TimedCheck.countTime]
    at one expires asked
  cases fate : (check.operation 2).fate with
  | lost what =>
    rw [fate] at expired
    cases expired
  | unanswered what =>
    simp [commands, countRequest, connect_answered _ _ connected, execute_answered _ _ _ counted,
      one, execute_unanswered _ _ _ fate, expiring, counting, TimedCheck.countTime,
      TimedCheck.expireTime]
  | answered =>
    cases outcome <;>
      simp [commands, countRequest, connect_answered _ _ connected, execute_answered _ _ _ counted,
        one, execute_answered _ _ _ fate, expires, asked, expiring, counting,
        TimedCheck.countTime, TimedCheck.expireTime]

end counted

include laws narrow

theorem runCheck_cases : CheckCase link config state check (runCheck link config state check) := by
  rw [runCheck_eq]
  by_cases connected : (check.operation 0).fate = .answered
  · cases counted : (check.operation 1).fate with
    | lost what =>
      refine .uncounted (.runtimeError what) ?_ ?_ ?_ fun cut => ?_
      · simp [commands, countRequest, connect_answered _ _ connected, execute_lost _ _ _ counted,
          Except.map]
      · simp [commands, countRequest, connect_answered _ _ connected, execute_lost _ _ _ counted]
      · simp only [commands, countRequest, connect_answered _ _ connected,
          execute_lost _ _ _ counted]
        omega
      · have reached := cut.counted
        rw [counted] at reached
        cases reached
    | unanswered what =>
      obtain ⟨failed, changed, time⟩ := @unanswered_count _ link config _ _ connected _ counted
      by_cases new : Creates link config state check
      · exact .interrupted ⟨connected, by rw [counted]; rfl, new, Or.inl (by simp [counted])⟩
          (.runtimeError what) (by simp [failed, Except.map]) changed time.ge
      · exact .counted new changed time.ge
    | answered =>
      have reached : (check.operation 1).fate.reaches = true := by
        rw [counted]
        rfl
      by_cases new : Creates link config state check
      · cases expired : (check.operation 2).fate.reaches with
        | false =>
          have lost : ∃ what, (check.operation 2).fate = .lost what := by
            cases fate : (check.operation 2).fate with
            | lost what => exact ⟨what, rfl⟩
            | answered => simp [fate, Fate.reaches] at expired
            | unanswered what => simp [fate, Fate.reaches] at expired
          obtain ⟨what, fate⟩ := lost
          obtain ⟨failed, changed, time⟩ := lost_expiry connected counted new fate
          exact .interrupted ⟨connected, reached, new, Or.inr expired⟩ (.runtimeError what)
            (by simp [failed, Except.map]) changed time
        | true =>
          obtain ⟨changed, time⟩ := run_expiry laws narrow connected counted new expired
          refine .created new ?_ changed time
          rintro ⟨_, _, _, failed | unset⟩
          · exact failed counted
          · rw [expired] at unset
            cases unset
      · obtain ⟨changed, time⟩ := old_count laws connected counted new
        exact .counted new changed time
  · obtain ⟨what, failed⟩ := @connect_failed _ link check state.server (state.time + check.pause) 0
      connected
    refine .uncounted (.runtimeError what) ?_ ?_ ?_ fun cut => connected cut.connected
    · simp [commands, countRequest, failed, Except.map]
    · simp [commands, countRequest, failed]
    · simp only [commands, countRequest, failed]
      omega

section undisturbed
variable {state check} (whole : check.Undisturbed)
include whole

theorem undisturbed_created (new : Creates link config state check) :
    ∃ ttl, (runCheck link config state check).1 = .ok (redisDecision (check.redisKey config)
        check.request.requestId (windowOf config) check.limit 1 ttl) ∧
      (runCheck link config state check).2.server = (expiring link config state check).2 ∧
      check.expireTime state ≤ (runCheck link config state check).2.time := by
  have one := new
  have expired : (check.operation 2).fate.reaches = true := by
    rw [whole 2]
    rfl
  obtain ⟨changed, time⟩ := run_expiry laws narrow (whole 0) (whole 1) new expired
  obtain ⟨n, expires⟩ := expiring_answer laws narrow state check
  obtain ⟨ttl, asked⟩ := laws.ttl_reads (check.expireTime state + (check.operation 3).delay)
    (expiring link config state check).2 (check.redisKey config)
  rw [runCheck_eq]
  simp only [changed, time, and_true]
  simp only [Creates, expiring, counting, TimedCheck.expireTime, TimedCheck.countTime]
    at one expires asked
  simp [commands, countRequest, connect_answered _ _ (whole 0), execute_answered _ _ _ (whole 1),
    execute_answered _ _ _ (whole 2), execute_answered _ _ _ (whole 3), one, expires, asked,
    Except.map]

omit narrow in
theorem undisturbed_counted {n : Int} (answer : (counting link config state check).1 = .ok n)
    (old : n ≠ 1) :
    ∃ ttl, (runCheck link config state check).1 = .ok (redisDecision (check.redisKey config)
        check.request.requestId (windowOf config) check.limit n ttl) ∧
      (runCheck link config state check).2.server = (counting link config state check).2 ∧
      check.countTime state ≤ (runCheck link config state check).2.time := by
  have other : ¬ Creates link config state check := by
    rw [Creates, answer]
    simpa using old
  obtain ⟨changed, time⟩ := old_count laws (whole 0) (whole 1) other
  obtain ⟨ttl, asked⟩ := laws.ttl_reads (check.countTime state + (check.operation 2).delay)
    (counting link config state check).2 (check.redisKey config)
  rw [runCheck_eq]
  simp only [changed, time, and_true]
  simp only [counting, TimedCheck.countTime] at answer asked
  simp [commands, countRequest, connect_answered _ _ (whole 0), execute_answered _ _ _ (whole 1),
    execute_answered _ _ _ (whole 2), answer, old, asked, Except.map]

end undisturbed

end cases

end TgwRedisConnection
