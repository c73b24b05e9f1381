import TgwGateway.Governance.RateLimitFilter

/- The Redis commands of the rate limiter: what is documented of them, and a server that keeps to it.
   Every command is atomic; times are real time in nanoseconds, and a key that has reached its expiry
   is gone. -/
namespace TgwRedisServer
open ByteStrings DecimalText TgwExceptions TgwRateLimitFilter

structure RedisEntry where
  count : Int
  expiresAt : Option Nat := none
  deriving DecidableEq, Repr

def secondNanos : Nat := 1000000000

def isLive (time : Nat) (entry : RedisEntry) : Bool :=
  match entry.expiresAt with
  | none => true
  | some expiresAt => time < expiresAt

def countedEntry (found : Option RedisEntry) : RedisEntry :=
  match found with
  | none => { count := 1 }
  | some entry => { entry with count := entry.count + 1 }

def expiringEntry (seconds : Int) (time : Nat) (entry : RedisEntry) : RedisEntry :=
  { entry with expiresAt := some (time + seconds.toNat * secondNanos) }

section laws
variable {Redis : Type}

/-- What each command answers and what it does to the entries that can be read at its moment. INCR
    leaves an expiry alone; the lifetimes of EXPIRE are those that an int holds. -/
structure EntryLaws (link : Nat → RedisLink Redis)
    (entry : Redis → Bytes → Nat → Option RedisEntry) : Prop where
  incr_answer : ∀ time redis key,
    ((link time).executeInteger (incrCommand key) redis).1 =
      .ok (countedEntry (entry redis key time)).count
  incr_entry : ∀ time redis key other,
    entry ((link time).executeInteger (incrCommand key) redis).2 other time =
      if key = other then some (countedEntry (entry redis key time)) else entry redis other time
  expire_answer : ∀ time redis key seconds, 0 < seconds → seconds < 2 ^ 31 → ∃ n,
    ((link time).executeInteger (expireCommand key seconds) redis).1 = .ok n
  expire_entry : ∀ time redis key seconds other, 0 < seconds → seconds < 2 ^ 31 →
    entry ((link time).executeInteger (expireCommand key seconds) redis).2 other time =
      if key = other then (entry redis key time).map (expiringEntry seconds time)
      else entry redis other time
  ttl_reads : ∀ time redis key, ∃ n,
    (link time).executeInteger (ttlCommand key) redis = (.ok n, redis)
  later : ∀ time time' redis key, time ≤ time' →
    entry redis key time' = (entry redis key time).filter (isLive time')

/-- What each command does to the counters that can be read at its moment. A command that fails may
    have been executed, with only its answer lost. -/
structure RedisLaws (link : Nat → RedisLink Redis) (value : Redis → Bytes → Nat → Option Int) :
    Prop where
  connect_kept : ∀ time redis key, value ((link time).connect redis).2 key time = value redis key time
  incr_answer : ∀ time redis key n, ((link time).executeInteger (incrCommand key) redis).1 = .ok n →
    n = (value redis key time).getD 0 + 1 ∧
      value ((link time).executeInteger (incrCommand key) redis).2 key time = some n
  incr_failed : ∀ time redis key e,
    ((link time).executeInteger (incrCommand key) redis).1 = .error e →
      value ((link time).executeInteger (incrCommand key) redis).2 key time = value redis key time ∨
        value ((link time).executeInteger (incrCommand key) redis).2 key time =
          some ((value redis key time).getD 0 + 1)
  incr_other : ∀ time redis key other, other ≠ key →
    value ((link time).executeInteger (incrCommand key) redis).2 other time = value redis other time
  expire_kept : ∀ time redis key seconds other, 0 < seconds →
    value ((link time).executeInteger (expireCommand key seconds) redis).2 other time =
      value redis other time
  ttl_kept : ∀ time redis key other,
    value ((link time).executeInteger (ttlCommand key) redis).2 other time = value redis other time
  later : ∀ time time' redis key, time ≤ time' →
    value redis key time' = value redis key time ∨ value redis key time' = none

end laws

abbrev RedisServer := ByteMap RedisEntry

def lookup (server : RedisServer) (key : Bytes) (time : Nat) : Option RedisEntry :=
  server[key]?.filter (isLive time)

def incr (key : Bytes) (time : Nat) (server : RedisServer) : Int × RedisServer :=
  match lookup server key time with
  | none => (1, server.insert key { count := 1 })
  | some entry => (entry.count + 1, server.insert key { entry with count := entry.count + 1 })

def expire (key : Bytes) (seconds time : Nat) (server : RedisServer) : Int × RedisServer :=
  match lookup server key time with
  | none => (0, server)
  | some entry =>
    (1, server.insert key { entry with expiresAt := some (time + seconds * secondNanos) })

/-- The answer is rounded to the nearest second. -/
def ttl (key : Bytes) (time : Nat) (server : RedisServer) : Int :=
  match lookup server key time with
  | none => -2
  | some entry =>
    match entry.expiresAt with
    | none => -1
    | some expiresAt => ((expiresAt - time + secondNanos / 2) / secondNanos : Nat)

/-- The server as the rate limiter talks to it, all of one check at one moment. -/
def serverLink (time : Nat) : RedisLink RedisServer where
  connect server := (.ok (), server)
  executeInteger args server :=
    match args with
    | [command, key] =>
      if command = bytes "INCR" then
        let counted := incr key time server
        (.ok counted.1, counted.2)
      else if command = bytes "TTL" then (.ok (ttl key time server), server)
      else (.error (.runtimeError (bytes "redis error: ERR unknown command")), server)
    | [command, key, seconds] =>
      match stoll seconds with
      | .ok n =>
        if command = bytes "EXPIRE" then
          let set := expire key n.toNat time server
          (.ok set.1, set.2)
        else (.error (.runtimeError (bytes "redis error: ERR unknown command")), server)
      | .error _ =>
        (.error (.runtimeError (bytes "redis error: ERR value is not an integer or out of range")),
          server)
    | _ => (.error (.runtimeError (bytes "redis error: ERR wrong number of arguments")), server)

theorem serverLink_incr (time : Nat) (key : Bytes) (server : RedisServer) :
    (serverLink time).executeInteger (incrCommand key) server =
      (.ok (incr key time server).1, (incr key time server).2) := by
  simp [serverLink, incrCommand]

theorem serverLink_expire (time : Nat) (key : Bytes) (server : RedisServer) {seconds : Int}
    (low : -2 ^ 63 ≤ seconds) (high : seconds < 2 ^ 63) :
    (serverLink time).executeInteger (expireCommand key seconds) server =
      (.ok (expire key seconds.toNat time server).1, (expire key seconds.toNat time server).2) := by
  simp [serverLink, expireCommand, stoll_intText low high]

theorem serverLink_ttl (time : Nat) (key : Bytes) (server : RedisServer) :
    (serverLink time).executeInteger (ttlCommand key) server =
      (.ok (ttl key time server), server) := by
  have other : bytes "TTL" ≠ bytes "INCR" := by decide
  simp [serverLink, ttlCommand, other]

def counter (server : RedisServer) (key : Bytes) (time : Nat) : Option Int :=
  (lookup server key time).map RedisEntry.count

theorem lookup_insert (server : RedisServer) (key other : Bytes) (entry : RedisEntry) (time : Nat) :
    lookup (server.insert key entry) other time =
      if key = other then if isLive time entry then some entry else none
      else lookup server other time := by
  rw [lookup, Std.ExtTreeMap.getElem?_insert]
  by_cases same : key = other
  · cases live : isLive time entry <;> simp [same, Option.filter, live]
  · simp [lookup, same]

theorem lookup_live {server : RedisServer} {key : Bytes} {time : Nat} {entry : RedisEntry}
    (found : lookup server key time = some entry) : isLive time entry = true :=
  (Option.filter_eq_some_iff.mp found).2

theorem isLive_earlier {time time' : Nat} (order : time ≤ time') {entry : RedisEntry}
    (live : isLive time' entry = true) : isLive time entry = true := by
  unfold isLive at live ⊢
  cases expiry : entry.expiresAt with
  | none => rfl
  | some expiresAt =>
    simp only [expiry, decide_eq_true_eq] at live ⊢
    omega

theorem incr_count (server : RedisServer) (key : Bytes) (time : Nat) :
    (incr key time server).1 = (countedEntry (lookup server key time)).count := by
  unfold incr countedEntry
  cases lookup server key time <;> rfl

theorem lookup_incr (server : RedisServer) (key other : Bytes) (time : Nat) :
    lookup (incr key time server).2 other time =
      if key = other then some (countedEntry (lookup server key time))
      else lookup server other time := by
  unfold incr countedEntry
  cases found : lookup server key time with
  | none =>
    have live : isLive time { count := 1 } = true := rfl
    simp only [lookup_insert, live, ↓reduceIte]
  | some entry =>
    have live : isLive time { entry with count := entry.count + 1 } = true := by
      have before := lookup_live found
      unfold isLive at before ⊢
      exact before
    simp only [lookup_insert, live, ↓reduceIte]

theorem lookup_expire (server : RedisServer) (key other : Bytes) {seconds : Int} (time : Nat)
    (positive : 0 < seconds) :
    lookup (expire key seconds.toNat time server).2 other time =
      if key = other then (lookup server key time).map (expiringEntry seconds time)
      else lookup server other time := by
  unfold expire
  cases found : lookup server key time with
  | none =>
    by_cases same : key = other
    · simp [← same, found]
    · simp [same]
  | some entry =>
    have ahead : time < time + seconds.toNat * secondNanos :=
      Nat.lt_add_of_pos_right (Nat.mul_pos (by omega) (by decide))
    have live : isLive time (expiringEntry seconds time entry) = true := by
      simp [isLive, expiringEntry, ahead]
    have set : ({ entry with expiresAt := some (time + seconds.toNat * secondNanos) } : RedisEntry) =
        expiringEntry seconds time entry := rfl
    simp only [set, lookup_insert, live, ↓reduceIte, Option.map_some]

theorem lookup_later (server : RedisServer) (key : Bytes) {time time' : Nat}
    (order : time ≤ time') :
    lookup server key time' = (lookup server key time).filter (isLive time') := by
  unfold lookup
  rw [Option.filter_filter]
  congr 1
  funext entry
  cases alive : isLive time' entry with
  | false => simp
  | true => simp [isLive_earlier order alive]

theorem entryLaws : EntryLaws serverLink lookup where
  incr_answer time server key := by rw [serverLink_incr, incr_count]
  incr_entry time server key other := by rw [serverLink_incr, lookup_incr]
  expire_answer time server key seconds positive narrow :=
    ⟨_, by rw [serverLink_expire time key server (by omega) (by omega)]⟩
  expire_entry time server key seconds other positive narrow := by
    rw [serverLink_expire time key server (by omega) (by omega), lookup_expire _ _ _ _ positive]
  ttl_reads time server key := ⟨_, serverLink_ttl time key server⟩
  later time time' server key order := lookup_later server key order

theorem counter_incr (server : RedisServer) (key other : Bytes) (time : Nat) :
    counter (incr key time server).2 other time =
      if key = other then some ((counter server key time).getD 0 + 1)
      else counter server other time := by
  rw [counter, lookup_incr]
  split
  · unfold counter countedEntry
    cases lookup server key time <;> rfl
  · rfl

theorem counter_expire (server : RedisServer) (key other : Bytes) {seconds : Int} (time : Nat)
    (positive : 0 < seconds) :
    counter (expire key seconds.toNat time server).2 other time = counter server other time := by
  rw [counter, lookup_expire server key other time positive]
  split
  · rename_i same
    rw [← same, Option.map_map]
    rfl
  · rfl

theorem incr_counter (server : RedisServer) (key : Bytes) (time : Nat) :
    (incr key time server).1 = (counter server key time).getD 0 + 1 := by
  unfold incr counter
  cases lookup server key time <;> rfl

theorem serverLaws : RedisLaws serverLink counter where
  connect_kept _ _ _ := rfl
  incr_answer time server key n answered := by
    rw [serverLink_incr] at answered ⊢
    have answer := incr_counter server key time
    obtain rfl : (incr key time server).1 = n := by simpa using answered
    exact ⟨answer, by simp [counter_incr, answer]⟩
  incr_failed time server key e failed := by simp [serverLink_incr] at failed
  incr_other time server key other differ := by
    rw [serverLink_incr]
    simp [counter_incr, differ.symm]
  expire_kept time server key seconds other positive := by
    by_cases narrow : seconds < 2 ^ 63
    · rw [serverLink_expire time key server (by omega) narrow]
      exact counter_expire server key other time positive
    · have reads := leadingInteger_intText seconds [] (by simp)
      rw [List.append_nil] at reads
      have large : ∃ e, stoll (intText seconds) = .error e := by
        simp only [stoll, convertInteger, reads]
        rw [if_neg (by omega)]
        exact ⟨_, rfl⟩
      obtain ⟨e, large⟩ := large
      simp [serverLink, expireCommand, large]
  ttl_kept time server key other := by rw [serverLink_ttl]
  later time time' server key order := by
    rw [counter, counter, lookup_later server key order]
    cases lookup server key time with
    | none => exact .inl rfl
    | some entry => by_cases alive : isLive time' entry = true <;> simp [Option.filter, alive]

end TgwRedisServer
