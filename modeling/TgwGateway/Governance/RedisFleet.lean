import TgwGateway.Governance.RedisServer
import Mathlib.Data.List.Induction
import Mathlib.Data.Int.Interval

/- Gateway processes that count the requests of one client on one route in one Redis. Each reads
   a steady clock that runs at the real rate from an origin of its own; the commands of their
   checks interleave in any way, and any of them may fail. -/
namespace TgwRedisFleet
open ByteStrings DecimalText TgwClock TgwConfig TgwExceptions TgwHttp TgwRouteRule
open TgwRateLimitFilter TgwRedisServer
variable {Process Redis : Type}

structure Fleet (Process : Type) where
  config : RateLimitConfig
  request : HttpRequest
  matched : RouteMatchResult
  origin : Process → Nat

/-- What a call does next: connect, count, set the expiry, or ask for it; or how it has ended. -/
inductive CallPhase where
  | started
  | connected
  | expiring (count : Int)
  | asking (count : Int)
  | decided (count : Int) (decision : RateLimitDecision)
  | thrown (e : CppException)

structure Call (Process : Type) where
  process : Process
  readAt : Nat
  redisKey : Bytes
  phase : CallPhase := .started

structure FleetState (Process Redis : Type) where
  time : Nat := 0
  redis : Redis
  calls : List (Call Process) := []

inductive FleetAction (Process : Type) where
  | wait (nanos : Nat)
  | start (process : Process)
  | proceed (call : Nat)

def Fleet.window (fleet : Fleet Process) : Int := windowOf fleet.config
def Fleet.limit (fleet : Fleet Process) : Int := limitOf fleet.config fleet.matched

def Fleet.reading (fleet : Fleet Process) (process : Process) (time : Nat) : Int :=
  ((time + fleet.origin process : Nat) : Int)

def Fleet.windowIndex (fleet : Fleet Process) (process : Process) (time : Nat) : Int :=
  (nowUnixSeconds (fleet.reading process time)).tdiv fleet.window

def Fleet.keyAt (fleet : Fleet Process) (process : Process) (time : Nat) : Bytes :=
  redisKey fleet.config (buildKey fleet.request fleet.matched) fleet.window
    (nowUnixSeconds (fleet.reading process time))

def Fleet.keyOf (fleet : Fleet Process) (k : Int) : Bytes :=
  fleet.config.redis.keyPrefix ++ bytes ":" ++ buildKey fleet.request fleet.matched ++ bytes ":" ++
    intText k

section steps
variable (link : Nat → RedisLink Redis) (fleet : Fleet Process)

def proceedCall (time : Nat) (redis : Redis) (call : Call Process) : Call Process × Redis :=
  match call.phase with
  | .started =>
    let opened := (link time).connect redis
    match opened.1 with
    | .error e => ({ call with phase := .thrown e }, opened.2)
    | .ok () => ({ call with phase := .connected }, opened.2)
  | .connected =>
    let counted := (link time).executeInteger (incrCommand call.redisKey) redis
    match counted.1 with
    | .error e => ({ call with phase := .thrown e }, counted.2)
    | .ok count =>
      if count = 1 then ({ call with phase := .expiring count }, counted.2)
      else ({ call with phase := .asking count }, counted.2)
  | .expiring count =>
    let expired := (link time).executeInteger (expireCommand call.redisKey fleet.window) redis
    match expired.1 with
    | .error e => ({ call with phase := .thrown e }, expired.2)
    | .ok _ => ({ call with phase := .asking count }, expired.2)
  | .asking count =>
    let asked := (link time).executeInteger (ttlCommand call.redisKey) redis
    match asked.1 with
    | .error e => ({ call with phase := .thrown e }, asked.2)
    | .ok ttl =>
      ({ call with
         phase := .decided count (redisDecision call.redisKey fleet.request.requestId fleet.window
           fleet.limit count ttl) }, asked.2)
  | .decided _ _ => (call, redis)
  | .thrown _ => (call, redis)

def step (s : FleetState Process Redis) : FleetAction Process → FleetState Process Redis
  | .wait nanos => { s with time := s.time + nanos }
  | .start process =>
    { s with calls := s.calls ++ [⟨process, s.time, fleet.keyAt process s.time, .started⟩] }
  | .proceed i =>
    match s.calls[i]? with
    | none => s
    | some call =>
      let proceeded := proceedCall link fleet s.time s.redis call
      { s with redis := proceeded.2, calls := s.calls.set i proceeded.1 }

def run (s : FleetState Process Redis) (actions : List (FleetAction Process)) :
    FleetState Process Redis :=
  actions.foldl (step link fleet) s

end steps

def Call.number (call : Call Process) : Option Int :=
  match call.phase with
  | .expiring count => some count
  | .asking count => some count
  | .decided count _ => some count
  | _ => none

/-- An allowed call, made in window k of the process. -/
def allowedIn (fleet : Fleet Process) (process : Process) (k : Int) (call : Call Process) : Bool :=
  match call.phase with
  | .decided _ decision => decision.allowed && fleet.windowIndex process call.readAt == k
  | _ => false

structure SharedWindow (fleet : Fleet Process) (s : FleetState Process Redis) : Prop where
  same_key : ∀ time p q, fleet.keyAt p time = fleet.keyAt q time
  bounded : ∀ p k, (s.calls.countP (allowedIn fleet p k) : Int) ≤ fleet.limit

section punctual
variable (link : Nat → RedisLink Redis) (value : Redis → Bytes → Nat → Option Int)
  (fleet : Fleet Process)

/-- An INCR that finds no counter is the first one on its key: it does not come after the key has
    been counted and has expired. -/
def isPunctual (s : FleetState Process Redis) : FleetAction Process → Bool
  | .proceed i =>
    match s.calls[i]? with
    | none => true
    | some call =>
      match call.phase, value s.redis call.redisKey s.time with
      | .connected, none =>
        s.calls.all fun other => other.redisKey != call.redisKey || other.number.isNone
      | _, _ => true
  | _ => true

def Punctual (s : FleetState Process Redis) : List (FleetAction Process) → Bool
  | [] => true
  | action :: later => isPunctual value s action && Punctual (step link fleet s action) later

end punctual

def finishCall (link : Nat → RedisLink Redis) (fleet : Fleet Process) (time : Nat) (redis : Redis)
    (call : Call Process) : Call Process × Redis :=
  let opened := proceedCall link fleet time redis call
  let counted := proceedCall link fleet time opened.2 opened.1
  let expired := proceedCall link fleet time counted.2 counted.1
  proceedCall link fleet time expired.2 expired.1

def CallPhase.outcome : CallPhase → Option (Except CppException RateLimitDecision)
  | .decided _ decision => some (.ok decision)
  | .thrown e => some (.error e)
  | _ => none

/-- A call that nothing interrupts is one CheckRedis of its process. -/
theorem finishCall_eq_checkRedis (link : Nat → RedisLink Redis) (fleet : Fleet Process)
    (process : Process) (time : Nat) (env : RateLimitEnv Redis)
    (clock : env.now = fleet.reading process time) :
    let finished := finishCall link fleet time env.state.redis
      ⟨process, time, fleet.keyAt process time, .started⟩
    let checked := checkRedis (link time) fleet.config fleet.request fleet.window fleet.limit
      (buildKey fleet.request fleet.matched) env
    finished.2 = checked.2.state.redis ∧ finished.1.phase.outcome = some checked.1 := by
  have key : redisKey fleet.config (buildKey fleet.request fleet.matched) fleet.window
      (nowUnixSeconds env.now) = fleet.keyAt process time := by rw [clock]; rfl
  simp only [checkRedis, key, countRequest, finishCall]
  rcases opened : (link time).connect env.state.redis with ⟨_ | _, first⟩
  · simp [proceedCall, opened, CallPhase.outcome]
  rcases counted : (link time).executeInteger (incrCommand (fleet.keyAt process time)) first with
    ⟨_ | count, second⟩
  · simp [proceedCall, opened, counted, CallPhase.outcome]
  by_cases new : count = 1
  · rcases expired : (link time).executeInteger
        (expireCommand (fleet.keyAt process time) fleet.window) second with ⟨_ | _, third⟩
    · simp [proceedCall, opened, counted, new, expired, CallPhase.outcome]
    · rcases asked : (link time).executeInteger (ttlCommand (fleet.keyAt process time)) third with
        ⟨_ | ttl, fourth⟩ <;>
        simp [proceedCall, opened, counted, new, expired, asked, CallPhase.outcome]
  · rcases asked : (link time).executeInteger (ttlCommand (fleet.keyAt process time)) second with
      ⟨_ | ttl, third⟩ <;>
      simp [proceedCall, opened, counted, new, asked, CallPhase.outcome]

section keys
variable (fleet : Fleet Process)

theorem window_pos : 0 < fleet.window := windowOf_pos fleet.config

def Fleet.windowNanos : Nat := secondNanos * fleet.window.toNat

theorem windowNanos_pos : 0 < fleet.windowNanos := by
  have positive := window_pos fleet
  have seconds : 0 < fleet.window.toNat := by omega
  exact Nat.mul_pos (by decide) seconds

theorem windowIndex_eq (process : Process) (time : Nat) :
    fleet.windowIndex process time =
      ((time + fleet.origin process) / fleet.windowNanos : Nat) := by
  have positive := window_pos fleet
  have whole : fleet.window = (fleet.window.toNat : Int) := by omega
  have seconds : nanosPerSecond = (secondNanos : Int) := rfl
  rw [Fleet.windowIndex, Fleet.reading, nowUnixSeconds, seconds, whole, ← Int.ofNat_tdiv,
    ← Int.ofNat_tdiv, Nat.div_div_eq_div_mul]
  rfl

theorem keyAt_eq (p : Process) (time : Nat) :
    fleet.keyAt p time = fleet.keyOf (fleet.windowIndex p time) := rfl

theorem keyOf_injective : Function.Injective fleet.keyOf := by
  intro k k' same
  exact intText_injective (List.append_cancel_left same)

theorem same_key_iff : (∀ time p q, fleet.keyAt p time = fleet.keyAt q time) ↔
    ∀ p q, fleet.origin p = fleet.origin q := by
  constructor
  · intro same
    have ordered : ∀ p q, fleet.origin q ≤ fleet.origin p := by
      intro p q
      by_contra later
      have positive := windowNanos_pos fleet
      have large : fleet.origin q + 1 ≤ fleet.windowNanos * (fleet.origin q + 1) :=
        Nat.le_mul_of_pos_left _ positive
      have equal : fleet.windowIndex p (fleet.windowNanos * (fleet.origin q + 1) -
          fleet.origin q) = fleet.windowIndex q (fleet.windowNanos * (fleet.origin q + 1) -
          fleet.origin q) := keyOf_injective fleet (same _ p q)
      rw [windowIndex_eq, windowIndex_eq, Int.ofNat_inj] at equal
      have right : fleet.windowNanos * (fleet.origin q + 1) - fleet.origin q + fleet.origin q =
          fleet.windowNanos * (fleet.origin q + 1) := by omega
      rw [right, Nat.mul_div_cancel_left _ positive] at equal
      have left : (fleet.windowNanos * (fleet.origin q + 1) - fleet.origin q + fleet.origin p) /
          fleet.windowNanos < fleet.origin q + 1 := by
        rw [Nat.div_lt_iff_lt_mul positive, Nat.mul_comm (fleet.origin q + 1)]
        omega
      omega
    intro p q
    have := ordered p q
    have := ordered q p
    omega
  · intro same time p q
    rw [keyAt_eq, keyAt_eq, windowIndex_eq, windowIndex_eq, same p q]

end keys

def numberIn (fleet : Fleet Process) (p : Process) (k : Int) (call : Call Process) : Option Int :=
  if fleet.windowIndex p call.readAt = k then call.number else none

structure CallInvariant (fleet : Fleet Process) (call : Call Process) : Prop where
  own_key : call.redisKey = fleet.keyAt call.process call.readAt
  decision : ∀ count decision, call.phase = .decided count decision →
    (decision.allowed = true ↔ count ≤ fleet.limit)

/-- The numbers given out under one key. Its counter, while it is there, has reached them all. -/
structure WindowInvariant (counter : Option Int) (numbers : List Int) : Prop where
  distinct : numbers.Nodup
  positive : ∀ n ∈ numbers, 1 ≤ n
  reached : ∀ c, counter = some c → 0 ≤ c ∧ ∀ n ∈ numbers, n ≤ c

section window
variable {counter counter' : Option Int} {numbers numbers' : List Int}

theorem sublist_invariant (fewer : numbers'.Sublist numbers)
    (before : WindowInvariant counter numbers) : WindowInvariant counter numbers' where
  distinct := before.distinct.sublist fewer
  positive := fun n member => before.positive n (fewer.subset member)
  reached := fun c there =>
    ⟨(before.reached c there).1, fun n member => (before.reached c there).2 n (fewer.subset member)⟩

theorem perm_invariant (perm : numbers.Perm numbers') (before : WindowInvariant counter numbers) :
    WindowInvariant counter numbers' where
  distinct := perm.nodup_iff.mp before.distinct
  positive := fun n member => before.positive n (perm.mem_iff.mpr member)
  reached := fun c there =>
    ⟨(before.reached c there).1, fun n member =>
      (before.reached c there).2 n (perm.mem_iff.mpr member)⟩

theorem kept_invariant (before : WindowInvariant counter numbers)
    (kept : counter' = counter ∨ counter' = none) : WindowInvariant counter' numbers where
  distinct := before.distinct
  positive := before.positive
  reached := fun c there => by
    rcases kept with same | gone
    · exact before.reached c (same ▸ there)
    · rw [gone] at there
      cases there

/-- One more than the counter is a new number, unless the counter had been there before and is
    gone. -/
theorem counted_invariant (before : WindowInvariant counter numbers)
    (first : counter = none → numbers = []) :
    WindowInvariant (some (counter.getD 0 + 1)) ((counter.getD 0 + 1) :: numbers) := by
  cases counter with
  | none =>
    rw [first rfl]
    exact ⟨by simp, by simp, by simp⟩
  | some c =>
    obtain ⟨natural, reached⟩ := before.reached c rfl
    refine ⟨?_, ?_, ?_⟩
    · refine List.nodup_cons.mpr ⟨fun member => ?_, before.distinct⟩
      have := reached _ member
      simp only [Option.getD_some] at this
      omega
    · intro n member
      rcases List.mem_cons.mp member with rfl | old
      · simp only [Option.getD_some]
        omega
      · exact before.positive n old
    · intro c' there
      obtain rfl := Option.some.inj there
      simp only [Option.getD_some]
      refine ⟨by omega, fun n member => ?_⟩
      rcases List.mem_cons.mp member with rfl | old
      · exact Int.le_refl _
      · have := reached n old
        omega

theorem lost_invariant (before : WindowInvariant counter numbers)
    (first : counter = none → numbers = []) :
    WindowInvariant (some (counter.getD 0 + 1)) numbers := by
  obtain ⟨distinct, positive, reached⟩ := counted_invariant before first
  exact ⟨before.distinct, before.positive, fun c there =>
    ⟨(reached c there).1, fun n member => (reached c there).2 n (List.mem_cons_of_mem _ member)⟩⟩

end window

theorem redisDecision_allowed (redisKey requestId : Bytes)
    (windowSeconds limit count ttl : Int) :
    (redisDecision redisKey requestId windowSeconds limit count ttl).allowed = true ↔
      count ≤ limit := by
  by_cases exceeded : limit < count
  · simp [redisDecision, exceeded]
  · simp only [redisDecision, exceeded, ↓reduceIte, true_iff]
    omega

section calls
variable {link : Nat → RedisLink Redis} {value : Redis → Bytes → Nat → Option Int}
  {fleet : Fleet Process}

/-- What the INCR of a call does: its key is one higher or, if it has failed, perhaps not. -/
structure Counts (value : Redis → Bytes → Nat → Option Int) (time : Nat) (redis : Redis)
    (call : Call Process) (out : Call Process × Redis) : Prop where
  connected : call.phase = .connected
  others : ∀ key, key ≠ call.redisKey → value out.2 key time = value redis key time
  own : (out.1.number = none ∧ value out.2 call.redisKey time = value redis call.redisKey time) ∨
    value out.2 call.redisKey time = some ((value redis call.redisKey time).getD 0 + 1) ∧
      (out.1.number = none ∨ out.1.number = some ((value redis call.redisKey time).getD 0 + 1))

theorem proceedCall_cases (laws : RedisLaws link value) (time : Nat) (redis : Redis)
    (call : Call Process) :
    Counts value time redis call (proceedCall link fleet time redis call) ∨
      (∀ key, value (proceedCall link fleet time redis call).2 key time = value redis key time) ∧
      ((proceedCall link fleet time redis call).1.number = call.number ∨
        (proceedCall link fleet time redis call).1.number = none) := by
  have window := window_pos fleet
  unfold proceedCall
  cases phase : call.phase with
  | started =>
    refine Or.inr ⟨fun key => ?_, Or.inr ?_⟩
    · dsimp only
      split <;> exact laws.connect_kept time redis key
    · dsimp only
      split <;> rfl
  | connected =>
    refine Or.inl ?_
    dsimp only
    have others := fun key => laws.incr_other time redis call.redisKey key
    cases counted : ((link time).executeInteger (incrCommand call.redisKey) redis).1 with
    | error e =>
      refine ⟨phase, others, ?_⟩
      rcases laws.incr_failed time redis call.redisKey e counted with same | more
      · exact Or.inl ⟨rfl, same⟩
      · exact Or.inr ⟨more, Or.inl rfl⟩
    | ok count =>
      obtain ⟨rfl, more⟩ := laws.incr_answer time redis call.redisKey count counted
      dsimp only
      split
      · exact ⟨phase, others, Or.inr ⟨more, Or.inr rfl⟩⟩
      · exact ⟨phase, others, Or.inr ⟨more, Or.inr rfl⟩⟩
  | expiring count =>
    refine Or.inr ⟨fun key => ?_, ?_⟩
    · dsimp only
      split <;> exact laws.expire_kept time redis call.redisKey fleet.window key window
    · dsimp only
      split
      · exact Or.inr rfl
      · exact Or.inl (by simp [Call.number, phase])
  | asking count =>
    refine Or.inr ⟨fun key => ?_, ?_⟩
    · dsimp only
      split <;> exact laws.ttl_kept time redis call.redisKey key
    · dsimp only
      split
      · exact Or.inr rfl
      · exact Or.inl (by simp [Call.number, phase])
  | decided count decision => exact Or.inr ⟨fun _ => rfl, Or.inl rfl⟩
  | thrown e => exact Or.inr ⟨fun _ => rfl, Or.inl rfl⟩

theorem proceedCall_kept (time : Nat) (redis : Redis) (call : Call Process) :
    (proceedCall link fleet time redis call).1.process = call.process ∧
      (proceedCall link fleet time redis call).1.readAt = call.readAt ∧
      (proceedCall link fleet time redis call).1.redisKey = call.redisKey := by
  unfold proceedCall
  split
  · dsimp only
    split <;> exact ⟨rfl, rfl, rfl⟩
  · dsimp only
    split
    · exact ⟨rfl, rfl, rfl⟩
    · split <;> exact ⟨rfl, rfl, rfl⟩
  · dsimp only
    split <;> exact ⟨rfl, rfl, rfl⟩
  · dsimp only
    split <;> exact ⟨rfl, rfl, rfl⟩
  · exact ⟨rfl, rfl, rfl⟩
  · exact ⟨rfl, rfl, rfl⟩

theorem proceedCall_decision (time : Nat) (redis : Redis) {call : Call Process}
    (before : CallInvariant fleet call) :
    CallInvariant fleet (proceedCall link fleet time redis call).1 := by
  obtain ⟨process, readAt, key⟩ := @proceedCall_kept _ _ link fleet time redis call
  refine ⟨by rw [key, process, readAt]; exact before.own_key, ?_⟩
  unfold proceedCall
  cases phase : call.phase with
  | started =>
    dsimp only
    split <;> simp
  | connected =>
    dsimp only
    split
    · simp
    · split <;> simp
  | expiring count =>
    dsimp only
    split <;> simp
  | asking count =>
    dsimp only
    split
    · simp
    · intro count' decision same
      simp only [CallPhase.decided.injEq] at same
      obtain ⟨rfl, rfl⟩ := same
      exact redisDecision_allowed _ _ _ _ _ _
  | decided count decision =>
    intro count' decision' same
    exact before.decision count' decision' same
  | thrown e => simp [phase]

variable {p : Process} {k : Int}

theorem proceedCall_window (laws : RedisLaws link value) {time : Nat} {redis : Redis}
    {call : Call Process} (own : call.redisKey = fleet.keyOf (fleet.windowIndex p call.readAt))
    (left right : List Int)
    (first : call.phase = .connected → value redis call.redisKey time = none →
      fleet.windowIndex p call.readAt = k → left ++ right = [])
    (before : WindowInvariant (value redis (fleet.keyOf k) time)
      (left ++ (numberIn fleet p k call).toList ++ right)) :
    let out := proceedCall link fleet time redis call
    WindowInvariant (value out.2 (fleet.keyOf k) time)
      (left ++ (numberIn fleet p k out.1).toList ++ right) := by
  intro out
  have readAt : out.1.readAt = call.readAt := (proceedCall_kept time redis call).2.1
  rcases proceedCall_cases laws time redis call with ⟨connected, others, effect⟩ | ⟨kept, number⟩
  · have blank : call.number = none := by simp [Call.number, connected]
    by_cases inside : fleet.windowIndex p call.readAt = k
    · have key : fleet.keyOf k = call.redisKey := by rw [own, inside]
      have same : numberIn fleet p k out.1 = out.1.number := by rw [numberIn, readAt, if_pos inside]
      have empty : (numberIn fleet p k call).toList = [] := by simp [numberIn, blank]
      rw [empty, List.append_nil, key] at before
      have alone : value redis call.redisKey time = none → left ++ right = [] :=
        fun gone => first connected gone inside
      rw [same, key]
      rcases effect with ⟨none_, unchanged⟩ | ⟨more, none_ | new⟩
      · rw [none_, unchanged]
        simpa using before
      · rw [none_, more]
        simpa using lost_invariant before alone
      · rw [new, more]
        refine perm_invariant ?_ (counted_invariant before alone)
        simpa using (List.perm_middle).symm
    · have outside : numberIn fleet p k out.1 = none := by rw [numberIn, readAt, if_neg inside]
      have elsewhere : fleet.keyOf k ≠ call.redisKey := fun same => by
        rw [own] at same
        exact inside (keyOf_injective fleet same).symm
      have was : numberIn fleet p k call = none := by rw [numberIn, if_neg inside]
      rw [outside, others _ elsewhere]
      rw [was] at before
      exact before
  · rw [kept]
    refine sublist_invariant ?_ before
    refine ((List.Sublist.refl left).append ?_).append (List.Sublist.refl right)
    rw [numberIn, numberIn, readAt]
    split
    · rcases number with same | gone
      · rw [same]
      · rw [gone]
        exact List.nil_sublist _
    · exact List.Sublist.refl _

end calls

theorem filterMap_middle {Item Number : Type} (number : Item → Option Number)
    (left right : List Item) (item : Item) :
    (left ++ item :: right).filterMap number =
      left.filterMap number ++ (number item).toList ++ right.filterMap number := by
  rw [List.filterMap_append, List.filterMap_cons]
  cases number item with
  | none => simp
  | some n => simp

structure FleetInvariant (value : Redis → Bytes → Nat → Option Int) (fleet : Fleet Process)
    (p : Process) (k : Int) (s : FleetState Process Redis) : Prop where
  calls : ∀ call ∈ s.calls, CallInvariant fleet call
  window : WindowInvariant (value s.redis (fleet.keyOf k) s.time)
    (s.calls.filterMap (numberIn fleet p k))

section run
variable {link : Nat → RedisLink Redis} {value : Redis → Bytes → Nat → Option Int}
  (laws : RedisLaws link value) {fleet : Fleet Process}
  (shared : ∀ p q, fleet.origin p = fleet.origin q) {p : Process} {k : Int}

include shared in
theorem own_key_shared {call : Call Process} (invariant : CallInvariant fleet call) :
    call.redisKey = fleet.keyOf (fleet.windowIndex p call.readAt) := by
  rw [invariant.own_key, (same_key_iff fleet).mpr shared call.readAt call.process p]
  rfl

include shared

/-- The numbers of a window are all of calls with its key, so that a punctual INCR that finds no
    counter finds no numbers either. -/
theorem unnumbered {s : FleetState Process Redis} {i : Nat} {call : Call Process}
    (calls : ∀ other ∈ s.calls, CallInvariant fleet other) (found : s.calls[i]? = some call)
    (punctual : isPunctual value s (.proceed i) = true) (connected : call.phase = .connected)
    (gone : value s.redis call.redisKey s.time = none)
    (inside : fleet.windowIndex p call.readAt = k) :
    ∀ other ∈ s.calls, numberIn fleet p k other = none := by
  have key : call.redisKey = fleet.keyOf (fleet.windowIndex p call.readAt) :=
    own_key_shared shared (calls call (List.mem_of_getElem? found))
  simp only [isPunctual, found, connected, gone, List.all_eq_true, Bool.or_eq_true,
    bne_iff_ne, Option.isNone_iff_eq_none] at punctual
  intro other member
  have theirs : other.redisKey = fleet.keyOf (fleet.windowIndex p other.readAt) :=
    own_key_shared shared (calls other member)
  rw [numberIn]
  split
  · rename_i alike
    rcases punctual other member with differ | none_
    · exact absurd (by rw [theirs, alike, key, inside]) differ
    · exact none_
  · rfl

include laws

theorem step_invariant {s : FleetState Process Redis} (action : FleetAction Process)
    (punctual : isPunctual value s action = true) (before : FleetInvariant value fleet p k s) :
    FleetInvariant value fleet p k (step link fleet s action) := by
  obtain ⟨calls, window⟩ := before
  cases action with
  | wait nanos =>
    refine ⟨calls, kept_invariant window ?_⟩
    exact laws.later s.time (s.time + nanos) s.redis (fleet.keyOf k) (Nat.le_add_right _ _)
  | start process =>
    refine ⟨fun call member => ?_, ?_⟩
    · rcases List.mem_append.mp member with old | new
      · exact calls call old
      · obtain rfl := List.mem_singleton.mp new
        exact ⟨rfl, by simp⟩
    · have uncounted : numberIn fleet p k
          ⟨process, s.time, fleet.keyAt process s.time, .started⟩ = none := by
        simp [numberIn, Call.number]
      simpa [step, List.filterMap_append, uncounted] using window
  | proceed i =>
    simp only [step]
    cases found : s.calls[i]? with
    | none => exact ⟨calls, window⟩
    | some call =>
      obtain ⟨inRange, own⟩ := List.getElem?_eq_some_iff.mp found
      obtain ⟨left, right, whole, _, changed⟩ := @List.exists_of_set _ i
        (proceedCall link fleet s.time s.redis call).1 s.calls inRange
      rw [own] at whole
      have invariant : CallInvariant fleet call := calls call (List.mem_of_getElem? found)
      refine ⟨fun other member => ?_, ?_⟩
      · rcases List.mem_or_eq_of_mem_set member with old | rfl
        · exact calls other old
        · exact proceedCall_decision s.time s.redis invariant
      · rw [whole, filterMap_middle] at window
        simp only [changed, filterMap_middle]
        refine proceedCall_window laws (own_key_shared shared invariant) _ _
          (fun connected gone inside => ?_) window
        have blank := unnumbered shared calls found punctual connected gone inside
        rw [← List.filterMap_append, List.filterMap_eq_nil_iff]
        intro other member
        refine blank other ?_
        rw [whole]
        rcases List.mem_append.mp member with earlier | later
        · exact List.mem_append_left _ earlier
        · exact List.mem_append_right _ (List.mem_cons_of_mem _ later)

theorem run_invariant {s : FleetState Process Redis} (actions : List (FleetAction Process))
    (punctual : Punctual link value fleet s actions = true)
    (before : FleetInvariant value fleet p k s) :
    FleetInvariant value fleet p k (run link fleet s actions) := by
  induction actions generalizing s with
  | nil => exact before
  | cons action later ih =>
    simp only [Punctual, Bool.and_eq_true] at punctual
    exact ih punctual.2 (step_invariant laws shared action punctual.1 before)

end run

theorem distinct_numbers_le {numbers : List Int} (distinct : numbers.Nodup)
    (positive : ∀ n ∈ numbers, 1 ≤ n) {limit : Int} (natural : 0 ≤ limit) :
    (numbers.countP (fun n => n ≤ limit) : Int) ≤ limit := by
  have inside : (numbers.filter fun n => n ≤ limit).toFinset ⊆ Finset.Icc 1 limit := by
    intro n member
    have kept := List.mem_filter.mp (List.mem_toFinset.mp member)
    exact Finset.mem_Icc.mpr ⟨positive n kept.1, of_decide_eq_true kept.2⟩
  have size := Finset.card_le_card inside
  rw [List.toFinset_card_of_nodup (distinct.filter _), Int.card_Icc] at size
  rw [List.countP_eq_length_filter]
  omega

theorem limit_pos (fleet : Fleet Process) : 1 ≤ fleet.limit := by
  unfold Fleet.limit limitOf
  omega

theorem allowed_number {fleet : Fleet Process} {p : Process} {k : Int} {call : Call Process}
    (invariant : CallInvariant fleet call) (allowed : allowedIn fleet p k call = true) :
    ∃ n, numberIn fleet p k call = some n ∧ n ≤ fleet.limit := by
  unfold allowedIn at allowed
  split at allowed
  · rename_i count decision phase
    simp only [Bool.and_eq_true, beq_iff_eq] at allowed
    refine ⟨count, ?_, (invariant.decision _ _ phase).mp allowed.1⟩
    simp [numberIn, Call.number, phase, allowed.2]
  · simp at allowed

theorem allowed_le {value : Redis → Bytes → Nat → Option Int} {fleet : Fleet Process} {p : Process}
    {k : Int} {s : FleetState Process Redis} (invariant : FleetInvariant value fleet p k s) :
    (s.calls.countP (allowedIn fleet p k) : Int) ≤ fleet.limit := by
  obtain ⟨calls, window⟩ := invariant
  have positive := limit_pos fleet
  refine Int.le_trans ?_ (@distinct_numbers_le _ window.distinct window.positive fleet.limit
    (by omega))
  rw [List.countP_filterMap]
  refine Int.ofNat_le.mpr (List.countP_mono_left ?_)
  intro call member allowed
  obtain ⟨n, number, low⟩ := allowed_number (calls call member) allowed
  simp [number, low]

/-- Processes with one origin share their windows over every run in which no INCR comes after the
    key of its window has expired; processes with two origins share them over none. -/
theorem shared_window_when {link : Nat → RedisLink Redis}
    {value : Redis → Bytes → Nat → Option Int} (laws : RedisLaws link value)
    (fleet : Fleet Process) (s : FleetState Process Redis) (idle : s.calls = [])
    (natural : ∀ key c, value s.redis key s.time = some c → 0 ≤ c)
    (actions : List (FleetAction Process)) :
    ((∀ p q, fleet.origin p = fleet.origin q) ∧ Punctual link value fleet s actions = true →
        SharedWindow fleet (run link fleet s actions)) ∧
      (SharedWindow fleet (run link fleet s actions) → ∀ p q, fleet.origin p = fleet.origin q) := by
  refine ⟨fun ⟨shared, punctual⟩ => ⟨(same_key_iff fleet).mpr shared, fun p k => ?_⟩,
    fun window => (same_key_iff fleet).mp window.same_key⟩
  have before : FleetInvariant value fleet p k s := by
    refine ⟨by simp [idle], ?_⟩
    rw [idle]
    exact ⟨List.nodup_nil, by simp, fun c there => ⟨natural _ c there, by simp⟩⟩
  exact allowed_le (run_invariant laws shared actions punctual before)

section hosts

def oneMinute : RateLimitConfig :=
  { redis := { enabled := true }, windowSeconds := 60, defaultMaxRequests := 1 }

/-- Two hosts, the second started so much later than the first. -/
def twoHosts (apart : Nat) : Fleet Bool where
  config := oneMinute
  request := { method := bytes "GET", path := bytes "/api/user/profile" }
  matched := {}
  origin second := if second then apart else 0

def oneCallEach : List (FleetAction Bool) :=
  [.start false, .start true, .proceed 0, .proceed 1, .proceed 0, .proceed 0, .proceed 0,
    .proceed 1, .proceed 1, .proceed 1]

/-- The second call has read its clock in the window of the first, and is counted a minute later. -/
def lateCall : List (FleetAction Bool) :=
  [.start false, .start true, .proceed 0, .proceed 0, .proceed 0, .proceed 0,
    .wait (60 * secondNanos), .proceed 1, .proceed 1, .proceed 1, .proceed 1]

def noCalls : FleetState Bool RedisServer := { redis := ∅ }

theorem shared_window_when_one_host :
    let s := run serverLink (twoHosts 0) noCalls oneCallEach
    s.calls.countP (allowedIn (twoHosts 0) false 0) = 1 ∧ SharedWindow (twoHosts 0) s := by
  refine ⟨by decide, ?_⟩
  refine (shared_window_when serverLaws (twoHosts 0) noCalls rfl ?_ oneCallEach).1
    ⟨by decide, by decide⟩
  simp [noCalls, counter, lookup]

/-- Hosts a window apart, each with the first number of its own key; and a call that comes late. -/
theorem one_window_two_allowed :
    (Punctual serverLink counter (twoHosts (60 * secondNanos)) noCalls oneCallEach = true ∧
      (run serverLink (twoHosts (60 * secondNanos)) noCalls oneCallEach).calls.countP
        (allowedIn (twoHosts (60 * secondNanos)) false 0) = 2 ∧
      ¬ SharedWindow (twoHosts (60 * secondNanos))
        (run serverLink (twoHosts (60 * secondNanos)) noCalls oneCallEach)) ∧
    ¬ SharedWindow (twoHosts 0) (run serverLink (twoHosts 0) noCalls lateCall) := by
  have two : (run serverLink (twoHosts (60 * secondNanos)) noCalls oneCallEach).calls.countP
      (allowedIn (twoHosts (60 * secondNanos)) false 0) = 2 := by decide
  have late : (run serverLink (twoHosts 0) noCalls lateCall).calls.countP
      (allowedIn (twoHosts 0) false 0) = 2 := by decide
  refine ⟨⟨by decide, two, fun window => ?_⟩, fun window => ?_⟩
  · have bound := window.bounded false 0
    rw [two] at bound
    exact absurd bound (by decide)
  · have bound := window.bounded false 0
    rw [late] at bound
    exact absurd bound (by decide)

end hosts

end TgwRedisFleet
