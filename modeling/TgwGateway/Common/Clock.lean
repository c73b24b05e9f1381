import TgwGateway.Lib.ByteStrings
import Mathlib.Order.Defs.LinearOrder

/- Clocks as the sequences of readings a process obtains from them, and the shared deadline of
   one request. Steady times are nanoseconds; a duration cast truncates towards zero. -/
namespace TgwClock
open ByteStrings

structure SteadyClock where
  reading : Nat → Int
  nondecreasing : ∀ before after, before ≤ after → reading before ≤ reading after
  taken : Nat := 0

def SteadyClock.now (c : SteadyClock) : Int := c.reading c.taken
def SteadyClock.next (c : SteadyClock) : SteadyClock := { c with taken := c.taken + 1 }

def ticking (step : Nat) : SteadyClock where
  reading n := n * step
  nondecreasing := by
    intro a b before
    exact Int.mul_le_mul_of_nonneg_right (by omega) (by omega)

/-- The system clock may be set back, so its readings are in no order. A reading is a 64-bit
   count of nanoseconds. -/
structure SystemClock where
  reading : Nat → Int64
  taken : Nat := 0

def SystemClock.now (c : SystemClock) : Int64 := c.reading c.taken
def SystemClock.next (c : SystemClock) : SystemClock := { c with taken := c.taken + 1 }
def stopped (reading : Int64) : SystemClock := { reading := fun _ => reading }

def nanosPerMilli : Int := 1000000
def nanosPerSecond : Int := 1000000000

structure DeadlineContext where
  start : Int
  deadline : Int
  cancelled : Bool := false
  cancelReason : Bytes := []
  deriving DecidableEq

def startDeadline (timeoutMs now : Int) : DeadlineContext :=
  let timeoutMs := if timeoutMs ≤ 0 then 1 else timeoutMs
  { start := now, deadline := now + timeoutMs * nanosPerMilli }

def DeadlineContext.isExpired (d : DeadlineContext) (now : Int) : Bool := d.deadline ≤ now

def DeadlineContext.cancel (d : DeadlineContext) (reason : Bytes) : DeadlineContext :=
  if d.cancelled then d
  else { d with cancelled := true, cancelReason := if reason = [] then bytes "cancelled" else reason }

def DeadlineContext.elapsedMs (d : DeadlineContext) (now : Int) : Int :=
  (now - d.start).tdiv nanosPerMilli

def DeadlineContext.remainingMs (d : DeadlineContext) (now : Int) : Int :=
  if d.deadline ≤ now then 0 else (d.deadline - now).tdiv nanosPerMilli

/-- What one request shares with the components it passes through: the clocks of the process, the
   DeadlineContext its contexts point to, and the state of the component at hand. -/
structure Env (State : Type) where
  steady : SteadyClock
  system : SystemClock
  deadline : Option DeadlineContext
  state : State

namespace Env
variable {State : Type}

def now (env : Env State) : Int := env.steady.now
def tick (env : Env State) : Env State := { env with steady := env.steady.next }
def tickSystem (env : Env State) : Env State := { env with system := env.system.next }

/-- IsDone reads the clock only when the context is not cancelled. -/
def deadlineExceeded (env : Env State) : Bool × Env State :=
  match env.deadline with
  | none => (false, env)
  | some d => if d.cancelled then (true, env) else (d.isExpired env.now, env.tick)

def cancelDeadline (env : Env State) (reason : Bytes) : Env State :=
  { env with deadline := env.deadline.map fun d => d.cancel reason }

def onPart {Part Result : Type} (part : State → Part) (put : Part → State → State)
    (run : Env Part → Result × Env Part) (env : Env State) : Result × Env State :=
  let ran := run ⟨env.steady, env.system, env.deadline, part env.state⟩
  (ran.1, ⟨ran.2.steady, ran.2.system, ran.2.deadline, put ran.2.state env.state⟩)

@[simp] theorem tick_state (env : Env State) : env.tick.state = env.state := rfl

@[simp] theorem tick_deadline (env : Env State) : env.tick.deadline = env.deadline := rfl

@[simp] theorem tickSystem_state (env : Env State) : env.tickSystem.state = env.state := rfl

@[simp] theorem cancelDeadline_state (env : Env State) (reason : Bytes) :
    (env.cancelDeadline reason).state = env.state := rfl

@[simp] theorem deadlineExceeded_state (env : Env State) :
    env.deadlineExceeded.2.state = env.state := by
  unfold deadlineExceeded
  split
  · rfl
  · split <;> rfl

@[simp] theorem deadlineExceeded_system (env : Env State) :
    env.deadlineExceeded.2.system = env.system := by
  unfold deadlineExceeded
  split
  · rfl
  · split <;> rfl

/-- The next readings of the clock all lie before the deadline, and nothing has cancelled it. -/
def OpenFor (readings : Nat) (env : Env State) : Prop :=
  ∀ d, env.deadline = some d → d.cancelled = false ∧
    ∀ n < readings, d.isExpired (env.steady.reading (env.steady.taken + n)) = false

theorem openFor_tick {readings : Nat} {env : Env State} (isOpen : env.OpenFor (readings + 1)) :
    env.tick.OpenFor readings := by
  intro d own
  obtain ⟨running, early⟩ := isOpen d own
  refine ⟨running, fun n small => ?_⟩
  have next := early (n + 1) (by omega)
  rwa [Nat.add_comm n 1, ← Nat.add_assoc] at next

theorem openFor_deadlineExceeded {readings : Nat} {env : Env State}
    (isOpen : env.OpenFor (readings + 1)) :
    env.deadlineExceeded.1 = false ∧ env.deadlineExceeded.2.OpenFor readings := by
  unfold deadlineExceeded
  cases own : env.deadline with
  | none => exact ⟨rfl, fun d other => by simp [own] at other⟩
  | some d =>
    obtain ⟨running, early⟩ := isOpen d own
    simp only [running]
    exact ⟨early 0 (by omega), openFor_tick isOpen⟩

section deadlines
variable {env : Env State}

theorem openFor_fewer {fewer readings : Nat} (order : fewer ≤ readings)
    (isOpen : env.OpenFor readings) : env.OpenFor fewer := by
  intro d own
  obtain ⟨running, early⟩ := isOpen d own
  exact ⟨running, fun n small => early n (by omega)⟩

theorem openFor_one_iff : env.OpenFor 1 ↔ env.deadlineExceeded.1 = false := by
  refine ⟨fun isOpen => (openFor_deadlineExceeded isOpen).1, fun live d own => ?_⟩
  rw [deadlineExceeded, own] at live
  cases cancelled : d.cancelled with
  | true => simp [cancelled] at live
  | false =>
    simp only [cancelled, Bool.false_eq_true, ↓reduceIte] at live
    refine ⟨rfl, fun n small => ?_⟩
    obtain rfl : n = 0 := by omega
    exact live

/-- The clock does not go back, so a deadline that stands later has stood before. -/
theorem openFor_tick_iff {readings : Nat} :
    env.tick.OpenFor (readings + 1) ↔ env.OpenFor (readings + 2) := by
  refine ⟨fun later d own => ?_, openFor_tick⟩
  obtain ⟨running, early⟩ := later d own
  refine ⟨running, fun n small => ?_⟩
  cases n with
  | zero =>
    have next : d.isExpired (env.steady.reading (env.steady.taken + 1)) = false :=
      early 0 (by omega)
    have order := env.steady.nondecreasing env.steady.taken (env.steady.taken + 1) (by omega)
    simp only [DeadlineContext.isExpired, decide_eq_false_iff_not, Nat.add_zero] at next ⊢
    omega
  | succ n =>
    have next := early n (by omega)
    simp only [tick, SteadyClock.next] at next
    rwa [Nat.add_assoc, Nat.add_comm 1 n] at next

theorem openFor_passed {readings : Nat} (passed : env.deadlineExceeded.1 = false) :
    env.deadlineExceeded.2.OpenFor readings ↔ env.OpenFor (readings + 1) := by
  refine ⟨fun later d own => ?_, fun isOpen => (openFor_deadlineExceeded isOpen).2⟩
  obtain ⟨running, early⟩ := openFor_one_iff.mpr passed d own
  have ticked : env.deadlineExceeded.2 = env.tick := by
    simp [deadlineExceeded, own, running]
  rw [ticked] at later
  refine ⟨running, fun n small => ?_⟩
  cases n with
  | zero => exact early 0 (by omega)
  | succ n =>
    have next : d.isExpired (env.steady.reading (env.steady.taken + 1 + n)) = false :=
      (later d own).2 n (by omega)
    rwa [Nat.add_assoc, Nat.add_comm 1 n] at next

end deadlines

end Env

end TgwClock
