import TgwGateway.Common.Clock
import TgwGateway.Lib.WatchedRuns

/- The deadline of a request as an alarm: the computations on its path list their checks of it. -/
namespace TgwWatchedDeadline
open ByteStrings WatchedRuns Watched TgwClock
variable {State Response View : Type}

/-- Somebody may know the deadline to be ended: it is cancelled, or a reading already taken lies
   past it. -/
def Seen (env : Env State) : Prop :=
  ∃ d, env.deadline = some d ∧
    (d.cancelled = true ∨ ∃ n < env.steady.taken, d.isExpired (env.steady.reading n) = true)

theorem seen_tick {env : Env State} (raised : Seen env) : Seen env.tick := by
  obtain ⟨d, own, cancelled | ⟨n, early, expired⟩⟩ := raised
  · exact ⟨d, own, Or.inl cancelled⟩
  · exact ⟨d, own, Or.inr ⟨n, Nat.lt_succ_of_lt early, expired⟩⟩

theorem seen_cancelDeadline {env : Env State} (raised : Seen env) (reason : Bytes) :
    Seen (env.cancelDeadline reason) := by
  obtain ⟨d, own, _⟩ := raised
  refine ⟨d.cancel reason, by simp [Env.cancelDeadline, own], Or.inl ?_⟩
  unfold DeadlineContext.cancel
  split
  · assumption
  · rfl

/-- A deadline that has been seen ended is found ended by every check, since the steady clock does
   not go back. -/
theorem deadlineExceeded_confirms {env : Env State} (raised : Seen env) :
    env.deadlineExceeded.1 = true ∧ Seen env.deadlineExceeded.2 := by
  obtain ⟨d, own, ended⟩ := raised
  cases running : d.cancelled with
  | true => simp only [Env.deadlineExceeded, own, running, ↓reduceIte, true_and]; exact ⟨d, own, ended⟩
  | false =>
    simp only [Env.deadlineExceeded, own, running, Bool.false_eq_true, ↓reduceIte]
    refine ⟨?_, seen_tick ⟨d, own, ended⟩⟩
    obtain ⟨n, early, expired⟩ := ended.resolve_left (by simp [running])
    have order := env.steady.nondecreasing n env.steady.taken (by omega)
    simp only [DeadlineContext.isExpired, decide_eq_true_eq] at expired ⊢
    exact Int.le_trans expired order

theorem deadlineExceeded_raises {env : Env State} (quiet : ¬ Seen env) :
    env.deadlineExceeded.1 = true ↔ Seen env.deadlineExceeded.2 := by
  cases own : env.deadline with
  | none => simpa [Env.deadlineExceeded, own] using quiet
  | some d =>
    have running : d.cancelled = false := by
      by_contra cancelled
      exact quiet ⟨d, own, Or.inl (by simpa using cancelled)⟩
    simp only [Env.deadlineExceeded, own, running, Bool.false_eq_true, ↓reduceIte]
    constructor
    · intro expired
      exact ⟨d, own, Or.inr ⟨env.steady.taken, Nat.lt_succ_self _, expired⟩⟩
    · rintro ⟨same, own', ended⟩
      obtain rfl : d = same := Option.some.inj (own.symm.trans own')
      obtain ⟨n, early, expired⟩ := ended.resolve_left (by simp [running])
      rcases Nat.lt_succ_iff_lt_or_eq.mp early with before | rfl
      · exact absurd ⟨d, own, Or.inr ⟨n, before, expired⟩⟩ quiet
      · exact expired

/-- What is protected is a part of the state, so a check and a clock reading leave it alone. -/
theorem deadline_probes (of : State → View) :
    Probes Seen (fun env : Env State => of env.state) Env.deadlineExceeded where
  confirms _ raised := deadlineExceeded_confirms raised
  raises _ quiet := deadlineExceeded_raises quiet
  keeps env := by simp

def cancel (reason : Bytes) : Watched (Env State) Unit :=
  step fun env => ((), env.cancelDeadline reason)

theorem disciplined_cancel (of : State → View) (reason : Bytes) :
    Disciplined Seen (fun env : Env State => of env.state) (cancel reason) :=
  disciplined_step fun _ => ⟨rfl, fun raised => seen_cancelDeadline raised reason⟩

def onState {Part : Type} (part : State → Part) (put : Part → State → State)
    (m : Watched (Env Part) Response) : Watched (Env State) Response :=
  onPart (fun env => ⟨env.steady, env.system, env.deadline, part env.state⟩)
    (fun inner env => ⟨inner.steady, inner.system, inner.deadline, put inner.state env.state⟩) m

theorem disciplined_onState {Part View PartView : Type} (of : State → View)
    (ofPart : Part → PartView) (part : State → Part) (put : Part → State → State)
    (same : ∀ p q s, ofPart p = ofPart q → of (put p s) = of (put q s))
    (unchanged : ∀ s, of (put (part s) s) = of s) {m : Watched (Env Part) Response}
    (inner : Disciplined Seen (fun env : Env Part => ofPart env.state) m) :
    Disciplined Seen (fun env : Env State => of env.state) (onState part put m) := by
  refine disciplined_onPart ?_ inner
  constructor
  · exact fun _ => Iff.rfl
  · exact fun _ _ => Iff.rfl
  · exact fun p q env agree => same p.state q.state env.state agree
  · exact fun env => unchanged env.state

end TgwWatchedDeadline
