import Mathlib.Tactic.Common

/- Computations over an environment that list the checks they make, and a discipline for an alarm
   that cannot be taken back: once a check has raised it, every later check raises it again and
   what is protected stays as that check found it. -/
namespace WatchedRuns

/-- The result, the environment left behind, and for each check what it observed and the
   environment it left. -/
def Watched (Env Result : Type) := Env → Result × Env × List (Bool × Env)

namespace Watched
variable {Env Part Result Next : Type}

def run (m : Watched Env Result) (env : Env) : Result × Env := ((m env).1, (m env).2.1)

def checks (m : Watched Env Result) (env : Env) : List (Bool × Env) := (m env).2.2

instance : Monad (Watched Env) where
  pure result := fun env => (result, env, [])
  bind m next := fun env =>
    let first := m env
    let second := next first.1 first.2.1
    (second.1, second.2.1, first.2.2 ++ second.2.2)

def step (change : Env → Result × Env) : Watched Env Result :=
  fun env => ((change env).1, (change env).2, [])

def check (probe : Env → Bool × Env) : Watched Env Bool :=
  fun env => ((probe env).1, (probe env).2, [probe env])

def onPart (part : Env → Part) (put : Part → Env → Env) (m : Watched Part Result) :
    Watched Env Result :=
  fun env => ((m (part env)).1, put (m (part env)).2.1 env,
    (m (part env)).2.2.map fun c => (c.1, put c.2 env))

@[simp] theorem run_pure (result : Result) (env : Env) :
    (pure result : Watched Env Result).run env = (result, env) := rfl

@[simp] theorem run_bind (m : Watched Env Result) (next : Result → Watched Env Next) (env : Env) :
    (m >>= next).run env = (next (m.run env).1).run (m.run env).2 := rfl

@[simp] theorem run_step (change : Env → Result × Env) (env : Env) :
    (step change).run env = change env := rfl

@[simp] theorem run_check (probe : Env → Bool × Env) (env : Env) :
    (check probe).run env = probe env := rfl

@[simp] theorem run_onPart (part : Env → Part) (put : Part → Env → Env) (m : Watched Part Result)
    (env : Env) :
    (onPart part put m).run env = ((m.run (part env)).1, put (m.run (part env)).2 env) := rfl

@[simp] theorem checks_pure (result : Result) (env : Env) :
    (pure result : Watched Env Result).checks env = [] := rfl

@[simp] theorem checks_bind (m : Watched Env Result) (next : Result → Watched Env Next)
    (env : Env) :
    (m >>= next).checks env = m.checks env ++ (next (m.run env).1).checks (m.run env).2 := rfl

@[simp] theorem checks_step (change : Env → Result × Env) (env : Env) :
    (step change).checks env = [] := rfl

@[simp] theorem checks_check (probe : Env → Bool × Env) (env : Env) :
    (check probe).checks env = [probe env] := rfl

@[simp] theorem checks_onPart (part : Env → Part) (put : Part → Env → Env)
    (m : Watched Part Result) (env : Env) :
    (onPart part put m).checks env = (m.checks (part env)).map fun c => (c.1, put c.2 env) := rfl

def Alarm (m : Watched Env Result) (env : Env) : Prop := ∃ c ∈ m.checks env, c.1 = true

@[simp] theorem alarm_pure (result : Result) (env : Env) :
    ¬ Alarm (pure result : Watched Env Result) env := by simp [Alarm]

@[simp] theorem alarm_step (change : Env → Result × Env) (env : Env) :
    ¬ Alarm (step change) env := by simp [Alarm]

@[simp] theorem alarm_check (probe : Env → Bool × Env) (env : Env) :
    Alarm (check probe) env ↔ (probe env).1 = true := by simp [Alarm]

theorem alarm_bind (m : Watched Env Result) (next : Result → Watched Env Next) (env : Env) :
    Alarm (m >>= next) env ↔ Alarm m env ∨ Alarm (next (m.run env).1) (m.run env).2 := by
  simp only [Alarm, checks_bind, List.mem_append, or_and_right, exists_or]

end Watched

open Watched
variable {Env Part Result Next View : Type}

section discipline
variable (seen : Env → Prop) (view : Env → View)

/-- The checks from the first alarm on all raise it and find what it found, as does the end. -/
def Settled (checks : List (Bool × Env)) (final : Env) : Prop :=
  ∀ earlier c later, checks = earlier ++ c :: later → c.1 = true →
    (∀ x ∈ later, x.1 = true ∧ view x.2 = view c.2) ∧ view final = view c.2 ∧ seen final

/-- Started under a raised alarm, the computation only confirms it. -/
def Quiet (m : Watched Env Result) : Prop :=
  ∀ env, seen env → seen (m.run env).2 ∧ view (m.run env).2 = view env ∧
    ∀ c ∈ m.checks env, c.1 = true ∧ view c.2 = view env

/-- Started without an alarm, the computation keeps to the first one it raises. -/
def Orderly (m : Watched Env Result) : Prop :=
  ∀ env, ¬ seen env → Settled seen view (m.checks env) (m.run env).2

structure Disciplined (m : Watched Env Result) : Prop where
  quiet : Quiet seen view m
  orderly : Orderly seen view m

/-- A probe reports the alarm exactly when it is raised, or raises it itself. -/
structure Probes (probe : Env → Bool × Env) : Prop where
  confirms : ∀ env, seen env → (probe env).1 = true ∧ seen (probe env).2
  raises : ∀ env, ¬ seen env → ((probe env).1 = true ↔ seen (probe env).2)
  keeps : ∀ env, view (probe env).2 = view env

/-- A step that takes no alarm back and leaves what is protected alone. -/
def Harmless (change : Env → Result × Env) : Prop :=
  ∀ env, view (change env).2 = view env ∧ (seen env → seen (change env).2)
end discipline

section rules
variable {seen : Env → Prop} {view : Env → View}

theorem settled_nil (final : Env) : Settled seen view [] final := by
  intro earlier c later split
  simp at split

theorem settled_all {checks : List (Bool × Env)} {env final : Env} (after : seen final)
    (same : view final = view env)
    (all : ∀ c ∈ checks, c.1 = true ∧ view c.2 = view env) : Settled seen view checks final := by
  intro earlier c later split _
  have found := (all c (by simp [split])).2
  refine ⟨fun x member => ?_, same.trans found.symm, after⟩
  have own := all x (by simp [split, member])
  exact ⟨own.1, own.2.trans found.symm⟩

theorem Quiet.settled {m : Watched Env Result} (quiet : Quiet seen view m) {env : Env}
    (raised : seen env) : Settled seen view (m.checks env) (m.run env).2 := by
  obtain ⟨after, same, all⟩ := quiet env raised
  exact settled_all after same all

theorem Disciplined.settled {m : Watched Env Result} (h : Disciplined seen view m) (env : Env) :
    Settled seen view (m.checks env) (m.run env).2 := by
  by_cases raised : seen env
  · exact h.quiet.settled raised
  · exact h.orderly env raised

theorem alarm_seen {m : Watched Env Result} {env : Env}
    (settled : Settled seen view (m.checks env) (m.run env).2) (alarm : Alarm m env) :
    seen (m.run env).2 := by
  obtain ⟨c, member, raised⟩ := alarm
  obtain ⟨earlier, later, split⟩ := List.append_of_mem member
  exact (settled earlier c later split raised).2.2

theorem disciplined_pure (result : Result) :
    Disciplined seen view (pure result : Watched Env Result) where
  quiet := by
    intro env raised
    simpa using raised
  orderly := by
    intro env _
    exact settled_nil env

theorem disciplined_step {change : Env → Result × Env} (harmless : Harmless seen view change) :
    Disciplined seen view (step change) where
  quiet := by
    intro env raised
    obtain ⟨same, after⟩ := harmless env
    simpa using ⟨after raised, same⟩
  orderly := by
    intro env _
    exact settled_nil _

theorem orderly_step (change : Env → Result × Env) : Orderly seen view (step change) := by
  intro env _
  exact settled_nil _

theorem disciplined_check {probe : Env → Bool × Env} (probes : Probes seen view probe) :
    Disciplined seen view (check probe) where
  quiet := by
    intro env raised
    obtain ⟨confirmed, after⟩ := probes.confirms env raised
    refine ⟨after, probes.keeps env, ?_⟩
    intro c member
    obtain rfl : c = probe env := by simpa using member
    exact ⟨confirmed, probes.keeps env⟩
  orderly := by
    intro env quiet earlier c later split raised
    rw [checks_check] at split
    obtain ⟨rfl, rfl, rfl⟩ : earlier = [] ∧ c = probe env ∧ later = [] := by
      cases earlier <;> simp_all
    exact ⟨by simp, rfl, (probes.raises env quiet).mp raised⟩

theorem settled_append {first second : List (Bool × Env)} {middle final : Env}
    (left : Settled seen view first middle)
    (right : Settled seen view second final)
    (confirms : seen middle → seen final ∧ view final = view middle ∧
      ∀ c ∈ second, c.1 = true ∧ view c.2 = view middle) :
    Settled seen view (first ++ second) final := by
  intro earlier c later split raised
  rcases List.append_eq_append_iff.mp split with ⟨prior, whole, rest⟩ | ⟨rest, whole, tail⟩
  · exact right prior c later rest raised
  · cases rest with
    | nil => exact right [] c later (by simpa using tail.symm) raised
    | cons head rest =>
      obtain ⟨rfl, rfl⟩ := List.cons.inj tail
      obtain ⟨inside, found, after⟩ := left earlier c rest whole raised
      obtain ⟨last, same, all⟩ := confirms after
      refine ⟨fun x member => ?_, same.trans found, last⟩
      rcases List.mem_append.mp member with near | far
      · exact inside x near
      · exact ⟨(all x far).1, (all x far).2.trans found⟩

theorem quiet_bind {m : Watched Env Result} {next : Result → Watched Env Next}
    (first : Quiet seen view m) (second : ∀ result, Quiet seen view (next result)) :
    Quiet seen view (m >>= next) := by
  intro env raised
  obtain ⟨after, same, all⟩ := first env raised
  obtain ⟨last, still, rest⟩ := second (m.run env).1 (m.run env).2 after
  refine ⟨last, still.trans same, ?_⟩
  intro c member
  rcases List.mem_append.mp member with near | far
  · exact all c near
  · exact ⟨(rest c far).1, (rest c far).2.trans same⟩

theorem orderly_bind {m : Watched Env Result} {next : Result → Watched Env Next}
    (first : Orderly seen view m) (second : ∀ result, Disciplined seen view (next result)) :
    Orderly seen view (m >>= next) := by
  intro env quiet
  rw [checks_bind, run_bind]
  apply settled_append (first env quiet)
  · exact (second (m.run env).1).settled (m.run env).2
  · exact (second (m.run env).1).quiet (m.run env).2

theorem disciplined_bind {m : Watched Env Result} {next : Result → Watched Env Next}
    (first : Disciplined seen view m) (second : ∀ result, Disciplined seen view (next result)) :
    Disciplined seen view (m >>= next) :=
  ⟨quiet_bind first.quiet fun result => (second result).quiet, orderly_bind first.orderly second⟩

/-- What is done only after a check without alarm need not be quiet. -/
theorem disciplined_guard {probe : Env → Bool × Env} (probes : Probes seen view probe)
    {raised calm : Watched Env Result} (quiet : Quiet seen view raised)
    (orderly : Orderly seen view calm) :
    Disciplined seen view (check probe >>= fun done => if done then raised else calm) where
  quiet := by
    intro env before
    obtain ⟨confirmed, after⟩ := probes.confirms env before
    obtain ⟨last, same, all⟩ := quiet (probe env).2 after
    have kept := probes.keeps env
    simp only [run_bind, checks_bind, run_check, checks_check, confirmed, ↓reduceIte]
    refine ⟨last, same.trans kept, ?_⟩
    intro c member
    rcases List.mem_cons.mp member with rfl | far
    · exact ⟨confirmed, kept⟩
    · exact ⟨(all c far).1, (all c far).2.trans kept⟩
  orderly := by
    intro env before
    rw [checks_bind, run_bind]
    have first := (disciplined_check probes).orderly env before
    cases observed : (probe env).1 with
    | true =>
      have after := (probes.raises env before).mp observed
      simp only [run_check, observed, ↓reduceIte]
      exact settled_append first (quiet.settled after) (quiet (probe env).2)
    | false =>
      have still : ¬ seen (probe env).2 := by
        rw [← probes.raises env before, observed]
        simp
      simp only [run_check, observed, Bool.false_eq_true, ↓reduceIte]
      apply settled_append first (orderly (probe env).2 still)
      exact fun after => absurd after still

theorem disciplined_ite {condition : Prop} [Decidable condition] {yes no : Watched Env Result}
    (left : Disciplined seen view yes) (right : Disciplined seen view no) :
    Disciplined seen view (if condition then yes else no) := by
  split
  · exact left
  · exact right

end rules

section parts
variable {seen : Env → Prop} {view : Env → View} {PartView : Type} {seenPart : Part → Prop}
  {viewPart : Part → PartView} {part : Env → Part} {put : Part → Env → Env}

/-- The alarm and what is protected of a part, in terms of the whole. -/
structure Embeds (seen : Env → Prop) (view : Env → View) (seenPart : Part → Prop)
    (viewPart : Part → PartView) (part : Env → Part) (put : Part → Env → Env) : Prop where
  raised : ∀ env, seen env ↔ seenPart (part env)
  put_raised : ∀ p env, seen (put p env) ↔ seenPart p
  same : ∀ p q env, viewPart p = viewPart q → view (put p env) = view (put q env)
  unchanged : ∀ env, view (put (part env) env) = view env

theorem disciplined_onPart (embeds : Embeds seen view seenPart viewPart part put)
    {m : Watched Part Result} (inner : Disciplined seenPart viewPart m) :
    Disciplined seen view (onPart part put m) where
  quiet := by
    intro env raised
    obtain ⟨after, same, all⟩ := inner.quiet (part env) ((embeds.raised env).mp raised)
    refine ⟨(embeds.put_raised _ env).mpr after,
      (embeds.same _ _ env same).trans (embeds.unchanged env), ?_⟩
    intro c member
    simp only [checks_onPart, List.mem_map] at member
    obtain ⟨inside, own, rfl⟩ := member
    obtain ⟨raisedThere, sameThere⟩ := all inside own
    exact ⟨raisedThere, (embeds.same _ _ env sameThere).trans (embeds.unchanged env)⟩
  orderly := by
    intro env quiet earlier c later split raised
    rw [checks_onPart, List.map_eq_append_iff] at split
    obtain ⟨before, after, whole, rfl, rest⟩ := split
    obtain ⟨head, tail, rfl, rfl, rfl⟩ := List.map_eq_cons_iff.mp rest
    obtain ⟨all, same, last⟩ := inner.settled (part env) before head tail whole raised
    refine ⟨?_, embeds.same _ _ env same, (embeds.put_raised _ env).mpr last⟩
    intro x member
    obtain ⟨inside, own, rfl⟩ := List.mem_map.mp member
    exact ⟨(all inside own).1, embeds.same _ _ env (all inside own).2⟩

end parts

end WatchedRuns
