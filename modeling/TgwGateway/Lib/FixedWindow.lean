import Mathlib.Data.List.Chain
import Mathlib.Data.List.Induction

/- Fixed windows over a list of events, some of which start a new window and some of which are
   allowed: how many can be allowed when each window allows a bounded number and the windows
   start at spaced times. -/
namespace FixedWindow

/-- A law relating every event to the events before it. -/
def EachEvent {Event : Type} (Law : List Event → Event → Prop) (events : List Event) : Prop :=
  ∀ earlier e later, events = earlier ++ e :: later → Law earlier e

section events
variable {Event : Type} {Law : List Event → Event → Prop}

theorem each_event_nil : EachEvent Law [] := by
  intro earlier e later split
  simp at split

theorem each_event_snoc {events : List Event} {last : Event} :
    EachEvent Law (events ++ [last]) ↔ EachEvent Law events ∧ Law events last := by
  constructor
  · intro all
    refine ⟨fun earlier e later split => ?_, all events last [] rfl⟩
    exact all earlier e (later ++ [last]) (by simp [split])
  · rintro ⟨init, here⟩ earlier e later split
    rcases List.eq_nil_or_concat later with rfl | ⟨later, final, rfl⟩
    · obtain ⟨rfl, same⟩ := List.append_inj' split rfl
      obtain rfl : last = e := by simpa using same
      exact here
    · have split' : events ++ [last] = (earlier ++ e :: later) ++ [final] := by simp [split]
      obtain ⟨same, _⟩ := List.append_inj' split' rfl
      exact init earlier e later same

end events

section counting
variable {Event : Type} (starts allowed : Event → Bool)

/-- How many events have been allowed in the window the list ends in. -/
def allowedInWindow (events : List Event) : Nat :=
  events.foldl (fun count e => (if starts e then 0 else count) + if allowed e then 1 else 0) 0

@[simp] theorem allowedInWindow_snoc (events : List Event) (last : Event) :
    allowedInWindow starts allowed (events ++ [last]) =
      (if starts last then 0 else allowedInWindow starts allowed events) +
        if allowed last then 1 else 0 := by
  simp [allowedInWindow]

theorem allowedInWindow_congr {allowed allowed' : Event → Bool} {events : List Event}
    (same : ∀ e ∈ events, allowed e = allowed' e) :
    allowedInWindow starts allowed events = allowedInWindow starts allowed' events := by
  induction events using List.reverseRecOn with
  | nil => rfl
  | append_singleton events last ih =>
    have earlier := ih fun e member => same e (by simp [member])
    rw [allowedInWindow_snoc, allowedInWindow_snoc, earlier, same last (by simp)]

theorem allowedInWindow_le_countP (events : List Event) :
    allowedInWindow starts allowed events ≤ events.countP allowed := by
  induction events using List.reverseRecOn with
  | nil => simp [allowedInWindow]
  | append_singleton events last ih =>
    simp only [allowedInWindow_snoc, List.countP_append, List.countP_singleton]
    split <;> split <;> omega

def allowedBefore (earlier : List Event) (e : Event) : Nat :=
  if starts e then 0 else allowedInWindow starts allowed earlier

variable {starts allowed} {limit : Nat}

/-- By induction on the events: every window but the last is full at most, and the last one holds
   what has been allowed since it started. -/
theorem allowed_le_windows {events : List Event}
    (first : ∀ e ∈ events.head?, starts e = true)
    (bounded : EachEvent (fun earlier e =>
      allowed e = true → allowedBefore starts allowed earlier e < limit) events) :
    events.countP allowed ≤ limit * events.countP starts := by
  have full : allowedInWindow starts allowed events ≤ limit ∧
      events.countP allowed + limit ≤
        limit * events.countP starts + allowedInWindow starts allowed events ∨ events = [] := by
    induction events using List.reverseRecOn with
    | nil => exact Or.inr rfl
    | append_singleton events last ih =>
      obtain ⟨earlier, here⟩ := each_event_snoc.mp bounded
      have head : ∀ e ∈ events.head?, starts e = true := by
        intro e member
        refine first e ?_
        cases events with
        | nil => simp at member
        | cons f rest => simpa using member
      refine Or.inl ?_
      simp only [allowedInWindow_snoc, List.countP_append, List.countP_cons, List.countP_nil,
        allowedBefore] at here ⊢
      rcases ih head earlier with ⟨count, total⟩ | rfl
      · by_cases resets : starts last = true
        · by_cases accepts : allowed last = true
          · have room := here accepts
            simp only [resets, accepts, ↓reduceIte, Nat.mul_add] at room ⊢
            omega
          · simp only [resets, accepts, ↓reduceIte, Nat.mul_add, Bool.false_eq_true]
            omega
        · by_cases accepts : allowed last = true
          · have room := here accepts
            simp only [resets, accepts, ↓reduceIte, Bool.false_eq_true, Nat.add_zero] at room ⊢
            omega
          · simp only [resets, accepts, ↓reduceIte, Bool.false_eq_true, Nat.add_zero]
            omega
      · have resets : starts last = true := first last (by simp)
        by_cases accepts : allowed last = true
        · have room := here accepts
          simp only [resets, accepts, ↓reduceIte] at room ⊢
          simp
          omega
        · simp [resets, accepts]
  rcases full with ⟨count, total⟩ | rfl
  · omega
  · simp

end counting

theorem spaced_last_le {width high : Int} (first : Int) (times : List Int)
    (spaced : (first :: times).IsChain fun a b => a + width ≤ b)
    (below : ∀ t ∈ first :: times, t ≤ high) : first + width * times.length ≤ high := by
  induction times generalizing first with
  | nil => simpa using below first (by simp)
  | cons next times ih =>
    obtain ⟨gap, rest⟩ := List.isChain_cons_cons.mp spaced
    have tail := ih next rest fun t member => below t (List.mem_cons_of_mem first member)
    rw [List.length_cons, Int.natCast_add, Int.mul_add]
    omega

theorem spaced_length_le {width low high : Int} (positive : 0 < width) (nonempty : low ≤ high)
    (times : List Int) (spaced : times.IsChain fun a b => a + width ≤ b)
    (inside : ∀ t ∈ times, low ≤ t ∧ t ≤ high) :
    (times.length : Int) ≤ (high - low) / width + 1 := by
  cases times with
  | nil =>
    have quotient := Int.ediv_nonneg (show 0 ≤ high - low by omega) (by omega : 0 ≤ width)
    simp only [List.length_nil]
    omega
  | cons first times =>
    have last := spaced_last_le first times spaced fun t member => (inside t member).2
    have start := (inside first (by simp)).1
    have quotient : (times.length : Int) ≤ (high - low) / width := by
      rw [Int.le_ediv_iff_mul_le positive, Int.mul_comm]
      omega
    simp only [List.length_cons]
    omega

section bound
variable {Event : Type} (starts allowed : Event → Bool) (start : Event → Int) (width : Int)

/-- A window keeps its start until the next one starts, at least a width later. -/
def WindowStep (e next : Event) : Prop :=
  if starts next then start e + width ≤ start next else start next = start e

variable {starts allowed start width}

theorem window_starts_spaced (e : Event) (later : List Event)
    (steps : (e :: later).IsChain (WindowStep starts start width)) :
    (start e :: (later.filter starts).map start).IsChain fun a b => a + width ≤ b := by
  induction later generalizing e with
  | nil => simp
  | cons next later ih =>
    obtain ⟨here, rest⟩ := List.isChain_cons_cons.mp steps
    have tail := ih next rest
    unfold WindowStep at here
    cases new : starts next with
    | true =>
      rw [new, if_pos rfl] at here
      rw [List.filter_cons_of_pos new, List.map_cons]
      exact List.isChain_cons_cons.mpr ⟨here, tail⟩
    | false =>
      rw [new, if_neg (by simp)] at here
      rw [List.filter_cons_of_neg (by simp [new]), ← here]
      exact tail

/-- The bound for a whole run: as many windows as fit between low and high, each with at most
   limit allowed events. -/
theorem allowed_le {events : List Event} {limit : Nat} {low high : Int} (positive : 0 < width)
    (nonempty : low ≤ high) (first : ∀ e ∈ events.head?, starts e = true)
    (steps : events.IsChain (WindowStep starts start width))
    (bounded : EachEvent (fun earlier e =>
      allowed e = true → allowedBefore starts allowed earlier e < limit) events)
    (inside : ∀ e ∈ events, starts e = true → low ≤ start e ∧ start e ≤ high) :
    (events.countP allowed : Int) ≤ limit * ((high - low) / width + 1) := by
  have full : events.countP allowed ≤ limit * events.countP starts :=
    allowed_le_windows first bounded
  have spaced : ((events.filter starts).map start).IsChain fun a b => a + width ≤ b := by
    cases events with
    | nil => simp
    | cons e later =>
      rw [List.filter_cons_of_pos (first e rfl), List.map_cons]
      exact window_starts_spaced e later steps
  have fit := spaced_length_le positive nonempty _ spaced (by
    intro t member
    obtain ⟨e, found, rfl⟩ := List.mem_map.mp member
    exact inside e (List.mem_filter.mp found).1 (List.mem_filter.mp found).2)
  rw [List.length_map, ← List.countP_eq_length_filter] at fit
  calc (events.countP allowed : Int)
      ≤ ((limit * events.countP starts : Nat) : Int) := Int.ofNat_le.mpr full
    _ = limit * (events.countP starts : Int) := Int.natCast_mul ..
    _ ≤ limit * ((high - low) / width + 1) := Int.mul_le_mul_of_nonneg_left fit (by omega)

end bound

end FixedWindow
