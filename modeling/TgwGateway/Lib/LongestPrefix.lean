import TgwGateway.Lib.ByteStrings

/- Prefixes of whole path segments, and loops over rules that hold on to the longest rule seen so
   far. A loop may or may not replace the rule it holds by one of the same size. -/
namespace LongestPrefix
open ByteStrings

def separator : UInt8 := 47

/-- The path is q itself or goes on after q with a separator. -/
def Covers (q path : Bytes) : Prop := path = q ∨ q ++ [separator] <+: path

instance (q path : Bytes) : Decidable (Covers q path) := inferInstanceAs (Decidable (_ ∨ _))

def LongestIn (paths : List Bytes) (path q : Bytes) : Prop :=
  q ∈ paths ∧ Covers q path ∧ ∀ other ∈ paths, Covers other path → other.length ≤ q.length

/-- What a search among the paths has to find. -/
def Selected (paths : List Bytes) (path : Bytes) : Option Bytes → Prop
  | some q => LongestIn paths path q
  | none => ∀ q ∈ paths, ¬ Covers q path

theorem prefix_of_covers {q path : Bytes} (covers : Covers q path) : q <+: path := by
  rcases covers with rfl | longer
  · exact List.prefix_refl _
  · exact (List.prefix_append q [separator]).trans longer

/-- The boundary test as the loops make it, on the byte after the prefix. -/
theorem covers_iff {q path : Bytes} :
    Covers q path ↔ q <+: path ∧ (path.length = q.length ∨ path[q.length]? = some separator) := by
  constructor
  · intro covers
    refine ⟨prefix_of_covers covers, ?_⟩
    rcases covers with rfl | ⟨rest, rfl⟩
    · exact Or.inl rfl
    · exact Or.inr (by simp)
  · rintro ⟨⟨rest, rfl⟩, boundary⟩
    cases rest with
    | nil => exact Or.inl (by simp)
    | cons c rest =>
      rcases boundary with same | next
      · simp at same
      · obtain rfl : c = separator := by simpa using next
        exact Or.inr ⟨rest, by simp⟩

theorem longest_unique {paths : List Bytes} {path q q' : Bytes} (one : LongestIn paths path q)
    (other : LongestIn paths path q') : q = q' := by
  obtain ⟨member, covers, longest⟩ := one
  obtain ⟨member', covers', longest'⟩ := other
  have size : q.length = q'.length :=
    Nat.le_antisymm (longest' q member covers) (longest q' member' covers')
  exact (List.prefix_of_prefix_length_le (prefix_of_covers covers) (prefix_of_covers covers')
    (Nat.le_of_eq size)).eq_of_length size

theorem selected_unique {paths : List Bytes} {path : Bytes} {a b : Option Bytes}
    (one : Selected paths path a) (other : Selected paths path b) : a = b := by
  cases a with
  | none =>
    cases b with
    | none => rfl
    | some q => exact absurd other.2.1 (one q other.1)
  | some p =>
    cases b with
    | none => exact absurd one.2.1 (other p one.1)
    | some q => rw [longest_unique one other]

theorem selected_congr {paths paths' : List Bytes} {path : Bytes} {a : Option Bytes}
    (same : ∀ q, q ∈ paths ↔ q ∈ paths') (one : Selected paths path a) :
    Selected paths' path a := by
  cases a with
  | none => exact fun q member => one q ((same q).mpr member)
  | some q =>
    obtain ⟨member, covers, longest⟩ := one
    exact ⟨(same q).mp member, covers, fun other found => longest other ((same other).mpr found)⟩

section scan
variable {Rule : Type} (accepts : Rule → Bool) (size : Rule → Nat) (ties : Bool)

def prefers (held new : Nat) : Bool := if ties then held ≤ new else held < new

def scan : List Rule → Option Rule → Option Rule
  | [], best => best
  | rule :: rules, best =>
    if !accepts rule then scan rules best
    else
      match best with
      | none => scan rules (some rule)
      | some held =>
        if prefers ties (size held) (size rule) then scan rules (some rule) else scan rules best

/-- A largest accepted rule: among those of its size the last one with ties, else the first. -/
def Chosen (rules : List Rule) (best : Rule) : Prop :=
  ∃ before later, rules = before ++ best :: later ∧ accepts best = true ∧
    (∀ r ∈ before, accepts r = true → prefers ties (size r) (size best) = true) ∧
    (∀ r ∈ later, accepts r = true → prefers ties (size best) (size r) = false)

variable {accepts size ties}

theorem prefers_iff {held new : Nat} :
    prefers ties held new = true ↔ held < new ∨ ties = true ∧ held = new := by
  cases ties <;> simp [prefers]
  omega

theorem prefers_false_iff {held new : Nat} :
    prefers ties held new = false ↔ new < held ∨ ties = false ∧ held = new := by
  cases ties <;> simp [prefers]
  omega

theorem prefers_trans {a b c : Nat} (first : prefers ties a b = true)
    (second : prefers ties b c = true) : prefers ties a c = true := by
  rw [prefers_iff] at first second ⊢
  rcases first with less | ⟨on, rfl⟩
  · exact Or.inl (by rcases second with _ | ⟨_, _⟩ <;> omega)
  · exact second

theorem prefers_over_skipped {held skipped new : Nat} (kept : prefers ties held skipped = false)
    (larger : prefers ties held new = true) : prefers ties skipped new = true := by
  rw [prefers_iff] at larger ⊢
  rcases prefers_false_iff.mp kept with less | ⟨off, rfl⟩
  · exact Or.inl (by rcases larger with _ | ⟨_, _⟩ <;> omega)
  · exact larger

theorem chosen_cons_skipped {rule best : Rule} {rules : List Rule}
    (chosen : Chosen accepts size ties rules best)
    (skipped : accepts rule = true → prefers ties (size rule) (size best) = true) :
    Chosen accepts size ties (rule :: rules) best := by
  obtain ⟨before, later, rfl, accepted, smaller, notLarger⟩ := chosen
  refine ⟨rule :: before, later, rfl, accepted, ?_, notLarger⟩
  intro r member
  rcases List.mem_cons.mp member with rfl | earlier
  · exact skipped
  · exact smaller r earlier

/-- The loop from a held rule on, by induction on the rules still to come. -/
theorem scan_held (accepts : Rule → Bool) (size : Rule → Nat) (ties : Bool) (rules : List Rule)
    (held : Rule) :
    (scan accepts size ties rules (some held) = some held ∧
      ∀ r ∈ rules, accepts r = true → prefers ties (size held) (size r) = false) ∨
    ∃ best, scan accepts size ties rules (some held) = some best ∧
      Chosen accepts size ties rules best ∧ prefers ties (size held) (size best) = true := by
  induction rules generalizing held with
  | nil => exact Or.inl ⟨rfl, by simp⟩
  | cons rule rules ih =>
    cases accepted : accepts rule with
    | false =>
      simp only [scan, accepted, Bool.not_false, ↓reduceIte]
      rcases ih held with ⟨same, none⟩ | ⟨best, found, chosen, larger⟩
      · refine Or.inl ⟨same, ?_⟩
        simpa [accepted] using none
      · exact Or.inr ⟨best, found, chosen_cons_skipped chosen (by simp [accepted]), larger⟩
    | true =>
      cases prefer : prefers ties (size held) (size rule) with
      | false =>
        simp only [scan, accepted, prefer, Bool.not_true, Bool.false_eq_true, ↓reduceIte]
        rcases ih held with ⟨same, none⟩ | ⟨best, found, chosen, larger⟩
        · refine Or.inl ⟨same, ?_⟩
          simpa [accepted, prefer] using none
        · exact Or.inr ⟨best, found,
            chosen_cons_skipped chosen fun _ => prefers_over_skipped prefer larger, larger⟩
      | true =>
        simp only [scan, accepted, prefer, Bool.not_true, Bool.false_eq_true, ↓reduceIte]
        rcases ih rule with ⟨same, none⟩ | ⟨best, found, chosen, larger⟩
        · exact Or.inr ⟨rule, same, ⟨[], rules, rfl, accepted, by simp, none⟩, prefer⟩
        · exact Or.inr ⟨best, found, chosen_cons_skipped chosen fun _ => larger,
            prefers_trans prefer larger⟩

theorem scan_none (accepts : Rule → Bool) (size : Rule → Nat) (ties : Bool) (rules : List Rule) :
    (scan accepts size ties rules none = none ∧ ∀ r ∈ rules, accepts r = false) ∨
    ∃ best, scan accepts size ties rules none = some best ∧
      Chosen accepts size ties rules best := by
  induction rules with
  | nil => exact Or.inl ⟨rfl, by simp⟩
  | cons rule rules ih =>
    cases accepted : accepts rule with
    | false =>
      simp only [scan, accepted, Bool.not_false, ↓reduceIte]
      rcases ih with ⟨same, none⟩ | ⟨best, found, chosen⟩
      · exact Or.inl ⟨same, by simpa [accepted] using none⟩
      · exact Or.inr ⟨best, found, chosen_cons_skipped chosen (by simp [accepted])⟩
    | true =>
      simp only [scan, accepted, Bool.not_true, Bool.false_eq_true, ↓reduceIte]
      rcases scan_held accepts size ties rules rule with ⟨same, none⟩ | ⟨best, found, chosen, larger⟩
      · exact Or.inr ⟨rule, same, [], rules, rfl, accepted, by simp, none⟩
      · exact Or.inr ⟨best, found, chosen_cons_skipped chosen fun _ => larger⟩

theorem chosen_unique {rules : List Rule} {a b : Rule} (one : Chosen accepts size ties rules a)
    (other : Chosen accepts size ties rules b) : a = b := by
  obtain ⟨before, later, rfl, accepted, smaller, notLarger⟩ := one
  obtain ⟨before', later', split, accepted', smaller', notLarger'⟩ := other
  rcases List.append_eq_append_iff.mp split with ⟨mid, front, back⟩ | ⟨mid, front, back⟩
  · cases mid with
    | nil => exact (List.cons.inj back).1
    | cons c mid =>
      obtain ⟨rfl, rfl⟩ := List.cons.inj back
      have stays := notLarger b (by simp) accepted'
      rw [smaller' a (by simp [front]) accepted] at stays
      exact absurd stays (by simp)
  · cases mid with
    | nil => exact (List.cons.inj back).1.symm
    | cons c mid =>
      obtain ⟨rfl, rfl⟩ := List.cons.inj back
      have stays := notLarger' a (by simp) accepted
      rw [smaller b (by simp [front]) accepted'] at stays
      exact absurd stays (by simp)

theorem scan_eq_some_iff {rules : List Rule} {best : Rule} :
    scan accepts size ties rules none = some best ↔ Chosen accepts size ties rules best := by
  rcases scan_none accepts size ties rules with ⟨same, none⟩ | ⟨found, same, chosen⟩
  · simp only [same, reduceCtorEq, false_iff]
    rintro ⟨before, later, rfl, accepted, _⟩
    rw [none best (by simp)] at accepted
    exact absurd accepted (by simp)
  · rw [same, Option.some.injEq]
    exact ⟨fun eq => eq ▸ chosen, fun other => chosen_unique chosen other⟩

theorem scan_eq_none_iff {rules : List Rule} :
    scan accepts size ties rules none = none ↔ ∀ r ∈ rules, accepts r = false := by
  rcases scan_none accepts size ties rules with ⟨same, none⟩ | ⟨found, same, chosen⟩
  · exact ⟨fun _ => none, fun _ => same⟩
  · simp only [same, reduceCtorEq, false_iff]
    intro none
    obtain ⟨before, later, rfl, accepted, _⟩ := chosen
    rw [none found (by simp)] at accepted
    exact absurd accepted (by simp)

theorem chosen_largest {rules : List Rule} {best : Rule}
    (chosen : Chosen accepts size ties rules best) {r : Rule} (member : r ∈ rules)
    (accepted : accepts r = true) : size r ≤ size best := by
  obtain ⟨before, later, rfl, _, smaller, notLarger⟩ := chosen
  rcases List.mem_append.mp member with earlier | rest
  · have := prefers_iff.mp (smaller r earlier accepted)
    omega
  · rcases List.mem_cons.mp rest with rfl | after
    · exact Nat.le_refl _
    · have := prefers_false_iff.mp (notLarger r after accepted)
      omega

/-- A scan that accepts the rules whose paths cover the path selects a longest one. -/
theorem scan_selects {pathOf : Rule → Bytes} {path : Bytes} {rules : List Rule}
    (covering : ∀ r ∈ rules, accepts r = true ↔ Covers (pathOf r) path) :
    Selected (rules.map pathOf) path
      ((scan accepts (fun r => (pathOf r).length) ties rules none).map pathOf) := by
  cases found : scan accepts (fun r => (pathOf r).length) ties rules none with
  | none =>
    intro q member covers
    obtain ⟨r, inside, rfl⟩ := List.mem_map.mp member
    have refused := scan_eq_none_iff.mp found r inside
    rw [(covering r inside).mpr covers] at refused
    exact absurd refused (by simp)
  | some best =>
    have chosen := scan_eq_some_iff.mp found
    obtain ⟨before, later, split, accepted, _⟩ := id chosen
    have inside : best ∈ rules := by simp [split]
    refine ⟨List.mem_map_of_mem inside, (covering best inside).mp accepted, ?_⟩
    intro q member covers
    obtain ⟨r, own, rfl⟩ := List.mem_map.mp member
    exact chosen_largest chosen own ((covering r own).mpr covers)

end scan

theorem find_selects {Rule : Type} {pathOf : Rule → Bytes} {path : Bytes} {rules : List Rule}
    {accepts : Rule → Bool}
    (sorted : rules.Pairwise fun lhs rhs => (pathOf rhs).length ≤ (pathOf lhs).length)
    (covering : ∀ r ∈ rules, accepts r = true ↔ Covers (pathOf r) path) :
    Selected (rules.map pathOf) path ((rules.find? accepts).map pathOf) := by
  cases found : rules.find? accepts with
  | none =>
    intro q member covers
    obtain ⟨r, inside, rfl⟩ := List.mem_map.mp member
    exact List.find?_eq_none.mp found r inside ((covering r inside).mpr covers)
  | some best =>
    obtain ⟨accepted, before, later, rfl, refused⟩ := List.find?_eq_some_iff_append.mp found
    refine ⟨by simp, (covering best (by simp)).mp accepted, ?_⟩
    intro q member covers
    obtain ⟨r, inside, rfl⟩ := List.mem_map.mp member
    have accepts := (covering r inside).mpr covers
    rcases List.mem_append.mp inside with earlier | rest
    · have skipped := refused r earlier
      simp [accepts] at skipped
    · rcases List.mem_cons.mp rest with rfl | after
      · exact Nat.le_refl _
      · have tail := (List.pairwise_append.mp sorted).2.1
        exact (List.pairwise_cons.mp tail).1 r after

end LongestPrefix
