import TgwGateway.Lib.JsonGrammar

/- What one pass over a well-formed text sees: octets that are no control characters but blanks,
   and, outside of the strings, brackets that close one another. -/
namespace JsonScan
open ByteStrings DecimalText JsonGrammar

inductive Place where
  | outside
  | inside
  | escaped
  deriving DecidableEq

structure Scan where
  place : Place
  depth : Int
  deriving DecidableEq

def outside (depth : Int) : Scan := ⟨.outside, depth⟩

def inside (depth : Int) : Scan := ⟨.inside, depth⟩

def step (s : Scan) (c : UInt8) : Scan :=
  match s.place with
  | .outside =>
    if c = 34 then inside s.depth
    else if c = 91 ∨ c = 123 then outside (s.depth + 1)
    else if c = 93 ∨ c = 125 then outside (s.depth - 1)
    else s
  | .inside =>
    if c = 34 then outside s.depth else if c = 92 then ⟨.escaped, s.depth⟩ else s
  | .escaped => inside s.depth

def scan (s : Scan) (text : Bytes) : Scan := text.foldl step s

theorem scan_append (s : Scan) (text more : Bytes) :
    scan s (text ++ more) = scan (scan s text) more := by
  simp [scan]

def isRegular (c : UInt8) : Bool := 32 ≤ c || isBlank c

def isPlain (c : UInt8) : Bool := c != 34 && c != 91 && c != 123 && c != 93 && c != 125

theorem step_plain {c : UInt8} (plain : isPlain c = true) (depth : Int) :
    step (outside depth) c = outside depth := by
  simp only [isPlain, Bool.and_eq_true, bne_iff_ne, ne_eq] at plain
  obtain ⟨⟨⟨⟨quote, square⟩, curly⟩, squareEnd⟩, curlyEnd⟩ := plain
  simp [step, outside, quote, square, curly, squareEnd, curlyEnd]

theorem scan_plain {text : Bytes} (plain : ∀ c ∈ text, isPlain c = true) (depth : Int) :
    scan (outside depth) text = outside depth := by
  induction text with
  | nil => rfl
  | cons c text ih =>
    have tail := ih fun x member => plain x (List.mem_cons_of_mem c member)
    simp only [scan, List.foldl_cons, step_plain (plain c List.mem_cons_self)] at tail ⊢
    exact tail

/-- The pass from one text to a rest of it takes one state to another. -/
def Passes (s : Scan) (text : Bytes) (s' : Scan) (rest : Bytes) : Prop :=
  ∃ used, text = used ++ rest ∧ (∀ c ∈ used, isRegular c = true) ∧ scan s used = s'

theorem Passes.trans {s s' s'' : Scan} {text text' text'' : Bytes}
    (first : Passes s text s' text') (second : Passes s' text' s'' text'') :
    Passes s text s'' text'' := by
  obtain ⟨used, rfl, regular, rfl⟩ := first
  obtain ⟨used', rfl, regular', rfl⟩ := second
  refine ⟨used ++ used', by simp, ?_, scan_append s used used'⟩
  intro c member
  rcases List.mem_append.mp member with old | new
  · exact regular c old
  · exact regular' c new

theorem Passes.octet {s : Scan} {c : UInt8} (regular : isRegular c = true) (rest : Bytes) :
    Passes s (c :: rest) (step s c) rest :=
  ⟨[c], rfl, by simpa using regular, rfl⟩

theorem Passes.plain {text : Bytes} (regular : ∀ c ∈ text, isRegular c = true)
    (plain : ∀ c ∈ text, isPlain c = true) (depth : Int) (rest : Bytes) :
    Passes (outside depth) (text ++ rest) (outside depth) rest :=
  ⟨text, rfl, regular, scan_plain plain depth⟩

theorem isBlank_cases {c : UInt8} (blank : isBlank c = true) :
    c = 32 ∨ c = 9 ∨ c = 10 ∨ c = 13 := by
  simp only [isBlank, Bool.or_eq_true, beq_iff_eq] at blank
  rcases blank with ((space | tab) | line) | carriage
  · exact Or.inl space
  · exact Or.inr (Or.inl tab)
  · exact Or.inr (Or.inr (Or.inl line))
  · exact Or.inr (Or.inr (Or.inr carriage))

theorem blanks_pass {text rest : Bytes} (blanks : Blanks text rest) (depth : Int) :
    Passes (outside depth) text (outside depth) rest := by
  obtain ⟨used, rfl, blank⟩ := blanks
  apply Passes.plain
  · intro c member
    simp [isRegular, blank c member]
  · intro c member
    rcases isBlank_cases (blank c member) with rfl | rfl | rfl | rfl <;> rfl

theorem mark_passes {text rest : Bytes} {c : UInt8} (blanks : Blanks text (c :: rest))
    (regular : isRegular c = true) (depth : Int) :
    Passes (outside depth) text (step (outside depth) c) rest :=
  (blanks_pass blanks depth).trans (Passes.octet regular rest)

theorem hexDigit_cases {c : UInt8} (hex : isHexDigit c = true) :
    isRegular c = true ∧ c ≠ 34 ∧ c ≠ 92 := by
  simp only [isHexDigit, isDigit, Bool.or_eq_true, Bool.and_eq_true, decide_eq_true_eq,
    UInt8.le_iff_toNat_le, UInt8.reduceToNat] at hex
  simp only [isRegular, Bool.or_eq_true, decide_eq_true_eq, UInt8.le_iff_toNat_le, ne_eq,
    ← UInt8.toNat_inj, UInt8.reduceToNat]
  refine ⟨Or.inl ?_, ?_, ?_⟩ <;> omega

theorem step_inside {c : UInt8} (noQuote : c ≠ 34) (noBackslash : c ≠ 92) (depth : Int) :
    step (inside depth) c = inside depth := by
  simp [step, inside, noQuote, noBackslash]

theorem stringTail_passes {text body rest : Bytes} (tail : StringTail text body rest)
    (depth : Int) : Passes (inside depth) text (outside depth) rest := by
  induction tail with
  | close => exact Passes.octet rfl _
  | @unescaped c text _ _ printable noQuote noBackslash _ ih =>
    have first : Passes (inside depth) (c :: text) (step (inside depth) c) text :=
      Passes.octet (by simp [isRegular, printable]) text
    rw [step_inside noQuote noBackslash] at first
    exact first.trans ih
  | @escape c text _ _ known _ ih =>
    have regular : ∀ x ∈ escapable, isRegular x = true := List.all_eq_true.mp (by decide)
    have first : Passes (inside depth) (92 :: c :: text) ⟨.escaped, depth⟩ (c :: text) :=
      Passes.octet rfl _
    have second : Passes ⟨.escaped, depth⟩ (c :: text) (inside depth) text :=
      Passes.octet (regular c known) _
    exact (first.trans second).trans ih
  | @unicode a b c d text _ _ hex _ ih =>
    have first : Passes (inside depth) (92 :: 117 :: a :: b :: c :: d :: text) ⟨.escaped, depth⟩
      (117 :: a :: b :: c :: d :: text) := Passes.octet rfl _
    have second : Passes ⟨.escaped, depth⟩ (117 :: a :: b :: c :: d :: text) (inside depth)
      (a :: b :: c :: d :: text) := Passes.octet rfl _
    have digit : ∀ x ∈ [a, b, c, d], ∀ more, Passes (inside depth) (x :: more) (inside depth) more := by
      intro x member more
      obtain ⟨regular, noQuote, noBackslash⟩ := hexDigit_cases (hex x member)
      have one := Passes.octet (s := inside depth) regular more
      rw [step_inside noQuote noBackslash] at one
      exact one
    have digits := (digit a (by simp) _).trans <| (digit b (by simp) _).trans <|
      (digit c (by simp) _).trans (digit d (by simp) text)
    exact ((first.trans second).trans digits).trans ih

def numberOctets : Bytes := bytes "0123456789-+.eE"

theorem digits_octets {text : Bytes} (digits : Digits text) : ∀ c ∈ text, c ∈ numberOctets := by
  intro c member
  have digit := (isDigit_iff c).mp (digits.2 c member)
  have table : ∀ n : Fin 10, UInt8.ofNat (48 + n.val) ∈ numberOctets := by decide
  have here := table ⟨c.toNat - 48, by omega⟩
  have same : 48 + (c.toNat - 48) = c.toNat := by omega
  simpa [same] using here

theorem numberText_octets {text : Bytes} (form : NumberText text) :
    ∀ c ∈ text, c ∈ numberOctets := by
  obtain ⟨sign, whole, fraction, exponent, rfl, signed, natural, fractional, scaled⟩ := form
  intro c member
  simp only [List.mem_append] at member
  rcases member with ((inSign | inWhole) | inFraction) | inExponent
  · rcases signed with rfl | rfl
    · cases inSign
    · rw [List.mem_singleton.mp inSign]
      decide
  · rcases natural with rfl | ⟨digits, _⟩
    · rw [List.mem_singleton.mp inWhole]
      decide
    · exact digits_octets digits c inWhole
  · rcases fractional with rfl | ⟨digits, rfl, numeral⟩
    · cases inFraction
    · rcases List.mem_cons.mp inFraction with rfl | digit
      · decide
      · exact digits_octets numeral c digit
  · rcases scaled with rfl | ⟨mark, sign, digits, rfl, marked, signed, numeral⟩
    · cases inExponent
    · rcases List.mem_append.mp inExponent with front | digit
      · rcases List.mem_cons.mp front with rfl | inSign
        · rcases marked with rfl | rfl <;> decide
        · rcases signed with rfl | rfl | rfl
          · cases inSign
          · rw [List.mem_singleton.mp inSign]
            decide
          · rw [List.mem_singleton.mp inSign]
            decide
      · exact digits_octets numeral c digit

theorem number_passes {text : Bytes} (form : NumberText text) (depth : Int) (rest : Bytes) :
    Passes (outside depth) (text ++ rest) (outside depth) rest := by
  have octets := numberText_octets form
  have regular : ∀ x ∈ numberOctets, isRegular x = true := List.all_eq_true.mp (by decide)
  have plain : ∀ x ∈ numberOctets, isPlain x = true := List.all_eq_true.mp (by decide)
  apply Passes.plain
  · intro c member
    exact regular c (octets c member)
  · intro c member
    exact plain c (octets c member)

theorem word_passes {word : Bytes} (regular : word.all isRegular = true)
    (plain : word.all isPlain = true) (depth : Int) (rest : Bytes) :
    Passes (outside depth) (word ++ rest) (outside depth) rest :=
  Passes.plain (List.all_eq_true.mp regular) (List.all_eq_true.mp plain) depth rest

theorem opened (depth : Int) {c : UInt8} (bracket : c = 91 ∨ c = 123) :
    step (outside depth) c = outside (depth + 1) := by
  rcases bracket with rfl | rfl <;> rfl

theorem closed (depth : Int) {c : UInt8} (bracket : c = 93 ∨ c = 125) :
    step (outside (depth + 1)) c = outside depth := by
  have back : depth + 1 - 1 = depth := by omega
  rcases bracket with rfl | rfl <;> simp [step, outside, back]

mutual

theorem value_passes {text rest : Bytes} {tree : JsonTree} (value : Value text tree rest)
    (depth : Int) : Passes (outside depth) text (outside depth) rest := by
  cases value with
  | null => exact word_passes (by decide) (by decide) depth rest
  | yes => exact word_passes (by decide) (by decide) depth rest
  | no => exact word_passes (by decide) (by decide) depth rest
  | number form => exact number_passes form depth rest
  | @string text _ _ tail =>
    have quote : Passes (outside depth) (34 :: text) (inside depth) text := Passes.octet rfl text
    exact quote.trans (stringTail_passes tail depth)
  | @emptyArray text _ close =>
    have first := Passes.octet (s := outside depth) (c := 91) rfl text
    have last := mark_passes close rfl (depth + 1)
    rw [opened depth (Or.inl rfl)] at first
    rw [closed depth (Or.inl rfl)] at last
    exact first.trans last
  | @array text _ _ elements =>
    have first := Passes.octet (s := outside depth) (c := 91) rfl text
    rw [opened depth (Or.inl rfl)] at first
    exact first.trans (elements_pass elements depth)
  | @emptyObject text _ close =>
    have first := Passes.octet (s := outside depth) (c := 123) rfl text
    have last := mark_passes close rfl (depth + 1)
    rw [opened depth (Or.inr rfl)] at first
    rw [closed depth (Or.inr rfl)] at last
    exact first.trans last
  | @object text _ _ listed =>
    have first := Passes.octet (s := outside depth) (c := 123) rfl text
    rw [opened depth (Or.inr rfl)] at first
    exact first.trans (members_pass listed depth)

theorem elements_pass {text rest : Bytes} {items : List JsonTree}
    (elements : Elements text items rest) (depth : Int) :
    Passes (outside (depth + 1)) text (outside depth) rest := by
  cases elements with
  | last before value close =>
    have ending := mark_passes close rfl (depth + 1)
    rw [closed depth (Or.inl rfl)] at ending
    exact ((blanks_pass before _).trans (value_passes value _)).trans ending
  | more before value comma others =>
    have next := mark_passes comma rfl (depth + 1)
    exact (((blanks_pass before _).trans (value_passes value _)).trans next).trans
      (elements_pass others depth)

theorem members_pass {text rest : Bytes} {members : List (Bytes × JsonTree)}
    (listed : Members text members rest) (depth : Int) :
    Passes (outside (depth + 1)) text (outside depth) rest := by
  cases listed with
  | last before name colon after value close =>
    have key := (mark_passes before rfl (depth + 1)).trans (stringTail_passes name (depth + 1))
    have item := ((mark_passes colon rfl (depth + 1)).trans (blanks_pass after _)).trans
      (value_passes value _)
    have ending := mark_passes close rfl (depth + 1)
    rw [closed depth (Or.inr rfl)] at ending
    exact (key.trans item).trans ending
  | more before name colon after value comma others =>
    have key := (mark_passes before rfl (depth + 1)).trans (stringTail_passes name (depth + 1))
    have item := ((mark_passes colon rfl (depth + 1)).trans (blanks_pass after _)).trans
      (value_passes value _)
    have next := mark_passes comma rfl (depth + 1)
    exact ((key.trans item).trans next).trans (members_pass others depth)

end

/-- Every octet of a well-formed text is printable or a blank, and its brackets are balanced. -/
theorem wellFormed_scan {text : Bytes} (formed : WellFormed text) :
    (∀ c ∈ text, isRegular c = true) ∧ scan (outside 0) text = outside 0 := by
  obtain ⟨tree, text₁, text₂, before, value, after⟩ := formed
  obtain ⟨used, whole, regular, done⟩ :=
    ((blanks_pass before 0).trans (value_passes value 0)).trans (blanks_pass after 0)
  rw [List.append_nil] at whole
  rw [whole]
  exact ⟨regular, done⟩

end JsonScan
