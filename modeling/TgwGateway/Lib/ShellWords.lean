import TgwGateway.Lib.DecimalText

/- The words of a simple command as a POSIX shell takes them from its text, read from left to right.
   Outside quotes only bytes without a meaning of their own are covered. -/
namespace ShellWords
open ByteStrings DecimalText

def doubleQuote : UInt8 := 34
def dollar : UInt8 := 36
def singleQuote : UInt8 := 39
def backslash : UInt8 := 92
def backquote : UInt8 := 96
def newline : UInt8 := 10

def isNameStart (c : UInt8) : Bool := (65 ≤ c && c ≤ 90) || (97 ≤ c && c ≤ 122) || c == 95

/-- Names, positional and special parameters, braces, command substitution and arithmetic. -/
def startsParameter (c : UInt8) : Bool :=
  isNameStart c || isDigit c || (bytes "@*#?-$!\x7b(").contains c

/-- After a dollar sign the standard leaves the other bytes to the shell. No shell expands anything
   before a quote or a backslash. -/
structure Shell where
  introduces : UInt8 → Bool
  standard : ∀ c, startsParameter c = true → introduces c = true
  ordinary : introduces doubleQuote = false ∧ introduces singleQuote = false ∧
    introduces backslash = false

def posixShell : Shell where
  introduces := startsParameter
  standard := fun _ starts => starts
  ordinary := by decide

def isBlank (c : UInt8) : Bool := c == 32 || c == 9

def isPlain (c : UInt8) : Bool :=
  isNameStart c || isDigit c || (bytes "-./=,:+@%").contains c

/-- Where the shell stands: with what it has of the current word. -/
inductive Mode where
  | between
  | word (w : Bytes)
  | quoted (w : Bytes)
  | escaped (w : Bytes)

inductive Command where
  | words (ws : List Bytes)
  /-- An expansion begins here; what it runs and yields is not in the text. -/
  | expansion (rest : Bytes)
  | unterminated
  | notCovered (rest : Bytes)
  deriving DecidableEq

def Command.cons (w : Bytes) : Command → Command
  | .words ws => .words (w :: ws)
  | other => other

variable (shell : Shell)

/-- Whether an expansion begins at a byte within double quotes. -/
def expands (c : UInt8) (rest : Bytes) : Bool :=
  c == backquote || (c == dollar && rest.head?.any shell.introduces)

def scan : Mode → Bytes → Command
  | .between, [] => .words []
  | .word w, [] => .words [w]
  | .quoted _, [] => .unterminated
  | .escaped _, [] => .unterminated
  | .between, c :: rest =>
    if isBlank c then scan .between rest
    else if c = doubleQuote then scan (.quoted []) rest
    else if isPlain c then scan (.word [c]) rest
    else .notCovered (c :: rest)
  | .word w, c :: rest =>
    if isBlank c then (scan .between rest).cons w
    else if c = doubleQuote then scan (.quoted w) rest
    else if isPlain c then scan (.word (w ++ [c])) rest
    else .notCovered (c :: rest)
  | .quoted w, c :: rest =>
    if c = doubleQuote then scan (.word w) rest
    else if expands shell c rest then .expansion (c :: rest)
    else if c = backslash then scan (.escaped w) rest
    else scan (.quoted (w ++ [c])) rest
  -- before any other byte the backslash stands for itself, and with a newline it is left out
  | .escaped w, c :: rest =>
    if c = newline then scan (.quoted w) rest
    else if c ∈ [doubleQuote, dollar, backslash, backquote] then scan (.quoted (w ++ [c])) rest
    else scan (.quoted (w ++ [backslash, c])) rest

def shellWords (text : Bytes) : Command := scan shell .between text

def startsExpansion : Bytes → Bool
  | [] => false
  | c :: rest => expands shell c rest || startsExpansion rest

section rules

theorem plain_apart {c : UInt8} (plain : isPlain c = true) :
    isBlank c = false ∧ c ≠ doubleQuote := by
  constructor
  · by_contra blank
    simp only [isBlank, Bool.not_eq_false, Bool.or_eq_true, beq_iff_eq] at blank
    rcases blank with rfl | rfl <;> exact absurd plain (by decide)
  · rintro rfl
    exact absurd plain (by decide)

theorem scan_plain (w text rest : Bytes) (plain : text.all isPlain = true) :
    scan shell (.word w) (text ++ rest) = scan shell (.word (w ++ text)) rest := by
  induction text generalizing w with
  | nil => simp
  | cons c text ih =>
    rw [List.all_cons, Bool.and_eq_true] at plain
    obtain ⟨own, others⟩ := plain
    obtain ⟨not_blank, not_quote⟩ := plain_apart own
    rw [List.cons_append, scan, if_neg (by simp [not_blank]), if_neg not_quote, if_pos own,
      ih _ others, List.append_assoc, List.singleton_append]

theorem scan_plain_word {text : Bytes} (nonempty : text ≠ [])
    (plain : text.all isPlain = true) (rest : Bytes) :
    scan shell .between (text ++ rest) = scan shell (.word text) rest := by
  obtain ⟨c, text, rfl⟩ := List.exists_cons_of_ne_nil nonempty
  rw [List.all_cons, Bool.and_eq_true] at plain
  obtain ⟨own, others⟩ := plain
  obtain ⟨not_blank, not_quote⟩ := plain_apart own
  rw [List.cons_append, scan, if_neg (by simp [not_blank]), if_neg not_quote, if_pos own,
    scan_plain shell [c] text rest others]
  rfl

theorem startsExpansion_append {text rest : Bytes} (no_backquote : backquote ∉ text)
    (no_dollar : dollar ∉ text) :
    startsExpansion shell (text ++ rest) = startsExpansion shell rest := by
  induction text with
  | nil => rfl
  | cons c text ih =>
    rw [List.mem_cons, not_or] at no_backquote no_dollar
    have own : expands shell c (text ++ rest) = false := by
      simp [expands, Ne.symm no_backquote.1, Ne.symm no_dollar.1]
    rw [List.cons_append, startsExpansion, own, ih no_backquote.2 no_dollar.2, Bool.false_or]

end rules

end ShellWords
