import TgwGateway.Lib.DecimalText

/- The exceptions the request path tells apart, and the number conversions that throw them. The
   texts are the ones the GNU library reports through what(). -/
namespace TgwExceptions
open ByteStrings DecimalText

inductive CppException where
  | invalidArgument (what : Bytes)
  | outOfRange (what : Bytes)
  | runtimeError (what : Bytes)
  | jsonException (what : Bytes)
  deriving DecidableEq

def CppException.what : CppException → Bytes
  | .invalidArgument what => what
  | .outOfRange what => what
  | .runtimeError what => what
  | .jsonException what => what

def convertInteger (name : Bytes) (low high : Int) (text : Bytes) : Except CppException Int :=
  match leadingInteger text with
  | none => .error (.invalidArgument name)
  | some n => if low ≤ n ∧ n ≤ high then .ok n else .error (.outOfRange name)

def stoi (text : Bytes) : Except CppException Int :=
  convertInteger (bytes "stoi") (-2 ^ 31) (2 ^ 31 - 1) text

def stoll (text : Bytes) : Except CppException Int :=
  convertInteger (bytes "stoll") (-2 ^ 63) (2 ^ 63 - 1) text

theorem stoll_error {text : Bytes} {e : CppException} (failed : stoll text = .error e) :
    (leadingInteger text = none ∧ ∃ what, e = .invalidArgument what) ∨
      (leadingInteger text ≠ none ∧ ∃ what, e = .outOfRange what) := by
  unfold stoll convertInteger at failed
  cases read : leadingInteger text with
  | none =>
    rw [read] at failed
    cases failed
    exact Or.inl ⟨rfl, _, rfl⟩
  | some n =>
    rw [read] at failed
    simp only at failed
    split at failed
    · cases failed
    · cases failed
      exact Or.inr ⟨by simp, _, rfl⟩

theorem stoll_none {text : Bytes} (absent : leadingInteger text = none) :
    stoll text = .error (.invalidArgument (bytes "stoll")) := by
  simp [stoll, convertInteger, absent]

theorem stoll_some {text : Bytes} {n : Int} (read : leadingInteger text = some n)
    (low : -2 ^ 63 ≤ n) (high : n < 2 ^ 63) : stoll text = .ok n := by
  simp only [stoll, convertInteger, read]
  rw [if_pos (by omega)]

theorem stoll_intText {n : Int} (low : -2 ^ 63 ≤ n) (high : n < 2 ^ 63) :
    stoll (intText n) = .ok n := by
  have reads := leadingInteger_intText n [] (by simp)
  rw [List.append_nil] at reads
  exact stoll_some reads low high

end TgwExceptions
