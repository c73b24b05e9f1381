import TgwGateway.Common.Status
import TgwGateway.Lib.JsonPrinter
import TgwGateway.Lib.JsonStrings

/- What JsonEscape writes, against the grammar of strings. -/
namespace TgwJsonEscaping
open ByteStrings DecimalText JsonGrammar JsonStrings JsonScan JsonPrinter TgwStatus

/-- No control character but the ones that JsonEscape has an escape for. -/
def Regular (s : Bytes) : Prop := ∀ c ∈ s, 32 ≤ c ∨ c = 10 ∨ c = 13 ∨ c = 9

instance (s : Bytes) : Decidable (Regular s) :=
  inferInstanceAs (Decidable (∀ c ∈ s, 32 ≤ c ∨ c = 10 ∨ c = 13 ∨ c = 9))

theorem jsonEscapeByte_cases (c : UInt8) :
    (∃ e, jsonEscapeByte c = [92, e] ∧ e ∈ escapable ∧ e ≠ 117 ∧ escapeValue e = c) ∨
      (jsonEscapeByte c = [c] ∧ c ≠ 34 ∧ c ≠ 92 ∧ c ≠ 10 ∧ c ≠ 13 ∧ c ≠ 9) := by
  unfold jsonEscapeByte quote backslash
  split_ifs with quote backslash line carriage tab
  · exact Or.inl ⟨34, rfl, by decide, by decide, quote.symm⟩
  · exact Or.inl ⟨92, rfl, by decide, by decide, backslash.symm⟩
  · exact Or.inl ⟨110, rfl, by decide, by decide, line.symm⟩
  · exact Or.inl ⟨114, rfl, by decide, by decide, carriage.symm⟩
  · exact Or.inl ⟨116, rfl, by decide, by decide, tab.symm⟩
  · exact Or.inr ⟨rfl, quote, backslash, line, carriage, tab⟩

theorem jsonEscape_cons (c : UInt8) (s : Bytes) :
    jsonEscape (c :: s) = jsonEscapeByte c ++ jsonEscape s := by
  simp [jsonEscape]

theorem pieces_jsonEscape (s : Bytes) : pieces (jsonEscape s) = s.map Piece.octet := by
  induction s with
  | nil => rfl
  | cons c s ih =>
    rw [jsonEscape_cons]
    rcases jsonEscapeByte_cases c with ⟨e, written, _, noUnit, value⟩ | ⟨written, _, noBackslash, _⟩
    · rw [written, List.cons_append, List.singleton_append, pieces_escape noUnit, value, ih]
      rfl
    · rw [written, List.singleton_append, pieces_plain noBackslash, ih]
      rfl

theorem decoded_jsonEscape (s : Bytes) : decoded (jsonEscape s) = some s := by
  rw [decoded, pieces_jsonEscape, octets_map_octet]

def textTree (s : Bytes) : JsonTree := .string (jsonEscape s)

theorem stringValue_textTree (s : Bytes) : stringValue (textTree s) = some s := by
  rw [textTree, stringValue, decoded_jsonEscape]

theorem jsonEscape_closed (s : Bytes) : ClosedBody (jsonEscape s) := by
  intro depth
  induction s with
  | nil => rfl
  | cons c s ih =>
    rw [jsonEscape_cons, scan_append]
    rcases jsonEscapeByte_cases c with ⟨e, written, _⟩ | ⟨written, noQuote, noBackslash, _⟩
    · have pair : scan (inside depth) [92, e] = inside depth := rfl
      rw [written, pair, ih]
    · have one : scan (inside depth) [c] = inside depth := step_inside noQuote noBackslash depth
      rw [written, one, ih]

theorem jsonEscape_body {s : Bytes} (regular : Regular s) : BodyText (jsonEscape s) := by
  intro rest
  induction s with
  | nil => exact StringTail.close
  | cons c s ih =>
    have tail := ih fun x member => regular x (List.mem_cons_of_mem c member)
    rw [jsonEscape_cons]
    rcases jsonEscapeByte_cases c with
      ⟨e, written, known, _⟩ | ⟨written, noQuote, noBackslash, line, carriage, tab⟩
    · rw [written]
      exact StringTail.escape known tail
    · rcases regular c List.mem_cons_self with printable | control
      · rw [written]
        exact StringTail.unescaped printable noQuote noBackslash tail
      · rcases control with rfl | rfl | rfl
        · exact False.elim (line rfl)
        · exact False.elim (carriage rfl)
        · exact False.elim (tab rfl)

theorem mem_jsonEscape {s : Bytes} {c : UInt8} (member : c ∈ s)
    (raw : ¬ (32 ≤ c ∨ c = 10 ∨ c = 13 ∨ c = 9)) : c ∈ jsonEscape s := by
  refine List.mem_flatMap.mpr ⟨c, member, ?_⟩
  simp only [not_or] at raw
  obtain ⟨control, line, carriage, tab⟩ := raw
  have noQuote : c ≠ 34 := by
    rintro rfl
    exact control (by decide)
  have noBackslash : c ≠ 92 := by
    rintro rfl
    exact control (by decide)
  simp [jsonEscapeByte, quote, backslash, noQuote, noBackslash, line, carriage, tab]

theorem regular_of_octets {s : Bytes} (octets : ∀ c ∈ jsonEscape s, isRegular c = true) :
    Regular s := by
  intro c member
  by_contra raw
  have here := octets c (mem_jsonEscape member raw)
  simp only [isRegular, Bool.or_eq_true, decide_eq_true_eq] at here
  rcases here with printable | blank
  · exact raw (Or.inl printable)
  · rcases isBlank_cases blank with rfl | rfl | rfl | rfl
    · exact raw (Or.inl (by decide))
    · exact raw (Or.inr (Or.inr (Or.inr rfl)))
    · exact raw (Or.inr (Or.inl rfl))
    · exact raw (Or.inr (Or.inr (Or.inl rfl)))

end TgwJsonEscaping
