import TgwGateway.Lib.ByteStrings

/- Single-quoted string literals as MySQL reads them in its default mode: two quotes stand for one,
   and a backslash takes the byte after it. -/
namespace SqlLiterals
open ByteStrings

def quote : UInt8 := 39
def backslash : UInt8 := 92

/-- The bytes an escape stands for. Before a wildcard of LIKE the backslash is kept, before a byte
    without a meaning of its own it is dropped. -/
def unescaped (c : UInt8) : Bytes :=
  if c = 48 then [0]
  else if c = 98 then [8]
  else if c = 110 then [10]
  else if c = 114 then [13]
  else if c = 116 then [9]
  else if c = 90 then [26]
  else if c = 37 ∨ c = 95 then [backslash, c]
  else [c]

inductive Mode where
  | text
  | escaped
  | closing

/-- The value of a literal and what follows its closing quote. -/
def scan : Mode → Bytes → Option (Bytes × Bytes)
  | .text, [] => none
  | .escaped, [] => none
  | .closing, [] => some ([], [])
  | .text, c :: rest =>
    if c = quote then scan .closing rest
    else if c = backslash then scan .escaped rest
    else (scan .text rest).map fun read => (c :: read.1, read.2)
  | .escaped, c :: rest => (scan .text rest).map fun read => (unescaped c ++ read.1, read.2)
  -- a second quote directly after a quote belongs to the text
  | .closing, c :: rest =>
    if c = quote then (scan .text rest).map fun read => (quote :: read.1, read.2)
    else some ([], c :: rest)

def stringLiteral : Bytes → Option (Bytes × Bytes)
  | [] => none
  | c :: rest => if c = quote then scan .text rest else none

section rules

theorem scan_byte {c : UInt8} (no_quote : c ≠ quote) (no_slash : c ≠ backslash) (rest : Bytes) :
    scan .text (c :: rest) = (scan .text rest).map fun read => (c :: read.1, read.2) := by
  rw [scan, if_neg no_quote, if_neg no_slash]

theorem scan_escape (c : UInt8) (rest : Bytes) :
    scan .text (backslash :: c :: rest) =
      (scan .text rest).map fun read => (unescaped c ++ read.1, read.2) := rfl

theorem scan_doubled (rest : Bytes) :
    scan .text (quote :: quote :: rest) =
      (scan .text rest).map fun read => (quote :: read.1, read.2) := rfl

theorem scan_close {rest : Bytes} (apart : rest.head? ≠ some quote) :
    scan .text (quote :: rest) = some ([], rest) := by
  cases rest with
  | nil => rfl
  | cons c rest =>
    have differs : c ≠ quote := by simpa using apart
    rw [scan, if_pos rfl, scan, if_neg differs]

theorem scan_shorter (mode : Mode) (text : Bytes) {value rest : Bytes}
    (read : scan mode text = some (value, rest)) :
    rest.length + (if mode matches .closing then 0 else 1) ≤ text.length := by
  induction text generalizing mode value with
  | nil =>
    cases mode with
    | closing =>
      cases read
      simp
    | _ => cases read
  | cons c text ih =>
    cases mode with
    | text =>
      rw [scan] at read
      split at read
      · have tail := ih _ read
        simp at tail ⊢
        omega
      · split at read
        · have tail := ih _ read
          simp at tail ⊢
          omega
        · obtain ⟨⟨inner, _⟩, found, same⟩ := Option.map_eq_some_iff.mp read
          cases same
          have tail := ih _ found
          simp at tail ⊢
          omega
    | escaped =>
      rw [scan] at read
      obtain ⟨⟨inner, _⟩, found, same⟩ := Option.map_eq_some_iff.mp read
      cases same
      have tail := ih _ found
      simp at tail ⊢
      omega
    | closing =>
      rw [scan] at read
      split at read
      · obtain ⟨⟨inner, _⟩, found, same⟩ := Option.map_eq_some_iff.mp read
        cases same
        have tail := ih _ found
        simp at tail ⊢
        omega
      · cases read
        simp

end rules

end SqlLiterals
