import TgwGateway.Lib.SqlLiterals
import TgwGateway.Service.UserRepository
import TgwGateway.Service.UserService

/- SqlQuote doubles the quotes and leaves the backslashes, which the server reads as escapes. -/
namespace TgwSqlQuoting
open ByteStrings SqlLiterals TgwUserRepository TgwUserService

def percent : UInt8 := 37
def underscore : UInt8 := 95

/-- Every backslash stands before a wildcard of LIKE, the two places where the server keeps it. -/
def KeepsBackslashes (u : Bytes) : Prop :=
  ∀ i : Nat, u[i]? = some backslash → u[i + 1]? = some percent ∨ u[i + 1]? = some underscore

theorem keeps_cons (c : UInt8) (u : Bytes) :
    KeepsBackslashes (c :: u) ↔
      (c = backslash → u.head? = some percent ∨ u.head? = some underscore) ∧
        KeepsBackslashes u := by
  constructor
  · intro keeps
    refine ⟨fun slash => ?_, fun i => ?_⟩
    · have first := keeps 0 (by rw [slash]; rfl)
      simpa [List.head?_eq_getElem?] using first
    · simpa using keeps (i + 1)
  · rintro ⟨first, keeps⟩ i
    cases i with
    | zero => simpa [List.head?_eq_getElem?] using first
    | succ i => simpa using keeps i

theorem keeps_other {c : UInt8} (other : c ≠ backslash) (u : Bytes) :
    KeepsBackslashes (c :: u) ↔ KeepsBackslashes u := by
  rw [keeps_cons]
  exact and_iff_right fun slash => absurd slash other

section literal
variable {suffix : Bytes}

def quotedText (u suffix : Bytes) : Bytes := u.flatMap sqlByte ++ quote :: suffix

theorem quotedText_quote (u : Bytes) :
    quotedText (quote :: u) suffix = quote :: quote :: quotedText u suffix := rfl

theorem quotedText_other {c : UInt8} (other : c ≠ quote) (u : Bytes) :
    quotedText (c :: u) suffix = c :: quotedText u suffix := by
  have own : sqlByte c = [c] := if_neg other
  simp [quotedText, own]

theorem suffix_unread (value : Bytes) : scan .text suffix ≠ some (value, suffix) := by
  intro read
  have shorter := scan_shorter .text suffix read
  simp at shorter

theorem scan_prepended (before : Bytes) {text value rest : Bytes}
    (read : (scan .text text).map (fun read => (before ++ read.1, read.2)) = some (value, rest)) :
    ∃ inner, scan .text text = some (inner, rest) ∧ value = before ++ inner := by
  obtain ⟨⟨inner, after⟩, found, same⟩ := Option.map_eq_some_iff.mp read
  cases same
  exact ⟨inner, found, rfl⟩

/-- Once an escape has taken the first quote of a pair, the pairs are out of step and the literal
    does not end where it was meant to. -/
theorem out_of_step (u value : Bytes) :
    scan .text (quote :: quotedText u suffix) ≠ some (value, suffix) := by
  induction u generalizing value with
  | nil =>
    intro read
    obtain ⟨inner, found, -⟩ := scan_prepended [quote] read
    exact suffix_unread inner found
  | cons c u ih =>
    intro read
    by_cases quoted : c = quote
    · subst quoted
      rw [quotedText_quote] at read
      obtain ⟨inner, found, -⟩ := scan_prepended [quote] read
      exact ih inner found
    · have apart : (c :: quotedText u suffix).head? ≠ some quote := by simpa using quoted
      rw [quotedText_other quoted, scan_close apart] at read
      have same : c :: quotedText u suffix = suffix := congrArg Prod.snd (Option.some.inj read)
      have length := congrArg List.length same
      simp [quotedText] at length
      omega

theorem unescaped_length (c : UInt8) :
    (unescaped c).length ≤ 2 ∧
      ((unescaped c).length = 2 → c = percent ∨ c = underscore) := by
  unfold unescaped
  repeat' split
  all_goals simp_all [percent, underscore]

/-- A literal that ends where it was meant to is no longer than its text, and as long only where
    no backslash is lost. -/
theorem exact_length (apart : suffix.head? ≠ some quote) (u value : Bytes)
    (read : scan .text (quotedText u suffix) = some (value, suffix)) :
    value.length ≤ u.length ∧ (value.length = u.length → KeepsBackslashes u) := by
  induction size : u.length using Nat.strongRecOn generalizing u value with
  | ind n ih =>
    subst size
    cases u with
    | nil =>
      have closed : scan .text (quotedText [] suffix) = some ([], suffix) := scan_close apart
      rw [closed] at read
      cases read
      exact ⟨by simp, fun _ i slash => by simp at slash⟩
    | cons c u =>
      by_cases quoted : c = quote
      · subst quoted
        obtain ⟨inner, found, rfl⟩ := scan_prepended [quote] read
        obtain ⟨shorter, keeps⟩ := ih u.length (by simp) u inner found rfl
        have other : quote ≠ backslash := by decide
        simp only [List.singleton_append, List.length_cons, keeps_other other]
        exact ⟨by omega, fun same => keeps (by omega)⟩
      by_cases slash : c = backslash
      · subst slash
        rw [quotedText_other quoted] at read
        cases u with
        | nil =>
          obtain ⟨inner, found, -⟩ := scan_prepended _ read
          exact absurd found (suffix_unread inner)
        | cons d u =>
          by_cases taken : d = quote
          · subst taken
            obtain ⟨inner, found, -⟩ := scan_prepended _ read
            exact absurd found (out_of_step u inner)
          · rw [quotedText_other taken, scan_escape] at read
            obtain ⟨inner, found, rfl⟩ := scan_prepended _ read
            obtain ⟨shorter, keeps⟩ :=
              ih u.length (by simp only [List.length_cons]; omega) u inner found rfl
            obtain ⟨two, wildcard⟩ := unescaped_length d
            simp only [List.length_append, List.length_cons]
            refine ⟨by omega, fun same => ?_⟩
            have kept := wildcard (by omega)
            have other : d ≠ backslash := by
              rintro rfl
              rcases kept with kept | kept <;> exact absurd kept (by decide)
            rw [keeps_cons, keeps_other other]
            exact ⟨fun _ => by simpa using kept, keeps (by omega)⟩
      · rw [quotedText_other quoted, scan_byte quoted slash] at read
        obtain ⟨inner, found, rfl⟩ := scan_prepended [c] read
        obtain ⟨shorter, keeps⟩ := ih u.length (by simp) u inner found rfl
        simp only [List.singleton_append, List.length_cons, keeps_other slash]
        exact ⟨by omega, fun same => keeps (by omega)⟩

theorem kept_literal (apart : suffix.head? ≠ some quote) (u : Bytes) (keeps : KeepsBackslashes u) :
    scan .text (quotedText u suffix) = some (u, suffix) := by
  induction size : u.length using Nat.strongRecOn generalizing u with
  | ind n ih =>
    subst size
    cases u with
    | nil => exact scan_close apart
    | cons c u =>
      by_cases quoted : c = quote
      · subst quoted
        have tail := ih u.length (by simp) u ((keeps_other (by decide) u).mp keeps) rfl
        rw [quotedText_quote, scan_doubled, tail]
        rfl
      by_cases slash : c = backslash
      · subst slash
        rw [keeps_cons] at keeps
        cases u with
        | nil => simp at keeps
        | cons d u =>
          have wildcard : d = percent ∨ d = underscore := by simpa using keeps.1 rfl
          have apart_d : d ≠ quote ∧ d ≠ backslash ∧ unescaped d = [backslash, d] := by
            rcases wildcard with rfl | rfl <;> decide
          obtain ⟨no_quote, no_slash, two⟩ := apart_d
          have tail := ih u.length (by simp only [List.length_cons]; omega) u
            ((keeps_other no_slash u).mp keeps.2) rfl
          rw [quotedText_other quoted, quotedText_other no_quote, scan_escape, tail, two]
          rfl
      · have tail := ih u.length (by simp) u ((keeps_other slash u).mp keeps) rfl
        rw [quotedText_other quoted, scan_byte quoted slash, tail]
        rfl

/-- The literal has the value it was built for exactly where no backslash is lost. -/
theorem literal_iff (apart : suffix.head? ≠ some quote) (u : Bytes) :
    stringLiteral (sqlQuote u ++ suffix) = some (u, suffix) ↔ KeepsBackslashes u := by
  have text : stringLiteral (sqlQuote u ++ suffix) = scan .text (quotedText u suffix) := by
    have opened : sqlQuote u ++ suffix = quote :: quotedText u suffix := by
      simp [sqlQuote, quotedText, quote]
    rw [opened]
    rfl
  rw [text]
  exact ⟨fun read => (exact_length apart u u read).2 rfl, kept_literal apart u⟩

end literal

section statement

def statementHead : Bytes :=
  bytes "SELECT user_id, username, password, email, role FROM users WHERE username="

def statementUsername (text : Bytes) : Option Bytes :=
  if text.take statementHead.length = statementHead then
    match stringLiteral (text.drop statementHead.length) with
    | some (username, rest) => if rest = bytes " LIMIT 1" then some username else none
    | none => none
  else none

/-- What the server answers to it. Two usernames are the same as the column's collation has it. -/
def selectUser (same : Bytes → Bytes → Bool) (users : List UserRecord) (text : Bytes) :
    Option (List UserRecord) :=
  (statementUsername text).map fun username =>
    (users.filter fun user => same user.username username).take 1

/-- What SqlQuote is for. -/
structure AsksFor (u : Bytes) : Prop where
  literal : stringLiteral (sqlQuote u) = some (u, [])
  shape : statementUsername (querySql (usernameClause u)) = some u
  rows : ∀ (same : Bytes → Bytes → Bool) (users : List UserRecord),
    ∃ rows, selectUser same users (querySql (usernameClause u)) = some rows ∧
      ∀ user ∈ rows, user ∈ users ∧ same user.username u = true

theorem statementUsername_query (u : Bytes) :
    statementUsername (querySql (usernameClause u)) =
      match stringLiteral (sqlQuote u ++ bytes " LIMIT 1") with
      | some (username, rest) => if rest = bytes " LIMIT 1" then some username else none
      | none => none := by
  have head : bytes "SELECT user_id, username, password, email, role FROM users WHERE " ++
      bytes "username=" = statementHead := by decide +kernel
  have text : querySql (usernameClause u) =
      statementHead ++ (sqlQuote u ++ bytes " LIMIT 1") := by
    rw [← head]
    simp [querySql, usernameClause]
  rw [text, statementUsername, List.take_left, if_pos rfl, List.drop_left]

theorem sql_literal_iff (u : Bytes) : AsksFor u ↔ KeepsBackslashes u := by
  have apart : ([] : Bytes).head? ≠ some quote := by simp
  have alone := literal_iff apart u
  rw [List.append_nil] at alone
  constructor
  · intro asks
    exact alone.mp asks.literal
  · intro keeps
    have shape : statementUsername (querySql (usernameClause u)) = some u := by
      rw [statementUsername_query, (literal_iff (by decide) u).mpr keeps]
      exact if_pos rfl
    refine ⟨alone.mpr keeps, shape, fun same users => ⟨_, by rw [selectUser, shape]; rfl, ?_⟩⟩
    intro user inside
    exact List.mem_filter.mp (List.mem_of_mem_take inside)

/-- A login name that ends its own literal and adds a condition that holds of every user. -/
theorem escaped_quote_injects :
    ¬ AsksFor (bytes "\\' OR 1=1 -- ") ∧
    stringLiteral (sqlQuote (bytes "\\' OR 1=1 -- ") ++ bytes " LIMIT 1") =
      some (bytes "'", bytes " OR 1=1 -- ' LIMIT 1") := by
  refine ⟨fun asks => ?_, by decide⟩
  have literal := asks.literal
  revert literal
  decide

end statement

end TgwSqlQuoting
