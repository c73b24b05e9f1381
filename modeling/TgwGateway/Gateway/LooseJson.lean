import TgwGateway.Gateway.FlatJson
import TgwGateway.Lib.JsonGrammar

/- The texts that the reader of flat bodies accepts, as a grammar of their own: it is laxer than
   that of JSON in its blanks, its escapes, its scalars, its commas and what may follow the object.
   A derivation has the pairs that are read, in their order. -/
namespace TgwLooseJson
open ByteStrings DecimalText TgwExceptions TgwStatus TgwFlatJson

def Spaces (text rest : Bytes) : Prop := ∃ spaces, text = spaces ++ rest ∧ ∀ c ∈ spaces, isSpace c

theorem Spaces.none (text : Bytes) : Spaces text text := ⟨[], rfl, by simp⟩

def Trimmed (text : Bytes) : Prop := ∀ c ∈ text.head?, isSpace c = false

/-- A string after its opening quote: a backslash takes any octet with it. -/
inductive LooseTail : Bytes → Bytes → Bytes → Prop where
  | close {rest : Bytes} : LooseTail (34 :: rest) [] rest
  | octet {c : UInt8} {text value rest : Bytes} (noQuote : c ≠ 34) (noBackslash : c ≠ 92)
      (tail : LooseTail text value rest) : LooseTail (c :: text) (c :: value) rest
  | escape {c : UInt8} {text value rest : Bytes} (tail : LooseTail text value rest) :
      LooseTail (92 :: c :: text) (unescaped c :: value) rest

/-- A string, or octets up to a delimiter: any, and maybe none. -/
inductive LooseValue : Bytes → Bytes → Bytes → Prop where
  | string {text value rest : Bytes} (tail : LooseTail text value rest) :
      LooseValue (34 :: text) value rest
  | scalar {value rest : Bytes} (noString : (value ++ rest).head? ≠ some 34)
      (within : ∀ c ∈ value, endsScalar c = false) : LooseValue (value ++ rest) value rest

inductive LooseMember : Bytes → Bytes → Bytes → Bytes → Prop where
  | pair {text₁ text₂ text₃ text₄ key value rest : Bytes} (name : LooseTail text₁ key text₂)
      (colon : Spaces text₂ (58 :: text₃)) (after : Spaces text₃ text₄) (start : Trimmed text₄)
      (item : LooseValue text₄ value rest) : LooseMember (34 :: text₁) key value rest

/-- What stands between the braces. No member has to follow a comma, and any text may follow the
    closing brace. -/
inductive LooseMembers : Bytes → List (Bytes × Bytes) → Prop where
  | none {text rest : Bytes} (close : Spaces text (125 :: rest)) : LooseMembers text []
  | last {text text₁ text₂ rest key value : Bytes} (before : Spaces text text₁)
      (member : LooseMember text₁ key value text₂) (close : Spaces text₂ (125 :: rest)) :
      LooseMembers text [(key, value)]
  | more {text text₁ text₂ text₃ key value : Bytes} {pairs : List (Bytes × Bytes)}
      (before : Spaces text text₁) (member : LooseMember text₁ key value text₂)
      (comma : Spaces text₂ (44 :: text₃)) (others : LooseMembers text₃ pairs) :
      LooseMembers text ((key, value) :: pairs)

def LooseObject (body : Bytes) (pairs : List (Bytes × Bytes)) : Prop :=
  ∃ text, Spaces body (123 :: text) ∧ LooseMembers text pairs

def addPairs (result : FieldMap) (pairs : List (Bytes × Bytes)) : FieldMap :=
  pairs.foldl (fun fields pair => fields.insert pair.1 pair.2) result

theorem skipWhitespace_spaces (text : Bytes) : Spaces text (skipWhitespace text) :=
  ⟨text.takeWhile isSpace, List.takeWhile_append_dropWhile.symm,
    List.all_eq_true.mp List.all_takeWhile⟩

theorem skipWhitespace_trimmed (text : Bytes) : Trimmed (skipWhitespace text) := by
  intro c first
  have stops := List.head?_dropWhile_not isSpace text
  rw [skipWhitespace, Option.mem_def] at first
  rw [first] at stops
  exact stops

theorem skipWhitespace_eq {text rest : Bytes} (spaces : Spaces text rest)
    (trimmed : Trimmed rest) : skipWhitespace text = rest := by
  obtain ⟨blank, rfl, space⟩ := spaces
  rw [skipWhitespace, List.dropWhile_append_of_pos space]
  cases rest with
  | nil => rfl
  | cons c rest => simp [trimmed c (by simp)]

theorem trimmed_cons {c : UInt8} (visible : isSpace c = false) (text : Bytes) :
    Trimmed (c :: text) := by
  intro x first
  simp only [List.head?_cons, Option.mem_some_iff] at first
  rw [← first]
  exact visible

theorem parseStringBody_iff (text value rest : Bytes) :
    parseStringBody text = .ok (value, rest) ↔ LooseTail text value rest := by
  constructor
  · intro read
    fun_induction parseStringBody text generalizing value with
    | case1 => cases read
    | case2 rest =>
      cases read
      exact LooseTail.close
    | case3 => cases read
    | case4 => cases read
    | case5 escaped rest _ _ inner _ ih =>
      cases read
      exact LooseTail.escape (ih _ inner)
    | case6 => cases read
    | case7 c rest noQuote noBackslash _ _ inner ih =>
      cases read
      exact LooseTail.octet noQuote noBackslash (ih _ inner)
  · intro tail
    induction tail with
    | close =>
      rw [parseStringBody.eq_def]
      rfl
    | octet noQuote noBackslash _ ih =>
      rw [parseStringBody.eq_def]
      simp [quote, backslash, noQuote, noBackslash, ih]
    | escape _ ih =>
      rw [parseStringBody.eq_def]
      simp [quote, backslash, ih]

theorem parseJsonStringToken_iff (text value rest : Bytes) :
    parseJsonStringToken (34 :: text) = .ok (value, rest) ↔ LooseTail text value rest := by
  rw [← parseStringBody_iff]
  simp [parseJsonStringToken, quote]

theorem parseJsonStringToken_cases {text value rest : Bytes}
    (read : parseJsonStringToken text = .ok (value, rest)) :
    ∃ tail, text = 34 :: tail ∧ LooseTail tail value rest := by
  cases text with
  | nil => cases read
  | cons c tail =>
    by_cases quoted : c = 34
    · subst quoted
      exact ⟨tail, rfl, (parseJsonStringToken_iff tail value rest).mp read⟩
    · simp [parseJsonStringToken, quote, quoted] at read

theorem parseJsonScalarToken_eq {value rest : Bytes} (within : ∀ c ∈ value, endsScalar c = false)
    (stops : ∀ c ∈ rest.head?, endsScalar c = true) :
    parseJsonScalarToken (value ++ rest) = (value, rest) := by
  have inside : ∀ c ∈ value, (!endsScalar c) = true := by
    intro c member
    simp [within c member]
  unfold parseJsonScalarToken
  rw [List.takeWhile_append_of_pos inside, List.dropWhile_append_of_pos inside]
  cases rest with
  | nil => simp
  | cons c rest => simp [stops c (by simp)]

theorem delimited {text rest : Bytes} {c : UInt8} (spaces : Spaces text (c :: rest))
    (delimiter : endsScalar c = true) : ∀ x ∈ text.head?, endsScalar x = true := by
  obtain ⟨blank, rfl, space⟩ := spaces
  intro x first
  cases blank with
  | nil =>
    simp only [List.nil_append, List.head?_cons, Option.mem_some_iff] at first
    rw [← first]
    exact delimiter
  | cons y blank =>
    simp only [List.cons_append, List.head?_cons, Option.mem_some_iff] at first
    have spaced := space y List.mem_cons_self
    rw [← first]
    simp [endsScalar, spaced]

theorem parseMember_of_loose {text key value rest : Bytes} (member : LooseMember text key value rest)
    (stops : ∀ c ∈ rest.head?, endsScalar c = true) :
    parseMember text = .ok (key, value, rest) := by
  obtain ⟨name, colon, after, start, item⟩ := member
  rw [parseMember, (parseJsonStringToken_iff _ _ _).mpr name]
  simp only [skipWhitespace_eq colon (trimmed_cons (by decide) _), ne_eq, not_true_eq_false,
    ↓reduceIte, skipWhitespace_eq after start]
  cases item with
  | string tail =>
    simp [quote, (parseJsonStringToken_iff _ _ _).mpr tail]
  | scalar noString within =>
    have other : ¬ (value ++ rest).head? = some quote := noString
    rw [if_neg other, parseJsonScalarToken_eq within stops]

theorem loose_of_parseMember {text key value rest : Bytes}
    (read : parseMember text = .ok (key, value, rest)) : LooseMember text key value rest := by
  unfold parseMember at read
  split at read
  · cases read
  · rename_i name text₂ first
    obtain ⟨text₁, rfl, tail⟩ := parseJsonStringToken_cases first
    have colon := skipWhitespace_spaces text₂
    split at read
    · cases read
    · rename_i c text₃ found
      rw [found] at colon
      split at read
      · cases read
      · rename_i mark
        have is_colon : c = 58 := by simpa using mark
        subst is_colon
        have after := skipWhitespace_spaces text₃
        have start := skipWhitespace_trimmed text₃
        simp only at read
        split at read
        · split at read
          · cases read
          · rename_i value text₅ second
            cases read
            obtain ⟨text₄, opened, inner⟩ := parseJsonStringToken_cases second
            rw [opened] at after start
            exact LooseMember.pair tail colon after start (LooseValue.string inner)
        · rename_i noString
          cases read
          have whole : (parseJsonScalarToken (skipWhitespace text₃)).1 ++
              (parseJsonScalarToken (skipWhitespace text₃)).2 = skipWhitespace text₃ :=
            List.takeWhile_append_dropWhile
          have inside : ∀ c ∈ (parseJsonScalarToken (skipWhitespace text₃)).1,
              endsScalar c = false := by
            have all := List.all_eq_true.mp
              (List.all_takeWhile (l := skipWhitespace text₃) (p := (!endsScalar ·)))
            intro c member
            simpa using all c member
          have scalar : LooseValue ((parseJsonScalarToken (skipWhitespace text₃)).1 ++
              (parseJsonScalarToken (skipWhitespace text₃)).2) _ _ :=
            LooseValue.scalar (by rw [whole]; exact noString) inside
          rw [whole] at scalar
          exact LooseMember.pair tail colon after start scalar

theorem spaces_length {text rest : Bytes} (spaces : Spaces text rest) :
    rest.length ≤ text.length := by
  obtain ⟨blank, rfl, _⟩ := spaces
  simp

theorem looseMember_trimmed {text key value rest : Bytes}
    (member : LooseMember text key value rest) : Trimmed text ∧ text.head? = some 34 := by
  cases member
  exact ⟨trimmed_cons (by decide) _, rfl⟩

/-- By induction on the derivation; every member takes some of the text, so the turns last. -/
theorem parseMembers_of_loose {text : Bytes} {pairs : List (Bytes × Bytes)}
    (members : LooseMembers text pairs) (result : FieldMap) {turns : Nat}
    (enough : text.length < turns) :
    parseMembers turns result text = .ok (addPairs result pairs) := by
  induction members generalizing result turns with
  | none close =>
    obtain ⟨turns, rfl⟩ := Nat.exists_eq_succ_of_ne_zero (show turns ≠ 0 by omega)
    rw [parseMembers, skipWhitespace_eq close (trimmed_cons (by decide) _)]
    rfl
  | last before member close =>
    obtain ⟨turns, rfl⟩ := Nat.exists_eq_succ_of_ne_zero (show turns ≠ 0 by omega)
    obtain ⟨trimmed, quoted⟩ := looseMember_trimmed member
    have read := parseMember_of_loose member (delimited close (by decide))
    simp only [parseMembers, skipWhitespace_eq before trimmed, quoted, read,
      skipWhitespace_eq close (trimmed_cons (by decide) _)]
    rfl
  | @more text text₁ text₂ text₃ key value pairs before member comma _ ih =>
    obtain ⟨turns, rfl⟩ := Nat.exists_eq_succ_of_ne_zero (show turns ≠ 0 by omega)
    obtain ⟨trimmed, quoted⟩ := looseMember_trimmed member
    have read := parseMember_of_loose member (delimited comma (by decide))
    have shorter : text₃.length < turns := by
      have taken := parseMember_length read
      have first := spaces_length before
      have second := spaces_length comma
      simp only [List.length_cons] at second
      omega
    have others := ih (result.insert key value) shorter
    simp only [parseMembers, skipWhitespace_eq before trimmed, quoted, read,
      skipWhitespace_eq comma (trimmed_cons (by decide) _), ↓reduceIte, others]
    rfl

theorem loose_of_parseMembers {turns : Nat} {result fields : FieldMap} {text : Bytes}
    (read : parseMembers turns result text = .ok fields) :
    ∃ pairs, LooseMembers text pairs ∧ fields = addPairs result pairs := by
  induction turns generalizing result text with
  | zero => cases read
  | succ turns ih =>
    have before := skipWhitespace_spaces text
    simp only [parseMembers] at read
    split at read
    · rename_i closed
      cases read
      obtain ⟨rest, brace⟩ := List.head?_eq_some_iff.mp closed
      rw [brace] at before
      exact ⟨[], LooseMembers.none before, rfl⟩
    · split at read
      · cases read
      · rename_i key value text₂ first
        have member := loose_of_parseMember first
        have next := skipWhitespace_spaces text₂
        split at read
        · cases read
        · rename_i c text₃ found
          rw [found] at next
          split at read
          · rename_i comma
            subst comma
            obtain ⟨pairs, others, rfl⟩ := ih read
            exact ⟨(key, value) :: pairs, LooseMembers.more before member next others, rfl⟩
          · split at read
            · rename_i brace
              subst brace
              cases read
              exact ⟨[(key, value)], LooseMembers.last before member next, rfl⟩
            · cases read

/-- The reader accepts a body that is no blank exactly when the grammar has it. -/
theorem parseFlatJsonObject_iff (body : Bytes) (fields : FieldMap) :
    parseFlatJsonObject body = .ok fields ↔
      (skipWhitespace body = [] ∧ fields = ∅) ∨
        ∃ pairs, LooseObject body pairs ∧ fields = addPairs ∅ pairs := by
  have before := skipWhitespace_spaces body
  constructor
  · intro read
    unfold parseFlatJsonObject at read
    split at read
    · rename_i blank
      cases read
      exact Or.inl ⟨blank, rfl⟩
    · rename_i c text found
      rw [found] at before
      split at read
      · cases read
      · rename_i opened
        have brace : c = 123 := by simpa using opened
        subst brace
        obtain ⟨pairs, members, rfl⟩ := loose_of_parseMembers read
        exact Or.inr ⟨pairs, ⟨text, before, members⟩, rfl⟩
  · rintro (⟨blank, rfl⟩ | ⟨pairs, ⟨text, opened, members⟩, rfl⟩)
    · simp [parseFlatJsonObject, blank]
    · have skipped := skipWhitespace_eq opened (trimmed_cons (by decide) text)
      simp only [parseFlatJsonObject, skipped, ne_eq, not_true_eq_false, ↓reduceIte]
      exact parseMembers_of_loose members ∅ (by omega)

end TgwLooseJson
