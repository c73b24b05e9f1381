import TgwGateway.Auth.TokenService

/- What the searches of the token service find in a payload: the marker of a claim begins at the
   claim itself, because an escaped string has no quote without a backslash before it. -/
namespace TgwTokenPayload
open ByteStrings ByteSearch DecimalText TgwBase64Url TgwClock TgwConfig TgwExceptions TgwStatus
open TgwTokenService
variable {State : Type}

def IsName (name : Bytes) : Prop := name ≠ [] ∧ ∀ c ∈ name, 97 ≤ c ∧ c ≤ 122

instance (name : Bytes) : Decidable (IsName name) :=
  @instDecidableAnd _ _ _ (List.decidableBAll _ name)

def marker (name tail : Bytes) : Bytes := quote :: (name ++ quote :: colon :: tail)
def field (name rest : Bytes) : Bytes := quote :: (name ++ quote :: colon :: rest)
def literal (s rest : Bytes) : Bytes := quote :: (jsonEscape s ++ quote :: rest)
def comma : UInt8 := 44
def brace : UInt8 := 123

theorem payloadJson_eq (userId : Int64) (username role requestId : Bytes) (now expiresAt : Int) :
    payloadJson userId username role requestId now expiresAt =
      brace :: field (bytes "sub") (intText userId.toInt ++ comma ::
        field (bytes "username") (literal username (comma ::
          field (bytes "role") (literal role (comma ::
            field (bytes "iat") (intText now ++ comma ::
              field (bytes "exp") (intText expiresAt ++ comma ::
                field (bytes "rid") (literal requestId (bytes "\x7d"))))))))) := by
  have sub : bytes "\"sub\":" = quote :: (bytes "sub" ++ [quote, colon]) := by decide
  have user : bytes "\"username\":\"" =
      quote :: (bytes "username" ++ [quote, colon, quote]) := by decide
  have roleKey : bytes "\"role\":\"" = quote :: (bytes "role" ++ [quote, colon, quote]) := by decide
  have iat : bytes "\"iat\":" = quote :: (bytes "iat" ++ [quote, colon]) := by decide
  have exp : bytes "\"exp\":" = quote :: (bytes "exp" ++ [quote, colon]) := by decide
  have rid : bytes "\"rid\":\"" = quote :: (bytes "rid" ++ [quote, colon, quote]) := by decide
  have next : bytes "," = [comma] := by decide
  have closing : bytes "\"," = [quote, comma] := by decide
  have single : bytes "\"" = [quote] := by decide
  have opening : bytes "\x7b" = [brace] := by decide
  simp only [payloadJson, field, literal, sub, user, roleKey, iat, exp, rid, next, closing, single,
    opening]
  simp

theorem jsonEscapeByte_head (b : UInt8) :
    (∃ tail, jsonEscapeByte b = backslash :: tail) ∨ jsonEscapeByte b = [b] ∧ b ≠ quote := by
  unfold jsonEscapeByte
  split
  · exact Or.inl ⟨_, rfl⟩
  · rename_i notQuote
    split
    · exact Or.inl ⟨_, rfl⟩
    · split
      · exact Or.inl ⟨_, rfl⟩
      · split
        · exact Or.inl ⟨_, rfl⟩
        · split
          · exact Or.inl ⟨_, rfl⟩
          · exact Or.inr ⟨rfl, notQuote⟩

theorem jsonEscapeByte_quote (b : UInt8) : b = quote ∨ quote ∉ jsonEscapeByte b := by
  unfold jsonEscapeByte
  split
  · exact Or.inl ‹_›
  · rename_i notQuote
    refine Or.inr ?_
    split
    · decide
    · split
      · decide
      · split
        · decide
        · split
          · decide
          · simpa using Ne.symm notQuote

theorem jsonEscape_cons (b : UInt8) (s : Bytes) :
    jsonEscape (b :: s) = jsonEscapeByte b ++ jsonEscape s := rfl

theorem intText_no_quote (n : Int) : quote ∉ intText n := by
  intro member
  rcases intText_bytes n quote member with minus | digit
  · exact absurd minus (by decide)
  · exact absurd digit (by decide)

theorem name_byte {name : Bytes} (isName : IsName name) {c : UInt8} (member : c ∈ name) :
    c ≠ quote ∧ c ≠ backslash ∧ c ≠ comma := by
  have bound := isName.2 c member
  refine ⟨?_, ?_, ?_⟩ <;> rintro rfl <;> exact absurd bound (by decide)

/-- By induction on the string: after the quote that opens a literal no marker is complete,
   because its second quote would have to be escaped or be followed by a colon. -/
theorem name_not_in_literal {name : Bytes} (plain : ∀ c ∈ name, c ≠ quote ∧ c ≠ backslash)
    (tail s rest : Bytes) {c : UInt8} (notColon : c ≠ colon) :
    ¬ name ++ quote :: colon :: tail <+: jsonEscape s ++ quote :: c :: rest := by
  induction s generalizing name with
  | nil =>
    intro found
    cases name with
    | nil =>
      simp only [jsonEscape, List.flatMap_nil, List.nil_append, List.cons_prefix_cons] at found
      exact notColon found.2.1.symm
    | cons d name =>
      simp only [jsonEscape, List.flatMap_nil, List.nil_append, List.cons_append,
        List.cons_prefix_cons] at found
      exact (plain d (by simp)).1 found.1
  | cons b s ih =>
    intro found
    rw [jsonEscape_cons, List.append_assoc] at found
    rcases jsonEscapeByte_head b with ⟨rest', escaped⟩ | ⟨same, notQuote⟩
    · rw [escaped, List.cons_append] at found
      cases name with
      | nil => exact absurd (List.cons_prefix_cons.mp found).1 (by decide)
      | cons d name => exact (plain d (by simp)).2 (List.cons_prefix_cons.mp found).1
    · rw [same] at found
      cases name with
      | nil => exact notQuote (List.cons_prefix_cons.mp found).1.symm
      | cons d name =>
        exact ih (fun c member => plain c (List.mem_cons_of_mem d member))
          (List.cons_prefix_cons.mp found).2

theorem name_eq_of_start {name other : Bytes} (left : quote ∉ name) (right : quote ∉ other)
    (tail rest : Bytes) (found : name ++ quote :: tail <+: other ++ quote :: rest) :
    name = other := by
  induction name generalizing other with
  | nil =>
    cases other with
    | nil => rfl
    | cons d other => exact absurd (by simp [(List.cons_prefix_cons.mp found).1]) right
  | cons c name ih =>
    cases other with
    | nil => exact absurd (by simp [(List.cons_prefix_cons.mp found).1]) left
    | cons d other =>
      obtain ⟨rfl, deeper⟩ := List.cons_prefix_cons.mp found
      rw [ih (mt (List.mem_cons_of_mem c) left) (mt (List.mem_cons_of_mem c) right) deeper]

section search
variable {name : Bytes} (tail : Bytes)

theorem afterFirst_other (rest : Bytes) {c : UInt8} (notQuote : c ≠ quote) :
    afterFirst (marker name tail) (c :: rest) = afterFirst (marker name tail) rest :=
  afterFirst_skip [c] rest (by simpa using notQuote.symm)

theorem afterFirst_brace (rest : Bytes) :
    afterFirst (marker name tail) (brace :: rest) = afterFirst (marker name tail) rest :=
  afterFirst_other tail rest (by decide)

theorem afterFirst_number (n : Int) (rest : Bytes) :
    afterFirst (marker name tail) (intText n ++ rest) = afterFirst (marker name tail) rest :=
  afterFirst_skip (intText n) rest (intText_no_quote n)

theorem afterFirst_own_field (rest : Bytes) :
    afterFirst (marker name tail) (field name (tail ++ rest)) = some rest := by
  have here := afterFirst_here (marker name tail) rest
  simpa [marker, field] using here

theorem afterFirst_own_int (rest : Bytes) :
    afterFirst (marker name []) (field name rest) = some rest := afterFirst_own_field [] rest

theorem afterFirst_own_string (s rest : Bytes) :
    afterFirst (marker name [quote]) (field name (literal s rest)) =
      some (jsonEscape s ++ quote :: rest) := afterFirst_own_field [quote] _

variable (isName : IsName name)
include isName

theorem name_no_quote : quote ∉ name := fun member => (name_byte isName member).1 rfl

theorem no_marker_at_literal (s rest : Bytes) {c : UInt8} (notColon : c ≠ colon) :
    ¬ marker name tail <+: quote :: (jsonEscape s ++ quote :: c :: rest) := by
  intro found
  refine name_not_in_literal (fun d member => ?_) tail s rest notColon
    (List.cons_prefix_cons.mp found).2
  exact ⟨(name_byte isName member).1, (name_byte isName member).2.1⟩

theorem no_marker_before {c : UInt8} (rest : Bytes) (outside : c ∉ name) :
    ¬ marker name tail <+: quote :: c :: rest := by
  intro found
  have inside := (List.cons_prefix_cons.mp found).2
  cases shape : name with
  | nil => exact isName.1 shape
  | cons d name' =>
    rw [shape, List.cons_append, List.cons_prefix_cons] at inside
    exact outside (by simp [shape, inside.1])

theorem afterFirst_literal (s rest : Bytes) {c : UInt8} (notColon : c ≠ colon)
    (outside : c ∉ name) :
    afterFirst (marker name tail) (literal s (c :: rest)) =
      afterFirst (marker name tail) (c :: rest) := by
  have inside : afterFirst (marker name tail) (jsonEscape s ++ quote :: c :: rest) =
      afterFirst (marker name tail) (c :: rest) := by
    induction s with
    | nil => exact afterFirst_step (no_marker_before tail isName rest outside)
    | cons b s ih =>
      rw [jsonEscape_cons, List.append_assoc]
      rcases jsonEscapeByte_quote b with rfl | plain
      · have escaped : jsonEscapeByte quote = [backslash, quote] := by decide
        rw [escaped, List.cons_append, afterFirst_other tail _ (by decide), List.cons_append,
          List.nil_append, afterFirst_step (no_marker_at_literal tail isName s rest notColon), ih]
      · exact (afterFirst_skip _ _ plain).trans ih
  rw [literal, afterFirst_step (no_marker_at_literal tail isName s rest notColon), inside]

theorem afterFirst_other_field {other : Bytes} (isOther : IsName other) (differ : name ≠ other)
    (rest : Bytes) : afterFirst (marker name tail) (field other rest) =
      afterFirst (marker name tail) rest := by
  have colonOutside : colon ∉ name := by
    intro member
    exact absurd (isName.2 colon member) (by decide)
  have first : ¬ marker name tail <+: field other rest := by
    intro found
    exact differ (name_eq_of_start (name_no_quote isName) (name_no_quote isOther) _ _
      (List.cons_prefix_cons.mp found).2)
  have skipName := @afterFirst_skip (name ++ quote :: colon :: tail) quote other
    (quote :: colon :: rest) (name_no_quote isOther)
  rw [field, afterFirst_step first]
  refine skipName.trans ?_
  rw [← marker, afterFirst_step (no_marker_before tail isName rest colonOutside),
    afterFirst_other tail rest (by decide)]

theorem afterFirst_int_claim {other : Bytes} (isOther : IsName other) (differ : name ≠ other)
    (n : Int) (rest : Bytes) :
    afterFirst (marker name tail) (field other (intText n ++ comma :: rest)) =
      afterFirst (marker name tail) rest := by
  rw [afterFirst_other_field tail isName isOther differ, afterFirst_number,
    afterFirst_other tail rest (by decide)]

theorem afterFirst_string_claim {other : Bytes} (isOther : IsName other) (differ : name ≠ other)
    (s rest : Bytes) :
    afterFirst (marker name tail) (field other (literal s (comma :: rest))) =
      afterFirst (marker name tail) rest := by
  have commaOutside : comma ∉ name := fun member => (name_byte isName member).2.2 rfl
  rw [afterFirst_other_field tail isName isOther differ,
    afterFirst_literal tail isName s rest (by decide) commaOutside,
    afterFirst_other tail rest (by decide)]

end search

/-- What the scanner makes of an escaped byte: it drops the backslash and keeps the letter. -/
def unescapedByte (c : UInt8) : UInt8 :=
  if c = 10 then 110 else if c = 13 then 114 else if c = 9 then 116 else c

def readBack (s : Bytes) : Bytes := s.map unescapedByte

theorem scanString_byte (b : UInt8) (value rest : Bytes) :
    scanString false value (jsonEscapeByte b ++ rest) =
      scanString false (value ++ [unescapedByte b]) rest := by
  unfold jsonEscapeByte
  split
  · rename_i isQuote
    simp [scanString, isQuote, unescapedByte, quote, backslash]
  · rename_i notQuote
    split
    · rename_i isBackslash
      simp [scanString, isBackslash, unescapedByte, backslash]
    · rename_i notBackslash
      split
      · rename_i newline
        subst newline
        rfl
      · split
        · rename_i carriage
          subst carriage
          rfl
        · split
          · rename_i tab
            subst tab
            rfl
          · simp [scanString, unescapedByte, *]

theorem scanString_escape (s value rest : Bytes) :
    scanString false value (jsonEscape s ++ quote :: rest) = some (value ++ readBack s) := by
  induction s generalizing value with
  | nil => simp [jsonEscape, scanString, readBack, quote, backslash]
  | cons b s ih =>
    rw [jsonEscape_cons, List.append_assoc, scanString_byte, ih]
    simp [readBack]

theorem jsonStringValue_marker (json key : Bytes) :
    jsonStringValue json key =
      (afterFirst (marker key [quote]) json).bind (scanString false []) := by
  simp [jsonStringValue, marker]

theorem jsonStringValue_own (key s rest : Bytes) :
    jsonStringValue (field key (literal s rest)) key = some (readBack s) := by
  rw [jsonStringValue_marker, afterFirst_own_string]
  exact scanString_escape s [] rest

def intPrefix (rest : Bytes) : Option Int :=
  let digits := rest.takeWhile fun c => c == 45 || isDigit c
  if digits = [] then none
  else
    match stoll digits with
    | .ok n => some n
    | .error _ => none

theorem jsonIntValue_marker (json key : Bytes) :
    jsonIntValue json key = (afterFirst (marker key []) json).bind intPrefix := by
  simp only [jsonIntValue, marker, List.cons_append, List.nil_append]
  rfl

theorem jsonIntValue_own {n : Int} (range : -2 ^ 63 ≤ n ∧ n ≤ 2 ^ 63 - 1) (key rest : Bytes) :
    jsonIntValue (field key (intText n ++ comma :: rest)) key = some n := by
  have whole : (intText n ++ comma :: rest).takeWhile (fun c => c == 45 || isDigit c) =
      intText n := by
    rw [List.takeWhile_append_of_pos fun c member => by simpa using intText_bytes n c member]
    simp [comma, isDigit]
  have reads : leadingInteger (intText n) = some n := by
    simpa using leadingInteger_intText n [] (by simp)
  have converts : stoll (intText n) = .ok n := by
    simp only [stoll, convertInteger, reads, range, and_self, ↓reduceIte]
  rw [jsonIntValue_marker, afterFirst_own_int]
  simp only [Option.bind_some, intPrefix, whole, intText_ne_nil, ↓reduceIte, converts]

section payload
variable (userId : Int64) (username role requestId : Bytes) (now expiresAt : Int)

theorem payload_sub :
    jsonIntValue (payloadJson userId username role requestId now expiresAt) (bytes "sub") =
      some userId.toInt := by
  have range : -2 ^ 63 ≤ userId.toInt ∧ userId.toInt ≤ 2 ^ 63 - 1 := by
    have low := userId.le_toInt
    have high := userId.toInt_lt
    omega
  rw [payloadJson_eq, jsonIntValue_marker, afterFirst_brace, ← jsonIntValue_marker]
  exact jsonIntValue_own range _ _

theorem payload_username :
    jsonStringValue (payloadJson userId username role requestId now expiresAt)
      (bytes "username") = some (readBack username) := by
  have isName : IsName (bytes "username") := by decide
  rw [payloadJson_eq, jsonStringValue_marker, afterFirst_brace,
    afterFirst_int_claim [quote] isName (by decide) (by decide), ← jsonStringValue_marker]
  exact jsonStringValue_own _ _ _

theorem payload_role :
    jsonStringValue (payloadJson userId username role requestId now expiresAt)
      (bytes "role") = some (readBack role) := by
  have isName : IsName (bytes "role") := by decide
  rw [payloadJson_eq, jsonStringValue_marker, afterFirst_brace,
    afterFirst_int_claim [quote] isName (by decide) (by decide),
    afterFirst_string_claim [quote] isName (by decide) (by decide), ← jsonStringValue_marker]
  exact jsonStringValue_own _ _ _

theorem payload_iat (range : -2 ^ 63 ≤ now ∧ now ≤ 2 ^ 63 - 1) :
    jsonIntValue (payloadJson userId username role requestId now expiresAt) (bytes "iat") =
      some now := by
  have isName : IsName (bytes "iat") := by decide
  rw [payloadJson_eq, jsonIntValue_marker, afterFirst_brace,
    afterFirst_int_claim [] isName (by decide) (by decide),
    afterFirst_string_claim [] isName (by decide) (by decide),
    afterFirst_string_claim [] isName (by decide) (by decide), ← jsonIntValue_marker]
  exact jsonIntValue_own range _ _

theorem payload_exp (range : -2 ^ 63 ≤ expiresAt ∧ expiresAt ≤ 2 ^ 63 - 1) :
    jsonIntValue (payloadJson userId username role requestId now expiresAt) (bytes "exp") =
      some expiresAt := by
  have isName : IsName (bytes "exp") := by decide
  rw [payloadJson_eq, jsonIntValue_marker, afterFirst_brace,
    afterFirst_int_claim [] isName (by decide) (by decide),
    afterFirst_string_claim [] isName (by decide) (by decide),
    afterFirst_string_claim [] isName (by decide) (by decide),
    afterFirst_int_claim [] isName (by decide) (by decide), ← jsonIntValue_marker]
  exact jsonIntValue_own range _ _

end payload

theorem issue_times_fit (system : SystemClock) (ttl : Int32) :
    (-2 ^ 63 ≤ nowUnixSeconds system ∧ nowUnixSeconds system ≤ 2 ^ 63 - 1) ∧
    (-2 ^ 63 ≤ nowUnixSeconds system + ttl.toInt ∧
      nowUnixSeconds system + ttl.toInt ≤ 2 ^ 63 - 1) := by
  have low := system.now.le_toInt
  have high := system.now.toInt_lt
  have ttlLow := ttl.le_toInt
  have ttlHigh := ttl.toInt_lt
  have quotient : (nowUnixSeconds system).natAbs = system.now.toInt.natAbs / 1000000000 :=
    Int.natAbs_tdiv _ _
  omega

theorem differences_iff {lhs rhs : Bytes} (same : lhs.length = rhs.length) (diff : UInt8) :
    (lhs.zipWith (· ^^^ ·) rhs).foldl (· ||| ·) diff = 0 ↔ diff = 0 ∧ lhs = rhs := by
  induction lhs generalizing rhs diff with
  | nil =>
    have empty := List.length_eq_zero_iff.mp same.symm
    simp [empty]
  | cons c lhs ih =>
    cases rhs with
    | nil => cases same
    | cons d rhs =>
      have tails := ih (Nat.succ.inj same) (diff ||| (c ^^^ d))
      simp only [List.zipWith_cons_cons, List.foldl_cons, tails, UInt8.or_eq_zero_iff,
        UInt8.xor_eq_zero_iff, List.cons.injEq, and_assoc]

theorem constantTimeEquals_iff (lhs rhs : Bytes) : constantTimeEquals lhs rhs = true ↔ lhs = rhs := by
  unfold constantTimeEquals
  split
  · rename_i differ
    simp only [Bool.false_eq_true, false_iff]
    rintro rfl
    exact differ rfl
  · rename_i same
    rw [beq_iff_eq, differences_iff (by simpa using same)]
    simp

/-- The dots of a token are where the segments end when no segment before them has one. -/
theorem find_first_dot {header : Bytes} (plain : dot ∉ header) (rest : Bytes) :
    find [dot] (header ++ dot :: rest) = some header.length :=
  find_single_absent plain rest

theorem find_second_dot {header body : Bytes} (plain : dot ∉ body) (signature : Bytes) :
    findFrom [dot] (header ++ dot :: (body ++ dot :: signature)) (header.length + 1) =
      some (body.length + (header.length + 1)) := by
  have skip : (header ++ dot :: (body ++ dot :: signature)).drop (header.length + 1) =
      body ++ dot :: signature := by simp
  rw [findFrom, skip, find_first_dot plain]
  rfl

theorem signedPayload_joined (config : AuthConfig) {header body : Bytes} (signature : Bytes)
    (plainHeader : dot ∉ header) (plainBody : dot ∉ body) :
    signedPayload config (header ++ dot :: (body ++ dot :: signature)) =
      match base64UrlDecode header with
      | none => none
      | some decodedHeader =>
        if find (bytes "\"alg\":\"HS256\"") decodedHeader = none then none
        else if !constantTimeEquals signature (sign config header body) then none
        else base64UrlDecode body := by
  have first : (header ++ dot :: (body ++ dot :: signature)).take header.length = header := by simp
  have rest : (header ++ dot :: (body ++ dot :: signature)).drop (header.length + 1) =
      body ++ dot :: signature := by simp
  have middle : (body ++ dot :: signature).take (body.length + (header.length + 1) -
      header.length - 1) = body := by
    rw [show body.length + (header.length + 1) - header.length - 1 = body.length by omega]
    simp
  have last : (header ++ dot :: (body ++ dot :: signature)).drop
      (body.length + (header.length + 1) + 1) = signature := by
    rw [show body.length + (header.length + 1) + 1 = header.length + 1 + (body.length + 1) by omega,
      ← List.drop_drop, rest]
    simp
  have cut := signedPayload.eq_1 config (header ++ dot :: (body ++ dot :: signature))
  simp only [find_first_dot plainHeader, find_second_dot plainBody, first, rest, middle,
    last] at cut
  exact cut

theorem signedPayload_signedToken (config : AuthConfig) (payload : Bytes) :
    signedPayload config (signedToken config payload) = some payload := by
  have algorithm : find (bytes "\"alg\":\"HS256\"") headerJson ≠ none := by decide
  have joined : signedToken config payload = base64UrlEncode headerJson ++ dot ::
      (base64UrlEncode payload ++ dot ::
        sign config (base64UrlEncode headerJson) (base64UrlEncode payload)) := by
    simp [signedToken]
  rw [joined, signedPayload_joined config _ (base64UrlEncode_no_dot headerJson)
    (base64UrlEncode_no_dot payload)]
  simp only [base64Url_round_trip, algorithm, ↓reduceIte, (constantTimeEquals_iff _ _).mpr rfl,
    Bool.not_true, Bool.false_eq_true]

theorem readClaims_payloadJson (userId : Int64) (username role requestId : Bytes)
    {now expiresAt : Int} (issued : -2 ^ 63 ≤ now ∧ now ≤ 2 ^ 63 - 1)
    (expires : -2 ^ 63 ≤ expiresAt ∧ expiresAt ≤ 2 ^ 63 - 1) :
    readClaims (payloadJson userId username role requestId now expiresAt) =
      some ⟨userId.toInt, readBack username, readBack role, now, expiresAt⟩ := by
  simp only [readClaims, payload_sub, payload_username, payload_role, payload_iat _ _ _ _ _ _ issued,
    payload_exp _ _ _ _ _ _ expires, Option.getD_some]

theorem validateToken_issueToken (config : AuthConfig) (userId : Int64)
    (username role requestId : Bytes) (issuing validating : Env State) :
    (validateToken config (issueToken config userId username role requestId issuing).1
      validating).1 =
      if nowUnixSeconds issuing.system + config.tokenTtlSeconds.toInt ≤
          nowUnixSeconds validating.system then none
      else some ⟨userId.toInt, readBack username, readBack role, nowUnixSeconds issuing.system,
        nowUnixSeconds issuing.system + config.tokenTtlSeconds.toInt⟩ := by
  obtain ⟨issued, expires⟩ := issue_times_fit issuing.system config.tokenTtlSeconds
  simp only [validateToken, issueToken, signedPayload_signedToken, Option.bind_some,
    readClaims_payloadJson userId username role requestId issued expires]
  split <;> rfl

end TgwTokenPayload
