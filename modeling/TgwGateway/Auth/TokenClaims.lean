import TgwGateway.Auth.TokenPayload

/- What a validated token says about the user it was issued to. -/
namespace TgwTokenClaims
open ByteStrings TgwClock TgwConfig TgwTokenService TgwTokenPayload
variable {State : Type}

/-- No username and no request id reaches the subject, the role or the times. -/
theorem issued_claims (config : AuthConfig) (userId : Int64) (username role requestId : Bytes)
    (issuing : Env State) :
    let now := nowUnixSeconds issuing.system
    let expiresAt := now + config.tokenTtlSeconds.toInt
    let payload := payloadJson userId username role requestId now expiresAt
    (issueToken config userId username role requestId issuing).1 = signedToken config payload ∧
    jsonIntValue payload (bytes "sub") = some userId.toInt ∧
    jsonIntValue payload (bytes "iat") = some now ∧
    jsonIntValue payload (bytes "exp") = some expiresAt ∧
    jsonStringValue payload (bytes "role") = some (readBack role) ∧
    ∀ validating : Env State,
      ((validateToken config (signedToken config payload) validating).1.map fun record =>
        (record.userId, record.role, record.issuedAt, record.expiresAt)) =
      if expiresAt ≤ nowUnixSeconds validating.system then none
      else some (userId.toInt, readBack role, now, expiresAt) := by
  intro now expiresAt payload
  obtain ⟨issued, expires⟩ := issue_times_fit issuing.system config.tokenTtlSeconds
  refine ⟨rfl, payload_sub userId username role requestId now expiresAt,
    payload_iat userId username role requestId now expiresAt issued,
    payload_exp userId username role requestId now expiresAt expires,
    payload_role userId username role requestId now expiresAt, ?_⟩
  intro validating
  have validated := validateToken_issueToken config userId username role requestId issuing validating
  rw [show signedToken config payload =
    (issueToken config userId username role requestId issuing).1 from rfl, validated]
  split
  · rfl
  · rfl

/-- The bytes that are escaped by a letter are the ones that do not come back. -/
def SurvivesEscape (s : Bytes) : Prop := ∀ c ∈ s, c ≠ 10 ∧ c ≠ 13 ∧ c ≠ 9

theorem unescapedByte_eq_iff (c : UInt8) : unescapedByte c = c ↔ c ≠ 10 ∧ c ≠ 13 ∧ c ≠ 9 := by
  unfold unescapedByte
  constructor
  · intro same
    refine ⟨?_, ?_, ?_⟩ <;> rintro rfl <;> exact absurd same (by decide)
  · rintro ⟨newline, carriage, tab⟩
    simp [newline, carriage, tab]

theorem readBack_eq_iff (s : Bytes) : readBack s = s ↔ SurvivesEscape s := by
  induction s with
  | nil => simp [readBack, SurvivesEscape]
  | cons c s ih =>
    simp only [readBack, SurvivesEscape, List.forall_mem_cons] at ih ⊢
    rw [List.map_cons, List.cons.injEq, unescapedByte_eq_iff, ih]

def ValidatesAs (config : AuthConfig) (token : Bytes) (validating : Env State) (userId : Int64)
    (username role : Bytes) : Prop :=
  ∃ record, (validateToken config token validating).1 = some record ∧
    record.userId = userId.toInt ∧ record.username = username ∧ record.role = role

theorem validatesAs_iff (config : AuthConfig) (userId : Int64) (username role requestId : Bytes)
    (issuing validating : Env State)
    (alive : nowUnixSeconds validating.system <
      nowUnixSeconds issuing.system + config.tokenTtlSeconds.toInt) :
    ValidatesAs config (issueToken config userId username role requestId issuing).1 validating
      userId username role ↔ SurvivesEscape username ∧ SurvivesEscape role := by
  rw [ValidatesAs, validateToken_issueToken, if_neg (by omega), ← readBack_eq_iff,
    ← readBack_eq_iff]
  constructor
  · rintro ⟨record, same, _, name, role⟩
    obtain rfl := Option.some.inj same
    exact ⟨name, role⟩
  · rintro ⟨name, role⟩
    exact ⟨_, rfl, rfl, name, role⟩

/-- A token gives its user back at every time it is alive exactly when the username and the role
   survive; users with different surviving names are never taken for each other. -/
theorem identity_preserved_iff (config : AuthConfig) (lifetime : 1 ≤ config.tokenTtlSeconds.toInt)
    (userId : Int64) (username role requestId : Bytes) (issuing : Env State) :
    ((∀ validating : Env State, nowUnixSeconds validating.system <
        nowUnixSeconds issuing.system + config.tokenTtlSeconds.toInt →
      ValidatesAs config (issueToken config userId username role requestId issuing).1 validating
        userId username role) ↔ SurvivesEscape username ∧ SurvivesEscape role) ∧
    ∀ (otherId : Int64) (otherName otherRole otherRequest : Bytes)
      (otherIssuing validating validating' : Env State) (record record' : TokenRecord),
      username ≠ otherName → SurvivesEscape username → SurvivesEscape otherName →
      (validateToken config (issueToken config userId username role requestId issuing).1
        validating).1 = some record →
      (validateToken config (issueToken config otherId otherName otherRole otherRequest
        otherIssuing).1 validating').1 = some record' →
      record.username ≠ record'.username := by
  constructor
  · constructor
    · intro always
      have here := always issuing (by omega)
      exact (validatesAs_iff config userId username role requestId issuing issuing
        (by omega)).mp here
    · intro survives validating alive
      exact (validatesAs_iff config userId username role requestId issuing validating
        alive).mpr survives
  · intro otherId otherName otherRole otherRequest otherIssuing validating validating' record
      record' differ survives otherSurvives validated validated'
    rw [validateToken_issueToken] at validated validated'
    split at validated
    · simp at validated
    · split at validated'
      · simp at validated'
      · obtain rfl := Option.some.inj validated
        obtain rfl := Option.some.inj validated'
        simpa [(readBack_eq_iff _).mpr survives, (readBack_eq_iff _).mpr otherSurvives] using differ

section newline
def midnight : Env Unit := ⟨ticking 0, stopped 0, none, ()⟩

theorem identity_preserved_iff_admin :
    ((∀ validating : Env Unit, nowUnixSeconds validating.system <
        nowUnixSeconds midnight.system + (7200 : Int32).toInt →
      ValidatesAs {} (issueToken {} 10001 (bytes "admin") (bytes "admin") (bytes "req-1")
        midnight).1 validating 10001 (bytes "admin") (bytes "admin")) ↔
      SurvivesEscape (bytes "admin") ∧ SurvivesEscape (bytes "admin")) :=
  (identity_preserved_iff {} (by decide) 10001 _ _ _ midnight).1

/-- The newline comes back as the letter n, so the two users become one. -/
theorem newline_becomes_letter :
    ¬ (∀ validating : Env Unit, nowUnixSeconds validating.system <
        nowUnixSeconds midnight.system + (7200 : Int32).toInt →
      ValidatesAs {} (issueToken {} 1 (bytes "a\nb") (bytes "user") [] midnight).1 validating
        1 (bytes "a\nb") (bytes "user")) ∧
    (validateToken {} (issueToken {} 1 (bytes "a\nb") (bytes "user") [] midnight).1 midnight).1 =
      (validateToken {} (issueToken {} 1 (bytes "anb") (bytes "user") [] midnight).1 midnight).1 := by
  constructor
  · intro always
    have alive : nowUnixSeconds midnight.system <
        nowUnixSeconds midnight.system + (7200 : Int32).toInt := by decide
    obtain ⟨survives, _⟩ := (validatesAs_iff {} 1 (bytes "a\nb") (bytes "user") [] midnight
      midnight alive).mp (always midnight alive)
    exact (survives 10 (by decide)).1 rfl
  · rw [validateToken_issueToken, validateToken_issueToken]
    have same : readBack (bytes "a\nb") = readBack (bytes "anb") := by decide
    rw [same]

end newline

end TgwTokenClaims
