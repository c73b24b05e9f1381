import TgwGateway.Auth.TokenPayload

/- The signature of an accepted token: it is the one of the two segments before it, and no other
   text in its place is accepted. -/
namespace TgwTokenSignature
open ByteStrings ByteSearch TgwBase64Url TgwClock TgwConfig TgwTokenService TgwTokenPayload

variable {State : Type}

theorem token_segments (token : Bytes) :
    (∃ header payload signature, dot ∉ header ∧ dot ∉ payload ∧
        token = header ++ dot :: (payload ++ dot :: signature)) ∨
      ∀ config, signedPayload config token = none := by
  by_cases first : dot ∈ token
  · obtain ⟨header, rest, rfl, plainHeader⟩ := List.eq_append_cons_of_mem first
    by_cases second : dot ∈ rest
    · obtain ⟨payload, signature, rfl, plainPayload⟩ := List.eq_append_cons_of_mem second
      exact Or.inl ⟨header, payload, signature, plainHeader, plainPayload, rfl⟩
    · refine Or.inr fun config => ?_
      have skip : (header ++ dot :: rest).drop (header.length + 1) = rest := by simp
      simp only [signedPayload, find_first_dot plainHeader, findFrom, skip, find_single_none second,
        Option.map_none]
  · refine Or.inr fun config => ?_
    simp only [signedPayload, find_single_none first]

theorem signedPayload_signature {config : AuthConfig} {header payload signature decoded : Bytes}
    (plainHeader : dot ∉ header) (plainPayload : dot ∉ payload)
    (accepted : signedPayload config (header ++ dot :: (payload ++ dot :: signature)) =
      some decoded) : signature = sign config header payload := by
  rw [signedPayload_joined config signature plainHeader plainPayload] at accepted
  split at accepted
  · cases accepted
  · split at accepted
    · cases accepted
    · split at accepted
      · cases accepted
      · rename_i equal
        simp only [Bool.not_eq_true', Bool.not_eq_false] at equal
        exact (constantTimeEquals_iff _ _).mp equal

theorem validateToken_signed {config : AuthConfig} {token : Bytes} {env : Env State}
    (accepted : (validateToken config token env).1.isSome = true) :
    ∃ payload, signedPayload config token = some payload := by
  cases signed : signedPayload config token with
  | none => simp [validateToken, signed] at accepted
  | some payload => exact ⟨payload, rfl⟩

/-- An accepted token is its first two segments and their signature. -/
theorem accepted_segments {config : AuthConfig} {token : Bytes} {env : Env State}
    (accepted : (validateToken config token env).1.isSome = true) :
    ∃ header payload, dot ∉ header ∧ dot ∉ payload ∧
      token = header ++ dot :: (payload ++ dot :: sign config header payload) := by
  obtain ⟨decoded, signed⟩ := validateToken_signed accepted
  rcases token_segments token with
    ⟨header, payload, signature, plainHeader, plainPayload, rfl⟩ | refused
  · have exact_signature := signedPayload_signature plainHeader plainPayload signed
    rw [exact_signature]
    exact ⟨header, payload, plainHeader, plainPayload, rfl⟩
  · rw [refused config] at signed
    cases signed

theorem first_segments {header payload : Bytes} (plainHeader : dot ∉ header)
    (plainPayload : dot ∉ payload) (signature : Bytes) :
    ((header ++ dot :: (payload ++ dot :: signature)).splitOn dot).take 2 = [header, payload] := by
  rw [List.splitOn_append_cons_self_of_not_mem plainHeader,
    List.splitOn_append_cons_self_of_not_mem plainPayload]
  rfl

/-- Among the texts with the same first two segments an accepted token is the only accepted one. -/
theorem signature_is_exact (config : AuthConfig) {token : Bytes} {env : Env State}
    (accepted : (validateToken config token env).1.isSome = true) :
    (∃ header payload, dot ∉ header ∧ dot ∉ payload ∧
        token = header ++ dot :: (payload ++ dot :: sign config header payload)) ∧
      ∀ other : Bytes, (other.splitOn dot).take 2 = (token.splitOn dot).take 2 →
        ((validateToken config other env).1.isSome = true ↔ other = token) := by
  have segments := accepted_segments accepted
  refine ⟨segments, fun other same => ⟨fun otherAccepted => ?_, ?_⟩⟩
  · obtain ⟨header, payload, plainHeader, plainPayload, rfl⟩ := segments
    obtain ⟨header', payload', plainHeader', plainPayload', rfl⟩ := accepted_segments otherAccepted
    rw [first_segments plainHeader plainPayload, first_segments plainHeader' plainPayload'] at same
    cases same
    rfl
  · rintro rfl
    exact accepted

section issued

def noon : Env Unit := ⟨ticking 0, stopped 43200000000000, none, ()⟩

def adminToken : Bytes :=
  (issueToken {} 10001 (bytes "admin") (bytes "admin") (bytes "req-1") noon).1

theorem adminToken_accepted : (validateToken {} adminToken noon).1.isSome = true := by
  rw [adminToken, validateToken_issueToken, if_neg (by decide)]
  rfl

theorem signature_is_exact_admin :
    (∃ header payload, dot ∉ header ∧ dot ∉ payload ∧
        adminToken = header ++ dot :: (payload ++ dot :: sign {} header payload)) ∧
      ∀ other : Bytes, (other.splitOn dot).take 2 = (adminToken.splitOn dot).take 2 →
        ((validateToken {} other noon).1.isSome = true ↔ other = adminToken) :=
  signature_is_exact {} adminToken_accepted

end issued

end TgwTokenSignature
