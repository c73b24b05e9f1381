import TgwGateway.Common.Exceptions
import TgwGateway.Common.Status

/- How the local RPC client reads queries and flat JSON bodies. A position in a text is the rest
   of the text that begins there. -/
namespace TgwFlatJson
open ByteStrings DecimalText TgwExceptions TgwStatus

abbrev FieldMap := ByteMap Bytes

def isHex (c : UInt8) : Bool :=
  (48 ≤ c && c ≤ 57) || (97 ≤ c && c ≤ 102) || (65 ≤ c && c ≤ 70)

def hexValue (c : UInt8) : UInt8 :=
  if 48 ≤ c && c ≤ 57 then c - 48
  else if 97 ≤ c && c ≤ 102 then c - 97 + 10
  else if 65 ≤ c && c ≤ 70 then c - 65 + 10
  else 0

def urlDecode : Bytes → Bytes
  | c :: high :: low :: rest =>
    if c = 43 then 32 :: urlDecode (high :: low :: rest)
    else if c = 37 && isHex high && isHex low then
      (hexValue high * 16 + hexValue low) :: urlDecode rest
    else c :: urlDecode (high :: low :: rest)
  | c :: rest => (if c = 43 then 32 else c) :: urlDecode rest
  | [] => []

def addPart (result : FieldMap) (part : Bytes) : FieldMap :=
  if part = [] then result
  else
    let key := urlDecode (part.takeWhile (· ≠ 61))
    let value := urlDecode ((part.dropWhile (· ≠ 61)).drop 1)
    result.insert key value

def parseQuery (query : Bytes) : FieldMap := (query.splitOn 38).foldl addPart ∅

def skipWhitespace (text : Bytes) : Bytes := text.dropWhile isSpace

def unescaped (c : UInt8) : UInt8 :=
  if c = 98 then 8
  else if c = 102 then 12
  else if c = 110 then 10
  else if c = 114 then 13
  else if c = 116 then 9
  else c

/-- The token after its opening quote, with the text that follows the closing one. -/
def parseStringBody : Bytes → Except CppException (Bytes × Bytes)
  | [] => .error (.runtimeError (bytes "unterminated json string"))
  | c :: rest =>
    if c = quote then .ok ([], rest)
    else if c = backslash then
      match rest with
      | [] => .error (.runtimeError (bytes "invalid json escape"))
      | escaped :: rest =>
        match parseStringBody rest with
        | .error e => .error e
        | .ok (result, after) => .ok (unescaped escaped :: result, after)
    else
      match parseStringBody rest with
      | .error e => .error e
      | .ok (result, after) => .ok (c :: result, after)

def parseJsonStringToken (text : Bytes) : Except CppException (Bytes × Bytes) :=
  match text with
  | [] => .error (.runtimeError (bytes "expected json string"))
  | c :: rest =>
    if c = quote then parseStringBody rest
    else .error (.runtimeError (bytes "expected json string"))

def endsScalar (c : UInt8) : Bool := c == 44 || c == 125 || isSpace c

def parseJsonScalarToken (text : Bytes) : Bytes × Bytes :=
  (text.takeWhile (!endsScalar ·), text.dropWhile (!endsScalar ·))

def parseMember (text : Bytes) : Except CppException (Bytes × Bytes × Bytes) :=
  match parseJsonStringToken text with
  | .error e => .error e
  | .ok (key, text) =>
    match skipWhitespace text with
    | [] => .error (.runtimeError (bytes "expected ':' after json key"))
    | c :: text =>
      if c ≠ 58 then .error (.runtimeError (bytes "expected ':' after json key"))
      else
        let text := skipWhitespace text
        if text.head? = some quote then
          match parseJsonStringToken text with
          | .error e => .error e
          | .ok (value, text) => .ok (key, value, text)
        else .ok (key, (parseJsonScalarToken text).1, (parseJsonScalarToken text).2)

/-- Every turn takes a quote off the text, so a turn for each byte is enough. -/
def parseMembers : Nat → FieldMap → Bytes → Except CppException FieldMap
  | 0, _, _ => .error (.runtimeError (bytes "expected json string"))
  | turns + 1, result, text =>
    let text := skipWhitespace text
    if text.head? = some 125 then .ok result
    else
      match parseMember text with
      | .error e => .error e
      | .ok (key, value, text) =>
        let result := result.insert key value
        match skipWhitespace text with
        | [] => .error (.runtimeError (bytes "expected ',' or '\x7d' in json object"))
        | c :: text =>
          if c = 44 then parseMembers turns result text
          else if c = 125 then .ok result
          else .error (.runtimeError (bytes "expected ',' or '\x7d' in json object"))

def parseFlatJsonObject (body : Bytes) : Except CppException FieldMap :=
  match skipWhitespace body with
  | [] => .ok ∅
  | c :: text =>
    if c ≠ 123 then .error (.runtimeError (bytes "json body must be an object"))
    else parseMembers (text.length + 1) ∅ text

def getString (fields : FieldMap) (key : Bytes) : Bytes := (fields[key]?).getD []

/-- GetInt64 with the fallback 0 of all its callers. -/
def getInt64 (fields : FieldMap) (key : Bytes) : Except CppException Int64 :=
  match fields[key]? with
  | none => .ok 0
  | some text =>
    if text = [] || text = bytes "null" then .ok 0 else (stoll text).map Int64.ofInt

theorem skipWhitespace_length (text : Bytes) : (skipWhitespace text).length ≤ text.length :=
  (List.dropWhile_sublist isSpace).length_le

theorem parseStringBody_length {text result after : Bytes}
    (read : parseStringBody text = .ok (result, after)) : after.length < text.length := by
  fun_induction parseStringBody text generalizing result with
  | case1 => cases read
  | case2 rest =>
    cases read
    simp
  | case3 => cases read
  | case4 => cases read
  | case5 escaped rest _ _ inner _ ih =>
    cases read
    have shorter := ih inner
    simp only [List.length_cons]
    omega
  | case6 => cases read
  | case7 c rest _ _ _ _ inner ih =>
    cases read
    have shorter := ih inner
    simp only [List.length_cons]
    omega

theorem parseJsonStringToken_length {text result after : Bytes}
    (read : parseJsonStringToken text = .ok (result, after)) : after.length < text.length := by
  unfold parseJsonStringToken at read
  split at read
  · cases read
  · split at read
    · have shorter := parseStringBody_length read
      simp only [List.length_cons]
      omega
    · cases read

theorem parseMember_length {text key value after : Bytes}
    (read : parseMember text = .ok (key, value, after)) : after.length < text.length := by
  unfold parseMember at read
  split at read
  · cases read
  · rename_i name rest inner
    have named := parseJsonStringToken_length inner
    have skipped := skipWhitespace_length rest
    split at read
    · cases read
    · rename_i c rest' colon
      rw [colon, List.length_cons] at skipped
      have skipped' := skipWhitespace_length rest'
      split at read
      · cases read
      · simp only at read
        split at read
        · split at read
          · cases read
          · rename_i inner'
            cases read
            have shorter := parseJsonStringToken_length inner'
            omega
        · cases read
          have shorter := (List.dropWhile_sublist (!endsScalar ·) (l := skipWhitespace rest')).length_le
          simp only [parseJsonScalarToken]
          omega

theorem parseMembers_turns {turns turns' : Nat} (result : FieldMap) (text : Bytes)
    (enough : text.length < turns) (enough' : text.length < turns') :
    parseMembers turns result text = parseMembers turns' result text := by
  induction turns generalizing turns' result text with
  | zero => omega
  | succ turns ih =>
    obtain ⟨turns', rfl⟩ := Nat.exists_eq_succ_of_ne_zero (show turns' ≠ 0 by omega)
    have skipped := skipWhitespace_length text
    simp only [parseMembers]
    split
    · rfl
    · split
      · rfl
      · rename_i key value rest member
        have shorter := parseMember_length member
        have skipped' := skipWhitespace_length rest
        split
        · rfl
        · rename_i c rest' found
          rw [found, List.length_cons] at skipped'
          split
          · exact ih _ _ (by omega) (by omega)
          · rfl

def IsRuntimeError (e : CppException) : Prop := ∃ what, e = .runtimeError what

theorem parseStringBody_error {text : Bytes} {e : CppException}
    (failed : parseStringBody text = .error e) : IsRuntimeError e := by
  fun_induction parseStringBody text with
  | case1 =>
    cases failed
    exact ⟨_, rfl⟩
  | case2 rest => cases failed
  | case3 =>
    cases failed
    exact ⟨_, rfl⟩
  | case4 escaped rest e' inner _ ih =>
    cases failed
    exact ih inner
  | case5 => cases failed
  | case6 c rest _ _ e' inner ih =>
    cases failed
    exact ih inner
  | case7 => cases failed

theorem parseJsonStringToken_error {text : Bytes} {e : CppException}
    (failed : parseJsonStringToken text = .error e) : IsRuntimeError e := by
  unfold parseJsonStringToken at failed
  split at failed
  · cases failed
    exact ⟨_, rfl⟩
  · split at failed
    · exact parseStringBody_error failed
    · cases failed
      exact ⟨_, rfl⟩

theorem parseMember_error {text : Bytes} {e : CppException}
    (failed : parseMember text = .error e) : IsRuntimeError e := by
  unfold parseMember at failed
  split at failed
  · rename_i inner
    cases failed
    exact parseJsonStringToken_error inner
  · split at failed
    · cases failed
      exact ⟨_, rfl⟩
    · split at failed
      · cases failed
        exact ⟨_, rfl⟩
      · simp only at failed
        split at failed
        · split at failed
          · rename_i inner
            cases failed
            exact parseJsonStringToken_error inner
          · cases failed
        · cases failed

theorem parseMembers_error {turns : Nat} {result : FieldMap} {text : Bytes} {e : CppException}
    (failed : parseMembers turns result text = .error e) : IsRuntimeError e := by
  induction turns generalizing result text with
  | zero =>
    cases failed
    exact ⟨_, rfl⟩
  | succ turns ih =>
    simp only [parseMembers] at failed
    split at failed
    · cases failed
    · split at failed
      · rename_i inner
        cases failed
        exact parseMember_error inner
      · split at failed
        · cases failed
          exact ⟨_, rfl⟩
        · split at failed
          · exact ih failed
          · split at failed
            · cases failed
            · cases failed
              exact ⟨_, rfl⟩

theorem parseFlatJsonObject_error {body : Bytes} {e : CppException}
    (failed : parseFlatJsonObject body = .error e) : IsRuntimeError e := by
  unfold parseFlatJsonObject at failed
  split at failed
  · cases failed
  · split at failed
    · cases failed
      exact ⟨_, rfl⟩
    · exact parseMembers_error failed

end TgwFlatJson
