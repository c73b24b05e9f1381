import TgwGateway.Gateway.EncodedFields
import TgwGateway.Lib.JsonPrinter

/- What the client reads in a well-formed flat object, against what the object says. The reader
   takes an escape of four digits for the letter u and the digits. -/
namespace TgwFlatJsonMeaning
open ByteStrings DecimalText JsonGrammar JsonStrings JsonScan
open TgwFlatJson TgwLooseJson TgwEncodedFields

def IsFlat : JsonTree → Prop
  | .array _ => False
  | .object _ => False
  | _ => True

/-- The decoded string, or the literal text of a value that is none. -/
def valueText : JsonTree → Option Bytes
  | .null => some (bytes "null")
  | .bool true => some (bytes "true")
  | .bool false => some (bytes "false")
  | .number literal => some literal
  | .string body => decoded body
  | .array _ => none
  | .object _ => none

def addMember (fields : FieldMap) (member : Bytes × JsonTree) : Option FieldMap := do
  return fields.insert (← decoded member.1) (← valueText member.2)

/-- The decoded keys with their last values; none where a string stands for no characters. -/
def lastValues (members : List (Bytes × JsonTree)) : Option FieldMap := members.foldlM addMember ∅

/-- The body with the five characters in place of each escape of four digits. -/
def spelledBody : Bytes → Bytes
  | 92 :: c :: body => if c = 117 then 117 :: spelledBody body else 92 :: c :: spelledBody body
  | c :: body => c :: spelledBody body
  | [] => []

def spelledTree : JsonTree → JsonTree
  | .string body => .string (spelledBody body)
  | tree => tree

def spelled (member : Bytes × JsonTree) : Bytes × JsonTree :=
  (spelledBody member.1, spelledTree member.2)

def DecodesAs (body : Bytes) (members : List (Bytes × JsonTree)) : Prop :=
  ∃ fields, parseFlatJsonObject body = .ok fields ∧ lastValues members = some fields

theorem spelledBody_plain {c : UInt8} (noBackslash : c ≠ 92) (body : Bytes) :
    spelledBody (c :: body) = c :: spelledBody body := by
  rw [spelledBody]
  intro d rest backslash _
  exact noBackslash backslash

theorem hexDigit_plain {c : UInt8} (hex : isHexDigit c = true) : c ≠ 34 ∧ c ≠ 92 :=
  (hexDigit_cases hex).2

theorem stringTail_loose {text body rest : Bytes} (tail : StringTail text body rest) :
    ∃ value, decoded (spelledBody body) = some value ∧ LooseTail text value rest := by
  have pieced : ∃ value, pieces (spelledBody body) = value.map Piece.octet ∧
      LooseTail text value rest := by
    induction tail with
    | close => exact ⟨[], rfl, LooseTail.close⟩
    | @unescaped c _ _ _ _ noQuote noBackslash _ ih =>
      obtain ⟨value, whole, loose⟩ := ih
      refine ⟨c :: value, ?_, LooseTail.octet noQuote noBackslash loose⟩
      rw [spelledBody_plain noBackslash, pieces_plain noBackslash, whole, List.map_cons]
    | @escape c _ _ _ known _ ih =>
      obtain ⟨value, whole, loose⟩ := ih
      have noUnit : c ≠ 117 := by
        rintro rfl
        exact absurd known (by decide)
      refine ⟨escapeValue c :: value, ?_, LooseTail.escape loose⟩
      rw [spelledBody, if_neg noUnit, pieces_escape noUnit, whole, List.map_cons]
    | @unicode a b c d _ _ _ hex _ ih =>
      obtain ⟨value, whole, loose⟩ := ih
      have digit := fun x member => hexDigit_plain (hex x member)
      obtain ⟨aQuote, aSlash⟩ := digit a (by simp)
      obtain ⟨bQuote, bSlash⟩ := digit b (by simp)
      obtain ⟨cQuote, cSlash⟩ := digit c (by simp)
      obtain ⟨dQuote, dSlash⟩ := digit d (by simp)
      refine ⟨117 :: a :: b :: c :: d :: value, ?_, LooseTail.escape (LooseTail.octet aQuote aSlash
        (LooseTail.octet bQuote bSlash (LooseTail.octet cQuote cSlash
          (LooseTail.octet dQuote dSlash loose))))⟩
      rw [spelledBody, if_pos rfl, spelledBody_plain aSlash, spelledBody_plain bSlash,
        spelledBody_plain cSlash, spelledBody_plain dSlash, pieces_plain (by decide),
        pieces_plain aSlash, pieces_plain bSlash, pieces_plain cSlash, pieces_plain dSlash, whole]
      rfl
  obtain ⟨value, whole, loose⟩ := pieced
  exact ⟨value, by rw [decoded, whole, octets_map_octet], loose⟩

theorem blanks_spaces {text rest : Bytes} (blanks : Blanks text rest) : Spaces text rest := by
  obtain ⟨blank, rfl, all⟩ := blanks
  refine ⟨blank, rfl, fun c member => ?_⟩
  rcases isBlank_cases (all c member) with rfl | rfl | rfl | rfl <;> rfl

theorem scalar_loose {word rest : Bytes} (nonempty : word ≠ []) (noQuote : word.head? ≠ some 34)
    (within : ∀ c ∈ word, endsScalar c = false) : LooseValue (word ++ rest) word rest := by
  refine LooseValue.scalar ?_ within
  obtain ⟨c, tail, rfl⟩ := List.exists_cons_of_ne_nil nonempty
  exact noQuote

theorem number_loose {literal rest : Bytes} (form : NumberText literal) :
    LooseValue (literal ++ rest) literal rest := by
  have octets := numberText_octets form
  have within : ∀ c ∈ numberOctets, endsScalar c = false ∧ c ≠ 34 := by
    have all := List.all_eq_true.mp
      (show numberOctets.all (fun c => !endsScalar c && c != 34) = true by decide)
    intro c member
    simpa using all c member
  have value : Value (literal ++ []) (.number literal) [] := Value.number form
  obtain ⟨c, tail, whole, starts⟩ := value_head value
  rw [List.append_nil] at whole
  refine scalar_loose (by rw [whole]; simp) ?_ fun c member => (within c (octets c member)).1
  rw [whole, List.head?_cons]
  intro same
  have first := (within c (octets c (by rw [whole]; simp))).2
  exact first (Option.some.inj same)

theorem value_loose {text rest : Bytes} {tree : JsonTree} (value : Value text tree rest)
    (flat : IsFlat tree) :
    ∃ read, valueText (spelledTree tree) = some read ∧ LooseValue text read rest := by
  have words : ∀ word ∈ [bytes "null", bytes "true", bytes "false"], word ≠ [] ∧
      word.head? ≠ some 34 ∧ word.all (fun c => !endsScalar c) = true := by decide
  have word : ∀ word ∈ [bytes "null", bytes "true", bytes "false"], ∀ rest,
      LooseValue (word ++ rest) word rest := by
    intro word listed rest
    obtain ⟨nonempty, noQuote, all⟩ := words word listed
    refine scalar_loose nonempty noQuote fun c member => ?_
    simpa using List.all_eq_true.mp all c member
  cases value with
  | null => exact ⟨_, rfl, word _ (by simp) _⟩
  | yes => exact ⟨_, rfl, word _ (by simp) _⟩
  | no => exact ⟨_, rfl, word _ (by simp) _⟩
  | number form => exact ⟨_, rfl, number_loose form⟩
  | string tail =>
    obtain ⟨read, decodes, loose⟩ := stringTail_loose tail
    exact ⟨read, decodes, LooseValue.string loose⟩
  | emptyArray close => exact False.elim flat
  | array elements => exact False.elim flat
  | emptyObject close => exact False.elim flat
  | object listed => exact False.elim flat

theorem startsValue_not_space {c : UInt8} (starts : startsValue c = true) : isSpace c = false := by
  simp only [startsValue, Bool.or_eq_true] at starts
  rcases starts with digit | listed
  · exact (isDigit_visible digit).1
  · have none : (bytes "-\"[\x7bntf").all (fun c => !isSpace c) = true := by decide
    simpa using List.all_eq_true.mp none c (by simpa using listed)

theorem value_trimmed {text rest : Bytes} {tree : JsonTree} (value : Value text tree rest) :
    Trimmed text := by
  obtain ⟨c, tail, rfl, starts⟩ := value_head value
  exact trimmed_cons (startsValue_not_space starts) tail

def ReadAs (member : Bytes × JsonTree) (pair : Bytes × Bytes) : Prop :=
  decoded (spelledBody member.1) = some pair.1 ∧ valueText (spelledTree member.2) = some pair.2

theorem member_loose {text₁ text₂ text₃ text₄ key rest : Bytes} {item : JsonTree}
    (name : StringTail text₁ key text₂) (colon : Blanks text₂ (58 :: text₃))
    (after : Blanks text₃ text₄) (value : Value text₄ item rest) (flat : IsFlat item) :
    ∃ pair, ReadAs (key, item) pair ∧ LooseMember (34 :: text₁) pair.1 pair.2 rest := by
  obtain ⟨keyText, keyDecodes, keyLoose⟩ := stringTail_loose name
  obtain ⟨read, decodes, loose⟩ := value_loose value flat
  exact ⟨(keyText, read), ⟨keyDecodes, decodes⟩, LooseMember.pair keyLoose (blanks_spaces colon)
    (blanks_spaces after) (value_trimmed value) loose⟩

theorem members_loose {members : List (Bytes × JsonTree)} {text rest : Bytes}
    (listed : Members text members rest) (flat : ∀ m ∈ members, IsFlat m.2) :
    ∃ pairs, List.Forall₂ ReadAs members pairs ∧ LooseMembers text pairs := by
  induction members generalizing text with
  | nil => cases listed
  | cons member members ih =>
    have own := flat member List.mem_cons_self
    cases listed with
    | last before name colon after value close =>
      obtain ⟨pair, reads, loose⟩ := member_loose name colon after value own
      exact ⟨[pair], .cons reads .nil,
        LooseMembers.last (blanks_spaces before) loose (blanks_spaces close)⟩
    | more before name colon after value comma others =>
      obtain ⟨pair, reads, loose⟩ := member_loose name colon after value own
      obtain ⟨pairs, rest, looseRest⟩ := ih others fun m later =>
        flat m (List.mem_cons_of_mem _ later)
      exact ⟨pair :: pairs, .cons reads rest,
        LooseMembers.more (blanks_spaces before) loose (blanks_spaces comma) looseRest⟩

/-- Every flat object is accepted, each member being read as it would be spelled out. -/
theorem flatObject_loose {body : Bytes} {members : List (Bytes × JsonTree)}
    (text : JsonText body (.object members)) (flat : ∀ m ∈ members, IsFlat m.2) :
    ∃ pairs, List.Forall₂ ReadAs members pairs ∧ LooseObject body pairs := by
  obtain ⟨text₁, text₂, before, value, _⟩ := text
  cases value with
  | emptyObject close =>
    exact ⟨[], .nil, _, blanks_spaces before, LooseMembers.none (blanks_spaces close)⟩
  | object listed =>
    obtain ⟨pairs, reads, loose⟩ := members_loose listed flat
    exact ⟨pairs, reads, _, blanks_spaces before, loose⟩

theorem foldlM_spelled {members : List (Bytes × JsonTree)} {pairs : List (Bytes × Bytes)}
    (reads : List.Forall₂ ReadAs members pairs) (fields : FieldMap) :
    (members.map spelled).foldlM addMember fields = some (addPairs fields pairs) := by
  induction reads generalizing fields with
  | nil => rfl
  | cons own _ ih =>
    rw [List.map_cons, List.foldlM_cons]
    simp only [addMember, spelled, own.1, own.2]
    exact ih _

/-- What the client reads in a flat object is what the spelled object says. -/
theorem parse_flatObject {body : Bytes} {members : List (Bytes × JsonTree)}
    (text : JsonText body (.object members)) (flat : ∀ m ∈ members, IsFlat m.2) :
    ∃ fields, parseFlatJsonObject body = .ok fields ∧
      lastValues (members.map spelled) = some fields := by
  obtain ⟨pairs, reads, loose⟩ := flatObject_loose text flat
  exact ⟨addPairs ∅ pairs, (parseFlatJsonObject_iff _ _).mpr (Or.inr ⟨pairs, loose, rfl⟩),
    foldlM_spelled reads ∅⟩

/-- A flat object is read as it is meant exactly when it means the same with its escapes of four
    digits spelled out; so it is wherever there are none of them. -/
theorem flat_object_iff {body : Bytes} {members : List (Bytes × JsonTree)}
    (text : JsonText body (.object members)) (flat : ∀ m ∈ members, IsFlat m.2) :
    (DecodesAs body members ↔ lastValues members = lastValues (members.map spelled)) ∧
      ((∀ m ∈ members, spelled m = m) → DecodesAs body members) := by
  obtain ⟨fields, parsed, meant⟩ := parse_flatObject text flat
  have exact_when : DecodesAs body members ↔
      lastValues members = lastValues (members.map spelled) := by
    rw [meant]
    constructor
    · rintro ⟨fields', parsed', meant'⟩
      rw [parsed] at parsed'
      cases parsed'
      exact meant'
    · intro same
      exact ⟨fields, parsed, same⟩
  refine ⟨exact_when, fun plain => exact_when.mpr ?_⟩
  rw [List.map_congr_left plain, List.map_id']

section logins

def loginMembers (username : Bytes) : List (Bytes × JsonTree) :=
  [(bytes "username", .string username), (bytes "attempt", .number (bytes "1"))]

theorem login_text {username : Bytes} (body : JsonPrinter.BodyText username) :
    JsonText (JsonPrinter.render (.object (loginMembers username)))
      (.object (loginMembers username)) := by
  refine JsonPrinter.render_text ?_
  have one : NumberText (bytes "1") := by
    refine ⟨[], bytes "1", [], [], by decide, Or.inl rfl, Or.inr ⟨⟨by decide, ?_⟩, by decide⟩,
      Or.inl rfl, Or.inl rfl⟩
    exact List.all_eq_true.mp (by decide)
  simp only [loginMembers, JsonPrinter.Written, JsonPrinter.WrittenMembers, and_true]
  exact ⟨JsonPrinter.unescaped_body (by decide), body, JsonPrinter.unescaped_body (by decide), one⟩

theorem login_flat (username : Bytes) : ∀ m ∈ loginMembers username, IsFlat m.2 := by
  intro m member
  rcases List.mem_cons.mp member with rfl | later
  · trivial
  · rw [List.mem_singleton.mp later]
    trivial

theorem flat_object_iff_admin :
    (DecodesAs (JsonPrinter.render (.object (loginMembers (bytes "admin"))))
        (loginMembers (bytes "admin")) ↔
      lastValues (loginMembers (bytes "admin")) =
        lastValues ((loginMembers (bytes "admin")).map spelled)) ∧
      ((∀ m ∈ loginMembers (bytes "admin"), spelled m = m) →
        DecodesAs (JsonPrinter.render (.object (loginMembers (bytes "admin"))))
          (loginMembers (bytes "admin"))) :=
  flat_object_iff (login_text (JsonPrinter.unescaped_body (by decide))) (login_flat _)

def escapedLogin : Bytes := bytes "\x7b\"username\":\"\\u0061dmin\",\"attempt\":1\x7d"

/-- The name admin with its first letter escaped is read as u0061dmin. -/
theorem escaped_login_misread :
    JsonText escapedLogin (.object (loginMembers (bytes "\\u0061dmin"))) ∧
      (∀ m ∈ loginMembers (bytes "\\u0061dmin"), IsFlat m.2) ∧
      ¬ DecodesAs escapedLogin (loginMembers (bytes "\\u0061dmin")) := by
  have plain : JsonPrinter.BodyText (bytes "dmin") := JsonPrinter.unescaped_body (by decide)
  have written : JsonPrinter.BodyText (bytes "\\u0061dmin") := fun rest =>
    StringTail.unicode (List.all_eq_true.mp (by decide)) (plain rest)
  have text := login_text written
  have same : JsonPrinter.render (.object (loginMembers (bytes "\\u0061dmin"))) = escapedLogin := by
    decide +kernel
  rw [same] at text
  have flat := login_flat (bytes "\\u0061dmin")
  refine ⟨text, flat, ?_⟩
  rintro ⟨fields, parsed, meant⟩
  obtain ⟨fields', parsed', spelt⟩ := parse_flatObject text flat
  rw [parsed] at parsed'
  cases parsed'
  have names : (lastValues (loginMembers (bytes "\\u0061dmin"))).map (·[bytes "username"]?) ≠
      (lastValues ((loginMembers (bytes "\\u0061dmin")).map spelled)).map
        (·[bytes "username"]?) := by
    decide +kernel
  exact names (by rw [meant, spelt])

end logins

end TgwFlatJsonMeaning
