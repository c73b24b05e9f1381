import TgwGateway.Lib.ByteStrings
import TgwGateway.Lib.MachineInt

/- base64url as the token service codes it: an int accumulator that is never cleared, so it
   wraps around, and a right shift that keeps the sign. -/
namespace TgwBase64Url
open ByteStrings MachineInt

def kBase64UrlAlphabet : Bytes :=
  bytes "ABCDEFGHIJKLMNOPQRSTUVWXYZabcdefghijklmnopqrstuvwxyz0123456789-_"

def base64UrlByte (index : Int) : UInt8 := kBase64UrlAlphabet.getD index.toNat 0

/-- (value >> bits) & 0x3F, then & 0xFF: a shift to the right rounds down. -/
def sextet (value : Int) (bits : Nat) : Int := value / 2 ^ bits % 64
def octet (value : Int) (bits : Nat) : UInt8 := UInt8.ofNat (value / 2 ^ bits % 256).toNat

def pushOctet (value : Int) (c : UInt8) : Int := toInt32 (toInt32 (value * 256) + c.toNat)
def pushSextet (value decoded : Int) : Int := toInt32 (toInt32 (value * 64) + decoded)

/-- The inner loop: bits grows by eight for each byte, so it turns at most twice. -/
def drain (value : Int) : Nat → Int → Bytes → Int × Bytes
  | 0, bits, output => (bits, output)
  | fuel + 1, bits, output =>
    if 0 ≤ bits then
      drain value fuel (bits - 6) (output ++ [base64UrlByte (sextet value bits.toNat)])
    else (bits, output)

def encodeLoop : Bytes → Int → Int → Bytes → Bytes
  | [], value, bits, output =>
    if -6 < bits then
      output ++ [base64UrlByte (sextet (toInt32 (value * 256)) (bits + 8).toNat)]
    else output
  | c :: data, value, bits, output =>
    let value := pushOctet value c
    let drained := drain value 2 (bits + 8) output
    encodeLoop data value drained.1 drained.2

def base64UrlEncode (input : Bytes) : Bytes := encodeLoop input 0 (-6) []

def base64UrlValue (c : UInt8) : Int :=
  if 65 ≤ c ∧ c ≤ 90 then c.toNat - 65
  else if 97 ≤ c ∧ c ≤ 122 then c.toNat - 97 + 26
  else if 48 ≤ c ∧ c ≤ 57 then c.toNat - 48 + 52
  else if c = 45 then 62
  else if c = 95 then 63
  else -1

def decodeLoop : Bytes → Int → Int → Bytes → Option Bytes
  | [], _, _, output => some output
  | c :: input, value, bits, output =>
    let decoded := base64UrlValue c
    if decoded < 0 then none
    else
      let value := pushSextet value decoded
      let bits := bits + 6
      if 0 ≤ bits then decodeLoop input value (bits - 8) (output ++ [octet value bits.toNat])
      else decodeLoop input value bits output

def base64UrlDecode (input : Bytes) : Option Bytes := decodeLoop input 0 (-8) []

example : base64UrlEncode (bytes "light wo") = bytes "bGlnaHQgd28" := by decide

def sextets : Bytes → List Int
  | [] => []
  | [a] => [(a.toNat : Int) / 4, a.toNat % 4 * 16]
  | [a, b] => [(a.toNat : Int) / 4, a.toNat % 4 * 16 + b.toNat / 16, b.toNat % 16 * 4]
  | a :: b :: c :: data =>
    (a.toNat : Int) / 4 :: (a.toNat % 4 * 16 + b.toNat / 16 : Int) ::
      (b.toNat % 16 * 4 + c.toNat / 64 : Int) :: (c.toNat % 64 : Int) :: sextets data

theorem pushOctet_low_bits (value : Int) (c : UInt8) :
    ∃ high : Int, pushOctet value c = value * 256 + c.toNat - 4294967296 * high := by
  obtain ⟨inner, hi⟩ := toInt32_low_bits (value * 256)
  obtain ⟨outer, ho⟩ := toInt32_low_bits (toInt32 (value * 256) + c.toNat)
  exact ⟨inner + outer, by unfold pushOctet; omega⟩

theorem pushSextet_low_bits (value s : Int) :
    ∃ high : Int, pushSextet value s = value * 64 + s - 4294967296 * high := by
  obtain ⟨inner, hi⟩ := toInt32_low_bits (value * 64)
  obtain ⟨outer, ho⟩ := toInt32_low_bits (toInt32 (value * 64) + s)
  exact ⟨inner + outer, by unfold pushSextet; omega⟩

section group
variable (value : Int) (a b c : UInt8)

theorem first_sextet : sextet (pushOctet value a) 2 = (a.toNat : Int) / 4 := by
  obtain ⟨high, eq⟩ := pushOctet_low_bits value a
  have := a.toNat_lt
  rw [sextet, eq]
  omega

theorem second_sextet :
    sextet (pushOctet (pushOctet value a) b) 4 = (a.toNat % 4 * 16 + b.toNat / 16 : Int) := by
  obtain ⟨high, eq⟩ := pushOctet_low_bits value a
  obtain ⟨high', eq'⟩ := pushOctet_low_bits (pushOctet value a) b
  have := b.toNat_lt
  rw [sextet, eq', eq]
  omega

theorem third_sextet :
    sextet (pushOctet (pushOctet (pushOctet value a) b) c) 6 =
      (b.toNat % 16 * 4 + c.toNat / 64 : Int) := by
  obtain ⟨high, eq⟩ := pushOctet_low_bits (pushOctet value a) b
  obtain ⟨high', eq'⟩ := pushOctet_low_bits (pushOctet (pushOctet value a) b) c
  have := c.toNat_lt
  rw [sextet, eq', eq]
  omega

theorem fourth_sextet : sextet (pushOctet value c) 0 = (c.toNat % 64 : Int) := by
  obtain ⟨high, eq⟩ := pushOctet_low_bits value c
  rw [sextet, eq]
  omega

theorem last_of_one : sextet (toInt32 (pushOctet value a * 256)) 4 = (a.toNat % 4 * 16 : Int) := by
  obtain ⟨high, eq⟩ := pushOctet_low_bits value a
  obtain ⟨high', eq'⟩ := toInt32_low_bits (pushOctet value a * 256)
  rw [sextet, eq', eq]
  omega

theorem last_of_two : sextet (toInt32 (pushOctet value b * 256)) 6 = (b.toNat % 16 * 4 : Int) := by
  obtain ⟨high, eq⟩ := pushOctet_low_bits value b
  obtain ⟨high', eq'⟩ := toInt32_low_bits (pushOctet value b * 256)
  rw [sextet, eq', eq]
  omega

end group

/-- What the accumulator held before a group does not matter: no output reaches its bits. -/
theorem encodeLoop_sextets (data : Bytes) (value : Int) (output : Bytes) :
    encodeLoop data value (-6) output = output ++ (sextets data).map base64UrlByte := by
  induction data using sextets.induct generalizing value output with
  | case1 => simp [encodeLoop, sextets]
  | case2 a =>
    simp [encodeLoop, drain, sextets, first_sextet, last_of_one]
  | case3 a b =>
    simp [encodeLoop, drain, sextets, first_sextet, second_sextet, last_of_two]
  | case4 a b c data ih =>
    simp [encodeLoop, drain, sextets, ih, first_sextet, second_sextet, third_sextet, fourth_sextet]

theorem base64UrlEncode_eq (data : Bytes) :
    base64UrlEncode data = (sextets data).map base64UrlByte := by
  simp [base64UrlEncode, encodeLoop_sextets]

theorem sextets_bound (data : Bytes) : ∀ s ∈ sextets data, 0 ≤ s ∧ s < 64 := by
  induction data using sextets.induct with
  | case1 => simp [sextets]
  | case2 a =>
    have := a.toNat_lt
    simp only [sextets, List.forall_mem_cons, List.not_mem_nil, false_imp_iff, implies_true,
      and_true]
    omega
  | case3 a b =>
    have := a.toNat_lt
    have := b.toNat_lt
    simp only [sextets, List.forall_mem_cons, List.not_mem_nil, false_imp_iff, implies_true,
      and_true]
    omega
  | case4 a b c data ih =>
    have := a.toNat_lt
    have := b.toNat_lt
    have := c.toNat_lt
    simp only [sextets, List.forall_mem_cons]
    refine ⟨?_, ?_, ?_, ?_, ih⟩ <;> omega

theorem letters : ∀ s : Fin 64, base64UrlValue (base64UrlByte s.val) = s.val ∧
    base64UrlByte s.val ≠ 46 := by
  decide +kernel

theorem base64UrlValue_byte {s : Int} (bound : 0 ≤ s ∧ s < 64) :
    base64UrlValue (base64UrlByte s) = s := by
  have letter := (letters ⟨s.toNat, by omega⟩).1
  simp only [show ((s.toNat : Nat) : Int) = s by omega] at letter
  exact letter

theorem base64UrlEncode_no_dot (data : Bytes) : 46 ∉ base64UrlEncode data := by
  rw [base64UrlEncode_eq]
  intro member
  obtain ⟨s, inside, dot⟩ := List.mem_map.mp member
  obtain ⟨low, high⟩ := sextets_bound data s inside
  have letter := (letters ⟨s.toNat, by omega⟩).2
  simp only [show ((s.toNat : Nat) : Int) = s by omega] at letter
  exact letter dot

section ungroup
variable (value x y z w : Int) (a b c : UInt8)

theorem first_octet (isFirst : x = (a.toNat : Int) / 4) (isSecond : y / 16 = a.toNat % 4) :
    octet (pushSextet (pushSextet value x) y) 4 = a := by
  obtain ⟨high, eq⟩ := pushSextet_low_bits value x
  obtain ⟨high', eq'⟩ := pushSextet_low_bits (pushSextet value x) y
  have small := a.toNat_lt
  rw [octet, eq', eq, ← UInt8.toNat_inj, UInt8.toNat_ofNat']
  omega

theorem second_octet (isSecond : y % 16 = (b.toNat : Int) / 16) (isThird : z / 4 = b.toNat % 16) :
    octet (pushSextet (pushSextet value y) z) 2 = b := by
  obtain ⟨high, eq⟩ := pushSextet_low_bits value y
  obtain ⟨high', eq'⟩ := pushSextet_low_bits (pushSextet value y) z
  have small := b.toNat_lt
  rw [octet, eq', eq, ← UInt8.toNat_inj, UInt8.toNat_ofNat']
  omega

theorem third_octet (isThird : z % 4 = (c.toNat : Int) / 64) (isFourth : w = c.toNat % 64) :
    octet (pushSextet (pushSextet value z) w) 0 = c := by
  obtain ⟨high, eq⟩ := pushSextet_low_bits value z
  obtain ⟨high', eq'⟩ := pushSextet_low_bits (pushSextet value z) w
  have small := c.toNat_lt
  rw [octet, eq', eq, ← UInt8.toNat_inj, UInt8.toNat_ofNat']
  omega

end ungroup

theorem decodeLoop_letter {s : Int} (bound : 0 ≤ s ∧ s < 64) (input : Bytes) (value bits : Int)
    (output : Bytes) :
    decodeLoop (base64UrlByte s :: input) value bits output =
      if 0 ≤ bits + 6 then
        decodeLoop input (pushSextet value s) (bits + 6 - 8)
          (output ++ [octet (pushSextet value s) (bits + 6).toNat])
      else decodeLoop input (pushSextet value s) (bits + 6) output := by
  have low := bound.1
  simp only [decodeLoop, base64UrlValue_byte bound]
  rw [if_neg (by omega)]

theorem decodeLoop_sextets (data : Bytes) (value : Int) (output : Bytes) :
    decodeLoop ((sextets data).map base64UrlByte) value (-8) output = some (output ++ data) := by
  have bounds := sextets_bound data
  induction data using sextets.induct generalizing value output with
  | case1 => simp [decodeLoop, sextets]
  | case2 a =>
    simp only [sextets, List.forall_mem_cons, List.not_mem_nil, false_imp_iff, implies_true,
      and_true] at bounds
    obtain ⟨x, y⟩ := bounds
    simp only [sextets, List.map_cons, List.map_nil, decodeLoop_letter x, decodeLoop_letter y]
    simp only [decodeLoop, Int.reduceAdd, Int.reduceLE, ↓reduceIte, Int.reduceToNat]
    rw [first_octet value _ (a.toNat % 4 * 16) a rfl (by omega)]
  | case3 a b =>
    simp only [sextets, List.forall_mem_cons, List.not_mem_nil, false_imp_iff, implies_true,
      and_true] at bounds
    obtain ⟨x, y, z⟩ := bounds
    have small := b.toNat_lt
    simp only [sextets, List.map_cons, List.map_nil, decodeLoop_letter x, decodeLoop_letter y,
      decodeLoop_letter z]
    simp only [decodeLoop, Int.reduceAdd, Int.reduceSub, Int.reduceLE, ↓reduceIte, Int.reduceToNat]
    rw [first_octet value _ (a.toNat % 4 * 16 + b.toNat / 16) a rfl (by omega),
      second_octet _ (a.toNat % 4 * 16 + b.toNat / 16) (b.toNat % 16 * 4) b (by omega) (by omega),
      List.append_assoc]
    rfl
  | case4 a b c data ih =>
    simp only [sextets, List.forall_mem_cons] at bounds
    obtain ⟨x, y, z, w, rest⟩ := bounds
    have small := b.toNat_lt
    have small' := c.toNat_lt
    simp only [sextets, List.map_cons, decodeLoop_letter x, decodeLoop_letter y,
      decodeLoop_letter z, decodeLoop_letter w]
    simp only [Int.reduceAdd, Int.reduceSub, Int.reduceLE, ↓reduceIte, Int.reduceToNat]
    rw [first_octet value _ (a.toNat % 4 * 16 + b.toNat / 16) a rfl (by omega),
      second_octet _ (a.toNat % 4 * 16 + b.toNat / 16) (b.toNat % 16 * 4 + c.toNat / 64) b
        (by omega) (by omega),
      third_octet _ (b.toNat % 16 * 4 + c.toNat / 64) _ c (by omega) rfl, ih _ _ rest]
    simp

theorem base64Url_round_trip (data : Bytes) :
    base64UrlDecode (base64UrlEncode data) = some data := by
  simp [base64UrlDecode, base64UrlEncode_eq, decodeLoop_sextets]

theorem sextets_length (data : Bytes) : (sextets data).length = (4 * data.length + 2) / 3 := by
  induction data using sextets.induct with
  | case1 => simp [sextets]
  | case2 a => simp [sextets]
  | case3 a b => simp [sextets]
  | case4 a b c data ih =>
    simp only [sextets, List.length_cons, ih]
    omega

def IsUrlSafe (c : UInt8) : Prop :=
  (65 ≤ c ∧ c ≤ 90) ∨ (97 ≤ c ∧ c ≤ 122) ∨ (48 ≤ c ∧ c ≤ 57) ∨ c = 45 ∨ c = 95

instance (c : UInt8) : Decidable (IsUrlSafe c) := inferInstanceAs (Decidable (_ ∨ _))

theorem base64UrlByte_safe : ∀ s : Fin 64,
    base64UrlByte s.val ∈ kBase64UrlAlphabet ∧ IsUrlSafe (base64UrlByte s.val) := by
  decide +kernel

theorem base64UrlEncode_safe (data : Bytes) :
    ∀ c ∈ base64UrlEncode data, c ∈ kBase64UrlAlphabet ∧ IsUrlSafe c := by
  rw [base64UrlEncode_eq]
  intro c member
  obtain ⟨s, inside, rfl⟩ := List.mem_map.mp member
  obtain ⟨low, high⟩ := sextets_bound data s inside
  have letter := base64UrlByte_safe ⟨s.toNat, by omega⟩
  simp only [show ((s.toNat : Nat) : Int) = s by omega] at letter
  exact letter

/-- The encoding loses nothing, has four letters for three bytes, rounded up, and no others. -/
theorem base64Url_faithful (data : Bytes) :
    base64UrlDecode (base64UrlEncode data) = some data ∧
      (base64UrlEncode data).length = (4 * data.length + 2) / 3 ∧
      (∀ c ∈ base64UrlEncode data, c ∈ kBase64UrlAlphabet ∧ IsUrlSafe c) ∧
      46 ∉ base64UrlEncode data := by
  refine ⟨base64Url_round_trip data, ?_, base64UrlEncode_safe data, base64UrlEncode_no_dot data⟩
  rw [base64UrlEncode_eq, List.length_map, sextets_length]

end TgwBase64Url
