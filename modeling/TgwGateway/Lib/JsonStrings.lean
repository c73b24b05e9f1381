import TgwGateway.Lib.JsonGrammar

/- What the strings of a JSON tree stand for. An escape of four digits is a code unit of UTF-16, so
   two of them may make one character; the octets are those of UTF-8. -/
namespace JsonStrings
open ByteStrings DecimalText JsonGrammar

inductive Piece where
  | octet (value : UInt8)
  | unit (code : Nat)
  deriving DecidableEq

def hexValue (c : UInt8) : Nat :=
  if isDigit c then c.toNat - 48 else if 97 ≤ c then c.toNat - 87 else c.toNat - 55

def codeUnit (a b c d : UInt8) : Nat :=
  ((hexValue a * 16 + hexValue b) * 16 + hexValue c) * 16 + hexValue d

def escapeValue (c : UInt8) : UInt8 :=
  if c = 98 then 8
  else if c = 102 then 12
  else if c = 110 then 10
  else if c = 114 then 13
  else if c = 116 then 9
  else c

def pieces : Bytes → List Piece
  | 92 :: 117 :: a :: b :: c :: d :: body => .unit (codeUnit a b c d) :: pieces body
  | 92 :: c :: body => .octet (escapeValue c) :: pieces body
  | c :: body => .octet c :: pieces body
  | [] => []

theorem pieces_plain {c : UInt8} (noBackslash : c ≠ 92) (body : Bytes) :
    pieces (c :: body) = .octet c :: pieces body := by
  rw [pieces]
  · intro a b c d rest backslash _
    exact noBackslash backslash
  · intro d rest backslash _
    exact noBackslash backslash

theorem pieces_escape {c : UInt8} (noUnit : c ≠ 117) (body : Bytes) :
    pieces (92 :: c :: body) = .octet (escapeValue c) :: pieces body := by
  rw [pieces]
  intro a b d e rest unit _
  exact noUnit unit

def isHigh (code : Nat) : Bool := 0xD800 ≤ code && code < 0xDC00

def isLow (code : Nat) : Bool := 0xDC00 ≤ code && code < 0xE000

def utf8 (code : Nat) : Bytes := String.utf8EncodeChar (Char.ofNat code)

/-- A surrogate that is not one of a pair stands for no character. -/
def octets : List Piece → Option Bytes
  | [] => some []
  | .octet c :: rest => (octets rest).map (c :: ·)
  | .unit high :: .unit low :: rest =>
    if isHigh high && isLow low then
      (octets rest).map (utf8 (0x10000 + (high - 0xD800) * 0x400 + (low - 0xDC00)) ++ ·)
    else if isHigh high || isLow high then none
    else (octets (.unit low :: rest)).map (utf8 high ++ ·)
  | .unit code :: rest =>
    if isHigh code || isLow code then none else (octets rest).map (utf8 code ++ ·)

def decoded (body : Bytes) : Option Bytes := octets (pieces body)

example : decoded (bytes "\\u00e9\\ud83d\\ude00\\n") = some (bytes "é😀\n") := by decide +kernel

theorem octets_map_octet (text : Bytes) : octets (text.map Piece.octet) = some text := by
  induction text with
  | nil => rfl
  | cons c text ih => simp [octets, ih]

def isUnescaped (c : UInt8) : Bool := 32 ≤ c && c != 34 && c != 92

theorem decoded_unescaped {body : Bytes} (unescaped : body.all isUnescaped = true) :
    decoded body = some body := by
  have whole : pieces body = body.map Piece.octet := by
    induction body with
    | nil => rfl
    | cons c body ih =>
      simp only [List.all_cons, isUnescaped, Bool.and_eq_true, bne_iff_ne, ne_eq] at unescaped
      rw [pieces_plain unescaped.1.2, ih unescaped.2, List.map_cons]
  rw [decoded, whole, octets_map_octet]

def stringValue : JsonTree → Option Bytes
  | .string body => decoded body
  | _ => none

def numberLiteral : JsonTree → Option Bytes
  | .number literal => some literal
  | _ => none

def memberOf (name : Bytes) : JsonTree → Option JsonTree
  | .object members => (members.find? fun m => decoded m.1 == some name).map (·.2)
  | _ => none

theorem memberOf_own {name : Bytes} (plain : name.all isUnescaped = true) (item : JsonTree)
    (members : List (Bytes × JsonTree)) :
    memberOf name (.object ((name, item) :: members)) = some item := by
  simp [memberOf, decoded_unescaped plain]

theorem memberOf_other {key name : Bytes} (plain : key.all isUnescaped = true)
    (differ : key ≠ name) (item : JsonTree) (members : List (Bytes × JsonTree)) :
    memberOf name (.object ((key, item) :: members)) = memberOf name (.object members) := by
  simp [memberOf, decoded_unescaped plain, differ]

def textAt (name : Bytes) (tree : JsonTree) : Option Bytes := memberOf name tree >>= stringValue

def itemAt (i : Nat) : JsonTree → Option JsonTree
  | .array items => items[i]?
  | _ => none

end JsonStrings
