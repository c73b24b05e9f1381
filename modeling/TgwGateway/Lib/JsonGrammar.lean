import TgwGateway.Lib.DecimalText

/- The grammar of JSON texts over octets. A relation holds of a text, the tree that its beginning
   stands for, and the text that is left. Octets from 128 on count as parts of unescaped
   characters; a tree keeps strings and numbers as they are written. -/
namespace JsonGrammar
open ByteStrings DecimalText

inductive JsonTree where
  | null
  | bool (value : Bool)
  | number (literal : Bytes)
  | string (body : Bytes)
  | array (items : List JsonTree)
  | object (members : List (Bytes × JsonTree))

def isBlank (c : UInt8) : Bool := c == 32 || c == 9 || c == 10 || c == 13

def Blanks (text rest : Bytes) : Prop := ∃ blanks, text = blanks ++ rest ∧ ∀ c ∈ blanks, isBlank c

def isHexDigit (c : UInt8) : Bool :=
  isDigit c || (97 ≤ c && c ≤ 102) || (65 ≤ c && c ≤ 70)

def escapable : Bytes := bytes "\"\\/bfnrt"

/-- A string after its opening quote, up to and with the closing one. -/
inductive StringTail : Bytes → Bytes → Bytes → Prop where
  | close {rest : Bytes} : StringTail (34 :: rest) [] rest
  | unescaped {c : UInt8} {text body rest : Bytes} (printable : 32 ≤ c) (noQuote : c ≠ 34)
      (noBackslash : c ≠ 92) (tail : StringTail text body rest) :
      StringTail (c :: text) (c :: body) rest
  | escape {c : UInt8} {text body rest : Bytes} (known : c ∈ escapable)
      (tail : StringTail text body rest) : StringTail (92 :: c :: text) (92 :: c :: body) rest
  | unicode {a b c d : UInt8} {text body rest : Bytes} (hex : ∀ x ∈ [a, b, c, d], isHexDigit x)
      (tail : StringTail text body rest) :
      StringTail (92 :: 117 :: a :: b :: c :: d :: text) (92 :: 117 :: a :: b :: c :: d :: body)
        rest

def Digits (text : Bytes) : Prop := text ≠ [] ∧ ∀ c ∈ text, isDigit c

def WholePart (text : Bytes) : Prop := text = [48] ∨ (Digits text ∧ text.head? ≠ some 48)

def FractionPart (text : Bytes) : Prop := text = [] ∨ ∃ digits, text = 46 :: digits ∧ Digits digits

def ExponentPart (text : Bytes) : Prop :=
  text = [] ∨ ∃ mark sign digits, text = mark :: sign ++ digits ∧ (mark = 101 ∨ mark = 69) ∧
    (sign = [] ∨ sign = [43] ∨ sign = [45]) ∧ Digits digits

def NumberText (text : Bytes) : Prop :=
  ∃ sign whole fraction exponent, text = sign ++ whole ++ fraction ++ exponent ∧
    (sign = [] ∨ sign = [45]) ∧ WholePart whole ∧ FractionPart fraction ∧ ExponentPart exponent

mutual

inductive Value : Bytes → JsonTree → Bytes → Prop where
  | null {rest : Bytes} : Value (bytes "null" ++ rest) .null rest
  | yes {rest : Bytes} : Value (bytes "true" ++ rest) (.bool true) rest
  | no {rest : Bytes} : Value (bytes "false" ++ rest) (.bool false) rest
  | number {literal rest : Bytes} (form : NumberText literal) :
      Value (literal ++ rest) (.number literal) rest
  | string {text body rest : Bytes} (tail : StringTail text body rest) :
      Value (34 :: text) (.string body) rest
  | emptyArray {text rest : Bytes} (close : Blanks text (93 :: rest)) :
      Value (91 :: text) (.array []) rest
  | array {text rest : Bytes} {items : List JsonTree} (elements : Elements text items rest) :
      Value (91 :: text) (.array items) rest
  | emptyObject {text rest : Bytes} (close : Blanks text (125 :: rest)) :
      Value (123 :: text) (.object []) rest
  | object {text rest : Bytes} {members : List (Bytes × JsonTree)}
      (listed : Members text members rest) : Value (123 :: text) (.object members) rest

/-- The elements of an array that has some, up to and with the closing bracket. -/
inductive Elements : Bytes → List JsonTree → Bytes → Prop where
  | last {text text₁ text₂ rest : Bytes} {item : JsonTree} (before : Blanks text text₁)
      (value : Value text₁ item text₂) (close : Blanks text₂ (93 :: rest)) :
      Elements text [item] rest
  | more {text text₁ text₂ text₃ rest : Bytes} {item : JsonTree} {items : List JsonTree}
      (before : Blanks text text₁) (value : Value text₁ item text₂)
      (comma : Blanks text₂ (44 :: text₃)) (others : Elements text₃ items rest) :
      Elements text (item :: items) rest

/-- The members of an object that has some, up to and with the closing brace. -/
inductive Members : Bytes → List (Bytes × JsonTree) → Bytes → Prop where
  | last {text text₁ text₂ text₃ text₄ text₅ key rest : Bytes} {item : JsonTree}
      (before : Blanks text (34 :: text₁)) (name : StringTail text₁ key text₂)
      (colon : Blanks text₂ (58 :: text₃)) (after : Blanks text₃ text₄)
      (value : Value text₄ item text₅) (close : Blanks text₅ (125 :: rest)) :
      Members text [(key, item)] rest
  | more {text text₁ text₂ text₃ text₄ text₅ text₆ key rest : Bytes} {item : JsonTree}
      {members : List (Bytes × JsonTree)}
      (before : Blanks text (34 :: text₁)) (name : StringTail text₁ key text₂)
      (colon : Blanks text₂ (58 :: text₃)) (after : Blanks text₃ text₄)
      (value : Value text₄ item text₅) (comma : Blanks text₅ (44 :: text₆))
      (others : Members text₆ members rest) : Members text ((key, item) :: members) rest

end

def JsonText (text : Bytes) (tree : JsonTree) : Prop :=
  ∃ text₁ text₂, Blanks text text₁ ∧ Value text₁ tree text₂ ∧ Blanks text₂ []

def WellFormed (text : Bytes) : Prop := ∃ tree, JsonText text tree

def startsValue (c : UInt8) : Bool := isDigit c || c ∈ bytes "-\"[\x7bntf"

theorem wholePart_head {text : Bytes} (whole : WholePart text) :
    ∃ c rest, text = c :: rest ∧ isDigit c = true := by
  rcases whole with rfl | ⟨⟨nonempty, digits⟩, _⟩
  · exact ⟨48, [], rfl, rfl⟩
  · obtain ⟨c, rest, rfl⟩ := List.exists_cons_of_ne_nil nonempty
    exact ⟨c, rest, rfl, digits c List.mem_cons_self⟩

theorem value_head {text rest : Bytes} {tree : JsonTree} (value : Value text tree rest) :
    ∃ c tail, text = c :: tail ∧ startsValue c = true := by
  cases value with
  | null => exact ⟨_, _, rfl, rfl⟩
  | yes => exact ⟨_, _, rfl, rfl⟩
  | no => exact ⟨_, _, rfl, rfl⟩
  | number form =>
    obtain ⟨sign, whole, fraction, exponent, rfl, signed, natural, _, _⟩ := form
    obtain ⟨c, digits, rfl, digit⟩ := wholePart_head natural
    rcases signed with rfl | rfl
    · exact ⟨c, _, rfl, by simp [startsValue, digit]⟩
    · exact ⟨45, _, rfl, rfl⟩
  | string tail => exact ⟨_, _, rfl, rfl⟩
  | emptyArray close => exact ⟨_, _, rfl, rfl⟩
  | array elements => exact ⟨_, _, rfl, rfl⟩
  | emptyObject close => exact ⟨_, _, rfl, rfl⟩
  | object listed => exact ⟨_, _, rfl, rfl⟩

theorem startsValue_not_blank {c : UInt8} (starts : startsValue c = true) : isBlank c = false := by
  by_contra blank
  simp only [isBlank, Bool.not_eq_false, Bool.or_eq_true, beq_iff_eq] at blank
  rcases blank with ((rfl | rfl) | rfl) | rfl <;> exact absurd starts (by decide)

theorem wellFormed_head {text : Bytes} (formed : WellFormed text) :
    ∃ c tail, text.dropWhile isBlank = c :: tail ∧ startsValue c = true := by
  obtain ⟨tree, text₁, text₂, ⟨blanks, rfl, blank⟩, value, _⟩ := formed
  obtain ⟨c, tail, rfl, starts⟩ := value_head value
  refine ⟨c, tail, ?_, starts⟩
  rw [List.dropWhile_append_of_pos blank]
  simp [startsValue_not_blank starts]

end JsonGrammar
