import TgwGateway.Lib.DecimalText
import Mathlib.Data.List.DropRight
import Mathlib.Data.List.TakeWhile

/- The text of an HTTP message: a start line, a line for each field, an empty line and a body whose
   length is one of the fields. A line ends with CR LF, and its text holds neither. -/
namespace HttpText
open ByteStrings DecimalText

structure Message where
  start : Bytes
  fields : List (Bytes × Bytes)
  body : Bytes
  deriving DecidableEq

def OneLine (text : Bytes) : Prop := ∀ c ∈ text, c ≠ 13 ∧ c ≠ 10

def isVisible (c : UInt8) : Bool := 33 ≤ c && c != 127

def Visible (text : Bytes) : Prop := text ≠ [] ∧ ∀ c ∈ text, isVisible c = true

def isBlank (c : UInt8) : Bool := c == 32 || c == 9

section writing

def endLine (line rest : Bytes) : Bytes := line ++ 13 :: 10 :: rest

def fieldLine (field : Bytes × Bytes) : Bytes := field.1 ++ 58 :: 32 :: field.2

def writeFields (body : Bytes) : List (Bytes × Bytes) → Bytes
  | [] => endLine [] body
  | field :: fields => endLine (fieldLine field) (writeFields body fields)

def writeMessage (m : Message) : Bytes := endLine m.start (writeFields m.body m.fields)

def startLine (method target version : Bytes) : Bytes :=
  method ++ 32 :: (target ++ 32 :: version)

end writing

section reading

def readLine : Bytes → Option (Bytes × Bytes)
  | 13 :: 10 :: rest => some ([], rest)
  | [] => none
  | c :: text => (readLine text).map fun read => (c :: read.1, read.2)

/-- Blanks around the value of a field are not part of it. -/
def trimmed (value : Bytes) : Bytes := (value.dropWhile isBlank).rdropWhile isBlank

def readField (line : Bytes) : Option (Bytes × Bytes) :=
  match line.dropWhile (· != 58) with
  | 58 :: value =>
    let name := line.takeWhile (· != 58)
    if name ≠ [] ∧ name.all isVisible then some (name, trimmed value) else none
  | _ => none

def readFields : Nat → Bytes → Option (List (Bytes × Bytes) × Bytes)
  | 0, _ => none
  | fuel + 1, text =>
    match readLine text with
    | none => none
    | some ([], rest) => some ([], rest)
    | some (line, rest) => do
      let field ← readField line
      let (fields, rest) ← readFields fuel rest
      some (field :: fields, rest)

def lower (c : UInt8) : UInt8 := if 65 ≤ c ∧ c ≤ 90 then c + 32 else c

def valuesOf (name : Bytes) (fields : List (Bytes × Bytes)) : List Bytes :=
  (fields.filter fun field => field.1.map lower = name.map lower).map Prod.snd

def contentLength (fields : List (Bytes × Bytes)) : Option Nat :=
  match valuesOf (bytes "Content-Length") fields with
  | [] => some 0
  | [value] => if value.all isDigit then unsignedInteger value else none
  | _ => none

def readMessage (text : Bytes) : Option (Message × Bytes) := do
  let (start, rest) ← readLine text
  let (fields, rest) ← readFields rest.length rest
  let n ← contentLength fields
  if n ≤ rest.length then some (⟨start, fields, rest.take n⟩, rest.drop n) else none

def readStart (line : Bytes) : Option (Bytes × Bytes × Bytes) :=
  match line.dropWhile isVisible with
  | 32 :: rest =>
    match rest.dropWhile isVisible with
    | 32 :: version => some (line.takeWhile isVisible, rest.takeWhile isVisible, version)
    | _ => none
  | _ => none

end reading

def trimField (field : Bytes × Bytes) : Bytes × Bytes := (field.1, trimmed field.2)

/-- What a reader makes of a message: its values lose the blanks around them. -/
def asRead (m : Message) : Message := { m with fields := m.fields.map trimField }

/-- A message whose text shows where its lines and its body end. -/
structure Sendable (m : Message) : Prop where
  start : OneLine m.start
  names : ∀ field ∈ m.fields, Visible field.1 ∧ 58 ∉ field.1
  values : ∀ field ∈ m.fields, OneLine field.2
  counted : contentLength (asRead m).fields = some m.body.length

theorem oneLine_iff (text : Bytes) :
    text.all (fun c => c != 13 && c != 10) = true ↔ OneLine text := by
  simp [OneLine]

instance (text : Bytes) : Decidable (OneLine text) := decidable_of_iff _ (oneLine_iff text)

theorem oneLine_nil : OneLine [] := fun _ inside => absurd inside List.not_mem_nil

theorem oneLine_append {a b : Bytes} (left : OneLine a) (right : OneLine b) : OneLine (a ++ b) := by
  intro c inside
  rcases List.mem_append.mp inside with first | second
  · exact left c first
  · exact right c second

theorem oneLine_cons {c : UInt8} {text : Bytes} (first : c ≠ 13 ∧ c ≠ 10) (rest : OneLine text) :
    OneLine (c :: text) := by
  intro d inside
  rcases List.mem_cons.mp inside with rfl | later
  · exact first
  · exact rest d later

theorem isVisible_not_end {c : UInt8} (visible : isVisible c = true) : c ≠ 13 ∧ c ≠ 10 := by
  constructor <;> (rintro rfl; exact absurd visible (by decide))

theorem visible_iff (text : Bytes) :
    (!text.isEmpty && text.all isVisible) = true ↔ Visible text := by
  simp [Visible]

instance (text : Bytes) : Decidable (Visible text) := decidable_of_iff _ (visible_iff text)

theorem visible_append {a b : Bytes} (front : Visible a) (back : ∀ c ∈ b, isVisible c = true) :
    Visible (a ++ b) := by
  refine ⟨by simp [front.1], fun c inside => ?_⟩
  rcases List.mem_append.mp inside with first | second
  · exact front.2 c first
  · exact back c second

theorem Visible.oneLine {text : Bytes} (visible : Visible text) : OneLine text :=
  fun c inside => isVisible_not_end (visible.2 c inside)

theorem isVisible_blank {c : UInt8} (visible : isVisible c = true) : isBlank c = false := by
  simp only [isVisible, Bool.and_eq_true, decide_eq_true_eq, UInt8.le_iff_toNat_le] at visible
  simp only [isBlank, Bool.or_eq_false_iff, beq_eq_false_iff_ne, ne_eq, ← UInt8.toNat_inj]
  have low : 33 ≤ c.toNat := visible.1
  constructor
  · show ¬ c.toNat = 32
    omega
  · show ¬ c.toNat = 9
    omega

theorem isDigit_isVisible {c : UInt8} (digit : isDigit c = true) : isVisible c = true := by
  have bounds := (isDigit_iff c).mp digit
  simp only [isVisible, Bool.and_eq_true, decide_eq_true_eq, UInt8.le_iff_toNat_le, bne_iff_ne, ne_eq,
    ← UInt8.toNat_inj, UInt8.reduceToNat]
  omega

theorem natText_visible (n : Nat) : Visible (natText n) :=
  ⟨natText_ne_nil n, fun c inside => isDigit_isVisible (natText_isDigit n c inside)⟩

theorem intText_visible (n : Int) : Visible (intText n) := by
  refine ⟨intText_ne_nil n, fun c inside => ?_⟩
  rcases intText_bytes n c inside with rfl | digit
  · decide
  · exact isDigit_isVisible digit

theorem trimmed_eq {value : Bytes} (first : ∀ c ∈ value.head?, isBlank c = false)
    (last : ∀ c ∈ value.getLast?, isBlank c = false) : trimmed value = value := by
  cases value with
  | nil => rfl
  | cons c rest =>
    have start : isBlank c = false := first c (by simp)
    have kept : (c :: rest).dropWhile isBlank = c :: rest := by simp [start]
    rw [trimmed, kept, List.rdropWhile_eq_self_iff]
    intro nonempty
    have final := last _ (List.getLast?_eq_some_getLast nonempty)
    simp [final]

theorem Visible.trimmed {text : Bytes} (visible : Visible text) : trimmed text = text :=
  trimmed_eq (fun c inside => isVisible_blank (visible.2 c (List.mem_of_mem_head? inside)))
    (fun c inside => isVisible_blank (visible.2 c (List.mem_of_mem_getLast? inside)))

theorem readLine_endLine {line : Bytes} (one : OneLine line) (rest : Bytes) :
    readLine (endLine line rest) = some (line, rest) := by
  induction line with
  | nil => rfl
  | cons c line ih =>
    have own := one c List.mem_cons_self
    have tail := ih fun d inside => one d (List.mem_cons_of_mem c inside)
    unfold endLine at tail ⊢
    rw [List.cons_append, readLine, tail]
    · rfl
    · rintro rest' rfl
      exact absurd rfl own.1

theorem readField_fieldLine {field : Bytes × Bytes} (name : Visible field.1)
    (plain : 58 ∉ field.1) : readField (fieldLine field) = some (trimField field) := by
  have others : ∀ c ∈ field.1, (c != 58) = true := by
    intro c inside
    rw [bne_iff_ne]
    rintro rfl
    exact plain inside
  have whole : field.1.all isVisible = true := List.all_eq_true.mpr name.2
  have cut : trimmed (32 :: field.2) = trimmed field.2 := rfl
  have after : (fieldLine field).dropWhile (· != 58) = 58 :: 32 :: field.2 := by
    rw [fieldLine, List.dropWhile_append_of_pos others]
    rfl
  have before : (fieldLine field).takeWhile (· != 58) = field.1 := by
    rw [fieldLine, List.takeWhile_append_of_pos others]
    simp
  simp only [readField, after, before, name.1, whole, cut, ne_eq, not_false_eq_true, and_self,
    ↓reduceIte, trimField]

theorem readFields_writeFields {fields : List (Bytes × Bytes)} (body : Bytes)
    (names : ∀ field ∈ fields, Visible field.1 ∧ 58 ∉ field.1)
    (values : ∀ field ∈ fields, OneLine field.2) {fuel : Nat} (enough : fields.length < fuel) :
    readFields fuel (writeFields body fields) = some (fields.map trimField, body) := by
  induction fields generalizing fuel with
  | nil =>
    obtain ⟨fuel, rfl⟩ := Nat.exists_eq_add_of_lt enough
    rw [Nat.add_assoc, Nat.add_comm]
    rfl
  | cons field fields ih =>
    cases fuel with
    | zero => cases enough
    | succ fuel =>
      obtain ⟨visible, plain⟩ := names field List.mem_cons_self
      have one := values field List.mem_cons_self
      have rest := ih (fun other listed => names other (List.mem_cons_of_mem field listed))
        (fun other listed => values other (List.mem_cons_of_mem field listed))
        (Nat.lt_of_succ_lt_succ enough)
      have line : OneLine (fieldLine field) := by
        refine oneLine_append visible.oneLine (oneLine_cons (by decide) ?_)
        exact oneLine_cons (by decide) one
      have filled : fieldLine field ≠ [] := by simp [fieldLine]
      rw [writeFields, readFields, readLine_endLine line]
      obtain ⟨c, others, split⟩ := List.exists_cons_of_ne_nil filled
      have read := readField_fieldLine visible plain
      rw [split] at read ⊢
      simp [read, rest]

theorem asRead_eq {m : Message} (whole : ∀ field ∈ m.fields, trimmed field.2 = field.2) :
    asRead m = m := by
  have same : m.fields.map trimField = m.fields := by
    conv => rhs; rw [← List.map_id m.fields]
    exact List.map_congr_left fun field listed => by rw [trimField, whole field listed]; rfl
  rw [asRead, same]

theorem contentLength_natText {fields : List (Bytes × Bytes)} {n : Nat}
    (one : valuesOf (bytes "Content-Length") fields = [natText n]) : contentLength fields = some n := by
  have digits : (natText n).all isDigit = true := List.all_eq_true.mpr (natText_isDigit n)
  have number := unsignedInteger_natText n [] (by simp)
  rw [List.append_nil] at number
  simp [contentLength, one, digits, number]

theorem writeFields_length (body : Bytes) (fields : List (Bytes × Bytes)) :
    fields.length < (writeFields body fields).length := by
  induction fields with
  | nil => simp [writeFields, endLine]
  | cons field fields ih =>
    rw [writeFields, endLine, List.length_append, List.length_cons, List.length_cons,
      List.length_cons]
    omega

/-- A reader gets the message back and is left with what was written behind it. -/
theorem readMessage_writeMessage {m : Message} (sendable : Sendable m) (rest : Bytes) :
    readMessage (writeMessage m ++ rest) = some (asRead m, rest) := by
  have behind : ∀ fields, writeFields m.body fields ++ rest = writeFields (m.body ++ rest) fields := by
    intro fields
    induction fields with
    | nil => rfl
    | cons field fields ih => simp [writeFields, endLine, ih]
  have whole : writeMessage m ++ rest = endLine m.start (writeFields (m.body ++ rest) m.fields) := by
    rw [← behind]
    simp [writeMessage, endLine]
  have fields := readFields_writeFields (m.body ++ rest) sendable.names sendable.values
    (writeFields_length (m.body ++ rest) m.fields)
  have counted : contentLength (m.fields.map trimField) = some m.body.length := sendable.counted
  simp [readMessage, whole, readLine_endLine sendable.start, fields, counted, asRead]

section truncated

theorem readLine_append {text line rest : Bytes} (behind : Bytes)
    (read : readLine text = some (line, rest)) :
    readLine (text ++ behind) = some (line, rest ++ behind) := by
  induction text using readLine.induct generalizing line rest with
  | case1 tail =>
    simp only [readLine, Option.some.injEq, Prod.mk.injEq] at read
    obtain ⟨rfl, rfl⟩ := read
    rfl
  | case2 => cases read
  | case3 c text other ih =>
    rw [readLine] at read
    · simp only [Option.map_eq_some_iff, Prod.mk.injEq] at read
      obtain ⟨⟨line', rest'⟩, tail, rfl, rfl⟩ := read
      have more := ih tail
      rw [List.cons_append, readLine, more]
      · rfl
      · intro after first split
        subst first
        cases text with
        | nil => cases tail
        | cons d text =>
          simp only [List.cons_append, List.cons.injEq] at split
          exact other text rfl (by rw [split.1])
    · exact other

theorem readFields_append {text rest : Bytes} {fields : List (Bytes × Bytes)} {fuel fuel' : Nat}
    (behind : Bytes) (enough : fuel ≤ fuel') (read : readFields fuel text = some (fields, rest)) :
    readFields fuel' (text ++ behind) = some (fields, rest ++ behind) := by
  induction fuel generalizing text fields fuel' with
  | zero => cases read
  | succ fuel ih =>
    cases fuel' with
    | zero => omega
    | succ fuel' =>
      rw [readFields] at read ⊢
      cases first : readLine text with
      | none => simp [first] at read
      | some own =>
        obtain ⟨line, after⟩ := own
        rw [readLine_append behind first]
        rw [first] at read
        cases line with
        | nil =>
          simp only [Option.some.injEq, Prod.mk.injEq] at read
          obtain ⟨rfl, rfl⟩ := read
          rfl
        | cons c line =>
          simp only [Option.bind_eq_bind, Option.bind_eq_some_iff, Option.some.injEq,
            Prod.mk.injEq] at read
          obtain ⟨field, isField, ⟨fields', rest'⟩, others, rfl, rfl⟩ := read
          simp [isField, ih (Nat.le_of_succ_le_succ enough) others]

/-- A whole message at the front of a text is the message read from it. -/
theorem readMessage_append {text rest : Bytes} {m : Message} (behind : Bytes)
    (read : readMessage text = some (m, rest)) :
    readMessage (text ++ behind) = some (m, rest ++ behind) := by
  simp only [readMessage, Option.bind_eq_bind, Option.bind_eq_some_iff] at read
  obtain ⟨⟨start, after⟩, first, ⟨fields, body⟩, others, n, counted, whole⟩ := read
  have fields' := readFields_append behind (Nat.le_add_right after.length behind.length) others
  rw [← List.length_append] at fields'
  split at whole
  · rename_i inside
    simp only [Option.some.injEq, Prod.mk.injEq] at whole
    obtain ⟨rfl, rfl⟩ := whole
    have longer : n ≤ (body ++ behind).length := by
      rw [List.length_append]
      exact Nat.le_add_right_of_le inside
    simp only [readMessage, readLine_append behind first, Option.bind_eq_bind, Option.bind_some,
      fields', counted, if_pos longer, List.take_append_of_le_length inside,
      List.drop_append_of_le_length inside]
  · cases whole

/-- Of a message that breaks off nothing is read. -/
theorem readMessage_take {m : Message} (sendable : Sendable m) {n : Nat}
    (short : n < (writeMessage m).length) : readMessage ((writeMessage m).take n) = none := by
  cases read : readMessage ((writeMessage m).take n) with
  | none => rfl
  | some own =>
    obtain ⟨other, rest⟩ := own
    have longer := readMessage_append ((writeMessage m).drop n) read
    have whole := readMessage_writeMessage sendable []
    rw [List.append_nil] at whole
    rw [List.take_append_drop, whole] at longer
    have empty : rest ++ (writeMessage m).drop n = [] := by
      simpa using (congrArg Prod.snd (Option.some.inj longer)).symm
    have missing := List.drop_eq_nil_iff.mp (List.append_eq_nil_iff.mp empty).2
    omega

end truncated

theorem readStart_startLine {method target : Bytes} (name : ∀ c ∈ method, isVisible c = true)
    (place : ∀ c ∈ target, isVisible c = true) (version : Bytes) :
    readStart (startLine method target version) = some (method, target, version) := by
  have blank : isVisible 32 = false := by decide
  simp [readStart, startLine, List.dropWhile_append_of_pos name, List.takeWhile_append_of_pos name,
    List.dropWhile_append_of_pos place, List.takeWhile_append_of_pos place, blank]

section streams

/-- Reads messages until the text is used up; each takes at least one octet. -/
def readMessagesWithin : Nat → Bytes → Option (List Message)
  | _, [] => some []
  | 0, _ => none
  | fuel + 1, text => do
    let (m, rest) ← readMessage text
    let messages ← readMessagesWithin fuel rest
    some (m :: messages)

def readMessages (text : Bytes) : Option (List Message) := readMessagesWithin text.length text

theorem writeMessage_ne_nil (m : Message) : writeMessage m ≠ [] := by simp [writeMessage, endLine]

theorem readMessagesWithin_flatMap {messages : List Message}
    (sendable : ∀ m ∈ messages, Sendable m) {fuel : Nat}
    (enough : (messages.flatMap writeMessage).length ≤ fuel) :
    readMessagesWithin fuel (messages.flatMap writeMessage) = some (messages.map asRead) := by
  induction messages generalizing fuel with
  | nil => cases fuel <;> rfl
  | cons m messages ih =>
    have filled : 0 < (writeMessage m).length := List.length_pos_iff.mpr (writeMessage_ne_nil m)
    rw [List.flatMap_cons, List.length_append] at enough
    cases fuel with
    | zero => omega
    | succ fuel =>
      have first := readMessage_writeMessage (sendable m List.mem_cons_self)
        (messages.flatMap writeMessage)
      have others : readMessagesWithin fuel (messages.flatMap writeMessage) =
          some (messages.map asRead) :=
        ih (fun other listed => sendable other (List.mem_cons_of_mem m listed)) (by omega)
      obtain ⟨c, rest, split⟩ : ∃ c rest, writeMessage m ++ messages.flatMap writeMessage = c :: rest :=
        List.exists_cons_of_ne_nil (by simp [writeMessage_ne_nil])
      rw [List.flatMap_cons, split, readMessagesWithin, ← split, first]
      · simp [others]
      · simp

/-- Messages written one after another are read as these messages and no others. -/
theorem readMessages_flatMap {messages : List Message} (sendable : ∀ m ∈ messages, Sendable m) :
    readMessages (messages.flatMap writeMessage) = some (messages.map asRead) :=
  readMessagesWithin_flatMap sendable (Nat.le_refl _)

end streams

end HttpText
