import TgwGateway.Lib.DecimalText

/- Reading of self-delimiting texts one after another, and the commands of the Redis protocol: an
   array of byte strings, each behind its length. -/
namespace RespText
open ByteStrings DecimalText

section readers
variable {α : Type} (read : Bytes → Option (α × Bytes))

def readTimes : Nat → Bytes → Option (List α × Bytes)
  | 0, text => some ([], text)
  | n + 1, text =>
    match read text with
    | none => none
    | some (item, rest) => (readTimes n rest).map fun (items, rest) => (item :: items, rest)

/-- Reads items until the text is used up; each takes at least one octet. -/
def readAllWithin : Nat → Bytes → Option (List α)
  | _, [] => some []
  | 0, _ => none
  | fuel + 1, text =>
    match read text with
    | none => none
    | some (item, rest) => (readAllWithin fuel rest).map (item :: ·)

def readAll (text : Bytes) : Option (List α) := readAllWithin read text.length text

/-- What write puts in front of a text, read takes off again. -/
def Reads (write : α → Bytes) : Prop :=
  ∀ item rest, read (write item ++ rest) = some (item, rest)

variable {read} {write : α → Bytes} (reads : Reads read write)
include reads

theorem readTimes_append (items : List α) (rest : Bytes) :
    readTimes read items.length (items.flatMap write ++ rest) = some (items, rest) := by
  induction items with
  | nil => rfl
  | cons item items ih =>
    rw [List.flatMap_cons, List.append_assoc, List.length_cons, readTimes, reads]
    simp [ih]

theorem readAllWithin_flatMap (nonempty : ∀ item, write item ≠ []) (items : List α) :
    ∀ fuel, (items.flatMap write).length ≤ fuel →
      readAllWithin read fuel (items.flatMap write) = some items := by
  induction items with
  | nil =>
    intro fuel _
    cases fuel <;> rfl
  | cons item items ih =>
    intro fuel long
    have positive : 0 < (write item).length := List.length_pos_iff.mpr (nonempty item)
    rw [List.flatMap_cons, List.length_append] at long
    cases fuel with
    | zero => omega
    | succ fuel =>
      have text : ∃ c rest, write item ++ items.flatMap write = c :: rest :=
        List.exists_cons_of_ne_nil (by simp [nonempty item])
      obtain ⟨c, rest, split⟩ := text
      rw [List.flatMap_cons, split, readAllWithin, ← split, reads]
      · simp [ih fuel (by omega)]
      · simp

theorem readAll_flatMap (nonempty : ∀ item, write item ≠ []) (items : List α) :
    readAll read (items.flatMap write) = some items :=
  readAllWithin_flatMap reads nonempty items _ (Nat.le_refl _)

end readers

def readLength (marker : UInt8) : Bytes → Option (Nat × Bytes)
  | [] => none
  | c :: text =>
    if c = marker then
      match unsignedInteger text, text.dropWhile isDigit with
      | some n, 13 :: 10 :: rest => some (n, rest)
      | _, _ => none
    else none

def readBulkString (text : Bytes) : Option (Bytes × Bytes) :=
  match readLength 36 text with
  | none => none
  | some (n, rest) =>
    match rest.drop n with
    | 13 :: 10 :: after => some (rest.take n, after)
    | _ => none

def readCommand (text : Bytes) : Option (List Bytes × Bytes) :=
  match readLength 42 text with
  | none => none
  | some (n, rest) => readTimes readBulkString n rest

def readCommands : Bytes → Option (List (List Bytes)) := readAll readCommand

theorem readLength_natText (marker : UInt8) (n : Nat) (rest : Bytes) :
    readLength marker (marker :: (natText n ++ 13 :: 10 :: rest)) = some (n, rest) := by
  have digits := natText_isDigit n
  have number : unsignedInteger (natText n ++ 13 :: 10 :: rest) = some n :=
    unsignedInteger_natText n _ (by simp; decide)
  have line : (natText n ++ 13 :: 10 :: rest).dropWhile isDigit = 13 :: 10 :: rest := by
    rw [List.dropWhile_append_of_pos digits]
    rfl
  simp [readLength, number, line]

theorem readBulkString_append (value rest : Bytes) :
    readBulkString (36 :: (natText value.length ++ 13 :: 10 :: (value ++ 13 :: 10 :: rest))) =
      some (value, rest) := by
  simp [readBulkString, readLength_natText]

end RespText
