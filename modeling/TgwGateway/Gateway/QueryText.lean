import TgwGateway.Gateway.FlatJson
import TgwGateway.Lib.ByteSearch
import Mathlib.Data.List.Induction
import Mathlib.Data.List.TakeWhile

/- The loops of UrlDecode and ParseQuery over positions, against the texts they stand for, and the
   form encoding they undo. -/
namespace TgwQueryText
open ByteStrings ByteSearch TgwFlatJson

def ampersand : UInt8 := 38
def equalsSign : UInt8 := 61

/-- The loop over i; without turns left there is no result. -/
def urlDecodeLoop (input : Bytes) : Nat → Nat → Bytes → Option Bytes
  | 0, _, _ => none
  | fuel + 1, i, output =>
    if i < input.length then
      let c := input.getD i 0
      if c = 43 then urlDecodeLoop input fuel (i + 1) (output ++ [32])
      else if c = 37 ∧ i + 2 < input.length ∧ isHex (input.getD (i + 1) 0) ∧
          isHex (input.getD (i + 2) 0) then
        urlDecodeLoop input fuel (i + 3) (output ++
          [hexValue (input.getD (i + 1) 0) * 16 + hexValue (input.getD (i + 2) 0)])
      else urlDecodeLoop input fuel (i + 1) (output ++ [c])
    else some output

def urlDecodeAt (input : Bytes) : Option Bytes := urlDecodeLoop input (input.length + 1) 0 []

/-- What the loop over the parts does with a part; eq is the position of the first equals sign. -/
def addPartAt (result : FieldMap) (part : Bytes) : Option FieldMap :=
  if part = [] then some result
  else do
    let eq := find [equalsSign] part
    let key ← urlDecodeAt (part.take (eq.getD part.length))
    let value ← match eq with
      | none => some []
      | some eq => urlDecodeAt (part.drop (eq + 1))
    return result.insert key value

def parseQueryLoop (query : Bytes) : Nat → Nat → FieldMap → Option FieldMap
  | 0, _, _ => none
  | fuel + 1, start, result =>
    if start ≤ query.length then
      let stop := (findFrom [ampersand] query start).getD query.length
      match addPartAt result ((query.drop start).take (stop - start)) with
      | none => none
      | some result =>
        if stop = query.length then some result else parseQueryLoop query fuel (stop + 1) result
    else some result

section decoding

theorem urlDecode_plus (rest : Bytes) : urlDecode (43 :: rest) = 32 :: urlDecode rest := by
  rcases rest with _ | ⟨high, _ | ⟨low, rest⟩⟩ <;> simp [urlDecode]

theorem urlDecode_escape {high low : UInt8} (first : isHex high = true) (second : isHex low = true)
    (rest : Bytes) :
    urlDecode (37 :: high :: low :: rest) = (hexValue high * 16 + hexValue low) :: urlDecode rest := by
  simp [urlDecode, first, second]

theorem urlDecode_other {c : UInt8} {rest : Bytes} (noPlus : c ≠ 43)
    (noEscape : ∀ high low after, c = 37 → rest = high :: low :: after →
      ¬ (isHex high = true ∧ isHex low = true)) : urlDecode (c :: rest) = c :: urlDecode rest := by
  rcases rest with _ | ⟨high, _ | ⟨low, rest⟩⟩
  · simp [urlDecode, noPlus]
  · simp [urlDecode, noPlus]
  · have none := fun percent => noEscape high low rest percent rfl
    rw [urlDecode, if_neg noPlus, if_neg]
    simp only [Bool.and_eq_true, decide_eq_true_eq]
    exact fun ⟨⟨percent, first⟩, second⟩ => none percent ⟨first, second⟩

theorem urlDecodeLoop_eq {input : Bytes} {fuel i : Nat} (within : i ≤ input.length)
    (turns : input.length < i + fuel) (output : Bytes) :
    urlDecodeLoop input fuel i output = some (output ++ urlDecode (input.drop i)) := by
  induction fuel generalizing i output with
  | zero => omega
  | succ fuel ih =>
    unfold urlDecodeLoop
    by_cases inside : i < input.length
    · have here : input.getD i 0 = input[i] := by simp [inside]
      simp only [if_pos inside, here]
      rw [List.drop_eq_getElem_cons inside]
      by_cases plus : input[i] = 43
      · rw [if_pos plus, ih (by omega) (by omega), plus, urlDecode_plus, List.append_assoc]
        rfl
      · rw [if_neg plus]
        split
        · rename_i escape
          obtain ⟨percent, room, first, second⟩ := escape
          have ahead : input.drop (i + 1) =
              input.getD (i + 1) 0 :: input.getD (i + 2) 0 :: input.drop (i + 3) := by
            rw [List.drop_eq_getElem_cons (by omega), List.drop_eq_getElem_cons room]
            simp [room, show i + 1 < input.length by omega]
          rw [ih (by omega) (by omega), percent, ahead, urlDecode_escape first second,
            List.append_assoc]
          rfl
        · rename_i noEscape
          rw [ih (by omega) (by omega), urlDecode_other plus, List.append_assoc]
          · rfl
          · intro high low after percent ahead ⟨first, second⟩
            have long := congrArg List.length ahead
            simp only [List.length_drop, List.length_cons] at long
            have high_eq : input.getD (i + 1) 0 = high := by
              have head := congrArg (·[0]?) ahead
              simpa [List.getElem?_drop] using congrArg (·.getD 0) head
            have low_eq : input.getD (i + 2) 0 = low := by
              have next := congrArg (·[1]?) ahead
              simpa [List.getElem?_drop] using congrArg (·.getD 0) next
            exact noEscape ⟨percent, by omega, high_eq ▸ first, low_eq ▸ second⟩
    · rw [if_neg inside, List.drop_eq_nil_of_le (by omega)]
      simp [urlDecode]

theorem urlDecodeAt_eq (input : Bytes) : urlDecodeAt input = some (urlDecode input) :=
  urlDecodeLoop_eq (Nat.zero_le _) (by omega) []

end decoding

section parts

theorem takeWhile_field {separator : UInt8} {field : Bytes} (plain : separator ∉ field)
    (rest : Bytes) : (field ++ separator :: rest).takeWhile (· ≠ separator) = field ∧
      (field ++ separator :: rest).dropWhile (· ≠ separator) = separator :: rest := by
  have all : ∀ c ∈ field, decide (c ≠ separator) = true := by
    intro c member
    simpa using fun same : c = separator => plain (same ▸ member)
  rw [List.takeWhile_append_of_pos all, List.dropWhile_append_of_pos all]
  simp

theorem takeWhile_plain {separator : UInt8} {field : Bytes} (plain : separator ∉ field) :
    field.takeWhile (· ≠ separator) = field ∧ field.dropWhile (· ≠ separator) = [] := by
  have all : ∀ c ∈ field, decide (c ≠ separator) = true := by
    intro c member
    simpa using fun same : c = separator => plain (same ▸ member)
  exact ⟨List.takeWhile_eq_self_iff.mpr all, List.dropWhile_eq_nil_iff.mpr all⟩

theorem addPartAt_eq (result : FieldMap) (part : Bytes) :
    addPartAt result part = some (addPart result part) := by
  unfold addPartAt addPart
  split
  · rfl
  · by_cases present : equalsSign ∈ part
    · obtain ⟨key, value, split, plain⟩ := List.eq_append_cons_of_mem present
      obtain ⟨taken, left⟩ := takeWhile_field plain value
      rw [equalsSign] at taken left
      rw [split, find_single_absent plain, equalsSign, taken, left]
      simp [urlDecodeAt_eq]
    · obtain ⟨taken, left⟩ := takeWhile_plain present
      rw [equalsSign] at taken left
      rw [find_single_none present, taken, left]
      simp [urlDecodeAt_eq, urlDecode]

theorem parseQueryLoop_eq {query : Bytes} {fuel start : Nat} (within : start ≤ query.length)
    (turns : query.length < start + fuel) (result : FieldMap) :
    parseQueryLoop query fuel start result =
      some (((query.drop start).splitOn ampersand).foldl addPart result) := by
  induction fuel generalizing start result with
  | zero => omega
  | succ fuel ih =>
    rw [parseQueryLoop, if_pos within]
    by_cases more : ampersand ∈ query.drop start
    · obtain ⟨part, rest, split, plain, stop, room, later⟩ := findFrom_piece more
      simp only [stop, Option.getD_some, addPartAt_eq]
      rw [if_neg (by omega), ih (by omega) (by omega), later, split,
        List.splitOn_append_cons_self_of_not_mem plain]
      simp
    · simp only [findFrom_none more, Option.getD_none, addPartAt_eq, ↓reduceIte]
      rw [List.splitOn_eq_singleton more, ← List.length_drop, List.take_length]
      rfl

end parts

/-- ParseQuery; turns is the number of turns that its loop may take. -/
def parseQueryWithin (turns : Nat) (query : Bytes) : Option FieldMap :=
  parseQueryLoop query turns 0 ∅

theorem parseQueryWithin_eq {turns : Nat} {query : Bytes} (enough : query.length < turns) :
    parseQueryWithin turns query = some (parseQuery query) := by
  rw [parseQueryWithin, parseQueryLoop_eq (Nat.zero_le _) (by omega), List.drop_zero]
  rfl

/-- What a query says: split at each ampersand, empty parts dropped, each part split at its first
    equals sign and both sides decoded. -/
def queryFields (query : Bytes) : List (Bytes × Bytes) :=
  ((query.splitOn ampersand).filter (· ≠ [])).map fun part =>
    (urlDecode (part.takeWhile (· ≠ equalsSign)),
      urlDecode ((part.dropWhile (· ≠ equalsSign)).drop 1))

def fieldMap (fields : List (Bytes × Bytes)) : FieldMap :=
  fields.foldl (fun result field => result.insert field.1 field.2) ∅

theorem fieldMap_get (fields : List (Bytes × Bytes)) (key : Bytes) :
    (fieldMap fields)[key]? = fields.reverse.lookup key := by
  induction fields using List.reverseRecOn with
  | nil => rfl
  | append_singleton fields field ih =>
    rw [fieldMap] at ih ⊢
    rw [List.foldl_append, List.foldl_cons, List.foldl_nil, Std.ExtTreeMap.getElem?_insert, ih,
      List.reverse_append, List.reverse_singleton, List.singleton_append, List.lookup_cons]
    by_cases own : field.1 = key
    · simp [own]
    · have other : (key == field.1) = false := beq_eq_false_iff_ne.mpr (Ne.symm own)
      simp [own, other]

theorem foldl_addPart (parts : List Bytes) (result : FieldMap) :
    parts.foldl addPart result =
      ((parts.filter (· ≠ [])).map fun part =>
        (urlDecode (part.takeWhile (· ≠ equalsSign)),
          urlDecode ((part.dropWhile (· ≠ equalsSign)).drop 1))).foldl
        (fun result field => result.insert field.1 field.2) result := by
  induction parts generalizing result with
  | nil => rfl
  | cons part parts ih =>
    rw [List.foldl_cons, ih]
    by_cases empty : part = []
    · simp [addPart, empty]
    · rw [List.filter_cons_of_pos (by simpa using empty), List.map_cons, List.foldl_cons, addPart,
        if_neg empty]
      rfl

theorem parseQuery_eq (query : Bytes) : parseQuery query = fieldMap (queryFields query) :=
  foldl_addPart _ ∅

section encoding

def isUnescaped (c : UInt8) : Bool :=
  (48 ≤ c && c ≤ 57) || (65 ≤ c && c ≤ 90) || (97 ≤ c && c ≤ 122) ||
    c == 45 || c == 46 || c == 95 || c == 42

def upperHexDigit (n : Nat) : UInt8 := (bytes "0123456789ABCDEF").getD n 0

def formByte (c : UInt8) : Bytes :=
  if c = 32 then [43]
  else if isUnescaped c then [c]
  else [37, upperHexDigit (c.toNat / 16), upperHexDigit (c.toNat % 16)]

def formEncode (text : Bytes) : Bytes := text.flatMap formByte

def formField (field : Bytes × Bytes) : Bytes :=
  formEncode field.1 ++ equalsSign :: formEncode field.2

/-- application/x-www-form-urlencoded. -/
def formText (fields : List (Bytes × Bytes)) : Bytes :=
  [ampersand].intercalate (fields.map formField)

theorem formByte_cases : ∀ n : Fin 256, let c := UInt8.ofNat n.val
    c = 32 ∨ (formByte c = [c] ∧ c ≠ 43 ∧ c ≠ 37) ∨
      (isHex (upperHexDigit (c.toNat / 16)) = true ∧ isHex (upperHexDigit (c.toNat % 16)) = true ∧
        hexValue (upperHexDigit (c.toNat / 16)) * 16 + hexValue (upperHexDigit (c.toNat % 16)) = c ∧
        formByte c = [37, upperHexDigit (c.toNat / 16), upperHexDigit (c.toNat % 16)]) := by
  decide +kernel

theorem urlDecode_formByte (c : UInt8) (rest : Bytes) :
    urlDecode (formByte c ++ rest) = c :: urlDecode rest := by
  have cases := formByte_cases ⟨c.toNat, c.toNat_lt⟩
  simp only [UInt8.ofNat_toNat] at cases
  rcases cases with rfl | ⟨literal, noPlus, noPercent⟩ | ⟨high, low, value, escaped⟩
  · exact urlDecode_plus rest
  · rw [literal]
    exact urlDecode_other noPlus fun _ _ _ percent => absurd percent noPercent
  · rw [escaped]
    exact (urlDecode_escape high low rest).trans (by rw [value])

theorem urlDecode_formEncode (text : Bytes) : urlDecode (formEncode text) = text := by
  induction text with
  | nil => rfl
  | cons c text ih =>
    rw [formEncode] at ih ⊢
    rw [List.flatMap_cons, urlDecode_formByte, ih]

theorem formByte_plain (n : Fin 256) : ∀ d ∈ formByte (UInt8.ofNat n.val),
    d ≠ ampersand ∧ d ≠ equalsSign := by
  have each : ∀ n : Fin 256,
      (formByte (UInt8.ofNat n.val)).all (fun d => d ≠ ampersand ∧ d ≠ equalsSign) = true := by
    decide +kernel
  intro d member
  exact of_decide_eq_true (List.all_eq_true.mp (each n) d member)

theorem formEncode_plain (text : Bytes) :
    ampersand ∉ formEncode text ∧ equalsSign ∉ formEncode text := by
  have each : ∀ d ∈ formEncode text, d ≠ ampersand ∧ d ≠ equalsSign := by
    intro d member
    obtain ⟨c, _, written⟩ := List.mem_flatMap.mp member
    have plain := formByte_plain ⟨c.toNat, c.toNat_lt⟩
    rw [UInt8.ofNat_toNat] at plain
    exact plain d written
  exact ⟨fun member => (each _ member).1 rfl, fun member => (each _ member).2 rfl⟩

theorem formField_plain (field : Bytes × Bytes) : ampersand ∉ formField field := by
  have differ : ampersand ≠ equalsSign := by decide
  simp [formField, (formEncode_plain field.1).1, (formEncode_plain field.2).1, differ]

theorem formField_read (field : Bytes × Bytes) :
    (urlDecode ((formField field).takeWhile (· ≠ equalsSign)),
      urlDecode (((formField field).dropWhile (· ≠ equalsSign)).drop 1)) = field := by
  obtain ⟨taken, left⟩ := takeWhile_field (formEncode_plain field.1).2 (formEncode field.2)
  rw [formField, taken, left, List.drop_one, List.tail_cons, urlDecode_formEncode,
    urlDecode_formEncode]

theorem queryFields_formText (fields : List (Bytes × Bytes)) :
    queryFields (formText fields) = fields := by
  cases fields with
  | nil => rfl
  | cons first rest =>
    have pieces : (formText (first :: rest)).splitOn ampersand = (first :: rest).map formField := by
      refine List.splitOn_intercalate ampersand ?_ (by simp)
      rintro part member
      obtain ⟨field, _, rfl⟩ := List.mem_map.mp member
      exact formField_plain field
    have kept : ((first :: rest).map formField).filter (· ≠ []) = (first :: rest).map formField := by
      refine List.filter_eq_self.mpr fun part member => ?_
      obtain ⟨field, _, rfl⟩ := List.mem_map.mp member
      simp [formField]
    rw [queryFields, pieces, kept, List.map_map]
    refine (List.map_congr_left fun field _ => ?_).trans (List.map_id _)
    exact formField_read field

end encoding

/-- ParseQuery always ends; it reads a query as its fields say, and the encoding of any fields as
    the map of these fields, of equal keys the last. -/
theorem query_reads :
    (∀ (query : Bytes) (turns : Nat), query.length < turns →
      parseQueryWithin turns query = some (fieldMap (queryFields query))) ∧
      ∀ (fields : List (Bytes × Bytes)) (turns : Nat), (formText fields).length < turns →
        ∃ result, parseQueryWithin turns (formText fields) = some result ∧
          ∀ key, result[key]? = fields.reverse.lookup key := by
  have reads : ∀ (query : Bytes) (turns : Nat), query.length < turns →
      parseQueryWithin turns query = some (fieldMap (queryFields query)) := by
    intro query turns enough
    rw [parseQueryWithin_eq enough, parseQuery_eq]
  refine ⟨reads, fun fields turns enough => ⟨_, reads _ turns enough, fun key => ?_⟩⟩
  rw [queryFields_formText, fieldMap_get]

end TgwQueryText
