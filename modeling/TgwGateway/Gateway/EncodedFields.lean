import TgwGateway.Common.JsonEscaping
import TgwGateway.Gateway.LocalRpcUpstreamClient
import TgwGateway.Gateway.LooseJson
import TgwGateway.Lib.ByteMaps

/- The client's reader of flat objects undoes the client's own writer, on all octets. -/
namespace TgwEncodedFields
open ByteStrings ByteMaps DecimalText JsonStrings TgwStatus TgwJsonEscaping
open TgwFlatJson TgwLooseJson TgwLocalRpc

theorem unescaped_eq (c : UInt8) : unescaped c = escapeValue c := rfl

theorem jsonEscape_looseTail (s rest : Bytes) : LooseTail (jsonEscape s ++ 34 :: rest) s rest := by
  induction s with
  | nil => exact LooseTail.close
  | cons c s ih =>
    rw [jsonEscape_cons, List.append_assoc]
    rcases jsonEscapeByte_cases c with
      ⟨e, written, _, _, value⟩ | ⟨written, noQuote, noBackslash, _⟩
    · have escape := LooseTail.escape (c := e) ih
      rw [unescaped_eq, value] at escape
      rw [written]
      exact escape
    · rw [written]
      exact LooseTail.octet noQuote noBackslash ih

theorem jsonPair_looseMember (key value rest : Bytes) :
    LooseMember (jsonPair key value true ++ rest) key value rest := by
  have mark : bytes "\"" = [34] ∧ bytes "\":" = [34, 58] := by decide
  simp only [jsonPair, mark, ↓reduceIte, List.append_assoc, List.cons_append, List.nil_append]
  exact LooseMember.pair (jsonEscape_looseTail key _) (Spaces.none _) (Spaces.none _)
    (trimmed_cons (by decide) _) (LooseValue.string (jsonEscape_looseTail value rest))

def pairText (pair : Bytes × Bytes) : Bytes := jsonPair pair.1 pair.2 true

theorem pairs_looseMembers (pairs : List (Bytes × Bytes)) (rest : Bytes) :
    LooseMembers ((bytes ",").intercalate (pairs.map pairText) ++ 125 :: rest) pairs := by
  have comma : bytes "," = [44] := by decide
  induction pairs with
  | nil => exact LooseMembers.none (Spaces.none _)
  | cons first pairs ih =>
    have member := jsonPair_looseMember first.1 first.2
    cases pairs with
    | nil =>
      rw [List.map_cons, List.map_nil, List.intercalate_singleton]
      exact LooseMembers.last (Spaces.none _) (member _) (Spaces.none _)
    | cons next pairs =>
      rw [List.map_cons, comma] at ih
      rw [List.map_cons, List.map_cons, List.intercalate_cons_cons, comma, List.append_assoc,
        List.append_assoc]
      exact LooseMembers.more (Spaces.none _) (member _) (Spaces.none _) ih

theorem jsonObject_looseObject (pairs : List (Bytes × Bytes)) :
    LooseObject (jsonObject (pairs.map pairText)) pairs := by
  have brace : bytes "\x7b" = [123] ∧ bytes "\x7d" = [125] := by decide
  have members := pairs_looseMembers pairs []
  refine ⟨_, ?_, members⟩
  rw [jsonObject, brace.1, brace.2, List.append_assoc]
  exact Spaces.none _

/-- Written in any order, the entries of a map are read back as that map. -/
theorem encoded_fields_read_back (fields : FieldMap) (pairs : List (Bytes × Bytes))
    (order : pairs.Perm fields.toList) :
    parseFlatJsonObject (jsonObject (pairs.map fun pair => jsonPair pair.1 pair.2 true)) =
      .ok fields := by
  rw [parseFlatJsonObject_iff]
  exact Or.inr ⟨pairs, jsonObject_looseObject pairs, (foldl_insert_toList order).symm⟩

def quotedFields : FieldMap :=
  ((∅ : FieldMap).insert [34, 0] [92, 44, 125]).insert (bytes "file_name") (bytes "a\tb, \\")

theorem encoded_fields_read_back_quoted :
    parseFlatJsonObject (jsonObject (quotedFields.toList.reverse.map
      fun pair => jsonPair pair.1 pair.2 true)) = .ok quotedFields :=
  encoded_fields_read_back quotedFields quotedFields.toList.reverse (List.reverse_perm _)

end TgwEncodedFields
