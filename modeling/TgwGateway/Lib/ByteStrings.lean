import Mathlib.Data.List.Basic

/- Byte strings as lists of octets. A literal stands for the octets of its UTF-8 text;
   every other value is arbitrary, so no encoding is assumed anywhere. -/
namespace ByteStrings

abbrev Bytes := List UInt8

/-- Byte strings are compared octet by octet, also where another order on lists is known. -/
instance : DecidableEq Bytes := @instDecidableEqList UInt8 instDecidableEqUInt8

def bytes (text : String) : Bytes := text.toByteArray.data.toList

/-- An ordered map from byte strings, iterated in the byte order of its keys. -/
abbrev ByteMap (Value : Type) := Std.ExtTreeMap Bytes Value

end ByteStrings
