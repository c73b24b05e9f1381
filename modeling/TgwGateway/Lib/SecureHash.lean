import TgwGateway.Lib.BitTexts
import Mathlib.Data.Nat.Find
import Mathlib.Data.Nat.NthRoot.Defs

/- SHA-256 as its standard defines it: on messages that are strings of bits, with words of 32 bits,
   a schedule that is given by its recurrence, and blocks of sixteen words. -/
namespace SecureHash
open ByteStrings BitTexts

abbrev Word := BitVec 32

def rotr (n : Nat) (x : Word) : Word := x.rotateRight n

def shr (n : Nat) (x : Word) : Word := x >>> n

def ch (x y z : Word) : Word := (x &&& y) ^^^ (~~~x &&& z)

def maj (x y z : Word) : Word := (x &&& y) ^^^ (x &&& z) ^^^ (y &&& z)

def upperSigma0 (x : Word) : Word := rotr 2 x ^^^ rotr 13 x ^^^ rotr 22 x

def upperSigma1 (x : Word) : Word := rotr 6 x ^^^ rotr 11 x ^^^ rotr 25 x

def lowerSigma0 (x : Word) : Word := rotr 7 x ^^^ rotr 18 x ^^^ shr 3 x

def lowerSigma1 (x : Word) : Word := rotr 17 x ^^^ rotr 19 x ^^^ shr 10 x

/-- The first 64 prime numbers: those below the square of 18. -/
def primes : List Nat :=
  (List.range' 2 310).filter fun n => (List.range' 2 16).all fun m => n = m ∨ n % m ≠ 0

/-- The first 32 bits of the fraction of a root. -/
def fractionBits (power n : Nat) : Word :=
  BitVec.ofNat 32 (Nat.nthRoot power (n * 2 ^ (32 * power)))

def roundConstants : List Word := primes.map (fractionBits 3)

structure Registers where
  a : Word
  b : Word
  c : Word
  d : Word
  e : Word
  f : Word
  g : Word
  h : Word
  deriving DecidableEq

def Registers.words (s : Registers) : List Word := [s.a, s.b, s.c, s.d, s.e, s.f, s.g, s.h]

def initialHash : Registers :=
  ⟨fractionBits 2 2, fractionBits 2 3, fractionBits 2 5, fractionBits 2 7, fractionBits 2 11,
    fractionBits 2 13, fractionBits 2 17, fractionBits 2 19⟩

theorem zeros_exist (length : Nat) : ∃ k, (length + 1 + k) % 512 = 448 :=
  ⟨960 - (length + 1) % 512, by omega⟩

/-- The fewest zeros that bring a message and its final one to 448 bits modulo 512. -/
def zeroBits (length : Nat) : Nat := Nat.find (zeros_exist length)

def padding (message : List Bool) : List Bool :=
  message ++ true :: (List.replicate (zeroBits message.length) false ++ bits 64 message.length)

def blockWord (padded : List Bool) (i t : Nat) : Word :=
  BitVec.ofNat 32 (ofBits ((padded.drop (512 * i + 32 * t)).take 32))

def schedule (block : Nat → Word) (t : Nat) : Word :=
  if t < 16 then block t
  else
    lowerSigma1 (schedule block (t - 2)) + schedule block (t - 7) +
      lowerSigma0 (schedule block (t - 15)) + schedule block (t - 16)

def round (w : Nat → Word) (s : Registers) (t : Nat) : Registers :=
  let t1 := s.h + upperSigma1 s.e + ch s.e s.f s.g + roundConstants.getD t 0 + w t
  let t2 := upperSigma0 s.a + maj s.a s.b s.c
  ⟨t1 + t2, s.a, s.b, s.c, s.d + t1, s.e, s.f, s.g⟩

def compress (h : Registers) (block : Nat → Word) : Registers :=
  let s := (List.range 64).foldl (round (schedule block)) h
  ⟨h.a + s.a, h.b + s.b, h.c + s.c, h.d + s.d, h.e + s.e, h.f + s.f, h.g + s.g, h.h + s.h⟩

def sha256 (message : List Bool) : List Bool :=
  let padded := padding message
  let h := (List.range (padded.length / 512)).foldl
    (fun h i => compress h (blockWord padded i)) initialHash
  h.words.flatMap fun w => bits 32 w.toNat

def sha256Octets (message : Bytes) : Bytes := octetsOf (sha256 (bitsOf message))

theorem zeroBits_eq (length : Nat) : zeroBits length = (960 - (length + 1) % 512) % 512 := by
  rw [zeroBits, Nat.find_eq_iff]
  constructor
  · omega
  · intro k fewer fits
    omega

/-- The constants are the fractions of roots, as the table of the standard has them. -/
theorem roundConstants_table : roundConstants = [
    0x428a2f98, 0x71374491, 0xb5c0fbcf, 0xe9b5dba5, 0x3956c25b, 0x59f111f1, 0x923f82a4, 0xab1c5ed5,
    0xd807aa98, 0x12835b01, 0x243185be, 0x550c7dc3, 0x72be5d74, 0x80deb1fe, 0x9bdc06a7, 0xc19bf174,
    0xe49b69c1, 0xefbe4786, 0x0fc19dc6, 0x240ca1cc, 0x2de92c6f, 0x4a7484aa, 0x5cb0a9dc, 0x76f988da,
    0x983e5152, 0xa831c66d, 0xb00327c8, 0xbf597fc7, 0xc6e00bf3, 0xd5a79147, 0x06ca6351, 0x14292967,
    0x27b70a85, 0x2e1b2138, 0x4d2c6dfc, 0x53380d13, 0x650a7354, 0x766a0abb, 0x81c2c92e, 0x92722c85,
    0xa2bfe8a1, 0xa81a664b, 0xc24b8b70, 0xc76c51a3, 0xd192e819, 0xd6990624, 0xf40e3585, 0x106aa070,
    0x19a4c116, 0x1e376c08, 0x2748774c, 0x34b0bcb5, 0x391c0cb3, 0x4ed8aa4a, 0x5b9cca4f, 0x682e6ff3,
    0x748f82ee, 0x78a5636f, 0x84c87814, 0x8cc70208, 0x90befffa, 0xa4506ceb, 0xbef9a3f7, 0xc67178f2] := by
  decide +kernel

end SecureHash
