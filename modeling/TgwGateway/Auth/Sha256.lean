import TgwGateway.Lib.ByteStrings

/- SHA-256 and HMAC-SHA-256 as the token service codes them, on 32-bit words. -/
namespace TgwSha256
open ByteStrings

def rotR (value bits : UInt32) : UInt32 := value >>> bits ||| value <<< (32 - bits)

def k : List UInt32 := [
  0x428a2f98, 0x71374491, 0xb5c0fbcf, 0xe9b5dba5, 0x3956c25b, 0x59f111f1, 0x923f82a4, 0xab1c5ed5,
  0xd807aa98, 0x12835b01, 0x243185be, 0x550c7dc3, 0x72be5d74, 0x80deb1fe, 0x9bdc06a7, 0xc19bf174,
  0xe49b69c1, 0xefbe4786, 0x0fc19dc6, 0x240ca1cc, 0x2de92c6f, 0x4a7484aa, 0x5cb0a9dc, 0x76f988da,
  0x983e5152, 0xa831c66d, 0xb00327c8, 0xbf597fc7, 0xc6e00bf3, 0xd5a79147, 0x06ca6351, 0x14292967,
  0x27b70a85, 0x2e1b2138, 0x4d2c6dfc, 0x53380d13, 0x650a7354, 0x766a0abb, 0x81c2c92e, 0x92722c85,
  0xa2bfe8a1, 0xa81a664b, 0xc24b8b70, 0xc76c51a3, 0xd192e819, 0xd6990624, 0xf40e3585, 0x106aa070,
  0x19a4c116, 0x1e376c08, 0x2748774c, 0x34b0bcb5, 0x391c0cb3, 0x4ed8aa4a, 0x5b9cca4f, 0x682e6ff3,
  0x748f82ee, 0x78a5636f, 0x84c87814, 0x8cc70208, 0x90befffa, 0xa4506ceb, 0xbef9a3f7, 0xc67178f2]

structure Words where
  a : UInt32
  b : UInt32
  c : UInt32
  d : UInt32
  e : UInt32
  f : UInt32
  g : UInt32
  h : UInt32
  deriving DecidableEq

def initial : Words :=
  ⟨0x6a09e667, 0xbb67ae85, 0x3c6ef372, 0xa54ff53a, 0x510e527f, 0x9b05688c, 0x1f83d9ab, 0x5be0cd19⟩

/-- The loop that appends zeros; it turns fewer than 64 times. -/
def padZeros : Nat → Bytes → Bytes
  | 0, data => data
  | fuel + 1, data => if data.length % 64 = 56 then data else padZeros fuel (data ++ [0])

def padded (input : Bytes) : Bytes :=
  let bitLen : UInt64 := UInt64.ofNat input.length * 8
  padZeros 64 (input ++ [0x80]) ++
    [7, 6, 5, 4, 3, 2, 1, 0].map fun (i : UInt64) => (bitLen >>> (i * 8) &&& 0xff).toUInt8

def wordAt (data : Bytes) (j : Nat) : UInt32 :=
  (data.getD j 0).toUInt32 <<< 24 ||| (data.getD (j + 1) 0).toUInt32 <<< 16 |||
    (data.getD (j + 2) 0).toUInt32 <<< 8 ||| (data.getD (j + 3) 0).toUInt32

def extend (w : List UInt32) (i : Nat) : List UInt32 :=
  let w15 := w.getD (i - 15) 0
  let w2 := w.getD (i - 2) 0
  let s0 := rotR w15 7 ^^^ rotR w15 18 ^^^ w15 >>> 3
  let s1 := rotR w2 17 ^^^ rotR w2 19 ^^^ w2 >>> 10
  w ++ [w.getD (i - 16) 0 + s0 + w.getD (i - 7) 0 + s1]

def schedule (data : Bytes) (chunk : Nat) : List UInt32 :=
  (List.range' 16 48).foldl extend ((List.range 16).map fun i => wordAt data (chunk + i * 4))

def round (w : List UInt32) (s : Words) (i : Nat) : Words :=
  let s1 := rotR s.e 6 ^^^ rotR s.e 11 ^^^ rotR s.e 25
  let ch := (s.e &&& s.f) ^^^ (~~~s.e &&& s.g)
  let temp1 := s.h + s1 + ch + k.getD i 0 + w.getD i 0
  let s0 := rotR s.a 2 ^^^ rotR s.a 13 ^^^ rotR s.a 22
  let maj := (s.a &&& s.b) ^^^ (s.a &&& s.c) ^^^ (s.b &&& s.c)
  let temp2 := s0 + maj
  ⟨temp1 + temp2, s.a, s.b, s.c, s.d + temp1, s.e, s.f, s.g⟩

def compress (data : Bytes) (h : Words) (chunk : Nat) : Words :=
  let s := (List.range 64).foldl (round (schedule data chunk)) h
  ⟨h.a + s.a, h.b + s.b, h.c + s.c, h.d + s.d, h.e + s.e, h.f + s.f, h.g + s.g, h.h + s.h⟩

def wordBytes (word : UInt32) : Bytes :=
  [(word >>> 24 &&& 0xff).toUInt8, (word >>> 16 &&& 0xff).toUInt8, (word >>> 8 &&& 0xff).toUInt8,
    (word &&& 0xff).toUInt8]

def sha256 (input : Bytes) : Bytes :=
  let data := padded input
  let s := (List.range ((data.length + 63) / 64)).foldl (fun h i => compress data h (i * 64)) initial
  [s.a, s.b, s.c, s.d, s.e, s.f, s.g, s.h].flatMap wordBytes

def kBlockSize : Nat := 64

def hmacSha256 (key message : Bytes) : Bytes :=
  let keyBytes := if kBlockSize < key.length then sha256 key else key
  let keyBytes := (keyBytes ++ List.replicate kBlockSize 0).take kBlockSize
  let oKeyPad := keyBytes.map (· ^^^ 0x5c)
  let iKeyPad := keyBytes.map (· ^^^ 0x36)
  sha256 (oKeyPad ++ sha256 (iKeyPad ++ message))

example : (sha256 (bytes "abc")).take 4 = [0xba, 0x78, 0x16, 0xbf] := by decide +kernel

end TgwSha256
