import TgwGateway.Lib.ByteStrings

/- Keyed hashing: two passes of a hash function, each over a block made of the key, for any hash
   function and any size of its blocks. -/
namespace Hmac
open ByteStrings

/-- A key that is too long is hashed; zeros bring it to the size of a block. -/
def padKey (hash : Bytes → Bytes) (blockSize : Nat) (key : Bytes) : Bytes :=
  let short := if blockSize < key.length then hash key else key
  short ++ List.replicate (blockSize - short.length) 0

def innerPad (key : Bytes) : Bytes := key.map (· ^^^ 0x36)

def outerPad (key : Bytes) : Bytes := key.map (· ^^^ 0x5c)

def hmac (hash : Bytes → Bytes) (blockSize : Nat) (key text : Bytes) : Bytes :=
  let block := padKey hash blockSize key
  hash (outerPad block ++ hash (innerPad block ++ text))

variable {hash other : Bytes → Bytes} {blockSize : Nat} {key text : Bytes}

theorem padKey_length (short : ∀ m, (hash m).length ≤ blockSize) (key : Bytes) :
    (padKey hash blockSize key).length = blockSize := by
  simp only [padKey]
  split
  · have fits := short key
    simp only [List.length_append, List.length_replicate]
    omega
  · simp only [List.length_append, List.length_replicate]
    omega

/-- Only the hashes of the key and of the two messages matter. -/
theorem hmac_congr (limit : Nat) (agree : ∀ m, m.length < limit → hash m = other m)
    (short : ∀ m, (hash m).length ≤ blockSize) (keyFits : key.length < limit)
    (textFits : blockSize + text.length < limit) (digestFits : blockSize + blockSize < limit) :
    hmac hash blockSize key text = hmac other blockSize key text := by
  have block : padKey hash blockSize key = padKey other blockSize key := by
    simp only [padKey, agree key keyFits]
  have length := padKey_length short key
  simp only [hmac, ← block]
  generalize padKey hash blockSize key = padded at length
  have inner : hash (innerPad padded ++ text) = other (innerPad padded ++ text) := by
    refine agree _ ?_
    simp only [innerPad, List.length_append, List.length_map]
    omega
  have digest := short (innerPad padded ++ text)
  rw [inner] at digest ⊢
  refine agree _ ?_
  simp only [outerPad, List.length_append, List.length_map]
  omega

end Hmac
