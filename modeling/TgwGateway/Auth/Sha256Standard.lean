import TgwGateway.Auth.Sha256
import TgwGateway.Lib.Hmac
import TgwGateway.Lib.SecureHash
import Mathlib.Data.List.GetD

/- The hash of the token service is SHA-256 of the standard, and its keyed hash is HMAC over it. -/
namespace TgwSha256Standard
open ByteStrings BitTexts TgwSha256
open SecureHash (Registers Word rotr)

def view (s : Words) : Registers :=
  ⟨s.a.toBitVec, s.b.toBitVec, s.c.toBitVec, s.d.toBitVec, s.e.toBitVec, s.f.toBitVec,
    s.g.toBitVec, s.h.toBitVec⟩

section words

variable (x : UInt32)

theorem amount_toNat {n : Nat} (small : n < 32) : ((UInt32.ofNat n).toBitVec % 32).toNat = n := by
  have amount : (UInt32.ofNat n).toNat = n := by
    simp only [UInt32.toNat_ofNat']
    omega
  rw [BitVec.toNat_umod, UInt32.toNat_toBitVec, amount]
  exact Nat.mod_eq_of_lt small

theorem shr_view {n : Nat} (small : n < 32) :
    (x >>> UInt32.ofNat n).toBitVec = SecureHash.shr n x.toBitVec := by
  rw [UInt32.toBitVec_shiftRight, BitVec.ushiftRight_eq', amount_toNat small]
  rfl

theorem rotR_view {n : Nat} (amount : 0 < n ∧ n < 32) :
    (rotR x (UInt32.ofNat n)).toBitVec = rotr n x.toBitVec := by
  obtain ⟨positive, small⟩ := amount
  have rest : 32 - UInt32.ofNat n = UInt32.ofNat (32 - n) := by
    rw [← UInt32.toNat_inj, UInt32.toNat_sub_of_le, UInt32.toNat_ofNat', UInt32.toNat_ofNat']
    · exact (show 32 - n % 4294967296 = (32 - n) % 4294967296 by omega)
    · rw [UInt32.le_iff_toNat_le, UInt32.toNat_ofNat']
      exact (show n % 4294967296 ≤ 32 by omega)
  rw [rotr, BitVec.rotateRight_def, Nat.mod_eq_of_lt small, rotR, rest, UInt32.toBitVec_or,
    UInt32.toBitVec_shiftLeft, BitVec.shiftLeft_eq', amount_toNat (by omega), shr_view x small]
  rfl

theorem lower_view {l m n : Nat} (first : 0 < l ∧ l < 32) (second : 0 < m ∧ m < 32)
    (third : n < 32) :
    (rotR x (UInt32.ofNat l) ^^^ rotR x (UInt32.ofNat m) ^^^ x >>> UInt32.ofNat n).toBitVec =
      rotr l x.toBitVec ^^^ rotr m x.toBitVec ^^^ SecureHash.shr n x.toBitVec := by
  rw [UInt32.toBitVec_xor, UInt32.toBitVec_xor, rotR_view x first, rotR_view x second,
    shr_view x third]

theorem upper_view {l m n : Nat} (first : 0 < l ∧ l < 32) (second : 0 < m ∧ m < 32)
    (third : 0 < n ∧ n < 32) :
    (rotR x (UInt32.ofNat l) ^^^ rotR x (UInt32.ofNat m) ^^^ rotR x (UInt32.ofNat n)).toBitVec =
      rotr l x.toBitVec ^^^ rotr m x.toBitVec ^^^ rotr n x.toBitVec := by
  rw [UInt32.toBitVec_xor, UInt32.toBitVec_xor, rotR_view x first, rotR_view x second,
    rotR_view x third]

theorem lowerSigma0_view :
    (rotR x 7 ^^^ rotR x 18 ^^^ x >>> 3).toBitVec = SecureHash.lowerSigma0 x.toBitVec :=
  lower_view x (l := 7) (m := 18) (n := 3) (by omega) (by omega) (by omega)

theorem lowerSigma1_view :
    (rotR x 17 ^^^ rotR x 19 ^^^ x >>> 10).toBitVec = SecureHash.lowerSigma1 x.toBitVec :=
  lower_view x (l := 17) (m := 19) (n := 10) (by omega) (by omega) (by omega)

theorem upperSigma0_view :
    (rotR x 2 ^^^ rotR x 13 ^^^ rotR x 22).toBitVec = SecureHash.upperSigma0 x.toBitVec :=
  upper_view x (l := 2) (m := 13) (n := 22) (by omega) (by omega) (by omega)

theorem upperSigma1_view :
    (rotR x 6 ^^^ rotR x 11 ^^^ rotR x 25).toBitVec = SecureHash.upperSigma1 x.toBitVec :=
  upper_view x (l := 6) (m := 11) (n := 25) (by omega) (by omega) (by omega)

end words

theorem constants_view : k.map UInt32.toBitVec = SecureHash.roundConstants := by
  rw [SecureHash.roundConstants_table]
  rfl

theorem constant_view (t : Nat) : (k.getD t 0).toBitVec = SecureHash.roundConstants.getD t 0 := by
  rw [← constants_view]
  exact (List.getD_map k 0 UInt32.toBitVec).symm

theorem initial_view : view initial = SecureHash.initialHash := by decide +kernel

/-- One turn of the round loop is one step of the standard on the same word. -/
theorem round_view {w : List UInt32} {words : Nat → Word} {t : Nat}
    (same : (w.getD t 0).toBitVec = words t) (s : Words) :
    view (TgwSha256.round w s t) = SecureHash.round words (view s) t := by
  simp only [TgwSha256.round, SecureHash.round, view, UInt32.toBitVec_add, upperSigma0_view,
    upperSigma1_view, constant_view, same]
  rfl

theorem extend_view {w : List UInt32} {block : Nat → Word} {t : Nat} (late : 16 ≤ t)
    (length : w.length = t)
    (same : ∀ i < t, (w.getD i 0).toBitVec = SecureHash.schedule block i) :
    (extend w t).length = t + 1 ∧
      ∀ i < t + 1, ((extend w t).getD i 0).toBitVec = SecureHash.schedule block i := by
  refine ⟨by simp [extend, length], fun i below => ?_⟩
  unfold extend
  rcases Nat.lt_or_eq_of_le (Nat.le_of_lt_succ below) with earlier | rfl
  · rw [List.getD_append _ _ _ _ (by omega)]
    exact same i earlier
  · rw [List.getD_append_right _ _ _ _ (by omega), length, Nat.sub_self, SecureHash.schedule,
      if_neg (by omega), ← same (i - 2) (by omega), ← same (i - 7) (by omega),
      ← same (i - 15) (by omega), ← same (i - 16) (by omega), ← lowerSigma0_view,
      ← lowerSigma1_view]
    simp only [List.getD_cons_zero, UInt32.toBitVec_add]
    ac_rfl

theorem extend_run {w : List UInt32} {block : Nat → Word} (length : w.length = 16)
    (same : ∀ i < 16, (w.getD i 0).toBitVec = block i) (m : Nat) :
    ((List.range' 16 m).foldl extend w).length = 16 + m ∧
      ∀ i < 16 + m, (((List.range' 16 m).foldl extend w).getD i 0).toBitVec =
        SecureHash.schedule block i := by
  induction m with
  | zero =>
    refine ⟨length, fun i below => ?_⟩
    rw [SecureHash.schedule, if_pos below]
    exact same i below
  | succ m ih =>
    rw [List.range'_concat, Nat.one_mul, List.foldl_append]
    exact extend_view (by omega) ih.1 ih.2

theorem schedule_view {data : Bytes} {chunk : Nat} {block : Nat → Word}
    (same : ∀ t < 16, (wordAt data (chunk + t * 4)).toBitVec = block t) :
    (schedule data chunk).length = 64 ∧
      ∀ t < 64, ((schedule data chunk).getD t 0).toBitVec = SecureHash.schedule block t := by
  refine extend_run (by simp) (fun i below => ?_) 48
  rw [List.getD_eq_getElem _ _ (by simpa using below), List.getElem_map, List.getElem_range]
  exact same i below

theorem compress_view {data : Bytes} {chunk : Nat} {block : Nat → Word}
    (same : ∀ t < 16, (wordAt data (chunk + t * 4)).toBitVec = block t) (h : Words) :
    view (compress data h chunk) = SecureHash.compress (view h) block := by
  have words := (schedule_view same).2
  have rounds : view ((List.range 64).foldl (TgwSha256.round (schedule data chunk)) h) =
      (List.range 64).foldl (SecureHash.round (SecureHash.schedule block)) (view h) := by
    refine List.foldl_rel (r := fun s s' => view s = s') rfl ?_
    rintro t among s _ rfl
    exact round_view (words t (List.mem_range.mp among)) s
  unfold compress SecureHash.compress
  simp only [← rounds]
  rfl

section octets

theorem bits_masked (n : Nat) : bits 8 ((n &&& 255) % 2 ^ 8) = bits 8 n := by
  have low : n &&& 255 = n % 2 ^ 8 := Nat.and_two_pow_sub_one_eq_mod n 8
  rw [bits_mod, low, bits_mod]

theorem shifted32_bits (x : UInt32) (shift : Nat) (small : shift < 32) :
    bits 8 (x >>> UInt32.ofNat shift &&& 0xff).toUInt8.toNat = bits 8 (x.toNat >>> shift) := by
  have amount : (UInt32.ofNat shift).toNat % 32 = shift := by
    rw [UInt32.toNat_ofNat']
    omega
  rw [UInt32.toNat_toUInt8, UInt32.toNat_and, UInt32.toNat_shiftRight, amount]
  exact bits_masked _

theorem shifted64_bits (x : UInt64) (shift : Nat) (small : shift < 64) :
    bits 8 (x >>> UInt64.ofNat shift &&& 0xff).toUInt8.toNat = bits 8 (x.toNat >>> shift) := by
  have amount : (UInt64.ofNat shift).toNat % 64 = shift := by
    rw [UInt64.toNat_ofNat']
    omega
  rw [UInt64.toNat_toUInt8, UInt64.toNat_and, UInt64.toNat_shiftRight, amount]
  exact bits_masked _

theorem bits32_octets (n : Nat) : bits 32 n =
    bits 8 (n >>> 24) ++ (bits 8 (n >>> 16) ++ (bits 8 (n >>> 8) ++ bits 8 n)) := by
  rw [bits_append 8 24, bits_append 8 16, bits_append 8 8]

theorem bits64_octets (n : Nat) : bits 64 n =
    bits 8 (n >>> 56) ++ (bits 8 (n >>> 48) ++ (bits 8 (n >>> 40) ++ (bits 8 (n >>> 32) ++
      bits 32 n))) := by
  rw [bits_append 8 56, bits_append 8 48, bits_append 8 40, bits_append 8 32]

theorem wordBytes_bits (word : UInt32) : bitsOf (wordBytes word) = bits 32 word.toBitVec.toNat := by
  have last : bits 8 (word &&& 0xff).toUInt8.toNat = bits 8 word.toNat := by
    rw [UInt32.toNat_toUInt8, UInt32.toNat_and]
    exact bits_masked _
  rw [UInt32.toNat_toBitVec, bits32_octets, ← shifted32_bits word 24 (by omega),
    ← shifted32_bits word 16 (by omega), ← shifted32_bits word 8 (by omega),
    ← last]
  simp [wordBytes, bitsOf]

theorem lengthBytes_bits (n : UInt64) :
    bitsOf ([7, 6, 5, 4, 3, 2, 1, 0].map fun (i : UInt64) => (n >>> (i * 8) &&& 0xff).toUInt8) =
      bits 64 n.toNat := by
  rw [bits64_octets, bits32_octets, ← shifted64_bits n 56 (by omega),
    ← shifted64_bits n 48 (by omega), ← shifted64_bits n 40 (by omega),
    ← shifted64_bits n 32 (by omega), ← shifted64_bits n 24 (by omega),
    ← shifted64_bits n 16 (by omega), ← shifted64_bits n 8 (by omega)]
  have last := shifted64_bits n 0 (by omega)
  rw [Nat.shiftRight_zero] at last
  rw [← last]
  simp [bitsOf]

theorem or_eq_add {n low : Nat} (high k : Nat) (multiple : n = high * 2 ^ k) (small : low < 2 ^ k) :
    n ||| low = n + low := by
  rw [multiple, ← Nat.shiftLeft_eq, Nat.shiftLeft_add_eq_or_of_lt small]

theorem four_octets {data : Bytes} {j : Nat} (inside : j + 3 < data.length) :
    (data.drop j).take 4 =
      [data.getD j 0, data.getD (j + 1) 0, data.getD (j + 2) 0, data.getD (j + 3) 0] := by
  rw [List.drop_eq_getElem_cons (by omega), List.drop_eq_getElem_cons (by omega),
    List.drop_eq_getElem_cons (by omega), List.drop_eq_getElem_cons (by omega),
    List.getD_eq_getElem _ _ (by omega), List.getD_eq_getElem _ _ (by omega),
    List.getD_eq_getElem _ _ (by omega), List.getD_eq_getElem _ _ (by omega)]
  rfl

theorem placed_octet (x : UInt8) (shift : Nat) (small : shift ≤ 24) :
    (x.toUInt32 <<< UInt32.ofNat shift).toNat = x.toNat * 2 ^ shift := by
  have amount : (UInt32.ofNat shift).toNat % 32 = shift := by
    rw [UInt32.toNat_ofNat']
    omega
  have bound := Nat.mul_le_mul_left x.toNat (Nat.pow_le_pow_right (show 0 < 2 by omega) small)
  have octet := x.toNat_lt
  rw [UInt32.toNat_shiftLeft, UInt8.toNat_toUInt32, amount, Nat.shiftLeft_eq]
  exact Nat.mod_eq_of_lt (by omega)

theorem joined_octets (a b c d : UInt8) :
    (a.toUInt32 <<< 24 ||| b.toUInt32 <<< 16 ||| c.toUInt32 <<< 8 ||| d.toUInt32).toNat =
      ((a.toNat * 256 + b.toNat) * 256 + c.toNat) * 256 + d.toNat := by
  have first : (a.toUInt32 <<< 24).toNat = a.toNat * 2 ^ 24 :=
    placed_octet a 24 (by omega)
  have second : (b.toUInt32 <<< 16).toNat = b.toNat * 2 ^ 16 :=
    placed_octet b 16 (by omega)
  have third : (c.toUInt32 <<< 8).toNat = c.toNat * 2 ^ 8 :=
    placed_octet c 8 (by omega)
  have bBound := b.toNat_lt
  have cBound := c.toNat_lt
  have dBound := d.toNat_lt
  rw [UInt32.toNat_or, UInt32.toNat_or, UInt32.toNat_or, first, second, third,
    UInt8.toNat_toUInt32]
  have upper : a.toNat * 2 ^ 24 ||| b.toNat * 2 ^ 16 = a.toNat * 2 ^ 24 + b.toNat * 2 ^ 16 :=
    or_eq_add a.toNat 24 rfl (by omega)
  have middle : a.toNat * 2 ^ 24 + b.toNat * 2 ^ 16 ||| c.toNat * 2 ^ 8 =
      a.toNat * 2 ^ 24 + b.toNat * 2 ^ 16 + c.toNat * 2 ^ 8 :=
    or_eq_add (a.toNat * 256 + b.toNat) 16 (by omega) (by omega)
  have lower : a.toNat * 2 ^ 24 + b.toNat * 2 ^ 16 + c.toNat * 2 ^ 8 ||| d.toNat =
      a.toNat * 2 ^ 24 + b.toNat * 2 ^ 16 + c.toNat * 2 ^ 8 + d.toNat :=
    or_eq_add ((a.toNat * 256 + b.toNat) * 256 + c.toNat) 8 (by omega) (by omega)
  rw [upper, middle, lower]
  omega

theorem wordAt_bits {data : Bytes} {j : Nat} (inside : j + 3 < data.length) :
    (wordAt data j).toBitVec =
      BitVec.ofNat 32 (ofBits (((bitsOf data).drop (8 * j)).take 32)) := by
  have taken : ((bitsOf data).drop (8 * j)).take 32 = bitsOf ((data.drop j).take 4) := by
    rw [bitsOf_drop]
    exact bitsOf_take (data.drop j) 4
  rw [taken, four_octets inside, ofBits, extendBits_bitsOf]
  apply BitVec.eq_of_toNat_eq
  rw [UInt32.toNat_toBitVec, wordAt, joined_octets, BitVec.toNat_ofNat]
  generalize data.getD j 0 = a, data.getD (j + 1) 0 = b, data.getD (j + 2) 0 = c,
    data.getD (j + 3) 0 = d
  have aBound := a.toNat_lt
  have bBound := b.toNat_lt
  have cBound := c.toNat_lt
  have dBound := d.toNat_lt
  simp only [List.foldl_cons, List.foldl_nil, Nat.zero_mul, Nat.zero_add]
  exact (Nat.mod_eq_of_lt (by omega)).symm

end octets

section padding

theorem padZeros_eq {fuel zeros : Nat} {data : Bytes} (enough : zeros < fuel)
    (fits : (data.length + zeros) % 64 = 56) (few : zeros < 64) :
    padZeros fuel data = data ++ List.replicate zeros 0 := by
  induction fuel generalizing zeros data with
  | zero => omega
  | succ fuel ih =>
    rw [padZeros]
    split
    · rename_i done
      have none : zeros = 0 := by omega
      simp [none]
    · rename_i short
      obtain ⟨zeros, rfl⟩ := Nat.exists_eq_succ_of_ne_zero (show zeros ≠ 0 by
        rintro rfl
        exact short fits)
      have fits' : ((data ++ [0]).length + zeros) % 64 = 56 := by
        simp only [List.length_append, List.length_singleton]
        omega
      rw [ih (by omega) fits' (by omega), List.append_assoc, List.singleton_append, ← List.replicate_succ]

def zeroBytes (length : Nat) : Nat := (56 + 64 - (length + 1) % 64) % 64

variable (input : Bytes)

theorem padZeros_message :
    padZeros 64 (input ++ [0x80]) = input ++ [0x80] ++ List.replicate (zeroBytes input.length) 0 := by
  refine padZeros_eq ?_ ?_ ?_
  · simp only [zeroBytes]
    omega
  · simp only [zeroBytes, List.length_append, List.length_singleton]
    omega
  · simp only [zeroBytes]
    omega

theorem padded_length : (padded input).length = input.length + 1 + zeroBytes input.length + 8 := by
  simp only [padded, padZeros_message, List.length_append, List.length_replicate, List.length_map,
    List.length_cons, List.length_nil]

theorem padded_blocks : (padded input).length % 64 = 0 := by
  rw [padded_length, zeroBytes]
  omega

theorem padded_bits (short : input.length < 2305843009213693952) :
    bitsOf (padded input) = SecureHash.padding (bitsOf input) := by
  have length : (UInt64.ofNat input.length * 8).toNat = 8 * input.length := by
    have fits : input.length % 18446744073709551616 * 8 % 18446744073709551616 =
        8 * input.length := by omega
    rw [UInt64.toNat_mul, UInt64.toNat_ofNat']
    exact fits
  have zeros : SecureHash.zeroBits (8 * input.length) = 7 + 8 * zeroBytes input.length := by
    rw [SecureHash.zeroBits_eq, zeroBytes]
    omega
  rw [padded, padZeros_message, bitsOf_append, bitsOf_append, bitsOf_append, lengthBytes_bits,
    bitsOf_zeros, SecureHash.padding, bitsOf_length, length, zeros,
    ← List.replicate_append_replicate]
  simp only [List.append_assoc]
  rfl

end padding

section digests

variable (input : Bytes)

theorem reads_inside {i t : Nat} (block : i < ((padded input).length + 63) / 64) (word : t < 16) :
    i * 64 + t * 4 + 3 < (padded input).length := by
  have whole := padded_blocks input
  omega

theorem block_words (short : input.length < 2305843009213693952) {i : Nat}
    (block : i < ((padded input).length + 63) / 64) :
    ∀ t < 16, (wordAt (padded input) (i * 64 + t * 4)).toBitVec =
      SecureHash.blockWord (SecureHash.padding (bitsOf input)) i t := by
  intro t word
  have place : 512 * i + 32 * t = 8 * (i * 64 + t * 4) := by omega
  rw [wordAt_bits (reads_inside input block word), SecureHash.blockWord, ← padded_bits input short,
    place]

theorem block_count (short : input.length < 2305843009213693952) :
    (SecureHash.padding (bitsOf input)).length / 512 = ((padded input).length + 63) / 64 := by
  have whole := padded_blocks input
  rw [← padded_bits input short, bitsOf_length]
  omega

theorem blocks_view (short : input.length < 2305843009213693952) :
    view ((List.range (((padded input).length + 63) / 64)).foldl
        (fun h i => compress (padded input) h (i * 64)) initial) =
      (List.range (((padded input).length + 63) / 64)).foldl
        (fun h i => SecureHash.compress h
          (SecureHash.blockWord (SecureHash.padding (bitsOf input)) i)) SecureHash.initialHash := by
  refine List.foldl_rel (r := fun s s' => view s = s') initial_view ?_
  rintro i among s _ rfl
  exact compress_view (block_words input short (List.mem_range.mp among)) s

theorem words_bits (s : Words) :
    bitsOf ([s.a, s.b, s.c, s.d, s.e, s.f, s.g, s.h].flatMap wordBytes) =
      (view s).words.flatMap fun w => bits 32 w.toNat := by
  simp only [List.flatMap_cons, List.flatMap_nil, bitsOf_append, wordBytes_bits]
  rfl

theorem sha256_eq (short : input.length < 2305843009213693952) :
    sha256 input = SecureHash.sha256Octets input := by
  rw [SecureHash.sha256Octets, ← octetsOf_bitsOf (sha256 input)]
  congr 1
  rw [sha256, words_bits, blocks_view input short, SecureHash.sha256, block_count input short]

theorem sha256_length : (sha256 input).length = 32 := rfl

/-- The hash of the code, loop by loop, against the standard. -/
structure ComputesStandard (input : Bytes) : Prop where
  padding : ∃ zeros < 64, (∀ fuel > zeros, padZeros fuel (input ++ [0x80]) =
    input ++ [0x80] ++ List.replicate zeros 0) ∧ (input.length + 1 + zeros) % 64 = 56
  blocks : (padded input).length % 64 = 0
  reads : ∀ i < ((padded input).length + 63) / 64, ∀ t < 16,
    i * 64 + t * 4 + 3 < (padded input).length
  words : ∀ i < ((padded input).length + 63) / 64,
    (schedule (padded input) (i * 64)).map UInt32.toBitVec = (List.range 64).map
      (SecureHash.schedule (SecureHash.blockWord (SecureHash.padding (bitsOf input)) i))
  rounds : ∀ i < ((padded input).length + 63) / 64, ∀ h,
    view (compress (padded input) h (i * 64)) = SecureHash.compress (view h)
      (SecureHash.blockWord (SecureHash.padding (bitsOf input)) i)
  digest : sha256 input = SecureHash.sha256Octets input

theorem schedule_words (short : input.length < 2305843009213693952) {i : Nat}
    (block : i < ((padded input).length + 63) / 64) :
    (schedule (padded input) (i * 64)).map UInt32.toBitVec = (List.range 64).map
      (SecureHash.schedule (SecureHash.blockWord (SecureHash.padding (bitsOf input)) i)) := by
  obtain ⟨length, words⟩ := schedule_view (block_words input short block)
  refine List.ext_getElem (by simp [length]) fun t left right => ?_
  have below : t < 64 := by simpa using right
  rw [List.getElem_map, List.getElem_map, List.getElem_range, ← words t below,
    List.getD_eq_getElem]

theorem hmac_eq (key message : Bytes) :
    hmacSha256 key message = Hmac.hmac sha256 64 key message := by
  have block : ((if kBlockSize < key.length then sha256 key else key) ++
      List.replicate kBlockSize 0).take kBlockSize = Hmac.padKey sha256 64 key := by
    have fits : (if kBlockSize < key.length then sha256 key else key).length ≤ kBlockSize := by
      split
      · rw [sha256_length, kBlockSize]
        omega
      · omega
    rw [List.take_append, List.take_of_length_le fits, List.take_replicate,
      Nat.min_eq_left (Nat.sub_le _ _)]
    rfl
  rw [hmacSha256, block]
  rfl

/-- The loops compute the hash of the standard, and the keyed hash is HMAC of it for keys of any
    length within the bound. -/
theorem hashes_follow_standard :
    (∀ input : Bytes, input.length < 2305843009213693952 → ComputesStandard input) ∧
      ∀ key message : Bytes, key.length ≤ 1152921504606846976 →
        message.length ≤ 1152921504606846976 →
          hmacSha256 key message = Hmac.hmac SecureHash.sha256Octets 64 key message := by
  constructor
  · intro input short
    refine ⟨⟨zeroBytes input.length, ?_, ?_, ?_⟩, padded_blocks input, ?_, ?_, ?_,
      sha256_eq input short⟩
    · simp only [zeroBytes]
      omega
    · intro fuel enough
      refine padZeros_eq enough ?_ ?_
      · simp only [zeroBytes, List.length_append, List.length_singleton]
        omega
      · simp only [zeroBytes]
        omega
    · simp only [zeroBytes]
      omega
    · exact fun i block t word => reads_inside input block word
    · exact fun i block => schedule_words input short block
    · exact fun i block h => compress_view (block_words input short block) h
  · intro key message keyShort messageShort
    rw [hmac_eq]
    exact Hmac.hmac_congr 2305843009213693952 sha256_eq
      (fun m => by rw [sha256_length]; omega) (by omega) (by omega) (by omega)

theorem hashes_follow_standard_abc :
    ComputesStandard (bytes "abc") ∧
      hmacSha256 (bytes "key") (bytes "abc") =
        Hmac.hmac SecureHash.sha256Octets 64 (bytes "key") (bytes "abc") :=
  ⟨hashes_follow_standard.1 _ (by decide), hashes_follow_standard.2 _ _ (by decide) (by decide)⟩

end digests

end TgwSha256Standard
