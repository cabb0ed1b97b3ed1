import OneXBts.Lib.BitField

/-!
Bit streams (`bits.rs`): one bit per element, and packed into octets.

What is written most significant bit first is `msb` and `octetBits`. Here are the two folds that read bits back, and that
they are inverse to writing on strings of whole octets.
-/

namespace OneXBts.Common

open Lib List Nat

/-- What `write_u64` appends. Beyond 64 bits the field is filled with zeros in front. -/
def writeU64 (val : ℕ) (bits : ℕ) : Bits := List.replicate (bits - 64) 0 ++ msb (min bits 64) val

def readU64 (bits : Bits) : ℕ := bits.foldl (fun result bit => 2 * result + bit.toNat % 2) 0

def unpackU8 (bits : Bits) : UInt8 := bits.foldl (fun acc bit => (acc <<< 1) ||| (bit &&& 1)) 0

def toPackedBytes (bits : Bits) : Bytes :=
  (chunks 8 bits).map fun chunk =>
    if chunk.length < 8 then unpackU8 chunk <<< UInt8.ofNat (8 - chunk.length) else unpackU8 chunk

/-! ### Fields -/

section Fields

variable {v n : ℕ} {bits : Bits}

lemma writeU64_of_le (h : n ≤ 64) : writeU64 v n = msb n v := by
  rw [writeU64, Nat.sub_eq_zero_of_le h, min_eq_left h]
  rfl

lemma writeU64_zero (n : ℕ) : writeU64 0 n = blank n := by
  have hmsb : ∀ m, msb m 0 = blank m := by
    intro m
    induction m with
    | zero => rfl
    | succ m ih => rw [msb, ih, bitAt, Nat.zero_div]; rfl
  rw [writeU64, hmsb, blank, replicate_append_replicate]
  congr 1
  omega

lemma isBits_writeU64 (h : n ≤ 64) : IsBits (writeU64 v n) := by
  rw [writeU64_of_le h]
  exact isBits_msb n v

lemma readU64_msb (n v : ℕ) : readU64 (msb n v) = v % 2 ^ n := by
  -- the bits before the field are shifted out of it
  have hf : ∀ acc, (msb n v).foldl (fun result bit => 2 * result + bit.toNat % 2) acc = acc * 2 ^ n + v % 2 ^ n := by
    induction n with
    | zero => simp [msb, mod_one]
    | succ n ih =>
      intro acc
      have hs : v % 2 ^ (n + 1) = v % 2 ^ n + 2 ^ n * (v / 2 ^ n % 2) := by rw [pow_succ, mod_mul]
      rw [msb, foldl_cons, ih, bitAt_toNat, mod_mod, hs]
      ring
  rw [readU64, hf, Nat.zero_mul, Nat.zero_add]

lemma msb_add_pow (n : ℕ) (h : n ≤ m) (v : ℕ) : msb n (2 ^ m + v) = msb n v := by
  induction n with
  | zero => rfl
  | succ n ih =>
    have hpow : 2 ^ m = 2 ^ n * (2 * 2 ^ (m - n - 1)) := by
      rw [← pow_succ', ← pow_add]
      congr 1
      omega
    rw [msb, msb, ih (by omega), bitAt, bitAt, hpow, mul_add_div (Nat.two_pow_pos n), mul_add_mod]

lemma exists_msb (hb : IsBits bits) : ∃ v < 2 ^ bits.length, bits = msb bits.length v := by
  induction bits with
  | nil => exact ⟨0, by simp, rfl⟩
  | cons b bits ih =>
    obtain ⟨v, hv, heq⟩ := ih fun c hc => hb c (mem_cons_of_mem _ hc)
    rw [length_cons]
    rcases hb b mem_cons_self with rfl | rfl
    · refine ⟨v, by omega, ?_⟩
      rw [msb, ← heq, bitAt, div_eq_of_lt hv]
      rfl
    refine ⟨2 ^ bits.length + v, by omega, ?_⟩
    have hone : (2 ^ bits.length + v) / 2 ^ bits.length = 1 := by
      rw [add_div_left _ (Nat.two_pow_pos _), div_eq_of_lt hv]
    rw [msb, msb_add_pow _ le_rfl, ← heq, bitAt, hone]
    rfl

lemma msb_eq_msb_iff (n v w : ℕ) : msb n v = msb n w ↔ v % 2 ^ n = w % 2 ^ n := by
  grind [exists_msb, isBits_msb, length_msb, readU64_msb, mod_eq_of_lt]

end Fields

/-! ### Octets -/

section Octets

variable {bits : Bits}

lemma forall_octet {p : UInt8 → Prop} (h : ∀ n < 256, p (UInt8.ofNat n)) (b : UInt8) : p b := by
  have hb := h b.toNat b.toNat_lt
  rwa [UInt8.ofNat_toNat] at hb

lemma unpackU8_msb (b : UInt8) : unpackU8 (msb 8 b.toNat) = b := by
  revert b
  exact forall_octet (by decide +kernel)

lemma msb_unpackU8 (hb : IsBits bits) (hlen : bits.length = 8) : msb 8 (unpackU8 bits).toNat = bits := by
  obtain ⟨v, hv, heq⟩ := exists_msb hb
  rw [hlen] at hv heq
  have hnat : (UInt8.ofNat v).toNat = v := UInt8.toNat_ofNat_of_lt hv
  grind [unpackU8_msb]

lemma unpackU8_blank : unpackU8 (blank 8) = 0 := by decide

lemma map_unpackU8_chunks (data : Bytes) : (chunks 8 (octetBits data)).map unpackU8 = data := by
  induction data with
  | nil => rfl
  | cons => grind [octetBits_cons, chunks_append, length_msb, unpackU8_msb]

lemma toPackedBytes_octetBits (data : Bytes) : toPackedBytes (octetBits data) = data := by
  induction data with
  | nil => rfl
  | cons => grind [octetBits_cons, toPackedBytes, chunks_append, length_msb, unpackU8_msb]

lemma octetBits_toPackedBytes (hbi : IsBits bits) (hlen : bits.length = 8 * k) :
    octetBits (toPackedBytes bits) = bits ∧ (toPackedBytes bits).length = k := by
  induction k generalizing bits with
  | zero =>
    rw [length_eq_zero_iff.1 (by omega : bits.length = 0)]
    exact ⟨rfl, rfl⟩
  | succ k ih =>
    have ht : (bits.take 8).length = 8 := length_take_of_le (by omega)
    have hdr : (bits.drop 8).length = 8 * k := by rw [length_drop]; omega
    obtain ⟨ih1, ih2⟩ := ih (fun b hb => hbi b (mem_of_mem_drop hb)) hdr
    have hp : toPackedBytes bits = unpackU8 (bits.take 8) :: toPackedBytes (bits.drop 8) := by
      conv_lhs => rw [← take_append_drop 8 bits]
      rw [toPackedBytes, chunks_append (by decide) _ _ ht, map_cons, if_neg (by omega)]
      rfl
    rw [hp, octetBits_cons, ih1, length_cons, ih2,
      msb_unpackU8 (fun b hb => hbi b (mem_of_mem_take hb)) ht, take_append_drop]
    exact ⟨rfl, rfl⟩

end Octets

end OneXBts.Common
