import OneXBts.Packet.PppFraming
import OneXBts.Packet.Rlp
import OneXBts.Packet.Rlp3Frames

/-!
The check sequence of RFC 1662 is computed in three places: octet by octet for RLP, bit by bit for RLP Type 3, with a table
for PPP. The shift of the register is linear, so an octet may be folded in at once, or bit by bit, or looked up.
-/

namespace OneXBts.Packet

open Lib List

lemma octet_forall {P : UInt8 → Prop} (h : ∀ n < 256, P (UInt8.ofNat n)) (b : UInt8) : P b := by
  have hb := h b.toNat b.toNat_lt
  rwa [UInt8.ofNat_toNat] at hb

/-! ### The register -/

lemma and_one_eq_zero (x : UInt16) : x &&& 1 = 0 ↔ x.toBitVec.getLsbD 0 = false := by
  rw [← UInt16.toBitVec_inj, UInt16.toBitVec_and, UInt16.toBitVec_one, BitVec.and_one_eq_setWidth_ofBool_getLsbD]
  cases x.toBitVec.getLsbD 0 <;> decide

lemma fcsShift_eq (x : UInt16) : fcsShift x = (x >>> 1) ^^^ bif x.toBitVec.getLsbD 0 then 0x8408 else 0 := by
  unfold fcsShift
  simp only [ne_eq, and_one_eq_zero]
  cases x.toBitVec.getLsbD 0 <;> simp

lemma fcsShift_xor (x y : UInt16) : fcsShift (x ^^^ y) = fcsShift x ^^^ fcsShift y := by
  have hc : ∀ p q : Bool, (bif p ^^ q then 0x8408 else 0) = (bif p then (0x8408 : UInt16) else 0) ^^^ bif q then 0x8408 else 0 := by
    decide
  simp only [fcsShift_eq, UInt16.shiftRight_xor, UInt16.toBitVec_xor, BitVec.getLsbD_xor, hc]
  ac_rfl

lemma fcsShift_iterate_xor (n : ℕ) (x y : UInt16) : fcsShift^[n] (x ^^^ y) = fcsShift^[n] x ^^^ fcsShift^[n] y := by
  induction n generalizing x y with
  | zero => rfl
  | succ n ih => simp only [Function.iterate_succ_apply, fcsShift_xor, ih]

/-- The upper octet of the register comes down unchanged. -/
lemma fcsShift_high (x : UInt16) : fcsShift^[8] (x &&& (0xFF00 : UInt16)) = x >>> 8 := by
  have hz : ∀ n < 256, fcsShift^[8] (UInt16.ofNat n <<< 8) = UInt16.ofNat n := by decide +kernel
  have hx : x &&& (0xFF00 : UInt16) = (x >>> 8) <<< 8 := by
    apply UInt16.toBitVec_inj.1
    apply BitVec.eq_of_getLsbD_eq
    intro i hi
    interval_cases i <;> simp
  have hlt : (x >>> 8).toNat < 256 := by
    rw [UInt16.toNat_shiftRight, Nat.shiftRight_eq_div_pow]
    exact Nat.div_lt_of_lt_mul x.toNat_lt
  rw [hx, ← UInt16.ofNat_toNat (x := x >>> 8)]
  exact hz _ hlt

lemma crcStep_eq (crc : UInt16) (bit : UInt8) : crcStep crc bit = fcsShift (crc ^^^ (bit &&& 1).toUInt16) := by
  have hz : (bit &&& 1).toUInt16 >>> 1 = 0 := octet_forall (P := fun bit => (bit &&& 1).toUInt16 >>> 1 = 0) (by decide +kernel) bit
  unfold crcStep fcsShift
  rw [UInt16.shiftRight_xor, hz, UInt16.xor_zero]

lemma foldl_crcStep (bits : Bits) (crc : UInt16) :
    bits.foldl crcStep crc = fcsShift^[bits.length] crc ^^^ bits.foldl crcStep 0 := by
  induction bits generalizing crc with
  | nil => simp
  | cons bit bits ih =>
    rw [foldl_cons, foldl_cons, ih, ih (crcStep 0 bit), crcStep_eq, crcStep_eq 0, UInt16.zero_xor, fcsShift_xor,
      fcsShift_iterate_xor, length_cons, Function.iterate_succ_apply, UInt16.xor_assoc]

section Octet

variable (b : UInt8) (fcs : UInt16)

/-- The bits of an octet, one after the other from the least significant, or all at once. -/
lemma foldl_crcStep_octet : (msb 8 b.toNat).reverse.foldl crcStep fcs = fcsShift^[8] (fcs ^^^ b.toUInt16) := by
  have hz : (msb 8 b.toNat).reverse.foldl crcStep 0 = fcsShift^[8] b.toUInt16 :=
    octet_forall (P := fun b => (msb 8 b.toNat).reverse.foldl crcStep 0 = fcsShift^[8] b.toUInt16) (by decide +kernel) b
  rw [foldl_crcStep, hz, length_reverse, length_msb, fcsShift_iterate_xor]

lemma fcs16Table_octet : (fcs >>> 8) ^^^ Ppp.fcs16Table ((fcs ^^^ b.toUInt16) &&& 0xFF).toNat =
    fcsShift^[8] (fcs ^^^ b.toUInt16) := by
  have hs : fcs ^^^ b.toUInt16 = (fcs &&& (0xFF00 : UInt16)) ^^^ ((fcs ^^^ b.toUInt16) &&& 0xFF) := by
    apply UInt16.toBitVec_inj.1
    apply BitVec.eq_of_getLsbD_eq
    intro i hi
    interval_cases i <;> simp
  conv_rhs => rw [hs, fcsShift_iterate_xor, fcsShift_high]
  rw [Ppp.fcs16Table, UInt16.ofNat_toNat]

lemma octetOf_msb : Rlp.octetOf (msb 8 b.toNat) = b :=
  octet_forall (P := fun b => Rlp.octetOf (msb 8 b.toNat) = b) (by decide +kernel) b

end Octet

lemma chunks_octetBits (data : Bytes) : chunks 8 (octetBits data) = data.map fun b => msb 8 b.toNat := by
  induction data with
  | nil => rfl
  | cons b data ih => rw [octetBits_cons, chunks_append (by decide) _ _ (length_msb _ _), ih, map_cons]

/-- **The three check sequences agree.** -/
theorem fcs16_agree (data : Bytes) :
    Rlp.fcs16Rfc1662 (octetBits data) = Rlp3.fcs16 (octetBits data) ∧
      Rlp3.fcs16 (octetBits data) = ~~~Ppp.fcs16 data := by
  have hnot : ∀ fcs : UInt16, fcs ^^^ 0xFFFF = ~~~fcs := fun _ => UInt16.xor_neg_one
  rw [Rlp.fcs16Rfc1662, Rlp3.fcs16, Ppp.fcs16, chunks_octetBits, hnot]
  simp only [foldl_map, flatMap_map, foldl_flatMap, octetOf_msb, fcs16Table_octet, foldl_crcStep_octet, Ppp.fcs16Init,
    and_self]

end OneXBts.Packet
