import OneXBts.Packet.Rlp3FramesRoundTrip

/-!
What a block of the supplemental channel says.

The repository has no decoder for these blocks. `readBlock` reads the fields where the comments of the encoders put them, and
each encoder is shown to write a block that means what it was given.
-/

namespace OneXBts.Packet.Rlp3

open Lib List Option Nat
open Outcome (ok_bind pure_eq)

/-- A block of the supplemental channel: Format C, unsegmented Format D, or a segment in Format D. -/
inductive Block where
  | formatC (seq : UInt8) (rexmit : Bool) (data : Bytes)
  | formatD (seq : UInt8) (seqHi : Option ℕ) (rexmit : Bool) (data : Bytes)
  | segment (seq : UInt8) (seqHi : Option ℕ) (sSeq : ℕ) (lastSeg rexmit : Bool) (data : Bytes)
  deriving DecidableEq, Repr

def readSeqHi (bits : Bits) (sqi : UInt8) : Outcome RlpError (Option ℕ) :=
  if sqi = 1 then do
    let hi ← getBits bits 22 4
    return some hi
  else .ok none

def readFormatD (bits : Bits) (seq : UInt8) : Outcome RlpError Block := do
  let ssp ← index bits 10
  let sqi ← index bits 11
  let lastSeg ← index bits 12
  let rexmit ← index bits 13
  let len ← getBits bits 14 8
  let seqHi ← readSeqHi bits sqi
  let pos := if sqi = 1 then 26 else 22
  if ssp = 1 then do
    let sSeq ← getBits bits pos 12
    let data ← readOctets bits (alignAfterType (pos + 12)) len
    return .segment seq seqHi sSeq (lastSeg == 1) (rexmit == 1) data
  else do
    let data ← readOctets bits (alignAfterType pos) len
    return .formatD seq seqHi (rexmit == 1) data

/-- Read a block: TYPE(2) + SEQ(8), then data (Format C) or the fields of Format D. -/
def readBlock (bits : Bits) : Outcome RlpError Block := do
  let type ← getBits bits 0 2
  let seq ← getBits bits 2 8
  match type with
  | 0b00 => readFormatD bits (UInt8.ofNat seq)
  | 0b10 => do
    let data ← readOctets bits 10 ((bits.length - 10) / 8)
    return .formatC (UInt8.ofNat seq) false data
  | 0b11 => do
    let data ← readOctets bits 10 ((bits.length - 10) / 8)
    return .formatC (UInt8.ofNat seq) true data
  | _ => .err (.invalidType type)

variable {seq : UInt8} {rexmit lastSeg : Bool} {data : Bytes} {blockBits sSeq : ℕ}
  {seqHi : Option ℕ}

/-! ### Format C -/

/-- **A Format C block is read back.** -/
theorem formatC_block (seq : UInt8) (rexmit : Bool) (h : supplementalFormatCDataLen blockBits = some data.length) :
    ∃ bits, encodeSupplementalFormatCBlock seq rexmit data blockBits = .ok bits ∧
      bits.length = blockBits ∧ readBlock bits = .ok (.formatC seq rexmit data) := by
  have hb : blockBits = 10 + 8 * data.length := by grind +splitImp [supplementalFormatCDataLen]
  have hlen : (msb 2 (if rexmit then 0b11 else 0b10) ++ (msb 8 seq.toNat ++ octetBits data)).length =
      blockBits := by
    simp only [length_append, length_msb, length_octetBits]
    omega
  refine ⟨_, ?_, hlen, ?_⟩
  · unfold encodeSupplementalFormatCBlock
    rw [h]
    dsimp only
    rw [if_neg (by simp), cursorAt_nil]
    simp (disch := omega) only [put_cursorAt, putOctets_cursorAt, ok_bind, nil_append, cursorAt_bits, pure_eq]
    grind [blank_zero]
  · have hr : (readOctets (msb 2 (if rexmit then 0b11 else 0b10) ++ (msb 8 seq.toNat ++
        octetBits data)) 10 ((blockBits - 10) / 8) : Outcome RlpError Bytes) = .ok data := by
      rw [show (blockBits - 10) / 8 = data.length by omega, readOctets_skip (by omega), readOctets_skip (by omega)]
      simpa using readOctets_octetBits (ε := RlpError) data []
    unfold readBlock getBits
    rw [hlen, hr]
    simp (disch := omega) only [readBits_msb, readBits_skip, ok_bind, ofNat_mod_256, Nat.sub_self]
    cases rexmit <;> rfl

/-! ### Format D -/

/-- A Format D block: the fields up to SEQ_HI, SEQ_HI when it is there, and the rest. -/
def formatDBits (seq : UInt8) (ssp : Bool) (seqHi : Option ℕ) (lastSeg rexmit : Bool) (len : ℕ)
    (rest : Bits) : Bits :=
  msb 2 0b00 ++ (msb 8 seq.toNat ++ (msb 1 (boolBit ssp) ++ (msb 1 (boolBit seqHi.isSome) ++
    (msb 1 (boolBit lastSeg) ++ (msb 1 (boolBit rexmit) ++ (msb 8 len ++
      (match seqHi with
        | some hi => msb 4 hi ++ rest
        | none => rest)))))))

lemma bit_zero_ne_one : ¬ (0 : UInt8) = 1 := by decide

section

variable (hhi : ∀ hi ∈ seqHi, hi < 16)
include hhi

lemma readBlock_formatD (hlen : data.length < 256) :
    readBlock (formatDBits seq false seqHi lastSeg rexmit data.length
      (blank (if seqHi.isSome then 0 else 4) ++ (octetBits data ++ rest))) =
        .ok (.formatD seq seqHi rexmit data) := by
  have hmod : data.length % 2 ^ 8 = data.length := mod_eq_of_lt hlen
  cases seqHi with
  | some hi =>
    have hmod' : hi % 2 ^ 4 = hi := mod_eq_of_lt (hhi hi rfl)
    simp only [formatDBits, isSome_some, if_true, blank_zero, nil_append]
    unfold readBlock readFormatD readSeqHi getBits
    simp (disch := omega) only [readBits_skip, readBits_msb, index_skip, index_msb, ok_bind,
      reduceSub, ofNat_mod_256, bitAt_boolBit, hmod, hmod', zero_mod, if_true,
      Bool.false_eq_true, if_false, if_neg bit_zero_ne_one, pure_eq,
      show alignAfterType 26 = 26 from rfl]
    simp (disch := omega) only [readOctets_skip, reduceSub, readOctets_octetBits, ok_bind, ite_bit_beq]
  | none =>
    simp only [formatDBits, isSome_none]
    unfold readBlock readFormatD readSeqHi getBits
    simp (disch := omega) only [readBits_skip, readBits_msb, index_skip, index_msb, ok_bind,
      reduceSub, bitAt_boolBit, hmod, Bool.false_eq_true, if_false,
      if_neg bit_zero_ne_one, show alignAfterType 22 = 26 from rfl]
    simp [readOctets_append_right, readOctets_octetBits, ite_bit_beq]

lemma readBlock_segment (hs : sSeq < 4096) (hlen : data.length < 256) :
    readBlock (formatDBits seq true seqHi lastSeg rexmit data.length
      (msb 12 sSeq ++ (blank (if seqHi.isSome then 4 else 0) ++ (octetBits data ++ rest)))) =
        .ok (.segment seq seqHi sSeq lastSeg rexmit data) := by
  have hmod : data.length % 2 ^ 8 = data.length := mod_eq_of_lt hlen
  have hm : sSeq % 2 ^ 12 = sSeq := mod_eq_of_lt hs
  cases seqHi with
  | some hi =>
    have hmod' : hi % 2 ^ 4 = hi := mod_eq_of_lt (hhi hi rfl)
    simp only [formatDBits, isSome_some]
    unfold readBlock readFormatD readSeqHi getBits
    simp (disch := omega) only [readBits_skip, readBits_msb, index_skip, index_msb, ok_bind,
      reduceSub, bitAt_boolBit, hmod, hmod', hm, if_true,
      show alignAfterType (26 + 12) = 42 from rfl]
    simp [reduceSub, readOctets_append_right, readOctets_octetBits, ite_bit_beq]
  | none =>
    simp only [formatDBits, isSome_none]
    unfold readBlock readFormatD readSeqHi getBits
    simp (disch := omega) only [readBits_skip, readBits_msb, index_skip, index_msb, ok_bind,
      reduceSub, bitAt_boolBit, hmod, hm, Bool.false_eq_true,
      if_false, if_neg bit_zero_ne_one, show alignAfterType (22 + 12) = 34 from rfl]
    simp [readOctets_skip, readOctets_octetBits, ite_bit_beq]

lemma seqHi_any : ¬ seqHi.any (· > 0x0f) = true := by
  cases seqHi with
  | none => simp
  | some hi =>
    have := hhi hi rfl
    simp only [any_some, decide_eq_true_eq]
    omega

end

/-- **An unsegmented Format D block is read back.** -/
theorem formatD_block (seq : UInt8) (rexmit : Bool)
    (h : supplementalFormatDDataLen blockBits = some maxDataLen) (hne : data ≠ []) (hle : data.length ≤ maxDataLen) (hhi : ∀ hi ∈ seqHi, hi < 16) :
    ∃ bits, encodeSupplementalFormatDBlock seq seqHi rexmit data blockBits = .ok bits ∧
      bits.length = blockBits ∧ readBlock bits = .ok (.formatD seq seqHi rexmit data) := by
  have hb : 26 + 8 * data.length ≤ blockBits ∧ data.length < 256 := by grind +splitImp [supplementalFormatDDataLen]
  refine ⟨formatDBits seq false seqHi true rexmit data.length (blank (if seqHi.isSome then 0 else 4) ++
      (octetBits data ++ blank (blockBits - 26 - 8 * data.length))), ?_, ?_,
    readBlock_formatD hhi hb.2⟩
  · unfold encodeSupplementalFormatDBlock
    rw [h]
    dsimp only
    rw [if_neg (by simp [hne]; omega), if_neg (seqHi_any hhi), cursorAt_nil]
    cases seqHi with
    | some =>
      simp (disch := omega) only [put_cursorAt, ok_bind, nil_append, cursorAt_pos,
        length_append, length_msb, show alignAfterType 26 = 26 from rfl,
        skip_cursorAt, putOctets_cursorAt, cursorAt_bits, pure_eq]
      grind [formatDBits, boolBit]
    | none =>
      simp (disch := omega) only [put_cursorAt, ok_bind, nil_append, cursorAt_pos,
        length_append, length_msb, show alignAfterType 22 = 26 from rfl,
        skip_cursorAt, putOctets_cursorAt, cursorAt_bits, pure_eq]
      grind [formatDBits, boolBit]
  · cases seqHi <;> simp [formatDBits] <;> omega

lemma segmentDataLen_eq (sqi : Bool) (h : supplementalFormatDDataLen blockBits = some maxDataLen) :
    ∃ segmentMax, supplementalFormatDSegmentDataLen blockBits sqi = some segmentMax ∧
      0 < segmentMax ∧ segmentMax < 40 ∧ (if sqi then 42 else 34) + 8 * segmentMax ≤ blockBits := by
  unfold supplementalFormatDDataLen at h
  split at h
  · cases sqi
    · exact ⟨17, rfl, by decide⟩
    · exact ⟨16, rfl, by decide⟩
  · cases sqi
    · exact ⟨39, rfl, by decide⟩
    · exact ⟨38, rfl, by decide⟩
  · cases h

/-- **A segment is read back.** -/
theorem segment_block (seq : UInt8) (lastSeg rexmit : Bool) (h : supplementalFormatDDataLen blockBits = some maxDataLen)
    (hseg : supplementalFormatDSegmentDataLen blockBits seqHi.isSome = some segmentMax)
    (hne : data ≠ []) (hle : data.length ≤ segmentMax) (hhi : ∀ hi ∈ seqHi, hi < 16) (hs : sSeq < 4096) :
    ∃ bits, encodeSupplementalFormatDSegmentBlock seq seqHi sSeq lastSeg rexmit data blockBits =
        .ok bits ∧ bits.length = blockBits ∧
      readBlock bits = .ok (.segment seq seqHi sSeq lastSeg rexmit data) := by
  obtain ⟨m, hm, -, hlt, hb⟩ := segmentDataLen_eq seqHi.isSome h
  rw [hseg] at hm
  cases hm
  refine ⟨formatDBits seq true seqHi lastSeg rexmit data.length
    (msb 12 sSeq ++ (blank (if seqHi.isSome then 4 else 0) ++ (octetBits data ++
      blank (blockBits - (if seqHi.isSome then 42 else 34) - 8 * data.length)))), ?_, ?_,
    readBlock_segment hhi hs (by omega)⟩
  · unfold encodeSupplementalFormatDSegmentBlock
    rw [hseg]
    dsimp only
    rw [if_neg (by simp [hne]; omega), if_neg (seqHi_any hhi), if_neg (by omega), cursorAt_nil]
    cases seqHi with
    | some =>
      simp only [isSome_some, if_true] at hb
      simp (disch := omega) only [put_cursorAt, ok_bind, nil_append, cursorAt_pos,
        length_append, length_msb, show alignAfterType 38 = 42 from rfl,
        skip_cursorAt, putOctets_cursorAt, cursorAt_bits, pure_eq]
      simp only [formatDBits, append_assoc, isSome_some, if_true, Nat.sub_sub, boolBit]
    | none =>
      simp only [isSome_none, Bool.false_eq_true, if_false] at hb
      simp (disch := omega) only [put_cursorAt, ok_bind, nil_append, cursorAt_pos,
        length_append, length_msb, show alignAfterType 34 = 34 from rfl,
        skip_cursorAt, putOctets_cursorAt, cursorAt_bits, pure_eq]
      grind [formatDBits, boolBit]
  · cases seqHi <;> simp [formatDBits] at hb ⊢ <;> omega

end OneXBts.Packet.Rlp3
