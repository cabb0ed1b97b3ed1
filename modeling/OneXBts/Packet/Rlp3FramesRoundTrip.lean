import OneXBts.Packet.Rlp3Frames

/-!
The RLP Type 3 codec, both ways: a well-formed frame is encoded in exactly `frame_bits()` bits and decoded back, and what
the decoder accepts is well formed.

Every encoder is shown to write a concatenation of fields (`encode…_eq`), on which the decoders run by skipping and reading
fields. The four kinds of NAK entries differ in their fields only: `EntryCodec` is what one kind has to satisfy.
-/

namespace OneXBts.Packet.Rlp3

open Lib MuxOption NakPayload
open Outcome (ok_bind pure_eq bind_eq_ok)
open List (length_append append_assoc nil_append take_left' flatMap_cons length_cons)
open Nat (sub_self reduceSub mod_eq_of_lt)

variable {mux : MuxOption}

/-! ### Format A -/

/-- A Format A frame with the given information, padded with blanks. -/
def formatA (mux : MuxOption) (pre : Bits) : Bits :=
  pre ++ (blank (mux.infoBits - pre.length) ++ msb mux.typeBits mux.typeFormatA)

lemma infoBits_add_typeBits (mux : MuxOption) : mux.infoBits + mux.typeBits = mux.frameBits := by cases mux <;> rfl

lemma length_formatA (h : pre.length ≤ mux.infoBits) :
    (formatA mux pre).length = mux.frameBits := by
  have := infoBits_add_typeBits mux
  simp only [formatA, length_append, length_msb, length_blank]
  omega

lemma wrapFormatA_eq (h : pre.length + k = mux.infoBits) :
    wrapFormatA (pre ++ blank k) mux = .ok (formatA mux pre) := by
  have hlen : (pre ++ blank k).length = mux.infoBits := by simpa using h
  have hk : mux.infoBits - pre.length = k := by omega
  have ht : mux.frameBits - mux.infoBits = mux.typeBits := by cases mux <;> rfl
  have hw := writeBits_append (ε := RlpError) mux.typeFormatA mux.typeBits (pre ++ blank k)
    (blank mux.typeBits) [] (by simp)
  grind [wrapFormatA, formatA]

lemma decodeRlp3Frame_formatA (h : pre.length ≤ mux.infoBits) :
    decodeRlp3Frame (formatA mux pre) mux = decodeFormatA (pre ++ blank (mux.infoBits - pre.length)) mux := by
  have hlen : (pre ++ blank (mux.infoBits - pre.length)).length = mux.infoBits := by simp; omega
  have ht : getBits (formatA mux pre) mux.infoBits mux.typeBits = .ok 1 := by
    unfold formatA getBits
    rw [← append_assoc, readBits_append_right _ _ (by omega), hlen, sub_self,
      ← List.append_nil (msb _ _), readBits_msb]
    cases mux <;> rfl
  grind [decodeRlp3Frame, length_formatA, ok_bind, formatA]

/-! ### The pieces the decoders share -/

lemma tryGetOctets_eq (info : Bits) (n : ℕ) : ∀ pos, pos + 8 * n ≤ info.length →
    tryGetOctets info pos n = readOctets info pos n := by
  induction n <;> grind [tryGetOctets, readOctets, tryGetBits]

lemma bitAt_boolBit (b : Bool) : bitAt (boolBit b) 0 = if b then 1 else 0 := by cases b <;> rfl

lemma ite_bit_beq (b : Bool) : ((if b then (1 : UInt8) else 0) == 1) = b := by cases b <;> rfl

lemma decodeFormatA_segmented (h : 4 ≤ rest.length) :
    decodeFormatA (msb 8 seq.toNat ++ (msb 4 0b1000 ++ rest)) mux = (do
      if ← isIdle2Info (msb 8 seq.toNat ++ (msb 4 0b1000 ++ rest)) then return .idle2 seq
      else decodeSegmentedFrame (msb 8 seq.toNat ++ (msb 4 0b1000 ++ rest))) := by
  unfold decodeFormatA getBits
  rw [if_neg (by simp; omega)]
  simp (disch := omega) only [readBits_msb, index_skip, index_msb, ok_bind, ofNat_mod_256, reduceSub]
  rw [if_neg (by decide), if_pos (by decide)]

lemma isIdle2Info_eq {seq : UInt8} {n : ℕ} {rest : Bits} (h : 16 ≤ rest.length) :
    isIdle2Info (msb 8 seq.toNat ++ (msb 4 0b1000 ++ (msb 1 (boolBit sqi) ++
      (msb 1 (boolBit lastSeg) ++ (msb 1 (boolBit rexmit) ++ (msb 5 n ++ rest)))))) =
      .ok (sqi && !lastSeg && !rexmit && n % 2 ^ 5 == 0) := by
  unfold isIdle2Info getBits
  rw [if_neg (by simp; omega)]
  simp (disch := omega) only [readBits_skip, readBits_msb, reduceSub]
  cases sqi <;> cases lastSeg <;> cases rexmit <;> rfl

lemma decodeFormatA_control (h : 2 ≤ rest.length) :
    decodeFormatA (msb 8 seq.toNat ++ (msb 6 ct.ctlBits ++ rest)) mux =
      if ct = .nak then decodeNakFrame (msb 8 seq.toNat ++ (msb 6 ct.ctlBits ++ rest))
      else decodeSyncAckFrame (msb 8 seq.toNat ++ (msb 6 ct.ctlBits ++ rest)) seq ct := by
  unfold decodeFormatA getBits
  rw [if_neg (by simp; omega)]
  simp (disch := omega) only [readBits_msb, ok_bind, ofNat_mod_256, reduceSub]
  cases ct <;> rfl

/-! ### Unsegmented data -/

section Data

variable {seq : UInt8} {rexmit : Bool} {data : Bytes}

def dataInfo (seq : UInt8) (rexmit : Bool) (data : Bytes) : Bits :=
  msb 8 seq.toNat ++ msb 1 0 ++ msb 1 (boolBit rexmit) ++ msb 6 data.length ++ octetBits data

lemma length_dataInfo : (dataInfo seq rexmit data).length = 16 + 8 * data.length := by
  simp only [dataInfo, length_append, length_msb, length_octetBits]

section

variable (h : data.length ≤ mux.maxDataLen)
include h

lemma dataInfo_fits :
    (dataInfo seq rexmit data).length ≤ mux.infoBits := by
  rw [length_dataInfo]
  cases mux <;> simp only [infoBits, maxDataLen, frameBits, typeBits] at * <;> omega

lemma encodeDataUnsegmented_eq :
    encodeDataUnsegmented seq rexmit data mux = .ok (formatA mux (dataInfo seq rexmit data)) := by
  have hfit : (dataInfo seq rexmit data).length ≤ mux.infoBits := dataInfo_fits h
  rw [length_dataInfo] at hfit
  unfold encodeDataUnsegmented
  rw [if_neg (by omega), cursorAt_nil]
  simp (disch := omega) only [put_cursorAt, putOctets_cursorAt, ok_bind]
  exact wrapFormatA_eq (by simp; omega)

lemma decodeDataUnsegmented_eq :
    decodeDataUnsegmented (msb 8 seq.toNat ++ (msb 1 0 ++ (msb 1 (boolBit rexmit) ++
      (msb 6 data.length ++ (octetBits data ++ rest))))) mux = .ok (.data seq rexmit data) := by
  have hlt : data.length < 2 ^ 6 := by cases mux <;> simp only [maxDataLen] at h <;> omega
  unfold decodeDataUnsegmented getBits
  simp (disch := omega) only [readBits_skip, readBits_msb, index_skip, index_msb, ok_bind,
    ofNat_mod_256, reduceSub, mod_eq_of_lt hlt, bitAt_boolBit]
  rw [if_neg (by omega), tryGetOctets_eq _ _ _ (by simp; omega)]
  simp (disch := omega) only [readOctets_skip, reduceSub, readOctets_octetBits, ok_bind, pure_eq, ite_bit_beq]

lemma decode_dataInfo :
    decodeRlp3Frame (formatA mux (dataInfo seq rexmit data)) mux = .ok (.data seq rexmit data) := by
  rw [decodeRlp3Frame_formatA (dataInfo_fits h)]
  unfold decodeFormatA getBits
  rw [if_neg (by simp [length_dataInfo]; omega)]
  unfold dataInfo
  simp only [append_assoc]
  simp (disch := omega) only [readBits_msb, index_skip, index_msb, ok_bind, reduceSub]
  rw [if_pos (by rfl)]
  exact decodeDataUnsegmented_eq h

end

end Data

/-! ### Format B -/

section FormatB

variable {seq : UInt8} {rexmit : Bool} {data : Bytes}

def formatB (mux : MuxOption) (seq : UInt8) (rexmit : Bool) (data : Bytes) : Bits :=
  msb 8 seq.toNat ++ octetBits data ++
    msb mux.typeBits (if rexmit then mux.typeFormatBRexmit else mux.typeFormatBNew)

section

variable (h : data.length = mux.formatBDataLen)
include h

lemma formatB_info : 8 + 8 * data.length = mux.infoBits := by rw [h]; cases mux <;> rfl

lemma length_formatB :
    (formatB mux seq rexmit data).length = mux.frameBits := by
  have h1 := formatB_info h
  have h2 := infoBits_add_typeBits mux
  simp only [formatB, length_append, length_msb, length_octetBits]
  omega

lemma encodeFormatB_eq :
    encodeFormatB seq rexmit data mux = .ok (formatB mux seq rexmit data) := by
  have h1 := formatB_info h
  have h2 := infoBits_add_typeBits mux
  unfold encodeFormatB
  rw [if_neg (by simpa using h), cursorAt_nil]
  simp (disch := omega) only [put_cursorAt, putOctets_cursorAt, ok_bind, cursorAt_bits]
  rw [show mux.frameBits - 8 - 8 * data.length - mux.typeBits = 0 by omega, blank_zero, List.append_nil]
  rfl

lemma decode_formatB :
    decodeRlp3Frame (formatB mux seq rexmit data) mux = .ok (.dataFormatB seq rexmit data) := by
  have h1 := formatB_info h
  have ht : getBits (formatB mux seq rexmit data) mux.infoBits mux.typeBits = .ok (if rexmit then 3 else 2) := by
    unfold formatB getBits
    rw [readBits_append_right _ _ (by simp; omega)]
    rw [show mux.infoBits - (msb 8 seq.toNat ++ octetBits data).length = 0 by simp; omega]
    cases mux <;> cases rexmit <;> rfl
  have hb : decodeFormatB (formatB mux seq rexmit data) mux rexmit = .ok (.dataFormatB seq rexmit data) := by
    unfold decodeFormatB formatB getBits
    rw [append_assoc]
    simp (disch := omega) only [readBits_msb, readOctets_skip, sub_self, ok_bind, ← h,
      readOctets_octetBits, ofNat_mod_256, pure_eq]
  unfold decodeRlp3Frame
  rw [if_neg (by rw [length_formatB h]; omega), ht]
  cases rexmit <;> exact hb

end

end FormatB

/-! ### Fill and idle frames -/

section SeqHi

variable {seq : UInt8} {seqHi : ℕ}

def seqHiInfo (ctl : ℕ) (seq : UInt8) (seqHi : ℕ) : Bits := msb 8 seq.toNat ++ msb 4 ctl ++ msb 4 seqHi

lemma seqHiInfo_fits (ctl : ℕ) : (seqHiInfo ctl seq seqHi).length ≤ mux.infoBits := by
  cases mux <;> simp [seqHiInfo, infoBits, frameBits, typeBits]

lemma encodeSeqHi_eq (ctl : ℕ) :
    encodeSeqHi ctl seq seqHi mux = .ok (formatA mux (seqHiInfo ctl seq seqHi)) := by
  have hfit : (seqHiInfo ctl seq seqHi).length ≤ mux.infoBits := seqHiInfo_fits ctl
  simp only [seqHiInfo, length_append, length_msb] at hfit
  unfold encodeSeqHi
  rw [cursorAt_nil]
  simp (disch := omega) only [put_cursorAt, ok_bind]
  exact wrapFormatA_eq (by simp; omega)

lemma decode_fill (h : seqHi < 16) :
    decodeRlp3Frame (formatA mux (seqHiInfo 0b1001 seq seqHi)) mux = .ok (.fill seq seqHi) ∧
    decodeRlp3Frame (formatA mux (seqHiInfo 0b1010 seq seqHi)) mux = .ok (.idle1 seq seqHi) := by
  constructor <;>
  · rw [decodeRlp3Frame_formatA (seqHiInfo_fits _)]
    unfold decodeFormatA getBits
    rw [if_neg (by simp [seqHiInfo]; omega)]
    unfold seqHiInfo
    simp only [append_assoc]
    simp (disch := omega) only [readBits_skip, readBits_msb, ok_bind,
      ofNat_mod_256, reduceSub, mod_eq_of_lt (show seqHi < 2 ^ 4 by omega)]
    rfl

def idle2Info (seq : UInt8) : Bits :=
  msb 8 seq.toNat ++ msb 4 0b1000 ++ msb 1 (boolBit true) ++ msb 1 (boolBit false) ++
    msb 1 (boolBit false) ++ msb 5 0 ++ msb 4 0 ++ msb 12 0

lemma idle2Info_fits : (idle2Info seq).length ≤ mux.infoBits := by
  cases mux <;> simp [idle2Info, infoBits, frameBits, typeBits]

lemma encodeIdle2_eq : encodeIdle2 seq mux = .ok (formatA mux (idle2Info seq)) := by
  have hfit : (idle2Info seq).length ≤ mux.infoBits := idle2Info_fits
  simp only [idle2Info, length_append, length_msb] at hfit
  unfold encodeIdle2
  rw [cursorAt_nil]
  simp (disch := omega) only [put_cursorAt, ok_bind]
  exact wrapFormatA_eq (by simp; omega)

lemma decode_idle2 :
    decodeRlp3Frame (formatA mux (idle2Info seq)) mux = .ok (.idle2 seq) := by
  rw [decodeRlp3Frame_formatA idle2Info_fits]
  unfold idle2Info
  simp only [append_assoc]
  rw [decodeFormatA_segmented (by simp; omega)]
  rfl

end SeqHi

/-! ### Control frames -/

section Control

variable {seq : UInt8} {ct : Rlp3ControlType} {initVar incl : Bool}

def fcsBits (fcs : UInt16) : Bits := msb 8 (fcs.toNat % 256) ++ msb 8 (fcs.toNat / 256)

@[simp] lemma length_fcsBits (fcs : UInt16) : (fcsBits fcs).length = 16 := by simp [fcsBits]

lemma putFcs16_eq (pre : Bits) (fcs : UInt16) (h : 16 ≤ k) :
    putFcs16 (pre ++ blank k) pre.length fcs = .ok (pre ++ fcsBits fcs ++ blank (k - 16)) := by
  have hlo := writeBits_append (ε := RlpError) (fcs.toNat % 256) 8 pre (blank 8) (blank (k - 8))
    (by simp)
  have hhi := writeBits_append (ε := RlpError) (fcs.toNat / 256) 8
    (pre ++ msb 8 (fcs.toNat % 256)) (blank 8) (blank (k - 16)) (by simp)
  rw [append_assoc, ← blank_add, show 8 + (k - 8) = k by omega] at hlo
  rw [append_assoc, ← blank_add, show 8 + (k - 16) = k - 8 by omega, length_append, length_msb] at hhi
  unfold putFcs16
  rw [hlo, ok_bind, hhi]
  simp [fcsBits]

lemma getFcs16_eq (pre rest : Bits) (fcs : UInt16) :
    getFcs16 (pre ++ (fcsBits fcs ++ rest)) pre.length = .ok fcs := by
  have hlt : fcs.toNat < 65536 := by simpa using fcs.toNat_lt
  unfold getFcs16 getBits fcsBits
  rw [readBits_append_right pre _ (le_refl _), readBits_append_right pre _ (by omega),
    show pre.length + 8 - pre.length = 8 by omega]
  simp (disch := omega) only [append_assoc, readBits_skip, readBits_msb, sub_self, ok_bind]
  rw [show fcs.toNat / 256 % 2 ^ 8 * 256 + fcs.toNat % 256 % 2 ^ 8 = fcs.toNat by omega]
  simp

def controlHead (seq : UInt8) (ct : Rlp3ControlType) (initVar nakParamIncl : Bool) : Bits :=
  msb 8 seq.toNat ++ msb 6 ct.ctlBits ++ msb 1 (boolBit initVar) ++ msb 1 (boolBit nakParamIncl)

@[simp] lemma length_controlHead : (controlHead seq ct initVar incl).length = 16 := by simp [controlHead]

def controlInfo (seq : UInt8) (ct : Rlp3ControlType) (initVar nakParamIncl : Bool) : Bits :=
  controlHead seq ct initVar nakParamIncl ++ fcsBits (fcs16 (controlHead seq ct initVar nakParamIncl))

lemma controlInfo_fits : (controlInfo seq ct initVar incl).length ≤ mux.infoBits := by
  cases mux <;> simp [controlInfo, infoBits, frameBits, typeBits]

lemma encodeControl_eq : encodeControl seq ct initVar incl mux =
    .ok (formatA mux (controlInfo seq ct initVar incl)) := by
  have hfit : (controlInfo seq ct initVar incl).length ≤ mux.infoBits := controlInfo_fits
  simp only [controlInfo, length_append, length_controlHead, length_fcsBits] at hfit
  unfold encodeControl
  rw [cursorAt_nil]
  simp (disch := omega) only [put_cursorAt, ok_bind, nil_append]
  change (putFcs16 (controlHead seq ct initVar incl ++ _) (controlHead seq ct _ _).length
    (fcs16 ((controlHead seq ct initVar incl ++ _).take 16)) >>= _) = _
  rw [take_left' length_controlHead, putFcs16_eq _ _ (by omega)]
  exact wrapFormatA_eq (by simp; omega)

lemma decode_controlInfo (h : ct ≠ .nak) :
    decodeRlp3Frame (formatA mux (controlInfo seq ct initVar incl)) mux = .ok (.control seq ct initVar incl) := by
  rw [decodeRlp3Frame_formatA controlInfo_fits]
  have hs : ∀ rest, controlInfo seq ct initVar incl ++ rest = msb 8 seq.toNat ++
      (msb 6 ct.ctlBits ++ (msb 1 (boolBit initVar) ++ (msb 1 (boolBit incl) ++
        (fcsBits (fcs16 (controlHead seq ct initVar incl)) ++ rest)))) := by simp [controlInfo, controlHead]
  have hb : ∀ rest, decodeSyncAckFrame (controlInfo seq ct initVar incl ++ rest) seq ct =
      .ok (.control seq ct initVar incl) := by
    intro rest
    have hfcs := getFcs16_eq (controlHead seq ct initVar incl) rest
      (fcs16 (controlHead seq ct initVar incl))
    rw [length_controlHead, ← append_assoc] at hfcs
    unfold decodeSyncAckFrame
    rw [show controlInfo seq ct initVar incl = _ ++ _ from rfl, hfcs, append_assoc, take_left' length_controlHead]
    simp [controlHead, index_skip, index_msb, bitAt_boolBit, ite_bit_beq]
  rw [hs, decodeFormatA_control (by simp; omega), if_neg h, ← hs]
  exact hb _

end Control

/-! ### NAK entries -/

/-- One kind of NAK entry: its fields, what they may hold, and that they are written and read
back. -/
structure EntryCodec {α : Type} (putEntry : Cursor → α → Outcome RlpError Cursor)
    (getEntry : Bits → ℕ → Outcome RlpError (α × ℕ)) where
  /-- Bits of an entry. -/
  width : ℕ
  /-- The fields of an entry. -/
  bits : α → Bits
  /-- The fields are in range. -/
  InRange : α → Prop
  length_bits : ∀ a, (bits a).length = width
  put_eq : ∀ {pre k} a, width ≤ k →
    putEntry (cursorAt pre k) a = .ok (cursorAt (pre ++ bits a) (k - width))
  put_pos : ∀ {c c' : Cursor} {a}, putEntry c a = .ok c' → c'.pos = c.pos + width
  get_eq : ∀ pre a rest, InRange a →
    getEntry (pre ++ (bits a ++ rest)) pre.length = .ok (a, pre.length + width)
  get_ok : ∀ {info pos a pos'}, getEntry info pos = .ok (a, pos') → InRange a ∧ pos' = pos + width

lemma tryGetBits_field (pre rest : Bits) (w v : ℕ) :
    tryGetBits (pre ++ (msb w v ++ rest)) pre.length w = .ok (v % 2 ^ w) := by
  simp [tryGetBits, readBits_append_right, readBits_msb]

lemma tryGetBits_ok (h : tryGetBits info pos n = .ok v) :
    v < 2 ^ n := by
  unfold tryGetBits at h
  split at h
  · cases h
  · exact readBits_lt h

lemma tryGetBits_field' (pre rest : Bits) (w v n u : ℕ) :
    tryGetBits (pre ++ (msb n u ++ (msb w v ++ rest))) (pre.length + n) w = .ok (v % 2 ^ w) := by
  have := tryGetBits_field (pre ++ msb n u) rest w v
  rwa [append_assoc, length_append, length_msb] at this

lemma tryGetBits_field'' (pre rest : Bits) (w v n u m t : ℕ) :
    tryGetBits (pre ++ (msb n u ++ (msb m t ++ (msb w v ++ rest)))) (pre.length + (n + m)) w = .ok (v % 2 ^ w) := by
  have := tryGetBits_field (pre ++ msb n u ++ msb m t) rest w v
  grind [length_msb]

def gapCodec : EntryCodec putGapEntry getGapEntry where
  width := 24
  bits e := msb 12 e.first ++ msb 12 e.last
  InRange e := e.first < 4096 ∧ e.last < 4096
  length_bits e := by simp
  put_eq e h := by
    unfold putGapEntry
    simp (disch := omega) only [put_cursorAt, ok_bind, append_assoc, Nat.sub_sub]
  put_pos h := by
    obtain ⟨c1, h1, h⟩ := bind_eq_ok.1 h
    rw [Cursor.put_pos h, Cursor.put_pos h1]
  get_eq pre e rest h := by
    unfold getGapEntry
    rw [append_assoc, tryGetBits_field, tryGetBits_field']
    simp only [ok_bind, pure_eq, mod_eq_of_lt (show e.first < 2 ^ 12 from h.1),
      mod_eq_of_lt (show e.last < 2 ^ 12 from h.2)]
  get_ok h := by
    obtain ⟨first, h1, h⟩ := bind_eq_ok.1 h
    obtain ⟨last, h2, h⟩ := bind_eq_ok.1 h
    cases h
    exact ⟨⟨tryGetBits_ok h1, tryGetBits_ok h2⟩, rfl⟩

def mapCodec : EntryCodec putMapEntry getMapEntry where
  width := 20
  bits e := msb 12 e.nakMapSeq ++ msb 8 e.nakMap.toNat
  InRange e := e.nakMapSeq < 4096
  length_bits e := by simp
  put_eq e h := by
    unfold putMapEntry
    simp (disch := omega) only [put_cursorAt, ok_bind, append_assoc, Nat.sub_sub]
  put_pos h := by
    obtain ⟨c1, h1, h⟩ := bind_eq_ok.1 h
    rw [Cursor.put_pos h, Cursor.put_pos h1]
  get_eq pre e rest h := by
    unfold getMapEntry
    rw [append_assoc, tryGetBits_field, tryGetBits_field']
    simp only [ok_bind, pure_eq, ofNat_mod_256,
      mod_eq_of_lt (show e.nakMapSeq < 2 ^ 12 from h)]
  get_ok h := by
    obtain ⟨nakMapSeq, h1, h⟩ := bind_eq_ok.1 h
    obtain ⟨nakMap, h2, h⟩ := bind_eq_ok.1 h
    cases h
    exact ⟨tryGetBits_ok h1, rfl⟩

def segRangeCodec : EntryCodec putSegRangeEntry getSegRangeEntry where
  width := 36
  bits e := msb 12 e.frameSeq ++ (msb 12 e.firstSSeq ++ msb 12 e.lastSSeq)
  InRange e := e.frameSeq < 4096 ∧ e.firstSSeq < 4096 ∧ e.lastSSeq < 4096
  length_bits e := by simp
  put_eq e h := by
    unfold putSegRangeEntry
    simp (disch := omega) only [put_cursorAt, ok_bind, append_assoc, Nat.sub_sub]
  put_pos h := by
    obtain ⟨c1, h1, h⟩ := bind_eq_ok.1 h
    obtain ⟨c2, h2, h⟩ := bind_eq_ok.1 h
    rw [Cursor.put_pos h, Cursor.put_pos h2, Cursor.put_pos h1]
  get_eq pre e rest h := by
    unfold getSegRangeEntry
    rw [append_assoc, append_assoc, tryGetBits_field, tryGetBits_field',
      tryGetBits_field'' (n := 12) (m := 12)]
    simp only [ok_bind, pure_eq, mod_eq_of_lt (show e.frameSeq < 2 ^ 12 from h.1),
      mod_eq_of_lt (show e.firstSSeq < 2 ^ 12 from h.2.1),
      mod_eq_of_lt (show e.lastSSeq < 2 ^ 12 from h.2.2)]
  get_ok h := by
    obtain ⟨frameSeq, h1, h⟩ := bind_eq_ok.1 h
    obtain ⟨firstSSeq, h2, h⟩ := bind_eq_ok.1 h
    obtain ⟨lastSSeq, h3, h⟩ := bind_eq_ok.1 h
    cases h
    exact ⟨⟨tryGetBits_ok h1, tryGetBits_ok h2, tryGetBits_ok h3⟩, rfl⟩

def segLenCodec : EntryCodec putSegLenEntry getSegLenEntry where
  width := 32
  bits e := msb 12 e.frameSeq ++ (msb 12 e.firstSSeq ++ msb 8 e.lengthSSeq.toNat)
  InRange e := e.frameSeq < 4096 ∧ e.firstSSeq < 4096
  length_bits e := by simp
  put_eq e h := by
    unfold putSegLenEntry
    simp (disch := omega) only [put_cursorAt, ok_bind, append_assoc, Nat.sub_sub]
  put_pos h := by
    obtain ⟨c1, h1, h⟩ := bind_eq_ok.1 h
    obtain ⟨c2, h2, h⟩ := bind_eq_ok.1 h
    rw [Cursor.put_pos h, Cursor.put_pos h2, Cursor.put_pos h1]
  get_eq pre e rest h := by
    unfold getSegLenEntry
    rw [append_assoc, append_assoc, tryGetBits_field, tryGetBits_field',
      tryGetBits_field'' (n := 12) (m := 12)]
    simp only [ok_bind, pure_eq, ofNat_mod_256,
      mod_eq_of_lt (show e.frameSeq < 2 ^ 12 from h.1),
      mod_eq_of_lt (show e.firstSSeq < 2 ^ 12 from h.2)]
  get_ok h := by
    obtain ⟨frameSeq, h1, h⟩ := bind_eq_ok.1 h
    obtain ⟨firstSSeq, h2, h⟩ := bind_eq_ok.1 h
    obtain ⟨lengthSSeq, h3, h⟩ := bind_eq_ok.1 h
    cases h
    exact ⟨⟨tryGetBits_ok h1, tryGetBits_ok h2⟩, rfl⟩

namespace EntryCodec

variable {α : Type} {putEntry : Cursor → α → Outcome RlpError Cursor}
  {getEntry : Bits → ℕ → Outcome RlpError (α × ℕ)} (codec : EntryCodec putEntry getEntry)

def body (entries : List α) : Bits := msb 2 ((entries.length - 1) % 4) ++ entries.flatMap codec.bits

lemma length_flatMap_bits (es : List α) :
    (es.flatMap codec.bits).length = es.length * codec.width := by
  induction es with
  | nil => simp
  | cons a es ih =>
    rw [flatMap_cons, length_append, ih, codec.length_bits, length_cons]
    ring

lemma length_body (es : List α) :
    (codec.body es).length = 2 + es.length * codec.width := by
  rw [body, length_append, length_msb, length_flatMap_bits]

lemma foldlM_put_eq (es : List α) : ∀ {pre : Bits} {k : ℕ}, es.length * codec.width ≤ k →
    es.foldlM putEntry (cursorAt pre k) = .ok (cursorAt (pre ++ es.flatMap codec.bits)
      (k - es.length * codec.width)) := by
  induction es with
  | nil => simp
  | cons a es ih =>
    intro pre k h
    rw [length_cons, Nat.succ_mul] at h ⊢
    rw [List.foldlM_cons, codec.put_eq a (by omega), ok_bind, ih (by omega),
      flatMap_cons, append_assoc, Nat.sub_sub, Nat.add_comm codec.width]

lemma putEntries_eq (h : 2 + es.length * codec.width ≤ k) :
    putEntries putEntry (cursorAt pre k) es =
      .ok (cursorAt (pre ++ codec.body es) (k - (2 + es.length * codec.width))) := by
  unfold putEntries
  rw [put_cursorAt (by omega), ok_bind, codec.foldlM_put_eq es (by omega), append_assoc, Nat.sub_sub]
  rfl

lemma foldlM_put_pos (es : List α) : ∀ {c c' : Cursor},
    es.foldlM putEntry c = .ok c' → c'.pos = c.pos + es.length * codec.width := by
  induction es with
  | nil => intro c c' h; cases h; simp
  | cons a es ih =>
    intro c c' h
    obtain ⟨c1, h1, h⟩ := bind_eq_ok.1 h
    rw [ih h, codec.put_pos h1, length_cons]
    ring

lemma putEntries_pos (h : putEntries putEntry c es = .ok c') :
    c'.pos = c.pos + (2 + es.length * codec.width) := by
  obtain ⟨c1, h1, h⟩ := bind_eq_ok.1 h
  rw [codec.foldlM_put_pos es h, Cursor.put_pos h1]
  omega

lemma getEntryList_eq (es : List α) : ∀ (pre rest : Bits), (∀ a ∈ es, codec.InRange a) →
    getEntryList (getEntry (pre ++ (es.flatMap codec.bits ++ rest))) es.length pre.length =
      .ok (es, pre.length + es.length * codec.width) := by
  induction es with
  | nil => intro pre rest _; simp [getEntryList]
  | cons a es ih =>
    intro pre rest h
    have hrest := ih (pre ++ codec.bits a) rest fun b hb => h b (List.mem_cons_of_mem _ hb)
    rw [length_append, codec.length_bits, append_assoc] at hrest
    rw [length_cons, flatMap_cons, append_assoc]
    unfold getEntryList
    rw [codec.get_eq pre a _ (h a (by simp)), ok_bind]
    grind [ok_bind, pure_eq]

/-- **One to four entries are read back.** -/
theorem getEntries_eq (pre rest : Bits) (h1 : 1 ≤ es.length)
    (h4 : es.length ≤ 4) (h : ∀ a ∈ es, codec.InRange a) :
    getEntries (pre ++ (codec.body es ++ rest))
      (getEntry (pre ++ (codec.body es ++ rest))) pre.length =
      .ok (es, pre.length + (2 + es.length * codec.width)) := by
  have hl := codec.getEntryList_eq es (pre ++ msb 2 ((es.length - 1) % 4)) rest h
  rw [append_assoc, length_append, length_msb] at hl
  unfold getEntries body
  rw [append_assoc, tryGetBits_field, ok_bind,
    show (es.length - 1) % 4 % 2 ^ 2 + 1 = es.length by omega, hl, Nat.add_assoc]

lemma getEntryList_ok (n : ℕ) : ∀ {pos pos' : ℕ} {es : List α},
    getEntryList (getEntry info) n pos = .ok (es, pos') →
    es.length = n ∧ (∀ a ∈ es, codec.InRange a) ∧ pos' = pos + n * codec.width := by
  induction n with
  | zero => intro pos pos' es h; cases h; simp
  | succ =>
    intro pos pos' es h
    obtain ⟨⟨a, p1⟩, h1, h⟩ := bind_eq_ok.1 h
    obtain ⟨⟨l, p2⟩, h2, h⟩ := bind_eq_ok.1 h
    cases h
    obtain ⟨hr, rfl⟩ := codec.get_ok h1
    grind

lemma getEntries_ok (h : getEntries info (getEntry info) pos = .ok (es, pos')) :
    1 ≤ es.length ∧ es.length ≤ 4 ∧ (∀ a ∈ es, codec.InRange a) ∧
      pos' = pos + (2 + es.length * codec.width) := by
  obtain ⟨count, h1, h⟩ := bind_eq_ok.1 h
  obtain ⟨hlen, hr, hpos⟩ := codec.getEntryList_ok _ h
  have := tryGetBits_ok h1
  refine ⟨by omega, by omega, hr, ?_⟩
  rw [hlen]
  omega

end EntryCodec

/-! ### NAK frames -/

namespace NakPayload

def count : NakPayload → ℕ
  | gap entries => entries.length
  | map entries => entries.length
  | segmentRange entries => entries.length
  | segmentLength entries => entries.length

def width : NakPayload → ℕ
  | gap _ => gapCodec.width
  | map _ => mapCodec.width
  | segmentRange _ => segRangeCodec.width
  | segmentLength _ => segLenCodec.width

def body : NakPayload → Bits
  | gap entries => gapCodec.body entries
  | map entries => mapCodec.body entries
  | segmentRange entries => segRangeCodec.body entries
  | segmentLength entries => segLenCodec.body entries

def InRange : NakPayload → Prop
  | gap entries => ∀ e ∈ entries, gapCodec.InRange e
  | map entries => ∀ e ∈ entries, mapCodec.InRange e
  | segmentRange entries => ∀ e ∈ entries, segRangeCodec.InRange e
  | segmentLength entries => ∀ e ∈ entries, segLenCodec.InRange e

/-- Where the check sequence of a NAK starts: the header is twenty bits. -/
def fcsPos (payload : NakPayload) : ℕ := alignToOctet (20 + (2 + payload.count * payload.width))

variable (payload : NakPayload)

lemma length_body : payload.body.length = 2 + payload.count * payload.width := by
  cases payload <;> exact EntryCodec.length_body _ _

lemma putPayload_eq (h : 2 + payload.count * payload.width ≤ k) :
    putPayload (cursorAt pre k) payload = .ok (cursorAt (pre ++ payload.body)
      (k - (2 + payload.count * payload.width))) := by cases payload <;> exact EntryCodec.putEntries_eq _ h

lemma putPayload_pos (h : putPayload c payload = .ok c') :
    c'.pos = c.pos + (2 + payload.count * payload.width) := by
  cases payload with
  | gap => exact gapCodec.putEntries_pos h
  | map => exact mapCodec.putEntries_pos h
  | segmentRange => exact segRangeCodec.putEntries_pos h
  | segmentLength => exact segLenCodec.putEntries_pos h

lemma getPayload_eq (pre rest : Bits) (h1 : 1 ≤ payload.count) (h4 : payload.count ≤ 4) (h : payload.InRange) :
    getPayload (pre ++ (payload.body ++ rest)) payload.nakType pre.length =
      .ok (payload, pre.length + (2 + payload.count * payload.width)) := by
  cases payload with
  | gap => exact bind_eq_ok.2 ⟨_, gapCodec.getEntries_eq pre rest h1 h4 h, rfl⟩
  | map => exact bind_eq_ok.2 ⟨_, mapCodec.getEntries_eq pre rest h1 h4 h, rfl⟩
  | segmentRange => exact bind_eq_ok.2 ⟨_, segRangeCodec.getEntries_eq pre rest h1 h4 h, rfl⟩
  | segmentLength => exact bind_eq_ok.2 ⟨_, segLenCodec.getEntries_eq pre rest h1 h4 h, rfl⟩

lemma getPayload_ok {nakType pos pos' : ℕ} {payload : NakPayload}
    (h : getPayload info nakType pos = .ok (payload, pos')) :
    1 ≤ payload.count ∧ payload.count ≤ 4 ∧ payload.InRange ∧ pos' = pos + (2 + payload.count * payload.width) := by
  unfold getPayload at h
  split at h
  any_goals
    obtain ⟨⟨es, p⟩, h1, h⟩ := bind_eq_ok.1 h
    cases h
  · exact gapCodec.getEntries_ok h1
  · exact mapCodec.getEntries_ok h1
  · exact segRangeCodec.getEntries_ok h1
  · exact segLenCodec.getEntries_ok h1
  · cases h

end NakPayload

section Nak

variable {seq : UInt8} {seqHi : ℕ} {payload : NakPayload}

def nakHead (seq : UInt8) (seqHi : ℕ) (payload : NakPayload) : Bits :=
  msb 8 seq.toNat ++ msb 6 Rlp3ControlType.nak.ctlBits ++ msb 2 payload.nakType ++ msb 4 seqHi ++
    payload.body ++ blank (payload.fcsPos - (20 + (2 + payload.count * payload.width)))

lemma le_alignToOctet (pos : ℕ) : pos ≤ alignToOctet pos := by unfold alignToOctet; omega

lemma length_nakHead (seq : UInt8) (seqHi : ℕ) (payload : NakPayload) :
    (nakHead seq seqHi payload).length = payload.fcsPos := by
  have := le_alignToOctet (20 + (2 + payload.count * payload.width))
  simp only [nakHead, length_append, length_msb, length_body, length_blank]
  unfold fcsPos at *
  omega

def nakInfo (seq : UInt8) (seqHi : ℕ) (payload : NakPayload) : Bits :=
  nakHead seq seqHi payload ++ fcsBits (fcs16 (nakHead seq seqHi payload))

lemma length_nakInfo (seq : UInt8) (seqHi : ℕ) (payload : NakPayload) :
    (nakInfo seq seqHi payload).length = payload.fcsPos + 16 := by
  rw [nakInfo, length_append, length_nakHead, length_fcsBits]

lemma nakInfo_append (seq : UInt8) (seqHi : ℕ) (payload : NakPayload) (rest : Bits) :
    nakInfo seq seqHi payload ++ rest = msb 8 seq.toNat ++ (msb 6 Rlp3ControlType.nak.ctlBits ++ (msb 2 payload.nakType ++ (msb 4 seqHi ++
      (payload.body ++ (blank (payload.fcsPos - (20 + (2 + payload.count * payload.width))) ++
        (fcsBits (fcs16 (nakHead seq seqHi payload)) ++ rest)))))) := by simp [nakInfo, nakHead]

lemma encodeNak_eq (h : payload.fcsPos + 16 ≤ mux.infoBits) :
    encodeNak seq seqHi payload mux = .ok (formatA mux (nakInfo seq seqHi payload)) := by
  have hle := le_alignToOctet (20 + (2 + payload.count * payload.width))
  rw [show alignToOctet _ = payload.fcsPos from rfl] at hle
  unfold encodeNak
  rw [cursorAt_nil]
  simp (disch := omega) only [put_cursorAt, putPayload_eq, ok_bind,
    nil_append, cursorAt_bits, cursorAt_pos, length_append, length_msb,
    length_body]
  rw [show alignToOctet (20 + (2 + payload.count * payload.width)) = payload.fcsPos from rfl, if_neg (by omega)]
  -- the blanks up to the check sequence belong to what it covers
  have hs : ∀ pre : Bits, pre ++ blank (mux.infoBits - 8 - 6 - 2 - 4 - (2 + payload.count * payload.width)) = pre ++
        blank (payload.fcsPos - (20 + (2 + payload.count * payload.width))) ++
          blank (mux.infoBits - payload.fcsPos) := by
    intro pre
    rw [append_assoc, ← blank_add]
    congr 2
    omega
  rw [hs]
  change (putFcs16 (nakHead seq seqHi payload ++ _) _
    (fcs16 ((nakHead seq seqHi payload ++ _).take payload.fcsPos)) >>= _) = _
  rw [take_left' (length_nakHead _ _ _), ← length_nakHead seq seqHi,
    putFcs16_eq _ _ (by rw [length_nakHead]; omega)]
  exact wrapFormatA_eq (by rw [length_append, length_fcsBits, length_nakHead]; omega)

lemma encodeNak_fits (h : encodeNak seq seqHi payload mux = .ok bits) :
    payload.fcsPos + 16 ≤ mux.infoBits := by
  simp only [encodeNak, bind_eq_ok] at h
  obtain ⟨c1, h1, c2, h2, c3, h3, c4, h4, c5, h5, h⟩ := h
  have hpos : c5.pos = 20 + (2 + payload.count * payload.width) := by
    rw [payload.putPayload_pos h5, Cursor.put_pos h4, Cursor.put_pos h3, Cursor.put_pos h2, Cursor.put_pos h1]
  by_contra hlt
  rw [hpos, show alignToOctet (20 + _) = payload.fcsPos from rfl, if_pos (by omega)] at h
  cases h

lemma decodeNakFrame_eq (rest : Bits) (hhi : seqHi < 16) (h1 : 1 ≤ payload.count)
    (h4 : payload.count ≤ 4) (h : payload.InRange) :
    decodeNakFrame (nakInfo seq seqHi payload ++ rest) = .ok (.nak seq seqHi payload) := by
  have hs := nakInfo_append seq seqHi payload rest
  have hpay := payload.getPayload_eq (msb 8 seq.toNat ++ msb 6 Rlp3ControlType.nak.ctlBits ++
    msb 2 payload.nakType ++ msb 4 seqHi) (blank (payload.fcsPos - (20 + (2 + payload.count * payload.width))) ++
        (fcsBits (fcs16 (nakHead seq seqHi payload)) ++ rest)) h1 h4 h
  simp only [append_assoc, ← hs, length_append, length_msb] at hpay
  have hfcs := getFcs16_eq (nakHead seq seqHi payload) rest (fcs16 (nakHead seq seqHi payload))
  rw [length_nakHead, ← append_assoc] at hfcs
  have hlen := length_nakInfo seq seqHi payload
  have ht : payload.nakType % 2 ^ 2 = payload.nakType := by cases payload <;> rfl
  have hf : 20 ≤ payload.fcsPos := le_trans (by omega) (le_alignToOctet _)
  have hseq : getBits (nakInfo seq seqHi payload ++ rest) 0 8 = .ok (seq.toNat % 2 ^ 8) := by
    rw [hs, getBits, readBits_msb]
  have hty : getBits (nakInfo seq seqHi payload ++ rest) 14 2 = .ok payload.nakType := by
    rw [hs]
    simp (disch := omega) only [readBits_skip, readBits_msb, reduceSub, ht]
  have hsh : getBits (nakInfo seq seqHi payload ++ rest) 16 4 = .ok seqHi := by
    rw [hs]
    simp (disch := omega) only [readBits_skip, readBits_msb, reduceSub, mod_eq_of_lt (show seqHi < 2 ^ 4 by omega)]
  have hta : (nakInfo seq seqHi payload ++ rest).take payload.fcsPos = nakHead seq seqHi payload := by
    rw [nakInfo, append_assoc, take_left' (length_nakHead _ _ _)]
  unfold decodeNakFrame
  rw [if_neg (by rw [length_append]; omega), hseq, hty, hsh]
  simp only [ok_bind, hpay]
  rw [show alignToOctet _ = payload.fcsPos from rfl, if_neg (by rw [length_append]; omega), hta]
  rw [show nakInfo seq seqHi payload = _ ++ _ from rfl, hfcs]
  simp

lemma decode_nakInfo (h : payload.fcsPos + 16 ≤ mux.infoBits) :
    decodeRlp3Frame (formatA mux (nakInfo seq seqHi payload)) mux = decodeNakFrame
      (nakInfo seq seqHi payload ++ blank (mux.infoBits - (payload.fcsPos + 16))) := by
  rw [decodeRlp3Frame_formatA (by rw [length_nakInfo]; exact h), length_nakInfo]
  rw [nakInfo_append, decodeFormatA_control (by simp), if_pos rfl]

end Nak

/-! ### Segments -/

section Segmented

variable {seq : UInt8} {sqi lastSeg rexmit : Bool} {seqHi : Option ℕ} {sSeq : ℕ} {data : Bytes}

def segHeaderBits (sqi : Bool) : ℕ := if sqi then 40 else 32

def segSeqBits (sqi : Bool) (seqHi : Option ℕ) (sSeq : ℕ) : Bits :=
  if sqi then msb 4 (seqHi.getD 0) ++ msb 12 sSeq ++ blank 4 else msb 12 sSeq

def segInfo (seq : UInt8) (sqi lastSeg rexmit : Bool) (seqHi : Option ℕ) (sSeq : ℕ) (data : Bytes) :
    Bits :=
  msb 8 seq.toNat ++ msb 4 0b1000 ++ msb 1 (boolBit sqi) ++ msb 1 (boolBit lastSeg) ++
    msb 1 (boolBit rexmit) ++ msb 5 (data.length % 32) ++ segSeqBits sqi seqHi sSeq ++ octetBits data

lemma length_segInfo : (segInfo seq sqi lastSeg rexmit seqHi sSeq data).length =
    segHeaderBits sqi + 8 * data.length := by
  cases sqi <;> simp only [segInfo, segSeqBits, segHeaderBits, length_append, length_msb,
    length_octetBits, length_blank, if_true, Bool.false_eq_true, if_false]

lemma encodeSegmented_eq (h : segHeaderBits sqi + 8 * data.length ≤ mux.infoBits) :
    encodeSegmented seq sqi lastSeg rexmit seqHi sSeq data mux =
      .ok (formatA mux (segInfo seq sqi lastSeg rexmit seqHi sSeq data)) := by
  have hlen : (segInfo seq sqi lastSeg rexmit seqHi sSeq data).length =
      segHeaderBits sqi + 8 * data.length := length_segInfo
  unfold encodeSegmented
  rw [cursorAt_nil]
  cases sqi with
  | true =>
    simp only [segHeaderBits, if_true] at h hlen
    simp (disch := omega) only [put_cursorAt, skip_cursorAt, putOctets_cursorAt, ok_bind,
      nil_append, if_true, cursorAt_bits]
    rw [← wrapFormatA_eq (k := mux.infoBits - 8 - 4 - 1 - 1 - 1 - 5 - 4 - 12 - 4 - 8 * data.length) (by omega)]
    simp only [segInfo, segSeqBits, if_true, append_assoc]
  | false =>
    simp only [segHeaderBits, Bool.false_eq_true, if_false] at h hlen
    simp (disch := omega) only [put_cursorAt, putOctets_cursorAt, ok_bind,
      Bool.false_eq_true, if_false, cursorAt_bits]
    grind [wrapFormatA_eq, segInfo, segSeqBits]

lemma segLen_lt (h : segHeaderBits sqi + 8 * data.length ≤ mux.infoBits) : data.length < 32 := by
  cases mux <;> cases sqi <;> simp [segHeaderBits, infoBits, frameBits, typeBits] at h <;> omega

lemma decodeSegmentedFrame_eq (rest : Bits) (hhi : seqHi.isSome = sqi) (hlt : ∀ hi ∈ seqHi, hi < 16)
    (hs : sSeq < 4096) (hd : data.length < 32) :
    decodeSegmentedFrame (segInfo seq sqi lastSeg rexmit seqHi sSeq data ++ rest) =
      .ok (.segmented seq sqi lastSeg rexmit seqHi sSeq data) := by
  have hlen : data.length % 32 % 2 ^ 5 = data.length := by omega
  unfold decodeSegmentedFrame getBits
  cases seqHi with
  | some hi =>
    obtain rfl : sqi = true := hhi.symm
    have hh : hi < 2 ^ 4 := hlt hi rfl
    unfold segInfo segSeqBits
    simp only [append_assoc, if_true, Option.getD_some]
    simp (disch := omega) only [readBits_skip, readBits_msb, index_skip, index_msb, ok_bind,
      reduceSub, bitAt_boolBit, hlen, mod_eq_of_lt hh,
      mod_eq_of_lt (show sSeq < 2 ^ 12 from hs)]
    rw [tryGetOctets_eq _ _ _ (by simp; omega)]
    simp [readOctets_append_right, readOctets_octetBits, ite_bit_beq]
  | none =>
    obtain rfl : sqi = false := hhi.symm
    unfold segInfo segSeqBits
    simp only [append_assoc, if_false]
    simp (disch := omega) only [readBits_skip, readBits_msb, index_skip, index_msb, ok_bind,
      reduceSub, ofNat_mod_256, bitAt_boolBit, hlen,
      mod_eq_of_lt (show sSeq < 2 ^ 12 from hs), Bool.false_eq_true, if_false]
    rw [if_neg (by decide), tryGetOctets_eq _ _ _ (by simp; omega)]
    simp (disch := omega) only [readOctets_skip, reduceSub, readOctets_octetBits, ok_bind, pure_eq, ite_bit_beq]

/-- The segment that reads as an idle frame of Format 2. -/
def LooksIdle2 (sqi lastSeg rexmit : Bool) (data : Bytes) : Prop :=
  sqi = true ∧ lastSeg = false ∧ rexmit = false ∧ data = []

instance : Decidable (LooksIdle2 sqi lastSeg rexmit data) := by unfold LooksIdle2; infer_instance

lemma decode_segInfo (h : segHeaderBits sqi + 8 * data.length ≤ mux.infoBits)
    (hhi : seqHi.isSome = sqi) (hlt : ∀ hi ∈ seqHi, hi < 16) (hs : sSeq < 4096)
    (hid : ¬ LooksIdle2 sqi lastSeg rexmit data) :
    decodeRlp3Frame (formatA mux (segInfo seq sqi lastSeg rexmit seqHi sSeq data)) mux =
      .ok (.segmented seq sqi lastSeg rexmit seqHi sSeq data) := by
  have hd := segLen_lt h
  have hlen : (segInfo seq sqi lastSeg rexmit seqHi sSeq data).length =
      segHeaderBits sqi + 8 * data.length := length_segInfo
  have hin : 168 ≤ mux.infoBits := by cases mux <;> decide
  rw [decodeRlp3Frame_formatA (by rw [hlen]; exact h)]
  obtain ⟨rest, hrest⟩ : ∃ rest, rest = blank (mux.infoBits -
      (segInfo seq sqi lastSeg rexmit seqHi sSeq data).length) := ⟨_, rfl⟩
  have hb : decodeSegmentedFrame (segInfo seq sqi lastSeg rexmit seqHi sSeq data ++ rest) =
      .ok (.segmented seq sqi lastSeg rexmit seqHi sSeq data) :=
    decodeSegmentedFrame_eq rest hhi hlt hs hd
  have ht : 16 ≤ (segSeqBits sqi seqHi sSeq ++ (octetBits data ++ rest)).length := by
    grind [segHeaderBits, length_blank, length_octetBits]
  have hsh : segInfo seq sqi lastSeg rexmit seqHi sSeq data ++ rest = msb 8 seq.toNat ++
      (msb 4 0b1000 ++ (msb 1 (boolBit sqi) ++ (msb 1 (boolBit lastSeg) ++ (msb 1 (boolBit rexmit) ++
        (msb 5 (data.length % 32) ++ (segSeqBits sqi seqHi sSeq ++ (octetBits data ++ rest))))))) := by
    simp [segInfo]
  rw [← hrest, hsh, decodeFormatA_segmented (by simp; omega), isIdle2Info_eq ht, ← hsh, hb]
  have hnot : (sqi && !lastSeg && !rexmit && data.length % 32 % 2 ^ 5 == 0) = false := by
    rw [show data.length % 32 % 2 ^ 5 = data.length by omega]
    by_contra hne
    simp only [Bool.not_eq_false, Bool.and_eq_true, Bool.not_eq_true', beq_iff_eq, List.length_eq_zero_iff] at hne
    exact hid ⟨hne.1.1.1, hne.1.1.2, hne.1.2, hne.2⟩
  rw [hnot]
  rfl

end Segmented

/-! ### The round trip -/

/-- The frames the codec carries. SEQ_HI has four bits in every frame that has it. -/
def Rlp3Frame.WellFormed (mux : MuxOption) : Rlp3Frame → Prop
  | control _ controlType _ _ => controlType ≠ .nak
  | nak _ seqHi payload => seqHi < 16 ∧ 1 ≤ payload.count ∧ payload.count ≤ 4 ∧ payload.InRange
  | data _ _ bytes => bytes.length ≤ mux.maxDataLen
  | segmented _ sqi lastSeg rexmit seqHi sSeq bytes =>
    seqHi.isSome = sqi ∧ (∀ hi ∈ seqHi, hi < 16) ∧ sSeq < 4096 ∧
      segHeaderBits sqi + 8 * bytes.length ≤ mux.infoBits ∧ ¬ LooksIdle2 sqi lastSeg rexmit bytes
  | dataFormatB _ _ bytes => bytes.length = mux.formatBDataLen
  | fill _ seqHi => seqHi < 16
  | idle1 _ seqHi => seqHi < 16
  | idle2 _ => True

/-- The entries of a NAK leave room for its check sequence. -/
def Rlp3Frame.Fits (mux : MuxOption) : Rlp3Frame → Prop
  | nak _ _ payload => payload.fcsPos + 16 ≤ mux.infoBits
  | _ => True

variable {f : Rlp3Frame} {bits : Bits}

lemma encode_of_fits (hwf : f.WellFormed mux) (hfit : f.Fits mux) :
    ∃ bits, f.encode mux = .ok bits ∧ bits.length = mux.frameBits ∧ decodeRlp3Frame bits mux = .ok f := by
  cases f with
  | control => exact ⟨_, encodeControl_eq, length_formatA controlInfo_fits, decode_controlInfo hwf⟩
  | nak =>
    obtain ⟨hhi, h1, h4, hr⟩ := hwf
    refine ⟨_, encodeNak_eq hfit, length_formatA (by rw [length_nakInfo]; exact hfit), ?_⟩
    rw [decode_nakInfo hfit]
    exact decodeNakFrame_eq _ hhi h1 h4 hr
  | data => exact ⟨_, encodeDataUnsegmented_eq hwf, length_formatA (dataInfo_fits hwf), decode_dataInfo hwf⟩
  | segmented =>
    obtain ⟨hhi, hlt, hs, hf, hid⟩ := hwf
    exact ⟨_, encodeSegmented_eq hf, length_formatA (by rw [length_segInfo]; exact hf),
      decode_segInfo hf hhi hlt hs hid⟩
  | dataFormatB => exact ⟨_, encodeFormatB_eq hwf, length_formatB hwf, decode_formatB hwf⟩
  | fill => exact ⟨_, encodeSeqHi_eq _, length_formatA (seqHiInfo_fits _), (decode_fill hwf).1⟩
  | idle1 => exact ⟨_, encodeSeqHi_eq _, length_formatA (seqHiInfo_fits _), (decode_fill hwf).2⟩
  | idle2 => exact ⟨_, encodeIdle2_eq, length_formatA idle2Info_fits, decode_idle2⟩

lemma fits_of_encode (h : f.encode mux = .ok bits) : f.Fits mux := by
  cases f with
  | nak => exact encodeNak_fits h
  | _ => trivial

/-! ### What is accepted is well formed -/

lemma tryGetOctets_ok (n : ℕ) : ∀ {pos : ℕ} {data : Bytes},
    tryGetOctets info pos n = .ok data → data.length = n ∧ (0 < n → pos + 8 * n ≤ info.length) := by
  induction n with
  | zero => intro pos data h; cases h; simp
  | succ =>
    intro pos data h
    obtain ⟨b, hb, h⟩ := bind_eq_ok.1 h
    obtain ⟨rest, hr, h⟩ := bind_eq_ok.1 h
    cases h <;> grind [tryGetBits]

lemma index_bit (hbi : IsBits info) (h : (index info i : Outcome RlpError UInt8) = .ok b) : b = 0 ∨ b = 1 := by
  unfold index at h
  split at h
  · rename_i b' hb
    cases h
    exact hbi b (List.mem_of_getElem? hb)
  · cases h

lemma decodeDataUnsegmented_wf (h : decodeDataUnsegmented info mux = .ok f) :
    f.WellFormed mux ∧ f.Fits mux := by
  obtain ⟨seq, -, h⟩ := bind_eq_ok.1 h
  obtain ⟨rexmit, -, h⟩ := bind_eq_ok.1 h
  obtain ⟨len, -, h⟩ := bind_eq_ok.1 h
  split at h
  · cases h
  obtain ⟨data, hd, h⟩ := bind_eq_ok.1 h
  cases h
  have := (tryGetOctets_ok _ hd).1
  exact ⟨show data.length ≤ _ by omega, trivial⟩

lemma decodeSyncAckFrame_wf (hct : ct ≠ .nak)
    (h : decodeSyncAckFrame info seq ct = .ok f) : f.WellFormed mux ∧ f.Fits mux := by
  simp only [decodeSyncAckFrame, bind_eq_ok] at h
  grind [pure_eq, Rlp3Frame.WellFormed, Rlp3Frame.Fits]

lemma decodeNakFrame_wf {info : Bits} (hlen : info.length = mux.infoBits)
    (h : decodeNakFrame info = .ok f) : f.WellFormed mux ∧ f.Fits mux := by
  unfold decodeNakFrame at h
  split at h
  · cases h
  simp only [bind_eq_ok] at h
  obtain ⟨seq, -, nakType, -, seqHi, hhi, ⟨payload, pos⟩, hp, h⟩ := h
  obtain ⟨h1, h4, hr, rfl⟩ := getPayload_ok hp
  have hlt : seqHi < 16 := readBits_lt hhi
  rw [show alignToOctet (20 + _) = payload.fcsPos from rfl] at h
  grind [bind_eq_ok, pure_eq, Rlp3Frame.WellFormed, Rlp3Frame.Fits]

lemma readBits_four (ha : (index info i : Outcome RlpError UInt8) = .ok a)
    (hb : (index info (i + 1) : Outcome RlpError UInt8) = .ok b)
    (hc : (index info (i + 2) : Outcome RlpError UInt8) = .ok c)
    (hd : (index info (i + 3) : Outcome RlpError UInt8) = .ok d) :
    getBits info i 4 = .ok (2 * (2 * (2 * (a.toNat % 2) + b.toNat % 2) + c.toNat % 2) + d.toNat % 2) := by
  have hget : ∀ {j : ℕ} {x : UInt8}, (index info j : Outcome RlpError UInt8) = .ok x → info[j]? = some x := by
    grind [index]
  simp only [readBits, hget hb, hget hc, hget hd, Nat.add_zero, hget ha, ok_bind, Nat.mul_zero, Nat.zero_add]

lemma decodeSegmentedFrame_wf (hlen : info.length = mux.infoBits) (hb : IsBits info)
    (h8 : (index info 8 : Outcome RlpError UInt8) = .ok b8) (hb8 : b8 ≠ 0)
    (h9 : (index info 9 : Outcome RlpError UInt8) = .ok 0) (h10 : (index info 10 : Outcome RlpError UInt8) = .ok 0)
    (h11 : (index info 11 : Outcome RlpError UInt8) = .ok 0)
    (hid : isIdle2Info info = .ok false) (h : decodeSegmentedFrame info = .ok f) :
    f.WellFormed mux ∧ f.Fits mux := by
  have hin : 168 ≤ mux.infoBits := by cases mux <;> decide
  have hctl : getBits info 8 4 = .ok 8 := by
    rcases index_bit hb h8 with rfl | rfl
    · exact absurd rfl hb8
    · rw [readBits_four h8 h9 h10 h11]; rfl
  simp only [decodeSegmentedFrame, bind_eq_ok] at h
  obtain ⟨seq, -, sqi, h12, lastSeg, h13, rexmit, h14, len, hl, h⟩ := h
  split at h <;> simp only [bind_eq_ok] at h
  · rename_i hsqi
    obtain ⟨seqHi, hhi, sSeq, hs, data, hd, h⟩ := h
    cases h
    obtain ⟨hdl, hfit⟩ := tryGetOctets_ok _ hd
    refine ⟨⟨rfl, ?_, readBits_lt hs, ?_, ?_⟩, trivial⟩
    · rintro hi ⟨⟩
      exact readBits_lt hhi
    · change 40 + 8 * data.length ≤ _
      omega
    rintro ⟨-, hla, hrex, rfl⟩
    obtain rfl : len = 0 := hdl.symm
    obtain rfl : lastSeg = 0 := by grind [index_bit]
    obtain rfl : rexmit = 0 := by grind [index_bit]
    unfold isIdle2Info at hid
    rw [if_neg (by omega), hctl, h12, h13, h14, hl, hsqi] at hid
    cases hid
  · obtain ⟨sSeq, hs, data, hd, h⟩ := h
    cases h
    obtain ⟨hdl, hfit⟩ := tryGetOctets_ok _ hd
    refine ⟨⟨rfl, by simp, readBits_lt hs, ?_, fun hl => by cases hl.1⟩, trivial⟩
    change 32 + 8 * data.length ≤ _
    omega

lemma decodeFormatA_wf (hlen : info.length = mux.infoBits) (hb : IsBits info)
    (h : decodeFormatA info mux = .ok f) : f.WellFormed mux ∧ f.Fits mux := by
  unfold decodeFormatA at h
  split at h
  · cases h
  simp only [bind_eq_ok] at h
  obtain ⟨seq, -, b8, h8, h⟩ := h
  split at h
  · exact decodeDataUnsegmented_wf h
  rename_i hb8
  simp only [bind_eq_ok] at h
  obtain ⟨b9, h9, b10, h10, b11, h11, h⟩ := h
  -- the cases of CTL in the order of the decoder: segment, fill, idle, control
  split at h
  · obtain ⟨idle, hid, h⟩ := bind_eq_ok.1 h
    cases idle with
    | true => cases h; exact ⟨trivial, trivial⟩
    | false => grind [decodeSegmentedFrame_wf]
  repeat' split at h
  any_goals
    obtain ⟨seqHi, hhi, h⟩ := bind_eq_ok.1 h
    cases h
    exact ⟨readBits_lt hhi, trivial⟩
  obtain ⟨ctl, -, h⟩ := bind_eq_ok.1 h
  grind [decodeNakFrame_wf, decodeSyncAckFrame_wf]

/-- **What the decoder accepts is well formed and fits a frame.** -/
theorem decodeRlp3Frame_wf (hbi : IsBits bits) (h : decodeRlp3Frame bits mux = .ok f) :
    f.WellFormed mux ∧ f.Fits mux := by
  have hadd := infoBits_add_typeBits mux
  unfold decodeRlp3Frame at h
  split at h
  · cases h
  have hB : ∀ rexmit, decodeFormatB bits mux rexmit = .ok f → f.WellFormed mux ∧ f.Fits mux := by
    intro rexmit h
    simp only [decodeFormatB, bind_eq_ok] at h
    obtain ⟨seq, -, data, hd, h⟩ := h
    cases h
    exact ⟨readOctets_length hd, trivial⟩
  obtain ⟨typeVal, -, h⟩ := bind_eq_ok.1 h
  split at h
  · exact decodeFormatA_wf (by simp; omega) (fun b hb => hbi b (List.mem_of_mem_take hb)) h
  · exact hB _ h
  · exact hB _ h
  · cases h

/-- **The codec round trip.** A well-formed frame is encoded, a NAK when its entries leave room for
the check sequence; the bits of an encoded frame have the size of a frame and decode to it; and
every array of bits that is accepted re-encodes to bits that decode to the same frame. -/
theorem codec_round_trip (mux : MuxOption) (f : Rlp3Frame) :
    (f.WellFormed mux → (∀ seq seqHi payload, f ≠ .nak seq seqHi payload) → ∃ bits, f.encode mux = .ok bits) ∧
    (∀ bits, f.WellFormed mux → f.encode mux = .ok bits →
      bits.length = mux.frameBits ∧ decodeRlp3Frame bits mux = .ok f) ∧
    (∀ bits, IsBits bits → decodeRlp3Frame bits mux = .ok f →
      ∃ bits', f.encode mux = .ok bits' ∧ decodeRlp3Frame bits' mux = .ok f) := by
  refine ⟨?_, ?_, ?_⟩
  · intro hwf hnak
    have hfit : f.Fits mux := by
      cases f with
      | nak seq seqHi payload => exact absurd rfl (hnak seq seqHi payload)
      | _ => trivial
    obtain ⟨bits, hb, -⟩ := encode_of_fits hwf hfit
    exact ⟨bits, hb⟩
  · intro bits hwf henc
    grind [encode_of_fits, fits_of_encode]
  · intro bits hbi hdec
    obtain ⟨hwf, hfit⟩ := decodeRlp3Frame_wf hbi hdec
    grind [encode_of_fits]

/-- At a NAK of two gaps, one of them a single frame. -/
theorem codec_round_trip_nak :
    (Rlp3Frame.nak 7 3 (.gap [⟨100, 102⟩, ⟨4095, 4095⟩])).WellFormed .odd ∧
    ∃ bits, (Rlp3Frame.nak 7 3 (.gap [⟨100, 102⟩, ⟨4095, 4095⟩])).encode .odd = .ok bits ∧ bits.length = 171 ∧
      decodeRlp3Frame bits .odd = .ok (.nak 7 3 (.gap [⟨100, 102⟩, ⟨4095, 4095⟩])) := by
  have hwf : (Rlp3Frame.nak 7 3 (.gap [⟨100, 102⟩, ⟨4095, 4095⟩])).WellFormed .odd := by
    simp [Rlp3Frame.WellFormed, count, NakPayload.InRange, gapCodec]
  obtain ⟨bits, henc⟩ : ∃ bits, (Rlp3Frame.nak 7 3 (.gap [⟨100, 102⟩, ⟨4095, 4095⟩])).encode .odd = .ok bits :=
    ⟨_, encodeNak_eq (by decide)⟩
  obtain ⟨hlen, hdec⟩ := (codec_round_trip .odd _).2.1 bits hwf henc
  exact ⟨hwf, bits, henc, hlen, hdec⟩

/-- A SEQ_HI of more than four bits loses its high bits: a fill frame with 16 there is read back with
0. -/
theorem fill_seqHi_truncated : ∃ bits, (Rlp3Frame.fill 5 16).encode .odd = .ok bits ∧
    decodeRlp3Frame bits .odd = .ok (.fill 5 0) ∧ decodeRlp3Frame bits .odd ≠ .ok (.fill 5 16) :=
  ⟨_, encodeSeqHi_eq _, by decide +kernel, by decide +kernel⟩

end OneXBts.Packet.Rlp3
