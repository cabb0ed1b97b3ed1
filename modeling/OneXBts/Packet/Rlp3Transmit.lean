import OneXBts.Packet.Rlp3Nak
import OneXBts.Packet.Rlp3Supplemental

/-!
The transmitting half of a session.

New data leaves through five formats, which take octets off one queue and numbers off one counter. `Transmitter.Saved` is what
every run keeps: what is saved for a retransmission fits into a block, and a retransmission in progress has something left to
send. With it each call is described once (`SchBlock`), by what a peer finds in the frame or block.
-/

namespace OneXBts.Packet.Rlp3

open Lib List
open Outcome (bind_eq_ok pure_eq ok_bind)

/-! ### What a peer can ask for -/

def Rlp3Frame.NakInRange : Rlp3Frame → Prop
  | nak _ seqHi payload => seqHi < 16 ∧ payload.InRange
  | _ => True

section

variable {info bits : Bits} {f : Rlp3Frame} {mux : MuxOption}

lemma decodeNakFrame_ok (h : decodeNakFrame info = .ok f) :
    ∃ seq seqHi payload, f = .nak seq seqHi payload ∧ seqHi < 16 ∧ payload.InRange := by
  unfold decodeNakFrame at h
  split at h
  · cases h
  simp only [bind_eq_ok] at h
  obtain ⟨seq, -, nakType, -, seqHi, hhi, ⟨payload, pos⟩, hp, h⟩ := h
  have hr := (NakPayload.getPayload_ok hp).2.2.1
  have hlt : seqHi < 16 := readBits_lt hhi
  grind [bind_eq_ok, pure_eq]

lemma decodeNakFrame_inRange (h : decodeNakFrame info = .ok f) : f.NakInRange := by
  obtain ⟨seq, seqHi, payload, rfl, hr⟩ := decodeNakFrame_ok h
  exact hr

lemma decodeSyncAckFrame_inRange (h : decodeSyncAckFrame info seq ct = .ok f) : f.NakInRange := by
  simp only [decodeSyncAckFrame, bind_eq_ok] at h
  grind [Rlp3Frame.NakInRange, pure_eq]

lemma decodeSegmentedFrame_inRange (h : decodeSegmentedFrame info = .ok f) : f.NakInRange := by
  simp only [decodeSegmentedFrame, bind_eq_ok] at h
  grind [Rlp3Frame.NakInRange, pure_eq, bind_eq_ok]

lemma decodeFormatA_inRange (h : decodeFormatA info mux = .ok f) : f.NakInRange := by
  unfold decodeFormatA decodeDataUnsegmented at h
  split at h
  · cases h
  · simp only [bind_eq_ok] at h
    grind [Rlp3Frame.NakInRange, pure_eq, bind_eq_ok, decodeSegmentedFrame_inRange, decodeNakFrame_inRange,
      decodeSyncAckFrame_inRange]

lemma decodeRlp3Frame_inRange (h : decodeRlp3Frame bits mux = .ok f) : f.NakInRange := by
  grind [decodeRlp3Frame, decodeFormatB, bind_eq_ok, decodeFormatA_inRange, Rlp3Frame.NakInRange, pure_eq]

lemma tryDecodeFillOrIdle1_inRange (h : tryDecodeFillOrIdle1 bits mux = .ok f) : f.NakInRange := by
  grind [tryDecodeFillOrIdle1, bind_eq_ok, pure_eq, Rlp3Frame.NakInRange]

lemma decodeSubRateControl_inRange (h : decodeSubRateControl info n = .ok f) :
    f.NakInRange := by grind [decodeSubRateControl, bind_eq_ok, decodeNakFrame_inRange, decodeSyncAckFrame_inRange]

lemma decodeSubRateFrame_inRange (h : decodeSubRateFrame bits n = .ok f) :
    f.NakInRange := by
  -- a segment that cannot be read is tried as a control frame
  have hs : ∀ info, decodeSubRateSegmented info n = .ok f → f.NakInRange := by
    grind [decodeSubRateSegmented, bind_eq_ok, decodeSegmentedFrame_inRange, decodeSubRateControl_inRange]
  unfold decodeSubRateFrame at h
  split_ifs at h
  simp only [bind_eq_ok] at h
  grind [Rlp3Frame.NakInRange, pure_eq, bind_eq_ok]

/-- **Whatever is received, a NAK in it asks for numbers of twelve bits.** -/
theorem decodeReceived_inRange (h : Rlp3Session.decodeReceived mux bits rate = .ok f) : f.NakInRange := by
  unfold Rlp3Session.decodeReceived at h
  grind [tryDecodeFillOrIdle1_inRange, decodeRlp3Frame_inRange, decodeSubRateFrame_inRange]

end

/-! ### What is saved -/

/-- A retransmission that has something left to send, and fits into the blocks there are. -/
structure RexmitEntry.Valid (e : RexmitEntry) : Prop where
  lSeq_lt : e.lSeq < seqModulus
  offset_lt : e.segmentOffset < e.data.length
  sSeq_le : e.nextSSeq ≤ e.segmentOffset
  data_le : e.data.length ≤ 42

namespace Transmitter

variable {t : Transmitter}

structure Saved (t : Transmitter) : Prop where
  lVS_lt : t.lVS < seqModulus
  sent : ∀ l, ∀ d ∈ t.sentBuffer l, d ≠ [] ∧ d.length ≤ 42
  rexmit : ∀ e ∈ t.rexmitQueue, e.Valid

lemma saved_new : Saved {} := ⟨by decide, by simp, by simp⟩

lemma Saved.queueRetransmission (h : t.Saved) (hl : l < seqModulus) :
    (t.queueRetransmission l).Saved := by
  unfold Transmitter.queueRetransmission
  split
  · exact h
  split
  · rename_i data hda
    obtain ⟨hne, hle⟩ := h.sent l data hda
    grind [length_pos_iff, RexmitEntry.Valid, cases Transmitter.Saved, intro Transmitter.Saved]
  · exact h

lemma requestedSeqs_lt (h : payload.InRange) :
    ∀ l ∈ requestedSeqs payload, l < seqModulus := by
  have hpos : 0 < seqModulus := by decide
  intro l hl
  cases payload with
  | gap =>
    obtain ⟨e, he, hl⟩ := mem_flatMap.1 hl
    rw [NakGapEntry.seqs_eq (h e he)] at hl
    obtain ⟨j, -, rfl⟩ := mem_seqsFrom.1 hl
    exact Nat.mod_lt _ hpos
  | map =>
    obtain ⟨e, he, hl⟩ := mem_flatMap.1 hl
    rcases mem_cons.1 hl with rfl | hl
    · exact h e he
    grind
  | segmentRange | segmentLength =>
    obtain ⟨e, he, rfl⟩ := mem_map.1 hl
    exact (h e he).1

lemma queueRetransmission_frame (t : Transmitter) (l : ℕ) :
    (t.queueRetransmission l).lVS = t.lVS ∧ (t.queueRetransmission l).txQueue = t.txQueue ∧
      (t.queueRetransmission l).sentBuffer = t.sentBuffer := by
  unfold Transmitter.queueRetransmission
  split
  · exact ⟨rfl, rfl, rfl⟩
  split <;> exact ⟨rfl, rfl, rfl⟩

lemma foldl_queueRetransmission_frame (seqs : List ℕ) : ∀ t : Transmitter,
    (seqs.foldl queueRetransmission t).lVS = t.lVS ∧ (seqs.foldl queueRetransmission t).txQueue = t.txQueue ∧
      (seqs.foldl queueRetransmission t).sentBuffer = t.sentBuffer := by
  induction seqs with
  | nil => intro t; exact ⟨rfl, rfl, rfl⟩
  | cons => grind [queueRetransmission_frame]

lemma Saved.foldl_queueRetransmission (seqs : List ℕ) : ∀ {t : Transmitter}, t.Saved →
    (∀ l ∈ seqs, l < seqModulus) → (seqs.foldl Transmitter.queueRetransmission t).Saved := by
  induction seqs with
  | nil => intro t h _; exact h
  | cons l seqs ih =>
    intro t h hl
    exact ih (h.queueRetransmission (hl l (by simp))) fun l' hl' => hl l' (by simp [hl'])

lemma Saved.processNak (h : t.Saved) (seq : UInt8) (seqHi : ℕ)
    (hr : payload.InRange) : (t.processNak seq seqHi payload).Saved :=
  Saved.foldl_queueRetransmission _ ⟨h.lVS_lt, h.sent, h.rexmit⟩ (requestedSeqs_lt hr)

lemma Saved.takeNew (h : t.Saved) (h1 : 0 < len) (h2 : len ≤ 42) (hne : t.txQueue ≠ []) : (t.takeNew len).Saved := by
  refine ⟨Nat.mod_lt _ (by decide), ?_, h.rexmit⟩
  intro l d hd
  change d ∈ Function.update t.sentBuffer t.lVS (some (t.txQueue.take len)) l at hd
  grind [cases Transmitter.Saved]

lemma Saved.withRexmitQueue (h : t.Saved) (hq : ∀ e ∈ queue, e.Valid) :
    Saved { t with rexmitQueue := queue } := ⟨h.lVS_lt, h.sent, hq⟩

end Transmitter

/-! ### What a peer sees -/

/-- New data in a frame or a block: the low octet of its number, SEQ_HI when present, the payload. -/
structure NewData where
  seq : UInt8
  seqHi : Option ℕ
  data : Bytes
  deriving DecidableEq, Repr

def Rlp3Frame.newData : Rlp3Frame → Option NewData
  | data seq false bytes => some ⟨seq, none, bytes⟩
  | dataFormatB seq false bytes => some ⟨seq, none, bytes⟩
  | segmented seq _ _ false seqHi _ bytes => some ⟨seq, seqHi, bytes⟩
  | _ => none

def Block.newData : Block → Option NewData
  | formatC seq false bytes => some ⟨seq, none, bytes⟩
  | formatD seq seqHi false bytes => some ⟨seq, seqHi, bytes⟩
  | segment seq seqHi _ _ false bytes => some ⟨seq, seqHi, bytes⟩
  | _ => none

def frameNewData (mux : MuxOption) (rate : FrameRate) (bits : Bits) : Option NewData :=
  match (if rate = .full then decodeRlp3Frame bits mux
    else decodeSubRateFrame bits ((subRateInfoBits rate).getD 0)) with
  | .ok frame => frame.newData
  | _ => none

def blockNewData (bits : Bits) : Option NewData :=
  match readBlock bits with
  | .ok block => block.newData
  | _ => none

def sentNew (mux : MuxOption) : Op → Out → Option NewData
  | .nextFrame rate, .frame bits => frameNewData mux rate bits
  | .nextFrameControlOnly rate, .frame bits => frameNewData mux rate bits
  | .nextSupplementalFrame _, .block (some bits) => blockNewData bits
  | _, _ => none

section

variable {mux : MuxOption} {f : Rlp3Frame} {bits : Bits}

lemma frameNewData_full (h : decodeRlp3Frame bits mux = .ok f) :
    frameNewData mux .full bits = f.newData := by
  unfold frameNewData
  rw [if_pos rfl, h]

lemma frameNewData_nil (mux : MuxOption) (rate : FrameRate) : frameNewData mux rate [] = none := by
  cases mux <;> cases rate <;> rfl

lemma unwrapOr_encode (h : (f.encode mux).unwrapOr [] = some bits) :
    f.encode mux = .ok bits ∨ bits = [] := by
  cases he : f.encode mux with
  | ok => rw [he] at h; cases h; exact .inl rfl
  | err => rw [he] at h; cases h; exact .inr rfl
  | panic => rw [he] at h; cases h

lemma frameNewData_encode (h : (f.encode mux).unwrapOr [] = some bits)
    (hwf : f.encode mux = .ok bits → f.WellFormed mux) (hf : f.newData = none) :
    frameNewData mux .full bits = none := by
  grind [unwrapOr_encode, encode_of_fits, fits_of_encode, frameNewData_full, frameNewData_nil]

lemma frameNewData_nak (hnak : f.GapNak) (h : (f.encode mux).unwrapOr [] = some bits) :
    frameNewData mux .full bits = none := by
  obtain ⟨hhi, hne, hr⟩ := hnak
  rename_i seq seqHi es
  rcases unwrapOr_encode h with he | rfl
  · have hfit := encodeNak_fits he
    have henc : (Rlp3Frame.nak seq seqHi (.gap es)).encode mux =
        .ok (formatA mux (nakInfo seq seqHi (.gap es))) := encodeNak_eq hfit
    rw [henc] at he
    cases he
    unfold frameNewData
    rw [decode_nakInfo hfit]
    cases hdec : decodeNakFrame _ with
    | ok =>
      obtain ⟨_, _, _, rfl, -⟩ := decodeNakFrame_ok hdec
      rfl
    | err => rfl
    | panic => rfl
  · exact frameNewData_nil mux .full

end

/-! ### The fundamental channel -/

namespace Rlp3Session

variable {s s' : Rlp3Session}

lemma newDataFrame_spec (hlVS : s.lVS < seqModulus) (hne : s.txQueue ≠ []) :
    s.newDataFrame.1.WellFormed s.config.muxOption ∧ s.newDataFrame.1.Fits s.config.muxOption ∧
    0 < s.newDataFrame.2 ∧ s.newDataFrame.2 ≤ 42 ∧ s.newDataFrame.2 ≤ s.txQueue.length ∧
    ∃ seqHi, s.newDataFrame.1.newData = some ⟨vR8 s.lVS, seqHi, s.txQueue.take s.newDataFrame.2⟩ ∧
      ∀ hi ∈ seqHi, hi = s.lVS / 256 := by
  have hpos := length_pos_iff.2 hne
  have hhi : s.lVS / 256 < 16 := by simp only [seqModulus] at hlVS; omega
  have hmax : s.config.muxOption.maxDataLen + 1 = s.config.muxOption.formatBDataLen ∧
      s.config.muxOption.formatBDataLen ≤ 42 ∧ 0 < s.config.muxOption.maxDataLen := by
    cases s.config.muxOption <;> decide
  have hseg : 0 < maxSegmentedSingleSegmentLen s.config.muxOption ∧
      maxSegmentedSingleSegmentLen s.config.muxOption ≤ 42 ∧
      40 + 8 * maxSegmentedSingleSegmentLen s.config.muxOption ≤ s.config.muxOption.infoBits := by
    cases s.config.muxOption <;> decide
  unfold newDataFrame
  dsimp only
  split
  · refine ⟨⟨rfl, ?_, by decide, ?_, by simp [LooksIdle2]⟩, trivial, by omega, by omega, by omega, _, rfl, ?_⟩
    · intro hi h
      cases h
      exact hhi
    · simp only [segHeaderBits, if_true, length_take]
      omega
    · intro hi h
      cases h
      rfl
  split
  · refine ⟨?_, trivial, by omega, by omega, by omega, _, rfl, by simp⟩
    change (s.txQueue.take _).length = _
    rw [length_take]
    omega
  · refine ⟨?_, trivial, by omega, by omega, by omega, _, rfl, by simp⟩
    change (s.txQueue.take _).length ≤ _
    rw [length_take]
    omega

lemma rexmitFrame_spec (mux : MuxOption) (e : RexmitEntry) :
    (rexmitFrame mux e).newData = none ∧ (rexmitFrame mux e).Fits mux ∧
    ((rexmitFrame mux e).WellFormed mux ↔ e.data.length ≤ mux.formatBDataLen) ∧
    (∀ bits, (rexmitFrame mux e).encode mux = .ok bits → (rexmitFrame mux e).WellFormed mux) := by
  have hmax : mux.maxDataLen + 1 = mux.formatBDataLen := by cases mux <;> rfl
  unfold rexmitFrame
  split
  · rename_i hlen
    refine ⟨rfl, trivial, ?_, fun _ _ => hlen⟩
    change _ = _ ↔ _
    omega
  · refine ⟨rfl, trivial, ?_, ?_⟩
    · change _ ≤ _ ↔ _
      omega
    intro bits h
    change encodeDataUnsegmented _ _ _ _ = _ at h
    unfold encodeDataUnsegmented at h
    split at h
    · cases h
    · change _ ≤ _
      omega

lemma subRateFill (seq : UInt8) (seqHi : ℕ) (h : 16 ≤ n) : ∃ bits, encodeSubRateFill seq seqHi n = .ok bits ∧
      decodeSubRateFrame bits n = .ok (.fill seq (seqHi % 16)) := by
  refine ⟨msb 8 seq.toNat ++ (msb 4 0b1001 ++ (msb 4 (seqHi % 16) ++ blank (n - 16))), ?_, ?_⟩
  · unfold encodeSubRateFill
    rw [if_neg (by omega), cursorAt_nil]
    simp (disch := omega) only [put_cursorAt, ok_bind, nil_append, cursorAt_bits,
      pure_eq, append_assoc, Nat.sub_sub]
  · have hlen : (msb 8 seq.toNat ++ (msb 4 0b1001 ++ (msb 4 (seqHi % 16) ++ blank (n - 16)))).length = n := by
      simp only [length_append, length_msb, length_blank]
      omega
    unfold decodeSubRateFrame getBits
    rw [if_neg (by omega), if_neg (by omega), take_of_length_le (by omega)]
    simp (disch := omega) only [readBits_skip, readBits_msb, ok_bind, Nat.reduceSub, ofNat_mod_256, pure_eq]
    rw [if_pos (by decide), show seqHi % 16 % 2 ^ 4 = seqHi % 16 by omega]

lemma buildDataFrame_subRate (hr : rate ≠ .full) (h : s.buildDataFrame rate allow = some (s', bits)) :
    s' = s ∧ frameNewData s.config.muxOption rate bits = none := by
  unfold buildDataFrame at h
  rw [if_pos hr] at h
  split at h
  · rename_i n hn
    have h16 : 16 ≤ n := by cases rate <;> cases hn <;> decide
    obtain ⟨bits', henc, hdec⟩ := subRateFill (vR8 s.lVN) (s.lVN / 256) h16
    rw [henc] at h
    cases h
    refine ⟨rfl, ?_⟩
    unfold frameNewData
    rw [if_neg hr, hn, Option.getD_some, hdec]
    rfl
  · cases h
    exact ⟨rfl, frameNewData_nil _ _⟩

/-! ### The supplemental channel -/

/-- The block carries the whole of a saved frame, as a retransmission. -/
def Carries (block : Block) (e : RexmitEntry) : Prop :=
  block = .formatC (vR8 e.lSeq) true e.data ∨
    ∃ seqHi, (∀ hi ∈ seqHi, hi = e.lSeq / 256) ∧ block = .formatD (vR8 e.lSeq) seqHi true e.data

/-- The block carries the next `len` octets of a saved frame, as a segment of a retransmission. -/
def CarriesSegment (block : Block) (e : RexmitEntry) (len : ℕ) : Prop :=
  0 < len ∧ e.segmentOffset + len ≤ e.data.length ∧
    block = .segment (vR8 e.lSeq) (if e.segmentOffset = 0 then some (e.lSeq / 256) else none)
      e.nextSSeq (decide (e.segmentOffset + len = e.data.length)) true
      ((e.data.drop e.segmentOffset).take len)

lemma supplementalLens (hc : supplementalFormatCDataLen size = some c)
    (hd : supplementalFormatDDataLen size = some d) : c = d + 2 ∧ d ≤ 40 ∧ 0 < d := by
  grind +splitImp [supplementalFormatCDataLen, supplementalFormatDDataLen]

section

variable {size c d : ℕ} {e : RexmitEntry}

lemma rexmitBlock_spec (hc : supplementalFormatCDataLen size = some c)
    (hd : supplementalFormatDDataLen size = some d) (hv : e.Valid)
    (hel : s.rexmitEligible size c d e = true) (hseg : s.rexmitUsesSegments d e = false) :
    ∃ bits block, s.rexmitBlock size c d e = .ok bits ∧ bits.length = size ∧
      readBlock bits = .ok block ∧ Carries block e := by
  obtain ⟨hcd, -, -⟩ := supplementalLens hc hd
  have hlt := hv.offset_lt
  have hne : e.data ≠ [] := by
    intro h0
    rw [h0] at hlt
    simp at hlt
  have hhi : ∀ hi ∈ (if s.newDataRequiresSeqHi e.lSeq = true then some (e.lSeq / 256) else none),
      hi = e.lSeq / 256 := by
    intro hi h
    split at h <;> cases h
    rfl
  have hl : e.lSeq / 256 < 16 := by
    have := hv.lSeq_lt
    simp only [seqModulus] at this
    omega
  -- not in segs, so the frame starts afresh and fits if it needs SEQ_HI
  simp only [rexmitUsesSegments, Bool.or_eq_false_iff, Bool.and_eq_false_iff] at hseg
  obtain ⟨hoff, hfit⟩ := hseg
  have hlen : e.data.length ≤ d ∨ e.data.length = c ∧ s.newDataRequiresSeqHi e.lSeq = false := by
    simp only [rexmitEligible, Bool.or_eq_true, decide_eq_true_eq, Bool.and_eq_true] at hel
    grind
  unfold rexmitBlock
  rcases hlen with hlen | ⟨hlen, hn⟩
  · rw [if_pos ⟨hne, hlen, .inl (by omega)⟩]
    obtain ⟨bits, henc, hb, hr⟩ := formatD_block (vR8 e.lSeq) true hd hne hlen
      fun hi h => (hhi hi h).trans_lt hl
    exact ⟨bits, _, henc, hb, hr, .inr ⟨_, hhi, rfl⟩⟩
  · rw [if_neg (by omega)]
    obtain ⟨bits, henc, hb, hr⟩ := formatC_block (vR8 e.lSeq) true (hlen ▸ hc)
    exact ⟨bits, _, henc, hb, hr, .inl rfl⟩

lemma rexmitSegment_spec (hd : supplementalFormatDDataLen size = some d) (hv : e.Valid)
    (hmax : supplementalFormatDSegmentDataLen size (e.segmentOffset == 0) = some segmentMax) :
    ∃ bits block, rexmitSegment size (min (e.data.length - e.segmentOffset) segmentMax) e =
        .ok bits ∧ bits.length = size ∧ readBlock bits = .ok block ∧
      CarriesSegment block e (min (e.data.length - e.segmentOffset) segmentMax) := by
  obtain ⟨m, hm, hpos, hlt40, -⟩ := segmentDataLen_eq (e.segmentOffset == 0) hd
  rw [hmax] at hm
  cases hm
  have hlt := hv.offset_lt
  have hs := hv.sSeq_le
  have hle := hv.data_le
  have hl : e.lSeq / 256 < 16 := by
    have := hv.lSeq_lt
    simp only [seqModulus] at this
    omega
  obtain ⟨len, hlen⟩ : ∃ len, len = min (e.data.length - e.segmentOffset) segmentMax := ⟨_, rfl⟩
  have hso : (if e.segmentOffset = 0 then some (e.lSeq / 256) else none).isSome = (e.segmentOffset == 0) := by grind
  have hda : ((e.data.drop e.segmentOffset).take len).length = len := by
    rw [length_take, length_drop]
    omega
  rw [← hlen]
  obtain ⟨bits, henc, hb, hr⟩ := segment_block (vR8 e.lSeq)
    (decide (e.segmentOffset + len = e.data.length)) true hd (hso ▸ hmax)
    (length_pos_iff.1 (by rw [hda]; omega)) (by omega)
    (fun hi h => by split at h <;> cases h; exact hl) (show e.nextSSeq < 4096 by omega)
  exact ⟨bits, _, henc, hb, hr, by omega, by omega, rfl⟩

/-- **A retransmission taken off the queue for the supplemental channel is sent**, as a whole or as its
next segment, and what a segment leaves is put back. -/
theorem supplementalRexmit_spec (hc : supplementalFormatCDataLen size = some c)
    (hd : supplementalFormatDDataLen size = some d) (hv : e.Valid)
    (hel : s.rexmitEligible size c d e = true) :
    ∃ s' bits block, s.supplementalRexmit size c d e = some (s', some bits) ∧
      bits.length = size ∧ readBlock bits = .ok block ∧
      (Carries block e ∧ s'.toTransmitter = s.toTransmitter ∨
        ∃ len, CarriesSegment block e len ∧ s'.toTransmitter = { s.toTransmitter with
          rexmitQueue := rexmitRemainder len e ++ s.rexmitQueue }) := by
  obtain ⟨segmentMax, hmax, -⟩ := segmentDataLen_eq (e.segmentOffset == 0) hd
  unfold supplementalRexmit
  rw [hmax]
  dsimp only
  split
  · obtain ⟨bits, block, henc, hb, hr, hcar⟩ := rexmitSegment_spec hd hv hmax
    rw [if_neg (by have := hcar.2.1; omega), henc]
    exact ⟨_, bits, block, rfl, hb, hr, .inr ⟨_, hcar, rfl⟩⟩
  rename_i hseg
  obtain ⟨bits, block, henc, hb, hr, hcar⟩ := rexmitBlock_spec hc hd hv hel (by simpa using hseg)
  grind

lemma supplementalNew_spec (hc : supplementalFormatCDataLen size = some c)
    (hd : supplementalFormatDDataLen size = some d) (hlVS : s.lVS < seqModulus) :
    ∃ s' block, s.supplementalNew size c d = some (s', block) ∧ (s'.toTransmitter = s.toTransmitter ∧ block = none ∨
        ∃ len bits seqHi, 0 < len ∧ len ≤ 42 ∧ len ≤ s.txQueue.length ∧ block = some bits ∧
          s'.toTransmitter = s.toTransmitter.takeNew len ∧
          blockNewData bits = some ⟨vR8 s.lVS, seqHi, s.txQueue.take len⟩ ∧
          ∀ hi ∈ seqHi, hi = s.lVS / 256) := by
  obtain ⟨hcd, hd40, -⟩ := supplementalLens hc hd
  have hl : s.lVS / 256 < 16 := by simp only [seqModulus] at hlVS; omega
  have hhi : ∀ hi ∈ (if s.newDataRequiresSeqHi s.lVS = true then some (s.lVS / 256) else none),
      hi = s.lVS / 256 := by
    intro hi h
    split at h <;> cases h
    rfl
  unfold supplementalNew
  dsimp only
  split
  · exact ⟨s, none, rfl, .inl ⟨rfl, rfl⟩⟩
  obtain ⟨len, hlen'⟩ : ∃ len, len = s.supplementalNewLen c d := ⟨_, rfl⟩
  have hda : (s.txQueue.take len).length = len := by
    rw [length_take]
    omega
  have hle : len ≤ 42 := by
    rw [hlen', supplementalNewLen]
    split <;> omega
  have hb : ∃ bits block seqHi, s.supplementalNewBlock size c d = .ok bits ∧
      readBlock bits = .ok block ∧ block.newData = some ⟨vR8 s.lVS, seqHi, s.txQueue.take len⟩ ∧
      ∀ hi ∈ seqHi, hi = s.lVS / 256 := by
    unfold supplementalNewBlock
    rw [← hlen']
    split
    · rename_i hD
      have hmax : len ≤ d := by
        rw [hlen', supplementalNewLen, if_pos hD]
        omega
      obtain ⟨bits, henc, -, hr⟩ := formatD_block (vR8 s.lVS) false hd
        (length_pos_iff.1 (by rw [hda]; omega)) (by rw [hda]; exact hmax)
        fun hi h => (hhi hi h).trans_lt hl
      exact ⟨bits, _, _, henc, hr, rfl, hhi⟩
    · rename_i hC
      have hlenC : len = c := by rw [hlen', supplementalNewLen, if_neg hC]
      obtain ⟨bits, henc, -, hr⟩ := formatC_block (vR8 s.lVS) false
        (show _ = some (s.txQueue.take len).length by rw [hda, hlenC, hc])
      exact ⟨bits, _, none, henc, hr, rfl, by simp⟩
  obtain ⟨bits, block, seqHi, henc, hr, hnew, hs⟩ := hb
  rw [henc, ← hlen']
  refine ⟨_, _, rfl, .inr ⟨len, bits, seqHi, by omega, hle, by omega, rfl, rfl, ?_, hs⟩⟩
  unfold blockNewData
  rw [hr]
  exact hnew

end

inductive SchBlock (s : Rlp3Session) (blockBits : ℕ) (s' : Rlp3Session) (out : Option Bits) : Prop
  | nothing (ht : s'.toTransmitter = s.toTransmitter) (hout : out = none)
  /-- A saved frame, whole. -/
  | rexmit {i : ℕ} {e : RexmitEntry} {bits : Bits} {block : Block} (hi : s.rexmitQueue[i]? = some e)
    (hout : out = some bits) (hlen : bits.length = blockBits) (hread : readBlock bits = .ok block)
    (hcar : Carries block e)
    (ht : s'.toTransmitter = { s.toTransmitter with rexmitQueue := s.rexmitQueue.eraseIdx i })
  /-- The next segment of a saved frame; the remainder goes back to the front of the queue. -/
  | segment {i len : ℕ} {e : RexmitEntry} {bits : Bits} {block : Block}
    (hi : s.rexmitQueue[i]? = some e) (hout : out = some bits) (hlen : bits.length = blockBits)
    (hread : readBlock bits = .ok block) (hcar : CarriesSegment block e len)
    (ht : s'.toTransmitter = { s.toTransmitter with
      rexmitQueue := rexmitRemainder len e ++ s.rexmitQueue.eraseIdx i })
  /-- New data. -/
  | new {len : ℕ} {bits : Bits} {seqHi : Option ℕ} (h1 : 0 < len) (h2 : len ≤ 42)
    (h3 : len ≤ s.txQueue.length) (hout : out = some bits)
    (ht : s'.toTransmitter = s.toTransmitter.takeNew len)
    (hnew : blockNewData bits = some ⟨vR8 s.lVS, seqHi, s.txQueue.take len⟩)
    (hhi : ∀ hi ∈ seqHi, hi = s.lVS / 256)

/-- **A call for a block never panics and never loses what it takes off a queue.** -/
theorem nextSupplementalFrame_spec (h : s.toTransmitter.Saved) (size : ℕ) :
    ∃ s' out, s.nextSupplementalFrame size = some (s', out) ∧ SchBlock s size s' out := by
  unfold nextSupplementalFrame
  split
  · rename_i c d hc hd
    split
    · exact ⟨s, none, rfl, .nothing rfl rfl⟩
    split
    · rename_i i hidx
      obtain ⟨hlt, hel, -⟩ := List.findIdx?_eq_some_iff_getElem.1 hidx
      have hget : s.rexmitQueue[i]? = some s.rexmitQueue[i] := List.getElem?_eq_getElem hlt
      have hv := h.rexmit _ (getElem_mem hlt)
      rw [hget]
      obtain ⟨s', bits, block, heq, hlen, hr, hca⟩ := supplementalRexmit_spec (s := { s with
        toTransmitter := { s.toTransmitter with rexmitQueue := s.rexmitQueue.eraseIdx i } })
        hc hd hv hel
      refine ⟨s', some bits, heq, ?_⟩
      rcases hca with ⟨hcar, ht⟩ | ⟨len, hcar, ht⟩
      · exact .rexmit hget rfl hlen hr hcar ht
      · exact .segment hget rfl hlen hr hcar ht
    · obtain ⟨s', out, heq, hca⟩ := supplementalNew_spec hc hd h.lVS_lt
      refine ⟨s', out, heq, ?_⟩
      rcases hca with ⟨ht, hout⟩ | ⟨len, bits, seqHi, h1, h2, h3, hout, ht, hnew, hhi⟩
      · exact .nothing ht hout
      · exact .new h1 h2 h3 hout ht hnew hhi
  · exact ⟨s, none, rfl, .nothing rfl rfl⟩

lemma CarriesSegment.remainder
    (h : CarriesSegment block e len) (hv : e.Valid) : ∀ e' ∈ rexmitRemainder len e, e'.Valid := by
  intro e' he'
  obtain ⟨hpos, hle, -⟩ := h
  grind [rexmitRemainder, cases RexmitEntry.Valid, intro RexmitEntry.Valid]

/-! ### Frames received -/

/-- The transmitter keeps its queue of new data. -/
structure KeepsNew (s s' : Rlp3Session) : Prop where
  lVS : s'.lVS = s.lVS
  txQueue : s'.txQueue = s.txQueue
  sentBuffer : s'.sentBuffer = s.sentBuffer

lemma KeepsNew.of_eq (h : s'.toTransmitter = s.toTransmitter) : KeepsNew s s' := by refine ⟨?_, ?_, ?_⟩ <;> rw [h]

/-- What a received frame can do to the transmitter. -/
inductive ReceiveTransmit (s s' : Rlp3Session) : Prop
  | keep (hs : s'.toTransmitter.Saved) (hk : KeepsNew s s')
  | reset (ht : s'.toTransmitter = {}) (hst : s'.state ≠ .dataTransfer)

lemma receiveSdu_transmitter (s : Rlp3Session) (frame : Rlp3Frame) :
    ((s.frameSdu frame).1.receiveSdu (s.frameSdu frame).2).1.toTransmitter = s.toTransmitter := by
  have hf : (s.frameSdu frame).1.toTransmitter = s.toTransmitter := by
    unfold frameSdu
    split
    · split <;> rfl
    all_goals rfl
  rw [← hf]
  unfold receiveSdu
  split <;> rfl

lemma processDataTransfer_transmitter (h : s.toTransmitter.Saved)
    (hr : frame.NakInRange) : ReceiveTransmit s (s.processDataTransfer frame).1 := by
  have data : ∀ frame, ReceiveTransmit s
      ((s.frameSdu frame).1.receiveSdu (s.frameSdu frame).2).1 := by
    intro frame
    have ht := receiveSdu_transmitter s frame
    exact .keep (ht ▸ h) (.of_eq ht)
  unfold processDataTransfer
  split
  · exact .reset rfl (by simp [initializeSession])
  cases frame with
  | nak seq seqHi payload =>
    obtain ⟨h1, h2, h3⟩ := Transmitter.foldl_queueRetransmission_frame
      (Transmitter.requestedSeqs payload) { s.toTransmitter with lVNPeer := seqHi * 256 + seq.toNat }
    exact .keep (h.processNak seq seqHi hr.2) ⟨h1, h2, h3⟩
  | fill => exact .keep ⟨h.lVS_lt, h.sent, h.rexmit⟩ ⟨rfl, rfl, rfl⟩
  | control | data | segmented | dataFormatB | idle1 | idle2 => exact data _

lemma processFrame_transmitter (h : s.toTransmitter.Saved)
    (hr : frame.NakInRange) : ReceiveTransmit s (s.processFrame frame).1 := by
  have keep : ∀ {s' : Rlp3Session}, s'.toTransmitter = s.toTransmitter → ReceiveTransmit s s' :=
    fun ht => .keep (ht ▸ h) (.of_eq ht)
  -- entering the data transfer changes the state only
  have he : ReceiveTransmit s (s.enterAndProcess frame).1 := by
    have he : s.enterDataTransfer.toTransmitter.Saved := h
    cases processDataTransfer_transmitter he hr with
    | keep hs hk => exact .keep hs ⟨hk.lVS, hk.txQueue, hk.sentBuffer⟩
    | reset ht hst => exact .reset ht hst
  unfold processFrame
  split
  · exact keep rfl
  · unfold processSyncState
    split <;> exact keep rfl
  · unfold processSyncAckState
    grind [Rlp3Session.enterDataTransfer, Rlp3Session.measureDelay]
  · unfold processAckState
    split
    · exact keep rfl
    · exact .reset rfl (by simp [initializeSession])
    · split
      · exact he
      · exact keep rfl
  · exact processDataTransfer_transmitter h hr

lemma receiveFrame_transmitter (h : s.toTransmitter.Saved) (hf : s.receiveFrame bits rate = some (s', events)) :
    ReceiveTransmit s.ticked s' := by
  have ht : s.ticked.toTransmitter.Saved := by
    change s.ensureInitialized.toTransmitter.Saved
    unfold ensureInitialized
    split
    · exact Transmitter.saved_new
    · exact h
  rw [receiveFrame_eq] at hf
  split at hf
  · cases hf
    exact .keep ht (.of_eq rfl)
  split at hf
  · cases hf
  · cases hf
    exact .keep ht (.of_eq rfl)
  rename_i frame hdec
  cases hf
  unfold reinitialize
  split
  · -- a SYNC that asks for it starts the exchange again
    rename_i hre
    obtain ⟨seq, ct, incl, hct, rfl⟩ := shouldReinitialize_cases hre
    rcases hct with rfl | rfl
    all_goals exact .reset rfl (by simp [processFrame, processSyncState, initializeSession])
  · exact processFrame_transmitter ht (decodeReceived_inRange hdec)

end Rlp3Session

end OneXBts.Packet.Rlp3
