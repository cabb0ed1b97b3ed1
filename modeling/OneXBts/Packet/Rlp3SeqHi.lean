import OneXBts.Packet.Rlp3Nak

/-!
The high bits of a sequence number.

A new frame that is more than 255 ahead of the peer's `L_V(N)` goes out as a segment with SEQ_HI. `receive_segmented` ignores
it and completes the octet from `L_V(R)`, so the payload is placed at its number only up to 255 ahead of `L_V(R)`.
-/

namespace OneXBts.Packet.Rlp3

open Lib

namespace Receiver

variable {r : Receiver}

/-- The payload is stored at its number, or delivered there, and `L_V(R)` is the next number. -/
def Places (r : Receiver) (lSeq : ℕ) (data : Bytes) (result : Receiver × List RlpEvent) : Prop :=
  result.1.lVR = (lSeq + 1) % seqModulus ∧
    (result.1.reseqBuffer lSeq = some data ∨ r.lVN = lSeq ∧ r.rxBuffer ++ data <+: deliveredBy result.2)

lemma places_computeLSeq (policy : NakPolicy) (hr : r.lVR < seqModulus) (seq8 : UInt8) (data : Bytes) :
    r.Places (r.computeLSeq seq8) data (r.receiveNewData policy seq8 data) := by
  unfold receiveNewData
  rcases newDataCase_computeLSeq hr seq8 with hc | hc | hc
  · have h : r.computeLSeq seq8 = r.lVR ∧ r.lVR = r.lVN := by
      by_contra hn
      rw [newDataCase] at hc
      split_ifs at hc
    rw [hc, newDataBranch, Places, flushDeliveryEvents_fst, delivered_flush, h.1]
    exact ⟨rfl, .inr ⟨h.2.symm, List.prefix_append _ _⟩⟩
  · have h : r.computeLSeq seq8 = r.lVR := by
      by_contra hn
      rw [newDataCase, if_neg fun h => hn h.1, if_neg fun h => hn h.1] at hc
      split_ifs at hc
    rw [hc, h]
    exact ⟨rfl, .inl (Function.update_self ..)⟩
  · rw [hc]
    exact ⟨rfl, .inl (Function.update_self ..)⟩

lemma places_iff (policy : NakPolicy) (hr : r.lVR < seqModulus) (hl : lSeq < seqModulus) (data : Bytes) :
    r.Places lSeq data (r.receiveNewData policy (vR8 lSeq) data) ↔ (lSeq + seqModulus - r.lVR) % seqModulus < 256 := by
  have hseq : r.computeLSeq (vR8 lSeq) = (r.lVR + r.offset (vR8 lSeq)) % 4096 := rfl
  have hmod : r.offset (vR8 lSeq) = (lSeq % 256 + 256 - r.lVR % 256) % 256 := by
    unfold offset
    rw [UInt8.toNat_sub, vR8_toNat, vR8_toNat]
    omega
  have hp := places_computeLSeq policy hr (vR8 lSeq) data
  simp only [seqModulus] at hr hl ⊢
  constructor
  · intro h
    have heq := hp.1.symm.trans h.1
    simp only [seqModulus] at heq
    omega
  · intro hd
    rwa [show r.computeLSeq (vR8 lSeq) = lSeq by omega] at hp

lemma lVR_tickNakTimers (policy : NakPolicy) (r : Receiver) : (r.tickNakTimers policy).1.lVR = r.lVR := by
  have h := (aged_frame policy r).2.1
  rw [tickNakTimers_eq]
  split_ifs
  · exact h
  · rw [flushDeliveryEvents_fst]
    exact h

end Receiver

namespace Rlp3Session

variable {s p : Rlp3Session}

/-- **A segment with SEQ_HI is received as a new frame with its octet alone.** -/
theorem receiveFrame_seqHi (hs : s.lVS < seqModulus) (hhi : s.newDataRequiresSeqHi s.lVS = true)
    (hmux : p.config.muxOption = s.config.muxOption) (hst : p.state = .dataTransfer) :
    ∃ s' bits p' events, s.buildNewDataFrame = some (s', bits) ∧
      p.receiveFrame bits .full = some (p', p.ensureInitialized.tickNakTimers.2 ++ events) ∧
      (p'.toReceiver, events) =
        p.ticked.toReceiver.receiveNewData p.ticked.policy (vR8 s.lVS) (s.txQueue.take s.newDataFrame.2) := by
  have hf : s.newDataFrame.1 = .segmented (vR8 s.lVS) true true false (some (s.lVS / 256)) 0
      (s.txQueue.take s.newDataFrame.2) := by
    unfold newDataFrame
    rw [if_pos hhi]
  have hlen : (s.txQueue.take s.newDataFrame.2).length ≤ maxSegmentedSingleSegmentLen s.config.muxOption := by
    unfold newDataFrame
    rw [if_pos hhi]
    exact (List.length_take_le _ _).trans (Nat.min_le_right _ _)
  have hfit : segHeaderBits true + 8 * (s.txQueue.take s.newDataFrame.2).length ≤ s.config.muxOption.infoBits := by
    revert hlen
    cases s.config.muxOption <;> simp only [maxSegmentedSingleSegmentLen, MuxOption.infoBits, MuxOption.frameBits,
      MuxOption.typeBits, segHeaderBits, if_true] <;> omega
  have hwf : s.newDataFrame.1.WellFormed s.config.muxOption := by
    rw [hf]
    refine ⟨rfl, fun hi h => ?_, by decide, hfit, by simp [LooksIdle2]⟩
    cases h
    simp only [seqModulus] at hs
    omega
  obtain ⟨bits, henc, hbits, hdec⟩ := encode_of_fits hwf (by rw [hf]; trivial)
  have hb : bits ≠ [] := by
    rintro rfl
    revert hbits
    cases s.config.muxOption <;> simp [MuxOption.frameBits]
  rw [← hmux, hf] at hdec
  have hsdu : (p.ticked.frameSdu (.segmented (vR8 s.lVS) true true false (some (s.lVS / 256)) 0
      (s.txQueue.take s.newDataFrame.2))).2 = some ⟨false, vR8 s.lVS, s.txQueue.take s.newDataFrame.2⟩ := by
    simp [frameSdu, receiveSegmented, SegmentReassembly.start, SegmentReassembly.tryAssemble]
  refine ⟨{ s with toTransmitter := s.toTransmitter.takeNew s.newDataFrame.2 }, bits, _, _, ?_,
    (receiveFrame_sdu hst hb hdec hsdu).2, rfl⟩
  unfold buildNewDataFrame encodeOrEmpty
  dsimp only
  rw [henc]
  rfl

/-- The sender's next frame places its payload at the number that the sender gave it. -/
def SeqHiHonoured (s p : Rlp3Session) : Prop :=
  ∃ s' bits p' events, s.buildNewDataFrame = some (s', bits) ∧
    p.receiveFrame bits .full = some (p', p.ensureInitialized.tickNakTimers.2 ++ events) ∧
    p.ticked.Places s.lVS (s.txQueue.take s.newDataFrame.2) (p'.toReceiver, events)

/-- **SEQ_HI is honoured exactly where it is not needed.** -/
theorem seqHi_honoured_iff (s p : Rlp3Session) (hs : s.lVS < seqModulus) (hp : p.lVR < seqModulus)
    (hhi : s.newDataRequiresSeqHi s.lVS = true) (hmux : p.config.muxOption = s.config.muxOption)
    (hst : p.state = .dataTransfer) : s.SeqHiHonoured p ↔ (s.lVS + seqModulus - p.lVR) % seqModulus < 256 := by
  have hlVR : p.ticked.lVR = p.lVR := by
    unfold ticked ensureInitialized
    rw [hst]
    exact Receiver.lVR_tickNakTimers p.policy p.toReceiver
  obtain ⟨s', bits, p', events, hbuild, hrec, heq⟩ := receiveFrame_seqHi hs hhi hmux hst
  rw [← hlVR, ← Receiver.places_iff p.ticked.policy (hlVR ▸ hp) hs (s.txQueue.take s.newDataFrame.2), ← heq]
  constructor
  · rintro ⟨s₁, bits₁, p₁, events₁, hbuild₁, hrec₁, hplaces⟩
    cases hbuild.symm.trans hbuild₁
    have h := Prod.mk.inj (Option.some.inj (hrec.symm.trans hrec₁))
    rwa [h.1, List.append_cancel_left h.2]
  · exact fun h => ⟨s', bits, p', events, hbuild, hrec, h⟩

/-- A sender 256 frames ahead of all that its peer reported. -/
def seqHiSender : Rlp3Session := { config := {}, state := .dataTransfer, lVS := 256, txQueue := [7] }

theorem seqHi_honoured_iff_near :
    seqHiSender.SeqHiHonoured { config := {}, state := .dataTransfer, lVR := 200, lVN := 200 } :=
  (seqHi_honoured_iff seqHiSender { config := {}, state := .dataTransfer, lVR := 200, lVN := 200 } (by decide) (by decide)
    (by decide) rfl rfl).2 (by decide)

/-- A receiver that has seen nothing yet takes frame 256 for frame 0. -/
theorem seqHi_ignored : seqHiSender.newDataRequiresSeqHi seqHiSender.lVS = true ∧
    ¬ seqHiSender.SeqHiHonoured { config := {}, state := .dataTransfer } := by
  refine ⟨by decide, ?_⟩
  rintro ⟨s', bits, p', events, hbuild, hrec, hplaces, -⟩
  obtain ⟨s₁, bits₁, p₁, events₁, hbuild₁, hrec₁, heq⟩ := receiveFrame_seqHi (s := seqHiSender)
    (p := { config := {}, state := .dataTransfer }) (by decide) (by decide) rfl rfl
  cases hbuild.symm.trans hbuild₁
  cases hrec.symm.trans hrec₁
  rw [heq] at hplaces
  revert hplaces
  decide

end Rlp3Session

end OneXBts.Packet.Rlp3
