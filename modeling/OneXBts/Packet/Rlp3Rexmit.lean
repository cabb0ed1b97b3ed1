import OneXBts.Packet.Rlp3Stream

/-!
What becomes of a queued retransmission.

On the supplemental channel an entry leaves the queue only inside the block that is sent. On the fundamental channel it leaves
whether or not it fits into a frame. `keepsRexmit_iff` says in which states the next frame loses nothing.
-/

namespace OneXBts.Packet.Rlp3

open Lib

def MuxOption.maxGaps (mux : MuxOption) : ℕ := (mux.infoBits - 40) / 24

lemma Rlp3Frame.GapNak.encode_iff {f : Rlp3Frame} (h : f.GapNak) (mux : MuxOption) :
    (∃ bits, f.encode mux = .ok bits ∧ bits.length = mux.frameBits) ↔ f.gaps.length ≤ mux.maxGaps := by
  obtain ⟨-, -, -⟩ := h
  rename_i seq seqHi es
  have hf : (NakPayload.gap es).fcsPos + 16 ≤ mux.infoBits ↔ es.length ≤ mux.maxGaps := by
    change alignToOctet (20 + (2 + es.length * 24)) + 16 ≤ mux.infoBits ↔ _
    unfold alignToOctet
    cases mux <;> simp only [MuxOption.maxGaps, MuxOption.infoBits,
      MuxOption.frameBits, MuxOption.typeBits] <;> omega
  change _ ↔ es.length ≤ _
  rw [← hf]
  constructor
  · rintro ⟨bits, henc, -⟩
    exact encodeNak_fits henc
  · intro hfit
    exact ⟨_, encodeNak_eq hfit, length_formatA (by rw [length_nakInfo]; exact hfit)⟩

namespace Rlp3Session

variable {s s' : Rlp3Session}

/-- The frame is the retransmission of a saved frame, whole. -/
def Repeats (f : Rlp3Frame) (e : RexmitEntry) : Prop :=
  f = .data (vR8 e.lSeq) true e.data ∨ f = .dataFormatB (vR8 e.lSeq) true e.data

lemma rexmitFrame_repeats (mux : MuxOption) (e : RexmitEntry) : Repeats (rexmitFrame mux e) e := by
  unfold rexmitFrame
  split
  · exact .inr rfl
  · exact .inl rfl

/-- On the fundamental channel the entry that leaves the queue is in the frame. -/
def FchKeeps (s s' : Rlp3Session) (bits : Bits) : Prop :=
  s'.rexmitQueue = s.rexmitQueue ∨ ∃ e f, s.rexmitQueue = e :: s'.rexmitQueue ∧
    decodeRlp3Frame bits s.config.muxOption = .ok f ∧ Repeats f e

/-- On the supplemental channel the entry that leaves the queue is in the block, or its next segment is
and the remainder is queued. -/
def SchKeeps (s : Rlp3Session) (blockBits : ℕ) (s' : Rlp3Session) (out : Option Bits) : Prop :=
  s'.rexmitQueue = s.rexmitQueue ∨ ∃ i e bits block, s.rexmitQueue[i]? = some e ∧ out = some bits ∧
    bits.length = blockBits ∧ readBlock bits = .ok block ∧
    (Carries block e ∧ s'.rexmitQueue = s.rexmitQueue.eraseIdx i ∨
      ∃ len, CarriesSegment block e len ∧
        s'.rexmitQueue = rexmitRemainder len e ++ s.rexmitQueue.eraseIdx i)

/-- The next frame or block loses no retransmission, and the next full-rate frame is a frame. -/
structure KeepsRexmit (s : Rlp3Session) : Prop where
  fch : ∀ allowPayload s' bits, s.buildDataFrame .full allowPayload = some (s', bits) →
    FchKeeps s s' bits
  sch : ∀ blockBits, ∃ s' out, s.nextSupplementalFrame blockBits = some (s', out) ∧
    SchKeeps s blockBits s' out
  frame : ∃ s' bits, s.nextFrame .full = some (s', bits) ∧ bits.length = s.config.muxOption.frameBits

lemma schKeeps_of_saved (h : s.toTransmitter.Saved) (size : ℕ) : ∃ s' out,
    s.nextSupplementalFrame size = some (s', out) ∧ SchKeeps s size s' out := by
  obtain ⟨s', out, heq, hb⟩ := nextSupplementalFrame_spec h size
  refine ⟨s', out, heq, ?_⟩
  cases hb with
  | nothing ht => exact .inl (by rw [ht])
  | rexmit hi hout hlen hr hcar ht => exact .inr ⟨_, _, _, _, hi, hout, hlen, hr, .inl ⟨hcar, by rw [ht]⟩⟩
  | segment hi hout hlen hr hcar ht => exact .inr ⟨_, _, _, _, hi, hout, hlen, hr, .inr ⟨_, hcar, by rw [ht]⟩⟩
  | new _ _ _ _ ht => exact .inl (by rw [ht]; rfl)

lemma FchFrame.keeps
    (h : FchFrame s allow s' f) (hb : f.encode s.config.muxOption = .ok bits) :
    FchKeeps s s' bits := by
  cases h with
  | control | fill | idle | new => exact .inl rfl
  | @rexmit e rest _ _ hq =>
    obtain ⟨-, hfit, -, hwf⟩ := rexmitFrame_spec s.config.muxOption e
    obtain ⟨bits', henc, -, hdec⟩ := encode_of_fits (hwf bits hb) hfit
    rw [hb] at henc
    cases henc
    exact .inr ⟨e, _, hq, hdec, rexmitFrame_repeats _ e⟩

/-- The next full-rate frame fits: the NAK to be sent has room for its gaps, and otherwise the first
retransmission is no longer than a frame. -/
def NextFits (s : Rlp3Session) : Prop :=
  (∀ f ∈ s.pendingControls.getLast?, f.gaps.length ≤ s.config.muxOption.maxGaps) ∧
    (s.pendingControls = [] →
      ∀ e ∈ s.rexmitQueue.head?, e.data.length ≤ s.config.muxOption.formatBDataLen)

instance (s : Rlp3Session) : Decidable s.NextFits := by unfold NextFits; infer_instance

lemma FchFrame.encode_iff (hs : s.toTransmitter.Saved) (hq : s.toReceiver.Queues Rlp3Frame.GapNak)
    {f : Rlp3Frame} (h : FchFrame s true s' f) :
    (∃ bits, f.encode s.config.muxOption = .ok bits ∧ bits.length = s.config.muxOption.frameBits) ↔ s.NextFits := by
  have hhi : s.lVN / 256 < 16 := by
    have := hq.lVN_lt
    simp only [seqModulus] at this
    omega
  -- a frame that always fits, sent when there is no retransmission
  have hfi : ∀ {f : Rlp3Frame}, s.pendingControls = [] → s.rexmitQueue = [] →
      f.WellFormed s.config.muxOption → f.Fits s.config.muxOption →
      ((∃ bits, f.encode s.config.muxOption = .ok bits ∧
        bits.length = s.config.muxOption.frameBits) ↔ s.NextFits) := by
    intro f hp hr hwf hfit
    obtain ⟨bits, henc, hlen, -⟩ := encode_of_fits hwf hfit
    refine iff_of_true ⟨bits, henc, hlen⟩ ⟨?_, fun _ => ?_⟩
    · rw [hp]; simp
    · rw [hr]; simp
  cases h with
  | control hf =>
    rw [(hq.pending _ (List.mem_of_getLast? hf)).encode_iff]
    constructor
    · intro hlen
      refine ⟨?_, fun hp => ?_⟩ <;> grind
    · exact fun h => h.1 _ hf
  | fill hp hr | idle hp hr => exact hfi hp (hr rfl) hhi trivial
  | @rexmit e rest hp _ hr =>
    obtain ⟨-, hfit, hwf, hok⟩ := rexmitFrame_spec s.config.muxOption e
    constructor
    · rintro ⟨bits, henc, -⟩
      refine ⟨by rw [hp]; simp, fun _ => ?_⟩
      rw [hr]
      rintro _ ⟨rfl⟩
      exact hwf.1 (hok bits henc)
    · intro h
      obtain ⟨bits, henc, hlen, -⟩ := encode_of_fits (hwf.2 (h.2 hp e (by rw [hr]; rfl))) hfit
      exact ⟨bits, henc, hlen⟩
  | new hp hr hne =>
    obtain ⟨hwf, hfit, -⟩ := newDataFrame_spec hs.lVS_lt hne
    exact hfi hp hr hwf hfit

lemma nextFrame_dataTransfer (h : s.state = .dataTransfer) (rate : FrameRate) :
    s.nextFrame rate = s.buildDataFrame rate true := by grind [nextFrame, nextFrameWithPayload, ensureInitialized]

/-- **When a retransmission is lost.** In any data transfer state that a session can reach, the next
frame or block loses no retransmission, and the next full-rate frame is a frame, exactly when the frame
to be sent fits. -/
theorem keepsRexmit_iff (config : Rlp3Config) {log : List (Op × Out)}
    (hrun : Run (steps step) (new config) s log) (hst : s.state = .dataTransfer) :
    s.KeepsRexmit ↔ s.NextFits := by
  obtain ⟨hs, hq⟩ := saved_run hrun
  obtain ⟨s₁, f, hf, heq⟩ := buildDataFrame_full s true
  rw [← FchFrame.encode_iff hs hq hf]
  constructor
  · rintro ⟨-, -, s', bits, hn, hlen⟩
    rw [nextFrame_dataTransfer hst, heq] at hn
    obtain ⟨rfl, hb⟩ := encodeOrEmpty_some hn
    rw [hf.config] at hb
    rcases unwrapOr_encode hb with henc | rfl
    · exact ⟨bits, henc, hlen⟩
    · -- no frame has no bits
      exact absurd hlen (by cases s.config.muxOption <;> decide)
  · rintro ⟨bits, henc, hlen⟩
    have hn : s.buildDataFrame .full true = some (s₁, bits) := by
      rw [heq, encodeOrEmpty, hf.config, henc]
      rfl
    refine ⟨?_, schKeeps_of_saved hs, s₁, bits, by rw [nextFrame_dataTransfer hst, hn], hlen⟩
    intro allowPayload s' bits' h
    cases allowPayload with
    | true =>
      rw [hn] at h
      cases h
      exact hf.keeps henc
    | false =>
      -- without payload the queue is not touched
      rcases buildDataFrame_cases h with ⟨-, rfl⟩ | ⟨-, f, hf, -⟩
      · exact .inl rfl
      cases hf with
      | control | fill | idle | new => exact .inl rfl
      | rexmit _ ha => cases ha

/-- Into the data transfer; octets go out on one of the channels, and the peer asks for the first frame
again. -/
def askedAgain (data : Bytes) (send : Op) : List Op :=
  [.received .odd (.control 0 .sync true false), .received .odd (.data 0 false [0]),
    .sendData data, send, .received .odd (.nak 0 0 (.gap [⟨0, 0⟩]))]

/-- What was sent on the fundamental channel can be sent there again. -/
theorem keepsRexmit_iff_fch : ∃ s log, Run (steps step) (new {}) s log ∧ s.state = .dataTransfer ∧
    s.rexmitQueue.map RexmitEntry.lSeq = [0] ∧ s.NextFits ∧ s.KeepsRexmit := by
  obtain ⟨s, log, hrun, hst, hq, hf⟩ := exists_run step (fun _ _ => True) (new {})
    (askedAgain [7, 7] (.nextFrame .full))
    (fun s _ => s.state = .dataTransfer ∧ s.rexmitQueue.map RexmitEntry.lSeq = [0] ∧ s.NextFits)
    (by decide +kernel)
  exact ⟨s, log, hrun, hst, hq, hf, (keepsRexmit_iff {} hrun hst).2 hf⟩

/-- The 21 octets of a block do not fit into a frame: the next frame is empty, and the retransmission is
gone. -/
theorem rexmit_lost : ∃ s s' log, Run (steps step) (new {}) s log ∧ s.state = .dataTransfer ∧
    s.rexmitQueue = [⟨0, List.replicate 21 7, 0, 0⟩] ∧ s.nextFrame .full = some (s', []) ∧
    s'.rexmitQueue = [] ∧ ¬ s.KeepsRexmit := by
  obtain ⟨s, log, hrun, hst, hq, hn⟩ := exists_run step (fun _ _ => True) (new {})
    (askedAgain (List.replicate 21 7) (.nextSupplementalFrame 346))
    (fun s _ => s.state = .dataTransfer ∧ s.rexmitQueue = [⟨0, List.replicate 21 7, 0, 0⟩] ∧
      (s.nextFrame .full).map (fun x => (x.2, x.1.rexmitQueue)) = some ([], []))
    (by decide +kernel)
  obtain ⟨⟨s', bits⟩, hs', hl⟩ := Option.map_eq_some_iff.1 hn
  obtain ⟨rfl, he⟩ := Prod.mk.inj hl
  refine ⟨s, s', log, hrun, hst, hq, hs', he, ?_⟩
  rintro ⟨-, -, t, bits, h, hlen⟩
  rw [hs'] at h
  cases h
  exact absurd hlen (by cases s.config.muxOption <;> decide)

end Rlp3Session

end OneXBts.Packet.Rlp3
