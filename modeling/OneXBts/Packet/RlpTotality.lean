import OneXBts.Packet.Rlp2Frames

/-!
Which inputs make the decoders of RLP Type 1 and Type 2 panic.

The length of the input is checked once, against the size of the frame. Every branch but one stays
inside that size: a Type 1 control frame takes 48 bits and a Type 2 NAK takes 60, and the quarter-rate
frames are shorter. `ShortControl` and `ShortNak` are the inputs that get there.
-/

namespace OneXBts.Packet

open Lib
open Packet.Rlp (RlpRate RlpMuxOption)
open Outcome (bind_ne_panic ok_bind panic_bind)

variable {bits : Bits} {seq : UInt8} {rate : RlpRate} {mux : RlpMuxOption}

/-! ### Type 1 -/

namespace Rlp

lemma decodeIdle_ne_panic (h : 16 ≤ bits.length) : decodeIdle bits ≠ .panic := by
  refine readBits_bind_ne_panic (by omega) fun seq => ?_
  refine readBits_bind_ne_panic (by omega) fun fcs => ?_
  obtain ⟨expected, hexp⟩ := nordstromRobinsonFcs_ok (ε := Unit) (UInt8.ofNat seq)
  rw [hexp, ok_bind]
  split <;> simp

lemma decodeData_ne_panic (h : 16 + 8 * maxLenForRate rate mux ≤ bits.length) :
    decodeData bits seq rate mux ≠ .panic := by
  refine readBits_bind_ne_panic (by omega) fun len => ?_
  split
  · simp
  split
  · simp
  exact bind_ne_panic (readOctets_ne_panic (by omega)) fun data _ => by simp

lemma decodeSegmented_ne_panic (h : 16 + 8 * maxLenForRateSegmented rate mux ≤ bits.length) :
    decodeSegmented bits seq rate mux ≠ .panic := by
  refine readBits_bind_ne_panic (by omega) fun ctl4 => ?_
  split
  · simp
  split
  · simp
  refine readBits_bind_ne_panic (by omega) fun len => ?_
  split
  · simp
  split
  · simp
  exact bind_ne_panic (readOctets_ne_panic (by omega)) fun data _ => by simp

lemma decodeControl_eq_panic_iff (h : 40 ≤ bits.length) : decodeControl bits seq = .panic ↔
    bits.length < 48 ∧ ∃ t : ControlType, (readBits bits 8 6 : Outcome Unit ℕ) = .ok t.ctlBits := by
  obtain ⟨ctl, hctl, -⟩ := readBits_ok (ε := Unit) bits 8 6 (by omega)
  unfold decodeControl
  rw [hctl, ok_bind]
  cases ht : ControlType.fromCtlBits ctl with
  | none =>
    refine iff_of_false (by simp) ?_
    rintro ⟨-, t, hok⟩
    cases hok
    rw [ControlType.fromCtlBits_eq_some.2 rfl] at ht
    cases ht
  | some t =>
    rw [ControlType.fromCtlBits_eq_some] at ht
    subst ht
    by_cases hlen : bits.length < 48
    · refine iff_of_true ?_ ⟨hlen, t, rfl⟩
      refine readBits_bind_panic fun mode => readBits_bind_panic fun first => readBits_bind_panic fun last =>
        readBits_bind_panic fun lo => ?_
      rw [readBits_panic bits 40 8 (by omega) (by omega), panic_bind]
    · refine iff_of_false ?_ fun h => hlen h.1
      refine readBits_bind_ne_panic (by omega) fun mode => ?_
      refine readBits_bind_ne_panic (by omega) fun first => ?_
      refine readBits_bind_ne_panic (by omega) fun last => ?_
      refine readBits_bind_ne_panic (by omega) fun lo => ?_
      refine readBits_bind_ne_panic (by omega) fun hi => ?_
      refine bind_ne_panic (slice_ne_panic (by omega)) fun covered _ => ?_
      split <;> simp

/-- The input is read as a control frame and ends before its check sequence does. -/
def EndsInControl (bits : Bits) : Prop :=
  bits.length < 48 ∧ bits[8]? ≠ some 0 ∧ bits[9]? = some 1 ∧
    ∃ t : ControlType, (readBits bits 8 6 : Outcome Unit ℕ) = .ok t.ctlBits

lemma decodeNonFullRate_eq_panic_iff (h : 40 ≤ bits.length)
    (hda : 16 + 8 * maxLenForRate rate mux ≤ bits.length)
    (hseg : 16 + 8 * maxLenForRateSegmented rate mux ≤ bits.length) :
    decodeNonFullRate bits rate mux = .panic ↔ EndsInControl bits := by
  obtain ⟨seq, hseq, -⟩ := readBits_ok (ε := Unit) bits 0 8 (by omega)
  have h8 : bits[8]? = some (bits.get ⟨8, by omega⟩) := List.getElem?_eq_getElem _
  have h9 : bits[9]? = some (bits.get ⟨9, by omega⟩) := List.getElem?_eq_getElem _
  grind [decodeNonFullRate, EndsInControl, index_ok, ok_bind, decodeData_ne_panic,
    decodeControl_eq_panic_iff, decodeSegmented_ne_panic]

lemma decodeFullRate_ne_panic (h : mux.primaryBits .full ≤ bits.length) :
    decodeFullRate bits mux ≠ .panic := by
  have hs : mux.fullInformationBits + mux.typeBits = mux.primaryBits .full ∧
      8 + 8 * mux.formatBOctets ≤ mux.primaryBits .full ∧ 48 ≤ mux.primaryBits .full ∧
      16 + 8 * maxLenForRate .full mux ≤ mux.primaryBits .full ∧
      16 + 8 * maxLenForRateSegmented .full mux ≤ mux.primaryBits .full := by cases mux <;> decide
  refine readBits_bind_ne_panic (by omega) fun frameType => ?_
  split
  · rw [Ne, decodeNonFullRate_eq_panic_iff (by omega) (by omega) (by omega)]
    exact fun hend => absurd hend.1 (by omega)
  split
  · refine readBits_bind_ne_panic (by omega) fun seq => ?_
    exact bind_ne_panic (readOctets_ne_panic (by omega)) fun data _ => by simp
  · simp

/-- A quarter-rate control frame of multiplex option 1, with fewer than the 48 bits of its layout. -/
def ShortControl (bits : Bits) (rate : RlpRate) (mux : RlpMuxOption) : Prop :=
  mux = .one ∧ rate = .quarter ∧ 40 ≤ bits.length ∧ EndsInControl bits

/-- **When the Type 1 decoder panics.** -/
theorem decodeFrameForMux_eq_panic_iff :
    decodeFrameForMux bits rate mux = .panic ↔ ShortControl bits rate mux := by
  unfold decodeFrameForMux
  split
  · grind [Rlp.ShortControl, Rlp.RlpMuxOption.primaryBits]
  rename_i hge
  rw [not_lt] at hge
  cases rate with
  | full => exact iff_of_false (decodeFullRate_ne_panic hge) fun h => by cases h.2.1
  | eighth =>
    refine iff_of_false (decodeIdle_ne_panic ?_) fun h => by cases h.2.1
    cases mux <;> simp only [RlpMuxOption.primaryBits] at hge <;> omega
  | half =>
    have hs : 48 ≤ bits.length ∧ 16 + 8 * maxLenForRate .half mux ≤ bits.length ∧
        16 + 8 * maxLenForRateSegmented .half mux ≤ bits.length := by
      cases mux <;> simp only [RlpMuxOption.primaryBits, maxLenForRate, maxLenForRateSegmented] at * <;>
        omega
    obtain ⟨h48, hda, hseg⟩ := hs
    rw [decodeNonFullRate_eq_panic_iff (by omega) hda hseg]
    exact iff_of_false (fun h => absurd h.1 (by omega)) fun h => by cases h.2.1
  | quarter =>
    have hs : 40 ≤ bits.length ∧ 16 + 8 * maxLenForRate .quarter mux ≤ bits.length ∧
        16 + 8 * maxLenForRateSegmented .quarter mux ≤ bits.length := by
      cases mux <;> simp only [RlpMuxOption.primaryBits, maxLenForRate, maxLenForRateSegmented] at * <;>
        omega
    obtain ⟨h40, hda, hseg⟩ := hs
    dsimp only
    rw [decodeNonFullRate_eq_panic_iff h40 hda hseg]
    cases mux <;> grind [Rlp.EndsInControl, Rlp.ShortControl, Rlp.maxLenForRateSegmented]

end Rlp

/-! ### Type 2 -/

namespace Rlp2

lemma decodeIdle_ne_panic (h : 16 ≤ bits.length) : decodeIdle bits ≠ .panic := by
  refine readBits_bind_ne_panic (by omega) fun seq => ?_
  refine readBits_bind_ne_panic (by omega) fun fcs => ?_
  obtain ⟨expected, hexp⟩ := Rlp.nordstromRobinsonFcs_ok (ε := Unit) (UInt8.ofNat seq)
  rw [hexp, ok_bind]
  split <;> simp

lemma decodeData_ne_panic (h : 16 + 8 * maxLenForRate rate mux ≤ bits.length) :
    decodeData bits seq rate mux ≠ .panic := by
  refine bind_ne_panic (index_ne_panic (by omega)) fun rexmit _ => ?_
  refine readBits_bind_ne_panic (by omega) fun len => ?_
  split
  · simp
  exact bind_ne_panic (readOctets_ne_panic (by omega)) fun data _ => by simp

lemma decodeControl_ne_panic (h : 32 ≤ bits.length) :
    decodeControl bits seq controlType ≠ .panic := by
  refine readBits_bind_ne_panic (by omega) fun mode => ?_
  refine readBits_bind_ne_panic (by omega) fun received => ?_
  refine bind_ne_panic (slice_ne_panic (by omega)) fun covered _ => ?_
  split <;> simp

lemma decodeNak_eq_panic_iff (h : 40 ≤ bits.length) : decodeNak bits seq = .panic ↔
    bits.length < 60 ∧ (readBits bits 14 2 : Outcome Unit ℕ) = .ok 0b00 := by
  obtain ⟨nakType, ht, -⟩ := readBits_ok (ε := Unit) bits 14 2 (by omega)
  unfold decodeNak
  rw [ht, ok_bind]
  by_cases hr : nakType = 0
  · rw [if_neg (by simpa using hr), hr]
    by_cases hlen : bits.length < 60
    · refine iff_of_true ?_ ⟨hlen, rfl⟩
      -- LAST may be cut off already
      refine readBits_bind_panic fun lSeqHi => readBits_bind_panic fun first => readBits_bind_panic fun last => ?_
      rw [readBits_panic bits 44 16 (by omega) (by omega), panic_bind]
    · refine iff_of_false ?_ fun h => hlen h.1
      refine readBits_bind_ne_panic (by omega) fun lSeqHi => ?_
      refine readBits_bind_ne_panic (by omega) fun first => ?_
      refine readBits_bind_ne_panic (by omega) fun last => ?_
      refine readBits_bind_ne_panic (by omega) fun received => ?_
      refine bind_ne_panic (slice_ne_panic (by omega)) fun covered _ => ?_
      split <;> simp
  grind

/-- The input is read as a range NAK and ends before its check sequence does. -/
def EndsInNak (bits : Bits) : Prop :=
  bits.length < 60 ∧ bits[8]? ≠ some 0 ∧ bits[9]? ≠ some 0 ∧
    (readBits bits 8 6 : Outcome Unit ℕ) = .ok 0b110000 ∧
    (readBits bits 14 2 : Outcome Unit ℕ) = .ok 0b00

lemma decodeInformation_eq_panic_iff (h : 40 ≤ bits.length)
    (hda : 16 + 8 * maxLenForRate rate mux ≤ bits.length) :
    decodeInformation bits rate mux = .panic ↔ EndsInNak bits := by
  obtain ⟨seq, hseq, -⟩ := readBits_ok (ε := Unit) bits 0 8 (by omega)
  obtain ⟨ctl, hctl, -⟩ := readBits_ok (ε := Unit) bits 8 6 (by omega)
  have h8 : bits[8]? = some (bits.get ⟨8, by omega⟩) := List.getElem?_eq_getElem _
  have h9 : bits[9]? = some (bits.get ⟨9, by omega⟩) := List.getElem?_eq_getElem _
  unfold decodeInformation EndsInNak
  rw [hseq, index_ok (by omega : 8 < bits.length), ok_bind, ok_bind, h8, h9]
  by_cases hdi : bits.get ⟨8, by omega⟩ = 0
  · rw [hdi]
    exact iff_of_false (decodeData_ne_panic hda) fun h => h.2.1 rfl
  rw [if_neg hdi, index_ok (by omega : 9 < bits.length), ok_bind]
  by_cases hbit : bits.get ⟨9, by omega⟩ = 0
  · rw [hbit]
    exact iff_of_false (by simp) fun h => h.2.2.1 rfl
  rw [if_neg hbit, hctl, ok_bind]
  have hctl' : ∀ {t}, Rlp2ControlType.fromCtlBits ctl = some t → ctl = t.ctlBits :=
    Rlp2ControlType.fromCtlBits_eq_some.1
  split
  · -- no control frame has this CTL
    rename_i hn
    refine iff_of_false (by simp) ?_
    rintro ⟨-, -, -, hnak, -⟩
    cases hnak
    cases hn
  · rename_i hnak
    rw [decodeNak_eq_panic_iff h, hctl' hnak]
    exact ⟨fun h => ⟨h.1, fun h0 => hdi (Option.some.inj h0), fun h0 => hbit (Option.some.inj h0), rfl,
      h.2⟩, fun h => ⟨h.1, h.2.2.2.2⟩⟩
  · rename_i t hne ht
    refine iff_of_false (decodeControl_ne_panic (by omega)) ?_
    rintro ⟨-, -, -, hnak, -⟩
    cases hnak
    cases ht
    exact hne rfl

lemma decodeFullRate_ne_panic (h : mux.primaryBits .full ≤ bits.length) :
    decodeFullRate bits mux ≠ .panic := by
  have hs : mux.fullInformationBits + mux.typeBits = mux.primaryBits .full ∧
      8 + 8 * mux.formatBOctets ≤ mux.primaryBits .full ∧ 60 ≤ mux.primaryBits .full ∧
      16 + 8 * maxLenForRate .full mux ≤ mux.primaryBits .full := by cases mux <;> decide
  refine readBits_bind_ne_panic (by omega) fun frameType => ?_
  split
  · rw [Ne, decodeInformation_eq_panic_iff (by omega) (by omega)]
    exact fun hend => absurd hend.1 (by omega)
  split
  · refine readBits_bind_ne_panic (by omega) fun seq => ?_
    exact bind_ne_panic (readOctets_ne_panic (by omega)) fun data _ => by simp
  · simp

/-- A quarter-rate range NAK, with fewer than the 60 bits of its layout. -/
def ShortNak (bits : Bits) (rate : RlpRate) (mux : RlpMuxOption) : Prop :=
  rate = .quarter ∧ mux.primaryBits .quarter ≤ bits.length ∧ EndsInNak bits

/-- **When the Type 2 decoder panics.** -/
theorem decodeFrameForMux_eq_panic_iff :
    decodeFrameForMux bits rate mux = .panic ↔ ShortNak bits rate mux := by
  unfold decodeFrameForMux
  split
  · refine iff_of_false (by simp) ?_
    rintro ⟨rfl, h, -⟩
    omega
  rename_i hge
  rw [not_lt] at hge
  cases rate with
  | full => exact iff_of_false (decodeFullRate_ne_panic hge) fun h => by cases h.1
  | eighth =>
    refine iff_of_false (decodeIdle_ne_panic ?_) fun h => by cases h.1
    cases mux <;> simp only [RlpMuxOption.primaryBits] at hge <;> omega
  | half =>
    have hs : 60 ≤ bits.length ∧ 16 + 8 * maxLenForRate .half mux ≤ bits.length := by
      cases mux <;> simp only [RlpMuxOption.primaryBits, maxLenForRate, Rlp.maxLenForRate] at * <;>
        omega
    rw [decodeInformation_eq_panic_iff (by omega) hs.2]
    exact iff_of_false (fun h => absurd h.1 (by omega)) fun h => by cases h.1
  | quarter =>
    have hs : 40 ≤ bits.length ∧ 16 + 8 * maxLenForRate .quarter mux ≤ bits.length := by
      cases mux <;> simp only [RlpMuxOption.primaryBits, maxLenForRate, Rlp.maxLenForRate] at * <;>
        omega
    grind [decodeInformation_eq_panic_iff, Rlp2.ShortNak]

end Rlp2

/-! ### Both decoders -/

/-- **Both decoders are total exactly off the short control frames and NAKs.** -/
theorem rlp_decoders_total_iff (bits : Bits) (rate : RlpRate) (mux : RlpMuxOption) :
    Rlp.decodeFrameForMux bits rate mux ≠ .panic ∧ Rlp2.decodeFrameForMux bits rate mux ≠ .panic ↔
      ¬ Rlp.ShortControl bits rate mux ∧ ¬ Rlp2.ShortNak bits rate mux :=
  and_congr (not_congr Rlp.decodeFrameForMux_eq_panic_iff)
    (not_congr Rlp2.decodeFrameForMux_eq_panic_iff)

/-- The encoders make such frames: they cut the information field off at the size of the frame. -/
theorem rlp_decoders_panic :
    (∃ bits, Rlp.encodeFrameForMux (.control 0 .sync 0 0 0) .quarter .one = .ok bits ∧
      Rlp.decodeFrameForMux bits .quarter .one = .panic) ∧
    ∃ bits, Rlp2.encodeFrameForMux (.nak 0 0 5 7) .quarter .two = .ok bits ∧
      Rlp2.decodeFrameForMux bits .quarter .two = .panic := by
  refine ⟨⟨msb 8 0 ++ msb 6 0b110100 ++ blank 18 ++ msb 8 0xD1, ?_, ?_⟩,
    ⟨msb 8 0 ++ msb 6 0b110000 ++ blank 6 ++ msb 12 5 ++ msb 12 7 ++ msb 10 0b1011011001, ?_, ?_⟩⟩
  all_goals decide +kernel

end OneXBts.Packet
