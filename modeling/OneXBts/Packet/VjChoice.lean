import OneXBts.Packet.VjCoding

/-!
The choice of the compressor.

The compressor either gives up, and the packet goes out in full, or it sends the octets of a change
(`buildCompressedPacket_cases`). The change that it chose takes the saved header to the new one with one
exception (`apply_chosen`): the two frequent cases say nothing about URG, so that an URG of the saved header
stays.
-/

namespace OneXBts.Packet.Vj

open Lib Packet.Ppp Coding
open Outcome (ok_bind)

/-! ### Flags, bit by bit -/

def bit (f : UInt8) (i : ℕ) : Bool := f.toBitVec.getLsbD i

lemma eq_of_bits (h : ∀ i < 8, bit f i = bit g i) : f = g := UInt8.toBitVec_inj.1 (BitVec.eq_of_getLsbD_eq h)

section Bits

variable (f g : UInt8) {i : ℕ}

lemma bit_zero (i : ℕ) : bit 0 i = false := by simp [bit]

lemma bit_and (i : ℕ) : bit (f &&& g) i = (bit f i && bit g i) := by simp [bit]

lemma bit_or (i : ℕ) : bit (f ||| g) i = (bit f i || bit g i) := by simp [bit]

lemma bit_xor (i : ℕ) : bit (f ^^^ g) i = (bit f i ^^ bit g i) := by simp [bit]

lemma bit_not (hi : i < 8) : bit (~~~f) i = !bit f i := by simp [bit, hi]

lemma bit_tcpPush (hi : i < 8) : bit tcpPush i = decide (i = 3) := by interval_cases i <;> decide

lemma bit_tcpUrg (hi : i < 8) : bit tcpUrg i = decide (i = 5) := by interval_cases i <;> decide

end Bits

lemma and_tcpPush (f : UInt8) : f &&& tcpPush ≠ 0 ↔ bit f 3 = true := by
  constructor
  · intro h
    by_contra hbit
    refine h (eq_of_bits fun i hi => ?_)
    rw [bit_and, bit_tcpPush hi, bit_zero]
    by_cases h3 : i = 3 <;> simp_all
  · intro h hz
    have := congrArg (bit · 3) hz
    simp [bit_and, bit_tcpPush, bit_zero, h] at this

lemma and_tcpUrg (f : UInt8) : f &&& tcpUrg ≠ 0 ↔ bit f 5 = true := by
  constructor
  · intro h
    by_contra hbit
    refine h (eq_of_bits fun i hi => ?_)
    rw [bit_and, bit_tcpUrg hi, bit_zero]
    by_cases h5 : i = 5 <;> simp_all
  · intro h hz
    have := congrArg (bit · 5) hz
    simp [bit_and, bit_tcpUrg, bit_zero, h] at this

lemma bit_withPush (p : Bool) (f : UInt8) (hi : i < 8) :
    bit (withPush p f) i = if i = 3 then p else bit f i := by
  cases p <;> by_cases h : i = 3 <;> simp [withPush, bit_or, bit_and, bit_not, bit_tcpPush, hi, h]

lemma bit_withUrg (u : Bool) (f : UInt8) (hi : i < 8) :
    bit (withUrg u f) i = if i = 5 then u else bit f i := by
  cases u <;> by_cases h : i = 5 <;> simp [withUrg, bit_or, bit_and, bit_not, bit_tcpUrg, hi, h]

section

variable (h : (g ^^^ f) &&& ~~~(tcpPush ||| tcpUrg) = 0)
include h

lemma bit_eq_of_masked (hi : i < 8)
    (h3 : i ≠ 3) (h5 : i ≠ 5) : bit g i = bit f i := by
  have := congrArg (bit · i) h
  simpa [bit_and, bit_xor, bit_not, bit_or, bit_tcpPush, bit_tcpUrg, bit_zero, hi, h3, h5] using this

lemma withUrg_withPush :
    withUrg (g &&& tcpUrg ≠ 0) (withPush (g &&& tcpPush ≠ 0) f) = g := by
  refine eq_of_bits fun i hi => ?_
  rw [bit_withUrg _ _ hi, bit_withPush _ _ hi]
  split_ifs with h5 h3
  · rw [h5, Bool.eq_iff_iff, decide_eq_true_iff, and_tcpUrg]
  · rw [h3, Bool.eq_iff_iff, decide_eq_true_iff, and_tcpPush]
  · exact (bit_eq_of_masked h hi h3 h5).symm

lemma withPush_eq (hurg : g &&& tcpUrg = 0) :
    withPush (g &&& tcpPush ≠ 0) f = g ||| (f &&& tcpUrg) := by
  have hg : bit g 5 = false := by
    rw [← Bool.not_eq_true, ← and_tcpUrg]
    exact not_not.2 hurg
  refine eq_of_bits fun i hi => ?_
  rw [bit_withPush _ _ hi, bit_or, bit_and, bit_tcpUrg hi]
  split_ifs with h3
  · rw [h3, Bool.eq_iff_iff, decide_eq_true_iff, and_tcpPush]
    simp
  · by_cases h5 : i = 5
    · simp [h5, hg]
    · simp [h5, bit_eq_of_masked h hi h3 h5]

end

lemma or_and_tcpUrg_eq (hurg : g &&& tcpUrg = 0) : g ||| (f &&& tcpUrg) = g ↔ f &&& tcpUrg = 0 := by
  refine ⟨fun h => ?_, fun h => by rw [h, UInt8.or_zero]⟩
  rw [← hurg, ← h]
  refine eq_of_bits fun i _ => ?_
  have := congrArg (bit · i) hurg
  simp only [bit_and, bit_or, bit_zero] at this ⊢
  cases hg : bit g i <;> simp_all

/-! ### The choice of the compressor -/

def Vars.urgentSent (w : Vars) : Option UInt16 := if w.flags &&& tcpUrg ≠ 0 then some w.urgent else none

def Vars.differences (v w : Vars) : Coding :=
  .fields w.urgentSent (w.window - v.window) (w.ack - v.ack).toUInt16 (w.seq - v.seq).toUInt16

/-- A coding that the compressor may choose to take the header `v` to the header `w`. -/
structure Chosen (x : Conn) (v w : Vars) (c : Coding) : Prop where
  /-- Of the flags only PSH and URG may have changed. -/
  flags : (w.flags ^^^ v.flags) &&& ~~~(tcpPush ||| tcpUrg) = 0
  urgent : w.flags &&& tcpUrg = 0 → w.urgent = v.urgent
  ack : (w.ack - v.ack).toNat < 2 ^ 16
  seq : (w.seq - v.seq).toNat < 2 ^ 16
  proper : c.Proper
  coding : c = v.differences w ∨
    w.flags &&& tcpUrg = 0 ∧ w.window = v.window ∧ w.seq - v.seq = x.dataLen v ∧
      (c = .echo ∧ w.ack - v.ack = x.dataLen v ∨ c = .bulk ∧ w.ack - v.ack = 0)

lemma addChange_eq (bit : UInt8) (δ : UInt16) (c : UInt8 × Bytes) :
    addChange bit δ c = (c.1 ||| bitIf (δ ≠ 0) bit, c.2 ++ differenceBytes δ) := by
  unfold addChange differenceBytes
  by_cases h : δ = 0 <;> simp [h, bitIf]

lemma toUInt16_eq_zero {δ : UInt32} (h : δ.toNat < 2 ^ 16) : δ.toUInt16 = 0 ↔ δ = 0 := by
  rw [← UInt16.toNat_inj, ← UInt32.toNat_inj, UInt32.toNat_toUInt16, Nat.mod_eq_of_lt h]
  rfl

lemma addChange32_cases (bit : UInt8) (δ : UInt32) (c : UInt8 × Bytes) :
    addChange32 bit δ c = .err () ∨ δ.toNat < 2 ^ 16 ∧ addChange32 bit δ c =
      .ok (c.1 ||| bitIf (δ.toUInt16 ≠ 0) bit, c.2 ++ differenceBytes δ.toUInt16) := by
  unfold addChange32
  by_cases hz : δ = 0
  · simp [hz, differenceBytes, bitIf]
  · grind [UInt32.le_iff_toNat_le, UInt32.not_lt, toUInt16_eq_zero, differenceBytes, bitIf]

section Choice

variable (x : Conn) (v w : Vars) (d : Bytes)

lemma urgentChange_cases : urgentChange (x.parsed w d) ⟨x.header v⟩ x.tcp w.flags = .err () ∨
    (w.flags &&& tcpUrg = 0 → w.urgent = v.urgent) ∧ urgentChange (x.parsed w d) ⟨x.header v⟩ x.tcp w.flags =
        .ok (bitIf w.urgentSent.isSome newU, w.urgentSent.elim [] encodeZeroAllowed) := by
  rw [x.saved v]
  unfold urgentChange Vars.urgentSent
  by_cases hurg : w.flags &&& tcpUrg = 0
  · simp only [hurg, Conn.parsed, x.read_urgent, ok_bind]
    by_cases heq : w.urgent = v.urgent
    · simp [heq, Outcome.failIf, bitIf]
    · simp [heq, Outcome.failIf]
  · simp [hurg, Conn.parsed, x.read_urgent, bitIf]

lemma specialCases_cases (hack : (w.ack - v.ack).toNat < 2 ^ 16) :
    specialCases (x.parsed w d) v.totalLen x.len w.totalLen (w.seq - v.seq) (w.ack - v.ack)
      ((v.differences w).bits, (v.differences w).bytes) = .err () ∨
    ∃ c : Coding, specialCases (x.parsed w d) v.totalLen x.len w.totalLen (w.seq - v.seq) (w.ack - v.ack)
      ((v.differences w).bits, (v.differences w).bytes) = .ok (c.bits, c.bytes) ∧ c.Proper ∧
      (c = v.differences w ∨ w.flags &&& tcpUrg = 0 ∧ w.window = v.window ∧ w.seq - v.seq = x.dataLen v ∧
        (c = .echo ∧ w.ack - v.ack = x.dataLen v ∨ c = .bulk ∧ w.ack - v.ack = 0)) := by
  have hn : w.urgentSent.isSome = false → w.flags &&& tcpUrg = 0 := by
    unfold Vars.urgentSent
    intro h
    by_contra hne
    rw [if_pos hne] at h
    cases h
  have hw : w.window - v.window = 0 → w.window = v.window := by
    intro h
    rwa [UInt16.sub_eq_iff_eq_add, UInt16.zero_add] at h
  have hb : (v.differences w).bits = fieldBits _ _ _ _ := rfl
  unfold specialCases
  dsimp only
  split_ifs with h0 h1 h2 h3 h4
  · exact .inl rfl
  · refine .inr ⟨_, rfl, .inr ?_, .inl rfl⟩
    rw [h0]
    decide
  · exact .inl rfl
  · -- SPECIAL_I
    rw [hb, fieldBits_eq_SA] at h3
    simp only [decide_eq_false_iff_not, not_not] at h3
    exact .inr ⟨.echo, rfl, .inl trivial, .inr ⟨hn h3.1.1, hw h3.1.2.1, h3.2.2, .inl ⟨rfl, h3.2.1 ▸ h3.2.2⟩⟩⟩
  · -- SPECIAL_D
    rw [hb, fieldBits_eq_S] at h4
    simp only [decide_eq_false_iff_not, not_not] at h4
    exact .inr ⟨.bulk, rfl, .inl trivial, .inr ⟨hn h4.1.1, hw h4.1.2.1, h4.2,
      .inr ⟨rfl, (toUInt16_eq_zero hack).1 h4.1.2.2.1⟩⟩⟩
  · exact .inr ⟨_, rfl, .inr (not_or.1 h2), .inl rfl⟩

/-- **The choice**: the compressor gives up, or it sends the octets of a change that it may choose. -/
theorem buildCompressedPacket_cases (hf : x.SameFlow y) (hlen : w.totalLen.toNat = y.len + d.length) :
    buildCompressedPacket (y.parsed w d) ⟨x.header v⟩ = .err () ∨
    x = y ∧ ∃ c : Change, Chosen x v w c.coding ∧ c.ipId = w.ipId - v.ipId ∧
      c.push = decide (w.flags &&& tcpPush ≠ 0) ∧ buildCompressedPacket (y.parsed w d) ⟨x.header v⟩ =
        .ok ⟨pppVjCompressedTcp, c.mask :: (octets16 w.tcpSum ++ (c.bytes ++ d))⟩ := by
  obtain ⟨b, hb, hst⟩ := stableHeaderMatches_spec (ε := Unit) x y v w d
  unfold buildCompressedPacket
  rw [hb]
  cases b with
  | false => exact .inl rfl
  | true =>
    obtain rfl := hst rfl hf
    have hpa : (x.parsed w d).packet = x.header w ++ d := rfl
    have htcp : (x.parsed w d).tcpOffset = x.tcp := rfl
    rw [x.saved v]
    simp only [x.index_first, ok_bind, x.first_len, hpa, htcp, x.index_flags, x.read_window, x.read_ack,
      x.read_seq, x.read_totalLen, x.read_ipId, addChange_eq]
    rw [List.append_nil, x.length_header]
    obtain hu | ⟨hur, hu⟩ := urgentChange_cases x v w d
    · rw [hu]
      exact .inl rfl
    rw [hu, ok_bind]
    by_cases hfl : (w.flags ^^^ v.flags) &&& ~~~(tcpPush ||| tcpUrg) = 0
    swap
    · rw [Outcome.failIf_pos hfl]
      exact .inl rfl
    rw [Outcome.failIf_neg (not_not.2 hfl), ok_bind]
    obtain ha | ⟨hack', ha⟩ := addChange32_cases newA (w.ack - v.ack)
      (bitIf w.urgentSent.isSome newU ||| bitIf (w.window - v.window ≠ 0) newW,
        w.urgentSent.elim [] encodeZeroAllowed ++ differenceBytes (w.window - v.window))
    · rw [ha]
      exact .inl rfl
    rw [ha, ok_bind]
    obtain hs | ⟨hseq', hs⟩ := addChange32_cases newS (w.seq - v.seq)
      ((bitIf w.urgentSent.isSome newU ||| bitIf (w.window - v.window ≠ 0) newW) |||
        bitIf ((w.ack - v.ack).toUInt16 ≠ 0) newA,
        (w.urgentSent.elim [] encodeZeroAllowed ++ differenceBytes (w.window - v.window)) ++
          differenceBytes (w.ack - v.ack).toUInt16)
    · rw [hs]
      exact .inl rfl
    rw [hs, ok_bind]
    have hby : ((w.urgentSent.elim [] encodeZeroAllowed ++ differenceBytes (w.window - v.window)) ++
        differenceBytes (w.ack - v.ack).toUInt16) ++ differenceBytes (w.seq - v.seq).toUInt16 =
        (v.differences w).bytes := by simp [Vars.differences, bytes]
    rw [hby]
    obtain hc | ⟨coding, hc, hpr, hco⟩ := specialCases_cases x v w d hack'
    · left
      erw [hc]
      rfl
    refine .inr ⟨trivial, ⟨coding, w.ipId - v.ipId, decide (w.flags &&& tcpPush ≠ 0)⟩,
      ⟨hfl, hur, hack', hseq', hpr, hco⟩, rfl, rfl, ?_⟩
    erw [hc, ok_bind]
    rw [range_eq (x.getRange_tcpSum w d), show (x.parsed w d).headerLen = x.len from rfl, show (x.parsed w d).totalLen = w.totalLen.toNat from rfl,
      range_eq (x.getRange_data w d hlen)]
    by_cases h1 : w.ipId - v.ipId = 1 <;> by_cases hp : w.flags &&& tcpPush = 0 <;>
      simp [h1, Change.mask, maskOf, Change.bytes]

lemma add_sub16 (a b : UInt16) : b + (a - b) = a := by rw [UInt16.add_comm, UInt16.sub_add_cancel]

lemma add_sub32 (a b : UInt32) : b + (a - b) = a := by rw [UInt32.add_comm, UInt32.sub_add_cancel]

lemma add_sub32_short {a b : UInt32} (h : (a - b).toNat < 2 ^ 16) : b + (a - b).toUInt16.toUInt32 = a := by
  have hs : (a - b).toUInt16.toUInt32 = a - b := by
    apply UInt32.toNat_inj.mp
    rw [UInt16.toNat_toUInt32, UInt32.toNat_toUInt16, Nat.mod_eq_of_lt h]
  rw [hs, add_sub32]

lemma rightSum_congr {v w : Vars} (ht : v.totalLen = w.totalLen) (hid : v.ipId = w.ipId) :
    x.rightSum v = x.rightSum w := by simp [Conn.rightSum, Conn.ipBytes, ht, hid]

lemma Coding.apply_chosen {c : Coding} (h : Chosen x v w c) {f : Vars}
    (hf : f = (v.setTcpSum w.tcpSum).setFlags (withPush (w.flags &&& tcpPush ≠ 0) v.flags)) :
    c.apply x f = ((w.setTotalLen v.totalLen).setIpId v.ipId |>.setIpSum v.ipSum).setFlags
      (if c.IsSpecial then w.flags ||| (v.flags &&& tcpUrg) else w.flags) := by
  have hda : x.dataLen f = x.dataLen v := by rw [hf]; rfl
  obtain rfl | ⟨hurg, hw, hseq, ⟨rfl, hack⟩ | ⟨rfl, hack⟩⟩ := h.coding
  · -- the differences
    have hs : w.urgentSent.isSome = decide (w.flags &&& tcpUrg ≠ 0) := by
      unfold Vars.urgentSent
      split_ifs with hurg <;> simp [hurg]
    have hget : w.urgentSent.getD v.urgent = w.urgent := by grind [Vars.urgentSent, cases Chosen]
    rw [if_neg (show ¬ (v.differences w).IsSpecial from id), hf]
    apply Vars.ext <;> simp only [Vars.differences, apply, hs, Vars.setTotalLen, Vars.setIpId, Vars.setIpSum,
      Vars.setFlags, Vars.setTcpSum, Vars.setSeq, Vars.setAck, Vars.setWindow, Vars.setUrgent,
      add_sub32_short h.ack, add_sub32_short h.seq, add_sub16, withUrg_withPush h.flags, hget]
  · -- SPECIAL_I
    rw [if_pos (show echo.IsSpecial from trivial), apply, hda, hf]
    apply Vars.ext <;> simp only [Vars.setTotalLen, Vars.setIpId, Vars.setIpSum, Vars.setFlags, Vars.setTcpSum,
      Vars.setSeq, Vars.setAck, withPush_eq h.flags hurg, hw, h.urgent hurg]
    · rw [← hseq, add_sub32]
    · rw [← hack, add_sub32]
  · -- SPECIAL_D
    have hsa : v.ack = w.ack := by rw [← add_sub32 w.ack v.ack, hack, UInt32.add_zero]
    rw [if_pos (show bulk.IsSpecial from trivial), apply, hda, hf]
    apply Vars.ext <;> simp only [Vars.setTotalLen, Vars.setIpId, Vars.setIpSum, Vars.setFlags, Vars.setTcpSum,
      Vars.setSeq, withPush_eq h.flags hurg, hw, h.urgent hurg, hsa]
    rw [← hseq, add_sub32]

/-- **The choice is right but for URG**: the change takes the saved header to the new one, except that the
two frequent cases keep an URG of the saved header. -/
theorem apply_chosen {c : Change} (h : Chosen x v w c.coding) (hid : c.ipId = w.ipId - v.ipId)
    (hp : c.push = decide (w.flags &&& tcpPush ≠ 0)) (hlen : w.totalLen.toNat = x.len + d.length)
    (hsum : w.ipSum = x.rightSum w) :
    c.apply x v w.tcpSum d =
      w.setFlags (if c.coding.IsSpecial then w.flags ||| (v.flags &&& tcpUrg) else w.flags) := by
  have ht : UInt16.ofNat (x.len + d.length) = w.totalLen := by rw [← hlen, UInt16.ofNat_toNat]
  unfold Change.apply
  rw [hp, Coding.apply_chosen x v w h rfl, ht, hid]
  apply Vars.ext <;> simp only [Vars.setTotalLen, Vars.setIpId, Vars.setIpSum, Vars.setFlags, add_sub16]
  exact (rightSum_congr x rfl rfl).trans hsum.symm

end Choice

end OneXBts.Packet.Vj
