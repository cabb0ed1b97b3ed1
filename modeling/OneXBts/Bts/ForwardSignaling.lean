import OneXBts.Bts.ForwardCodec

/-!
Default signaling that is built anew.

A packet with default signaling is packed again by building the message that was recognized in it from its fields, and one
with an RTCAck from the sequence number. Both read only some bits of the packet, so that just those packets survive in
which the others are what the encoder writes.
-/

namespace OneXBts.Bts.Hrpd

open Lib Common Common.HrpdTraffic DefaultSignalingPacket

/-! ### Signaling packets, octet by octet -/

section Octets

variable {v w r : ℕ}

lemma readField_octet (front : Bytes) (b : UInt8) (back : Bytes) (off w r : ℕ) (h : off + w + r = 8) :
    readField (octetBits (front ++ b :: back)) (8 * front.length + off) w = some (b.toNat / 2 ^ r % 2 ^ w) := by
  have hs : msb 8 b.toNat = msb off (b.toNat / 2 ^ (w + r)) ++ (msb w (b.toNat / 2 ^ r) ++ msb r b.toNat) := by
    rw [← h, Nat.add_assoc, msb_append, msb_append]
  have hlen : (octetBits (front ++ b :: back)).length = 8 * front.length + 8 + 8 * back.length := by
    simp
    omega
  unfold readField
  rw [if_neg (by omega), octetBits_append, ← length_octetBits, List.drop_append, Nat.add_sub_cancel_left, octetBits_cons,
    List.drop_eq_nil_of_le (Nat.le_add_right _ _), List.nil_append, hs, List.append_assoc,
    List.drop_left' (length_msb _ _), List.append_assoc, List.take_left' (length_msb _ _), readU64_msb]

end Octets

def snpMessage (reliableSequenceNumber ackSequenceNumber : Option UInt8) : Bytes → Option DefaultSignalingPacket
  | [] => none
  | header :: payload =>
    some ⟨(header.toNat % 128).toUInt8, payload, reliableSequenceNumber, ackSequenceNumber, header.toNat / 128 ≠ 0⟩

lemma parseSnpPacket_octets (front back : Bytes) (reliable ack : Option UInt8) :
    parseSnpPacket (octetBits (front ++ back)) (8 * front.length) reliable ack = snpMessage reliable ack back := by
  have hlen : (octetBits (front ++ back)).length = 8 * front.length + 8 * back.length := by
    simp
    omega
  unfold parseSnpPacket
  cases back with
  | nil => rw [if_pos (by simp)]; rfl
  | cons header payload =>
    have hc := readField_octet front header payload 0 1 7 rfl
    have hp := readField_octet front header payload 1 7 0 rfl
    have hdr : (octetBits (front ++ header :: payload)).drop (8 * front.length + 8) = octetBits payload := by
      rw [octetBits_append, octetBits_cons, ← List.append_assoc, List.drop_left' (by simp)]
    rw [if_neg (by simp), hp, ← Nat.add_zero (8 * front.length), hc]
    simp only [Option.bind_eq_bind, Option.bind_some, hdr, map_unpackU8_chunks]
    rw [if_neg (by omega)]
    have := header.toNat_lt
    simp only [Nat.pow_zero, Nat.div_one]
    congr 3
    apply propext
    omega

def slpMessage : Bytes → Option DefaultSignalingPacket
  | [] => none
  | header :: message =>
    snpMessage (if header.toNat / 8 % 2 ≠ 0 then some (header.toNat % 8).toUInt8 else none)
      (if header.toNat / 128 ≠ 0 then some (header.toNat / 16 % 8).toUInt8 else none) message

section Parse

variable {first header : UInt8} {rest : Bytes}

lemma readField_header (first : UInt8) (rest : Bytes) :
    readField (octetBits (first :: rest)) 0 2 = some (first.toNat / 64 % 4) ∧
      readField (octetBits (first :: rest)) 2 4 = some (first.toNat / 4 % 16) ∧
      readField (octetBits (first :: rest)) 6 1 = some (first.toNat / 2 % 2) ∧
      readField (octetBits (first :: rest)) 7 1 = some (first.toNat / 1 % 2) :=
  ⟨readField_octet [] first rest 0 2 6 rfl, readField_octet [] first rest 2 4 2 rfl,
    readField_octet [] first rest 6 1 1 rfl, readField_octet [] first rest 7 1 0 rfl⟩

lemma readField_slp (first header : UInt8) (rest : Bytes) :
    readField (octetBits (first :: header :: rest)) 8 1 = some (header.toNat / 128 % 2) ∧
      readField (octetBits (first :: header :: rest)) 9 3 = some (header.toNat / 16 % 8) ∧
      readField (octetBits (first :: header :: rest)) 12 1 = some (header.toNat / 8 % 2) ∧
      readField (octetBits (first :: header :: rest)) 13 3 = some (header.toNat / 1 % 8) :=
  ⟨readField_octet [first] header rest 0 1 7 rfl, readField_octet [first] header rest 1 3 4 rfl,
    readField_octet [first] header rest 4 1 3 rfl, readField_octet [first] header rest 5 3 0 rfl⟩

lemma parse_cons (first : UInt8) (rest : Bytes) :
    parseDefaultSignalingPacket (first :: rest) = if first.toNat / 64 ≠ 0 ∨ first.toNat / 2 % 2 ≠ 0 then none
      else if first.toNat % 2 ≠ 0 then slpMessage rest
      else snpMessage none none rest := by
  have hfi := first.toNat_lt
  unfold parseDefaultSignalingPacket
  dsimp only
  obtain ⟨h0, h2, h6, h7⟩ := readField_header first rest
  rw [h0, h2, h6, h7]
  simp only [Option.bind_eq_bind, Option.bind_some, Nat.div_one]
  rw [Nat.mod_eq_of_lt (by omega : first.toNat / 64 < 4)]
  by_cases ho : first.toNat / 64 ≠ 0 ∨ first.toNat / 2 % 2 ≠ 0
  · rw [if_pos ho, if_pos ho]
  rw [if_neg ho, if_neg ho]
  by_cases hf : first.toNat % 2 ≠ 0
  · rw [if_pos hf, if_pos hf]
    cases rest with
    | nil => rfl
    | cons header message =>
      have hh := header.toNat_lt
      obtain ⟨h8, h9, h12, h13⟩ := readField_slp first header message
      have hm : ∀ n < 8, n.toUInt8 &&& slpSequenceMask = n.toUInt8 := by decide
      rw [h8, h9, h12, h13]
      simp only [Option.bind_some, Nat.div_one]
      rw [hm _ (Nat.mod_lt _ (by decide)), hm _ (Nat.mod_lt _ (by decide)),
        Nat.mod_eq_of_lt (by omega : header.toNat / 128 < 2)]
      exact parseSnpPacket_octets [first, header] message _ _
  · rw [if_neg hf, if_neg hf]
    exact parseSnpPacket_octets [first] rest none none

end Parse

/-! ### Building a signaling packet anew -/

def snpHeader (protocolType : UInt8) (inConfiguration : Bool) : UInt8 :=
  (inConfiguration.toNat * 128 + protocolType.toNat % 128).toUInt8

def slpHeader (sequenceNumber : UInt8) (ackSequenceNumber : Option UInt8) : UInt8 :=
  (ackSequenceNumber.isSome.toNat * 128 + (ackSequenceNumber.getD 0).toNat % 8 * 16 + 8 + sequenceNumber.toNat % 8).toUInt8

def DefaultSignalingPacket.encode (signaling : DefaultSignalingPacket) : Bytes :=
  match signaling.reliableSequenceNumber with
  | some sequence =>
    encodeReliableDefaultSignalingPacketForInstanceWithAck signaling.protocolType signaling.payload sequence
      signaling.inConfiguration signaling.ackSequenceNumber
  | none =>
    encodeDefaultSignalingPacketForInstance signaling.protocolType signaling.payload signaling.inConfiguration

section Encode

variable (protocol sequenceNumber : UInt8) (payload : Bytes) (inConf : Bool)
  (ack : Option UInt8)

lemma toNat_mask7 (b : UInt8) : (b &&& 0x7f).toNat = b.toNat % 128 := by
  rw [UInt8.toNat_and]
  exact Nat.and_two_pow_sub_one_eq_mod b.toNat 7

lemma toNat_mask3 (b : UInt8) : (b &&& 0x07).toNat = b.toNat % 8 := by
  rw [UInt8.toNat_and]
  exact Nat.and_two_pow_sub_one_eq_mod b.toNat 3

lemma flatMap_writeU64 : (payload.flatMap fun byte => writeU64 byte.toNat 8) = octetBits payload := by
  refine List.flatMap_congr fun byte _ => ?_
  rw [writeU64_of_le (by decide)]

lemma snpHeader_bits : writeU64 inConf.toNat 1 ++ writeU64 (protocol &&& 0x7f).toNat 7 =
    msb 8 (snpHeader protocol inConf).toNat := by
  have hcfg : inConf.toNat < 2 := Bool.toNat_lt _
  have hval : (snpHeader protocol inConf).toNat = inConf.toNat * 128 + protocol.toNat % 128 :=
    UInt8.toNat_ofNat_of_lt (by change _ < 256; omega)
  rw [writeU64_of_le (by decide), writeU64_of_le (by decide), toNat_mask7, show (8 : ℕ) = 1 + 7 from rfl, msb_append]
  congr 1
  · rw [msb_eq_msb_iff]
    omega
  · rw [msb_eq_msb_iff]
    omega

lemma slpHeader_bits :
    writeU64 ack.isSome.toNat 1 ++ writeU64 ((ack.getD 0) &&& 0x07).toNat 3 ++ writeU64 1 1 ++
      writeU64 (sequenceNumber &&& 0x07).toNat 3 = msb 8 (slpHeader sequenceNumber ack).toNat := by
  have hack : ack.isSome.toNat < 2 := Bool.toNat_lt _
  have hval : (slpHeader sequenceNumber ack).toNat = ack.isSome.toNat * 128 +
      (ack.getD 0).toNat % 8 * 16 + 8 + sequenceNumber.toNat % 8 :=
    UInt8.toNat_ofNat_of_lt (by change _ < 256; omega)
  rw [writeU64_of_le (by decide), writeU64_of_le (by decide), writeU64_of_le (by decide), writeU64_of_le (by decide),
    toNat_mask3, toNat_mask3, show (8 : ℕ) = 1 + 3 + 1 + 3 from rfl, msb_append, msb_append, msb_append]
  refine congrArg₂ _ (congrArg₂ _ (congrArg₂ _ ?_ ?_) ?_) ?_
  all_goals
    rw [msb_eq_msb_iff]
    omega

lemma encodeDefault_eq : encodeDefaultSignalingPacketForInstance protocol payload inConf =
    0 :: snpHeader protocol inConf :: payload := by
  unfold encodeDefaultSignalingPacketForInstance
  rw [List.append_assoc _ (writeU64 inConf.toNat 1), snpHeader_bits]
  exact toPackedBytes_octetBits (0 :: snpHeader protocol inConf :: payload)

lemma encodeReliable_eq :
    encodeReliableDefaultSignalingPacketForInstanceWithAck protocol payload sequenceNumber inConf
      ack =
    1 :: slpHeader sequenceNumber ack :: snpHeader protocol inConf :: payload := by
  have hb := slpHeader_bits sequenceNumber ack
  unfold encodeReliableDefaultSignalingPacketForInstanceWithAck
  rw [flatMap_writeU64, List.append_assoc _ (writeU64 inConf.toNat 1), snpHeader_bits]
  have hp := toPackedBytes_octetBits
    (1 :: slpHeader sequenceNumber ack :: snpHeader protocol inConf :: payload)
  have hf : msb 8 (1 : UInt8).toNat = writeU64 0 2 ++ writeU64 0 4 ++ writeU64 0 1 ++ writeU64 1 1 := by decide
  grind [octetBits_cons]

end Encode

/-! ### What survives being built anew -/

/-- A signaling packet without anything that is not built anew: the reserved bits are zero, an octet of sequence numbers has
one for the packet itself, and the number that is acknowledged is zero if it is not valid. -/
def PlainSignaling (packet : Bytes) : Prop :=
  packet.head? = some 0 ∨
  ∃ header rest, packet = 1 :: header :: rest ∧ header &&& 0x08 ≠ 0 ∧ (header &&& 0x80 = 0 → header &&& 0x70 = 0)

/-- An RTCAck without anything but its sequence number. -/
def PlainRtcAck (packet : Bytes) : Prop := ∃ header : UInt8, packet = [1, header, 4, 0] ∧ header &&& 0xf8 = 0x08

lemma snpHeader_parsed (header : UInt8) :
    snpHeader (header.toNat % 128).toUInt8 (decide (header.toNat / 128 ≠ 0)) = header := by
  have hlt := header.toNat_lt
  have hcfg : (decide (header.toNat / 128 ≠ 0)).toNat = header.toNat / 128 := by
    by_cases h : header.toNat / 128 ≠ 0 <;> grind
  have hmod : ((header.toNat % 128).toUInt8).toNat = header.toNat % 128 :=
    UInt8.toNat_ofNat_of_lt (by change _ < 256; omega)
  rw [snpHeader, hcfg, hmod, Nat.mod_mod, Nat.mul_comm, Nat.div_add_mod]
  exact UInt8.ofNat_toNat

lemma slpHeader_parsed (header : UInt8) (hv : header.toNat / 8 % 2 ≠ 0) :
    slpHeader (header.toNat % 8).toUInt8
      (if header.toNat / 128 ≠ 0 then some (header.toNat / 16 % 8).toUInt8 else none) = header ↔
    (header &&& 0x80 = 0 → header &&& 0x70 = 0) := by
  revert header
  exact forall_octet (by decide +kernel)

lemma mask_valid (header : UInt8) : header &&& 0x08 ≠ 0 ↔ header.toNat / 8 % 2 ≠ 0 := by
  revert header
  exact forall_octet (by decide +kernel)

/-- **When a signaling packet is built anew as it was.** -/
theorem encode_parsed
    (h : parseDefaultSignalingPacket packet = some signaling) : signaling.encode = packet ↔ PlainSignaling packet := by
  cases packet with
  | nil => cases h
  | cons first rest =>
    rw [parse_cons] at h
    split at h
    · cases h
    split at h
    · rename_i hf
      have hz : first ≠ 0 := by
        rintro rfl
        exact hf rfl
      cases rest with
      | nil => cases h
      | cons header message =>
        cases message with
        | nil => cases h
        | cons snp payload =>
          cases h
          by_cases hv : header.toNat / 8 % 2 ≠ 0
          · simp only [encode, if_pos hv]
            rw [encodeReliable_eq, snpHeader_parsed]
            constructor
            · intro heq
              obtain ⟨rfl, ht⟩ := List.cons.inj heq
              obtain ⟨hhe, -⟩ := List.cons.inj ht
              exact .inr ⟨header, snp :: payload, rfl, (mask_valid header).2 hv, (slpHeader_parsed header hv).1 hhe⟩
            · rintro (hh | ⟨_, _, heq, -, hp⟩)
              · exact absurd (Option.some.inj hh) hz
              · cases heq
                rw [(slpHeader_parsed _ hv).2 hp]
          · -- without a sequence number the octet is not built at all
            simp only [encode, if_neg hv]
            rw [encodeDefault_eq]
            refine iff_of_false (fun heq => hz (List.cons.inj heq).1.symm) ?_
            rintro (hh | ⟨_, _, heq, hm, -⟩)
            · exact hz (Option.some.inj hh)
            · cases heq
              exact hv ((mask_valid _).1 hm)
    · rename_i hs
      cases rest with
      | nil => cases h
      | cons =>
        cases h
        simp only [encode]
        rw [encodeDefault_eq, snpHeader_parsed]
        constructor
        · intro heq
          exact .inl (congrArg some (List.cons.inj heq).1.symm)
        rintro (hh | ⟨_, _, heq, -, -⟩)
        · rw [Option.some.inj hh]
        · cases heq
          exact absurd (by decide) hs

lemma reliableRtcAckSequenceNumber_octets (first header snp message : UInt8) :
    reliableRtcAckSequenceNumber [first, header, snp, message] =
      if first.toNat / 64 ≠ 0 ∨ first.toNat / 2 % 2 ≠ 0 ∨ first.toNat % 2 ≠ 1 then none
      else if header.toNat / 8 % 2 ≠ 1 ∨ (snp.toNat % 128).toUInt8 ≠ defaultReverseTrafficChannelMacProtocolType then none
      else if message = reverseTrafficChannelMacRtcAckMessageId then some (header.toNat % 8).toUInt8
      else none := by
  have hf := first.toNat_lt
  have hm : ∀ n < 8, n.toUInt8 &&& slpSequenceMask = n.toUInt8 := by decide
  obtain ⟨h0, h2, h6, h7⟩ := readField_header first [header, snp, message]
  obtain ⟨h8, h9, h12, h13⟩ := readField_slp first header [snp, message]
  have h16 : readField (octetBits [first, header, snp, message]) 16 1 = _ :=
    readField_octet [first, header] snp [message] 0 1 7 rfl
  have h17 : readField (octetBits [first, header, snp, message]) 17 7 = _ :=
    readField_octet [first, header] snp [message] 1 7 0 rfl
  have h24 : readField (octetBits [first, header, snp, message]) 24 8 = _ :=
    readField_octet [first, header, snp] message [] 0 8 0 rfl
  have hme : (message.toNat % 256).toUInt8 = message := ofNat_mod_256 message
  unfold reliableRtcAckSequenceNumber
  dsimp only
  rw [if_neg (by simp), h0, h2, h6, h7, h8, h9, h12, h13, h16, h17, h24]
  simp only [Option.bind_eq_bind, Option.bind_some, Nat.pow_zero, Nat.div_one, Nat.reducePow]
  rw [Nat.mod_eq_of_lt (by omega : first.toNat / 64 < 4), hm _ (Nat.mod_lt _ (by decide)), hme,
    if_neg (by simp : ¬ 24 + 8 ≠ (octetBits [first, header, snp, message]).length)]

lemma reliableRtcAckSequenceNumber_some
    (h : reliableRtcAckSequenceNumber packet = some sequenceNumber) : ∃ first header snp : UInt8,
      packet = [first, header, snp, 0] ∧ (first.toNat / 64 = 0 ∧ first.toNat / 2 % 2 = 0 ∧ first.toNat % 2 = 1) ∧
      header.toNat / 8 % 2 = 1 ∧ (snp.toNat % 128).toUInt8 = 4 ∧ sequenceNumber = (header.toNat % 8).toUInt8 := by
  have hlen : packet.length = 4 := by grind [reliableRtcAckSequenceNumber]
  obtain ⟨first, header, snp, message, rfl⟩ := List.length_eq_four.1 hlen
  rw [reliableRtcAckSequenceNumber_octets] at h
  split at h
  · cases h
  rename_i hf
  split at h
  · cases h
  rename_i hs
  split at h
  · rename_i hm
    cases h
    simp only [not_or, not_not] at hf hs
    exact ⟨first, header, snp, by rw [hm]; rfl, hf, hs.1, hs.2, rfl⟩
  · cases h

lemma parse_rtcAck (h : reliableRtcAckSequenceNumber packet = some sequenceNumber) :
    (parseDefaultSignalingPacket packet).isSome := by
  obtain ⟨first, header, snp, rfl, ⟨hs, hf, hfu⟩, -, -, -⟩ := reliableRtcAckSequenceNumber_some h
  rw [parse_cons, if_neg (by omega), if_pos (by omega)]
  rfl

def rtcAckPacket (sequenceNumber : UInt8) : Bytes :=
  encodeReliableDefaultSignalingPacket defaultReverseTrafficChannelMacProtocolType
    [reverseTrafficChannelMacRtcAckMessageId] sequenceNumber

lemma rtcAckPacket_eq (sequenceNumber : UInt8) : rtcAckPacket sequenceNumber = [1, slpHeader sequenceNumber none, 4, 0] :=
  encodeReliable_eq _ _ _ _ _

/-- **When an RTCAck is built anew as it was.** -/
theorem rtcAckPacket_parsed (h : reliableRtcAckSequenceNumber packet = some sequenceNumber) :
    rtcAckPacket sequenceNumber = packet ↔ PlainRtcAck packet := by
  obtain ⟨first, header, snp, rfl, -, -, -, rfl⟩ := reliableRtcAckSequenceNumber_some h
  have hh : ∀ b : UInt8, slpHeader (b.toNat % 8).toUInt8 none = b ↔ b &&& 0xf8 = 0x08 :=
    forall_octet (by decide +kernel)
  rw [rtcAckPacket_eq]
  constructor
  · intro heq
    simp only [List.cons.injEq, and_true] at heq
    obtain ⟨rfl, heq, rfl⟩ := heq
    exact ⟨header, rfl, (hh header).1 heq⟩
  · rintro ⟨_, heq, hm⟩
    cases heq
    rw [(hh _).2 hm]

lemma PlainRtcAck.isSome (h : PlainRtcAck packet) : (reliableRtcAckSequenceNumber packet).isSome := by
  obtain ⟨header, rfl, hm⟩ := h
  have hall : ∀ b : UInt8, b &&& 0xf8 = 0x08 → b.toNat / 8 % 2 = 1 := forall_octet (by decide +kernel)
  have hv := hall header hm
  rw [reliableRtcAckSequenceNumber_octets, if_neg (by decide), if_neg]
  · rfl
  · rintro (hne | hne)
    · exact hne hv
    · exact hne rfl

/-! ### What is recognized in a packet -/

section Recognized

variable {sessionPackets : List Bytes}

lemma rtcAckSequenceNumberFromSessionPackets_some
    (h : rtcAckSequenceNumberFromSessionPackets sessionPackets = some sequenceNumber) :
    ∃ packet ∈ sessionPackets, reliableRtcAckSequenceNumber packet = some sequenceNumber := by
  obtain ⟨packet, hf, hs⟩ := Option.bind_eq_some_iff.1 h
  exact ⟨packet, List.mem_of_find?_eq_some hf, hs⟩

lemma rtcAckSequenceNumberFromSessionPackets_none (h : rtcAckSequenceNumberFromSessionPackets sessionPackets = none) :
    ∀ packet ∈ sessionPackets, reliableRtcAckSequenceNumber packet = none := by
  intro packet hmem
  unfold rtcAckSequenceNumberFromSessionPackets at h
  cases hf : sessionPackets.find? fun packet => packet.length = 4 ∧ (reliableRtcAckSequenceNumber packet).isSome with
  | none =>
    have hp := List.find?_eq_none.1 hf packet hmem
    rw [decide_eq_true_eq, not_and, Option.not_isSome_iff_eq_none] at hp
    by_cases hlen : packet.length = 4
    · exact hp hlen
    · exact if_pos hlen
  | some => grind

lemma defaultSignalingPacketFromSessionPackets_some
    (h : defaultSignalingPacketFromSessionPackets sessionPackets = some signaling) :
    ∃ packet ∈ sessionPackets, parseDefaultSignalingPacket packet = some signaling :=
  List.exists_of_findSome?_eq_some h

lemma defaultSignalingPacketFromSessionPackets_none
    (h : defaultSignalingPacketFromSessionPackets sessionPackets = none) :
    ∀ packet ∈ sessionPackets, parseDefaultSignalingPacket packet = none :=
  List.findSome?_eq_none_iff.1 h

end Recognized

/-- Session packets without default signaling, or a single message that is built anew as it was. -/
def Repackable (sessionPackets : List Bytes) : Prop :=
  (∀ packet ∈ sessionPackets, parseDefaultSignalingPacket packet = none) ∨
  ∃ packet, sessionPackets = [packet] ∧
    (PlainRtcAck packet ∨ (reliableRtcAckSequenceNumber packet = none ∧ PlainSignaling packet))

section Repackable

variable {sessionPackets : List Bytes}

lemma repackable_rtcAck (h : rtcAckSequenceNumberFromSessionPackets sessionPackets = some sequenceNumber) :
    [rtcAckPacket sequenceNumber] = sessionPackets ↔ Repackable sessionPackets := by
  obtain ⟨packet, hmem, hn⟩ := rtcAckSequenceNumberFromSessionPackets_some h
  constructor
  · rintro rfl
    obtain rfl := List.mem_singleton.1 hmem
    exact .inr ⟨_, rfl, .inl ((rtcAckPacket_parsed hn).1 rfl)⟩
  rintro (hp | ⟨single, rfl, hp⟩)
  · have hs := parse_rtcAck hn
    rw [hp packet hmem] at hs
    cases hs
  grind [rtcAckPacket_parsed]

lemma repackable_signaling (hack : rtcAckSequenceNumberFromSessionPackets sessionPackets = none)
    (h : defaultSignalingPacketFromSessionPackets sessionPackets = some signaling) :
    [signaling.encode] = sessionPackets ↔ Repackable sessionPackets := by
  obtain ⟨packet, hmem, hpa⟩ := defaultSignalingPacketFromSessionPackets_some h
  have hn := rtcAckSequenceNumberFromSessionPackets_none hack packet hmem
  constructor
  · rintro rfl
    obtain rfl := List.mem_singleton.1 hmem
    exact .inr ⟨_, rfl, .inr ⟨hn, (encode_parsed hpa).1 rfl⟩⟩
  rintro (hp | ⟨single, rfl, hp⟩)
  · rw [hp packet hmem] at hpa
    cases hpa
  obtain rfl := List.mem_singleton.1 hmem
  rcases hp with hp | ⟨-, hp⟩
  · have hs := hp.isSome
    rw [hn] at hs
    cases hs
  · rw [(encode_parsed hpa).2 hp]

end Repackable

end OneXBts.Bts.Hrpd
