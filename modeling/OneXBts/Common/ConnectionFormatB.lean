import OneXBts.Common.Bitstream

/-!
Connection Layer Format B (`hrpd/traffic.rs`): session packets with an octet of length in front of each, and zero padding.

A packet is never empty, so the octet zero can only be padding, which is checked to its end. So what the parser accepts is
`encoded` followed by blanks, in one way only (`parse_encoded`, `encoded_of_parse`).
-/

namespace OneXBts.Common.HrpdTraffic

open Lib Common List

inductive TrafficFrameError where
  | emptySessionPacket
  | sessionPacketTooLong (len : ℕ)
  | notOctetAligned (field : String)
  | tooManyBits (layer : String) (bits capacity : ℕ)
  | connectionFormatBLengthTruncated
  | connectionFormatBPacketTruncated (needed actual : ℕ)
  | connectionFormatBPaddingNonZero
  | physicalPacketTooSmall (bits : ℕ)
  deriving DecidableEq, Repr

def connectionFormatBLengthBits : ℕ := 8

/-! ### Building -/

def sessionPacketBits : List Bytes → Except TrafficFrameError Bits
  | [] => .ok []
  | packet :: packets =>
    if packet = [] then .error .emptySessionPacket
    else if packet.length > 255 then .error (.sessionPacketTooLong packet.length)
    else
      match sessionPacketBits packets with
      | .error e => .error e
      | .ok bits => .ok (writeU64 packet.length connectionFormatBLengthBits ++ octetBits packet ++ bits)

def connectionFormatBBits (sessionPackets : List Bytes) (securityPayloadBits : ℕ) : Except TrafficFrameError Bits :=
  if securityPayloadBits % 8 ≠ 0 then .error (.notOctetAligned "connection format B capacity")
  else
    match sessionPacketBits sessionPackets with
    | .error e => .error e
    | .ok bits =>
      if bits.length > securityPayloadBits then
        .error (.tooManyBits "connection format B" bits.length securityPayloadBits)
      else .ok (bits ++ List.replicate (securityPayloadBits - bits.length) 0)

/-! ### Parsing -/

def anySet (bits : Bits) : Bool := bits.any fun bit => bit &&& 1 ≠ 0

def parsePackets (total offset : ℕ) (bits : Bits) : Except TrafficFrameError (List Bytes) :=
  if bits = [] then .ok []
  else if bits.length < connectionFormatBLengthBits then
    if anySet bits then .error .connectionFormatBLengthTruncated else .ok []
  else
    let len := (unpackU8 (bits.take connectionFormatBLengthBits)).toNat
    if len = 0 then
      if anySet bits then .error .connectionFormatBPaddingNonZero else .ok []
    else
      let rest := bits.drop connectionFormatBLengthBits
      let stop := offset + connectionFormatBLengthBits + len * 8
      if stop > total then .error (.connectionFormatBPacketTruncated stop total)
      else
        match parsePackets total stop (rest.drop (len * 8)) with
        | .error e => .error e
        | .ok packets => .ok (toPackedBytes (rest.take (len * 8)) :: packets)
termination_by bits.length
decreasing_by
  rename_i hne hlen _ _
  rw [List.length_drop, List.length_drop]
  have : 0 < bits.length := List.length_pos_iff.2 hne
  have : 0 < connectionFormatBLengthBits := by decide
  omega

def parseConnectionFormatBPackets (bits : Bits) : Except TrafficFrameError (List Bytes) :=
  parsePackets bits.length 0 bits

/-! ### What a packet looks like -/

def Sendable (packet : Bytes) : Prop := packet ≠ [] ∧ packet.length ≤ 255

def encoded (packets : List Bytes) : Bits := packets.flatMap fun packet => msb 8 packet.length ++ octetBits packet

section Encoded

variable {bits : Bits} {packets : List Bytes} {packet : Bytes}

lemma encoded_cons (packet : Bytes) (packets : List Bytes) :
    encoded (packet :: packets) = msb 8 packet.length ++ octetBits packet ++ encoded packets := rfl

lemma sessionPacketBits_ok :
    sessionPacketBits packets = .ok bits ↔ (∀ packet ∈ packets, Sendable packet) ∧ bits = encoded packets := by
  induction packets generalizing bits with
  | nil =>
    rw [sessionPacketBits]
    simp [encoded]
  | cons packet packets ih =>
    rw [sessionPacketBits, forall_mem_cons]
    by_cases he : packet = []
    · rw [if_pos he]
      exact iff_of_false (by simp) fun h => h.1.1.1 he
    by_cases hl : packet.length > 255
    · rw [if_neg he, if_pos hl]
      exact iff_of_false (by simp) fun h => absurd h.1.1.2 (by omega)
    have hs : Sendable packet := ⟨he, by omega⟩
    rw [if_neg he, if_neg hl]
    cases hrest : sessionPacketBits packets with
    | error =>
      refine iff_of_false (by simp) fun h => ?_
      have hok : sessionPacketBits packets = .ok (encoded packets) := ih.2 ⟨h.1.2, rfl⟩
      rw [hok] at hrest
      cases hrest
    | ok =>
      obtain ⟨hall, rfl⟩ := ih.1 hrest
      rw [Except.ok.injEq, eq_comm]
      exact ⟨fun h => ⟨⟨hs, hall⟩, h⟩, fun h => h.2⟩

/-- **What the builder accepts and returns.** -/
theorem connectionFormatBBits_ok (ha : bits.length % 8 = 0) :
    connectionFormatBBits packets bits.length = .ok bits ↔
      (∀ packet ∈ packets, Sendable packet) ∧ ∃ k, bits = encoded packets ++ blank k := by
  rw [connectionFormatBBits, if_neg (by simpa using ha)]
  constructor
  · intro h
    cases hp : sessionPacketBits packets with
    | error =>
      rw [hp] at h
      cases h
    | ok =>
      obtain ⟨hall, rfl⟩ := sessionPacketBits_ok.1 hp
      rw [hp] at h
      dsimp only at h
      split_ifs at h
      exact ⟨hall, _, (Except.ok.inj h).symm⟩
  · rintro ⟨hall, k, rfl⟩
    rw [sessionPacketBits_ok.2 ⟨hall, rfl⟩]
    dsimp only
    rw [length_append, length_blank, if_neg (by omega), Nat.add_sub_cancel_left]
    rfl

lemma anySet_blank (k : ℕ) : anySet (blank k) = false := by
  unfold anySet blank
  rw [any_replicate]
  split_ifs <;> rfl

lemma eq_blank_of_not_anySet (hbi : IsBits bits) (h : anySet bits = false) : bits = blank bits.length := by
  refine eq_replicate_iff.2 ⟨rfl, fun b hb => (hbi b hb).resolve_right ?_⟩
  rintro rfl
  have hset : anySet bits = true := any_eq_true.2 ⟨1, hb, by decide⟩
  rw [h] at hset
  cases hset

/-! ### The parser -/

lemma parsePackets_blank (total offset k : ℕ) : parsePackets total offset (blank k) = .ok [] := by
  rw [parsePackets]
  dsimp only
  split_ifs with hnil hs hset hz hset'
  · rfl
  · rw [anySet_blank] at hset
    cases hset
  · rfl
  · rw [anySet_blank] at hset'
    cases hset'
  · rfl
  all_goals
    -- eight blanks have the value 0
    have ht : (blank k).take connectionFormatBLengthBits = blank 8 := by grind [connectionFormatBLengthBits, blank]
    rw [ht] at hz
    exact absurd rfl hz

lemma parsePackets_cons (total offset : ℕ) (hs : Sendable packet) (rest : Bits)
    (hto : total = offset + (8 + 8 * packet.length + rest.length)) :
    parsePackets total offset (msb 8 packet.length ++ octetBits packet ++ rest) =
      match parsePackets total (offset + 8 + packet.length * 8) rest with
      | .error e => .error e
      | .ok packets => .ok (packet :: packets) := by
  have hpos : 0 < packet.length := length_pos_iff.2 hs.1
  have hlen : (unpackU8 (msb 8 packet.length)).toNat = packet.length := by
    have hof : (UInt8.ofNat packet.length).toNat = packet.length :=
      UInt8.toNat_ofNat_of_lt (Nat.lt_of_le_of_lt hs.2 (by decide))
    grind [unpackU8_msb]
  have ht : (msb 8 packet.length ++ octetBits packet ++ rest).take 8 = msb 8 packet.length := by
    rw [append_assoc, take_left' (length_msb 8 _)]
  have hdr : (msb 8 packet.length ++ octetBits packet ++ rest).drop 8 = octetBits packet ++ rest := by
    rw [append_assoc, drop_left' (length_msb 8 _)]
  have ho : (octetBits packet).length = packet.length * 8 := by rw [length_octetBits, Nat.mul_comm]
  have htot : (msb 8 packet.length ++ octetBits packet ++ rest).length = 8 + 8 * packet.length + rest.length := by
    simp [Nat.add_assoc]
  rw [parsePackets, if_neg (by intro h; rw [h] at htot; simp at htot; omega), connectionFormatBLengthBits,
    if_neg (by omega)]
  rw [ht, hlen, if_neg (by omega), if_neg (by omega), hdr, drop_left' ho, take_left' ho, toPackedBytes_octetBits]

lemma parse_encoded (total offset k : ℕ) (hall : ∀ packet ∈ packets, Sendable packet)
    (ht : total = offset + (encoded packets ++ blank k).length) :
    parsePackets total offset (encoded packets ++ blank k) = .ok packets := by
  induction packets generalizing offset with
  | nil => exact parsePackets_blank total offset k
  | cons packet packets ih =>
    rw [forall_mem_cons] at hall
    rw [encoded_cons, append_assoc] at ht ⊢
    simp only [length_append, length_msb, length_octetBits] at ht
    rw [parsePackets_cons total offset hall.1 _ (by rw [ht, length_append]),
      ih (offset + 8 + packet.length * 8) hall.2 (by rw [length_append]; omega)]

/-- **What is parsed was encoded**, by induction along the loop of the parser. -/
theorem encoded_of_parse (hbi : IsBits bits) (ha : bits.length % 8 = 0)
    (hto : total = offset + bits.length) (hp : parsePackets total offset bits = .ok packets) :
    (∀ packet ∈ packets, Sendable packet) ∧ ∃ k, bits = encoded packets ++ blank k := by
  induction hlen : bits.length using Nat.strong_induction_on generalizing bits offset packets with
  | _ _ ih =>
    rw [parsePackets] at hp
    dsimp only at hp
    split_ifs at hp with hnil hs hset hz hset' hst
    · cases hp
      exact ⟨by simp, 0, by rw [hnil]; rfl⟩
    · -- there are no single bits left
      rw [connectionFormatBLengthBits] at hs
      have := length_pos_iff.2 hnil
      omega
    · cases hp
      exact ⟨by simp, bits.length, eq_blank_of_not_anySet hbi (Bool.eq_false_iff.2 hset')⟩
    rw [connectionFormatBLengthBits] at hs hz hst hp
    generalize hl : (unpackU8 (bits.take 8)).toNat = len at hz hst hp
    have ht : (bits.take 8).length = 8 := length_take_of_le (by omega)
    have hbit : IsBits (bits.take 8) := fun b hb => hbi b (mem_of_mem_take hb)
    have hbo : IsBits ((bits.drop 8).take (len * 8)) := fun b hb => hbi b (mem_of_mem_drop (mem_of_mem_take hb))
    have hbod : ((bits.drop 8).take (len * 8)).length = 8 * len := by
      rw [length_take, length_drop]
      omega
    obtain ⟨ho, hc⟩ := octetBits_toPackedBytes hbo hbod
    have hr : ((bits.drop 8).drop (len * 8)).length = bits.length - 8 - len * 8 := by rw [length_drop, length_drop]
    split at hp
    · cases hp
    rename_i more hm
    cases hp
    obtain ⟨hall, k, hrest⟩ := ih _ (by omega)
      (fun b hb => hbi b (mem_of_mem_drop (mem_of_mem_drop hb))) (by omega) (by omega) hm rfl
    have hlt : len < 256 := hl ▸ UInt8.toNat_lt _
    refine ⟨forall_mem_cons.2 ⟨⟨?_, by omega⟩, hall⟩, k, ?_⟩
    · intro he
      rw [he] at hc
      exact hz hc.symm
    calc bits = bits.take 8 ++ ((bits.drop 8).take (len * 8) ++ (bits.drop 8).drop (len * 8)) := by
          rw [take_append_drop, take_append_drop]
      _ = msb 8 len ++ (octetBits (toPackedBytes ((bits.drop 8).take (len * 8))) ++ (encoded more ++ blank k)) := by
          rw [ho, ← hrest, ← hl, msb_unpackU8 hbit ht]
      _ = encoded (toPackedBytes ((bits.drop 8).take (len * 8)) :: more) ++ blank k := by
          rw [encoded_cons, hc, append_assoc, append_assoc]

end Encoded

/-- **Format B is an exact codec.** For every string of bits of whole octets and all packets, the parser returns the packets
exactly when the builder, for packets of that size, returns the bits. -/
theorem connectionFormatB_exact (bits : Bits) (hbits : IsBits bits) (halign : bits.length % 8 = 0)
    (packets : List Bytes) :
    parseConnectionFormatBPackets bits = .ok packets ↔ connectionFormatBBits packets bits.length = .ok bits := by
  rw [connectionFormatBBits_ok halign]
  constructor
  · exact encoded_of_parse hbits halign (Nat.zero_add _).symm
  · rintro ⟨hall, k, rfl⟩
    exact parse_encoded _ 0 k hall (Nat.zero_add _).symm

/-- Two packets and an octet of padding. -/
theorem connectionFormatB_exact_two :
    parseConnectionFormatBPackets (octetBits [2, 0, 7, 1, 9, 0]) = .ok [[0, 7], [9]] :=
  (connectionFormatB_exact _ (by decide) (by decide) _).2 (by decide)

end OneXBts.Common.HrpdTraffic
