import OneXBts.Bts.ForwardCodec

/-!
What a physical payload carries.

The access terminal knows the MAC subtype, and so the format of a payload. A payload that was built from session packets
carries these: the frame check sequence is read back as it was written, the MAC packets that were not used are blank, and
what is in the others is Format B.
-/

namespace OneXBts.Bts.Hrpd

open Lib Common Common.HrpdTraffic List Option Nat

def formatFor (physicalPacketBits : ℕ) (forwardTrafficMacSubtype : UInt16) : Option ForwardPayloadFormat :=
  if forwardTrafficMacSubtype = forwardTrafficMacSubtypeDefault then some legacyForwardPayloadFormat
  else if forwardTrafficMacSubtype = forwardTrafficMacSubtypeEnhanced then
    (enhancedForwardTrafficMacPacketBits physicalPacketBits).map fun macPacketBits =>
      ⟨macPacketBits, enhancedPhysicalFcsBits⟩
  else none

/-- The session packets that a payload carries to an access terminal with the MAC subtype. -/
def carried (payload : Bits) (forwardTrafficMacSubtype : UInt16) : Option (List Bytes) :=
  (formatFor payload.length forwardTrafficMacSubtype).bind (forwardFormatBSessionPacketsWithFormat payload)

/-! ### Frame check sequences -/

section Fcs

variable {w : ℕ}

lemma toNat_shift_or (acc : BitVec (w + 1)) (bit : UInt8) :
    ((acc <<< 1) ||| (bit &&& 1).toBitVec.setWidth (w + 1)).toNat = (2 * acc.toNat + bit.toNat % 2) % 2 ^ (w + 1) := by
  have hbit : ((bit &&& 1).toBitVec.setWidth (w + 1)).toNat = bit.toNat % 2 := by simp
  have hs : (acc <<< 1).toNat = 2 * (acc.toNat % 2 ^ w) := by
    rw [BitVec.toNat_shiftLeft, shiftLeft_eq, Nat.pow_one, Nat.mul_comm, Nat.pow_succ', mul_mod_mul_left]
  have hor : 2 * (acc.toNat % 2 ^ w) ||| bit.toNat % 2 = 2 * (acc.toNat % 2 ^ w) + bit.toNat % 2 := by
    have := two_pow_add_eq_or_of_lt (i := 1) (b := bit.toNat % 2) (by omega) (acc.toNat % 2 ^ w)
    simpa using this.symm
  have hsp : 2 * acc.toNat + bit.toNat % 2 =
      2 * 2 ^ w * (acc.toNat / 2 ^ w) + (2 * (acc.toNat % 2 ^ w) + bit.toNat % 2) := by
    have := div_add_mod acc.toNat (2 ^ w)
    rw [Nat.mul_assoc]
    omega
  rw [BitVec.toNat_or, hbit, hs, hor, hsp, Nat.pow_succ', mul_add_mod]
  exact (mod_eq_of_lt (by omega)).symm

lemma toNat_bitsToReg (bits : Bits) : (bitsToReg (w + 1) bits).toNat = readU64 bits % 2 ^ (w + 1) := by
  have hf : ∀ (bits : Bits) (acc : BitVec (w + 1)) (n : ℕ), acc.toNat = n % 2 ^ (w + 1) →
      (bits.foldl (fun (acc : BitVec (w + 1)) bit => (acc <<< 1) ||| (bit &&& 1).toBitVec.setWidth (w + 1)) acc).toNat =
        bits.foldl (fun result bit => 2 * result + bit.toNat % 2) n % 2 ^ (w + 1) := by
    intro bits
    induction bits with
    | nil => exact fun _ _ h => h
    | cons bit bits ih =>
      intro acc n h
      refine ih _ _ ?_
      rw [toNat_shift_or, h, add_mod, mul_mod_mod, ← add_mod]
  exact hf bits 0 0 rfl

lemma bitsToReg_msb (hreg : reg.toNat < 2 ^ n) :
    bitsToReg (w + 1) (msb n reg.toNat) = reg := by
  apply BitVec.eq_of_toNat_eq
  rw [toNat_bitsToReg, readU64_msb, mod_eq_of_lt hreg, mod_eq_of_lt reg.isLt]

lemma physicalCrc24_lt (bits : Bits) : (physicalCrc24 bits).toNat < 2 ^ 24 := by
  have hc : ∀ reg bit, (clockCrc24 reg bit).toNat < 2 ^ 24 := by
    intro reg bit
    have hm : ((reg <<< 1) &&& 0x00ffffff).toNat < 2 ^ 24 := by exact and_lt_two_pow _ (by decide)
    unfold clockCrc24
    dsimp only
    split_ifs
    · exact xor_lt_two_pow hm (by decide)
    · exact hm
  unfold physicalCrc24
  rcases eq_nil_or_concat bits with rfl | ⟨front, last, rfl⟩
  · decide
  · rw [concat_eq_append, foldl_append]
    exact hc _ last

end Fcs

/-! ### MAC packets -/

lemma connectionFormatBBits_spec (h : connectionFormatBBits packets capacity = .ok connection) :
    connection.length = capacity ∧ IsBits connection ∧ parseConnectionFormatBPackets connection = .ok packets := by
  unfold connectionFormatBBits at h
  split at h
  · cases h
  split at h
  · cases h
  rename_i bits hbi
  split at h
  · cases h
  obtain ⟨hall, rfl⟩ := sessionPacketBits_ok.1 hbi
  cases h
  refine ⟨by simp; omega, ?_, parse_encoded _ 0 _ hall (Nat.zero_add _).symm⟩
  refine IsBits.append (fun b hb => ?_) fun b hb => .inl (eq_of_mem_replicate hb)
  obtain ⟨pkt, -, hb⟩ := mem_flatMap.1 hb
  rcases mem_append.1 hb with hb | hb
  · exact isBits_msb _ _ b hb
  · obtain ⟨octet, -, hb⟩ := mem_flatMap.1 hb
    exact isBits_msb _ _ b hb

section Mac

variable {payload rest connection : Bits} {macStart n : ℕ} {packets : List Bytes}

lemma validMacPacket_eq (hbi : IsBits connection) (hlen : connection.length = n) :
    validMacPacket n connection true = connection ++ [1, 1] := by
  have hmap : (connection.map fun b => b &&& 1) = connection := by
    conv_rhs => rw [← map_id connection]
    refine map_congr_left fun b hb => ?_
    rcases hbi b hb with rfl | rfl <;> rfl
  rw [validMacPacket, hmap, hlen]
  simp

lemma forwardMac_valid (hdr : payload.drop macStart = connection ++ [1, 1] ++ rest) (hlen : connection.length = n) :
    forwardMacFormatBSessionPackets payload macStart (n + 2) = (parseConnectionFormatBPackets connection).toOption := by
  have ht : payload.length - macStart = n + 2 + rest.length := by
    rw [← length_drop, hdr, length_append, length_append, hlen]
    rfl
  have hget : ∀ i < 2, payload.getD (macStart + (n + i)) 0 = 1 := by
    intro i hi
    rw [List.getD_eq_getElem?_getD, ← List.getElem?_drop, hdr, append_assoc,
      List.getElem?_append_right (by omega), hlen, Nat.add_sub_cancel_left]
    interval_cases i <;> rfl
  unfold forwardMacFormatBSessionPackets
  simp only [forwardTrafficMacTrailerBits, Nat.add_sub_cancel]
  rw [if_neg (by omega), Nat.add_assoc, hget 1 (by omega), show macStart + n = macStart + (n + 0) from rfl,
    hget 0 (by omega), hdr, append_assoc, take_left' hlen]
  simp

lemma forwardMac_blank (hdr : payload.drop macStart = blank (n + 2) ++ rest) :
    forwardMacFormatBSessionPackets payload macStart (n + 2) = some [] := by
  have ht : payload.length - macStart = n + 2 + rest.length := by
    rw [← length_drop, hdr]
    simp
  have hget : payload.getD (macStart + n + 1) 0 = 0 := by
    rw [Nat.add_assoc, List.getD_eq_getElem?_getD, ← List.getElem?_drop, hdr, List.getElem?_append_left (by simp)]
    simp [blank]
  unfold forwardMacFormatBSessionPackets
  simp only [forwardTrafficMacTrailerBits, Nat.add_sub_cancel]
  rw [if_neg (by omega), hget, hdr, take_left' (length_blank _), anySet_blank]
  simp

end Mac

/-! ### The legacy format -/

/-- MAC packets with one group of session packets each. -/
abbrev Groups (groups : List (List Bytes)) (packets : List (Bits × Bool)) : Prop :=
  List.Forall₂ (fun group packet => connectionFormatBBits group 1000 = .ok packet.1 ∧ packet.2 = true) groups packets

section Legacy

variable {payload rest : Bits} {groups : List (List Bytes)} {packets : List (Bits × Bool)}

lemma macPacketBits_parsed (hg : Groups groups packets) (h : macPacketBits packets.head? = .ok pkt) :
    pkt.length = 1002 ∧ ∀ (payload : Bits) (macStart : ℕ) (rest : Bits), payload.drop macStart = pkt ++ rest →
      forwardMacFormatBSessionPackets payload macStart 1002 = some (groups.head?.getD []) := by
  cases hg with
  | nil =>
    cases h
    exact ⟨length_replicate, fun payload macStart rest hdr => forwardMac_blank hdr⟩
  | @cons group first groups packets hf _ =>
    obtain ⟨hc, hfo⟩ := hf
    obtain ⟨hlen, hb, hp⟩ := connectionFormatBBits_spec hc
    simp only [List.head?_cons, macPacketBits, forwardTrafficMacPacketBits, forwardTrafficMacTrailerBits, hlen,
      hfo] at h
    rw [validMacPacket_eq hb hlen] at h
    cases h
    refine ⟨by simp [hlen], fun payload macStart rest hdr => ?_⟩
    rw [forwardMac_valid hdr hlen, hp]
    rfl

lemma flatten_head_tail (groups : List (List Bytes)) : groups.head?.getD [] ++ groups.tail.flatten = groups.flatten := by
  cases groups <;> rfl

lemma legacyMacPackets_built (payload rest : Bits) (count : ℕ) : ∀ (front : Bits) {i : ℕ} {groups : List (List Bytes)}
    {packets : List (Bits × Bool)} {physical : Bits}, Groups groups packets → packets.length ≤ count →
    macPacketsBits i count packets = .ok physical → payload = front ++ physical ++ rest →
    front.length = i * 1024 - 22 →
    front.length + physical.length = (i + count) * 1024 - 22 ∧
      legacyMacPackets payload i count = some groups.flatten := by
  induction count with
  | zero =>
    intro front i groups packets physical hg hc h hp hf
    cases hg with
    | nil =>
      cases h
      exact ⟨hf, rfl⟩
    | cons => simp at hc
  | succ count ih =>
    intro front i groups packets physical hg hc h hp hf
    rw [macPacketsBits] at h
    split at h
    · cases h
    rename_i pkt hpa
    split at h
    · cases h
    rename_i more hm
    cases h
    obtain ⟨hlen, hpar⟩ := macPacketBits_parsed hg hpa
    have ht : Groups groups.tail packets.tail := by
      cases hg with
      | nil => exact .nil
      | cons _ ht => exact ht
    -- the padding in front of every MAC packet but the first
    generalize hpad : (if i > 0 then replicate forwardTrafficMacPadBits 0 else [] : Bits) = pad at hp ⊢
    have hpl : (front ++ pad).length = i * 1024 := by
      rw [← hpad, length_append]
      split_ifs
      · rw [length_replicate, forwardTrafficMacPadBits]
        omega
      · rw [length_nil]
        omega
    have hpa' : payload = front ++ pad ++ (pkt ++ (more ++ rest)) := by
      rw [hp]
      simp only [append_assoc]
    obtain ⟨hmo, hmor⟩ := ih (front ++ pad ++ pkt) ht (by simp; omega) hm
      (by rw [hpa']; simp only [append_assoc]) (by rw [length_append]; omega)
    refine ⟨by rw [length_append, length_append] at *; omega, ?_⟩
    have hmac : forwardMacFormatBSessionPackets payload
        (i * (forwardTrafficMacPacketBits + forwardTrafficMacPadBits)) forwardTrafficMacPacketBits =
          some (groups.head?.getD []) := hpar _ _ (more ++ rest) (by rw [hpa']; exact drop_left' hpl)
    rw [legacyMacPackets, if_neg, hmac]
    · simp only [hmor, map_some, flatten_head_tail]
    rintro ⟨hi, hset⟩
    rw [if_pos hi] at hpad
    have hd : payload.drop (i * 1024 - 22) = pad ++ (pkt ++ (more ++ rest)) := by
      rw [hpa', append_assoc, drop_left' hf]
    change anySet ((payload.drop (i * 1024 - 22)).take 22) = true at hset
    rw [hd, take_left' (by rw [← hpad]; rfl), ← hpad] at hset
    exact absurd hset (by decide)

end Legacy

/-! ### Payloads -/

lemma withFormat_built (format : ForwardPayloadFormat)
    (hp : payload = mac ++ writeU64 fcs format.fcsBits ++ replicate physicalTailBits 0)
    (hf : format.fcsBits ≤ 64) (hmac : 2 < mac.length) (hfo : format.macPacketBits ≤ mac.length)
    (hfcs : fcsValid payload mac.length format.fcsBits = true) :
    payload.length = mac.length + format.fcsBits + 6 ∧ forwardFormatBSessionPacketsWithFormat payload format =
        if format.fcsBits = physicalFcsBits ∧ format.macPacketBits = forwardTrafficMacPacketBits then
          legacyForwardFormatBSessionPackets payload mac.length
        else forwardMacFormatBSessionPackets payload 0 format.macPacketBits := by
  have hlen : payload.length = mac.length + format.fcsBits + 6 := by
    rw [hp, writeU64_of_le hf, length_append, length_append, length_msb]
    rfl
  have ht : payload.drop (payload.length - physicalTailBits) = blank 6 := by
    rw [hlen, physicalTailBits, hp, drop_left' (by simp [writeU64_of_le hf])]
    rfl
  grind [physicalTailBits, forwardFormatBSessionPacketsWithFormat, forwardTrafficMacTrailerBits, anySet_blank]

lemma fcsValid_legacy (mac rest : Bits) :
    fcsValid (mac ++ writeU64 (physicalCrc16 mac).toNat physicalFcsBits ++ rest) mac.length physicalFcsBits = true := by
  unfold fcsValid
  rw [if_pos rfl, append_assoc, take_left' rfl, drop_left' rfl]
  exact decide_eq_true (bitsToReg_msb (w := 15) (physicalCrc16 mac).isLt)

lemma fcsValid_enhanced (mac rest : Bits) :
    fcsValid (mac ++ writeU64 (physicalCrc24 mac).toNat enhancedPhysicalFcsBits ++ rest) mac.length
      enhancedPhysicalFcsBits = true := by
  unfold fcsValid
  rw [if_neg (by decide), if_pos rfl, append_assoc, take_left' rfl, drop_left' rfl]
  exact decide_eq_true (bitsToReg_msb (w := 31) (physicalCrc24_lt mac))

section Carried

variable {payload : Bits} {bits : ℕ} {subtype : UInt16} {sessionPackets : List Bytes}

lemma carried_default (hg : Groups groups packets)
    (h : defaultFtcPhysicalPayloadBitsFromMacPackets packets bits = .ok payload) :
    payload.length = bits ∧
      (groups.flatten ≠ [] → carried payload forwardTrafficMacSubtypeDefault = some groups.flatten) := by
  unfold defaultFtcPhysicalPayloadBitsFromMacPackets at h
  split at h
  · cases h
  rename_i hs
  obtain ⟨m, rfl⟩ : ∃ m, bits = (m + 1) * 1024 := by
    have hmem : bits ∈ [1024, 2048, 3072, 4096] := not_not.1 hs
    refine ⟨bits / 1024 - 1, ?_⟩
    simp only [mem_cons, not_mem_nil, or_false] at hmem
    omega
  rw [Nat.mul_div_cancel _ (by decide)] at h
  dsimp only at h
  split at h
  · cases h
  rename_i hc
  split at h
  · cases h
  rename_i physical hph
  rw [append_assoc] at h
  obtain ⟨hlen, hpa⟩ := legacyMacPackets_built payload _ (m + 1) [] hg (Nat.le_of_not_lt hc) hph (Except.ok.inj h).symm rfl
  rw [← append_assoc] at h
  replace hlen : physical.length = 1002 + m * 1024 := by
    rw [length_nil] at hlen
    omega
  have hp := (Except.ok.inj h).symm
  have hfcs : fcsValid payload physical.length legacyForwardPayloadFormat.fcsBits = true := by
    rw [hp]
    exact fcsValid_legacy physical _
  obtain ⟨ht, hf⟩ := withFormat_built legacyForwardPayloadFormat hp (by decide) (by omega)
    (by rw [hlen]; exact Nat.le_add_right _ _) hfcs
  have hs : payload.length = (m + 1) * 1024 := by
    rw [ht, hlen]
    change 1002 + m * 1024 + 16 + 6 = _
    omega
  refine ⟨hs, fun hne => ?_⟩
  rw [carried, formatFor, if_pos rfl, bind_some, hf, if_pos ⟨rfl, rfl⟩]
  have hc : (physical.length + forwardTrafficMacPadBits) /
      (forwardTrafficMacPacketBits + forwardTrafficMacPadBits) = m + 1 := by
    rw [hlen]
    change (1002 + m * 1024 + 22) / 1024 = m + 1
    omega
  unfold legacyForwardFormatBSessionPackets
  rw [hc, if_neg, hpa]
  · exact if_neg hne
  rintro (hz | hl)
  · omega
  apply hl
  rw [hlen]
  change 1002 + m * 1024 = (m + 1) * 1002 + m * 22
  omega

lemma enhancedForwardTrafficMacPacketBits_some (h : enhancedForwardTrafficMacPacketBits bits = some n) :
    bits = n + 30 ∧ 2 < n := by
  unfold enhancedForwardTrafficMacPacketBits at h
  split at h <;> cases h <;> decide

lemma carried_enhanced (hc : forwardTrafficSecurityCapacityBits bits = some capacity)
    (hco : connectionFormatBBits sessionPackets capacity = .ok connection)
    (h : enhancedFtcPhysicalPayloadBits connection true bits = .ok payload) :
    payload.length = bits ∧ carried payload forwardTrafficMacSubtypeEnhanced = some sessionPackets := by
  obtain ⟨n, hn, hcap⟩ := map_eq_some_iff.1 hc
  obtain ⟨hb, hlt⟩ := enhancedForwardTrafficMacPacketBits_some hn
  obtain ⟨hlen, his, hpa⟩ := connectionFormatBBits_spec hco
  have hcap' : n - forwardTrafficMacTrailerBits = capacity := hcap
  have hn2 : n = capacity + 2 := by
    rw [← hcap', forwardTrafficMacTrailerBits]
    omega
  unfold enhancedFtcPhysicalPayloadBits at h
  rw [hn] at h
  dsimp only at h
  rw [hcap', if_neg (by omega), validMacPacket_eq his hlen] at h
  have hp := (Except.ok.inj h).symm
  have hmac : (connection ++ [1, 1]).length = n := by simp [hlen, hn2]
  have hfcs : fcsValid payload (connection ++ [1, 1]).length
      (⟨n, enhancedPhysicalFcsBits⟩ : ForwardPayloadFormat).fcsBits = true := by
    rw [hp]
    exact fcsValid_enhanced _ _
  obtain ⟨ht, hf⟩ := withFormat_built ⟨n, enhancedPhysicalFcsBits⟩ hp (by change 24 ≤ 64; decide)
    (by omega) hmac.ge hfcs
  have hs : payload.length = bits := by
    rw [ht, hmac, hb]
    rfl
  refine ⟨hs, ?_⟩
  rw [carried, formatFor, if_neg (by decide), if_pos rfl, hs, hn]
  simp only [map_some, bind_some]
  rw [hf]
  have hdr : payload.drop 0 = connection ++ [1, 1] ++ (writeU64 (physicalCrc24 (connection ++ [1, 1])).toNat
      enhancedPhysicalFcsBits ++ replicate physicalTailBits 0) := by rw [drop_zero, hp, append_assoc]
  rw [hn2, forwardMac_valid hdr hlen, hpa]
  rfl

lemma singleConnections_groups (h : singleConnections capacity sessionPackets = .ok conns) :
    List.Forall₂ (fun group pkt => connectionFormatBBits group capacity = .ok pkt.1 ∧ pkt.2 = true)
      (sessionPackets.map fun pkt => [pkt]) (conns.map fun connection => (connection, true)) := by
  induction sessionPackets generalizing conns with
  | nil =>
    cases h
    exact .nil
  | cons pkt sessionPackets ih =>
    rw [singleConnections] at h
    split at h
    · cases h
    rename_i connection hc
    cases hm : singleConnections capacity sessionPackets with
    | error =>
      rw [hm] at h
      cases h
    | ok =>
      rw [hm] at h
      cases h
      exact .cons ⟨hc, rfl⟩ (ih hm)

/-- **A payload carries the session packets that it was built from.** -/
theorem carried_formatB (h : formatBFtcPayloadBitsForMacSubtype sessionPackets bits subtype = .ok payload) :
    payload.length = bits ∧ (sessionPackets ≠ [] → carried payload subtype = some sessionPackets) := by
  unfold formatBFtcPayloadBitsForMacSubtype forwardTrafficSecurityCapacityBitsForMacSubtype at h
  by_cases hde : subtype = forwardTrafficMacSubtypeDefault
  · subst hde
    simp only [if_pos] at h
    unfold legacyForwardTrafficSecurityCapacityBits at h
    split at h
    · cases h
    rename_i capacity hc
    split at hc <;> cases hc
    split at h
    · cases h
    split at h
    · cases h
    rename_i conns hco
    have hg : Groups (sessionPackets.map fun pkt => [pkt]) _ := singleConnections_groups hco
    have hf : (sessionPackets.map fun pkt => [pkt]).flatten = sessionPackets := by
      rw [← flatMap_def]
      simp
    have := carried_default hg h
    rwa [hf] at this
  grind [carried_enhanced]

lemma carried_stream0 (h : stream0SignalingFtcPhysicalPayloadBitsForMacSubtype bits [pkt] subtype = .ok payload) :
    payload.length = bits ∧ carried payload subtype = some [pkt] := by
  unfold stream0SignalingFtcPhysicalPayloadBitsForMacSubtype forwardTrafficSecurityCapacityBitsForMacSubtype
    ftcPhysicalPayloadBitsForMacSubtype at h
  by_cases hde : subtype = forwardTrafficMacSubtypeDefault
  · subst hde
    simp only [if_pos] at h
    unfold legacyForwardTrafficSecurityCapacityBits at h
    split at h
    · cases h
    rename_i capacity hc
    split at hc <;> cases hc
    split at h
    · cases h
    · rename_i connection hco
      have hg : Groups [[pkt]] [(connection, true)] := .cons ⟨hco, rfl⟩ .nil
      exact (carried_default hg h).imp_right fun hc => hc (by simp)
  grind [carried_enhanced]

end Carried

end OneXBts.Bts.Hrpd
