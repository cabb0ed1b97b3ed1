import OneXBts.Bts.ForwardPayload
import OneXBts.Bts.ForwardScheduler
import OneXBts.Bts.ForwardSignaling

/-!
Binding a queued packet to a rate with another payload size: its session packets are put into one payload or several. But a
packet with default signaling is built anew from the one message recognized in it, and one with an RTCAck from its sequence
number, and whatever else was in the packet is lost.
-/

namespace OneXBts.Bts.Hrpd

open Lib Common Common.HrpdTraffic HrpdForwardScheduler List Option

/-! ### Packing session packets again -/

section Split

variable {sessionPackets : List Bytes} {bits : ℕ} {subtype : UInt16}

lemma longestFit_some (h : longestFit sessionPackets bits subtype n = some fit) :
    formatBFtcPayloadBitsForMacSubtype (sessionPackets.take fit.1) bits subtype = .ok fit.2 ∧
      ∀ m ≤ n, fit.1 < m → ¬ (formatBFtcPayloadBitsForMacSubtype (sessionPackets.take m) bits subtype).isOk := by
  induction n with
  | zero => cases h
  | succ n ih =>
    rw [longestFit] at h
    split at h
    · rename_i payload hp
      cases h
      exact ⟨hp, fun m hm hlt => absurd hlt (by omega)⟩
    rename_i he
    obtain ⟨hp, hl⟩ := ih h
    refine ⟨hp, fun m hm hlt => ?_⟩
    rcases Nat.le_succ_iff.1 hm with hm | rfl
    · exact hl m hm hlt
    · rw [he]
      exact Bool.false_ne_true

structure Packed (bits : ℕ) (subtype : UInt16) (sessionPackets : List Bytes) (parts : List (Bits × List Bytes)) : Prop where
  carried : ∀ part ∈ parts, part.1.length = bits ∧ Hrpd.carried part.1 subtype = some part.2
  all : (parts.map fun part => part.2).flatten = sessionPackets

/-- Every part is as long a prefix of the session packets that were left as one payload holds. -/
structure Greedy (bits : ℕ) (subtype : UInt16) (sessionPackets : List Bytes) (parts : List (Bits × List Bytes)) : Prop where
  built : ∀ part ∈ parts, formatBFtcPayloadBitsForMacSubtype part.2 bits subtype = .ok part.1
  all : (parts.map fun part => part.2).flatten = sessionPackets
  longest : ∀ before part after, parts = before ++ part :: after →
    ∀ longer, longer <+: ((part :: after).map fun part => part.2).flatten → part.2.length < longer.length →
      ¬ (formatBFtcPayloadBitsForMacSubtype longer bits subtype).isOk
  nonempty : sessionPackets ≠ [] → ∀ part ∈ parts, part.2 ≠ []

lemma splitFormatBSessionPackets_greedy
    (h : splitFormatBSessionPackets bits subtype sessionPackets = some parts) : Greedy bits subtype sessionPackets parts := by
  induction hlen : sessionPackets.length using Nat.strong_induction_on generalizing sessionPackets parts with
  | _ _ ih =>
    rw [splitFormatBSessionPackets] at h
    split at h
    · rename_i hnil
      cases h
      exact ⟨by simp, hnil.symm, by simp, by simp⟩
    rename_i hne
    split at h
    · cases h
    rename_i fit hfit
    obtain ⟨more, hm, rfl⟩ := map_eq_some_iff.1 h
    have hpos := longestFit_pos hfit
    have hn := length_pos_iff.2 hne
    obtain ⟨hp, hl⟩ := longestFit_some hfit
    obtain ⟨hb, hall, hlo, hno⟩ := ih _ (by rw [length_drop]; omega) hm rfl
    have hf : sessionPackets.take fit.1 ≠ [] := by
      rw [← length_pos_iff, length_take]
      omega
    have hcat : (((fit.2, sessionPackets.take fit.1) :: more).map fun part => part.2).flatten = sessionPackets := by
      rw [map_cons, flatten_cons, hall, take_append_drop]
    refine ⟨forall_mem_cons.2 ⟨hp, hb⟩, hcat, ?_, fun _ => forall_mem_cons.2 ⟨hf, ?_⟩⟩
    · rintro (_ | ⟨_, before⟩) part after hparts longer hpre hlt
      · cases hparts
        rw [hcat] at hpre
        have hle := hpre.length_le
        rw [length_take] at hlt
        rw [prefix_iff_eq_take.1 hpre]
        exact hl _ hle (by omega)
      · cases hparts
        exact hlo before part after rfl longer hpre hlt
    · by_cases hd : sessionPackets.drop fit.1 = []
      · intro part hpart
        rw [hd, splitFormatBSessionPackets] at hm
        cases hm
        cases hpart
      · exact hno hd

lemma rebuildOrSplitFormatBSessionPackets_greedy
    (h : rebuildOrSplitFormatBSessionPackets sessionPackets bits subtype = some parts) :
    Greedy bits subtype sessionPackets parts := by
  unfold rebuildOrSplitFormatBSessionPackets at h
  split at h
  · cases h
  split at h
  · rename_i payload hp
    cases h
    refine ⟨by simpa using hp, by simp, ?_, by simp⟩
    rintro (_ | ⟨_, before⟩) part after hparts longer hpre hlt
    · cases hparts
      exact absurd hpre.length_le (by simpa using hlt)
    · simp at hparts
  · split at h
    · cases h
    · rename_i out hout
      split at h <;> cases h
      exact splitFormatBSessionPackets_greedy hout

lemma rebuildOrSplitFormatBSessionPackets_packed (hne : sessionPackets ≠ [])
    (h : rebuildOrSplitFormatBSessionPackets sessionPackets bits subtype = some parts) :
    Packed bits subtype sessionPackets parts := by
  obtain ⟨hb, hall, -, hno⟩ := rebuildOrSplitFormatBSessionPackets_greedy h
  exact ⟨fun part hpart => (carried_formatB (hb part hpart)).imp_right fun hc => hc (hno hne part hpart), hall⟩

/-- A session packet fits into a payload on its own. -/
def Fits (bits : ℕ) (subtype : UInt16) (packet : Bytes) : Prop :=
  (formatBFtcPayloadBitsForMacSubtype [packet] bits subtype).isOk

lemma connectionFormatBBits_single (h : connectionFormatBBits sessionPackets cap = .ok conn)
    (hmem : packet ∈ sessionPackets) : ∃ single, connectionFormatBBits [packet] cap = .ok single := by
  unfold connectionFormatBBits at h ⊢
  split at h
  · cases h
  rename_i ha
  rw [if_neg ha]
  split at h
  · cases h
  rename_i front hb
  split at h
  · cases h
  obtain ⟨hall, rfl⟩ := sessionPacketBits_ok.1 hb
  have hsub : encoded [packet] <+ encoded sessionPackets := (singleton_sublist.2 hmem).flatMap _
  have hlen := hsub.length_le
  rw [sessionPacketBits_ok.2 ⟨by simpa using hall packet hmem, rfl⟩]
  exact ⟨_, if_neg (by omega)⟩

lemma macPacketsBits_ok (n : ℕ) (hall : ∀ packet ∈ pkts, packet.1.length ≤ 1000) :
    ∃ physical, macPacketsBits i n pkts = .ok physical := by
  induction n generalizing i pkts with
  | zero => exact ⟨[], rfl⟩
  | succ _ ih =>
    obtain ⟨more, hm⟩ := ih (i := i + 1) fun packet hpacket => hall packet (mem_of_mem_tail hpacket)
    obtain ⟨packet, hp⟩ : ∃ packet, macPacketBits pkts.head? = .ok packet := by
      cases pkts with
      | nil => exact ⟨_, rfl⟩
      | cons packet => exact ⟨_, if_neg (Nat.not_lt.2 (hall packet mem_cons_self))⟩
    rw [macPacketsBits, hp, hm]
    exact ⟨_, rfl⟩

lemma built_of_connection (hone : sessionPackets.length ≤ 1)
    (hca : forwardTrafficSecurityCapacityBitsForMacSubtype bits subtype = some cap)
    (h : connectionFormatBBits sessionPackets cap = .ok conn) :
    (formatBFtcPayloadBitsForMacSubtype sessionPackets bits subtype).isOk := by
  have hlen := (connectionFormatBBits_spec h).1
  unfold formatBFtcPayloadBitsForMacSubtype
  rw [hca]
  unfold forwardTrafficSecurityCapacityBitsForMacSubtype legacyForwardTrafficSecurityCapacityBits at hca
  dsimp only
  split_ifs at hca ⊢ with hde hlt hb hb
  · simp only [mem_cons, not_mem_nil, or_false] at hb
    omega
  · cases hca
    obtain ⟨conns, hco, hle, hall⟩ : ∃ conns, singleConnections
        (forwardTrafficMacPacketBits - forwardTrafficMacTrailerBits) sessionPackets = .ok conns ∧
        conns.length = sessionPackets.length ∧ ∀ c ∈ conns, c.length ≤ 1000 := by
      rcases sessionPackets with _ | ⟨packet, _ | _⟩
      · exact ⟨[], rfl, rfl, by simp⟩
      · exact ⟨[conn], by rw [singleConnections, h]; rfl, rfl, forall_mem_singleton.2 hlen.le⟩
      · simp at hone
    have hp : ∀ packet ∈ conns.map fun conn => (conn, true), packet.1.length ≤ 1000 := by simpa using hall
    obtain ⟨physical, hp⟩ := macPacketsBits_ok (i := 0) (bits / 1024) hp
    rw [hco]
    dsimp only [defaultFtcPhysicalPayloadBitsFromMacPackets]
    rw [if_neg (not_not.2 hb), if_neg (by rwa [length_map, hle]), hp]
    rfl
  · obtain ⟨n, hn, hcap⟩ := map_eq_some_iff.1 hca
    rw [h]
    unfold enhancedFtcPhysicalPayloadBits
    rw [hn]
    dsimp only
    rw [if_neg (by rw [hlen, ← hcap]; exact Nat.lt_irrefl _)]
    rfl

lemma fits_of_built (h : formatBFtcPayloadBitsForMacSubtype sessionPackets bits subtype = .ok payload)
    (hmem : packet ∈ sessionPackets) : Fits bits subtype packet := by
  unfold formatBFtcPayloadBitsForMacSubtype at h
  split at h
  · cases h
  rename_i cap hca
  split_ifs at h
  · dsimp only at h
    split_ifs at h
    split at h
    · cases h
    rename_i conns hco
    have hs : Forall₂ (fun group _ => (∃ single, connectionFormatBBits group cap = .ok single) ∧ True) _ _ :=
      (singleConnections_groups hco).imp fun _ _ hc => ⟨⟨_, hc.1⟩, trivial⟩
    obtain ⟨single, hs⟩ := ((forall₂_and_left _ _).1 hs).1 _ (mem_map_of_mem hmem)
    exact built_of_connection (Nat.le_refl 1) hca hs
  · split at h
    · cases h
    · rename_i conn hco
      obtain ⟨single, hs⟩ := connectionFormatBBits_single hco hmem
      exact built_of_connection (Nat.le_refl 1) hca hs

lemma longestFit_isSome (hf : Fits bits subtype packet) (n : ℕ) :
    (longestFit (packet :: sessionPackets) bits subtype (n + 1)).isSome := by
  induction n with
  | zero =>
    rw [longestFit, take_succ_cons, take_zero]
    unfold Fits at hf
    cases hp : formatBFtcPayloadBitsForMacSubtype [packet] bits subtype with
    | ok => rfl
    | error =>
      rw [hp] at hf
      cases hf
  | succ n ih =>
    rw [longestFit]
    split
    · rfl
    · exact ih

lemma splitFormatBSessionPackets_isSome (hf : ∀ packet ∈ sessionPackets, Fits bits subtype packet) :
    (splitFormatBSessionPackets bits subtype sessionPackets).isSome := by
  induction hlen : sessionPackets.length using Nat.strong_induction_on generalizing sessionPackets with
  | _ =>
    rw [splitFormatBSessionPackets]
    split
    · rfl
    rename_i hne
    obtain ⟨packet, more, rfl⟩ := exists_cons_of_ne_nil hne
    have hfit : (longestFit (packet :: more) bits subtype (more.length + 1)).isSome :=
      longestFit_isSome (hf packet mem_cons_self) more.length
    split <;> grind [longestFit_pos]

lemma rebuildOrSplitFormatBSessionPackets_isSome (hne : sessionPackets ≠ [])
    (hf : ∀ packet ∈ sessionPackets, Fits bits subtype packet) :
    (rebuildOrSplitFormatBSessionPackets sessionPackets bits subtype).isSome := by
  unfold rebuildOrSplitFormatBSessionPackets
  split
  · rename_i hc
    obtain ⟨packet, more, rfl⟩ := exists_cons_of_ne_nil hne
    have hfit := hf packet mem_cons_self
    unfold Fits formatBFtcPayloadBitsForMacSubtype at hfit
    rw [isNone_iff_eq_none.1 hc] at hfit
    cases hfit
  · split
    · rfl
    have hs := splitFormatBSessionPackets_isSome hf
    split
    · rename_i hn
      rw [hn] at hs
      cases hs
    rename_i out hout
    rw [if_neg]
    · rfl
    · rintro rfl
      exact hne (splitFormatBSessionPackets_greedy hout).all.symm

lemma formatB_nil (hs : (forwardTrafficSecurityCapacityBitsForMacSubtype bits subtype).isSome) :
    (formatBFtcPayloadBitsForMacSubtype [] bits subtype).isOk := by
  obtain ⟨cap, hca⟩ := isSome_iff_exists.1 hs
  have ha : cap % 8 = 0 := by
    unfold forwardTrafficSecurityCapacityBitsForMacSubtype legacyForwardTrafficSecurityCapacityBits at hca
    split_ifs at hca
    · cases hca
      rfl
    · obtain ⟨n, hn, rfl⟩ := map_eq_some_iff.1 hca
      unfold enhancedForwardTrafficMacPacketBits at hn
      split at hn <;> cases hn <;> rfl
  have hc : connectionFormatBBits [] cap = .ok (replicate cap 0) := by
    rw [connectionFormatBBits, if_neg (not_not.2 ha)]
    rfl
  exact built_of_connection (Nat.zero_le 1) hca hc

/-- **Splitting is complete.** -/
theorem rebuildOrSplitFormatBSessionPackets_complete (sessionPackets : List Bytes) (bits : ℕ) (subtype : UInt16)
    (hs : (forwardTrafficSecurityCapacityBitsForMacSubtype bits subtype).isSome) :
    ((rebuildOrSplitFormatBSessionPackets sessionPackets bits subtype).isSome ↔
      ∀ packet ∈ sessionPackets, Fits bits subtype packet) ∧
    ∀ parts, rebuildOrSplitFormatBSessionPackets sessionPackets bits subtype = some parts →
      Greedy bits subtype sessionPackets parts ∧ ∀ part ∈ parts, part.1.length = bits := by
  refine ⟨⟨fun h => ?_, fun hf => ?_⟩, fun parts h => ?_⟩
  · obtain ⟨parts, hp⟩ := isSome_iff_exists.1 h
    obtain ⟨hb, rfl, -, -⟩ := rebuildOrSplitFormatBSessionPackets_greedy hp
    intro packet hpacket
    obtain ⟨_, hl, hm⟩ := mem_flatten.1 hpacket
    obtain ⟨part, hpart, rfl⟩ := mem_map.1 hl
    exact fits_of_built (hb part hpart) hm
  · by_cases hne : sessionPackets = []
    · have hb := formatB_nil hs
      obtain ⟨capacity, hca⟩ := isSome_iff_exists.1 hs
      rw [hne, rebuildOrSplitFormatBSessionPackets, hca]
      cases hp : formatBFtcPayloadBitsForMacSubtype [] bits subtype with
      | ok => rfl
      | error =>
        rw [hp] at hb
        cases hb
    · exact rebuildOrSplitFormatBSessionPackets_isSome hne hf
  · have hg := rebuildOrSplitFormatBSessionPackets_greedy h
    exact ⟨hg, fun part hpart => (carried_formatB (hg.built part hpart)).1⟩

/-- Two short session packets. -/
theorem rebuildOrSplitFormatBSessionPackets_two :
    (rebuildOrSplitFormatBSessionPackets [[1], [2]] 1024 forwardTrafficMacSubtypeDefault).isSome :=
  (rebuildOrSplitFormatBSessionPackets_complete _ _ _ (by decide)).1.2 (by unfold Fits; decide +kernel)

end Split

/-! ### The session packets of a packet that is started -/

def carriedBy : List ForwardTrafficPacket → Option (List Bytes)
  | [] => some []
  | packet :: packets =>
    (carried packet.payload packet.forwardTrafficMacSubtype).bind fun first =>
      (carriedBy packets).map fun more => first ++ more

lemma carriedBy_single (h : carried packet.payload packet.forwardTrafficMacSubtype = some sessionPackets) :
    carriedBy [packet] = some sessionPackets := by simp [carriedBy, h]

lemma Packed.carriedBy {bits : ℕ} {packet : ForwardTrafficPacket} {sessionPackets : List Bytes}
    {parts : List (Bits × List Bytes)} (h : Packed bits packet.forwardTrafficMacSubtype sessionPackets parts) :
    carriedBy (parts.map fun part => { packet with payload := part.1 }) = some sessionPackets := by
  obtain ⟨hc, rfl⟩ := h
  induction parts with
  | nil => rfl
  | cons part parts ih =>
    obtain ⟨hf, hm⟩ := forall_mem_cons.1 hc
    simp [Hrpd.carriedBy, hf.2, ih hm]

section Rebind

variable {packet : ForwardTrafficPacket} {sessionPackets : List Bytes} {atRate : ForwardRate}
  {rebound : PreparedForwardTrafficPacket × List PreparedForwardTrafficPacket}

section

variable (hs : atRate.payloadBits ≠ packet.payload.length)
include hs

lemma size_ne : atRate.payloadBits ≠
    (PreparedForwardTrafficPacket.fromParts packet (some sessionPackets)).packet.payload.length := hs

lemma rebind_rtcAck
    (hack : rtcAckSequenceNumberFromSessionPackets sessionPackets = some seq)
    (h : rebind (.fromParts packet (some sessionPackets)) atRate = some rebound) :
    rebound.1.packet.payload.length = atRate.payloadBits ∧
    carriedBy (rebound.1.packet :: rebound.2.map fun pkt => pkt.packet) = some [rtcAckPacket seq] := by
  rw [rebind, if_pos (size_ne hs)] at h
  dsimp only [PreparedForwardTrafficPacket.fromParts, bind_some] at h
  rw [hack] at h
  dsimp only at h
  split at h <;> cases h
  rename_i payload hp
  obtain ⟨hlen, hpa⟩ := carried_stream0 hp
  exact ⟨hlen, carriedBy_single hpa⟩

lemma rebind_signaling
    (hack : rtcAckSequenceNumberFromSessionPackets sessionPackets = none)
    (hsi : defaultSignalingPacketFromSessionPackets sessionPackets = some signaling)
    (h : rebind (.fromParts packet (some sessionPackets)) atRate = some rebound) :
    rebound.1.packet.payload.length = atRate.payloadBits ∧
    carriedBy (rebound.1.packet :: rebound.2.map fun pkt => pkt.packet) = some [signaling.encode] := by
  rw [rebind, if_pos (size_ne hs)] at h
  dsimp only [PreparedForwardTrafficPacket.fromParts, bind_some] at h
  rw [hack, hsi] at h
  dsimp only at h
  split at h <;> cases h
  rename_i payload hp
  obtain ⟨hlen, hpa⟩ := carried_stream0 hp
  exact ⟨hlen, carriedBy_single hpa⟩

end

section

variable (hne : sessionPackets ≠ [])
include hne

lemma rebind_other (hs : atRate.payloadBits ≠ packet.payload.length)
    (hack : rtcAckSequenceNumberFromSessionPackets sessionPackets = none)
    (hsi : defaultSignalingPacketFromSessionPackets sessionPackets = none)
    (h : rebind (.fromParts packet (some sessionPackets)) atRate = some rebound) :
    rebound.1.packet.payload.length = atRate.payloadBits ∧
    carriedBy (rebound.1.packet :: rebound.2.map fun pkt => pkt.packet) = some sessionPackets := by
  rw [rebind, if_pos (size_ne hs)] at h
  dsimp only [PreparedForwardTrafficPacket.fromParts, Option.bind_some] at h
  rw [hack, hsi] at h
  dsimp only at h
  split at h <;> cases h
  rename_i first payloads hpa
  have hp := rebuildOrSplitFormatBSessionPackets_packed hne hpa
  refine ⟨(hp.carried first List.mem_cons_self).1, ?_⟩
  rw [List.map_map]
  exact hp.carriedBy

/-- **What a packet that is packed for another payload size carries.** -/
theorem rebind_carriedBy (hsi : atRate.payloadBits ≠ packet.payload.length)
    (h : rebind (.fromParts packet (some sessionPackets)) atRate = some rebound) :
    rebound.1.packet.payload.length = atRate.payloadBits ∧
    (carriedBy (rebound.1.packet :: rebound.2.map fun pkt => pkt.packet) = some sessionPackets ↔
      Repackable sessionPackets) := by
  cases hack : rtcAckSequenceNumberFromSessionPackets sessionPackets with
  | some =>
    obtain ⟨hlen, hc⟩ := rebind_rtcAck hsi hack h
    rw [hc, some_inj]
    exact ⟨hlen, repackable_rtcAck hack⟩
  | none =>
    cases hs : defaultSignalingPacketFromSessionPackets sessionPackets with
    | some =>
      obtain ⟨hlen, hc⟩ := rebind_signaling hsi hack hs h
      rw [hc, some_inj]
      exact ⟨hlen, repackable_signaling hack hs⟩
    | none =>
      obtain ⟨hlen, hc⟩ := rebind_other hne hsi hack hs h
      exact ⟨hlen, iff_of_true hc (.inl (defaultSignalingPacketFromSessionPackets_none hs))⟩

lemma rebind_isSome_of_fits
    (hack : rtcAckSequenceNumberFromSessionPackets sessionPackets = none)
    (hs : defaultSignalingPacketFromSessionPackets sessionPackets = none)
    (hf : ∀ p ∈ sessionPackets, Fits atRate.payloadBits packet.forwardTrafficMacSubtype p) :
    (rebind (.fromParts packet (some sessionPackets)) atRate).isSome := by
  obtain ⟨parts, hp⟩ := isSome_iff_exists.1 (rebuildOrSplitFormatBSessionPackets_isSome hne hf)
  have hall := (rebuildOrSplitFormatBSessionPackets_packed hne hp).all
  unfold rebind
  split
  · dsimp only [PreparedForwardTrafficPacket.fromParts, bind_some]
    rw [hack, hs, hp]
    cases parts <;> grind
  · rfl

end

lemma new_of_parsed (hp : forwardFormatBSessionPackets packet.payload = some sessionPackets) :
    PreparedForwardTrafficPacket.new packet = .fromParts packet (some sessionPackets) := by
  rw [PreparedForwardTrafficPacket.new, hp]

lemma started_rebind {s : HrpdForwardScheduler} {gov : UInt8 → Option UInt8} {start : Start}
    (hs : (s.promoteQueueWithDrc slot gov).2 = some start) (hq : start.queued = .new packet)
    (hp : forwardFormatBSessionPackets packet.payload = some sessionPackets) :
    ∃ rebound, rebind (.fromParts packet (some sessionPackets)) start.state.rate = some rebound ∧
      start.state.packet = rebound.1.packet ∧ start.remainders = rebound.2 := by
  have hsc : (scan slot gov s.active [] s.nextPacketId s.queue).start = some start := hs
  obtain ⟨-, atDrc, atRate, rebound, packetId, -, -, -, hr, hre, hst⟩ := (scan_start hsc).1
  obtain ⟨hpa, rfl⟩ := buildHarqState_some hst
  grind [new_of_parsed]

end Rebind

/-- **A packet that is started at another payload size carries its session packets just if they are repackable.** What is
left over takes its place in the queue. -/
theorem rebinding_lossless_iff (s : HrpdForwardScheduler) (slot : ℕ) (governing : UInt8 → Option UInt8)
    (packet : ForwardTrafficPacket) (sessionPackets : List Bytes) (start : Start)
    (hstart : (s.promoteQueueWithDrc slot governing).2 = some start) (hqueued : start.queued = .new packet)
    (hparse : forwardFormatBSessionPackets packet.payload = some sessionPackets) (hne : sessionPackets ≠ [])
    (hsize : start.state.rate.payloadBits ≠ packet.payload.length) :
    (∃ before kept behind, s.queue = before ++ start.queued :: behind ∧ kept.Sublist before ∧
      (s.promoteQueueWithDrc slot governing).1.queue = kept ++ start.remainders ++ behind ∧
      (s.promoteQueueWithDrc slot governing).1.active = s.active ++ [start.state]) ∧
    (carriedBy (start.state.packet :: start.remainders.map fun pkt => pkt.packet) = some sessionPackets ↔
      Repackable sessionPackets) := by
  have hs : (scan slot governing s.active [] s.nextPacketId s.queue).start = some start := hstart
  obtain ⟨before, hq, hk⟩ := (scan_start hs).2
  refine ⟨⟨before, _, _, hq, hk, ?_, ?_⟩, ?_⟩
  · simp only [promoteQueueWithDrc, hs, map_some, getD_some]
  · simp only [promoteQueueWithDrc, hs, map_some, toList_some]
  · obtain ⟨rebound, hr, hp, hre⟩ := started_rebind hstart hqueued hparse
    rw [hp, hre]
    exact (rebind_carriedBy hne hsize hr).2

/-! ### A packet of 2048 bits that is started at 1024 bits -/

def rate1024 : ForwardRate := ⟨6, 1024, 1⟩

lemma new_enqueue (packet : ForwardTrafficPacket) :
    HrpdForwardScheduler.new.enqueue packet = ⟨[.new packet], [], 1, none⟩ := by
  have hack : (PreparedForwardTrafficPacket.new packet).rtcAckSequenceNumber.any
      (HrpdForwardScheduler.new.hasPendingRtcAck (PreparedForwardTrafficPacket.new packet).packet.macIndex) = false := by
    cases (PreparedForwardTrafficPacket.new packet).rtcAckSequenceNumber <;> rfl
  unfold enqueue enqueuePrepared
  grind [HrpdForwardScheduler.new, HrpdForwardScheduler.position]

lemma start_of_rebind
    (hde : packet.forwardTrafficMacSubtype = forwardTrafficMacSubtypeDefault) (hlen : packet.payload.length = 2048)
    (hp : forwardFormatBSessionPackets packet.payload = some sessionPackets) (hne : sessionPackets ≠ [])
    (hre : (rebind (.fromParts packet (some sessionPackets)) rate1024).isSome) :
    ∃ start, ((HrpdForwardScheduler.new.enqueue packet).promoteQueueWithDrc 1 fun _ => some 6).2 = some start ∧
      start.queued = .new packet ∧ start.state.rate = rate1024 := by
  obtain ⟨rebound, hr⟩ := isSome_iff_exists.1 hre
  have hsi : rebound.1.packet.payload.length = rate1024.payloadBits :=
    (rebind_carriedBy hne (by rw [hlen]; decide) hr).1
  have hsu : rebound.1.packet.forwardTrafficMacSubtype = forwardTrafficMacSubtypeDefault :=
    (rebind_packet hr).2.trans hde
  have hs : (buildHarqState rebound.1 rate1024 1).isSome := by
    unfold buildHarqState
    rw [hsu, hsi]
    rfl
  obtain ⟨state, hs⟩ := isSome_iff_exists.1 hs
  have hra : implementedForwardRateByDrc 6 packet.forwardTrafficMacSubtype = some rate1024 := by
    rw [hde]
    decide
  have ha : attempt 1 (fun _ => some 6) [] 1 (.new packet) = .start ⟨.new packet, state, rebound.2⟩ 2 := by
    rw [new_of_parsed hp]
    exact attempt_eq_start (by simp [maxOutstandingPacketsPerMac]) rfl hra (by decide) hr hs
  refine ⟨⟨.new packet, state, rebound.2⟩, ?_, rfl, (buildHarqState_some hs).2⟩
  rw [new_enqueue]
  unfold promoteQueueWithDrc scan
  rw [if_neg (by simp), ha]

lemma exists_packet (hne : sessionPackets ≠ [])
    (hok : (formatBFtcPayloadBitsForMacSubtype sessionPackets 2048 forwardTrafficMacSubtypeDefault).isOk) :
    ∃ packet : ForwardTrafficPacket, packet.forwardTrafficMacSubtype = forwardTrafficMacSubtypeDefault ∧
      packet.payload.length = 2048 ∧ forwardFormatBSessionPackets packet.payload = some sessionPackets := by
  cases hp : formatBFtcPayloadBitsForMacSubtype sessionPackets 2048 forwardTrafficMacSubtypeDefault with
  | error =>
    rw [hp] at hok
    cases hok
  | ok payload =>
    obtain ⟨hlen, hc⟩ := carried_formatB hp
    refine ⟨⟨5, 0, forwardTrafficMacSubtypeDefault, false, payload⟩, rfl, hlen, ?_⟩
    have hf : forwardFormatBSessionPacketsWithFormat payload legacyForwardPayloadFormat = some sessionPackets := hc hne
    change (forwardPayloadFormats payload.length).findSome? _ = _
    grind [forwardPayloadFormats]

/-- Two packets of a data stream, one in each of two payloads. -/
theorem rebinding_lossless_data : ∃ (packet : ForwardTrafficPacket) (start : Start),
    forwardFormatBSessionPackets packet.payload = some [[0x40, 1, 2], [0x40, 3]] ∧
    ((HrpdForwardScheduler.new.enqueue packet).promoteQueueWithDrc 1 fun _ => some 6).2 = some start ∧
    start.queued = .new packet ∧ start.state.rate.payloadBits ≠ packet.payload.length ∧
    carriedBy (start.state.packet :: start.remainders.map fun pkt => pkt.packet) = some [[0x40, 1, 2], [0x40, 3]] := by
  obtain ⟨packet, hde, hlen, hp⟩ := exists_packet (cons_ne_nil [0x40, 1, 2] [[0x40, 3]]) (by decide +kernel)
  have hf : ∀ p ∈ [[0x40, 1, 2], [0x40, 3]], Fits rate1024.payloadBits packet.forwardTrafficMacSubtype p := by
    rw [hde]
    unfold Fits
    decide +kernel
  obtain ⟨start, hs, hq, hr⟩ := start_of_rebind hde hlen hp (by decide)
    (rebind_isSome_of_fits (by decide) (by decide) (by decide) hf)
  have hsi : start.state.rate.payloadBits ≠ packet.payload.length := by
    rw [hr, hlen]
    decide
  refine ⟨packet, start, hp, hs, hq, hsi, ?_⟩
  exact (rebinding_lossless_iff _ _ _ _ _ _ hs hq hp (by decide) hsi).2.2 (.inl (by decide))

/-- With an RTCAck in front of it, the packet of the data stream is lost. -/
theorem rebinding_loses_data : ∃ (packet : ForwardTrafficPacket) (start : Start),
    forwardFormatBSessionPackets packet.payload = some [[1, 8, 4, 0], [0x40, 1, 2]] ∧
    ((HrpdForwardScheduler.new.enqueue packet).promoteQueueWithDrc 1 fun _ => some 6).2 = some start ∧
    start.queued = .new packet ∧ start.state.rate.payloadBits ≠ packet.payload.length ∧
    (∀ p ∈ [[1, 8, 4, 0], [0x40, 1, 2]], Fits start.state.rate.payloadBits packet.forwardTrafficMacSubtype p) ∧
    carriedBy (start.state.packet :: start.remainders.map fun pkt => pkt.packet) = some [[1, 8, 4, 0]] := by
  obtain ⟨packet, hde, hlen, hp⟩ := exists_packet (cons_ne_nil [1, 8, 4, 0] [[0x40, 1, 2]]) (by decide +kernel)
  have hack : rtcAckSequenceNumberFromSessionPackets [[1, 8, 4, 0], [0x40, 1, 2]] = some 0 := by decide +kernel
  have hso : (rebind (.fromParts packet (some [[1, 8, 4, 0], [0x40, 1, 2]])) rate1024).isSome := by
    have hok : (defaultReverseTrafficMacRtcAckFtcPayloadBitsForMacSubtype 1024 0 forwardTrafficMacSubtypeDefault).isOk := by
      decide +kernel
    rw [rebind, if_pos (size_ne (by rw [hlen]; decide))]
    dsimp only [PreparedForwardTrafficPacket.fromParts, bind_some, rate1024]
    rw [hack, hde]
    dsimp only
    split
    · rfl
    · rename_i hpa
      rw [hpa] at hok
      cases hok
  obtain ⟨start, hs, hq, hr⟩ := start_of_rebind hde hlen hp (by decide) hso
  have hsi : start.state.rate.payloadBits ≠ packet.payload.length := by
    rw [hr, hlen]
    decide
  obtain ⟨rebound, hre, hpac, hrem⟩ := started_rebind hs hq hp
  refine ⟨packet, start, hp, hs, hq, hsi, ?_, ?_⟩
  · rw [hr, hde]
    unfold Fits
    decide +kernel
  · rw [hpac, hrem, (rebind_rtcAck hsi hack hre).2]
    decide +kernel

end OneXBts.Bts.Hrpd
