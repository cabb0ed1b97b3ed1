import OneXBts.Common.ForwardTraffic

/-!
The forward traffic codec of the scheduler (`hrpd/scheduler/forward_codec.rs`).

The session packets of a physical payload are found by trying the legacy format and then the enhanced one, and they are
packed again for another payload size, into several payloads if one does not hold them.
-/

namespace OneXBts.Bts.Hrpd

open Lib Common Common.HrpdTraffic

/-! ### Session packets of a payload -/

structure ForwardPayloadFormat where
  macPacketBits : ℕ
  fcsBits : ℕ

def legacyForwardPayloadFormat : ForwardPayloadFormat := ⟨forwardTrafficMacPacketBits, physicalFcsBits⟩

def forwardPayloadFormats (physicalPacketBits : ℕ) : List ForwardPayloadFormat :=
  (if physicalPacketBits ∈ [1024, 2048, 3072, 4096] then [legacyForwardPayloadFormat] else []) ++
    match enhancedForwardTrafficMacPacketBits physicalPacketBits with
    | some macPacketBits => [⟨macPacketBits, enhancedPhysicalFcsBits⟩]
    | none => []

/-- `bits_to_u16` and `bits_to_u24`, in a register of width `w`. -/
def bitsToReg (w : ℕ) (bits : Bits) : BitVec w :=
  bits.foldl (fun acc bit => (acc <<< 1) ||| (bit &&& 1).toBitVec.setWidth w) 0

/-- The MAC packet at `macStart`: a valid one is in Format B, one that is not valid is blank. -/
def forwardMacFormatBSessionPackets (payload : Bits) (macStart macPacketBits : ℕ) : Option (List Bytes) :=
  let securityBits := macPacketBits - forwardTrafficMacTrailerBits
  let trailer := macStart + securityBits
  let macEnd := macStart + macPacketBits
  if macEnd > payload.length then none
  else
    let connectionLayerFormatB := (payload.getD trailer 0) &&& 1 ≠ 0
    let macLayerFormatValid := (payload.getD (trailer + 1) 0) &&& 1 ≠ 0
    if ¬ macLayerFormatValid then if anySet ((payload.drop macStart).take macPacketBits) then none else some []
    else if ¬ connectionLayerFormatB then none
    else (parseConnectionFormatBPackets ((payload.drop macStart).take securityBits)).toOption

def legacyMacPackets (payload : Bits) (macIndex : ℕ) : ℕ → Option (List Bytes)
  | 0 => some []
  | count + 1 =>
    let macStart := macIndex * (forwardTrafficMacPacketBits + forwardTrafficMacPadBits)
    if macIndex > 0 ∧ anySet ((payload.drop (macStart - forwardTrafficMacPadBits)).take forwardTrafficMacPadBits) then none
    else
      match forwardMacFormatBSessionPackets payload macStart forwardTrafficMacPacketBits with
      | none => none
      | some packets => (legacyMacPackets payload (macIndex + 1) count).map fun more => packets ++ more

def legacyForwardFormatBSessionPackets (payload : Bits) (macBits : ℕ) : Option (List Bytes) :=
  let macPackets := (macBits + forwardTrafficMacPadBits) / (forwardTrafficMacPacketBits + forwardTrafficMacPadBits)
  if macPackets = 0 ∨
      macBits ≠ macPackets * forwardTrafficMacPacketBits + (macPackets - 1) * forwardTrafficMacPadBits then none
  else
    match legacyMacPackets payload 0 macPackets with
    | none => none
    | some packets => if packets = [] then none else some packets

def fcsValid (payload : Bits) (macBits fcsBits : ℕ) : Bool :=
  let expectedFcs := (payload.drop macBits).take fcsBits
  if fcsBits = physicalFcsBits then bitsToReg 16 expectedFcs = physicalCrc16 (payload.take macBits)
  else if fcsBits = enhancedPhysicalFcsBits then bitsToReg 32 expectedFcs = physicalCrc24 (payload.take macBits)
  else false

def forwardFormatBSessionPacketsWithFormat (payload : Bits) (format : ForwardPayloadFormat) : Option (List Bytes) :=
  if payload.length ≤ format.fcsBits + physicalTailBits + forwardTrafficMacTrailerBits then none
  else if anySet (payload.drop (payload.length - physicalTailBits)) then none
  else
    let macBits := payload.length - format.fcsBits - physicalTailBits
    if ¬ fcsValid payload macBits format.fcsBits then none
    else if macBits < format.macPacketBits then none
    else if format.fcsBits = physicalFcsBits ∧ format.macPacketBits = forwardTrafficMacPacketBits then
      legacyForwardFormatBSessionPackets payload macBits
    else forwardMacFormatBSessionPackets payload 0 format.macPacketBits

def forwardFormatBSessionPackets (payload : Bits) : Option (List Bytes) :=
  (forwardPayloadFormats payload.length).findSome? (forwardFormatBSessionPacketsWithFormat payload)

/-! ### Packing again -/

/-- The longest list of session packets, of at most `count` from the front, that a payload holds. -/
def longestFit (remaining : List Bytes) (physicalPacketBits : ℕ) (forwardTrafficMacSubtype : UInt16) :
    ℕ → Option (ℕ × Bits)
  | 0 => none
  | count + 1 =>
    match formatBFtcPayloadBitsForMacSubtype (remaining.take (count + 1)) physicalPacketBits forwardTrafficMacSubtype with
    | .ok payload => some (count + 1, payload)
    | .error _ => longestFit remaining physicalPacketBits forwardTrafficMacSubtype count

lemma longestFit_pos (h : longestFit remaining bits subtype n = some fit) : 0 < fit.1 := by
  induction n with
  | zero => cases h
  | succ n ih =>
    rw [longestFit] at h
    split at h
    · cases h
      exact Nat.succ_pos n
    · exact ih h

def splitFormatBSessionPackets (physicalPacketBits : ℕ) (forwardTrafficMacSubtype : UInt16) (remaining : List Bytes) :
    Option (List (Bits × List Bytes)) :=
  if remaining = [] then some []
  else
    match _ : longestFit remaining physicalPacketBits forwardTrafficMacSubtype remaining.length with
    | none => none
    | some fit =>
      (splitFormatBSessionPackets physicalPacketBits forwardTrafficMacSubtype (remaining.drop fit.1)).map fun parts =>
        (fit.2, remaining.take fit.1) :: parts
termination_by remaining.length
decreasing_by
  rename_i hnil hfit
  have := longestFit_pos hfit
  have := List.length_pos_iff.2 hnil
  rw [List.length_drop]
  omega

def rebuildOrSplitFormatBSessionPackets (sessionPackets : List Bytes) (physicalPacketBits : ℕ)
    (forwardTrafficMacSubtype : UInt16) : Option (List (Bits × List Bytes)) :=
  if (forwardTrafficSecurityCapacityBitsForMacSubtype physicalPacketBits forwardTrafficMacSubtype).isNone then none
  else
    match formatBFtcPayloadBitsForMacSubtype sessionPackets physicalPacketBits forwardTrafficMacSubtype with
    | .ok payload => some [(payload, sessionPackets)]
    | .error _ =>
      match splitFormatBSessionPackets physicalPacketBits forwardTrafficMacSubtype sessionPackets with
      | none => none
      | some out => if out = [] then none else some out

/-! ### Default signaling -/

structure DefaultSignalingPacket where
  protocolType : UInt8
  payload : Bytes
  reliableSequenceNumber : Option UInt8
  ackSequenceNumber : Option UInt8
  inConfiguration : Bool
  deriving DecidableEq, Repr

def slpSequenceMask : UInt8 := 0x07

/-- The value of `width` bits from `offset` on. The offset that the source moves along is written out at every call. -/
def readField (bits : Bits) (offset width : ℕ) : Option ℕ :=
  if offset + width > bits.length then none else some (readU64 ((bits.drop offset).take width))

def parseSnpPacket (bits : Bits) (offset : ℕ) (reliableSequenceNumber ackSequenceNumber : Option UInt8) :
    Option DefaultSignalingPacket :=
  if offset = bits.length then none
  else do
    let inConfiguration ← readField bits offset 1
    let protocolType ← readField bits (offset + 1) 7
    if (bits.length - (offset + 8)) % 8 ≠ 0 then none
    else
      some {
        protocolType := protocolType.toUInt8
        payload := (chunks 8 (bits.drop (offset + 8))).map unpackU8
        reliableSequenceNumber := reliableSequenceNumber
        ackSequenceNumber := ackSequenceNumber
        inConfiguration := inConfiguration ≠ 0 }

def parseDefaultSignalingPacket (packet : Bytes) : Option DefaultSignalingPacket := do
  let bits := octetBits packet
  let stream ← readField bits 0 2
  let _reserved ← readField bits 2 4
  let fragmented ← readField bits 6 1
  if stream ≠ 0 ∨ fragmented ≠ 0 then none
  else do
    let fullSlpDHeader ← readField bits 7 1
    if fullSlpDHeader ≠ 0 then do
      let ackSequenceValid ← readField bits 8 1
      let ackSequence ← readField bits 9 3
      let sequenceValid ← readField bits 12 1
      let sequenceNumber ← readField bits 13 3
      parseSnpPacket bits 16
        (if sequenceValid ≠ 0 then some (sequenceNumber.toUInt8 &&& slpSequenceMask) else none)
        (if ackSequenceValid ≠ 0 then some (ackSequence.toUInt8 &&& slpSequenceMask) else none)
    else parseSnpPacket bits 8 none none

def defaultSignalingPacketFromSessionPackets (sessionPackets : List Bytes) : Option DefaultSignalingPacket :=
  sessionPackets.findSome? parseDefaultSignalingPacket

def reliableRtcAckSequenceNumber (packet : Bytes) : Option UInt8 :=
  if packet.length ≠ 4 then none
  else do
    let bits := octetBits packet
    let stream ← readField bits 0 2
    let _reserved ← readField bits 2 4
    let fragmented ← readField bits 6 1
    let fullSlpDHeader ← readField bits 7 1
    if stream ≠ 0 ∨ fragmented ≠ 0 ∨ fullSlpDHeader ≠ 1 then none
    else do
      let _ackSequenceValid ← readField bits 8 1
      let _ackSequenceNumber ← readField bits 9 3
      let sequenceValid ← readField bits 12 1
      let sequenceNumber ← readField bits 13 3
      let _inConfiguration ← readField bits 16 1
      let protocolType ← readField bits 17 7
      if sequenceValid ≠ 1 ∨ protocolType.toUInt8 ≠ defaultReverseTrafficChannelMacProtocolType then none
      else if 24 + 8 ≠ bits.length then none
      else do
        let messageId ← readField bits 24 8
        if messageId.toUInt8 = reverseTrafficChannelMacRtcAckMessageId then
          some (sequenceNumber.toUInt8 &&& slpSequenceMask)
        else none

def rtcAckSequenceNumberFromSessionPackets (sessionPackets : List Bytes) : Option UInt8 := do
  let packet ← sessionPackets.find? fun packet => packet.length = 4 ∧ (reliableRtcAckSequenceNumber packet).isSome
  reliableRtcAckSequenceNumber packet

end OneXBts.Bts.Hrpd
