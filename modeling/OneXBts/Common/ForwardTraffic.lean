import OneXBts.Common.ConnectionFormatB

/-!
Packets of the Forward Traffic Channel (`hrpd/traffic.rs`, `hrpd/air.rs`).

A connection layer packet gets a trailer of two bits (Format B, valid) and becomes a MAC packet. With the default MAC subtype
a physical packet holds one for every 1024 bits, with padding and a frame check sequence of 16 bits; with the enhanced one
it holds a single one and a frame check sequence of 24 bits. Six tail bits end both.
-/

namespace OneXBts.Common.HrpdTraffic

open Lib Common

def forwardTrafficMacSubtypeDefault : UInt16 := 0x0000
def forwardTrafficMacSubtypeEnhanced : UInt16 := 0x0001

def forwardTrafficMacPacketBits : ℕ := 1002
def forwardTrafficMacPadBits : ℕ := 22
def forwardTrafficMacTrailerBits : ℕ := 2
def physicalFcsBits : ℕ := 16
def enhancedPhysicalFcsBits : ℕ := 24
def physicalTailBits : ℕ := 6

/-! ### Sizes -/

def forwardTrafficPayloadBitsForDrc (drcIndex : UInt8) : Option ℕ :=
  if drcIndex ∈ [0x1, 0x2, 0x3, 0x4, 0x6] then some 1024
  else if drcIndex ∈ [0x5, 0x7, 0x9] then some 2048
  else if drcIndex ∈ [0x8, 0xb] then some 3072
  else if drcIndex ∈ [0xa, 0xc] then some 4096
  else if drcIndex ∈ [0xd, 0xe] then some 5120
  else none

def forwardTrafficPayloadBitsForDrcForMacSubtype (drcIndex : UInt8) (forwardTrafficMacSubtype : UInt16) : Option ℕ :=
  if forwardTrafficMacSubtype = forwardTrafficMacSubtypeDefault then
    if drcIndex ∈ [0x1, 0x2, 0x3, 0x4, 0x6] then some 1024
    else if drcIndex ∈ [0x5, 0x7, 0x9] then some 2048
    else if drcIndex ∈ [0x8, 0xb] then some 3072
    else if drcIndex ∈ [0xa, 0xc] then some 4096
    else none
  else if forwardTrafficMacSubtype = forwardTrafficMacSubtypeEnhanced then forwardTrafficPayloadBitsForDrc drcIndex
  else none

def enhancedForwardTrafficMacPacketBits (physicalPacketBits : ℕ) : Option ℕ :=
  match physicalPacketBits with
  | 128 => some 98
  | 256 => some 226
  | 512 => some 482
  | 1024 => some 994
  | 2048 => some 2018
  | 3072 => some 3042
  | 4096 => some 4066
  | 5120 => some 5090
  | _ => none

def forwardTrafficSecurityCapacityBits (physicalPacketBits : ℕ) : Option ℕ :=
  (enhancedForwardTrafficMacPacketBits physicalPacketBits).map fun bits => bits - forwardTrafficMacTrailerBits

def legacyForwardTrafficSecurityCapacityBits (physicalPacketBits : ℕ) : Option ℕ :=
  if physicalPacketBits ∈ [1024, 2048, 3072, 4096] then some (forwardTrafficMacPacketBits - forwardTrafficMacTrailerBits)
  else none

def forwardTrafficSecurityCapacityBitsForMacSubtype (physicalPacketBits : ℕ) (forwardTrafficMacSubtype : UInt16) :
    Option ℕ :=
  if forwardTrafficMacSubtype = forwardTrafficMacSubtypeDefault then
    legacyForwardTrafficSecurityCapacityBits physicalPacketBits
  else if forwardTrafficMacSubtype = forwardTrafficMacSubtypeEnhanced then
    forwardTrafficSecurityCapacityBits physicalPacketBits
  else none

/-! ### Frame check sequences -/

def clockCrc16 (reg : BitVec 16) (bit : UInt8) : BitVec 16 :=
  let feedback := ((reg >>> 15) &&& 1) ^^^ (bit &&& 1).toBitVec.setWidth 16
  let next := reg <<< 1
  if feedback ≠ 0 then next ^^^ 0x1021 else next

def physicalCrc16 (bits : Bits) : BitVec 16 := bits.foldl clockCrc16 0

def clockCrc24 (reg : BitVec 32) (bit : UInt8) : BitVec 32 :=
  let feedback := ((reg >>> 23) &&& 1) ^^^ (bit &&& 1).toBitVec.setWidth 32
  let next := (reg <<< 1) &&& 0x00ffffff
  if feedback ≠ 0 then next ^^^ 0x00800063 else next

def physicalCrc24 (bits : Bits) : BitVec 32 := bits.foldl clockCrc24 0

/-! ### Physical packets -/

def validMacPacket (securityCapacity : ℕ) (connectionLayerPacketBits : Bits) (connectionLayerFormatB : Bool) : Bits :=
  (connectionLayerPacketBits.map fun b => b &&& 1) ++
    List.replicate (securityCapacity - connectionLayerPacketBits.length) 0 ++ [connectionLayerFormatB.toNat.toUInt8, 1]

/-- The MAC packet of the default subtype with some index; there may be none left for it. -/
def macPacketBits : Option (Bits × Bool) → Except TrafficFrameError Bits
  | some packet =>
    let securityCapacity := forwardTrafficMacPacketBits - forwardTrafficMacTrailerBits
    if packet.1.length > securityCapacity then
      .error (.tooManyBits "forward traffic security packet" packet.1.length securityCapacity)
    else .ok (validMacPacket securityCapacity packet.1 packet.2)
  | none => .ok (List.replicate forwardTrafficMacPacketBits 0)

def macPacketsBits (macIndex : ℕ) : ℕ → List (Bits × Bool) → Except TrafficFrameError Bits
  | 0, _ => .ok []
  | count + 1, packets =>
    match macPacketBits packets.head? with
    | .error e => .error e
    | .ok packet =>
      match macPacketsBits (macIndex + 1) count packets.tail with
      | .error e => .error e
      | .ok physical =>
        .ok ((if macIndex > 0 then List.replicate forwardTrafficMacPadBits 0 else []) ++ packet ++ physical)

def defaultFtcPhysicalPayloadBitsFromMacPackets (packets : List (Bits × Bool)) (physicalPacketBits : ℕ) :
    Except TrafficFrameError Bits :=
  if physicalPacketBits ∉ [1024, 2048, 3072, 4096] then .error (.physicalPacketTooSmall physicalPacketBits)
  else
    let macPackets := physicalPacketBits / 1024
    if packets.length > macPackets then
      .error (.tooManyBits "forward traffic MAC packets" packets.length macPackets)
    else
      match macPacketsBits 0 macPackets packets with
      | .error e => .error e
      | .ok physical =>
        .ok (physical ++ writeU64 (physicalCrc16 physical).toNat physicalFcsBits ++ List.replicate physicalTailBits 0)

def defaultFtcPhysicalPayloadBits (connectionLayerPacketBits : Bits) (connectionLayerFormatB : Bool)
    (physicalPacketBits : ℕ) : Except TrafficFrameError Bits :=
  defaultFtcPhysicalPayloadBitsFromMacPackets [(connectionLayerPacketBits, connectionLayerFormatB)] physicalPacketBits

def enhancedFtcPhysicalPayloadBits (connectionLayerPacketBits : Bits) (connectionLayerFormatB : Bool)
    (physicalPacketBits : ℕ) : Except TrafficFrameError Bits :=
  match enhancedForwardTrafficMacPacketBits physicalPacketBits with
  | none => .error (.physicalPacketTooSmall physicalPacketBits)
  | some macPacketBits =>
    let securityCapacity := macPacketBits - forwardTrafficMacTrailerBits
    if connectionLayerPacketBits.length > securityCapacity then
      .error (.tooManyBits "enhanced forward traffic security packet" connectionLayerPacketBits.length securityCapacity)
    else
      let physical := validMacPacket securityCapacity connectionLayerPacketBits connectionLayerFormatB
      .ok (physical ++ writeU64 (physicalCrc24 physical).toNat enhancedPhysicalFcsBits ++
        List.replicate physicalTailBits 0)

def ftcPhysicalPayloadBitsForMacSubtype (connectionLayerPacketBits : Bits) (connectionLayerFormatB : Bool)
    (physicalPacketBits : ℕ) (forwardTrafficMacSubtype : UInt16) : Except TrafficFrameError Bits :=
  if forwardTrafficMacSubtype = forwardTrafficMacSubtypeDefault then
    defaultFtcPhysicalPayloadBits connectionLayerPacketBits connectionLayerFormatB physicalPacketBits
  else if forwardTrafficMacSubtype = forwardTrafficMacSubtypeEnhanced then
    enhancedFtcPhysicalPayloadBits connectionLayerPacketBits connectionLayerFormatB physicalPacketBits
  else .error (.physicalPacketTooSmall physicalPacketBits)

def singleConnections (securityCapacity : ℕ) : List Bytes → Except TrafficFrameError (List Bits)
  | [] => .ok []
  | packet :: packets =>
    match connectionFormatBBits [packet] securityCapacity with
    | .error e => .error e
    | .ok connection => (singleConnections securityCapacity packets).map fun connections => connection :: connections

/-- With the default subtype every session packet has a MAC packet of its own. -/
def formatBFtcPayloadBitsForMacSubtype (sessionPackets : List Bytes) (physicalPacketBits : ℕ)
    (forwardTrafficMacSubtype : UInt16) : Except TrafficFrameError Bits :=
  match forwardTrafficSecurityCapacityBitsForMacSubtype physicalPacketBits forwardTrafficMacSubtype with
  | none => .error (.physicalPacketTooSmall physicalPacketBits)
  | some securityCapacity =>
    if forwardTrafficMacSubtype = forwardTrafficMacSubtypeDefault then
      let macPackets := physicalPacketBits / 1024
      if sessionPackets.length > macPackets then
        .error (.tooManyBits "default forward traffic MAC packets" sessionPackets.length macPackets)
      else
        match singleConnections securityCapacity sessionPackets with
        | .error e => .error e
        | .ok connections =>
          defaultFtcPhysicalPayloadBitsFromMacPackets (connections.map fun connection => (connection, true))
            physicalPacketBits
    else if forwardTrafficMacSubtype = forwardTrafficMacSubtypeEnhanced then
      match connectionFormatBBits sessionPackets securityCapacity with
      | .error e => .error e
      | .ok connection => enhancedFtcPhysicalPayloadBits connection true physicalPacketBits
    else .error (.physicalPacketTooSmall physicalPacketBits)

/-! ### Default signaling -/

def defaultReverseTrafficChannelMacProtocolType : UInt8 := 0x04
def reverseTrafficChannelMacRtcAckMessageId : UInt8 := 0x00
def reverseTrafficChannelMacGrantMessageId : UInt8 := 0x03

def encodeDefaultSignalingPacketForInstance (protocolType : UInt8) (payload : Bytes) (inConfiguration : Bool) : Bytes :=
  toPackedBytes (writeU64 0 2 ++ writeU64 0 4 ++ writeU64 0 1 ++ writeU64 0 1 ++ writeU64 inConfiguration.toNat 1 ++
    writeU64 (protocolType &&& 0x7f).toNat 7 ++ payload.flatMap fun byte => writeU64 byte.toNat 8)

def encodeReliableDefaultSignalingPacketForInstanceWithAck (protocolType : UInt8) (payload : Bytes)
    (sequenceNumber : UInt8) (inConfiguration : Bool) (ackSequenceNumber : Option UInt8) : Bytes :=
  toPackedBytes (writeU64 0 2 ++ writeU64 0 4 ++ writeU64 0 1 ++ writeU64 1 1 ++
    writeU64 ackSequenceNumber.isSome.toNat 1 ++ writeU64 ((ackSequenceNumber.getD 0) &&& 0x07).toNat 3 ++
    writeU64 1 1 ++ writeU64 (sequenceNumber &&& 0x07).toNat 3 ++ writeU64 inConfiguration.toNat 1 ++
    writeU64 (protocolType &&& 0x7f).toNat 7 ++ payload.flatMap fun byte => writeU64 byte.toNat 8)

def encodeReliableDefaultSignalingPacketForInstance (protocolType : UInt8) (payload : Bytes) (sequenceNumber : UInt8)
    (inConfiguration : Bool) : Bytes :=
  encodeReliableDefaultSignalingPacketForInstanceWithAck protocolType payload sequenceNumber inConfiguration none

def encodeReliableDefaultSignalingPacket (protocolType : UInt8) (payload : Bytes) (sequenceNumber : UInt8) : Bytes :=
  encodeReliableDefaultSignalingPacketForInstance protocolType payload sequenceNumber false

def stream0SignalingFtcPhysicalPayloadBitsForMacSubtype (physicalPacketBits : ℕ) (sessionPackets : List Bytes)
    (forwardTrafficMacSubtype : UInt16) : Except TrafficFrameError Bits :=
  match forwardTrafficSecurityCapacityBitsForMacSubtype physicalPacketBits forwardTrafficMacSubtype with
  | none => .error (.physicalPacketTooSmall physicalPacketBits)
  | some securityCapacity =>
    match connectionFormatBBits sessionPackets securityCapacity with
    | .error e => .error e
    | .ok connection =>
      ftcPhysicalPayloadBitsForMacSubtype connection true physicalPacketBits forwardTrafficMacSubtype

def defaultReverseTrafficMacRtcAckFtcPayloadBitsForMacSubtype (physicalPacketBits : ℕ) (sequenceNumber : UInt8)
    (forwardTrafficMacSubtype : UInt16) : Except TrafficFrameError Bits :=
  let signaling := encodeReliableDefaultSignalingPacket defaultReverseTrafficChannelMacProtocolType
    [reverseTrafficChannelMacRtcAckMessageId] sequenceNumber
  stream0SignalingFtcPhysicalPayloadBitsForMacSubtype physicalPacketBits [signaling] forwardTrafficMacSubtype

/-- Without a sequence number of its own the packet has no place for the one that it acknowledges. -/
def defaultSignalingFtcPayloadBitsWithAckForMacSubtype (physicalPacketBits : ℕ) (protocolType : UInt8) (payload : Bytes)
    (reliableSequenceNumber : Option UInt8) (inConfiguration : Bool) (ackSequenceNumber : Option UInt8)
    (forwardTrafficMacSubtype : UInt16) : Except TrafficFrameError Bits :=
  let signaling :=
    match reliableSequenceNumber with
    | some sequence =>
      encodeReliableDefaultSignalingPacketForInstanceWithAck protocolType payload sequence inConfiguration
        ackSequenceNumber
    | none => encodeDefaultSignalingPacketForInstance protocolType payload inConfiguration
  stream0SignalingFtcPhysicalPayloadBitsForMacSubtype physicalPacketBits [signaling] forwardTrafficMacSubtype

end OneXBts.Common.HrpdTraffic
