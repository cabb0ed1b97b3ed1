import OneXBts.Common.Bitstream

/-!
PDUs of the forward common signaling channel (`lac/mod.rs`, `lac/paging_messages.rs`, `lac/message_types.rs`).

A PDU is its type, the ARQ and address fields and the SDU, in a capsule with a length and a CRC. The formats of the dedicated
channel are a parameter: they give a PDU or panic.
-/

namespace OneXBts.Bts.Lac

open Lib Common

inductive ChannelType where
  | fchDcch5ms | fchDcch20ms | fPdch | rPdch | fCcch | fBcch | rCcch | fPch | fSync | rAch | enhancedAccess | fTch
  deriving DecidableEq

inductive MessageId where
  | syncChannelMessage | systemParameters | accessParameters | neighborList | cdmaChannelList | slottedPage
  | page | channelAssignment | authChallenge | ssdUpdate | featureNotification | extSystemParameters
  | extNeighborList | statusRequest | serviceRedirection | generalPage | globalServiceRedirection
  | tmsiAssignment | paca | extChannelAssignment | generalNeighborList | userZoneIdentification
  | privateNeighborList | userZoneReject | extGlobalServiceRedirection | extCdmaChannelList
  | ansi41SystemParameters | mcRrParameters | ansi41Rand | enhancedAccessParameters | universalNeighborList
  | securityModeCommand | universalPage | universalPageFirstSegment | universalPageMiddleSegment
  | universalPageFinalSegment | mcMapSyncChannel | mcMapSystemInformation | mcMapFlowRelease | rTmsiAssignment
  | authenticationRequest | broadcastServiceParameters | meidExtChannelAssignment
  | alternativeTechnologiesInformation | accessPointIdentifier | accessPointIdentifierText
  | accessPointPilotInformation | generalOverheadInformation | flexDuplexCdmaChannelList | order | dataBurst
  | registration | origination | pageResponse | pacaCancel | extStatusResponse | reconnect | radioEnvironment
  | callRecoveryRequest | authChallengeResponse | statusResponse | tmsiAssignmentCompletion | deviceInformation
  | securityModeRequest | authResponse | authResync | generalExtension | alertWithInformation
  | inTrafficSystemParameters | powerControlParameters | powerControl | serviceConnect
  | extendedSupplementalChannelAssignment | flashWithInfo | psmm | powerMeasurementReport | sendBurstDtmf
  | status | originationContinuation | handoffCompletion | parametersResponse | serviceRequest
  | serviceResponse | serviceConnectCompletion | serviceOptionControl | supplementalChannelRequest
  | candidateFreqSearchResponse | candidateFreqSearchReport | periodicPsmm | outerLoopReport | resourceRequest
  | extReleaseResponse | enhancedOrigination | extFlashWithInfo | extPsmm | extHandoffCompletion
  | resourceReleaseRequest | dataBurstResponse | ds41IntersystemTransfer | userZoneUpdateRequest | callCancel
  | mcmapInitialL3 | mcmapL3 | rTmsiAssignmentCompletion | bsStatusRequest | cdmaOfftimeReport | itbspmRequest
  | handoffSuppInfoNotification
  deriving DecidableEq

inductive WireChannel where
  | sync | forwardCommon
  deriving DecidableEq

def MessageId.wireSync : MessageId → Option UInt8
  | .syncChannelMessage => some 0x01
  | _ => none

def MessageId.wireForwardCommon : MessageId → Option UInt8
  | .systemParameters => some 0x01
  | .accessParameters => some 0x02
  | .neighborList => some 0x03
  | .cdmaChannelList => some 0x04
  | .order => some 0x07
  | .channelAssignment => some 0x08
  | .dataBurst => some 0x09
  | .authChallenge => some 0x0A
  | .ssdUpdate => some 0x0B
  | .featureNotification => some 0x0C
  | .extSystemParameters => some 0x0D
  | .extNeighborList => some 0x0E
  | .statusRequest => some 0x0F
  | .serviceRedirection => some 0x10
  | .generalPage => some 0x11
  | .globalServiceRedirection => some 0x12
  | .tmsiAssignment => some 0x13
  | .paca => some 0x14
  | .extChannelAssignment => some 0x15
  | .generalNeighborList => some 0x16
  | .userZoneIdentification => some 0x17
  | .privateNeighborList => some 0x18
  | .userZoneReject => some 0x1C
  | .ansi41SystemParameters => some 0x1D
  | .mcRrParameters => some 0x1E
  | .ansi41Rand => some 0x1F
  | .enhancedAccessParameters => some 0x20
  | .universalNeighborList => some 0x21
  | .securityModeCommand => some 0x22
  | .universalPage => some 0x23
  | .universalPageFirstSegment => some 0x24
  | .universalPageMiddleSegment => some 0x25
  | .universalPageFinalSegment => some 0x26
  | .mcMapSyncChannel => some 0x27
  | .mcMapSystemInformation => some 0x28
  | .mcmapL3 => some 0x29
  | .rTmsiAssignment => some 0x2A
  | .mcMapFlowRelease => some 0x2B
  | .authenticationRequest => some 0x2C
  | .broadcastServiceParameters => some 0x2D
  | .meidExtChannelAssignment => some 0x2E
  | .alternativeTechnologiesInformation => some 0x2F
  | .accessPointIdentifier => some 0x30
  | .accessPointIdentifierText => some 0x31
  | .accessPointPilotInformation => some 0x32
  | .generalOverheadInformation => some 0x33
  | .flexDuplexCdmaChannelList => some 0x34
  | .generalExtension => some 0x3F
  | .extGlobalServiceRedirection => some 0x1A
  | .extCdmaChannelList => some 0x1B
  | _ => none

/-- The two channels on which PDUs are assembled here. -/
def MessageId.wireType (id : MessageId) : WireChannel → Option UInt8
  | .sync => id.wireSync
  | .forwardCommon => id.wireForwardCommon

/-! ### Addresses -/

inductive MsAddress where
  | imsiS (imsiMS1 : UInt32) (imsiMS2 : UInt16)
  | esn (number : UInt32)
  | imsiClass0 (imsiMS1 : UInt32) (imsiMS2 mcc : UInt16) (imsi1112 : UInt8)
  deriving DecidableEq

namespace MsAddress

def mccImplied (mcc overheadMcc : UInt16) : Bool := overheadMcc == 0x03ff || overheadMcc == mcc

def imsi1112Implied (imsi1112 overheadImsi1112 : UInt8) : Bool :=
  overheadImsi1112 == 0x7f || overheadImsi1112 == imsi1112

def imsiClass0OtaTypeAndLen (mcc : UInt16) (imsi1112 : UInt8) (overheadMcc : UInt16) (overheadImsi1112 : UInt8) :
    ℕ × ℕ :=
  match mccImplied mcc overheadMcc, imsi1112Implied imsi1112 overheadImsi1112 with
  | true, true => (0b00, 5)
  | true, false => (0b01, 6)
  | false, true => (0b10, 6)
  | false, false => (0b11, 7)

def addrType : MsAddress → UInt8
  | imsiS .. => 0b000
  | esn .. => 0b001
  | imsiClass0 .. => 0b010

def addrLen (overheadMcc : UInt16) (overheadImsi1112 : UInt8) : MsAddress → ℕ
  | imsiS .. => 5
  | esn .. => 4
  | imsiClass0 _ _ mcc imsi1112 => (imsiClass0OtaTypeAndLen mcc imsi1112 overheadMcc overheadImsi1112).2

def writeAddressBody (overheadMcc : UInt16) (overheadImsi1112 : UInt8) : MsAddress → Bits
  | imsiS imsiMS1 imsiMS2 => writeU64 imsiMS1.toNat 24 ++ writeU64 imsiMS2.toNat 10 ++ writeU64 0 6
  | esn number => writeU64 number.toNat 32
  | imsiClass0 imsiMS1 imsiMS2 mcc imsi1112 =>
    writeU64 0 1 ++ writeU64 (imsiClass0OtaTypeAndLen mcc imsi1112 overheadMcc overheadImsi1112).1 2 ++
    (match mccImplied mcc overheadMcc, imsi1112Implied imsi1112 overheadImsi1112 with
      | true, true => writeU64 0 3
      | true, false => writeU64 0 4 ++ writeU64 imsi1112.toNat 7
      | false, true => writeU64 0 1 ++ writeU64 mcc.toNat 10
      | false, false => writeU64 0 2 ++ writeU64 mcc.toNat 10 ++ writeU64 imsi1112.toNat 7) ++
    writeU64 imsiMS2.toNat 10 ++ writeU64 imsiMS1.toNat 24

def writeTo (overheadMcc : UInt16) (overheadImsi1112 : UInt8) (address : MsAddress) : Bits :=
  writeU64 address.addrType.toNat 3 ++ writeU64 (address.addrLen overheadMcc overheadImsi1112) 4 ++
    address.writeAddressBody overheadMcc overheadImsi1112

def trackingKey (address : MsAddress) : UInt8 × Bytes :=
  (address.addrType, toPackedBytes (match address with
    | imsiS imsiMS1 imsiMS2 => writeU64 imsiMS1.toNat 24 ++ writeU64 imsiMS2.toNat 10
    | esn number => writeU64 number.toNat 32
    | imsiClass0 imsiMS1 imsiMS2 mcc imsi1112 =>
      writeU64 mcc.toNat 10 ++ writeU64 imsi1112.toNat 7 ++ writeU64 imsiMS2.toNat 10 ++ writeU64 imsiMS1.toNat 24))

end MsAddress

/-! ### Messages -/

/-- Nanoseconds since the epoch of CDMA system time. -/
abbrev CdmaSystemTime := ℤ

structure MessageControlStatusBlock where
  channel : ChannelType
  mobilePRev : Option UInt8 := none
  extendedEncryption : Bool := false
  messageId : MessageId
  lengthBits : ℕ
  requestedTxTime : Option CdmaSystemTime := none
  txDeadline : Option CdmaSystemTime := none
  address : Option MsAddress := none
  ackSeq : UInt8 := 0
  msgSeq : UInt8 := 0
  ackReq : Bool := false
  validAck : Bool := false
  overheadMcc : UInt16 := 0x03ff
  overheadImsi1112 : UInt8 := 0x7f
  deriving DecidableEq

structure DataRequest where
  sdu : Bits
  mcsb : MessageControlStatusBlock
  deriving DecidableEq

structure EncapsulatedPdu where
  message : DataRequest
  ePdu : Bits
  frameStartSent : Bool := false
  deriving DecidableEq

inductive LacError where
  /-- `f-csch MSG_SEQ space exhausted within T4m cooldown` -/
  | exhausted
  /-- `utility_assemble_f_csch: {id} has no {channel} wire encoding` -/
  | noWireEncoding (id : MessageId) (channel : WireChannel)
  /-- `unsupported channel: {channel}` -/
  | unsupportedChannel (channel : ChannelType)
  /-- `f-csch capsule too large: pdu={pduBits} bits, encapsulated={octets} octets (max 255)` -/
  | capsuleTooLarge (pduBits octets : ℕ)
  /-- `MSG_SEQ {msgSeq} exceeds modulo 8` -/
  | msgSeqTooLarge (msgSeq : UInt8)
  deriving DecidableEq

/-! ### Assembly -/

def pad8k2 (bits : Bits) : Bits := bits ++ blank ((10 - bits.length % 8) % 8)

def protocolDiscriminator (mcsb : MessageControlStatusBlock) : ℕ :=
  match mcsb.mobilePRev with
  | none => 0
  | some mobilePRev =>
    if mcsb.address.isSome ∧ 9 ≤ mobilePRev ∧
        (mcsb.channel = .fPch ∨ mcsb.channel = .fCcch ∨ mcsb.channel = .fBcch) ∧ mcsb.extendedEncryption then 0b10
    else if mcsb.address.isSome ∧ 7 ≤ mobilePRev ∧ mcsb.channel = .fPch ∧ mcsb.extendedEncryption then 0b01
    else 0

def addressedFields (pd : ℕ) (address : MsAddress) (request : DataRequest) : Bits :=
  writeU64 request.mcsb.ackSeq.toNat 3 ++ writeU64 request.mcsb.msgSeq.toNat 3 ++
  writeU64 request.mcsb.ackReq.toNat 1 ++ writeU64 request.mcsb.validAck.toNat 1 ++
  address.writeTo request.mcsb.overheadMcc request.mcsb.overheadImsi1112 ++
  (if pd = 0b10 then writeU64 0 1 else []) ++
  (if pd = 0b01 ∨ pd = 0b10 ∨ request.mcsb.channel = .fCcch then writeU64 0 1 else []) ++
  (if request.mcsb.messageId = .extChannelAssignment ∨ request.mcsb.messageId = .meidExtChannelAssignment then
    writeU64 0 1 ++ writeU64 ((request.sdu.length + 7) / 8 % 256) 8 else [])

def utilityAssembleFCsch (request : DataRequest) : Except LacError Bits :=
  let wireChannel := if request.mcsb.channel = .fSync then WireChannel.sync else .forwardCommon
  match request.mcsb.messageId.wireType wireChannel with
  | none => .error (.noWireEncoding request.mcsb.messageId wireChannel)
  | some wireTag =>
    if request.mcsb.channel = .fBcch ∨ request.mcsb.channel = .fSync ∨ request.mcsb.channel = .fPch ∨
        request.mcsb.channel = .fCcch ∨ request.mcsb.channel = .fTch then
      let pd := protocolDiscriminator request.mcsb
      let messageType := writeU64 ((pd <<< 6) ||| wireTag.toNat) 8
      match request.mcsb.address with
      | some address => .ok (pad8k2 (messageType ++ addressedFields pd address request ++ request.sdu))
      | none => .ok (pad8k2 (messageType ++ request.sdu))
    else .error (.unsupportedChannel request.mcsb.channel)

def crc30 (data : Bits) : BitVec 32 :=
  let register := data.foldl (fun (register : BitVec 32) bit =>
    if ((register >>> 29) &&& 1 ^^^ bit.toBitVec.setWidth 32) &&& 1 = 1 then
      (register <<< 1) ^^^ 0b100000001100001011100111000111
    else register <<< 1) (0x3fffffff : BitVec 32)
  (register &&& 0x3fffffff) ^^^ 0x3fffffff

def sarEncapsulatePdu (request : DataRequest) (pdu : Bits) : Except LacError EncapsulatedPdu :=
  if request.mcsb.channel ≠ .fSync ∧ request.mcsb.channel ≠ .fPch then
    .error (.unsupportedChannel request.mcsb.channel)
  else
    let octets := (8 + pdu.length + 30 + 7) / 8
    if octets > 255 then .error (.capsuleTooLarge pdu.length octets)
    else
      let capsule := writeU64 octets 8 ++ pdu
      .ok { message := request, ePdu := capsule ++ writeU64 (crc30 capsule).toNat 30 }

/-- `assemble_pdu`; `dsch` gives the PDU on the dedicated channel. The other channels are not implemented. -/
def assemblePdu (dsch : DataRequest → Option Bits) (request : DataRequest) : Outcome LacError EncapsulatedPdu :=
  match request.mcsb.channel with
  | .fSync | .fPch =>
    match (utilityAssembleFCsch request).bind (sarEncapsulatePdu request) with
    | .ok pdu => .ok pdu
    | .error e => .err e
  | .fTch =>
    match dsch request with
    | some ePdu => .ok { message := request, ePdu := ePdu }
    | none => .panic
  | _ => .panic

end OneXBts.Bts.Lac
