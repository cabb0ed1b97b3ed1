import OneXBts.Lib.BitField

/-!
The RLP Type 3 frame codec (`rlp3_frames.rs`).

A frame of the fundamental channel is an information field and a TYPE; Format A carries everything but the two Format B
frames. A frame of the supplemental channel is a block of 170 or 346 bits, in Format C or D. The encoders fill an array that
starts blank (`Cursor`); the decoders read fields at fixed positions. Slices and indexing panic as the source's do.
-/

namespace OneXBts.Packet.Rlp3

open Lib

/-! ### Errors and sizes -/

inductive RlpError where
  | insufficientBits (expected got : ℕ)
  | fcsInvalid (expected got : UInt16)
  | invalidCtl (v : ℕ)
  | dataTooLong (max got : ℕ)
  | invalidType (v : ℕ)
  | invalidNakType (v : ℕ)
  | invalidFrame (msg : String)
  deriving DecidableEq, Repr

/-- Physical layer rate of the fundamental channel. -/
inductive FrameRate where
  | full | half | quarter | eighth | blank
  deriving DecidableEq, Repr

/-- Multiplex option: it decides the sizes of a frame. -/
inductive MuxOption where
  | odd | even
  deriving DecidableEq, Repr

namespace MuxOption

def frameBits : MuxOption → ℕ
  | odd => 171
  | even => 266

def typeBits : MuxOption → ℕ
  | odd => 3
  | even => 2

def infoBits (mux : MuxOption) : ℕ := mux.frameBits - mux.typeBits

def typeFormatA : MuxOption → ℕ
  | odd => 0b001
  | even => 0b01

def typeFormatBNew : MuxOption → ℕ
  | odd => 0b010
  | even => 0b10

def typeFormatBRexmit : MuxOption → ℕ
  | odd => 0b011
  | even => 0b11

def maxDataLen : MuxOption → ℕ
  | odd => 19
  | even => 31

def formatBDataLen : MuxOption → ℕ
  | odd => 20
  | even => 32

end MuxOption

/-! ### Frames -/

/-- Control frame type, by its 6-bit CTL field. -/
inductive Rlp3ControlType where
  | sync | ack | syncAck | nak
  deriving DecidableEq, Repr

namespace Rlp3ControlType

def ctlBits : Rlp3ControlType → ℕ
  | sync => 0b110110
  | ack => 0b111010
  | syncAck => 0b111110
  | nak => 0b110000

def fromCtlBits (ctl : ℕ) : Option Rlp3ControlType :=
  match ctl % 64 with
  | 0b110110 => some sync
  | 0b111010 => some ack
  | 0b111110 => some syncAck
  | 0b110000 => some nak
  | _ => none

end Rlp3ControlType

structure NakGapEntry where
  first : ℕ
  last : ℕ
  deriving DecidableEq, Repr

/-- A missing sequence number and a bitmap of the eight after it. -/
structure NakMapEntry where
  nakMapSeq : ℕ
  nakMap : UInt8
  deriving DecidableEq, Repr

structure NakSegRangeEntry where
  frameSeq : ℕ
  firstSSeq : ℕ
  lastSSeq : ℕ
  deriving DecidableEq, Repr

/-- A first missing segment of a frame and a count. -/
structure NakSegLenEntry where
  frameSeq : ℕ
  firstSSeq : ℕ
  lengthSSeq : UInt8
  deriving DecidableEq, Repr

inductive NakPayload where
  | gap (entries : List NakGapEntry)
  | map (entries : List NakMapEntry)
  | segmentRange (entries : List NakSegRangeEntry)
  | segmentLength (entries : List NakSegLenEntry)
  deriving DecidableEq, Repr

/-- An RLP Type 3 frame. `seq` is the low octet of the 12-bit L_SEQ, `seqHi` its four high bits. -/
inductive Rlp3Frame where
  | control (seq : UInt8) (controlType : Rlp3ControlType) (initVar nakParamIncl : Bool)
  | nak (seq : UInt8) (seqHi : ℕ) (payload : NakPayload)
  | data (seq : UInt8) (rexmit : Bool) (data : Bytes)
  | segmented (seq : UInt8) (sqi lastSeg rexmit : Bool) (seqHi : Option ℕ) (sSeq : ℕ) (data : Bytes)
  | dataFormatB (seq : UInt8) (rexmit : Bool) (data : Bytes)
  | fill (seq : UInt8) (seqHi : ℕ)
  | idle1 (seq : UInt8) (seqHi : ℕ)
  | idle2 (seq : UInt8)
  deriving DecidableEq, Repr

/-! ### The check sequence -/

/-- FCS-16 over bits: the octets in order, each from its least significant bit. -/
def fcs16 (bits : Bits) : UInt16 := ((chunks 8 bits).flatMap List.reverse).foldl crcStep 0xFFFF ^^^ 0xFFFF

abbrev getBits (bits : Bits) (offset n : ℕ) : Outcome RlpError ℕ := readBits bits offset n

def tryGetBits (bits : Bits) (offset n : ℕ) : Outcome RlpError ℕ :=
  if offset + n > bits.length then .err (.insufficientBits (offset + n) bits.length)
  else getBits bits offset n

/-- The check sequence is written low octet first. -/
def putFcs16 (bits : Bits) (offset : ℕ) (fcs : UInt16) : Outcome RlpError Bits := do
  let bits ← writeBits offset (fcs.toNat % 256) 8 bits
  writeBits (offset + 8) (fcs.toNat / 256) 8 bits

def getFcs16 (bits : Bits) (offset : ℕ) : Outcome RlpError UInt16 := do
  let lo ← getBits bits offset 8
  let hi ← getBits bits (offset + 8) 8
  return UInt16.ofNat (hi * 256 + lo)

def alignToOctet (pos : ℕ) : ℕ := (pos + 7) / 8 * 8

/-! ### Encoding -/

def boolBit (b : Bool) : ℕ := if b then 1 else 0

def wrapFormatA (info : Bits) (mux : MuxOption) : Outcome RlpError Bits :=
  writeBits mux.infoBits mux.typeFormatA mux.typeBits (info ++ blank (mux.frameBits - info.length))

/-- SEQ(8) + CTL(6) + INIT_VAR(1) + NAK_PARAM_INCL(1) + FCS(16). -/
def encodeControl (seq : UInt8) (controlType : Rlp3ControlType) (initVar nakParamIncl : Bool)
    (mux : MuxOption) : Outcome RlpError Bits := do
  let c : Cursor := ⟨blank mux.infoBits, 0⟩
  let c ← c.put seq.toNat 8
  let c ← c.put controlType.ctlBits 6
  let c ← c.put (boolBit initVar) 1
  let c ← c.put (boolBit nakParamIncl) 1
  let info ← putFcs16 c.bits c.pos (fcs16 (c.bits.take 16))
  wrapFormatA info mux

def putGapEntry (c : Cursor) (entry : NakGapEntry) : Outcome RlpError Cursor := do
  let c ← c.put entry.first 12
  c.put entry.last 12

def putMapEntry (c : Cursor) (entry : NakMapEntry) : Outcome RlpError Cursor := do
  let c ← c.put entry.nakMapSeq 12
  c.put entry.nakMap.toNat 8

def putSegRangeEntry (c : Cursor) (entry : NakSegRangeEntry) : Outcome RlpError Cursor := do
  let c ← c.put entry.frameSeq 12
  let c ← c.put entry.firstSSeq 12
  c.put entry.lastSSeq 12

def putSegLenEntry (c : Cursor) (entry : NakSegLenEntry) : Outcome RlpError Cursor := do
  let c ← c.put entry.frameSeq 12
  let c ← c.put entry.firstSSeq 12
  c.put entry.lengthSSeq.toNat 8

/-- The two-bit count of a NAK, one less than the number of entries, and the entries. -/
def putEntries {α : Type} (putEntry : Cursor → α → Outcome RlpError Cursor) (c : Cursor)
    (entries : List α) : Outcome RlpError Cursor := do
  let c ← c.put ((entries.length - 1) % 4) 2
  entries.foldlM putEntry c

def NakPayload.nakType : NakPayload → ℕ
  | gap _ => 0b00
  | map _ => 0b01
  | segmentRange _ => 0b10
  | segmentLength _ => 0b11

def putPayload (c : Cursor) : NakPayload → Outcome RlpError Cursor
  | .gap entries => putEntries putGapEntry c entries
  | .map entries => putEntries putMapEntry c entries
  | .segmentRange entries => putEntries putSegRangeEntry c entries
  | .segmentLength entries => putEntries putSegLenEntry c entries

/-- SEQ(8) + CTL(6) + NAK_TYPE(2) + SEQ_HI(4) + the entries, padded to an octet, + FCS(16). -/
def encodeNak (seq : UInt8) (seqHi : ℕ) (payload : NakPayload) (mux : MuxOption) :
    Outcome RlpError Bits := do
  let c : Cursor := ⟨blank mux.infoBits, 0⟩
  let c ← c.put seq.toNat 8
  let c ← c.put Rlp3ControlType.nak.ctlBits 6
  let c ← c.put payload.nakType 2
  let c ← c.put seqHi 4
  let c ← putPayload c payload
  let fcsPos := alignToOctet c.pos
  if fcsPos + 16 > mux.infoBits then .err (.insufficientBits (fcsPos + 16) mux.infoBits)
  else do
    let info ← putFcs16 c.bits fcsPos (fcs16 (c.bits.take fcsPos))
    wrapFormatA info mux

/-- SEQ(8) + CTL(1='0') + REXMIT(1) + LEN(6) + data. -/
def encodeDataUnsegmented (seq : UInt8) (rexmit : Bool) (data : Bytes) (mux : MuxOption) :
    Outcome RlpError Bits :=
  if data.length > mux.maxDataLen then .err (.dataTooLong mux.maxDataLen data.length)
  else do
    let c : Cursor := ⟨blank mux.infoBits, 0⟩
    let c ← c.put seq.toNat 8
    let c ← c.put 0 1
    let c ← c.put (boolBit rexmit) 1
    let c ← c.put data.length 6
    let c ← c.putOctets data
    wrapFormatA c.bits mux

/-- SEQ(8) + CTL(4='1000') + SQI(1) + LAST_SEG(1) + REXMIT(1) + LEN(5), then SEQ_HI(4) when SQI is
set, S_SEQ(12), four bits of padding when SQI is set, and the data. -/
def encodeSegmented (seq : UInt8) (sqi lastSeg rexmit : Bool) (seqHi : Option ℕ) (sSeq : ℕ)
    (data : Bytes) (mux : MuxOption) : Outcome RlpError Bits := do
  let c : Cursor := ⟨blank mux.infoBits, 0⟩
  let c ← c.put seq.toNat 8
  let c ← c.put 0b1000 4
  let c ← c.put (boolBit sqi) 1
  let c ← c.put (boolBit lastSeg) 1
  let c ← c.put (boolBit rexmit) 1
  let c ← c.put (data.length % 32) 5
  let c ← if sqi then c.put (seqHi.getD 0) 4 else .ok c
  let c ← c.put sSeq 12
  let c := if sqi then c.skip 4 else c
  let c ← c.putOctets data
  wrapFormatA c.bits mux

def encodeFormatB (seq : UInt8) (rexmit : Bool) (data : Bytes) (mux : MuxOption) :
    Outcome RlpError Bits :=
  if data.length ≠ mux.formatBDataLen then .err (.dataTooLong mux.formatBDataLen data.length)
  else do
    let c : Cursor := ⟨blank mux.frameBits, 0⟩
    let c ← c.put seq.toNat 8
    let c ← c.putOctets data
    let c ← c.put (if rexmit then mux.typeFormatBRexmit else mux.typeFormatBNew) mux.typeBits
    return c.bits

/-- SEQ(8) + CTL(4) + SEQ_HI(4): a fill frame (`1001`) and an idle frame of Format 1 (`1010`). -/
def encodeSeqHi (ctl : ℕ) (seq : UInt8) (seqHi : ℕ) (mux : MuxOption) : Outcome RlpError Bits := do
  let c : Cursor := ⟨blank mux.infoBits, 0⟩
  let c ← c.put seq.toNat 8
  let c ← c.put ctl 4
  let c ← c.put seqHi 4
  wrapFormatA c.bits mux

def encodeFill (seq : UInt8) (seqHi : ℕ) (mux : MuxOption) : Outcome RlpError Bits :=
  encodeSeqHi 0b1001 seq seqHi mux

def encodeIdle1 (seq : UInt8) (seqHi : ℕ) (mux : MuxOption) : Outcome RlpError Bits :=
  encodeSeqHi 0b1010 seq seqHi mux

/-- An idle frame of Format 2 is an empty first segment that is not the last. -/
def encodeIdle2 (seq : UInt8) (mux : MuxOption) : Outcome RlpError Bits := do
  let c : Cursor := ⟨blank mux.infoBits, 0⟩
  let c ← c.put seq.toNat 8
  let c ← c.put 0b1000 4
  let c ← c.put 1 1
  let c ← c.put 0 1
  let c ← c.put 0 1
  let c ← c.put 0 5
  let c ← c.put 0 4
  let c ← c.put 0 12
  wrapFormatA c.bits mux

def Rlp3Frame.encode (mux : MuxOption) : Rlp3Frame → Outcome RlpError Bits
  | control seq controlType initVar nakParamIncl => encodeControl seq controlType initVar nakParamIncl mux
  | nak seq seqHi payload => encodeNak seq seqHi payload mux
  | data seq rexmit bytes => encodeDataUnsegmented seq rexmit bytes mux
  | segmented seq sqi lastSeg rexmit seqHi sSeq bytes => encodeSegmented seq sqi lastSeg rexmit seqHi sSeq bytes mux
  | dataFormatB seq rexmit bytes => encodeFormatB seq rexmit bytes mux
  | fill seq seqHi => encodeFill seq seqHi mux
  | idle1 seq seqHi => encodeIdle1 seq seqHi mux
  | idle2 seq => encodeIdle2 seq mux

/-! ### Decoding -/

/-- Read octets one by one, each with its own bounds check. -/
def tryGetOctets (info : Bits) (pos : ℕ) : ℕ → Outcome RlpError Bytes
  | 0 => .ok []
  | n + 1 => do
    let b ← tryGetBits info pos 8
    let data ← tryGetOctets info (pos + 8) n
    return UInt8.ofNat b :: data

/-- SEQ(8) + data, behind a TYPE that says whether it is a retransmission. -/
def decodeFormatB (bits : Bits) (mux : MuxOption) (rexmit : Bool) : Outcome RlpError Rlp3Frame := do
  let seq ← getBits bits 0 8
  let data ← readOctets bits 8 mux.formatBDataLen
  return .dataFormatB (UInt8.ofNat seq) rexmit data

def isIdle2Info (info : Bits) : Outcome RlpError Bool :=
  if info.length < 36 then .ok false
  else do
    let ctl ← getBits info 8 4
    let sqi ← index info 12
    let lastSeg ← index info 13
    let rexmit ← index info 14
    let len ← getBits info 15 5
    return ctl == 0b1000 && sqi == 1 && lastSeg == 0 && rexmit == 0 && len == 0

def decodeSegmentedFrame (info : Bits) : Outcome RlpError Rlp3Frame := do
  let seq ← getBits info 0 8
  let sqi ← index info 12
  let lastSeg ← index info 13
  let rexmit ← index info 14
  let len ← getBits info 15 5
  if sqi = 1 then do
    let seqHi ← getBits info 20 4
    let sSeq ← getBits info 24 12
    -- four bits of padding follow S_SEQ
    let data ← tryGetOctets info 40 len
    return .segmented (UInt8.ofNat seq) true (lastSeg == 1) (rexmit == 1) (some seqHi) sSeq data
  else do
    let sSeq ← getBits info 20 12
    let data ← tryGetOctets info 32 len
    return .segmented (UInt8.ofNat seq) false (lastSeg == 1) (rexmit == 1) none sSeq data

def decodeSyncAckFrame (info : Bits) (seq : UInt8) (controlType : Rlp3ControlType) :
    Outcome RlpError Rlp3Frame := do
  let initVar ← index info 14
  let nakParamIncl ← index info 15
  let fcsExpected := fcs16 (info.take 16)
  let fcsGot ← getFcs16 info 16
  if fcsExpected ≠ fcsGot then .err (.fcsInvalid fcsExpected fcsGot)
  else return .control seq controlType (initVar == 1) (nakParamIncl == 1)

def getGapEntry (info : Bits) (pos : ℕ) : Outcome RlpError (NakGapEntry × ℕ) := do
  let first ← tryGetBits info pos 12
  let last ← tryGetBits info (pos + 12) 12
  return (⟨first, last⟩, pos + 24)

def getMapEntry (info : Bits) (pos : ℕ) : Outcome RlpError (NakMapEntry × ℕ) := do
  let nakMapSeq ← tryGetBits info pos 12
  let nakMap ← tryGetBits info (pos + 12) 8
  return (⟨nakMapSeq, UInt8.ofNat nakMap⟩, pos + 20)

def getSegRangeEntry (info : Bits) (pos : ℕ) : Outcome RlpError (NakSegRangeEntry × ℕ) := do
  let frameSeq ← tryGetBits info pos 12
  let firstSSeq ← tryGetBits info (pos + 12) 12
  let lastSSeq ← tryGetBits info (pos + 24) 12
  return (⟨frameSeq, firstSSeq, lastSSeq⟩, pos + 36)

def getSegLenEntry (info : Bits) (pos : ℕ) : Outcome RlpError (NakSegLenEntry × ℕ) := do
  let frameSeq ← tryGetBits info pos 12
  let firstSSeq ← tryGetBits info (pos + 12) 12
  let lengthSSeq ← tryGetBits info (pos + 24) 8
  return (⟨frameSeq, firstSSeq, UInt8.ofNat lengthSSeq⟩, pos + 32)

def getEntryList {α : Type} (getEntry : ℕ → Outcome RlpError (α × ℕ)) :
    ℕ → ℕ → Outcome RlpError (List α × ℕ)
  | 0, pos => .ok ([], pos)
  | n + 1, pos => do
    let (entry, pos) ← getEntry pos
    let (entries, pos) ← getEntryList getEntry n pos
    return (entry :: entries, pos)

/-- The count at `pos` and that many entries after it, one more than the count says. -/
def getEntries {α : Type} (info : Bits) (getEntry : ℕ → Outcome RlpError (α × ℕ)) (pos : ℕ) :
    Outcome RlpError (List α × ℕ) := do
  let count ← tryGetBits info pos 2
  getEntryList getEntry (count + 1) (pos + 2)

def getPayload (info : Bits) (nakType pos : ℕ) : Outcome RlpError (NakPayload × ℕ) :=
  match nakType with
  | 0b00 => do
    let (entries, pos) ← getEntries info (getGapEntry info) pos
    return (.gap entries, pos)
  | 0b01 => do
    let (entries, pos) ← getEntries info (getMapEntry info) pos
    return (.map entries, pos)
  | 0b10 => do
    let (entries, pos) ← getEntries info (getSegRangeEntry info) pos
    return (.segmentRange entries, pos)
  | 0b11 => do
    let (entries, pos) ← getEntries info (getSegLenEntry info) pos
    return (.segmentLength entries, pos)
  | _ => .err (.invalidNakType nakType)

def decodeNakFrame (info : Bits) : Outcome RlpError Rlp3Frame :=
  if info.length < 20 then .err (.insufficientBits 20 info.length)
  else do
    let seq ← getBits info 0 8
    let nakType ← getBits info 14 2
    let seqHi ← getBits info 16 4
    let (payload, pos) ← getPayload info nakType 20
    let fcsPos := alignToOctet pos
    if fcsPos + 16 > info.length then .err (.insufficientBits (fcsPos + 16) info.length)
    else do
      let fcsExpected := fcs16 (info.take fcsPos)
      let fcsGot ← getFcs16 info fcsPos
      if fcsExpected ≠ fcsGot then .err (.fcsInvalid fcsExpected fcsGot)
      else return .nak (UInt8.ofNat seq) seqHi payload

/-- CTL starts with `0`: SEQ(8) + CTL(1) + REXMIT(1) + LEN(6) + data. -/
def decodeDataUnsegmented (info : Bits) (mux : MuxOption) : Outcome RlpError Rlp3Frame := do
  let seq ← getBits info 0 8
  let rexmit ← index info 9
  let len ← getBits info 10 6
  if len > mux.maxDataLen then .err (.dataTooLong mux.maxDataLen len)
  else do
    let data ← tryGetOctets info 16 len
    return .data (UInt8.ofNat seq) (rexmit == 1) data

def decodeFormatA (info : Bits) (mux : MuxOption) : Outcome RlpError Rlp3Frame :=
  if info.length < 16 then .err (.insufficientBits 16 info.length)
  else do
    let seq ← getBits info 0 8
    let ctlMsb ← index info 8
    if ctlMsb = 0 then decodeDataUnsegmented info mux
    else do
      let bit9 ← index info 9
      let bit10 ← index info 10
      let bit11 ← index info 11
      if bit9 = 0 ∧ bit10 = 0 ∧ bit11 = 0 then do
        if ← isIdle2Info info then return .idle2 (UInt8.ofNat seq)
        else decodeSegmentedFrame info
      else if bit9 = 0 ∧ bit10 = 0 ∧ bit11 = 1 then do
        let seqHi ← getBits info 12 4
        return .fill (UInt8.ofNat seq) seqHi
      else if bit9 = 0 ∧ bit10 = 1 ∧ bit11 = 0 then do
        let seqHi ← getBits info 12 4
        return .idle1 (UInt8.ofNat seq) seqHi
      else do
        let ctl ← getBits info 8 6
        match Rlp3ControlType.fromCtlBits ctl with
        | some .nak => decodeNakFrame info
        | some ct => decodeSyncAckFrame info (UInt8.ofNat seq) ct
        | none => .err (.invalidCtl ctl)

def decodeRlp3Frame (bits : Bits) (mux : MuxOption) : Outcome RlpError Rlp3Frame :=
  if bits.length < mux.frameBits then .err (.insufficientBits mux.frameBits bits.length)
  else do
    let typeVal ← getBits bits mux.infoBits mux.typeBits
    match typeVal with
    | 0b01 => decodeFormatA (bits.take mux.infoBits) mux
    | 0b10 => decodeFormatB bits mux false
    | 0b11 => decodeFormatB bits mux true
    | _ => .err (.invalidType typeVal)

def binDigits4 (v : ℕ) : String := String.ofList ([3, 2, 1, 0].map fun k => if v / 2 ^ k % 2 = 1 then '1' else '0')

def tryDecodeFillOrIdle1 (bits : Bits) (mux : MuxOption) : Outcome RlpError Rlp3Frame :=
  if bits.length < mux.frameBits then .err (.insufficientBits mux.frameBits bits.length)
  else do
    let typeVal ← getBits bits mux.infoBits mux.typeBits
    if typeVal ≠ mux.typeFormatA then .err (.invalidType typeVal)
    else do
      let info := bits.take mux.infoBits
      let seq ← getBits info 0 8
      let ctl ← getBits info 8 4
      let seqHi ← getBits info 12 4
      match ctl with
      | 0b1001 => return .fill (UInt8.ofNat seq) seqHi
      | 0b1010 => return .idle1 (UInt8.ofNat seq) seqHi
      | _ => .err (.invalidFrame
          ("fill/idle1 CTL=0b" ++ binDigits4 ctl ++ ", expected 1001 or 1010"))

/-! ### Less than Rate 1 -/

def subRateInfoBits : FrameRate → Option ℕ
  | .half => some 80
  | .quarter => some 40
  | _ => none

def encodeSubRateFill (seq : UInt8) (seqHi numInfoBits : ℕ) : Outcome RlpError Bits :=
  if numInfoBits < 16 then .err (.insufficientBits 16 numInfoBits)
  else do
    let c : Cursor := ⟨blank numInfoBits, 0⟩
    let c ← c.put seq.toNat 8
    let c ← c.put 0b1001 4
    let c ← c.put (seqHi % 16) 4
    return c.bits

/-- What is left of a sub-rate frame once fill, idle, data and segments are excluded: a control
frame, whose error is reported, or nothing. -/
def decodeSubRateControl (info : Bits) (numInfoBits : ℕ) : Outcome RlpError Rlp3Frame :=
  let noFrame : Outcome RlpError Rlp3Frame := .err (.invalidFrame "no valid sub-rate frame found")
  if numInfoBits < 32 then noFrame
  else do
    let ctl ← getBits info 8 6
    match Rlp3ControlType.fromCtlBits ctl with
    | none => noFrame
    | some .nak => if numInfoBits ≥ 60 then decodeNakFrame info else noFrame
    | some ct => do
      let seq ← getBits info 0 8
      decodeSyncAckFrame info (UInt8.ofNat seq) ct

/-- CTL = `1000` at a sub-rate: a segment, when it can be read; else what a control frame gives. -/
def decodeSubRateSegmented (info : Bits) (numInfoBits : ℕ) : Outcome RlpError Rlp3Frame := do
  let bit8 ← index info 8
  let bit9 ← index info 9
  let bit10 ← index info 10
  let bit11 ← index info 11
  if numInfoBits ≥ 20 ∧ bit8 = 1 ∧ bit9 = 0 ∧ bit10 = 0 ∧ bit11 = 0 then
    match decodeSegmentedFrame info with
    | .ok frame => .ok frame
    | .err _ => decodeSubRateControl info numInfoBits
    | .panic => .panic
  else decodeSubRateControl info numInfoBits

def decodeSubRateFrame (bits : Bits) (numInfoBits : ℕ) : Outcome RlpError Rlp3Frame :=
  if bits.length < numInfoBits then .err (.insufficientBits numInfoBits bits.length)
  else if numInfoBits < 16 then .err (.invalidFrame "no valid sub-rate frame found")
  else do
    let info := bits.take numInfoBits
    let seq ← getBits info 0 8
    let ctl4 ← getBits info 8 4
    let seqHi ← getBits info 12 4
    if ctl4 = 0b1001 then return .fill (UInt8.ofNat seq) seqHi
    else if ctl4 = 0b1010 then return .idle1 (UInt8.ofNat seq) seqHi
    else do
      if ← isIdle2Info info then return .idle2 (UInt8.ofNat seq)
      else do
        let bit8 ← index info 8
        let bit9 ← index info 9
        let len ← getBits info 10 6
        if bit8 = 0 ∧ 0 < len ∧ 16 + len * 8 ≤ numInfoBits then do
          let data ← readOctets info 16 len
          return .data (UInt8.ofNat seq) (bit9 == 1) data
        else decodeSubRateSegmented info numInfoBits

/-! ### Supplemental channel blocks -/

def supplementalFormatCDataLen (blockBits : ℕ) : Option ℕ :=
  match blockBits with
  | 170 => some 20
  | 346 => some 42
  | _ => none

/-- Most octets of an unsegmented Format D block. -/
def supplementalFormatDDataLen (blockBits : ℕ) : Option ℕ :=
  match blockBits with
  | 170 => some 18
  | 346 => some 40
  | _ => none

/-- The next position that is a whole number of octets after the two bits of TYPE. -/
def alignAfterType (pos : ℕ) : ℕ := 2 + (pos - 2 + 7) / 8 * 8

/-- Most octets of a Format D segment: SEQ_HI is there on the first segment only. -/
def supplementalFormatDSegmentDataLen (blockBits : ℕ) (seqHi : Bool) : Option ℕ :=
  let headerBits := alignAfterType ((2 + 8 + 1 + 1 + 1 + 1 + 8 + 12) + if seqHi then 4 else 0)
  if blockBits < headerBits then none
  else
    let payloadOctets := (blockBits - headerBits) / 8
    if payloadOctets > 0 then some payloadOctets else none

def encodeSupplementalFormatCBlock (seq : UInt8) (rexmit : Bool) (data : Bytes) (blockBits : ℕ) :
    Outcome RlpError Bits :=
  match supplementalFormatCDataLen blockBits with
  | none => .err (.invalidFrame s!"unsupported supplemental Format C block size {blockBits} bits")
  | some dataLen =>
    if data.length ≠ dataLen then
      .err (.invalidFrame s!"supplemental Format C requires {dataLen} octets, got {data.length}")
    else do
      let c : Cursor := ⟨blank blockBits, 0⟩
      let c ← c.put (if rexmit then 0b11 else 0b10) 2
      let c ← c.put seq.toNat 8
      let c ← c.putOctets data
      return c.bits

/-- TYPE(2) + SEQ(8) + SSP(1='0') + SQI(1) + LAST_SEG(1='1') + REXMIT(1) + LEN(8) + SEQ_HI(4) when
present, padded to an octet, + data. -/
def encodeSupplementalFormatDBlock (seq : UInt8) (seqHi : Option ℕ) (rexmit : Bool) (data : Bytes)
    (blockBits : ℕ) : Outcome RlpError Bits :=
  match supplementalFormatDDataLen blockBits with
  | none => .err (.invalidFrame s!"unsupported supplemental Format D block size {blockBits} bits")
  | some maxDataLen =>
    if data = [] ∨ data.length > maxDataLen then
      .err (.invalidFrame s!"supplemental Format D requires 1..={maxDataLen} octets, got {data.length}")
    else if seqHi.any (· > 0x0f) then
      .err (.invalidFrame s!"supplemental Format D SEQ_HI out of range: {seqHi.getD 0}")
    else do
      let c : Cursor := ⟨blank blockBits, 0⟩
      let c ← c.put 0b00 2
      let c ← c.put seq.toNat 8
      let c ← c.put 0 1
      let c ← c.put (boolBit seqHi.isSome) 1
      let c ← c.put 1 1
      let c ← c.put (boolBit rexmit) 1
      let c ← c.put data.length 8
      let c ← match seqHi with
        | some hi => c.put hi 4
        | none => .ok c
      let c := c.skip (alignAfterType c.pos - c.pos)
      let c ← c.putOctets data
      return c.bits

/-- As the unsegmented block, with SSP set and S_SEQ(12) after SEQ_HI. -/
def encodeSupplementalFormatDSegmentBlock (seq : UInt8) (seqHi : Option ℕ) (sSeq : ℕ)
    (lastSeg rexmit : Bool) (data : Bytes) (blockBits : ℕ) : Outcome RlpError Bits :=
  match supplementalFormatDSegmentDataLen blockBits seqHi.isSome with
  | none => .err (.invalidFrame
      s!"unsupported supplemental segmented Format D block size {blockBits} bits")
  | some maxDataLen =>
    if data = [] ∨ data.length > maxDataLen then
      .err (.invalidFrame
        s!"supplemental segmented Format D requires 1..={maxDataLen} octets, got {data.length}")
    else if seqHi.any (· > 0x0f) then
      .err (.invalidFrame s!"supplemental segmented Format D SEQ_HI out of range: {seqHi.getD 0}")
    else if sSeq > 0x0fff then .err (.invalidFrame s!"supplemental segmented Format D S_SEQ out of range: {sSeq}")
    else do
      let c : Cursor := ⟨blank blockBits, 0⟩
      let c ← c.put 0b00 2
      let c ← c.put seq.toNat 8
      let c ← c.put 1 1
      let c ← c.put (boolBit seqHi.isSome) 1
      let c ← c.put (boolBit lastSeg) 1
      let c ← c.put (boolBit rexmit) 1
      let c ← c.put data.length 8
      let c ← match seqHi with
        | some hi => c.put hi 4
        | none => .ok c
      let c ← c.put sSeq 12
      let c := c.skip (alignAfterType c.pos - c.pos)
      let c ← c.putOctets data
      return c.bits

end OneXBts.Packet.Rlp3
