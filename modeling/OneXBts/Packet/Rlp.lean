import OneXBts.Lib.BitField

/-!
The frames of RLP Type 1 and their codec, for multiplex options 1 and 2.

A frame is an array of bits, one per element; the frames of the lower rates are the information field
alone, a full-rate frame ends in a TYPE. `Option` of the source is `Outcome Unit` here, with `err ()` for
`None`, so that an index past the end of the slice is seen as a panic.
-/

namespace OneXBts.Packet.Rlp

open Lib

/-! ### Rates and sizes -/

inductive RlpRate where
  | full | half | quarter | eighth
  deriving DecidableEq, Repr

inductive RlpMuxOption where
  | one | two
  deriving DecidableEq, Repr

namespace RlpMuxOption

def primaryBits : RlpMuxOption → RlpRate → ℕ
  | one, .full => 171
  | one, .half => 80
  | one, .quarter => 40
  | one, .eighth => 16
  | two, .full => 266
  | two, .half => 124
  | two, .quarter => 54
  | two, .eighth => 20

def fullInformationBits : RlpMuxOption → ℕ
  | one => 168
  | two => 264

def formatBOctets : RlpMuxOption → ℕ
  | one => 20
  | two => 32

def fullFormatAOctets : RlpMuxOption → ℕ
  | one => 19
  | two => 31

def typeBits : RlpMuxOption → ℕ
  | one => 3
  | two => 2

def formatAType : RlpMuxOption → ℕ
  | one => 0b001
  | two => 0b01

def formatBType : RlpMuxOption → ℕ
  | one => 0b010
  | two => 0b10

end RlpMuxOption

/-- Maximum data length (LEN) for unsegmented data frames. -/
def maxLenForRate : RlpRate → RlpMuxOption → ℕ
  | .full, .one => 19
  | .half, .one => 8
  | .quarter, .one | .eighth, .one => 0
  | .full, .two => 31
  | .half, .two => 13
  | .quarter, .two => 4
  | .eighth, .two => 0

def maxLenForRateSegmented : RlpRate → RlpMuxOption → ℕ
  | .full, _ => 15
  | .half, .one => 8
  | .quarter, .one | .eighth, .one => 0
  | .half, .two => 13
  | .quarter, .two => 4
  | .eighth, .two => 0

/-! ### Frames -/

inductive ControlType where
  | nak | sync | ack | syncAck
  deriving DecidableEq, Repr

namespace ControlType

def ctlBits : ControlType → ℕ
  | nak => 0b110000
  | sync => 0b110100
  | ack => 0b111000
  | syncAck => 0b111100

def fromCtlBits (ctl : ℕ) : Option ControlType :=
  match ctl with
  | 0b110000 => some nak
  | 0b110100 => some sync
  | 0b111000 => some ack
  | 0b111100 => some syncAck
  | _ => none

lemma fromCtlBits_eq_some :
    fromCtlBits ctl = some t ↔ ctl = t.ctlBits := by
  constructor
  · intro h
    unfold fromCtlBits at h
    split at h <;> cases h <;> rfl
  · rintro rfl
    cases t <;> rfl

end ControlType

inductive SegmentType where
  | first | second | last | intersegmentFill
  deriving DecidableEq, Repr

namespace SegmentType

def ctlBits : SegmentType → ℕ
  | first => 0b1000
  | second => 0b1001
  | last => 0b1010
  | intersegmentFill => 0b1011

def fromCtlBits (ctl : ℕ) : Option SegmentType :=
  match ctl with
  | 0b1000 => some first
  | 0b1001 => some second
  | 0b1010 => some last
  | 0b1011 => some intersegmentFill
  | _ => none

end SegmentType

inductive RlpFrame where
  /-- SYNC, SYNC/ACK, ACK or NAK; `first` and `last` are the range of a NAK. -/
  | control (seq : UInt8) (controlType : ControlType) (encryptionMode first last : UInt8)
  /-- Unsegmented data (Format A); without data it is an idle frame. -/
  | data (seq : UInt8) (bytes : Bytes)
  /-- Format B data, full rate only. -/
  | dataFormatB (seq : UInt8) (bytes : Bytes)
  /-- A segment of a retransmission. -/
  | segmented (seq : UInt8) (segmentType : SegmentType) (bytes : Bytes)
  /-- Rate 1/8 idle frame. -/
  | idle (seq : UInt8)
  deriving DecidableEq, Repr

inductive RlpEncodeError where
  | dataTooLong (rate : RlpRate) (len maxLen : ℕ)
  | formatBRequiresTwentyOctets (len : ℕ)
  | formatBRequiresThirtyTwoOctets (len : ℕ)
  | formatBRequiresFullRate (rate : RlpRate)
  | eighthRateDataCarrier
  | segmentedDataRequiresNonZeroLen
  | segmentedDataTooLong (rate : RlpRate) (len maxLen : ℕ)
  deriving DecidableEq, Repr

/-! ### Check sequences -/

/-- The check sequence of a Type 2 control frame: the bits in the order of the frame. -/
def crc16Rlp (bits : Bits) : UInt16 := bits.foldl crcStep 0xFFFF ^^^ 0xFFFF

def octetOf (octet : Bits) : UInt8 :=
  octet.zipIdx.foldl (fun byte b => byte ||| ((b.1 &&& 1) <<< UInt8.ofNat (7 - b.2))) 0

/-- RLP control-frame FCS-16: octet by octet, each from its least significant bit. -/
def fcs16Rfc1662 (bits : Bits) : UInt16 :=
  ~~~((chunks 8 bits).foldl (fun fcs octet => fcsShift^[8] (fcs ^^^ (octetOf octet).toUInt16)) 0xFFFF)

/-- Modified Nordstrom-Robinson code: the codewords of the 256 values of SEQ, in 32 rows of 8. -/
def nordstromRobinsonTable : List ℕ := [
  0x0007, 0x20f3, 0x40ee, 0x6034, 0x8078, 0xa08c, 0xc091, 0xe04b, 0x01d4, 0x2119, 0x4161, 0x6182,
  0x81ab, 0xa166, 0xc11e, 0xe1fd, 0x02a0, 0x226d, 0x423b, 0x62d8, 0x82df, 0xa212, 0xc244, 0xe2a7,
  0x034a, 0x23be, 0x438d, 0x6357, 0x8335, 0xa3c1, 0xc3f2, 0xe328, 0x04c9, 0x242a, 0x4452, 0x649f,
  0x84b6, 0xa455, 0xc42d, 0xe4e0, 0x057f, 0x25a5, 0x45b8, 0x654c, 0x8500, 0xa5da, 0xc5c7, 0xe533,
  0x061c, 0x26c6, 0x46f5, 0x6601, 0x8663, 0xa6b9, 0xc68a, 0xe67e, 0x0793, 0x2770, 0x4726, 0x67eb,
  0x87ec, 0xa70f, 0xc759, 0xe794, 0x089a, 0x2840, 0x485d, 0x68a9, 0x88e5, 0xa83f, 0xc822, 0xe8d6,
  0x092c, 0x29cf, 0x49b7, 0x697a, 0x8953, 0xa9b0, 0xc9c8, 0xe905, 0x0a76, 0x2a95, 0x4ac3, 0x6a0e,
  0x8a09, 0xaaea, 0xcabc, 0xea71, 0x0bf9, 0x2b23, 0x4b10, 0x6be4, 0x8b86, 0xab5c, 0xcb6f, 0xeb9b,
  0x0c31, 0x2cfc, 0x4c84, 0x6c67, 0x8c4e, 0xac83, 0xccfb, 0xec18, 0x0de2, 0x2d16, 0x4d0b, 0x6dd1,
  0x8d9d, 0xad69, 0xcd74, 0xedae, 0x0eaf, 0x2e5b, 0x4e68, 0x6eb2, 0x8ed0, 0xae24, 0xce17, 0xeecd,
  0x0f45, 0x2f88, 0x4fde, 0x6f3d, 0x8f3a, 0xaff7, 0xcfa1, 0xef42, 0x10bd, 0x305e, 0x5008, 0x70c5,
  0x90c2, 0xb021, 0xd077, 0xf0ba, 0x1132, 0x31e8, 0x51db, 0x712f, 0x914d, 0xb197, 0xd1a4, 0xf150,
  0x1251, 0x3296, 0x5262, 0x7298, 0x9237, 0xb2f4, 0xd2e9, 0xf21d, 0x13e7, 0x3304, 0x537c, 0x73b1,
  0x9398, 0xb37b, 0xd303, 0xf3ce, 0x1464, 0x3490, 0x54a3, 0x7479, 0x941b, 0xb4ef, 0xd4dc, 0xf406,
  0x158e, 0x3543, 0x5515, 0x75f6, 0x95f1, 0xb53c, 0xd56a, 0xf589, 0x16fa, 0x3637, 0x564f, 0x76ac,
  0x9685, 0xb648, 0xd630, 0xf6d3, 0x1729, 0x37dd, 0x57c0, 0x771a, 0x9756, 0xb7a2, 0xd7bf, 0xf765,
  0x186b, 0x38a6, 0x58f0, 0x7813, 0x9814, 0xb8d9, 0xd88f, 0xf86c, 0x1981, 0x3975, 0x5946, 0x799c,
  0x99fe, 0xb90a, 0xd939, 0xf9e3, 0x1acc, 0x3a38, 0x5a25, 0x7aff, 0x9ab3, 0xba47, 0xda5a, 0xfa80,
  0x1b1f, 0x3bd2, 0x5baa, 0x7b49, 0x9b60, 0xbbad, 0xdbd5, 0xfb36, 0x1cd7, 0x3c0d, 0x5c3e, 0x7cca,
  0x9ca8, 0xbc72, 0xdc41, 0xfcb5, 0x1d58, 0x3dbb, 0x5ded, 0x7d20, 0x9d27, 0xbdc4, 0xdd92, 0xfd5f,
  0x1e02, 0x3ee1, 0x5e99, 0x7e54, 0x9e7d, 0xbe9e, 0xdee6, 0xfe2b, 0x1fb4, 0x3f6e, 0x5f73, 0x7f87,
  0x9fcb, 0xbf11, 0xdf0c, 0xfff8]

/-- The 8-bit Nordstrom-Robinson FCS of a SEQ: row `SEQ % 32`, column `SEQ / 32`. -/
def nordstromRobinsonFcs {ε : Type} (seq : UInt8) : Outcome ε UInt8 :=
  match nordstromRobinsonTable[seq.toNat % 32 * 8 + seq.toNat / 32]? with
  | some word => .ok (UInt8.ofNat (word % 256))
  | none => .panic

lemma length_nordstromRobinsonTable : nordstromRobinsonTable.length = 256 := by decide +kernel

lemma nordstromRobinsonFcs_ok {ε : Type} (seq : UInt8) :
    ∃ fcs, (nordstromRobinsonFcs seq : Outcome ε UInt8) = .ok fcs := by
  have hlt : seq.toNat % 32 * 8 + seq.toNat / 32 < nordstromRobinsonTable.length := by
    have := seq.toNat_lt
    rw [length_nordstromRobinsonTable]
    omega
  unfold nordstromRobinsonFcs
  rw [List.getElem?_eq_getElem hlt]
  exact ⟨_, rfl⟩

/-! ### Encoding -/

def putType (mux : RlpMuxOption) (type : ℕ) (bits : Bits) : Outcome RlpEncodeError Bits :=
  writeBits mux.fullInformationBits type mux.typeBits bits

/-- SEQ(8) + CTL(1='0') + LEN(7) + data, and the TYPE of Format A at full rate. -/
def encodeDataFormatA (rate : RlpRate) (mux : RlpMuxOption) (seq : UInt8) (data : Bytes) :
    Outcome RlpEncodeError Bits :=
  if rate = .eighth then .err .eighthRateDataCarrier
  else if data.length > maxLenForRate rate mux then .err (.dataTooLong rate data.length (maxLenForRate rate mux))
  else do
    let c : Cursor := ⟨blank (mux.primaryBits rate), 0⟩
    let c ← c.put seq.toNat 8
    let c ← c.put 0 1
    let c ← c.put data.length 7
    let c ← c.putOctets data
    if rate = .full then putType mux mux.formatAType c.bits else return c.bits

/-- SEQ(8) + CTL(6) + ENCRYPTION_MODE(2) + FIRST(8) + LAST(8) + FCS(16, low octet first), in a field as
long as that of a full-rate frame. -/
def controlInfo (mux : RlpMuxOption) (seq : UInt8) (controlType : ControlType)
    (encryptionMode first last : UInt8) : Outcome RlpEncodeError Bits := do
  let c : Cursor := ⟨blank mux.fullInformationBits, 0⟩
  let c ← c.put seq.toNat 8
  let c ← c.put controlType.ctlBits 6
  let c ← c.put encryptionMode.toNat 2
  let c ← c.put first.toNat 8
  let c ← c.put last.toNat 8
  let covered ← slice c.bits 32
  let fcs := fcs16Rfc1662 covered
  let c ← c.put (fcs.toNat % 256) 8
  let c ← c.put (fcs.toNat / 256) 8
  return c.bits

/-- A control frame of a lower rate is what fits of the information field. -/
def encodeControl (rate : RlpRate) (mux : RlpMuxOption) (seq : UInt8) (controlType : ControlType)
    (encryptionMode first last : UInt8) : Outcome RlpEncodeError Bits := do
  let info ← controlInfo mux seq controlType encryptionMode first last
  match rate with
  | .full => putType mux mux.formatAType (info ++ blank (mux.primaryBits .full - info.length))
  | .half | .quarter => slice info (mux.primaryBits rate)
  | .eighth => .err .eighthRateDataCarrier

def encodeFormatB (mux : RlpMuxOption) (seq : UInt8) (data : Bytes) : Outcome RlpEncodeError Bits :=
  if data.length ≠ mux.formatBOctets then
    match mux with
    | .one => .err (.formatBRequiresTwentyOctets data.length)
    | .two => .err (.formatBRequiresThirtyTwoOctets data.length)
  else do
    let c : Cursor := ⟨blank (mux.primaryBits .full), 0⟩
    let c ← c.put seq.toNat 8
    let c ← c.putOctets data
    putType mux mux.formatBType c.bits

/-- SEQ(8) + CTL(4), then LEN(4) + data unless the frame is a fill between segments. -/
def encodeSegmented (rate : RlpRate) (mux : RlpMuxOption) (seq : UInt8) (segType : SegmentType)
    (data : Bytes) : Outcome RlpEncodeError Bits :=
  -- at full rate the source has the bound 15 itself
  let maxLen := min (maxLenForRateSegmented rate mux) 15
  if rate = .eighth then .err .eighthRateDataCarrier
  else do
    let c : Cursor := ⟨blank (mux.primaryBits rate), 0⟩
    let c ← c.put seq.toNat 8
    let c ← c.put segType.ctlBits 4
    let c ←
      if segType ≠ .intersegmentFill then
        if data = [] then .err .segmentedDataRequiresNonZeroLen
        else if data.length > maxLen then .err (.segmentedDataTooLong rate data.length maxLen)
        else do
          let c ← c.put data.length 4
          c.putOctets data
      else if data ≠ [] then .err (.segmentedDataTooLong rate data.length 0)
      else .ok c
    if rate = .full then putType mux mux.formatAType c.bits else return c.bits

def encodeFrameForMux (frame : RlpFrame) (rate : RlpRate) (mux : RlpMuxOption) :
    Outcome RlpEncodeError Bits :=
  match frame with
  | .idle seq =>
    if rate = .eighth then do
      let fcs ← nordstromRobinsonFcs seq
      let c : Cursor := ⟨blank (mux.primaryBits .eighth), 0⟩
      let c ← c.put seq.toNat 8
      let c ← c.put fcs.toNat 8
      return c.bits
    -- at a higher rate, data with LEN=0
    else encodeDataFormatA rate mux seq []
  | .control seq controlType encryptionMode first last =>
    encodeControl rate mux seq controlType encryptionMode first last
  | .data seq data => encodeDataFormatA rate mux seq data
  | .dataFormatB seq data =>
    if rate = .full then encodeFormatB mux seq data else .err (.formatBRequiresFullRate rate)
  | .segmented seq segmentType data => encodeSegmented rate mux seq segmentType data

/-! ### Decoding -/

def decodeIdle (bits : Bits) : Outcome Unit RlpFrame := do
  let seq ← readBits bits 0 8
  let fcs ← readBits bits 8 8
  let expected ← nordstromRobinsonFcs (UInt8.ofNat seq)
  if UInt8.ofNat fcs ≠ expected then .err ()
  else return .idle (UInt8.ofNat seq)

/-- The branch of unsegmented data: LEN(7) + data. -/
def decodeData (bits : Bits) (seq : UInt8) (rate : RlpRate) (mux : RlpMuxOption) :
    Outcome Unit RlpFrame := do
  let len ← readBits bits 9 7
  if len > maxLenForRate rate mux then .err ()
  else if len = 0 then return .data seq []
  else do
    let data ← readOctets bits 16 len
    return .data seq data

/-- The branch of control frames: CTL(6) starts with `11`. -/
def decodeControl (bits : Bits) (seq : UInt8) : Outcome Unit RlpFrame := do
  let ctl ← readBits bits 8 6
  match ControlType.fromCtlBits ctl with
  | none => .err ()
  | some controlType =>
    let encryptionMode ← readBits bits 14 2
    let first ← readBits bits 16 8
    let last ← readBits bits 24 8
    let fcsLo ← readBits bits 32 8
    let fcsHi ← readBits bits 40 8
    let covered ← slice bits 32
    if UInt16.ofNat (fcsHi * 256 + fcsLo) ≠ fcs16Rfc1662 covered then .err ()
    else
      return .control seq controlType (UInt8.ofNat encryptionMode) (UInt8.ofNat first)
        (UInt8.ofNat last)

def decodeSegmented (bits : Bits) (seq : UInt8) (rate : RlpRate) (mux : RlpMuxOption) :
    Outcome Unit RlpFrame := do
  let ctl4 ← readBits bits 8 4
  match SegmentType.fromCtlBits ctl4 with
  | none => .err ()
  | some segmentType =>
    if segmentType = .intersegmentFill then return .segmented seq segmentType []
    else do
      let len ← readBits bits 12 4
      if len = 0 then .err ()
      else if len > maxLenForRateSegmented rate mux then .err ()
      else do
        let data ← readOctets bits 16 len
        return .segmented seq segmentType data

/-- The information field. The element at 8 is compared with 0 and the element at 9 with 1 as they are;
everywhere else an element counts by its low bit. -/
def decodeNonFullRate (bits : Bits) (rate : RlpRate) (mux : RlpMuxOption) :
    Outcome Unit RlpFrame := do
  let seq ← readBits bits 0 8
  let ctlMsb ← index bits 8
  if ctlMsb = 0 then decodeData bits (UInt8.ofNat seq) rate mux
  else do
    let bit1 ← index bits 9
    if bit1 = 1 then decodeControl bits (UInt8.ofNat seq)
    else decodeSegmented bits (UInt8.ofNat seq) rate mux

def decodeFullRate (bits : Bits) (mux : RlpMuxOption) : Outcome Unit RlpFrame := do
  let frameType ← readBits bits mux.fullInformationBits mux.typeBits
  if frameType = mux.formatAType then decodeNonFullRate bits .full mux
  else if frameType = mux.formatBType then do
    let seq ← readBits bits 0 8
    let data ← readOctets bits 8 mux.formatBOctets
    return .dataFormatB (UInt8.ofNat seq) data
  else .err ()

def decodeFrameForMux (bits : Bits) (rate : RlpRate) (mux : RlpMuxOption) : Outcome Unit RlpFrame :=
  if bits.length < mux.primaryBits rate then .err ()
  else
    match rate with
    | .eighth => decodeIdle bits
    | .half | .quarter => decodeNonFullRate bits rate mux
    | .full => decodeFullRate bits mux

end OneXBts.Packet.Rlp
