import OneXBts.Packet.Rlp

/-!
The frames of RLP Type 2 and their codec.

Sizes and rates are those of Type 1. The control frames have their own layouts, a NAK carries 12-bit
numbers, data carries a REXMIT bit; bitmap NAKs and segmented frames are rejected by the decoder.
-/

namespace OneXBts.Packet.Rlp2

open Lib
open Packet.Rlp (RlpRate RlpMuxOption crc16Rlp nordstromRobinsonFcs)

/-! ### Frames -/

/-- Control-frame CTL field values, non-encrypted mode. -/
inductive Rlp2ControlType where
  | sync | ack | syncAck | nak
  deriving DecidableEq, Repr

namespace Rlp2ControlType

def ctlBits : Rlp2ControlType → ℕ
  | sync => 0b110110
  | ack => 0b111010
  | syncAck => 0b111110
  | nak => 0b110000

def fromCtlBits (ctl : ℕ) : Option Rlp2ControlType :=
  match ctl with
  | 0b110110 => some sync
  | 0b111010 => some ack
  | 0b111110 => some syncAck
  | 0b110000 => some nak
  | _ => none

lemma fromCtlBits_eq_some :
    fromCtlBits ctl = some t ↔ ctl = t.ctlBits := by
  constructor
  · intro h
    unfold fromCtlBits at h
    split at h <;> cases h <;> rfl
  · rintro rfl
    cases t <;> rfl

end Rlp2ControlType

inductive Rlp2Frame where
  /-- SYNC, SYNC-ACK or ACK. -/
  | control (seq : UInt8) (controlType : Rlp2ControlType) (encryptionMode : UInt8)
  /-- NAK of the numbers from `first` to `last`. -/
  | nak (seq : UInt8) (lSeqHi : UInt8) (first last : UInt16)
  /-- Unsegmented data (Format A); without data it is an idle frame. -/
  | data (seq : UInt8) (rexmit : Bool) (bytes : Bytes)
  /-- Format B data, full rate only. -/
  | dataFormatB (seq : UInt8) (rexmit : Bool) (bytes : Bytes)
  /-- Rate 1/8 idle frame. -/
  | idle (seq : UInt8)
  deriving DecidableEq, Repr

inductive Rlp2EncodeError where
  | dataTooLong (len max : ℕ)
  | formatBLength (len expected : ℕ)
  | formatBRequiresFullRate (rate : RlpRate)
  | eighthRateDataCarrier
  deriving DecidableEq, Repr

def formatBRexmitType : RlpMuxOption → ℕ
  | .one => 0b011
  | .two => 0b11

/-- Maximum unsegmented data length per rate: that of Type 1. -/
def maxLenForRate (rate : RlpRate) (mux : RlpMuxOption) : ℕ := Rlp.maxLenForRate rate mux

/-! ### Encoding -/

/-- The two octets of a check sequence, high octet first. -/
def putCrc (c : Cursor) (covered : Bits) : Outcome Rlp2EncodeError Cursor := do
  let fcs := crc16Rlp covered
  let c ← c.put (fcs.toNat / 256) 8
  c.put (fcs.toNat % 256) 8

/-- SEQ(8) + CTL(6) + ENCRYPTION_MODE(2) + FCS(16). -/
def encodeControlInfo (seq : UInt8) (ctl : ℕ) (encryptionMode : UInt8) :
    Outcome Rlp2EncodeError Bits := do
  let c : Cursor := ⟨blank 32, 0⟩
  let c ← c.put seq.toNat 8
  let c ← c.put ctl 6
  let c ← c.put encryptionMode.toNat 2
  let covered ← slice c.bits 16
  let c ← putCrc c covered
  return c.bits

/-- SEQ(8) + CTL(6) + NAK_TYPE(2) + L_SEQ_HI(4) + FIRST(12) + LAST(12) + FCS(16). -/
def encodeNakInfo (seq lSeqHi : UInt8) (first last : UInt16) : Outcome Rlp2EncodeError Bits := do
  let c : Cursor := ⟨blank 60, 0⟩
  let c ← c.put seq.toNat 8
  let c ← c.put Rlp2ControlType.nak.ctlBits 6
  let c ← c.put 0b00 2
  let c ← c.put (lSeqHi.toNat % 16) 4
  let c ← c.put first.toNat 12
  let c ← c.put last.toNat 12
  let covered ← slice c.bits 44
  let c ← putCrc c covered
  return c.bits

/-- Copy what fits of an information field into a frame, with the TYPE of Format A at full rate. -/
def placeInformation (bits info : Bits) (rate : RlpRate) (mux : RlpMuxOption) :
    Outcome Rlp2EncodeError Bits :=
  match rate with
  | .full =>
    let n := min info.length mux.fullInformationBits
    writeBits mux.fullInformationBits mux.formatAType mux.typeBits (info.take n ++ bits.drop n)
  | .half | .quarter =>
    let n := min info.length bits.length
    .ok (info.take n ++ bits.drop n)
  | .eighth => .ok bits

/-- SEQ(8) + CTL(1='0') + REXMIT(1) + LEN(6) + data, and the TYPE of Format A at full rate. -/
def encodeUnsegmentedData (rate : RlpRate) (mux : RlpMuxOption) (seq : UInt8) (rexmit : Bool)
    (data : Bytes) : Outcome Rlp2EncodeError Bits :=
  if rate = .eighth then .err .eighthRateDataCarrier
  else if data.length > maxLenForRate rate mux then .err (.dataTooLong data.length (maxLenForRate rate mux))
  else do
    let c : Cursor := ⟨blank (mux.primaryBits rate), 0⟩
    let c ← c.put seq.toNat 8
    let c ← c.put 0 1
    let c ← c.put rexmit.toNat 1
    let c ← c.put data.length 6
    let c ← c.putOctets data
    if rate = .full then writeBits mux.fullInformationBits mux.formatAType mux.typeBits c.bits
    else return c.bits

def encodeFormatB (mux : RlpMuxOption) (seq : UInt8) (rexmit : Bool) (data : Bytes) :
    Outcome Rlp2EncodeError Bits :=
  if data.length ≠ mux.formatBOctets then .err (.formatBLength data.length mux.formatBOctets)
  else do
    let c : Cursor := ⟨blank (mux.primaryBits .full), 0⟩
    let c ← c.put seq.toNat 8
    let c ← c.putOctets data
    writeBits mux.fullInformationBits (if rexmit then formatBRexmitType mux else mux.formatBType)
      mux.typeBits c.bits

def encodeFrameForMux (frame : Rlp2Frame) (rate : RlpRate) (mux : RlpMuxOption) :
    Outcome Rlp2EncodeError Bits :=
  match frame with
  | .idle seq =>
    if rate = .eighth then do
      let fcs ← nordstromRobinsonFcs seq
      let c : Cursor := ⟨blank (mux.primaryBits .eighth), 0⟩
      let c ← c.put seq.toNat 8
      let c ← c.put fcs.toNat 8
      return c.bits
    else encodeUnsegmentedData rate mux seq false []
  | .control seq controlType encryptionMode =>
    if rate = .eighth then .err .eighthRateDataCarrier
    else do
      let info ← encodeControlInfo seq controlType.ctlBits encryptionMode
      placeInformation (blank (mux.primaryBits rate)) info rate mux
  | .nak seq lSeqHi first last =>
    if rate = .eighth then .err .eighthRateDataCarrier
    else do
      let info ← encodeNakInfo seq lSeqHi first last
      placeInformation (blank (mux.primaryBits rate)) info rate mux
  | .data seq rexmit data => encodeUnsegmentedData rate mux seq rexmit data
  | .dataFormatB seq rexmit data =>
    if rate = .full then encodeFormatB mux seq rexmit data else .err (.formatBRequiresFullRate rate)

/-! ### Decoding -/

def decodeIdle (bits : Bits) : Outcome Unit Rlp2Frame := do
  let seq ← readBits bits 0 8
  let fcs ← readBits bits 8 8
  let expected ← nordstromRobinsonFcs (UInt8.ofNat seq)
  if UInt8.ofNat fcs ≠ expected then .err ()
  else return .idle (UInt8.ofNat seq)

/-- A NAK of another NAK_TYPE (bitmap) is rejected. -/
def decodeNak (bits : Bits) (seq : UInt8) : Outcome Unit Rlp2Frame := do
  let nakType ← readBits bits 14 2
  if nakType ≠ 0b00 then .err ()
  else do
    let lSeqHi ← readBits bits 16 4
    let first ← readBits bits 20 12
    let last ← readBits bits 32 12
    let received ← readBits bits 44 16
    let covered ← slice bits 44
    if UInt16.ofNat received ≠ crc16Rlp covered then .err ()
    else return .nak seq (UInt8.ofNat lSeqHi) (UInt16.ofNat first) (UInt16.ofNat last)

def decodeControl (bits : Bits) (seq : UInt8) (controlType : Rlp2ControlType) :
    Outcome Unit Rlp2Frame := do
  let encryptionMode ← readBits bits 14 2
  let received ← readBits bits 16 16
  let covered ← slice bits 16
  if UInt16.ofNat received ≠ crc16Rlp covered then .err ()
  else return .control seq controlType (UInt8.ofNat encryptionMode)

/-- The branch of unsegmented data: REXMIT(1) + LEN(6) + data. -/
def decodeData (bits : Bits) (seq : UInt8) (rate : RlpRate) (mux : RlpMuxOption) :
    Outcome Unit Rlp2Frame := do
  let rexmit ← index bits 9
  let len ← readBits bits 10 6
  if len > maxLenForRate rate mux then .err ()
  else do
    let data ← readOctets bits 16 len
    return .data seq (rexmit == 1) data

/-- The information field common to sub-rate frames and full-rate Format A. The elements at 8 and 9 are
compared as they are; everywhere else an element counts by its low bit. -/
def decodeInformation (bits : Bits) (rate : RlpRate) (mux : RlpMuxOption) :
    Outcome Unit Rlp2Frame := do
  let seq ← readBits bits 0 8
  let disc ← index bits 8
  if disc = 0 then decodeData bits (UInt8.ofNat seq) rate mux
  else do
    let bit1 ← index bits 9
    -- segmented retransmission frames are not handled
    if bit1 = 0 then .err ()
    else do
      let ctl ← readBits bits 8 6
      match Rlp2ControlType.fromCtlBits ctl with
      | none => .err ()
      | some .nak => decodeNak bits (UInt8.ofNat seq)
      | some controlType => decodeControl bits (UInt8.ofNat seq) controlType

def decodeFullRate (bits : Bits) (mux : RlpMuxOption) : Outcome Unit Rlp2Frame := do
  let frameType ← readBits bits mux.fullInformationBits mux.typeBits
  if frameType = mux.formatAType then decodeInformation bits .full mux
  else if frameType = mux.formatBType ∨ frameType = formatBRexmitType mux then do
    let seq ← readBits bits 0 8
    let data ← readOctets bits 8 mux.formatBOctets
    return .dataFormatB (UInt8.ofNat seq) (frameType == formatBRexmitType mux) data
  else .err ()

def decodeFrameForMux (bits : Bits) (rate : RlpRate) (mux : RlpMuxOption) :
    Outcome Unit Rlp2Frame :=
  if bits.length < mux.primaryBits rate then .err ()
  else
    match rate with
    | .eighth => decodeIdle bits
    | .half | .quarter => decodeInformation bits rate mux
    | .full => decodeFullRate bits mux

end OneXBts.Packet.Rlp2
