import OneXBts.Lib.Runs
import OneXBts.Packet.Rlp3Receiver

/-!
The RLP Type 3 session (`rlp3_session.rs`): the SYNC exchange, segments, transmission, and the calls of a user as the steps
of a machine (`Rlp3Session.step`; `none` when the call panics). The flat record of the source is grouped into `Receiver` and
`Transmitter`.
-/

namespace OneXBts.Packet.Rlp3

open Lib

/-! ### Configuration and state -/

structure Rlp3Config where
  muxOption : MuxOption := .odd
  nakRoundsFwd : ℕ := 3
  nakPerRound : List ℕ := [1, 2, 3]
  /-- RLP_DELAY in frames; 0 means that it is measured. -/
  rlpDelay : ℕ := 0
  deriving DecidableEq, Repr

structure RexmitEntry where
  lSeq : ℕ
  data : Bytes
  /-- Octets already sent in segments. -/
  segmentOffset : ℕ
  nextSSeq : ℕ
  deriving DecidableEq, Repr

structure SegmentReassembly where
  seq8 : UInt8
  lastSegSeen : Bool
  maxSSeq : ℕ
  finalSSeq : ℕ
  segments : List (Option Bytes)
  rexmit : Bool
  deriving DecidableEq, Repr

/-- The fields of a session that transmitting works on. -/
structure Transmitter where
  lVS : ℕ := 0
  lVNPeer : ℕ := 0
  txQueue : Bytes := []
  rexmitQueue : List RexmitEntry := []
  sentBuffer : ℕ → Option Bytes := fun _ => none

structure Rlp3Session extends Receiver, Transmitter where
  config : Rlp3Config
  state : Rlp3State := .uninitialized
  roundTripCounter : ℕ := 0
  handshakeFramesSent : ℕ := 0
  rlpDelay : ℕ := 0
  idleTimer : ℕ := 0
  idleInterval : ℕ := 10
  segReassembly : Option SegmentReassembly := none

/-- A data frame once its segments are together. -/
structure Sdu where
  rexmit : Bool
  seq8 : UInt8
  data : Bytes
  deriving DecidableEq, Repr

/-! ### Frame classification -/

def isSync : Rlp3Frame → Bool
  | .control _ .sync _ _ => true
  | _ => false

def isSyncAck : Rlp3Frame → Bool
  | .control _ .syncAck _ _ => true
  | _ => false

def isFill : Rlp3Frame → Bool
  | .fill _ _ => true
  | _ => false

/-- A SYNC or SYNC/ACK with INIT_VAR set re-initializes the session. -/
def shouldReinitializeFromControl : Rlp3Frame → Bool
  | .control _ .sync true _ => true
  | .control _ .syncAck true _ => true
  | _ => false

/-! ### Segments -/

def SegmentReassembly.tryAssemble (reasm : SegmentReassembly) : Option Bytes :=
  if reasm.lastSegSeen then
    ((List.range (reasm.finalSSeq + 1)).mapM fun i => (reasm.segments[i]?).join).map List.flatten
  else none

def SegmentReassembly.start (seq8 : UInt8) (lastSeg rexmit : Bool) (sSeq : ℕ) (data : Bytes) :
    SegmentReassembly :=
  let maxSegs := if lastSeg then sSeq + 1 else max (sSeq + 16) 16
  { seq8, lastSegSeen := lastSeg, maxSSeq := sSeq, finalSSeq := if lastSeg then sSeq else 0,
    segments := (List.replicate maxSegs none).set sSeq (some data), rexmit }

def SegmentReassembly.add (reasm : SegmentReassembly) (lastSeg : Bool) (sSeq : ℕ) (data : Bytes) :
    SegmentReassembly :=
  let segments := reasm.segments ++ List.replicate (sSeq + 1 - reasm.segments.length) none
  { reasm with
    segments := segments.set sSeq (some data)
    maxSSeq := max sSeq reasm.maxSSeq
    lastSegSeen := lastSeg || reasm.lastSegSeen
    finalSSeq := if lastSeg then sSeq else reasm.finalSSeq }

def receiveSegmented (reassembly : Option SegmentReassembly) (seq8 : UInt8)
    (sqi lastSeg rexmit : Bool) (sSeq : ℕ) (data : Bytes) : Option SegmentReassembly × Option Sdu :=
  if sqi then
    let reasm := SegmentReassembly.start seq8 lastSeg rexmit sSeq data
    match reasm.tryAssemble with
    | some assembled => (none, some ⟨rexmit, seq8, assembled⟩)
    | none => (some reasm, none)
  else
    match reassembly with
    | none => (none, none)
    | some reasm =>
      if reasm.seq8 = seq8 then
        let reasm := reasm.add lastSeg sSeq data
        match reasm.tryAssemble with
        | some assembled => (none, some ⟨reasm.rexmit, reasm.seq8, assembled⟩)
        | none => (some reasm, none)
      else (some reasm, none)

/-! ### Transmission -/

namespace Transmitter

/-- SEQ_HI is needed when the number is more than 255 ahead of the peer's `L_V(N)`. -/
def newDataRequiresSeqHi (t : Transmitter) (config : Rlp3Config) (lSeq : ℕ) : Bool :=
  decide (0 < config.nakRoundsFwd ∧ 255 < (lSeq + seqModulus - t.lVNPeer) % seqModulus)

def queueRetransmission (t : Transmitter) (lSeq : ℕ) : Transmitter :=
  if t.rexmitQueue.any fun entry => entry.lSeq == lSeq then t
  else
    match t.sentBuffer lSeq with
    | some data => { t with rexmitQueue := t.rexmitQueue ++ [⟨lSeq, data, 0, 0⟩] }
    | none => t

/-- The numbers a NAK asks for, in order. Missing segments are answered by the whole frame. -/
def requestedSeqs : NakPayload → List ℕ
  | .gap entries => entries.flatMap NakGapEntry.seqs
  | .map entries => entries.flatMap fun entry => entry.nakMapSeq :: (List.range 8).filterMap fun bit =>
      if entry.nakMap &&& (0x80 >>> UInt8.ofNat bit) ≠ 0 then some ((entry.nakMapSeq + 1 + bit) % seqModulus)
      else none
  | .segmentRange entries => entries.map NakSegRangeEntry.frameSeq
  | .segmentLength entries => entries.map NakSegLenEntry.frameSeq

def processNak (t : Transmitter) (seq : UInt8) (seqHi : ℕ) (payload : NakPayload) : Transmitter :=
  (requestedSeqs payload).foldl queueRetransmission { t with lVNPeer := seqHi * 256 + seq.toNat }

/-- The payload of a new frame is taken off the queue and saved, and `L_V(S)` moves on. -/
def takeNew (t : Transmitter) (len : ℕ) : Transmitter :=
  { t with
    txQueue := t.txQueue.drop len
    sentBuffer := Function.update t.sentBuffer t.lVS (some (t.txQueue.take len))
    lVS := (t.lVS + 1) % seqModulus }

end Transmitter

def maxSegmentedSingleSegmentLen (mux : MuxOption) : ℕ := (mux.infoBits - (8 + 4 + 1 + 1 + 1 + 5 + 4 + 12 + 4)) / 8

namespace Rlp3Session

def new (config : Rlp3Config) : Rlp3Session := { config }

def initializeSession (s : Rlp3Session) : Rlp3Session :=
  { config := s.config, idleInterval := s.idleInterval, state := .sync }

def rexmitTimerFrames (s : Rlp3Session) : ℕ :=
  let delay := if s.config.rlpDelay > 0 then s.config.rlpDelay
    else max (max s.rlpDelay s.roundTripCounter) 1
  2 * delay + 1

def policy (s : Rlp3Session) : NakPolicy where
  nakRoundsFwd := s.config.nakRoundsFwd
  nakPerRound := s.config.nakPerRound
  timer := s.rexmitTimerFrames

def newDataRequiresSeqHi (s : Rlp3Session) (lSeq : ℕ) : Bool := s.toTransmitter.newDataRequiresSeqHi s.config lSeq

def onReceiver (s : Rlp3Session) (r : Receiver × List RlpEvent) : Rlp3Session × List RlpEvent :=
  ({ s with toReceiver := r.1 }, r.2)

def tickNakTimers (s : Rlp3Session) : Rlp3Session × List RlpEvent :=
  s.onReceiver (s.toReceiver.tickNakTimers s.policy)

/-! ### The SYNC exchange -/

def enterDataTransfer (s : Rlp3Session) : Rlp3Session := { s with state := .dataTransfer }

def measureDelay (s : Rlp3Session) : Rlp3Session := { s with rlpDelay := max s.handshakeFramesSent 1 }

/-- What a frame carries up: nothing, or a data frame. Segments are collected. -/
def frameSdu (s : Rlp3Session) : Rlp3Frame → Rlp3Session × Option Sdu
  | .data seq rexmit data =>
    -- an empty new frame is an idle frame
    if rexmit = false ∧ data = [] then (s, none) else (s, some ⟨rexmit, seq, data⟩)
  | .dataFormatB seq rexmit data => (s, some ⟨rexmit, seq, data⟩)
  | .segmented seq sqi lastSeg rexmit _ sSeq data =>
    let (segReassembly, sdu) := receiveSegmented s.segReassembly seq sqi lastSeg rexmit sSeq data
    ({ s with segReassembly }, sdu)
  | _ => (s, none)

def receiveSdu (s : Rlp3Session) : Option Sdu → Rlp3Session × List RlpEvent
  | none => (s, [])
  | some ⟨true, seq8, data⟩ => s.onReceiver (s.toReceiver.receiveRexmitData seq8 data)
  | some ⟨false, seq8, data⟩ => s.onReceiver (s.toReceiver.receiveNewData s.policy seq8 data)

def processDataTransfer (s : Rlp3Session) (frame : Rlp3Frame) : Rlp3Session × List RlpEvent :=
  if isSync frame then (s.initializeSession, [.stateChanged .sync])
  else
    match frame with
    | .nak seq seqHi payload => ({ s with toTransmitter := s.toTransmitter.processNak seq seqHi payload }, [])
    | .fill seq seqHi =>
      ({ s with toTransmitter := { s.toTransmitter with lVNPeer := seqHi * 256 + seq.toNat } }, [])
    | frame => (s.frameSdu frame).1.receiveSdu (s.frameSdu frame).2

def processSyncState (s : Rlp3Session) : Rlp3Frame → Rlp3Session × List RlpEvent
  | .control _ .sync _ _ =>
    ({ s with roundTripCounter := 4, handshakeFramesSent := 0, state := .syncAck },
      [.stateChanged .syncAck])
  | .control _ .syncAck _ _ =>
    ({ s.measureDelay with roundTripCounter := 4, handshakeFramesSent := 0, state := .ack },
      [.stateChanged .ack])
  | _ => (s, [])

def enterAndProcess (s : Rlp3Session) (frame : Rlp3Frame) : Rlp3Session × List RlpEvent :=
  let (s, events) := s.enterDataTransfer.processDataTransfer frame
  (s, .stateChanged .dataTransfer :: events)

def processSyncAckState (s : Rlp3Session) : Rlp3Frame → Rlp3Session × List RlpEvent
  | .control _ .sync _ _ => ({ s with handshakeFramesSent := 0 }, [])
  | .control _ .ack _ _ => (s.measureDelay.enterDataTransfer, [.stateChanged .dataTransfer])
  | .control _ .syncAck _ _ => (s.measureDelay.enterDataTransfer, [.stateChanged .dataTransfer])
  | frame => if !isSync frame && !isFill frame then s.enterAndProcess frame else (s, [])

def processAckState (s : Rlp3Session) : Rlp3Frame → Rlp3Session × List RlpEvent
  | .control _ .syncAck _ _ => ({ s with handshakeFramesSent := 0 }, [])
  | .control _ .sync _ _ => (s.initializeSession, [.stateChanged .sync])
  | frame => if !isSyncAck frame && !isFill frame then s.enterAndProcess frame else (s, [])

/-! ### Frame reception -/

def decodeReceived (mux : MuxOption) (bits : Bits) (rate : FrameRate) : Outcome RlpError Rlp3Frame :=
  if rate = .full then
    match decodeRlp3Frame bits mux with
    | .err _ => tryDecodeFillOrIdle1 bits mux
    | other => other
  else
    match subRateInfoBits rate with
    | some numInfoBits => decodeSubRateFrame bits numInfoBits
    | none => .err (.invalidFrame "no valid sub-rate frame found")

def processFrame (s : Rlp3Session) (frame : Rlp3Frame) : Rlp3Session × List RlpEvent :=
  match s.state with
  -- not reached: the session was initialized before
  | .uninitialized => (s, [])
  | .sync => s.processSyncState frame
  | .syncAck => s.processSyncAckState frame
  | .ack => s.processAckState frame
  | .dataTransfer => s.processDataTransfer frame

def reinitialize (s : Rlp3Session) (frame : Rlp3Frame) : Rlp3Session × List RlpEvent :=
  if shouldReinitializeFromControl frame then
    (s.initializeSession, if s.state ≠ .sync then [.stateChanged .sync] else [])
  else (s, [])

def ensureInitialized (s : Rlp3Session) : Rlp3Session :=
  if s.state = .uninitialized then s.initializeSession else s

def receiveFrame (s : Rlp3Session) (bits : Bits) (rate : FrameRate) :
    Option (Rlp3Session × List RlpEvent) :=
  let (s, events) := s.ensureInitialized.tickNakTimers
  if rate = .blank ∨ bits = [] then some (s, events)
  else
    match decodeReceived s.config.muxOption bits rate with
    | .panic => none
    | .err _ => some (s, events)
    | .ok frame =>
      let (s, reinitEvents) := s.reinitialize frame
      let (s, frameEvents) := s.processFrame frame
      some (s, events ++ reinitEvents ++ frameEvents)

/-! ### Building frames -/

def encodeOrEmpty (s : Rlp3Session) (frame : Rlp3Frame) : Option (Rlp3Session × Bits) :=
  ((frame.encode s.config.muxOption).unwrapOr []).map fun bits => (s, bits)

def buildFillFrame (s : Rlp3Session) : Option (Rlp3Session × Bits) :=
  s.encodeOrEmpty (.fill (vR8 s.lVN) (s.lVN / 256))

def buildIdleFrame (s : Rlp3Session) : Option (Rlp3Session × Bits) :=
  s.encodeOrEmpty (.idle1 (vR8 s.lVN) (s.lVN / 256))

/-- An idle frame every `idleInterval` frames, a fill frame otherwise. -/
def buildIdleOrFillFrame (s : Rlp3Session) : Option (Rlp3Session × Bits) :=
  let s := { s with idleTimer := s.idleTimer + 1 }
  if s.idleTimer ≥ s.idleInterval then ({ s with idleTimer := 0 }).buildIdleFrame
  else s.buildFillFrame

def newDataFrame (s : Rlp3Session) : Rlp3Frame × ℕ :=
  let mux := s.config.muxOption
  let seq8 := vR8 s.lVS
  if s.newDataRequiresSeqHi s.lVS then
    let len := min s.txQueue.length (maxSegmentedSingleSegmentLen mux)
    (.segmented seq8 true true false (some (s.lVS / 256)) 0 (s.txQueue.take len), len)
  else if s.txQueue.length ≥ mux.formatBDataLen then
    (.dataFormatB seq8 false (s.txQueue.take mux.formatBDataLen), mux.formatBDataLen)
  else
    let len := min s.txQueue.length mux.maxDataLen
    (.data seq8 false (s.txQueue.take len), len)

def buildNewDataFrame (s : Rlp3Session) : Option (Rlp3Session × Bits) :=
  let (frame, len) := s.newDataFrame
  ({ s with toTransmitter := s.toTransmitter.takeNew len }).encodeOrEmpty frame

def rexmitFrame (mux : MuxOption) (rexmit : RexmitEntry) : Rlp3Frame :=
  if rexmit.data.length = mux.formatBDataLen then .dataFormatB (vR8 rexmit.lSeq) true rexmit.data
  else .data (vR8 rexmit.lSeq) true rexmit.data

def buildDataFrame (s : Rlp3Session) (rate : FrameRate) (allowPayload : Bool) :
    Option (Rlp3Session × Bits) :=
  if rate ≠ .full then
    match subRateInfoBits rate with
    | some infoBits =>
      ((encodeSubRateFill (vR8 s.lVN) (s.lVN / 256) infoBits).unwrapOr []).map fun bits => (s, bits)
    | none => some (s, [])
  else
    match s.pendingControls.getLast? with
    | some ctrl =>
      ({ s with toReceiver := { s.toReceiver with pendingControls := s.pendingControls.dropLast } }
        ).encodeOrEmpty ctrl
    | none =>
      if allowPayload = false then s.buildIdleOrFillFrame
      else
        match s.rexmitQueue with
        | rexmit :: rest =>
          ({ s with
            idleTimer := 0
            toTransmitter := { s.toTransmitter with rexmitQueue := rest } }).encodeOrEmpty
              (rexmitFrame s.config.muxOption rexmit)
        | [] =>
          if s.txQueue ≠ [] then ({ s with idleTimer := 0 }).buildNewDataFrame
          else s.buildIdleOrFillFrame

def handshakeFrame (s : Rlp3Session) (controlType : Rlp3ControlType) (initVar : Bool) :
    Option (Rlp3Session × Bits) :=
  s.encodeOrEmpty (.control (vR8 s.lVS) controlType initVar false)

def nextFrameWithPayload (s : Rlp3Session) (rate : FrameRate) (allowPayload : Bool) :
    Option (Rlp3Session × Bits) :=
  let s := s.ensureInitialized
  match s.state with
  | .uninitialized => none
  | .sync => ({ s with handshakeFramesSent := s.handshakeFramesSent + 1 }).handshakeFrame .sync true
  | .syncAck => ({ s with handshakeFramesSent := s.handshakeFramesSent + 1 }).handshakeFrame .syncAck true
  | .ack =>
    let s := { s with handshakeFramesSent := s.handshakeFramesSent + 1 }
    if s.handshakeFramesSent > s.roundTripCounter then s.enterDataTransfer.buildDataFrame rate allowPayload
    else s.handshakeFrame .ack false
  | .dataTransfer => s.buildDataFrame rate allowPayload

def nextFrame (s : Rlp3Session) (rate : FrameRate) : Option (Rlp3Session × Bits) := s.nextFrameWithPayload rate true

def nextFrameControlOnly (s : Rlp3Session) (rate : FrameRate) : Option (Rlp3Session × Bits) :=
  s.nextFrameWithPayload rate false

/-! ### Supplemental blocks -/

def rexmitEligible (s : Rlp3Session) (blockBits formatCDataLen formatDDataLen : ℕ)
    (entry : RexmitEntry) : Bool :=
  let remaining := entry.data.length - entry.segmentOffset
  decide (entry.segmentOffset > 0) || decide (entry.data.length = formatCDataLen) ||
    decide (entry.data ≠ [] ∧ entry.data.length ≤ formatDDataLen) ||
    (s.newDataRequiresSeqHi entry.lSeq && decide (remaining > 0) &&
      (supplementalFormatDSegmentDataLen blockBits (entry.segmentOffset == 0)).isSome)

/-- A retransmission goes out in segments once it has started so, or when it has to carry SEQ_HI and
is too long for one block. -/
def rexmitUsesSegments (s : Rlp3Session) (formatDDataLen : ℕ) (rexmit : RexmitEntry) : Bool :=
  decide (rexmit.segmentOffset > 0) || (s.newDataRequiresSeqHi rexmit.lSeq &&
    decide (rexmit.data.length - rexmit.segmentOffset > formatDDataLen))

/-- The block of a retransmission that is not segmented: Format D, or Format C when it fits
exactly. -/
def rexmitBlock (s : Rlp3Session) (blockBits formatCDataLen formatDDataLen : ℕ)
    (rexmit : RexmitEntry) : Outcome RlpError Bits :=
  let needsSeqHi := s.newDataRequiresSeqHi rexmit.lSeq
  if rexmit.data ≠ [] ∧ rexmit.data.length ≤ formatDDataLen ∧
      (rexmit.data.length ≠ formatCDataLen ∨ needsSeqHi) then
    encodeSupplementalFormatDBlock (vR8 rexmit.lSeq)
      (if needsSeqHi then some (rexmit.lSeq / 256) else none) true rexmit.data blockBits
  else encodeSupplementalFormatCBlock (vR8 rexmit.lSeq) true rexmit.data blockBits

def rexmitSegment (blockBits dataLen : ℕ) (rexmit : RexmitEntry) : Outcome RlpError Bits :=
  encodeSupplementalFormatDSegmentBlock (vR8 rexmit.lSeq)
    (if rexmit.segmentOffset = 0 then some (rexmit.lSeq / 256) else none) rexmit.nextSSeq
    (decide (rexmit.segmentOffset + dataLen = rexmit.data.length)) true
    ((rexmit.data.drop rexmit.segmentOffset).take dataLen) blockBits

def rexmitRemainder (dataLen : ℕ) (rexmit : RexmitEntry) : List RexmitEntry :=
  if rexmit.segmentOffset + dataLen = rexmit.data.length then []
  else [{ rexmit with
    segmentOffset := rexmit.segmentOffset + dataLen
    nextSSeq := min (rexmit.nextSSeq + 1) 65535 }]

/-- The block of a retransmission already taken off the queue. It is lost when the encoding fails
(`ok()?`). -/
def supplementalRexmit (s : Rlp3Session) (blockBits formatCDataLen formatDDataLen : ℕ)
    (rexmit : RexmitEntry) : Option (Rlp3Session × Option Bits) :=
  match supplementalFormatDSegmentDataLen blockBits (rexmit.segmentOffset == 0) with
  | none => some (s, none)
  | some segmentMax =>
    if s.rexmitUsesSegments formatDDataLen rexmit then
      let dataLen := min (rexmit.data.length - rexmit.segmentOffset) segmentMax
      -- the slice `data[offset..next_offset]`
      if rexmit.segmentOffset + dataLen > rexmit.data.length then none
      else
        match rexmitSegment blockBits dataLen rexmit with
        | .panic => none
        | .err _ => some (s, none)
        | .ok bits =>
          some ({ s with
            idleTimer := 0
            toTransmitter := { s.toTransmitter with
              rexmitQueue := rexmitRemainder dataLen rexmit ++ s.rexmitQueue } }, some bits)
    else
      match s.rexmitBlock blockBits formatCDataLen formatDDataLen rexmit with
      | .panic => none
      | .err _ => some (s, none)
      | .ok bits => some ({ s with idleTimer := 0 }, some bits)

/-- New data goes out in Format D when it has to carry SEQ_HI or does not fill a Format C block. -/
def newUsesFormatD (s : Rlp3Session) (formatCDataLen : ℕ) : Bool :=
  s.newDataRequiresSeqHi s.lVS || decide (s.txQueue.length < formatCDataLen ∧ s.txQueue ≠ [])

def supplementalNewLen (s : Rlp3Session) (formatCDataLen formatDDataLen : ℕ) : ℕ :=
  if s.newUsesFormatD formatCDataLen then min s.txQueue.length formatDDataLen else formatCDataLen

def supplementalNewBlock (s : Rlp3Session) (blockBits formatCDataLen formatDDataLen : ℕ) :
    Outcome RlpError Bits :=
  let data := s.txQueue.take (s.supplementalNewLen formatCDataLen formatDDataLen)
  if s.newUsesFormatD formatCDataLen then
    encodeSupplementalFormatDBlock (vR8 s.lVS)
      (if s.newDataRequiresSeqHi s.lVS then some (s.lVS / 256) else none) false data blockBits
  else encodeSupplementalFormatCBlock (vR8 s.lVS) false data blockBits

def supplementalNew (s : Rlp3Session) (blockBits formatCDataLen formatDDataLen : ℕ) :
    Option (Rlp3Session × Option Bits) :=
  let dataLen := s.supplementalNewLen formatCDataLen formatDDataLen
  if dataLen = 0 ∨ s.txQueue.length < dataLen then some (s, none)
  else
    match s.supplementalNewBlock blockBits formatCDataLen formatDDataLen with
    | .panic => none
    -- the octets are off the queue when the encoding fails
    | .err _ => some ({ s with toTransmitter := { s.toTransmitter with txQueue := s.txQueue.drop dataLen } }, none)
    | .ok bits => some ({ s with toTransmitter := s.toTransmitter.takeNew dataLen, idleTimer := 0 }, some bits)

def nextSupplementalFrame (s : Rlp3Session) (blockBits : ℕ) : Option (Rlp3Session × Option Bits) :=
  match supplementalFormatCDataLen blockBits, supplementalFormatDDataLen blockBits with
  | some formatCDataLen, some formatDDataLen =>
    if s.state ≠ .dataTransfer then some (s, none)
    else
      match s.rexmitQueue.findIdx? (s.rexmitEligible blockBits formatCDataLen formatDDataLen) with
      | some idx =>
        match s.rexmitQueue[idx]? with
        | none => some (s, none)
        | some rexmit =>
          ({ s with
            toTransmitter := { s.toTransmitter with rexmitQueue := s.rexmitQueue.eraseIdx idx } }
            ).supplementalRexmit blockBits formatCDataLen formatDDataLen rexmit
      | none => s.supplementalNew blockBits formatCDataLen formatDDataLen
  | _, _ => some (s, none)

/-! ### The upper layer -/

def sendData (s : Rlp3Session) (data : Bytes) : Rlp3Session :=
  { s with toTransmitter := { s.toTransmitter with txQueue := s.txQueue ++ data } }

def receiveData (s : Rlp3Session) : Rlp3Session × Option Bytes :=
  if s.rxBuffer = [] then (s, none)
  else ({ s with toReceiver := { s.toReceiver with rxBuffer := [] } }, some s.rxBuffer)

end Rlp3Session

/-! ### The session as a machine -/

inductive Op where
  | initializeSession
  | sendData (data : Bytes)
  | receiveData
  | receiveFrame (bits : Bits) (rate : FrameRate)
  | nextFrame (rate : FrameRate)
  | nextFrameControlOnly (rate : FrameRate)
  | nextSupplementalFrame (blockBits : ℕ)
  deriving DecidableEq, Repr

inductive Out where
  | unit
  | data (data : Option Bytes)
  | events (events : List RlpEvent)
  | frame (bits : Bits)
  | block (bits : Option Bits)
  deriving DecidableEq, Repr

def Rlp3Session.step (s : Rlp3Session) : Op → Option (Rlp3Session × Out)
  | .initializeSession => some (s.initializeSession, .unit)
  | .sendData data => some (s.sendData data, .unit)
  | .receiveData => some (s.receiveData.1, .data s.receiveData.2)
  | .receiveFrame bits rate => (s.receiveFrame bits rate).map fun r => (r.1, .events r.2)
  | .nextFrame rate => (s.nextFrame rate).map fun r => (r.1, .frame r.2)
  | .nextFrameControlOnly rate => (s.nextFrameControlOnly rate).map fun r => (r.1, .frame r.2)
  | .nextSupplementalFrame blockBits => (s.nextSupplementalFrame blockBits).map fun r => (r.1, .block r.2)

def Rlp3Frame.bits (mux : MuxOption) (frame : Rlp3Frame) : Bits := ((frame.encode mux).unwrapOr []).getD []

def Op.received (mux : MuxOption) (frame : Rlp3Frame) : Op := .receiveFrame (frame.bits mux) .full

def Op.blank : Op := .receiveFrame [] .blank

end OneXBts.Packet.Rlp3
