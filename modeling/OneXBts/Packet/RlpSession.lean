import OneXBts.Lib.Ring
import OneXBts.Lib.Runs
import OneXBts.Packet.Rlp

/-!
The RLP Type 1 session (`rlp_session.rs`).

Sequence numbers are octets. What has arrived between `V(N)`, needed next, and `V(R)`, expected next, waits in `reseqBuffer`.
The tables are functions, read at numbers below 256 only, and the loops visit at most the 256 numbers there are.
-/

namespace OneXBts.Packet.Rlp

open Lib

abbrev seqModulus : ℕ := 256

/-! ### Comparison of sequence numbers -/

inductive SeqCmp where
  | less | equal | greater
  deriving DecidableEq, Repr

/-- For any `N`, the 127 numbers after it are greater and the 128 before it are less. -/
def seqCompare (a b : ℕ) : SeqCmp :=
  if a = b then .equal
  else
    let diff := (a + seqModulus - b) % seqModulus
    if 1 ≤ diff ∧ diff ≤ 127 then .greater else .less

def seqGt (a b : ℕ) : Bool := seqCompare a b == .greater

def seqLt (a b : ℕ) : Bool := seqCompare a b == .less

/-! ### State -/

inductive RlpState where
  | uninitialized | sync | syncAck | ack | dataTransfer
  deriving DecidableEq, Repr

/-- A retransmission being put together from segments. -/
structure SegmentAssembly where
  seq : UInt8
  data : Bytes
  expectSecondOrLast : Bool
  deriving DecidableEq, Repr

structure RlpSession where
  state : RlpState := .uninitialized
  /-- V(S): the next number to be transmitted. -/
  vS : ℕ := 0
  /-- V(R): the next number expected. -/
  vR : ℕ := 0
  /-- V(N): the next number needed for sequential delivery. -/
  vN : ℕ := 0
  roundTripCounter : ℕ := 0
  rlpDelay : ℕ := 0
  handshakeFramesSent : ℕ := 0
  consecutiveErasures : ℕ := 0
  txQueue : Bytes := []
  rxBuffer : Bytes := []
  reseqBuffer : ℕ → Option Bytes := fun _ => none
  pendingControls : List RlpFrame := []
  pendingRetransmissions : List RlpFrame := []
  /-- Copies of the data frames sent. -/
  txHistory : ℕ → Option RlpFrame := fun _ => none
  /-- Numbers already asked for by a NAK. -/
  nakOutstanding : ℕ → Bool := fun _ => false
  segmentAssembly : Option SegmentAssembly := none

inductive RlpOutput where
  | sendFrame (frame : RlpFrame)
  | nothing
  deriving DecidableEq, Repr

def syncFrame (seq : UInt8) : RlpFrame := .control seq .sync 0 0 0

def syncAckFrame (seq : UInt8) : RlpFrame := .control seq .syncAck 0 0 0

def ackFrame (seq : UInt8) : RlpFrame := .control seq .ack 0 0 0

def nakFrame (seq first last : UInt8) : RlpFrame := .control seq .nak 0 first last

def isSyncFrame : RlpFrame → Bool
  | .control _ .sync .. => true
  | _ => false

namespace RlpSession

def initializeSession (_ : RlpSession) : RlpSession := { state := .sync }

def ensureInitialized (s : RlpSession) : RlpSession :=
  if s.state = .uninitialized then s.initializeSession else s

def enqueueData (s : RlpSession) (data : Bytes) : RlpSession := { s with txQueue := s.txQueue ++ data }

def takeReceivedData (s : RlpSession) : RlpSession × Bytes := ({ s with rxBuffer := [] }, s.rxBuffer)

/-! ### Receiving -/

def deliverContiguous (s : RlpSession) : RlpSession :=
  let (vN, reseqBuffer, data) := sweep seqModulus (fun _ slot => slot.isNone) seqModulus s.vN
    s.reseqBuffer
  { s with vN, reseqBuffer, rxBuffer := s.rxBuffer ++ data.flatten }

def queueNak (s : RlpSession) (seq : ℕ) : RlpSession :=
  if (s.reseqBuffer seq).isNone && !s.nakOutstanding seq then
    { s with
      pendingControls := s.pendingControls ++
        [nakFrame (UInt8.ofNat s.vS) (UInt8.ofNat seq) (UInt8.ofNat seq)]
      nakOutstanding := Function.update s.nakOutstanding seq true }
  else s

def queueNaksForMissingRange (s : RlpSession) (first last : ℕ) : RlpSession :=
  (seqsUpTo seqModulus last seqModulus first).foldl queueNak s

def overflows (s : RlpSession) : Bool := seqGt ((s.vR + seqModulus - 128) % seqModulus) s.vN

def handOver (s : RlpSession) : RlpSession × Option Bytes :=
  if s.rxBuffer ≠ [] then
    let (s, data) := s.takeReceivedData
    (s, some data)
  else (s, none)

def receiveExpected (s : RlpSession) (seq : ℕ) (data : Bytes) : RlpSession × Option Bytes :=
  if s.vR = s.vN then
    ({ s with
      vR := (s.vR + 1) % seqModulus
      vN := (s.vN + 1) % seqModulus
      rxBuffer := s.rxBuffer ++ data }).deliverContiguous.handOver
  else
    let s := { s with
      vR := (s.vR + 1) % seqModulus
      reseqBuffer := Function.update s.reseqBuffer seq (some data) }
    if s.overflows then (s.initializeSession, none) else s.handOver

/-- The branch of a number beyond the expected one: the numbers skipped are asked for. -/
def receiveBeyond (s : RlpSession) (seq : ℕ) (data : Bytes) : RlpSession × Option Bytes :=
  let s := { s with reseqBuffer := Function.update s.reseqBuffer seq (some data) }
  let s := s.queueNaksForMissingRange s.vN ((seq + seqModulus - 1) % seqModulus)
  let s := { s with vR := (seq + 1) % seqModulus }
  if s.overflows then (s.initializeSession, none) else s.handOver

/-- The branch of a number before the expected one: a duplicate, or a late arrival. -/
def receiveLate (s : RlpSession) (seq : ℕ) (data : Bytes) : RlpSession × Option Bytes :=
  if seqLt seq s.vN then (s, none)
  else if (s.reseqBuffer seq).isNone then
    let s := { s with
      reseqBuffer := Function.update s.reseqBuffer seq (some data)
      nakOutstanding := Function.update s.nakOutstanding seq false }
    if seq = s.vN then s.deliverContiguous.handOver else s.handOver
  else s.handOver

def receiveData (s : RlpSession) (seq : UInt8) (data : Bytes) : RlpSession × Option Bytes :=
  let s := { s with nakOutstanding := Function.update s.nakOutstanding seq.toNat false }
  match seqCompare seq.toNat s.vR with
  | .equal => s.receiveExpected seq.toNat data
  | .greater => s.receiveBeyond seq.toNat data
  | .less => s.receiveLate seq.toNat data

/-- An idle frame with SEQ beyond `V(R)` means that frames were missed. -/
def updateVrForIdle (s : RlpSession) (seq : UInt8) : RlpSession :=
  if seqGt seq.toNat s.vR then
    { s.queueNaksForMissingRange s.vN ((seq.toNat + seqModulus - 1) % seqModulus) with vR := seq.toNat }
  else s

/-- Queue the frames asked for; a number not sent yet resets the session. -/
def retransmit (s : RlpSession) : List ℕ → RlpSession
  | [] => s
  | seq :: rest =>
    if seq = s.vS ∨ seqGt seq s.vS = true then s.initializeSession
    else
      retransmit { s with
        pendingRetransmissions := s.pendingRetransmissions ++ (s.txHistory seq).toList } rest

def processNak (s : RlpSession) (first last : UInt8) : RlpSession :=
  s.retransmit (seqsUpTo seqModulus last.toNat seqModulus first.toNat)

def receiveSegmented (s : RlpSession) (seq : UInt8) (segmentType : SegmentType) (data : Bytes) :
    RlpSession × Option Bytes :=
  match segmentType with
  | .intersegmentFill => (s, none)
  | .first => ({ s with segmentAssembly := some ⟨seq, data, true⟩ }, none)
  | .second =>
    match s.segmentAssembly with
    | none => (s, none)
    | some assembly =>
      if assembly.seq ≠ seq ∨ assembly.expectSecondOrLast = false then ({ s with segmentAssembly := none }, none)
      else ({ s with segmentAssembly := some ⟨seq, assembly.data ++ data, false⟩ }, none)
  | .last =>
    match s.segmentAssembly with
    | none => (s, none)
    | some assembly =>
      let s := { s with segmentAssembly := none }
      if assembly.seq ≠ seq then (s, none) else s.receiveData seq (assembly.data ++ data)

def processDataFrame (s : RlpSession) (frame : RlpFrame) : RlpSession × Option Bytes :=
  match frame with
  | .data seq data => if data = [] then (s.updateVrForIdle seq, none) else s.receiveData seq data
  | .dataFormatB seq data => s.receiveData seq data
  | .idle seq => (s.updateVrForIdle seq, none)
  | .control _ .nak _ first last => (s.processNak first last, none)
  | .control .. => (s, none)
  | .segmented seq segmentType data => s.receiveSegmented seq segmentType data

/-! ### The SYNC exchange -/

def enterDataTransfer (s : RlpSession) : RlpSession := { s with state := .dataTransfer }

def measureDelay (s : RlpSession) : RlpSession := { s with rlpDelay := max s.handshakeFramesSent 1 }

def receiveInSync (s : RlpSession) (frame : RlpFrame) : RlpSession × Option Bytes :=
  match frame with
  | .control _ .sync .. => ({ s with roundTripCounter := 4, handshakeFramesSent := 0, state := .syncAck }, none)
  | .control _ .syncAck .. =>
    ({ s.measureDelay with roundTripCounter := 4, handshakeFramesSent := 0, state := .ack }, none)
  | _ => (s, none)

def receiveInSyncAck (s : RlpSession) (frame : RlpFrame) : RlpSession × Option Bytes :=
  match frame with
  | .control _ .sync .. => ({ s with handshakeFramesSent := 0 }, none)
  | .control _ .ack .. | .control _ .syncAck .. => (s.measureDelay.enterDataTransfer, none)
  -- any other valid frame is the first of the data transfer
  | frame => s.enterDataTransfer.processDataFrame frame

def receiveInAck (s : RlpSession) (frame : RlpFrame) : RlpSession × Option Bytes :=
  match frame with
  | .control _ .syncAck .. => ({ s with handshakeFramesSent := 0 }, none)
  | .control _ .sync .. => (s.initializeSession, none)
  -- an ACK or any other valid frame
  | frame => s.enterDataTransfer.processDataFrame frame

/-- Process a received frame; `none` is an erasure. -/
def receiveFrame (s : RlpSession) (frame : Option RlpFrame) : RlpSession × Option Bytes :=
  let s := s.ensureInitialized
  match frame with
  | none =>
    let s := { s with consecutiveErasures := s.consecutiveErasures + 1 }
    (if s.consecutiveErasures > 127 then s.initializeSession else s, none)
  | some frame =>
    let s := { s with consecutiveErasures := 0 }
    match s.state with
    -- not met: the session was initialized above
    | .uninitialized => (s, none)
    | .sync => s.receiveInSync frame
    | .syncAck => s.receiveInSyncAck frame
    | .ack => s.receiveInAck frame
    | .dataTransfer => if isSyncFrame frame then (s.initializeSession, none) else s.processDataFrame frame

/-! ### Sending -/

def sendNew (s : RlpSession) (len : ℕ) (mkFrame : UInt8 → Bytes → RlpFrame) : RlpSession × RlpOutput :=
  let frame := mkFrame (UInt8.ofNat s.vS) (s.txQueue.take len)
  ({ s with
    txQueue := s.txQueue.drop len
    txHistory := Function.update s.txHistory s.vS (some frame)
    vS := (s.vS + 1) % seqModulus }, .sendFrame frame)

def buildDataFrame (s : RlpSession) (mux : RlpMuxOption) : RlpSession × RlpOutput :=
  match s.pendingControls with
  | frame :: rest => ({ s with pendingControls := rest }, .sendFrame frame)
  | [] =>
    match s.pendingRetransmissions with
    | frame :: rest => ({ s with pendingRetransmissions := rest }, .sendFrame frame)
    | [] =>
      let available := s.txQueue.length
      if s.txQueue = [] then (s, .sendFrame (.idle (UInt8.ofNat s.vS)))
      else if available ≥ mux.formatBOctets then s.sendNew mux.formatBOctets .dataFormatB
      else if available > 8 then s.sendNew (min available mux.fullFormatAOctets) .data
      else s.sendNew (min available 8) .data

def nextFrameForMux (s : RlpSession) (mux : RlpMuxOption) : RlpSession × RlpOutput :=
  let s := s.ensureInitialized
  match s.state with
  -- not met: the session was initialized above
  | .uninitialized => (s, .nothing)
  | .sync =>
    ({ s with handshakeFramesSent := s.handshakeFramesSent + 1 },
      .sendFrame (syncFrame (UInt8.ofNat s.vS)))
  | .syncAck =>
    ({ s with handshakeFramesSent := s.handshakeFramesSent + 1 },
      .sendFrame (syncAckFrame (UInt8.ofNat s.vS)))
  | .ack =>
    let s := { s with handshakeFramesSent := s.handshakeFramesSent + 1 }
    if s.handshakeFramesSent > s.roundTripCounter then s.enterDataTransfer.buildDataFrame mux
    else (s, .sendFrame (ackFrame (UInt8.ofNat s.vS)))
  | .dataTransfer => s.buildDataFrame mux

/-! ### Calls -/

inductive Op where
  | initializeSession
  | enqueueData (data : Bytes)
  | takeReceivedData
  | receiveFrame (frame : Option RlpFrame)
  | nextFrameForMux (mux : RlpMuxOption)
  deriving DecidableEq, Repr

inductive Out where
  | nothing
  | data (data : Bytes)
  | delivery (data : Option Bytes)
  | output (output : RlpOutput)
  deriving DecidableEq, Repr

def call (s : RlpSession) : Op → RlpSession × Out
  | .initializeSession => (s.initializeSession, .nothing)
  | .enqueueData data => (s.enqueueData data, .nothing)
  | .takeReceivedData => (s.takeReceivedData.1, .data s.takeReceivedData.2)
  | .receiveFrame frame => ((s.receiveFrame frame).1, .delivery (s.receiveFrame frame).2)
  | .nextFrameForMux mux => ((s.nextFrameForMux mux).1, .output (s.nextFrameForMux mux).2)

def step (s : RlpSession) (op : Op) : Option (RlpSession × Out) := some (s.call op)

end RlpSession

end OneXBts.Packet.Rlp
