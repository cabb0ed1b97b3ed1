import OneXBts.Bts.LacPdu

/-!
ARQ for directed PDUs on the paging channel (`lac/mod.rs`).

`MsgSeqTracker` has, for each destination and class, the next number and when each number was last transmitted;
`PendingDirectedPduTracker` has the PDUs that are neither acknowledged nor expired. A map whose entries are made with a
default is a total function. The clock, in nanoseconds, is read once in a call.
-/

namespace OneXBts.Bts.Lac

open Lib Common

/-- `T4M_RETRANSMIT_WINDOW` and `T4M_DURATION`, 2.2 seconds. -/
def t4m : ℕ := 2200000000

/-! ### MSG_SEQ numbers -/

structure MsgSeqEntry where
  nextSeq : Fin 8 := 0
  seqLastTransmitted : Fin 8 → Option ℕ := fun _ => none

/-- An address and a class, as a destination is tracked. -/
abbrev TrackerKey := (UInt8 × Bytes) × Bool

/-- The tracker of the paging channel: modulus 8, with the cooldown T4m. -/
structure MsgSeqTracker where
  counters : TrackerKey → MsgSeqEntry := fun _ => {}

namespace MsgSeqTracker

def key (addr : MsAddress) (ackReq : Bool) : TrackerKey := (addr.trackingKey, ackReq)

def inCooldown (entry : MsgSeqEntry) (now : ℕ) (seq : Fin 8) : Bool :=
  match entry.seqLastTransmitted seq with
  | some lastTx => now - lastTx < t4m
  | none => false

def firstFree (barred : Fin 8 → Bool) : ℕ → Fin 8 → Option (Fin 8)
  | 0, _ => none
  | tries + 1, seq => if barred seq then firstFree barred tries (seq + 1) else some seq

def advance (tracker : MsgSeqTracker) (key : TrackerKey) (seq : Fin 8) : MsgSeqTracker where
  counters := Function.update tracker.counters key { tracker.counters key with nextSeq := seq + 1 }

def nextSeqExcluding (tracker : MsgSeqTracker) (now : ℕ) (addr : MsAddress) (ackReq : Bool) (excluded : Fin 8 → Bool) :
    Except LacError (Fin 8 × MsgSeqTracker) :=
  let entry := tracker.counters (key addr ackReq)
  match firstFree (fun seq => excluded seq || inCooldown entry now seq) 8 entry.nextSeq with
  | some seq => .ok (seq, tracker.advance (key addr ackReq) seq)
  | none => .error .exhausted

def markTransmitted (tracker : MsgSeqTracker) (addr : MsAddress) (ackReq : Bool) (msgSeq : Fin 8) (now : ℕ) :
    MsgSeqTracker :=
  let entry := tracker.counters (key addr ackReq)
  { counters := Function.update tracker.counters (key addr ackReq)
      { entry with seqLastTransmitted := Function.update entry.seqLastTransmitted msgSeq (some now) } }

end MsgSeqTracker

/-! ### Pending PDUs -/

structure PendingDirectedPduKey where
  addr : MsAddress
  messageId : MessageId
  ackSeq : UInt8
  ackReq : Bool
  validAck : Bool
  sduBits : Bits
  deriving DecidableEq

structure PendingDirectedPdu where
  key : PendingDirectedPduKey
  msgSeq : Fin 8
  firstTxAt : Option ℕ := none
  lastTxAt : Option ℕ := none
  deriving DecidableEq

namespace PendingDirectedPdu

def unexpired (now : ℕ) (entry : PendingDirectedPdu) : Bool :=
  match entry.firstTxAt with
  | some firstTxAt => now - firstTxAt ≤ t4m
  | none => true

def numbered (addr : MsAddress) (ackReq : Bool) (msgSeq : Fin 8) (entry : PendingDirectedPdu) : Bool :=
  entry.key.addr = addr ∧ entry.key.ackReq = ackReq ∧ entry.msgSeq = msgSeq

end PendingDirectedPdu

structure PendingDirectedPduTracker where
  entries : List PendingDirectedPdu := []
  deriving DecidableEq

namespace PendingDirectedPduTracker

def retainUnexpired (pending : PendingDirectedPduTracker) (now : ℕ) : PendingDirectedPduTracker :=
  { entries := pending.entries.filter (PendingDirectedPdu.unexpired now) }

/-- The number for a PDU: that of the entry with its key, or a new one with a new entry. An error leaves the entries that
are not expired. -/
def reserveMsgSeq (pending : PendingDirectedPduTracker) (tracker : MsgSeqTracker) (now : ℕ)
    (pduKey : PendingDirectedPduKey) :
    PendingDirectedPduTracker × Except LacError (Fin 8 × MsgSeqTracker) :=
  let pending := pending.retainUnexpired now
  match pending.entries.find? (·.key = pduKey) with
  | some existing => (pending, .ok (existing.msgSeq, tracker))
  | none =>
    let excluded := fun seq => pending.entries.any (PendingDirectedPdu.numbered pduKey.addr pduKey.ackReq seq)
    match tracker.nextSeqExcluding now pduKey.addr pduKey.ackReq excluded with
    | .ok (msgSeq, tracker) =>
      ({ entries := pending.entries ++ [{ key := pduKey, msgSeq := msgSeq }] }, .ok (msgSeq, tracker))
    | .error e => (pending, .error e)

def markTransmitted (pending : PendingDirectedPduTracker) (addr : MsAddress) (ackReq : Bool) (msgSeq : Fin 8) (now : ℕ) :
    PendingDirectedPduTracker :=
  match pending.entries.findIdx? (PendingDirectedPdu.numbered addr ackReq msgSeq) with
  | some i =>
    { entries := pending.entries.modify i fun entry =>
        { entry with firstTxAt := entry.firstTxAt.or (some now), lastTxAt := some now } }
  | none => pending

def acknowledge (pending : PendingDirectedPduTracker) (addr : MsAddress) (msgSeq : UInt8) (now : ℕ) :
    PendingDirectedPduTracker × Bool :=
  let retained := pending.retainUnexpired now
  let entries := retained.entries.filter fun entry => !(entry.key.addr = addr ∧ entry.msgSeq.val = msgSeq.toNat)
  ({ entries := entries }, entries.length != retained.entries.length)

end PendingDirectedPduTracker

/-! ### The state -/

structure State where
  messageQueue : ChannelType → List EncapsulatedPdu := fun _ => []
  cancelFutureGeneralPages : Bool := false
  fpchQueueCheckedOut : Bool := false
  pagingMsgSeqTracker : MsgSeqTracker := {}
  pendingDirectedPdus : PendingDirectedPduTracker := {}

def State.new : State := {}

structure DirectedSduRequest where
  sdu : Bits
  channel : ChannelType := .fPch
  address : MsAddress
  messageId : MessageId
  ackSeq : UInt8 := 0
  ackReq : Bool := true
  validAck : Bool := false
  requestedTxTime : Option CdmaSystemTime := none
  txDeadline : Option CdmaSystemTime := none
  overheadMcc : UInt16 := 0x03ff
  overheadImsi1112 : UInt8 := 0x7f
  deriving DecidableEq

def DirectedSduRequest.pduKey (req : DirectedSduRequest) : PendingDirectedPduKey where
  addr := req.address
  messageId := req.messageId
  ackSeq := req.ackSeq
  ackReq := req.ackReq
  validAck := req.validAck
  sduBits := req.sdu

def DirectedSduRequest.dataRequest (req : DirectedSduRequest) (msgSeq : Fin 8) : DataRequest where
  sdu := req.sdu
  mcsb :=
    { channel := req.channel
      lengthBits := req.sdu.length
      messageId := req.messageId
      requestedTxTime := req.requestedTxTime
      txDeadline := req.txDeadline
      address := some req.address
      ackSeq := req.ackSeq
      msgSeq := UInt8.ofNat msgSeq.val
      ackReq := req.ackReq
      validAck := req.validAck
      overheadMcc := req.overheadMcc
      overheadImsi1112 := req.overheadImsi1112 }

structure ArqHandle where
  msgSeq : Fin 8
  mcsb : MessageControlStatusBlock
  deriving DecidableEq

namespace State

/-- A PDU with a deadline goes before the first PDU that is not started, not addressed and without a deadline. -/
def enqueue (queue : List EncapsulatedPdu) (pdu : EncapsulatedPdu) : List EncapsulatedPdu :=
  if pdu.message.mcsb.txDeadline.isSome then
    let insertPos := queue.findIdx fun p =>
      !p.frameStartSent && p.message.mcsb.address.isNone && p.message.mcsb.txDeadline.isNone
    queue.take insertPos ++ pdu :: queue.drop insertPos
  else queue ++ [pdu]

def sendMessage (dsch : DataRequest → Option Bits) (state : State) (request : DataRequest) :
    State × Outcome LacError Unit :=
  match assemblePdu dsch request with
  | .ok pdu =>
    let queue := enqueue (state.messageQueue request.mcsb.channel) pdu
    ({ state with messageQueue := Function.update state.messageQueue request.mcsb.channel queue }, .ok ())
  | .err e => (state, .err e)
  | .panic => (state, .panic)

/-- The tracker is taken out of the state while a number is reserved; on an error it is not put back. -/
def sendDirectedSdu (dsch : DataRequest → Option Bits) (state : State) (now : ℕ) (req : DirectedSduRequest) :
    State × Outcome LacError ArqHandle :=
  let tracker := state.pagingMsgSeqTracker
  let state := { state with pagingMsgSeqTracker := {} }
  match state.pendingDirectedPdus.reserveMsgSeq tracker now req.pduKey with
  | (pending, .error e) => ({ state with pendingDirectedPdus := pending }, .err e)
  | (pending, .ok (msgSeq, tracker)) =>
    let state := { state with pendingDirectedPdus := pending, pagingMsgSeqTracker := tracker }
    let request := req.dataRequest msgSeq
    let (state, sent) := state.sendMessage dsch request
    (state, sent.bind fun () => .ok { msgSeq := msgSeq, mcsb := request.mcsb })

def acknowledgePdu (state : State) (now : ℕ) (addr : MsAddress) (msgSeq : UInt8) : State × Bool :=
  let (pending, acknowledged) := state.pendingDirectedPdus.acknowledge addr msgSeq now
  ({ state with pendingDirectedPdus := pending }, acknowledged)

def markDirectedPduTransmitted (state : State) (now : ℕ) (mcsb : MessageControlStatusBlock) : Except LacError State :=
  if mcsb.channel ≠ .fPch then .ok state
  else
    match mcsb.address with
    | none => .ok state
    | some addr =>
      if h : mcsb.msgSeq.toNat < 8 then
        .ok { state with
          pagingMsgSeqTracker := state.pagingMsgSeqTracker.markTransmitted addr mcsb.ackReq ⟨mcsb.msgSeq.toNat, h⟩ now
          pendingDirectedPdus := state.pendingDirectedPdus.markTransmitted addr mcsb.ackReq ⟨mcsb.msgSeq.toNat, h⟩ now }
      else .error (.msgSeqTooLarge mcsb.msgSeq)

end State

end OneXBts.Bts.Lac
