import OneXBts.An.A8Forward
import OneXBts.Lib.Flags

/-!
Reliable delivery on stream 0 (`air.rs`): the SLP-D part of the signalling link protocol, with sequence numbers of three bits.

The receiver has the number it expects next and eight flags for what it has received; the sender keeps what is not
acknowledged. The builder of the forward packet is a parameter, times are milliseconds, and of an assignment there are only
the fields used here.
-/

namespace OneXBts.An.Air

open Lib

def stream0SlpDWaitAck : ℕ := 400
def stream0SlpDMaxAttempts : ℕ := 3

structure PendingReliableStream0Packet where
  sequenceNumber : UInt8
  protocolType : UInt8
  payload : List UInt8
  inConfiguration : Bool
  ackSequenceNumber : Option UInt8
  label : String
  attempts : ℕ
  lastSendAt : ℕ
  deriving DecidableEq, Repr

structure PendingTrafficAssignment where
  trafficUati : UInt32
  pilots : List UInt8
  reliableStream0Tx : List PendingReliableStream0Packet := []
  reverseStream0SlpDVn : UInt8 := 0
  reverseStream0SlpDRx : UInt8 := 0
  inUsePhysicalLayerSubtype : UInt16 := 0
  inUseForwardTrafficMacSubtype : UInt16 := 0
  deriving DecidableEq, Repr

structure AtSession where
  pendingTrafficAssignment : Option PendingTrafficAssignment := none
  slpDVsStream0Fl : UInt8 := 0
  deriving DecidableEq, Repr

/-! ### The receiver -/

/-- The flags when the next number moves: those that are not behind it any more are cleared. -/
def clearFuture (rx oldVn newVn : UInt8) : UInt8 :=
  if newVn > oldVn then clearFlags rx newVn.toNat 8
  else if newVn < oldVn then clearFlags rx newVn.toNat oldVn.toNat
  else rx

def PendingTrafficAssignment.accept (pending : PendingTrafficAssignment) (sequenceNumber : UInt8) :
    PendingTrafficAssignment × Bool :=
  let k := sequenceNumber &&& 0x07
  let bit := (1 : UInt8) <<< k
  let rx := if k = pending.reverseStream0SlpDVn ∧ pending.reverseStream0SlpDRx &&& bit ≠ 0 then 0
    else pending.reverseStream0SlpDRx
  if rx &&& bit ≠ 0 then ({ pending with reverseStream0SlpDRx := rx }, false)
  else
    let oldVn := pending.reverseStream0SlpDVn
    let ahead := (k - oldVn) &&& 0x07
    if k = oldVn ∨ ahead ≤ 3 then
      let newVn := (k + 1) &&& 0x07
      ({ pending with
          reverseStream0SlpDVn := newVn
          reverseStream0SlpDRx := clearFuture (rx ||| bit) oldVn newVn }, true)
    else ({ pending with reverseStream0SlpDRx := rx ||| bit }, true)

def acceptReverseStream0SlpDPayload (session : AtSession) (uati : UInt32) (sequenceNumber : UInt8) :
    AtSession × Bool :=
  match session.pendingTrafficAssignment.filter (·.trafficUati = uati) with
  | none => (session, true)
  | some pending =>
    let (pending, accepted) := pending.accept sequenceNumber
    ({ session with pendingTrafficAssignment := some pending }, accepted)

/-! ### The sender -/

structure ReliableMessage where
  protocolType : UInt8
  payload : List UInt8
  inConfiguration : Bool
  ackSequenceNumber : Option UInt8
  label : String
  deriving DecidableEq, Repr

def makeRoom (packets : List PendingReliableStream0Packet) : List PendingReliableStream0Packet :=
  if packets.length ≥ 7 then packets.drop 1 else packets

def rememberReliableStream0Packet (pending : PendingTrafficAssignment) (sequenceNumber : UInt8)
    (message : ReliableMessage) (now : ℕ) : PendingTrafficAssignment :=
  { pending with
    reliableStream0Tx := makeRoom pending.reliableStream0Tx ++
      [{ sequenceNumber := sequenceNumber &&& 0x07
         protocolType := message.protocolType
         payload := message.payload
         inConfiguration := message.inConfiguration
         ackSequenceNumber := message.ackSequenceNumber.map (· &&& 0x07)
         label := message.label
         attempts := 1
         lastSendAt := now }] }

/-- A send: the number is that of the counter, the packet is remembered, and the counter moves on. -/
def sendReliableStream0 (session : AtSession) (message : ReliableMessage) (now : ℕ) : AtSession :=
  match session.pendingTrafficAssignment with
  | none => session
  | some pending =>
    { session with
      pendingTrafficAssignment :=
        some (rememberReliableStream0Packet pending (session.slpDVsStream0Fl &&& 0x07) message now)
      slpDVsStream0Fl := (session.slpDVsStream0Fl + 1) &&& 0x07 }

def markReliableStream0Acknowledged (session : AtSession) (uati : UInt32) (ackSequenceNumber : UInt8) :
    AtSession × List String :=
  match session.pendingTrafficAssignment.filter (·.trafficUati = uati) with
  | none => (session, [])
  | some pending =>
    let ackSequenceNumber := ackSequenceNumber &&& 0x07
    let labels := (pending.reliableStream0Tx.filter (·.sequenceNumber = ackSequenceNumber)).map (·.label)
    ({ session with
        pendingTrafficAssignment := some { pending with
          reliableStream0Tx := pending.reliableStream0Tx.filter (·.sequenceNumber ≠ ackSequenceNumber) } }, labels)

inductive Timer where
  | waiting
  | failed
  | due
  deriving DecidableEq, Repr

def PendingReliableStream0Packet.timer (packet : PendingReliableStream0Packet) (now : ℕ) : Timer :=
  if now - packet.lastSendAt < stream0SlpDWaitAck then .waiting
  else if packet.attempts ≥ stream0SlpDMaxAttempts then .failed
  else .due

def PendingReliableStream0Packet.tick (now : ℕ) (packet : PendingReliableStream0Packet) :
    PendingReliableStream0Packet :=
  if packet.timer now = .due then { packet with attempts := packet.attempts + 1, lastSendAt := now } else packet

/-- Builds a forward packet from the UATI, the MAC index, the two subtypes, the DRC and the packet. -/
abbrev Stream0Builder := UInt32 → UInt8 → UInt16 → UInt16 → UInt8 → PendingReliableStream0Packet → Option (List UInt8)

/-- The packets that are due are sent again and those that were tried often enough are given up, if the last DRC of the
UATI is one that there is a packet for. -/
def maybeRetransmitReliableStream0 (build : Stream0Builder) (lastDrcByUati : UInt32 → Option UInt8)
    (session : AtSession) (now : ℕ) : AtSession × List (List UInt8) :=
  match session.pendingTrafficAssignment.filter fun pending => pending.reliableStream0Tx ≠ [] with
  | none => (session, [])
  | some pending =>
    match pending.pilots.head? with
    | none => (session, [])
    | some macIndex =>
      match (lastDrcByUati pending.trafficUati).filter fun drcIndex =>
          (A8.HrpdAnA8Session.forwardTrafficPayloadBitsForDrc drcIndex).isSome with
      | none => (session, [])
      | some drcIndex =>
        let failedSequences := (pending.reliableStream0Tx.filter (·.timer now = .failed)).map (·.sequenceNumber)
        let duePackets := (pending.reliableStream0Tx.filter (·.timer now = .due)).map (·.tick now)
        let kept := (pending.reliableStream0Tx.map (·.tick now)).filter (·.sequenceNumber ∉ failedSequences)
        ({ session with pendingTrafficAssignment := some { pending with reliableStream0Tx := kept } },
          duePackets.filterMap (build pending.trafficUati macIndex pending.inUsePhysicalLayerSubtype
            pending.inUseForwardTrafficMacSubtype drcIndex))

end OneXBts.An.Air
