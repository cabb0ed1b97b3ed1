import Mathlib.Data.UInt
import OneXBts.An.RlpReceiver
import OneXBts.Lib.BitField

/-!
The forward side of the HRPD default packet stream (`a8_runtime.rs`).

A flush cuts `pendingDownlink` into packets, numbers the segments from `rlpSeq` on and keeps what it sent in `rlpHistory`.
A NAK asks for ranges of numbers: up to 16 segments are taken from the history at once, the rest waits for a flush.

The builder of the physical packet and the signalling while the packet flow is closed are parameters; a flush is given its
readings of the clock. Beside what the code returns, the functions say what was done for each range (`Repair`) and which
segments a packet holds (`Transmission`).
-/

namespace OneXBts.An.A8

open Lib An.Rlp An.Air

def forwardMaxStreamOctets : ℕ := 120
def fallbackForwardDrcIndex : UInt8 := 0x2
def partialPacketCoalesceDelay : ℕ := 12
def forwardMaxPacketsPerFlush : ℕ := 16
def rlpRetransmitMaterializeBudget : ℕ := forwardMaxPacketsPerFlush
def rlpHistoryMaxOctets : ℕ := 2 ^ 20

def forwardTrafficMacSubtypeDefault : UInt16 := 0x0000
def forwardTrafficMacSubtypeEnhanced : UInt16 := 0x0001

structure HrpdRlpHistoryOctet where
  sequence : UInt32
  octet : UInt8
  deriving DecidableEq, Repr

structure HrpdRlpRetransmitSegment where
  sequence : UInt32
  octets : List UInt8
  deriving DecidableEq, Repr

structure HrpdRlpRetransmitRequest where
  nextSequence : UInt32
  remaining : UInt16
  deriving DecidableEq, Repr

structure HrpdA8QueuedRlpSegment where
  sequence : UInt32
  octets : List UInt8
  retransmission : Bool
  deriving DecidableEq, Repr

structure HrpdAnForwardTrafficPacket where
  macIndex : UInt8
  physicalLayerSubtype : UInt16
  forwardTrafficMacSubtype : UInt16
  highPriority : Bool
  payload : List UInt8
  deriving DecidableEq, Repr

structure HrpdAnA8Session where
  macIndex : UInt8
  rlpSeq : UInt32 := 0
  trafficOpen : Bool := false
  trafficSetupPending : Bool := false
  sessionConfigurationComplete : Bool := false
  physicalLayerSubtype : UInt16 := 0
  forwardTrafficMacSubtype : UInt16 := 0
  trafficConfigurationComplete : Bool := false
  addressManagementPending : Bool := false
  defaultPacketFlowOpen : Bool := false
  defaultPacketStreamId : UInt8 := 1
  lastDrcIndex : Option UInt8 := none
  pendingDownlinkPartialHoldAt : Option ℕ := none
  pendingDownlink : List (List UInt8) := []
  rlpHistory : List HrpdRlpHistoryOctet := []
  pendingRetransmit : List HrpdRlpRetransmitSegment := []
  pendingRetransmitRequests : List HrpdRlpRetransmitRequest := []
  deriving DecidableEq, Repr

namespace HrpdAnA8Session

/-! ### Downlink octets -/

def appendDownlink (pending : List (List UInt8)) (payload : List UInt8) : List (List UInt8) :=
  match pending.getLast? with
  | none => chunks forwardMaxStreamOctets payload
  | some tail =>
    let take := min (forwardMaxStreamOctets - tail.length) payload.length
    pending.dropLast ++ [tail ++ payload.take take] ++ chunks forwardMaxStreamOctets (payload.drop take)

def enqueueDownlinkPayload (s : HrpdAnA8Session) (payload : List UInt8) : HrpdAnA8Session :=
  if !s.defaultPacketFlowOpen && decide (payload.length ≤ forwardMaxStreamOctets) &&
      decide (s.pendingDownlink.getLast? = some payload) then s
  else
    { s with
      pendingDownlinkPartialHoldAt := none
      pendingDownlink := appendDownlink s.pendingDownlink payload }

/-! ### Rates -/

def forwardTrafficPayloadBitsForDrc (drcIndex : UInt8) : Option ℕ :=
  if drcIndex ∈ [0x1, 0x2, 0x3, 0x4, 0x6] then some 1024
  else if drcIndex ∈ [0x5, 0x7, 0x9] then some 2048
  else if drcIndex ∈ [0x8, 0xb] then some 3072
  else if drcIndex ∈ [0xa, 0xc] then some 4096
  else if drcIndex ∈ [0xd, 0xe] then some 5120
  else none

def validForwardDrc (drcIndex : UInt8) (forwardTrafficMacSubtype : UInt16) : Option ℕ :=
  if forwardTrafficMacSubtype = forwardTrafficMacSubtypeDefault then
    if drcIndex ∈ [0x1, 0x2, 0x3, 0x4, 0x6] then some 1024
    else if drcIndex ∈ [0x5, 0x7, 0x9] then some 2048
    else if drcIndex ∈ [0x8, 0xb] then some 3072
    else if drcIndex ∈ [0xa, 0xc] then some 4096
    else none
  else if forwardTrafficMacSubtype = forwardTrafficMacSubtypeEnhanced then forwardTrafficPayloadBitsForDrc drcIndex
  else none

/-- The DRC and the size of the physical packet: those of the last DRC if it is valid, or of the fallback. -/
def liveForwardRate (s : HrpdAnA8Session) : Option (UInt8 × ℕ) :=
  let rate (drcIndex : UInt8) := (validForwardDrc drcIndex s.forwardTrafficMacSubtype).map fun bits => (drcIndex, bits)
  (s.lastDrcIndex.bind rate).or (rate fallbackForwardDrcIndex)

def defaultFtcRlpSegmentsPerPacket (physicalBits : ℕ) (forwardTrafficMacSubtype : UInt16) : ℕ :=
  if forwardTrafficMacSubtype = forwardTrafficMacSubtypeDefault then
    match physicalBits with
    | 1024 => 1
    | 2048 => 2
    | 3072 => 3
    | 4096 => 4
    | _ => 1
  else if forwardTrafficMacSubtype = forwardTrafficMacSubtypeEnhanced then
    match physicalBits with
    | 1024 => 1
    | 2048 => 2
    | 3072 => 3
    | 4096 => 4
    | 5120 => 5
    | _ => 1
  else 1

/-! ### History -/

def label (sequence : UInt32) : List UInt8 → List HrpdRlpHistoryOctet
  | [] => []
  | octet :: octets => ⟨sequence, octet⟩ :: label (Rlp.next sequence) octets

def recordRlpHistory (s : HrpdAnA8Session) (sequence : UInt32) (octets : List UInt8) : HrpdAnA8Session :=
  let history := s.rlpHistory ++ label (sequence &&& sequenceMask) octets
  { s with rlpHistory := history.drop (history.length - rlpHistoryMaxOctets) }

def rlpHistoryOctet (history : List HrpdRlpHistoryOctet) (sequence : UInt32) : Option UInt8 :=
  let sequence := sequence &&& sequenceMask
  match history with
  | [] => none
  | first :: _ =>
    match history[((sequence - first.sequence) &&& sequenceMask).toNat]? with
    | none => none
    | some entry => if entry.sequence = sequence then some entry.octet else none

def resetDefaultPacketRlp (s : HrpdAnA8Session) : HrpdAnA8Session :=
  { s with
    rlpSeq := 0
    rlpHistory := []
    pendingRetransmit := []
    pendingRetransmitRequests := [] }

/-! ### Repair -/

/-- What was found in the history from a sequence number on: the octets, where and with how many to go it ended, and
whether it ended at an octet that is not in the history. -/
structure Found where
  octets : List UInt8
  sequence : UInt32
  remaining : ℕ
  missing : Bool
  deriving DecidableEq, Repr

/-- Take octets from the history, at most `room` and at most `remaining`. An octet that is not there ends the range. -/
def collect (history : List HrpdRlpHistoryOctet) : ℕ → UInt32 → ℕ → Found
  | 0, sequence, remaining => ⟨[], sequence, remaining, false⟩
  | _ + 1, sequence, 0 => ⟨[], sequence, 0, false⟩
  | room + 1, sequence, remaining + 1 =>
    match rlpHistoryOctet history sequence with
    | none => ⟨[], sequence, 0, true⟩
    | some octet =>
      let found := collect history room (Rlp.next sequence) remaining
      { found with octets := octet :: found.octets }

/-- What is done for a range at a time: the history that it is looked up in, the segments taken from it, what is left
for later, and whether it ended at an octet that is not in the history. -/
structure Repair where
  history : List HrpdRlpHistoryOctet
  segments : List HrpdRlpRetransmitSegment := []
  deferred : Option HrpdRlpRetransmitRequest := none
  missing : Bool := false
  deriving DecidableEq, Repr

def deferred (sequence : UInt32) (remaining : ℕ) : HrpdRlpRetransmitRequest :=
  ⟨sequence, UInt16.ofNat (min remaining 65535)⟩

def queueRange (history : List HrpdRlpHistoryOctet) : ℕ → UInt32 → ℕ → Repair
  | _, _, 0 => { history := history }
  | 0, sequence, remaining + 1 => { history := history, deferred := some (deferred sequence (remaining + 1)) }
  | budget + 1, sequence, remaining + 1 =>
    let found := collect history forwardMaxStreamOctets sequence (remaining + 1)
    if found.octets = [] then { history := history, missing := found.missing }
    else
      let rest := queueRange history budget found.sequence found.remaining
      { history := history
        segments := ⟨sequence, found.octets⟩ :: rest.segments
        deferred := rest.deferred
        missing := found.missing || rest.missing }

def queueRanges (history : List HrpdRlpHistoryOctet) : ℕ → List HrpdDefaultPacketRlpNakRequest → List Repair
  | _, [] => []
  | queued, request :: requests =>
    let repair := queueRange history (rlpRetransmitMaterializeBudget - queued) (request.firstErased &&& sequenceMask)
      request.windowLen.toNat
    repair :: queueRanges history (queued + repair.segments.length) requests

def queueRlpNakRetransmissions (s : HrpdAnA8Session) (requests : List HrpdDefaultPacketRlpNakRequest) :
    HrpdAnA8Session × List Repair :=
  let repairs := queueRanges s.rlpHistory 0 requests
  ({ s with
      pendingRetransmit := s.pendingRetransmit ++ repairs.flatMap Repair.segments
      pendingRetransmitRequests := s.pendingRetransmitRequests ++ repairs.filterMap Repair.deferred }, repairs)

def materializeRange (history : List HrpdRlpHistoryOctet) (request : HrpdRlpRetransmitRequest) : Repair :=
  let sequence := request.nextSequence &&& sequenceMask
  let found := collect history forwardMaxStreamOctets sequence request.remaining.toNat
  { history := history
    segments := if found.octets = [] then [] else [⟨sequence, found.octets⟩]
    deferred := if found.remaining > 0 then some (deferred found.sequence found.remaining) else none
    missing := found.missing }

/-- Ranges are passed over until one gives a segment; what is left of that one goes back to the front. -/
def materializeLoop (history : List HrpdRlpHistoryOctet) : ℕ → List HrpdRlpRetransmitRequest →
    Option HrpdRlpRetransmitSegment × List HrpdRlpRetransmitRequest × List Repair
  | 0, requests => (none, requests, [])
  | _ + 1, [] => (none, [], [])
  | fuel + 1, request :: requests =>
    let repair := materializeRange history request
    let requests := repair.deferred.toList ++ requests
    match repair.segments with
    | segment :: _ => (some segment, requests, [repair])
    | [] =>
      let (segment, requests, repairs) := materializeLoop history fuel requests
      (segment, requests, repair :: repairs)

def materializeNextRlpRetransmission (s : HrpdAnA8Session) :
    HrpdAnA8Session × Option HrpdRlpRetransmitSegment × List Repair :=
  let (segment, requests, repairs) :=
    materializeLoop s.rlpHistory s.pendingRetransmitRequests.length s.pendingRetransmitRequests
  ({ s with pendingRetransmitRequests := requests }, segment, repairs)

def nextRetransmission (s : HrpdAnA8Session) : HrpdAnA8Session × Option HrpdRlpRetransmitSegment × List Repair :=
  match s.pendingRetransmit with
  | segment :: rest => ({ s with pendingRetransmit := rest }, some segment, [])
  | [] => s.materializeNextRlpRetransmission

/-! ### Packets -/

/-- The octets that are sent for the first time. A chunk has at most 120 octets and a packet at most five segments, so
that the sum does not overflow. -/
def newOctets (segments : List HrpdA8QueuedRlpSegment) : UInt32 :=
  ((segments.filter fun segment => !segment.retransmission).map fun segment =>
    UInt32.ofNat segment.octets.length).sum

/-- The segments of a packet, with `room` for more: repeated ones first, and new ones only in a packet without. -/
def gather : ℕ → HrpdAnA8Session → List HrpdA8QueuedRlpSegment →
    HrpdAnA8Session × List HrpdA8QueuedRlpSegment × List Repair
  | 0, s, segments => (s, segments, [])
  | room + 1, s, segments =>
    match s.nextRetransmission with
    | (s, some segment, repairs) =>
      let (s, segments, repairs') := gather room s (segments ++ [⟨segment.sequence, segment.octets, true⟩])
      (s, segments, repairs ++ repairs')
    | (s, none, repairs) =>
      if segments.head?.any (·.retransmission) then (s, segments, repairs)
      else
        match s.pendingDownlink with
        | [] => (s, segments, repairs)
        | chunk :: rest =>
          let sequence := (s.rlpSeq + newOctets segments) &&& sequenceMask
          let (s, segments, repairs') := gather room { s with pendingDownlink := rest }
            (segments ++ [⟨sequence, chunk, false⟩])
          (s, segments, repairs ++ repairs')

def restoreRlpSegments (s : HrpdAnA8Session) (segments : List HrpdA8QueuedRlpSegment) : HrpdAnA8Session :=
  segments.foldr (fun segment s =>
    if segment.retransmission then
      { s with pendingRetransmit := ⟨segment.sequence, segment.octets⟩ :: s.pendingRetransmit }
    else { s with pendingDownlink := segment.octets :: s.pendingDownlink }) s

def hasFillableTail (segments : List HrpdA8QueuedRlpSegment) : Bool :=
  match segments.getLast? with
  | none => false
  | some last => decide (last.octets.length < forwardMaxStreamOctets) &&
      segments.dropLast.all fun segment => segment.octets.length = forwardMaxStreamOctets

/-- A packet of new octets that is not full is held until the stream has been quiet. `now` is the reading at which the
holding begins and `later` the one that it is measured with. -/
def shouldDeferPartialNewPacket (s : HrpdAnA8Session) (segments : List HrpdA8QueuedRlpSegment) (maxSegments : ℕ)
    (now later : ℕ) : HrpdAnA8Session × Bool :=
  let partialPacket := decide (segments.length < maxSegments) || hasFillableTail segments
  if !(decide (maxSegments > 1) && !segments.isEmpty && partialPacket && s.pendingDownlink.isEmpty &&
      segments.all fun segment => !segment.retransmission) then (s, false)
  else
    let since := s.pendingDownlinkPartialHoldAt.getD now
    ({ s with pendingDownlinkPartialHoldAt := some since }, decide (later - since < partialPacketCoalesceDelay))

structure Transmission where
  segments : List HrpdA8QueuedRlpSegment
  packet : HrpdAnForwardTrafficPacket
  deriving DecidableEq, Repr

inductive HrpdA8RlpQueueStatus where
  | queued (transmission : Transmission)
  | skipped
  | closed
  deriving DecidableEq, Repr

/-- Builds a physical packet from a stream, the segments, the size of the packet and the MAC subtype. -/
abbrev Builder := UInt8 → List (UInt32 × List UInt8) → ℕ → UInt16 → Option (List UInt8)

def recordNew (s : HrpdAnA8Session) (segments : List HrpdA8QueuedRlpSegment) : HrpdAnA8Session :=
  segments.foldl (fun s segment =>
    if segment.retransmission then s else s.recordRlpHistory segment.sequence segment.octets) s

def queueDefaultPacketRlpSegments (build : Builder) (senderOpen : Bool) (s : HrpdAnA8Session)
    (segments : List HrpdA8QueuedRlpSegment) (physicalBits : ℕ) : HrpdAnA8Session × HrpdA8RlpQueueStatus :=
  if segments = [] then (s, .skipped)
  else
    match build s.defaultPacketStreamId (segments.map fun segment => (segment.sequence, segment.octets)) physicalBits
        s.forwardTrafficMacSubtype with
    | none => (s, .skipped)
    | some payload =>
      if !senderOpen then (s, .closed)
      else
        let packet : HrpdAnForwardTrafficPacket :=
          ⟨s.macIndex, s.physicalLayerSubtype, s.forwardTrafficMacSubtype, segments.any (·.retransmission), payload⟩
        (s.recordNew segments, .queued ⟨segments, packet⟩)

/-! ### Flush -/

/-- What a flush finds around it: whether the channel to the sender is open, the two readings of the clock for each
packet, and whether the signalling of a closed flow succeeds. -/
structure Surroundings where
  senderOpen : Bool := true
  readings : ℕ → ℕ × ℕ := fun _ => (0, 0)
  signalled : Bool := true

/-- What a flush returns, the packets it sends, and what it does for the ranges that were left for later. -/
structure Flushed where
  result : Bool := true
  transmissions : List Transmission := []
  repairs : List Repair := []
  deriving DecidableEq, Repr

inductive PacketResult where
  | stopped (result : Bool)
  | sent (transmission : Transmission)
  deriving DecidableEq, Repr

def flushPacket (build : Builder) (senderOpen : Bool) (now later : ℕ) (s : HrpdAnA8Session) :
    HrpdAnA8Session × List Repair × PacketResult :=
  match s.liveForwardRate with
  | none => (s, [], .stopped true)
  | some (_, physicalBits) =>
    let maxSegments := defaultFtcRlpSegmentsPerPacket physicalBits s.forwardTrafficMacSubtype
    let (s, segments, repairs) := gather maxSegments s []
    let (s, defer) := s.shouldDeferPartialNewPacket segments maxSegments now later
    if defer then (s.restoreRlpSegments segments, repairs, .stopped true)
    else
      match s.queueDefaultPacketRlpSegments build senderOpen segments physicalBits with
      | (s, .skipped) => (s.restoreRlpSegments segments, repairs, .stopped true)
      | (s, .closed) => (s, repairs, .stopped false)
      | (s, .queued transmission) =>
        ({ s with rlpSeq := (s.rlpSeq + newOctets segments) &&& sequenceMask }, repairs, .sent transmission)

def finishFlush (s : HrpdAnA8Session) : HrpdAnA8Session :=
  if s.pendingDownlink = [] then { s with pendingDownlinkPartialHoldAt := none } else s

def flushLoop (build : Builder) (around : Surroundings) : ℕ → HrpdAnA8Session → HrpdAnA8Session × Flushed
  | 0, s => (s.finishFlush, {})
  | left + 1, s =>
    if s.pendingRetransmit = [] ∧ s.pendingRetransmitRequests = [] ∧ s.pendingDownlink = [] then (s.finishFlush, {})
    else
      match s.flushPacket build around.senderOpen (around.readings left).1 (around.readings left).2 with
      | (s, repairs, .stopped result) => (s, { result := result, repairs := repairs })
      | (s, repairs, .sent transmission) =>
        let (s, flushed) := flushLoop build around left s
        (s, { result := flushed.result
              transmissions := transmission :: flushed.transmissions
              repairs := repairs ++ flushed.repairs })

def flushDownlink (build : Builder) (around : Surroundings) (s : HrpdAnA8Session) : HrpdAnA8Session × Flushed :=
  if s.addressManagementPending || s.trafficSetupPending then (s, {})
  else if !s.trafficOpen then (s, { result := around.signalled })
  else if !s.sessionConfigurationComplete || !s.trafficConfigurationComplete then (s, {})
  else if !s.defaultPacketFlowOpen then (s, { result := around.signalled })
  else flushLoop build around forwardMaxPacketsPerFlush s

end HrpdAnA8Session

end OneXBts.An.A8
