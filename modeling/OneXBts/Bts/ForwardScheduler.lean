import OneXBts.Bts.ForwardCodec
import OneXBts.Bts.HarqBus
import OneXBts.Lib.Runs

/-!
The HRPD forward scheduler (`hrpd/scheduler.rs`, `phy/hrpd/rates.rs`).

Once in a slot that no started packet needs, the first queued packet whose access terminal asked for a rate is bound to it
and started; its slots are four apart. The symbols of a slot are described by the packet, the rate and the number of the
slot in the packet.
-/

namespace OneXBts.Bts.Hrpd

open Lib Common Common.HrpdTraffic

def interlace : ℕ := 4
def forwardFrameOffsetSlots : ℕ := 0
def forwardDrcLengthSlots : ℕ := 8
def harqFeedbackGraceSlots : ℕ := 64
def maxOutstandingPacketsPerMac : ℕ := 64
def ackForwardToReverseSlotOffset : ℕ := 3

/-! ### Rates -/

structure ForwardRate where
  drcIndex : UInt8
  payloadBits : ℕ
  slots : ℕ
  deriving DecidableEq, Repr

def forwardRates : List ForwardRate :=
  [⟨0x1, 1024, 16⟩, ⟨0x2, 1024, 8⟩, ⟨0x3, 1024, 4⟩, ⟨0x4, 1024, 2⟩, ⟨0x5, 2048, 4⟩, ⟨0x6, 1024, 1⟩, ⟨0x7, 2048, 2⟩,
    ⟨0x8, 3072, 2⟩, ⟨0x9, 2048, 1⟩, ⟨0xa, 4096, 2⟩, ⟨0xb, 3072, 1⟩, ⟨0xc, 4096, 1⟩, ⟨0xd, 5120, 2⟩, ⟨0xe, 5120, 1⟩]

def byDrc (drcIndex : UInt8) : Option ForwardRate := forwardRates.find? fun rate => rate.drcIndex = drcIndex

def implementedForwardRateByDrc (drcIndex : UInt8) (forwardTrafficMacSubtype : UInt16) : Option ForwardRate :=
  match byDrc drcIndex with
  | none => none
  | some rate =>
    if forwardTrafficPayloadBitsForDrcForMacSubtype drcIndex forwardTrafficMacSubtype = some rate.payloadBits then some rate
    else none

def turboBlockPayloadBits : List ℕ := [128, 256, 512, 768, 1024, 1536, 2048, 3072, 4096, 5120, 6144, 8192]

/-! ### Packets -/

structure ForwardTrafficPacket where
  macIndex : UInt8
  physicalLayerSubtype : UInt16
  forwardTrafficMacSubtype : UInt16
  highPriority : Bool
  payload : Bits
  deriving DecidableEq, Repr

structure PreparedForwardTrafficPacket where
  packet : ForwardTrafficPacket
  sessionPackets : Option (List Bytes)
  defaultSignaling : Option DefaultSignalingPacket
  rtcAckSequenceNumber : Option UInt8
  deriving DecidableEq, Repr

namespace PreparedForwardTrafficPacket

def fromParts (packet : ForwardTrafficPacket) (sessionPackets : Option (List Bytes)) : PreparedForwardTrafficPacket where
  packet := packet
  sessionPackets := sessionPackets
  defaultSignaling := sessionPackets.bind defaultSignalingPacketFromSessionPackets
  rtcAckSequenceNumber := sessionPackets.bind rtcAckSequenceNumberFromSessionPackets

def new (packet : ForwardTrafficPacket) : PreparedForwardTrafficPacket :=
  fromParts packet (forwardFormatBSessionPackets packet.payload)

/-- What was found in the old payload is kept. -/
def replacePayload (pkt : PreparedForwardTrafficPacket) (payload : Bits) : PreparedForwardTrafficPacket :=
  { pkt with packet := { pkt.packet with payload := payload } }

def repacked (pkt : PreparedForwardTrafficPacket) (payload : Bits) (sessionPackets : List Bytes) :
    PreparedForwardTrafficPacket :=
  fromParts { pkt.packet with payload := payload } (some sessionPackets)

end PreparedForwardTrafficPacket

structure HarqState where
  packetId : ℕ
  packet : ForwardTrafficPacket
  rtcAckSequenceNumber : Option UInt8
  subpacketCount : ℕ
  currentSubpacket : ℕ
  awaitingAck : Bool
  nextEligibleSlot : ℕ
  lastTxSlot : Option ℕ
  firstTxSlot : Option ℕ
  slotInSubpacket : ℕ
  rate : ForwardRate
  deriving DecidableEq, Repr

structure HrpdForwardScheduler where
  queue : List PreparedForwardTrafficPacket
  active : List HarqState
  nextPacketId : ℕ
  harqBus : Option HarqBus

inductive SlotKind where
  | traffic (activeMac : UInt8)
  | control
  | idle
  deriving DecidableEq, Repr

structure SlotChips where
  packet : ForwardTrafficPacket
  rate : ForwardRate
  packetSlot : ℕ
  deriving DecidableEq, Repr

structure ForwardSlotOutput where
  channel : SlotKind
  dataChips : Option SlotChips
  deriving DecidableEq, Repr

def isDefaultPacketDataPayload (signaling : DefaultSignalingPacket) : Bool :=
  signaling.protocolType ∈ [0x15, 0x16, 0x17] ∧ ¬ signaling.inConfiguration ∧
    signaling.reliableSequenceNumber.isNone ∧ signaling.ackSequenceNumber.isNone

def isRtcMacGrantSignaling (signaling : DefaultSignalingPacket) : Bool :=
  signaling.protocolType = defaultReverseTrafficChannelMacProtocolType ∧
    signaling.payload.head? = some reverseTrafficChannelMacGrantMessageId

/-! ### Binding a packet to a rate -/

/-- The packet to start at the rate and the packets that are left over; `none` if it cannot be packed again. -/
def rebind (pkt : PreparedForwardTrafficPacket) (atRate : ForwardRate) :
    Option (PreparedForwardTrafficPacket × List PreparedForwardTrafficPacket) :=
  if atRate.payloadBits ≠ pkt.packet.payload.length then
    match pkt.rtcAckSequenceNumber with
    | some sequenceNumber =>
      match defaultReverseTrafficMacRtcAckFtcPayloadBitsForMacSubtype atRate.payloadBits sequenceNumber
          pkt.packet.forwardTrafficMacSubtype with
      | .ok payload => some (pkt.replacePayload payload, [])
      | .error _ => none
    | none =>
      match pkt.defaultSignaling with
      | some signaling =>
        match defaultSignalingFtcPayloadBitsWithAckForMacSubtype atRate.payloadBits signaling.protocolType
            signaling.payload signaling.reliableSequenceNumber signaling.inConfiguration signaling.ackSequenceNumber
            pkt.packet.forwardTrafficMacSubtype with
        | .ok payload => some (pkt.replacePayload payload, [])
        | .error _ => none
      | none =>
        match pkt.sessionPackets.bind fun sessionPackets =>
            rebuildOrSplitFormatBSessionPackets sessionPackets atRate.payloadBits
              pkt.packet.forwardTrafficMacSubtype with
        | some (first :: payloads) =>
          some (pkt.repacked first.1 first.2, payloads.map fun part => pkt.repacked part.1 part.2)
        | _ => none
  else some (pkt, [])

lemma rebind_packet (h : rebind pkt rate = some r) :
    r.1.packet.macIndex = pkt.packet.macIndex ∧
      r.1.packet.forwardTrafficMacSubtype = pkt.packet.forwardTrafficMacSubtype := by
  unfold rebind at h
  split at h
  · split at h
    · split at h <;> cases h
      exact ⟨rfl, rfl⟩
    split at h
    all_goals
      split at h <;> cases h
      exact ⟨rfl, rfl⟩
  · cases h
    exact ⟨rfl, rfl⟩

def buildHarqState (pkt : PreparedForwardTrafficPacket) (rate : ForwardRate) (packetId : ℕ) : Option HarqState :=
  if forwardTrafficPayloadBitsForDrcForMacSubtype rate.drcIndex pkt.packet.forwardTrafficMacSubtype ≠
      some rate.payloadBits then none
  else if pkt.packet.payload.length ≠ rate.payloadBits then none
  else if rate.payloadBits ∉ turboBlockPayloadBits then none
  else
    some {
      packetId := packetId
      packet := pkt.packet
      rtcAckSequenceNumber := pkt.rtcAckSequenceNumber
      subpacketCount := 1
      currentSubpacket := 0
      awaitingAck := false
      nextEligibleSlot := 0
      lastTxSlot := none
      firstTxSlot := none
      slotInSubpacket := 0
      rate := rate }

lemma buildHarqState_some
    (h : buildHarqState pkt rate packetId = some s) : s.packet = pkt.packet ∧ s.rate = rate := by
  unfold buildHarqState at h
  split_ifs at h
  cases h
  exact ⟨rfl, rfl⟩

/-- A packet that leaves the queue to be started: as it was queued, as it is started, and what is left over of it. -/
structure Start where
  queued : PreparedForwardTrafficPacket
  state : HarqState
  remainders : List PreparedForwardTrafficPacket

inductive Attempt where
  | defer
  | drop (nextPacketId : ℕ)
  | start (start : Start) (nextPacketId : ℕ)

section Promotion

variable (slotIndex : ℕ) (governingDrcForMac : UInt8 → Option UInt8) (active : List HarqState)

def attempt (nextPacketId : ℕ) (pkt : PreparedForwardTrafficPacket) : Attempt :=
  if (active.filter fun s => s.packet.macIndex = pkt.packet.macIndex).length ≥ maxOutstandingPacketsPerMac then .defer
  else
    match governingDrcForMac pkt.packet.macIndex with
    | none => .defer
    | some atDrc =>
      match implementedForwardRateByDrc atDrc pkt.packet.forwardTrafficMacSubtype with
      | none => .drop nextPacketId
      | some atRate =>
        if slotIndex % interlace = 0 ∧ atRate.slots > 1 then .defer
        else
          match rebind pkt atRate with
          | none => .drop nextPacketId
          | some rebound =>
            let nextPacketId' := max ((nextPacketId + 1) % 2 ^ 64) 1
            match buildHarqState rebound.1 atRate nextPacketId with
            | some state => .start ⟨pkt, state, rebound.2⟩ nextPacketId'
            | none => .drop nextPacketId'

/-- What a scan of the queue leaves: the packets that were passed over, the one to start, and those behind it. -/
structure Promotion where
  kept : List PreparedForwardTrafficPacket
  start : Option Start
  behind : List PreparedForwardTrafficPacket
  nextPacketId : ℕ

/-- The loop over the queue. A MAC index whose packet has to wait keeps its other packets waiting. -/
def scan (deferredMacs : List UInt8) (nextPacketId : ℕ) : List PreparedForwardTrafficPacket → Promotion
  | [] => ⟨[], none, [], nextPacketId⟩
  | pkt :: queue =>
    if pkt.packet.macIndex ∈ deferredMacs then
      let rest := scan deferredMacs nextPacketId queue
      { rest with kept := pkt :: rest.kept }
    else
      match attempt slotIndex governingDrcForMac active nextPacketId pkt with
      | .defer =>
        let rest := scan (pkt.packet.macIndex :: deferredMacs) nextPacketId queue
        { rest with kept := pkt :: rest.kept }
      | .drop nextPacketId' => scan deferredMacs nextPacketId' queue
      | .start start nextPacketId' => ⟨[], some start, queue, nextPacketId'⟩

/-- What is known of a packet that is started. -/
structure Binding (start : Start) : Prop where
  room : (active.filter fun s => s.packet.macIndex = start.queued.packet.macIndex).length < maxOutstandingPacketsPerMac
  bound : ∃ atDrc atRate rebound packetId, governingDrcForMac start.queued.packet.macIndex = some atDrc ∧
    implementedForwardRateByDrc atDrc start.queued.packet.forwardTrafficMacSubtype = some atRate ∧
    ¬ (slotIndex % interlace = 0 ∧ atRate.slots > 1) ∧ rebind start.queued atRate = some rebound ∧
    start.remainders = rebound.2 ∧ buildHarqState rebound.1 atRate packetId = some start.state

variable {slotIndex governingDrcForMac active}

lemma attempt_start (h : attempt slotIndex governingDrcForMac active nextId pkt = .start start nextPacketId') :
    start.queued = pkt ∧ Binding slotIndex governingDrcForMac active start := by
  unfold attempt at h
  split at h
  · cases h
  rename_i hr
  split at h
  · cases h
  rename_i atDrc hdrc
  split at h
  · cases h
  rename_i atRate hra
  split at h
  · cases h
  rename_i hp
  split at h
  · cases h
  rename_i rebound hre
  split at h <;> cases h
  rename_i state hs
  exact ⟨rfl, Nat.lt_of_not_le hr, atDrc, atRate, rebound, _, hdrc, hra, hp, hre, rfl, hs⟩

lemma attempt_eq_start
    (hr : (active.filter fun s => s.packet.macIndex = pkt.packet.macIndex).length < maxOutstandingPacketsPerMac)
    (hdrc : governingDrcForMac pkt.packet.macIndex = some atDrc)
    (hra : implementedForwardRateByDrc atDrc pkt.packet.forwardTrafficMacSubtype = some atRate)
    (hp : ¬ (slotIndex % interlace = 0 ∧ atRate.slots > 1)) (hre : rebind pkt atRate = some rebound)
    (hs : buildHarqState rebound.1 atRate nextId = some state) :
    attempt slotIndex governingDrcForMac active nextId pkt =
      .start ⟨pkt, state, rebound.2⟩ (max ((nextId + 1) % 2 ^ 64) 1) := by
  unfold attempt
  rw [if_neg (Nat.not_le_of_lt hr), hdrc]
  dsimp only
  rw [hra]
  dsimp only
  rw [if_neg hp, hre]
  dsimp only
  rw [hs]

lemma scan_start (h : (scan slotIndex governingDrcForMac active later nextId queue).start = some start) :
    Binding slotIndex governingDrcForMac active start ∧ ∃ before,
      queue = before ++ start.queued :: (scan slotIndex governingDrcForMac active later nextId queue).behind ∧
      (scan slotIndex governingDrcForMac active later nextId queue).kept.Sublist before := by
  induction queue generalizing later nextId with
  | nil => cases h
  | cons =>
    rw [scan] at h ⊢
    split at h
    · grind
    rename_i hde
    rw [if_neg hde]
    split at h
    · grind
    · grind
    rename_i ha
    cases h
    obtain ⟨hq, hb⟩ := attempt_start ha
    exact ⟨hb, [], by rw [hq]; rfl, .refl _⟩

end Promotion

namespace HrpdForwardScheduler

def new : HrpdForwardScheduler where
  queue := []
  active := []
  nextPacketId := 1
  harqBus := none

def setHarqBus (self : HrpdForwardScheduler) (bus : HarqBus) : HrpdForwardScheduler := { self with harqBus := some bus }

/-! ### The queue -/

def hasPendingRtcAck (self : HrpdForwardScheduler) (macIndex sequenceNumber : UInt8) : Bool :=
  (self.queue.any fun queued =>
    queued.packet.macIndex = macIndex ∧ queued.rtcAckSequenceNumber = some sequenceNumber) ∨
  (self.active.any fun active =>
    active.packet.macIndex = macIndex ∧ active.rtcAckSequenceNumber = some sequenceNumber)

def position (self : HrpdForwardScheduler) (p : PreparedForwardTrafficPacket → Bool) : ℕ :=
  (self.queue.findIdx? p).getD self.queue.length

def isStaleGrant (pkt queued : PreparedForwardTrafficPacket) : Bool :=
  queued.packet.macIndex = pkt.packet.macIndex ∧ queued.defaultSignaling.any isRtcMacGrantSignaling

def enqueuePrepared (self : HrpdForwardScheduler) (pkt : PreparedForwardTrafficPacket) : HrpdForwardScheduler :=
  if pkt.rtcAckSequenceNumber.any (self.hasPendingRtcAck pkt.packet.macIndex) then self
  else if pkt.defaultSignaling.any (fun signaling => !isDefaultPacketDataPayload signaling) then
    let insertAt := self.position fun queued => queued.defaultSignaling.isNone
    let stale := (self.queue.take insertAt).findIdx? (isStaleGrant pkt)
    match if pkt.defaultSignaling.any isRtcMacGrantSignaling then stale else none with
    | some stale => { self with queue := self.queue.set stale pkt }
    | none => { self with queue := self.queue.insertIdx insertAt pkt }
  else if pkt.packet.highPriority then
    let insertAt := self.position fun queued => queued.defaultSignaling.isNone ∧ ¬ queued.packet.highPriority
    { self with queue := self.queue.insertIdx insertAt pkt }
  else { self with queue := self.queue ++ [pkt] }

def enqueue (self : HrpdForwardScheduler) (pkt : ForwardTrafficPacket) : HrpdForwardScheduler :=
  self.enqueuePrepared (.new pkt)

def purgeMac (self : HrpdForwardScheduler) (macIndex : UInt8) : HrpdForwardScheduler × ℕ × ℕ × ℕ × ℕ :=
  let queue := self.queue.filter fun pkt => pkt.packet.macIndex ≠ macIndex
  let active := self.active.filter fun state => state.packet.macIndex ≠ macIndex
  let purged := self.harqBus.map fun bus => bus.purgeMacQueues macIndex
  ({ self with queue := queue, active := active, harqBus := purged.map fun p => p.1 },
    self.queue.length - queue.length, self.active.length - active.length,
    (purged.map fun p => p.2.1).getD 0, (purged.map fun p => p.2.2).getD 0)

/-! ### Feedback -/

def handleAck (self : HrpdForwardScheduler) (macIndex : UInt8) (packetId subpacket : ℕ) (response : HarqResponse) :
    HrpdForwardScheduler :=
  match response with
  | .ack | .nak =>
    { self with
      active := self.active.eraseP fun s =>
        s.packet.macIndex = macIndex ∧ s.packetId = packetId ∧ s.currentSubpacket = subpacket }
  | .unknown => self

def applyFeedback (self : HrpdForwardScheduler) (mac : UInt8) : HrpdForwardScheduler :=
  match self.harqBus with
  | none => self
  | some bus =>
    let drained := bus.drainFeedback mac
    drained.2.foldl (fun s event => s.handleAck mac event.packetId event.subpacket event.response)
      { self with harqBus := some drained.1 }

def drainFeedback (self : HrpdForwardScheduler) : HrpdForwardScheduler :=
  (List.range macIndexCount).foldl (fun s mac => s.applyFeedback mac.toUInt8) self

def retireExpiredFeedbackWaits (self : HrpdForwardScheduler) (slotIndex : ℕ) : HrpdForwardScheduler :=
  { self with active := self.active.filter fun s => ¬ (s.awaitingAck ∧ slotIndex ≥ s.nextEligibleSlot) }

/-! ### One slot -/

def due (slotIndex : ℕ) (s : HarqState) : Bool :=
  ¬ s.awaitingAck ∧ s.lastTxSlot.isSome ∧ slotIndex ≥ s.nextEligibleSlot

def hasDueContinuation (self : HrpdForwardScheduler) (slotIndex : ℕ) : Bool := self.active.any (due slotIndex)

/-- A packet may be started. Only those of one slot start on the phase of the control channel. -/
def startable (slotIndex : ℕ) (s : HarqState) : Bool :=
  s.lastTxSlot.isNone ∧ slotIndex ≥ s.nextEligibleSlot ∧ (slotIndex % interlace ≠ 0 ∨ s.rate.slots = 1)

def pickActive (self : HrpdForwardScheduler) (slotIndex : ℕ) : Option ℕ :=
  match self.active.findIdx? (due slotIndex) with
  | some idx => some idx
  | none => self.active.findIdx? (startable slotIndex)

def governingDrcForMac (self : HrpdForwardScheduler) (slotIndex : ℕ) (mac : UInt8) : Option UInt8 :=
  self.harqBus.bind fun bus => bus.governingDrc mac slotIndex forwardFrameOffsetSlots forwardDrcLengthSlots

def promoteQueueWithDrc (self : HrpdForwardScheduler) (slotIndex : ℕ) (governingDrcForMac : UInt8 → Option UInt8) :
    HrpdForwardScheduler × Option Start :=
  let promotion := scan slotIndex governingDrcForMac self.active [] self.nextPacketId self.queue
  let remainders := (promotion.start.map fun start => start.remainders).getD []
  ({ self with
      queue := promotion.kept ++ remainders ++ promotion.behind
      active := self.active ++ (promotion.start.map fun start => start.state).toList
      nextPacketId := promotion.nextPacketId }, promotion.start)

def promoteQueue (self : HrpdForwardScheduler) (slotIndex : ℕ) : HrpdForwardScheduler × Option Start :=
  self.promoteQueueWithDrc slotIndex (self.governingDrcForMac slotIndex)

def missedContinuation (slotIndex : ℕ) (s : HarqState) : Bool :=
  ¬ s.awaitingAck ∧ s.slotInSubpacket > 0 ∧ slotIndex > s.nextEligibleSlot

def terminalSlot (s : HarqState) : Bool := s.slotInSubpacket + 1 ≥ s.rate.slots

def emission (slotIndex : ℕ) (s : HarqState) : HarqEmissionEvent where
  packetId := s.packetId
  subpacket := s.currentSubpacket
  packetStartSlot := s.firstTxSlot.getD slotIndex
  forwardSlot := slotIndex
  expectedAckReverseSlot := slotIndex + ackForwardToReverseSlotOffset
  terminal := terminalSlot s

def advance (slotIndex : ℕ) (s : HarqState) : HarqState :=
  { s with
    firstTxSlot := some (s.firstTxSlot.getD slotIndex)
    lastTxSlot := some slotIndex
    slotInSubpacket := s.slotInSubpacket + 1
    awaitingAck := s.awaitingAck || terminalSlot s
    nextEligibleSlot := if terminalSlot s then slotIndex + interlace + harqFeedbackGraceSlots else slotIndex + interlace }

def slotChips (s : HarqState) : SlotChips where
  packet := s.packet
  rate := s.rate
  packetSlot := s.currentSubpacket * s.rate.slots + s.slotInSubpacket

/-- What a call of `next_slot` returns and publishes, with the packet that was promoted in it. -/
structure SlotReport where
  output : ForwardSlotOutput
  emission : Option (UInt8 × HarqEmissionEvent)
  promoted : Option Start

/-- Serve the packet that was picked. The slot numbers are words of 64 bits. -/
def serve (self : HrpdForwardScheduler) (slotIndex idx : ℕ) (state : HarqState) (promoted : Option Start) :
    Option (HrpdForwardScheduler × SlotReport) :=
  if missedContinuation slotIndex state ∨ state.currentSubpacket ≥ state.subpacketCount then
    some ({ self with active := self.active.eraseIdx idx }, ⟨⟨.idle, none⟩, none, promoted⟩)
  else
    let event := emission slotIndex state
    let state' := advance slotIndex state
    if event.expectedAckReverseSlot < 2 ^ 64 ∧ state'.nextEligibleSlot < 2 ^ 64 then
      some
        ({ self with
            active := self.active.set idx state'
            harqBus := self.harqBus.map fun bus => bus.publishEmission state.packet.macIndex event },
          ⟨⟨.traffic state.packet.macIndex, some (slotChips state)⟩, some (state.packet.macIndex, event), promoted⟩)
    else none

/-- What is left of the active packets when the slot is decided. -/
def settled (self : HrpdForwardScheduler) (slotIndex : ℕ) : HrpdForwardScheduler :=
  self.drainFeedback.retireExpiredFeedbackWaits slotIndex

def nextSlot (self : HrpdForwardScheduler) (slotIndex : ℕ) (isControlSlot : Bool) :
    Option (HrpdForwardScheduler × SlotReport) :=
  let self := self.settled slotIndex
  if isControlSlot then some (self, ⟨⟨.control, none⟩, none, none⟩)
  else
    let promoted := if ¬ self.hasDueContinuation slotIndex then self.promoteQueue slotIndex else (self, none)
    match promoted.1.pickActive slotIndex with
    | none => some (promoted.1, ⟨⟨.idle, none⟩, none, promoted.2⟩)
    | some idx =>
      match promoted.1.active[idx]? with
      | none => none
      | some state => promoted.1.serve slotIndex idx state promoted.2

end HrpdForwardScheduler

/-! ### Runs -/

/-- What happens to the scheduler and on its bus. -/
inductive SchedulerEvent where
  | setHarqBus (bus : HarqBus)
  | enqueue (pkt : ForwardTrafficPacket)
  | purgeMac (macIndex : UInt8)
  | handleAck (macIndex : UInt8) (packetId subpacket : ℕ) (response : HarqResponse)
  | nextSlot (slotIndex : ℕ) (isControlSlot : Bool)
  | setCurrentDrcAtSlot (mac : UInt8) (slot : ℕ) (drcIndex : UInt8)
  | publishFeedback (mac : UInt8) (event : HarqFeedbackEvent)
  | drainEmissions (mac : UInt8)

/-- One event. Only a slot has something to report; `none` is a panic. -/
def step (s : HrpdForwardScheduler) :
    SchedulerEvent → Option (HrpdForwardScheduler × Option HrpdForwardScheduler.SlotReport)
  | .setHarqBus bus => some (s.setHarqBus bus, none)
  | .enqueue pkt => some (s.enqueue pkt, none)
  | .purgeMac macIndex => some ((s.purgeMac macIndex).1, none)
  | .handleAck macIndex packetId subpacket response => some (s.handleAck macIndex packetId subpacket response, none)
  | .nextSlot slotIndex isControlSlot => (s.nextSlot slotIndex isControlSlot).map fun r => (r.1, some r.2)
  | .setCurrentDrcAtSlot mac slot drcIndex =>
    some ({ s with harqBus := s.harqBus.map fun bus => bus.setCurrentDrcAtSlot mac slot drcIndex }, none)
  | .publishFeedback mac event =>
    some ({ s with harqBus := s.harqBus.map fun bus => bus.publishFeedback mac event }, none)
  | .drainEmissions mac => some ({ s with harqBus := s.harqBus.map fun bus => (bus.drainEmissions mac).1 }, none)

end OneXBts.Bts.Hrpd
