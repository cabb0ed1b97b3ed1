import OneXBts.Bts.Lac

/-!
Building the frames of the paging channel (`lac/mod.rs`), half-frame by half-frame.

The loop puts the PDU that is to go first in front and drains its bits, until the half-frame is full or nothing can be sent.
What the supplier answers during a call is a list, with nothing after its end. The directed PDUs that start are recorded in
`started`.
-/

namespace OneXBts.Bts.Lac

open Lib Common

def sr1ChipRateHz : ℕ := 1228800

def fpchHalfFrameBits9600 : ℕ := 96

def fpchHalfFrameChips : ℕ := sr1ChipRateHz / 100

def fpchHalfFramePayloadBits9600 : ℕ := fpchHalfFrameBits9600 - 1

def fpchSlotChips : ℕ := fpchHalfFrameChips * 8

def systemTimeFromChips (chips : ℕ) : CdmaSystemTime :=
  ((chips / sr1ChipRateHz) * 1000000000 + (chips % sr1ChipRateHz) * 1000000000 / sr1ChipRateHz : ℕ)

def isFpchSlotStart (chipCursor : ℕ) : Bool := chipCursor % fpchSlotChips == 0

def isEmptyGeneralPageRequest (request : DataRequest) : Bool :=
  request.mcsb.channel = .fPch ∧ request.mcsb.messageId = .generalPage ∧ request.mcsb.lengthBits ≤ 24

namespace EncapsulatedPdu

def isFpchGeneralPagePdu (pdu : EncapsulatedPdu) : Bool :=
  pdu.message.mcsb.channel = .fPch ∧ pdu.message.mcsb.messageId = .generalPage

def isUnaddressedFpchOverheadPdu (pdu : EncapsulatedPdu) : Bool :=
  pdu.message.mcsb.channel = .fPch ∧ pdu.message.mcsb.address.isNone ∧ pdu.message.mcsb.messageId ≠ .generalPage

def isCancelableFutureGeneralPage (pdu : EncapsulatedPdu) : Bool :=
  !pdu.frameStartSent ∧ pdu.message.mcsb.channel = .fPch ∧ pdu.message.mcsb.messageId = .generalPage ∧
    pdu.message.mcsb.requestedTxTime.isSome ∧ pdu.message.mcsb.address.isNone

def isEarly (pdu : EncapsulatedPdu) (currentSystemTime : CdmaSystemTime) : Bool :=
  !pdu.frameStartSent ∧ pdu.message.mcsb.requestedTxTime.any (currentSystemTime < ·)

end EncapsulatedPdu

def fpchPayloadBitsUntilSlotEnd (chipCursor currentHalfFramePayloadBits : ℕ) : ℕ :=
  let halfFrameIdx := min (chipCursor % fpchSlotChips / fpchHalfFrameChips) 7
  currentHalfFramePayloadBits + (7 - halfFrameIdx) * fpchHalfFramePayloadBits9600

/-! ### The order of the queue -/

/-- What is compared, lexicographically: not sendable now, no deadline, the deadline, not directed. -/
def fpchQueueCandidateKey (pdu : EncapsulatedPdu) (currentSystemTime : CdmaSystemTime) :
    Bool × Bool × CdmaSystemTime × Bool :=
  (pdu.message.mcsb.requestedTxTime.any (currentSystemTime < ·), pdu.message.mcsb.txDeadline.isNone,
    pdu.message.mcsb.txDeadline.getD 0, pdu.message.mcsb.address.isNone)

/-- Between two keys with deadlines, or two without: the deadline is 0 where there is none. -/
def keyLt (k l : Bool × Bool × CdmaSystemTime × Bool) : Bool :=
  k.1 < l.1 ∨ k.1 = l.1 ∧ (k.2.1 < l.2.1 ∨ k.2.1 = l.2.1 ∧
    (k.2.2.1 < l.2.2.1 ∨ k.2.2.1 = l.2.2.1 ∧ k.2.2.2 < l.2.2.2))

def bestIdx (currentSystemTime : CdmaSystemTime) : (best idx : ℕ) → (bestPdu : EncapsulatedPdu) →
    List EncapsulatedPdu → ℕ
  | best, _, _, [] => best
  | best, idx, bestPdu, pdu :: rest =>
    if keyLt (fpchQueueCandidateKey pdu currentSystemTime) (fpchQueueCandidateKey bestPdu currentSystemTime) then
      bestIdx currentSystemTime idx (idx + 1) pdu rest
    else bestIdx currentSystemTime best (idx + 1) bestPdu rest

def reprioritizeFpchQueue (queue : List EncapsulatedPdu) (currentSystemTime : CdmaSystemTime) : List EncapsulatedPdu :=
  match queue with
  | [] | [_] => queue
  | front :: rest =>
    if front.frameStartSent then queue
    else
      let idx := bestIdx currentSystemTime 0 1 front rest
      if idx = 0 then queue
      else
        match queue[idx]? with
        | some pdu => pdu :: queue.eraseIdx idx
        | none => queue

def hasSlotFirstGpmAtFront (queue : List EncapsulatedPdu) (chipCursor : ℕ) : Bool :=
  isFpchSlotStart chipCursor && queue.head?.any fun pdu => !pdu.frameStartSent && pdu.isFpchGeneralPagePdu

/-! ### The supplier -/

/-- `next_paging_pdu_for_fragment`: the next message of the supplier that is not an empty page inside a slot. -/
def nextPagingPduForFragment (dsch : DataRequest → Option Bits) (chipCursor : ℕ) :
    List (Option DataRequest) → List (Option DataRequest) × Outcome LacError (Option EncapsulatedPdu)
  | [] => ([], .ok none)
  | none :: supply => (supply, .ok none)
  | some request :: supply =>
    if !isFpchSlotStart chipCursor && isEmptyGeneralPageRequest request then
      nextPagingPduForFragment dsch chipCursor supply
    else (supply, (assemblePdu dsch request).bind fun pdu => .ok (some pdu))

/-! ### One half-frame -/

/-- The variables of `build_paging_fragment_request`. -/
structure Building where
  state : State
  queue : List EncapsulatedPdu
  supply : List (Option DataRequest)
  fragment : Bits := []
  remainingPayloadBits : ℕ
  firstMcsb : Option MessageControlStatusBlock := none
  started : List DataRequest := []

inductive Ending where
  | again
  | done
  | failed (e : LacError)
  | panicked
  deriving DecidableEq

namespace Building

variable (dsch : DataRequest → Option Bits) (now : ℕ) (currentSystemTime : CdmaSystemTime) (chipCursor : ℕ)

def injectSlotFirstGpm (b : Building) : Building × Outcome LacError Unit :=
  if !isFpchSlotStart chipCursor || b.queue.head?.any (fun front => front.frameStartSent || front.isFpchGeneralPagePdu)
  then (b, .ok ())
  else
    match b.supply with
    | [] => (b, .ok ())
    | none :: supply => ({ b with supply := supply }, .ok ())
    | some request :: supply =>
      match assemblePdu dsch request with
      | .ok pdu => ({ b with supply := supply, queue := pdu :: b.queue }, .ok ())
      | .err e => ({ b with supply := supply }, .err e)
      | .panic => ({ b with supply := supply }, .panic)

def cancelFuturePages (b : Building) : Building :=
  if b.state.cancelFutureGeneralPages then
    { b with
      state := { b.state with cancelFutureGeneralPages := false }
      queue := b.queue.filter fun pdu => !pdu.isCancelableFutureGeneralPage }
  else b

def prioritize (b : Building) : Building :=
  if hasSlotFirstGpmAtFront b.queue chipCursor then b
  else { b with queue := reprioritizeFpchQueue b.queue currentSystemTime }

def refill (b : Building) : Building × Outcome LacError Bool :=
  match nextPagingPduForFragment dsch chipCursor b.supply with
  | (supply, .ok (some pdu)) => ({ b with supply := supply, queue := b.queue ++ [pdu] }, .ok true)
  | (supply, .ok none) => ({ b with supply := supply }, .ok false)
  | (supply, .err e) => ({ b with supply := supply }, .err e)
  | (supply, .panic) => ({ b with supply := supply }, .panic)

def drain (b : Building) (front : EncapsulatedPdu) (rest : List EncapsulatedPdu) (state : State) : Building × Ending :=
  let bitsToTake := min b.remainingPayloadBits front.ePdu.length
  let front' := { front with frameStartSent := true, ePdu := front.ePdu.drop bitsToTake }
  let encapsulatedDone := front'.ePdu.length == 0
  let b := { b with
    state := state
    queue := if encapsulatedDone then rest else front' :: rest
    fragment := b.fragment ++ front.ePdu.take bitsToTake
    remainingPayloadBits := b.remainingPayloadBits - bitsToTake
    started := b.started ++
      if !front.frameStartSent && front.message.mcsb.address.isSome then [front.message] else [] }
  if b.remainingPayloadBits = 0 ∨ !encapsulatedDone ∨ b.remainingPayloadBits < 8 then (b, .done) else (b, .again)

def transmit (b : Building) (front : EncapsulatedPdu) (rest : List EncapsulatedPdu) : Building × Ending :=
  let b := if b.fragment.length = 0 then
      { b with fragment := writeU64 (if front.frameStartSent then 0 else 1) 1, firstMcsb := some front.message.mcsb }
    else b
  match if front.frameStartSent then .ok b.state else b.state.markDirectedPduTransmitted now front.message.mcsb with
  | .error e => (b, .failed e)
  | .ok state => b.drain front rest state

/-- With a PDU in front: it waits for its time, it does not fit before the end of the slot, or it is drained. -/
def serve (b : Building) : Building × Ending :=
  match b.queue with
  | [] => (b, .panicked)
  | front :: rest =>
    if front.isEarly currentSystemTime then
      match b.refill dsch chipCursor with
      | (b, .ok true) => ({ b with queue := reprioritizeFpchQueue b.queue currentSystemTime }, .again)
      | (b, .ok false) => (b, .done)
      | (b, .err e) => (b, .failed e)
      | (b, .panic) => (b, .panicked)
    else if !front.frameStartSent && front.isUnaddressedFpchOverheadPdu &&
        !(front.ePdu.length ≤ fpchPayloadBitsUntilSlotEnd chipCursor b.remainingPayloadBits) then (b, .done)
    else b.transmit now front rest

def iterate (b : Building) : Building × Ending :=
  let b := b.cancelFuturePages.prioritize currentSystemTime chipCursor
  if b.queue.isEmpty then
    match b.refill dsch chipCursor with
    | (b, .ok true) => (b.prioritize currentSystemTime chipCursor).serve dsch now currentSystemTime chipCursor
    | (b, .ok false) => (b, .done)
    | (b, .err e) => (b, .failed e)
    | (b, .panic) => (b, .panicked)
  else b.serve dsch now currentSystemTime chipCursor

/-- The loop, with a bound on the number of iterations. -/
def loop : ℕ → Building → Building × Ending
  | 0, b => (b, .again)
  | fuel + 1, b =>
    match b.iterate dsch now currentSystemTime chipCursor with
    | (b, .again) => loop fuel b
    | (b, ending) => (b, ending)

/-- An iteration after which the loop goes on makes this smaller. -/
def measure (b : Building) : ℕ := 2 * b.supply.length + b.queue.length

end Building

/-- A request to the MAC on the paging channel. -/
structure MacDataRequest where
  channelType : ChannelType
  size : ℕ
  mcsb : MessageControlStatusBlock
  data : Bits
  deriving DecidableEq

def MacDataRequest.fpch (mcsb : MessageControlStatusBlock) (data : Bits) : MacDataRequest where
  channelType := .fPch
  size := data.length
  mcsb := mcsb
  data := data

def MacDataRequest.idle : MacDataRequest :=
  .fpch { channel := .fPch, lengthBits := 0, messageId := .systemParameters } []

def Building.buildPagingFragmentRequest (dsch : DataRequest → Option Bits) (now : ℕ) (b : Building) (maxSize : ℕ)
    (currentSystemTime : CdmaSystemTime) (chipCursor : ℕ) : Building × Outcome LacError (Option MacDataRequest) :=
  if maxSize ≤ 1 then (b, .panic)
  else
    let b := { b with fragment := [], remainingPayloadBits := maxSize - 1, firstMcsb := none }
    match b.injectSlotFirstGpm dsch chipCursor with
    | (b, .err e) => (b, .err e)
    | (b, .panic) => (b, .panic)
    | (b, .ok ()) =>
      match b.loop dsch now currentSystemTime chipCursor (b.measure + 1) with
      | (b, .failed e) => (b, .err e)
      | (b, .done) =>
        match b.firstMcsb with
        | none => (b, .ok none)
        | some mcsb => (b, .ok (some (.fpch mcsb (b.fragment ++ writeU64 0 b.remainingPayloadBits))))
      | (b, _) => (b, .panic)

/-- The half-frames of a frame: the bits, the block of the first one that has any and that of the first addressed one. -/
def Building.buildHalfFrames (dsch : DataRequest → Option Bits) (now : ℕ) (currentSystemTime : CdmaSystemTime)
    (chipCursor : ℕ) : List ℕ → Building → Bits → Option MessageControlStatusBlock → Option MessageControlStatusBlock →
    Building × Outcome LacError (Option MacDataRequest)
  | [], b, frame, firstMcsb, firstAddressedMcsb =>
    (b, .ok ((firstAddressedMcsb.or firstMcsb).map fun mcsb => .fpch { mcsb with requestedTxTime := none } frame))
  | halfIdx :: rest, b, frame, firstMcsb, firstAddressedMcsb =>
    let halfChip := min (chipCursor + fpchHalfFrameChips * halfIdx) (2 ^ 64 - 1)
    let halfSystemTime := if halfIdx = 0 then currentSystemTime else systemTimeFromChips halfChip
    match b.buildPagingFragmentRequest dsch now fpchHalfFrameBits9600 halfSystemTime halfChip with
    | (b, .ok (some request)) =>
      buildHalfFrames dsch now currentSystemTime chipCursor rest b (frame ++ request.data)
        (firstMcsb.or (some request.mcsb))
        (firstAddressedMcsb.or (if request.mcsb.address.isSome then some request.mcsb else none))
    | (b, .ok none) =>
      buildHalfFrames dsch now currentSystemTime chipCursor rest b (frame ++ writeU64 0 fpchHalfFrameBits9600) firstMcsb
        firstAddressedMcsb
    | (b, .err e) => (b, .err e)
    | (b, .panic) => (b, .panic)

def Building.buildPagingFrameRequest (dsch : DataRequest → Option Bits) (now : ℕ) (b : Building) (maxSize : ℕ)
    (currentSystemTime : CdmaSystemTime) (chipCursor : ℕ) : Building × Outcome LacError (Option MacDataRequest) :=
  if maxSize ≤ fpchHalfFrameBits9600 then b.buildPagingFragmentRequest dsch now maxSize currentSystemTime chipCursor
  else if maxSize % fpchHalfFrameBits9600 ≠ 0 then (b, .panic)
  else b.buildHalfFrames dsch now currentSystemTime chipCursor (List.range (maxSize / fpchHalfFrameBits9600)) [] none none

structure AvailabilityIndication where
  maxSize : ℕ
  systemTime : CdmaSystemTime
  chipCursor : ℕ
  deriving DecidableEq

/-- `handle_availability_indication` for the paging channel: the queue is taken out while the frame is built, and what is
left of it is put back; after an error it is not. The directed PDUs that started are returned as well. -/
def State.handleAvailabilityIndication (dsch : DataRequest → Option Bits) (state : State) (now : ℕ)
    (supply : List (Option DataRequest)) (indication : AvailabilityIndication) :
    State × List DataRequest × Outcome LacError MacDataRequest :=
  if indication.maxSize = 0 then (state, [], .panic)
  else
    let b : Building := {
      state := { state with
        fpchQueueCheckedOut := true
        messageQueue := Function.update state.messageQueue .fPch [] }
      queue := state.messageQueue .fPch
      supply := supply
      remainingPayloadBits := 0 }
    match b.buildPagingFrameRequest dsch now indication.maxSize indication.systemTime indication.chipCursor with
    | (b, .ok request) =>
      let live := b.state.messageQueue .fPch
      ({ b.state with
          fpchQueueCheckedOut := false
          messageQueue := Function.update b.state.messageQueue .fPch (b.queue ++ live) }, b.started,
        .ok (request.getD .idle))
    | (b, .err e) => (b.state, b.started, .err e)
    | (b, .panic) => (b.state, b.started, .panic)

end OneXBts.Bts.Lac
