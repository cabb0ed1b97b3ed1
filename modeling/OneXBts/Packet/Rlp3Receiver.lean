import OneXBts.Lib.Ring
import OneXBts.Packet.Rlp3Frames

/-!
The receiving half of an RLP Type 3 session (`rlp3_session.rs`): the resequencing buffer, the NAK list and the NAKs waiting.

Sequence numbers count modulo 4096. What lies between `L_V(N)`, needed next for delivery in order, and `L_V(R)`, expected
next, waits in `reseqBuffer` or is missing. A data frame shows the low octet of its number only, and the receiver completes
it. `deliver_contiguous` and `advance_l_v_n_past_gaps` are one loop with different tests (`Lib.sweep`).
-/

namespace OneXBts.Packet.Rlp3

open Lib

/-! ### Sequence numbers -/

abbrev seqModulus : ℕ := 4096

def vR8 (lSeq : ℕ) : UInt8 := UInt8.ofNat lSeq

def seq12Gt (a b : ℕ) : Bool :=
  if a = b then false
  else
    let diff := (a + seqModulus - b) % seqModulus
    decide (1 ≤ diff ∧ diff ≤ seqModulus / 2 - 1)

def seq12Lt (a b : ℕ) : Bool := if a = b then false else !seq12Gt a b

def seqInClosedRange (seq first last : ℕ) : Bool :=
  if first ≤ last then decide (first ≤ seq ∧ seq ≤ last) else decide (first ≤ seq ∨ seq ≤ last)

def seqsBefore (stop : ℕ) : ℕ → ℕ → List ℕ
  | 0, _ => []
  | fuel + 1, s => if s = stop then [] else s :: seqsBefore stop fuel ((s + 1) % seqModulus)

def NakGapEntry.seqs (entry : NakGapEntry) : List ℕ := seqsUpTo seqModulus entry.last seqModulus entry.first

/-! ### Events -/

inductive Rlp3State where
  | uninitialized | sync | syncAck | ack | dataTransfer
  deriving DecidableEq, Repr

/-- What a received frame makes known to the caller. -/
inductive RlpEvent where
  | stateChanged (state : Rlp3State)
  | dataDelivered (data : Bytes)
  | sendNak (first last : ℕ)
  | nakAbandoned (first last : ℕ)
  deriving DecidableEq, Repr

/-! ### State -/

structure NakEntry where
  lSeq : ℕ
  roundCounter : ℕ
  rexmitTimer : ℕ
  deriving DecidableEq, Repr

/-- How often a missing frame is asked for: the rounds, and the copies of a NAK in each. -/
structure NakPolicy where
  nakRoundsFwd : ℕ
  nakPerRound : List ℕ
  /-- Frames between two rounds. -/
  timer : ℕ
  deriving DecidableEq, Repr

/-- The fields of a session that receiving works on. -/
structure Receiver where
  lVR : ℕ := 0
  lVN : ℕ := 0
  rxBuffer : Bytes := []
  reseqBuffer : ℕ → Option Bytes := fun _ => none
  nakList : List NakEntry := []
  pendingControls : List Rlp3Frame := []

namespace Receiver

def onNakList (r : Receiver) (lSeq : ℕ) : Bool := r.nakList.any fun e => e.lSeq == lSeq

/-- Complete the low octet of a new frame: the first number from `L_V(R)` on that ends in it. -/
def computeLSeq (r : Receiver) (seq8 : UInt8) : ℕ := (r.lVR + (seq8 - vR8 r.lVR).toNat) % seqModulus

def deliverContiguous (r : Receiver) : Receiver :=
  let (lVN, reseqBuffer, data) := sweep seqModulus (fun _ slot => slot.isNone) seqModulus r.lVN
    r.reseqBuffer
  { r with lVN, reseqBuffer, rxBuffer := r.rxBuffer ++ data.flatten }

/-- Deliver what is held from `L_V(N)` on and skip what is no longer asked for. -/
def advanceLVNPastGaps (r : Receiver) : Receiver :=
  let (lVN, reseqBuffer, data) := sweep seqModulus
    (fun l slot => l == r.lVR || slot.isNone && r.onNakList l) seqModulus r.lVN r.reseqBuffer
  { r with lVN, reseqBuffer, rxBuffer := r.rxBuffer ++ data.flatten }

def flushDeliveryEvents (r : Receiver) : Receiver × List RlpEvent :=
  if r.rxBuffer = [] then (r, []) else ({ r with rxBuffer := [] }, [.dataDelivered r.rxBuffer])

/-! ### The NAK list -/

def addNakEntry (timer : ℕ) (r : Receiver) (lSeq : ℕ) : Receiver :=
  if r.onNakList lSeq then r else { r with nakList := r.nakList ++ [⟨lSeq, 1, timer⟩] }

def queueNakEntries (r : Receiver) (entries : List NakGapEntry) : Receiver :=
  { r with
    pendingControls := r.pendingControls ++
      (chunks 4 entries).map fun chunk => .nak (vR8 r.lVN) (r.lVN / 256) (.gap chunk) }

def queueNakRange (r : Receiver) (first last : ℕ) : Receiver := r.queueNakEntries [⟨first, last⟩]

/-- A number joins the last gap when it continues it, and starts a new one otherwise. -/
def coalesce (entries : List NakGapEntry) (seq : ℕ) : List NakGapEntry :=
  match entries.getLast? with
  | some entry =>
    if (entry.last + 1) % seqModulus = seq then entries.dropLast ++ [{ entry with last := seq }]
    else entries ++ [⟨seq, seq⟩]
  | none => [⟨seq, seq⟩]

def coalescedNakEntries (seqs : List ℕ) : List NakGapEntry := seqs.foldl coalesce []

def nakEntriesWithoutSeq (entries : List NakGapEntry) (lSeq : ℕ) : List NakGapEntry :=
  entries.flatMap fun entry => coalescedNakEntries (entry.seqs.filter (· ≠ lSeq))

def pendingNakRanges (r : Receiver) : List NakGapEntry :=
  r.pendingControls.flatMap fun
    | .nak _ _ (.gap entries) => entries
    | _ => []

def inRanges (entries : List NakGapEntry) (lSeq : ℕ) : Bool :=
  entries.any fun entry => seqInClosedRange lSeq entry.first entry.last

/-- A pending frame without a number that has arrived: a gap NAK that held it is cut, and goes when
nothing is left of it. -/
def withoutSeq (lSeq : ℕ) : Rlp3Frame → Option Rlp3Frame
  | .nak seq seqHi (.gap entries) =>
    if inRanges entries lSeq then
      match nakEntriesWithoutSeq entries lSeq with
      | [] => none
      | remaining => some (.nak seq seqHi (.gap remaining))
    else some (.nak seq seqHi (.gap entries))
  | other => some other

def removePendingNaksFor (r : Receiver) (lSeq : ℕ) : Receiver :=
  { r with pendingControls := r.pendingControls.filterMap (withoutSeq lSeq) }

def removeNak (r : Receiver) (lSeq : ℕ) : Receiver :=
  ({ r with nakList := r.nakList.filter fun e => e.lSeq ≠ lSeq }).removePendingNaksFor lSeq

/-! ### Timers -/

inductive TickAction where
  | wait
  | send (nakCount : ℕ)
  | expire
  deriving DecidableEq, Repr

/-- One frame period: at zero the entry waits for a NAK that is still queued, asks again, or gives
up. -/
def tickEntry (policy : NakPolicy) (pendingNaks : List NakGapEntry) (e : NakEntry) :
    NakEntry × TickAction :=
  let e := { e with rexmitTimer := e.rexmitTimer - 1 }
  if e.rexmitTimer ≠ 0 then (e, .wait)
  else if inRanges pendingNaks e.lSeq then ({ e with rexmitTimer := policy.timer }, .wait)
  else if e.roundCounter < policy.nakRoundsFwd then
    ({ e with roundCounter := e.roundCounter + 1, rexmitTimer := policy.timer },
      .send ((policy.nakPerRound[e.roundCounter]?).getD 1))
  else (e, .expire)

/-- Group the numbers to ask for by the number of copies, in order of first appearance. -/
def addToGroup (grouped : List (ℕ × List ℕ)) (nak : ℕ × ℕ) : List (ℕ × List ℕ) :=
  match grouped with
  | [] => [(nak.1, [nak.2])]
  | (count, seqs) :: rest =>
    if count = nak.1 then (count, seqs ++ [nak.2]) :: rest else (count, seqs) :: addToGroup rest nak

/-- The NAKs of a round: for each group, its gaps as often as the round says. -/
def queueGrouped (r : Receiver) (grouped : List (ℕ × List ℕ)) : Receiver :=
  grouped.foldl (fun r g => (fun r => r.queueNakEntries (coalescedNakEntries g.2))^[g.1] r) r

def tickedNaks (policy : NakPolicy) (r : Receiver) : List (NakEntry × TickAction) :=
  r.nakList.map (tickEntry policy r.pendingNakRanges)

def naksToSend (policy : NakPolicy) (r : Receiver) : List (ℕ × ℕ) :=
  (r.tickedNaks policy).filterMap fun
    | (e, .send nakCount) => some (nakCount, e.lSeq)
    | _ => none

def expiredSeqs (policy : NakPolicy) (r : Receiver) : List ℕ :=
  (r.tickedNaks policy).filterMap fun
    | (e, .expire) => some e.lSeq
    | _ => none

def tickNakTimers (policy : NakPolicy) (r : Receiver) : Receiver × List RlpEvent :=
  let expired := r.expiredSeqs policy
  let grouped := (r.naksToSend policy).foldl addToGroup []
  let r := ({ r with nakList := (r.tickedNaks policy).map Prod.fst }).queueGrouped grouped
  let events := expired.map fun seq => RlpEvent.nakAbandoned seq seq
  let r := { r with nakList := r.nakList.filter fun e => !expired.contains e.lSeq }
  if expired = [] then (r, events)
  else
    let (r, delivery) := r.advanceLVNPastGaps.flushDeliveryEvents
    (r, events ++ delivery)

/-! ### Data frames -/

inductive NewDataCase where
  /-- The expected frame with nothing waiting before it. -/
  | inOrder
  /-- The expected frame behind a gap. -/
  | expected
  /-- A frame beyond the expected one. -/
  | gap
  /-- A frame below `L_V(N)`. -/
  | old
  /-- A frame between `L_V(N)` and `L_V(R)`. -/
  | late
  deriving DecidableEq, Repr

def newDataCase (r : Receiver) (lSeq : ℕ) : NewDataCase :=
  if lSeq = r.lVR ∧ r.lVR = r.lVN then .inOrder
  else if lSeq = r.lVR ∧ r.lVR ≠ r.lVN then .expected
  else if seq12Gt lSeq r.lVR then .gap
  else if seq12Lt lSeq r.lVN then .old
  else .late

def newDataBranch (policy : NakPolicy) (r : Receiver) (lSeq : ℕ) (data : Bytes) :
    NewDataCase → Receiver × List RlpEvent
  | .inOrder =>
    ({ r with
      lVR := (r.lVR + 1) % seqModulus
      lVN := (r.lVN + 1) % seqModulus
      rxBuffer := r.rxBuffer ++ data }).deliverContiguous.flushDeliveryEvents
  | .expected =>
    ({ r with
      reseqBuffer := Function.update r.reseqBuffer lSeq (some data)
      lVR := (r.lVR + 1) % seqModulus }, [])
  | .gap =>
    let missing := seqsBefore lSeq seqModulus r.lVR
    let r' := (missing.foldl (addNakEntry policy.timer) r).queueNakRange r.lVR
      ((lSeq + seqModulus - 1) % seqModulus)
    ({ r' with
      reseqBuffer := Function.update r'.reseqBuffer lSeq (some data)
      lVR := (lSeq + 1) % seqModulus }, missing.map fun s => .sendNak s s)
  | .old => (r, [])
  | .late =>
    if r.reseqBuffer lSeq = none then
      let r := ({ r with reseqBuffer := Function.update r.reseqBuffer lSeq (some data) }).removeNak lSeq
      if lSeq = r.lVN then r.deliverContiguous.flushDeliveryEvents else (r, [])
    else (r, [])

def receiveNewData (policy : NakPolicy) (r : Receiver) (seq8 : UInt8) (data : Bytes) :
    Receiver × List RlpEvent :=
  r.newDataBranch policy (r.computeLSeq seq8) data (r.newDataCase (r.computeLSeq seq8))

/-- Process a retransmitted data frame: it is the first one asked for whose number ends in the
octet. -/
def receiveRexmitData (r : Receiver) (seq8 : UInt8) (data : Bytes) : Receiver × List RlpEvent :=
  match r.nakList.find? fun e => vR8 e.lSeq == seq8 with
  | none => (r, [])
  | some entry =>
    let r := r.removeNak entry.lSeq
    if r.reseqBuffer entry.lSeq = none then
      let r := { r with reseqBuffer := Function.update r.reseqBuffer entry.lSeq (some data) }
      if entry.lSeq = r.lVN then r.deliverContiguous.flushDeliveryEvents else (r, [])
    else (r, [])

end Receiver

end OneXBts.Packet.Rlp3
