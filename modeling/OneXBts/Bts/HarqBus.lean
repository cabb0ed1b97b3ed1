import OneXBts.Lib.BitField

/-!
The H-ARQ bus between the forward scheduler and the reverse receivers (`hrpd/harq_bus.rs`).

For each MAC index: a bounded queue of emissions and one of feedback, the last DRC value and a ring of 512 slots with those
before, and rings of 256 slots with the power control bits and ARQ levels. A cell of a ring has the slot above the value, so
that a stale cell is told from the one asked for.
-/

namespace OneXBts.Bts.Hrpd

inductive HarqResponse where
  | ack
  | nak
  | unknown
  deriving DecidableEq, Repr

structure HarqEmissionEvent where
  packetId : ℕ
  subpacket : ℕ
  packetStartSlot : ℕ
  forwardSlot : ℕ
  expectedAckReverseSlot : ℕ
  terminal : Bool
  deriving DecidableEq, Repr

structure HarqFeedbackEvent where
  packetId : ℕ
  subpacket : ℕ
  response : HarqResponse
  deriving DecidableEq, Repr

def macIndexCount : ℕ := 128
def harqBusCapacity : ℕ := 128
def rpcRecordUnset : ℕ := 2 ^ 64 - 1
def rpcScheduleRingSlots : ℕ := 256
def drcHistoryRingSlots : ℕ := 512
def arqScheduleRingSlots : ℕ := 256
def arqRecordUnset : ℕ := 2 ^ 64 - 1
def drcRecordUnset : ℕ := 2 ^ 64 - 1

inductive ArqLevel where
  | plus
  | off
  | minus
  deriving DecidableEq, Repr

namespace ArqLevel

def code : ArqLevel → ℕ
  | plus => 1
  | off => 2
  | minus => 3

def fromCode (code : ℕ) : Option ArqLevel :=
  match code % 4 with
  | 1 => some plus
  | 2 => some off
  | 3 => some minus
  | _ => none

end ArqLevel

structure ArqSlot where
  hOrL : ArqLevel
  p : ArqLevel
  deriving DecidableEq, Repr

structure HarqBus where
  emissions : UInt8 → List HarqEmissionEvent
  feedback : UInt8 → List HarqFeedbackEvent
  currentDrc : UInt8 → ℕ
  drcHistory : UInt8 → ℕ → ℕ
  scheduledRpc : UInt8 → ℕ → ℕ
  rpcLookupHits : UInt8 → ℕ
  rpcLookupMisses : UInt8 → ℕ
  scheduledArq : UInt8 → ℕ → ℕ
  latestArqTxSlot : UInt8 → ℕ
  arqScheduleOnTime : UInt8 → ℕ
  arqScheduleLate : UInt8 → ℕ
  arqLookupHits : UInt8 → ℕ

namespace HarqBus

def new : HarqBus where
  emissions := fun _ => []
  feedback := fun _ => []
  currentDrc := fun _ => drcRecordUnset
  drcHistory := fun _ _ => drcRecordUnset
  scheduledRpc := fun _ _ => rpcRecordUnset
  rpcLookupHits := fun _ => 0
  rpcLookupMisses := fun _ => 0
  scheduledArq := fun _ _ => arqRecordUnset
  latestArqTxSlot := fun _ => 0
  arqScheduleOnTime := fun _ => 0
  arqScheduleLate := fun _ => 0
  arqLookupHits := fun _ => 0

def push {α : Type} (queue : List α) (event : α) : List α :=
  if queue.length < harqBusCapacity then queue ++ [event] else queue.tail ++ [event]

def count (counter : UInt8 → ℕ) (mac : UInt8) : UInt8 → ℕ :=
  Function.update counter mac ((counter mac + 1) % 2 ^ 64)

/-- The code to write for a level: an `Off` keeps what the cell has for the same slot. -/
def arqCode (level : ArqLevel) (kept : Option ArqLevel) : ℕ :=
  if level = .off then (kept.getD level).code else level.code

def scheduleArqAtSlot (bus : HarqBus) (mac : UInt8) (slot : ℕ) (hOrL p : ArqLevel) : HarqBus :=
  if hOrL = .off ∧ p = .off then bus
  else if mac.toNat < macIndexCount then
    let latestTxSlot := bus.latestArqTxSlot mac
    let late := latestTxSlot ≠ 0 ∧ slot ≤ latestTxSlot
    let current := bus.scheduledArq mac (slot % arqScheduleRingSlots)
    let sameSlot := current ≠ arqRecordUnset ∧ current / 2 ^ 4 = slot
    let hCode := arqCode hOrL (if sameSlot then ArqLevel.fromCode (current / 2 ^ 2) else none)
    let pCode := arqCode p (if sameSlot then ArqLevel.fromCode current else none)
    let packed := slot * 2 ^ 4 % 2 ^ 64 + hCode * 2 ^ 2 + pCode
    { bus with
      arqScheduleLate := if late then count bus.arqScheduleLate mac else bus.arqScheduleLate
      arqScheduleOnTime := if late then bus.arqScheduleOnTime else count bus.arqScheduleOnTime mac
      scheduledArq := Function.update bus.scheduledArq mac
        (Function.update (bus.scheduledArq mac) (slot % arqScheduleRingSlots) packed) }
  else bus

def arqAtSlot (bus : HarqBus) (mac : UInt8) (slot : ℕ) : HarqBus × Option ArqSlot :=
  if mac.toNat < macIndexCount then
    let asked := { bus with
      latestArqTxSlot := Function.update bus.latestArqTxSlot mac (max (bus.latestArqTxSlot mac) slot) }
    let packed := bus.scheduledArq mac (slot % arqScheduleRingSlots)
    if packed = arqRecordUnset ∨ packed / 2 ^ 4 ≠ slot then (asked, none)
    else
      ({ asked with arqLookupHits := count bus.arqLookupHits mac }, do
        let hOrL ← ArqLevel.fromCode (packed / 2 ^ 2)
        let p ← ArqLevel.fromCode packed
        return ⟨hOrL, p⟩)
  else (bus, none)

def arqScheduleStats (bus : HarqBus) (mac : UInt8) : ℕ × ℕ × ℕ × ℕ :=
  if mac.toNat < macIndexCount then
    (bus.arqScheduleOnTime mac, bus.arqScheduleLate mac, bus.arqLookupHits mac, bus.latestArqTxSlot mac)
  else (0, 0, 0, 0)

def scheduleRpcAtSlot (bus : HarqBus) (mac : UInt8) (slot : ℕ) (rpcBit : UInt8) : HarqBus :=
  if mac.toNat < macIndexCount then
    { bus with
      scheduledRpc := Function.update bus.scheduledRpc mac
        (Function.update (bus.scheduledRpc mac) (slot % rpcScheduleRingSlots)
          (slot * 2 % 2 ^ 64 + (rpcBit &&& 1).toNat)) }
  else bus

def rpcAtSlot (bus : HarqBus) (mac : UInt8) (slot : ℕ) : HarqBus × Option UInt8 :=
  if mac.toNat < macIndexCount then
    let packed := bus.scheduledRpc mac (slot % rpcScheduleRingSlots)
    if packed = rpcRecordUnset ∨ packed / 2 ≠ slot then
      ({ bus with rpcLookupMisses := count bus.rpcLookupMisses mac }, none)
    else ({ bus with rpcLookupHits := count bus.rpcLookupHits mac }, some (packed % 2).toUInt8)
  else (bus, none)

def rpcLookupStats (bus : HarqBus) (mac : UInt8) : ℕ × ℕ :=
  if mac.toNat < macIndexCount then (bus.rpcLookupHits mac, bus.rpcLookupMisses mac) else (0, 0)

def setCurrentDrcAtSlot (bus : HarqBus) (mac : UInt8) (slot : ℕ) (drcIndex : UInt8) : HarqBus :=
  if mac.toNat < macIndexCount then
    let packed := slot * 2 ^ 8 % 2 ^ 64 + drcIndex.toNat
    let current := bus.currentDrc mac
    { bus with
      currentDrc :=
        if current ≠ drcRecordUnset ∧ current / 2 ^ 8 > slot then bus.currentDrc
        else Function.update bus.currentDrc mac packed
      drcHistory := Function.update bus.drcHistory mac
        (Function.update (bus.drcHistory mac) (slot % drcHistoryRingSlots) packed) }
  else bus

def currentDrcRecord (bus : HarqBus) (mac : UInt8) : Option (ℕ × UInt8) :=
  if mac.toNat < macIndexCount then
    let packed := bus.currentDrc mac
    if packed = drcRecordUnset then none else some (packed / 2 ^ 8, (packed % 2 ^ 8).toUInt8)
  else none

def drcAtSlot (bus : HarqBus) (mac : UInt8) (slot : ℕ) : Option UInt8 :=
  if mac.toNat < macIndexCount then
    let packed := bus.drcHistory mac (slot % drcHistoryRingSlots)
    if packed = drcRecordUnset ∨ packed / 2 ^ 8 ≠ slot then none else some (packed % 2 ^ 8).toUInt8
  else none

def governingDrc (bus : HarqBus) (mac : UInt8) (startSlot frameOffset drcLength : ℕ) : Option UInt8 :=
  let drcLength := max drcLength 1
  bus.drcAtSlot mac (startSlot - 1 - (startSlot - frameOffset) % drcLength)

def publishEmission (bus : HarqBus) (mac : UInt8) (event : HarqEmissionEvent) : HarqBus :=
  if mac.toNat < macIndexCount then
    { bus with emissions := Function.update bus.emissions mac (push (bus.emissions mac) event) }
  else bus

def drainEmissions (bus : HarqBus) (mac : UInt8) : HarqBus × List HarqEmissionEvent :=
  if mac.toNat < macIndexCount then
    ({ bus with emissions := Function.update bus.emissions mac [] }, bus.emissions mac)
  else (bus, [])

def publishFeedback (bus : HarqBus) (mac : UInt8) (event : HarqFeedbackEvent) : HarqBus :=
  if mac.toNat < macIndexCount then
    { bus with feedback := Function.update bus.feedback mac (push (bus.feedback mac) event) }
  else bus

def drainFeedback (bus : HarqBus) (mac : UInt8) : HarqBus × List HarqFeedbackEvent :=
  if mac.toNat < macIndexCount then ({ bus with feedback := Function.update bus.feedback mac [] }, bus.feedback mac)
  else (bus, [])

def purgeMacQueues (bus : HarqBus) (mac : UInt8) : HarqBus × ℕ × ℕ :=
  let emissions := bus.drainEmissions mac
  let feedback := emissions.1.drainFeedback mac
  (if mac.toNat < macIndexCount then
    { feedback.1 with
      currentDrc := Function.update bus.currentDrc mac drcRecordUnset
      scheduledRpc := Function.update bus.scheduledRpc mac fun _ => rpcRecordUnset
      rpcLookupHits := Function.update bus.rpcLookupHits mac 0
      rpcLookupMisses := Function.update bus.rpcLookupMisses mac 0
      scheduledArq := Function.update bus.scheduledArq mac fun _ => arqRecordUnset
      latestArqTxSlot := Function.update bus.latestArqTxSlot mac 0
      arqScheduleOnTime := Function.update bus.arqScheduleOnTime mac 0
      arqScheduleLate := Function.update bus.arqScheduleLate mac 0
      arqLookupHits := Function.update bus.arqLookupHits mac 0 }
  else feedback.1, emissions.2.length, feedback.2.length)

def popEmission (bus : HarqBus) (mac : UInt8) : HarqBus :=
  if mac.toNat < macIndexCount then
    { bus with emissions := Function.update bus.emissions mac (bus.emissions mac).tail }
  else bus

end HarqBus

end OneXBts.Bts.Hrpd
