import OneXBts.Packet.PppFrame

/-!
Van Jacobson TCP/IP header compression (`ppp/vj.rs`).

The compressor sends a packet of a known connection as the differences to the saved header (`buildCompressedPacket`), and the
decompressor applies them to its own copy (`rebuildHeader`). Other packets go out in full with the slot in place of the
protocol octet, and seed the slot again. Indexing past the end is a panic; a cursor is the rest of the payload.
-/

namespace OneXBts.Packet.Vj

open Lib Packet.Ppp

/-! ### Constants and options -/

def pppIpProtocol : UInt16 := 0x0021
def pppVjCompressedTcp : UInt16 := 0x002d
def pppVjUncompressedTcp : UInt16 := 0x002f
def vjCompressionProtocol : UInt16 := pppVjCompressedTcp

def ipprotoTcp : UInt8 := 6

def newC : UInt8 := 0x40
def newI : UInt8 := 0x20
def tcpPushBit : UInt8 := 0x10
def newS : UInt8 := 0x08
def newA : UInt8 := 0x04
def newW : UInt8 := 0x02
def newU : UInt8 := 0x01
def specialI : UInt8 := newS ||| newW ||| newU
def specialD : UInt8 := newS ||| newA ||| newW ||| newU
def specialsMask : UInt8 := newS ||| newA ||| newW ||| newU

def tcpFin : UInt8 := 0x01
def tcpSyn : UInt8 := 0x02
def tcpRst : UInt8 := 0x04
def tcpPush : UInt8 := 0x08
def tcpAck : UInt8 := 0x10
def tcpUrg : UInt8 := 0x20

structure VjCompressionOptions where
  maxSlotId : UInt8 := 15
  compSlotId : Bool := true
  deriving DecidableEq, Repr

namespace VjCompressionOptions

def slotCount (o : VjCompressionOptions) : ℕ := o.maxSlotId.toNat + 1

def toIpcpData (o : VjCompressionOptions) : Bytes :=
  octets16 vjCompressionProtocol ++ [o.maxSlotId, if o.compSlotId then 1 else 0]

def fromIpcpData : Bytes → Option VjCompressionOptions
  | [a, b, maxSlotId, compSlotId] =>
    if be16 a b ≠ vjCompressionProtocol ∨ compSlotId > 1 then none
    else some ⟨maxSlotId, compSlotId ≠ 0⟩
  | _ => none

end VjCompressionOptions

inductive VjError where
  | notNegotiated
  | malformed
  | missingState
  | tossing
  deriving DecidableEq, Repr

/-! ### Values -/

/-- A value that is not 0: one octet below 256, otherwise a zero octet and two octets. -/
def encodeNonzero (value : UInt16) : Bytes :=
  if value ≥ 256 then 0 :: octets16 value else [value.toUInt8]

/-- A value that may be 0, which takes the long form. -/
def encodeZeroAllowed (value : UInt16) : Bytes :=
  if value = 0 ∨ value ≥ 256 then 0 :: octets16 value else [value.toUInt8]

def decodeValue : Bytes → Outcome VjError (UInt16 × Bytes)
  | [] => .err .malformed
  | first :: rest =>
    if first = 0 then
      match rest with
      | a :: b :: rest => .ok (be16 a b, rest)
      | _ => .err .malformed
    else .ok (first.toUInt16, rest)

/-- The pairs of octets of one part, an odd octet at its end padded with 0. -/
def sumWords (sum : UInt32) : Bytes → UInt32
  | a :: b :: rest => sumWords (sum + (be16 a b).toUInt32) rest
  | [a] => sum + (be16 a 0).toUInt32
  | [] => sum

def foldCarries : ℕ → UInt32 → UInt32
  | 0, sum => sum
  | fuel + 1, sum => if sum >>> 16 ≠ 0 then foldCarries fuel ((sum &&& (0xffff : UInt32)) + (sum >>> 16)) else sum

def checksum16 (parts : List Bytes) : UInt16 := ~~~(foldCarries 2 (parts.foldl sumWords 0)).toUInt16

/-! ### Parsing -/

structure ParsedTcpPacket where
  packet : Bytes
  totalLen : ℕ
  ipHeaderLen : ℕ
  tcpOffset : ℕ
  headerLen : ℕ
  deriving DecidableEq, Repr

def ParsedTcpPacket.parse (packet : Bytes) : Outcome Unit ParsedTcpPacket := do
  .failIf (packet.length < 40) ()
  let first ← index packet 0
  .failIf (first >>> 4 ≠ 4) ()
  let ipHeaderLen := (first &&& 0x0f).toNat * 4
  .failIf (ipHeaderLen < 20 ∨ packet.length < ipHeaderLen) ()
  let total ← readU16 packet 2
  .failIf (total.toNat < ipHeaderLen + 20 ∨ total.toNat > packet.length) ()
  let protocol ← index packet 9
  .failIf (protocol ≠ ipprotoTcp) ()
  let offset ← index packet (ipHeaderLen + 12)
  let tcpHeaderLen := (offset >>> 4).toNat * 4
  .failIf (tcpHeaderLen < 20 ∨ total.toNat < ipHeaderLen + tcpHeaderLen) ()
  return ⟨packet, total.toNat, ipHeaderLen, ipHeaderLen, ipHeaderLen + tcpHeaderLen⟩

section Parsed

variable {ε : Type}

/-- Neither a fragment nor one of the packets that open or close a connection. -/
def isCompressibleTcp (parsed : ParsedTcpPacket) : Outcome ε Bool := do
  let fragment ← readU16 parsed.packet 6
  if fragment &&& 0x3fff ≠ 0 then return false
  let flags ← index parsed.packet (parsed.tcpOffset + 13)
  return flags &&& (tcpSyn ||| tcpFin ||| tcpRst ||| tcpAck) == tcpAck

/-- The header of the last packet of a connection. -/
structure TcpHeaderState where
  header : Bytes
  deriving DecidableEq, Repr

namespace TcpHeaderState

def fromPacket (parsed : ParsedTcpPacket) : Outcome ε TcpHeaderState := do
  let header ← slice parsed.packet parsed.headerLen
  return ⟨header⟩

def getRange (data : Bytes) (a b : ℕ) : Option Bytes :=
  if a ≤ b ∧ b ≤ data.length then some ((data.take b).drop a) else none

def range (data : Bytes) (a b : ℕ) : Outcome ε Bytes :=
  match getRange data a b with
  | some r => .ok r
  | none => .panic

def sameFlow (s : TcpHeaderState) (parsed : ParsedTcpPacket) : Outcome ε Bool := do
  let first ← index s.header 0
  let oldTcp := (first &&& 0x0f).toNat * 4
  return getRange s.header 12 20 == getRange parsed.packet 12 20 &&
    getRange s.header oldTcp (oldTcp + 4) ==
      getRange parsed.packet parsed.tcpOffset (parsed.tcpOffset + 4)

/-- What a compressed packet cannot say is as in the saved header. The comparisons are made in this
order, each only when those before it hold. -/
def stableHeaderMatches (s : TcpHeaderState) (parsed : ParsedTcpPacket) : Outcome ε Bool := do
  let first ← index s.header 0
  let oldIpHlen := (first &&& 0x0f).toNat * 4
  let oldTcp := oldIpHlen
  if s.header.length ≠ parsed.headerLen then return false
  if (← range s.header 0 2) ≠ (← range parsed.packet 0 2) then return false
  if (← range s.header 6 10) ≠ (← range parsed.packet 6 10) then return false
  if (← index s.header (oldTcp + 12)) ≠ (← index parsed.packet (parsed.tcpOffset + 12)) then return false
  if (← range s.header 20 oldIpHlen) ≠ (← range parsed.packet 20 parsed.ipHeaderLen) then return false
  return (← range s.header (oldTcp + 20) s.header.length) ==
    (← range parsed.packet (parsed.tcpOffset + 20) parsed.headerLen)

end TcpHeaderState

end Parsed

/-! ### The compressed form -/

/-- The urgent pointer goes out whenever URG is set, and must not have changed otherwise. -/
def urgentChange (parsed : ParsedTcpPacket) (state : TcpHeaderState) (oldTcp : ℕ) (flags : UInt8) :
    Outcome Unit (UInt8 × Bytes) :=
  if flags &&& tcpUrg ≠ 0 then do
    let urgent ← readU16 parsed.packet (parsed.tcpOffset + 18)
    return (newU, encodeZeroAllowed urgent)
  else do
    let urgent ← readU16 parsed.packet (parsed.tcpOffset + 18)
    let oldUrgent ← readU16 state.header (oldTcp + 18)
    .failIf (urgent ≠ oldUrgent) ()
    return (0, [])

def addChange (bit : UInt8) (delta : UInt16) (c : UInt8 × Bytes) : UInt8 × Bytes :=
  if delta ≠ 0 then (c.1 ||| bit, c.2 ++ encodeNonzero delta) else c

/-- A difference of sequence numbers has to fit two octets. -/
def addChange32 (bit : UInt8) (delta : UInt32) (c : UInt8 × Bytes) : Outcome Unit (UInt8 × Bytes) :=
  if delta ≠ 0 then
    if delta > 0xffff then .err () else .ok (c.1 ||| bit, c.2 ++ encodeNonzero delta.toUInt16)
  else .ok c

/-- The two frequent cases have an encoding of their own; a header without changes is only sent after one
without data, and changes that would read as one of the two are not sent. -/
def specialCases (parsed : ParsedTcpPacket) (oldTotal : UInt16) (oldHeaderLen : ℕ) (total : UInt16)
    (seqDelta ackDelta : UInt32) (c : UInt8 × Bytes) : Outcome Unit (UInt8 × Bytes) :=
  let oldPayloadLen := oldTotal.toNat - oldHeaderLen
  if c.1 = 0 then
    if total = oldTotal ∨ oldTotal.toNat ≠ parsed.headerLen then .err () else .ok c
  else if c.1 = specialI ∨ c.1 = specialD then .err ()
  else if c.1 = newS ||| newA ∧ seqDelta = ackDelta ∧ seqDelta = UInt32.ofNat oldPayloadLen then .ok (specialI, [])
  else if c.1 = newS ∧ seqDelta = UInt32.ofNat oldPayloadLen then .ok (specialD, [])
  else .ok c

def buildCompressedPacket (parsed : ParsedTcpPacket) (state : TcpHeaderState) : Outcome Unit PppPacket := do
  let stable ← state.stableHeaderMatches parsed
  .failIf (stable = false) ()
  let tcp := parsed.tcpOffset
  let first ← index state.header 0
  let oldTcp := (first &&& 0x0f).toNat * 4
  let flags ← index parsed.packet (tcp + 13)
  let oldFlags ← index state.header (oldTcp + 13)
  let c ← urgentChange parsed state oldTcp flags
  .failIf ((flags ^^^ oldFlags) &&& ~~~(tcpPush ||| tcpUrg) ≠ 0) ()
  let window ← readU16 parsed.packet (tcp + 14)
  let oldWindow ← readU16 state.header (oldTcp + 14)
  let c := addChange newW (window - oldWindow) c
  let ack ← readU32 parsed.packet (tcp + 8)
  let oldAck ← readU32 state.header (oldTcp + 8)
  let ackDelta := ack - oldAck
  let c ← addChange32 newA ackDelta c
  let seq ← readU32 parsed.packet (tcp + 4)
  let oldSeq ← readU32 state.header (oldTcp + 4)
  let seqDelta := seq - oldSeq
  let c ← addChange32 newS seqDelta c
  let oldTotal ← readU16 state.header 2
  let total ← readU16 parsed.packet 2
  let c ← specialCases parsed oldTotal state.header.length total seqDelta ackDelta c
  let ipId ← readU16 parsed.packet 4
  let oldIpId ← readU16 state.header 4
  let ipIdDelta := ipId - oldIpId
  let c := if ipIdDelta ≠ 1 then (c.1 ||| newI, c.2 ++ encodeZeroAllowed ipIdDelta) else c
  let changes := if flags &&& tcpPush ≠ 0 then c.1 ||| tcpPushBit else c.1
  let checksum ← TcpHeaderState.range parsed.packet (tcp + 16) (tcp + 18)
  let data ← TcpHeaderState.range parsed.packet parsed.headerLen parsed.totalLen
  return ⟨pppVjCompressedTcp, changes :: (checksum ++ (c.2 ++ data))⟩

/-! ### The rebuilt header -/

section Rebuild

def addU16 {ε : Type} (data : Bytes) (off : ℕ) (delta : UInt16) : Outcome ε Bytes := do
  let value ← readU16 data off
  writeAt data off (octets16 (value + delta))

def addU32 {ε : Type} (data : Bytes) (off : ℕ) (delta : UInt32) : Outcome ε Bytes := do
  let value ← readU32 data off
  writeAt data off (octets32 (value + delta))

def modifyAt {ε : Type} (data : Bytes) (off : ℕ) (f : UInt8 → UInt8) : Outcome ε Bytes := do
  let b ← index data off
  .setAt data off (f b)

def readChange (present : Bool) (apply : Bytes → UInt16 → Outcome VjError Bytes) (c : Bytes × Bytes) :
    Outcome VjError (Bytes × Bytes) :=
  if present then do
    let (delta, rest) ← decodeValue c.2
    let header ← apply c.1 delta
    return (header, rest)
  else return c

/-- URG is set and the urgent pointer read when its bit is set, and URG is cleared otherwise. -/
def applyUrgent (tcp : ℕ) (changes : UInt8) (c : Bytes × Bytes) : Outcome VjError (Bytes × Bytes) :=
  if changes &&& newU ≠ 0 then do
    let header ← modifyAt c.1 (tcp + 13) (· ||| tcpUrg)
    readChange true (fun h v => writeAt h (tcp + 18) (octets16 v)) (header, c.2)
  else do
    let header ← modifyAt c.1 (tcp + 13) (· &&& ~~~tcpUrg)
    return (header, c.2)

/-- The changes of the TCP fields: one of the two frequent cases, or those whose bits are set. -/
def applyChanges (headerLen tcp : ℕ) (changes : UInt8) (c : Bytes × Bytes) :
    Outcome VjError (Bytes × Bytes) :=
  if changes &&& specialsMask = specialI then do
    let total ← readU16 c.1 2
    let dataLen := UInt32.ofNat (total.toNat - headerLen)
    let header ← addU32 c.1 (tcp + 8) dataLen
    let header ← addU32 header (tcp + 4) dataLen
    return (header, c.2)
  else if changes &&& specialsMask = specialD then do
    let total ← readU16 c.1 2
    let header ← addU32 c.1 (tcp + 4) (UInt32.ofNat (total.toNat - headerLen))
    return (header, c.2)
  else do
    let c ← applyUrgent tcp changes c
    let c ← readChange (changes &&& newW ≠ 0) (fun h v => addU16 h (tcp + 14) v) c
    let c ← readChange (changes &&& newA ≠ 0) (fun h v => addU32 h (tcp + 8) v.toUInt32) c
    readChange (changes &&& newS ≠ 0) (fun h v => addU32 h (tcp + 4) v.toUInt32) c

/-- The IP identification moves on by what was sent, or by 1. -/
def applyIpId (changes : UInt8) (c : Bytes × Bytes) : Outcome VjError (Bytes × Bytes) :=
  if changes &&& newI ≠ 0 then readChange true (fun h v => addU16 h 4 v) c
  else do
    let header ← addU16 c.1 4 1
    return (header, c.2)

/-- Total length and checksum of the IP header are computed anew. -/
def finishHeader (headerLen ipHlen : ℕ) (c : Bytes × Bytes) : Outcome VjError (Bytes × Bytes) := do
  let totalLen := headerLen + c.2.length
  .failIf (totalLen > 65535) .malformed
  let header ← writeAt c.1 2 (octets16 (UInt16.ofNat totalLen))
  let header ← .setAt header 10 0
  let header ← .setAt header 11 0
  let ip ← slice header ipHlen
  let header ← writeAt header 10 (octets16 (checksum16 [ip]))
  return (header, c.2)

def rebuildHeader (header : Bytes) (changes : UInt8) (rest : Bytes) : Outcome VjError (Bytes × Bytes) :=
  match rest with
  | a :: b :: rest => do
    let headerLen := header.length
    let first ← index header 0
    let ipHlen := (first &&& 0x0f).toNat * 4
    let tcp := ipHlen
    let header ← writeAt header (tcp + 16) [a, b]
    let header ← modifyAt header (tcp + 13) fun f =>
      if changes &&& tcpPushBit ≠ 0 then f ||| tcpPush else f &&& ~~~tcpPush
    let c ← applyChanges headerLen tcp changes (header, rest)
    let c ← applyIpId changes c
    finishHeader headerLen ipHlen c
  | _ => .err .malformed

end Rebuild

/-! ### The two ends -/

structure VjState where
  txOptions : Option VjCompressionOptions := none
  rxOptions : Option VjCompressionOptions := none
  txStates : List (Option TcpHeaderState) := []
  rxStates : List (Option TcpHeaderState) := []
  txLru : List UInt8 := []
  lastXmit : Option UInt8 := none
  lastRecv : Option UInt8 := none
  toss : Bool := true
  deriving DecidableEq, Repr

def ipPpp (ipPacket : Bytes) : PppPacket := ⟨pppIpProtocol, ipPacket⟩

/-- The slots of a number of options, `0..=max_slot_id`. -/
def slots (o : VjCompressionOptions) : List UInt8 := (List.range o.slotCount).map UInt8.ofNat

namespace VjState

def configure (_ : VjState) (txOptions rxOptions : Option VjCompressionOptions) : VjState where
  txOptions := txOptions
  rxOptions := rxOptions
  txStates := List.replicate (txOptions.elim 0 VjCompressionOptions.slotCount) none
  rxStates := List.replicate (rxOptions.elim 0 VjCompressionOptions.slotCount) none
  txLru := txOptions.elim [] slots
  lastXmit := none
  lastRecv := none
  toss := true

def findSlot (states : List (Option TcpHeaderState)) (parsed : ParsedTcpPacket) :
    List UInt8 → Outcome Empty (Option UInt8)
  | [] => return none
  | slot :: lru => do
    match ← Outcome.getAt states slot.toNat with
    | none => findSlot states parsed lru
    | some state => if ← state.sameFlow parsed then return some slot else findSlot states parsed lru

def findTxSlot (s : VjState) (parsed : ParsedTcpPacket) : Outcome Empty (Option UInt8) :=
  findSlot s.txStates parsed s.txLru

def markTxMru (s : VjState) (slot : UInt8) : VjState := { s with txLru := slot :: s.txLru.erase slot }

def allocateTxSlot (s : VjState) : Option (UInt8 × VjState) :=
  s.txLru.getLast?.map fun slot => (slot, s.markTxMru slot)

def saveTx (s : VjState) (slot : UInt8) (parsed : ParsedTcpPacket) : Outcome Empty VjState := do
  let state ← TcpHeaderState.fromPacket parsed
  let txStates ← Outcome.setAt s.txStates slot.toNat (some state)
  return { s with txStates := txStates }

/-- The packet in full, with the slot in place of the protocol octet. -/
def uncompressedTcpPacket (s : VjState) (slot : UInt8) (parsed : ParsedTcpPacket) :
    Outcome Empty (PppPacket × VjState) := do
  let payload ← slice parsed.packet parsed.totalLen
  let payload ← Outcome.setAt payload 9 slot
  return (⟨pppVjUncompressedTcp, payload⟩, { s with lastXmit := some slot })

def insertSlot (slot : UInt8) : Bytes → Bytes
  | [] => []
  | changes :: rest => (changes ||| newC) :: slot :: rest

def compressIpPacket (s : VjState) (ipPacket : Bytes) : Outcome Empty (PppPacket × VjState) :=
  match s.txOptions with
  | none => return (ipPpp ipPacket, s)
  | some options => do
    match ← (ParsedTcpPacket.parse ipPacket).result with
    | .error _ => return (ipPpp ipPacket, s)
    | .ok parsed =>
      if !(← isCompressibleTcp parsed) then return (ipPpp ipPacket, s)
      match ← s.findTxSlot parsed with
      | none =>
        match s.allocateTxSlot with
        | none => return (ipPpp ipPacket, s)
        | some (slot, s) =>
          let s ← s.saveTx slot parsed
          s.uncompressedTcpPacket slot parsed
      | some slot =>
        let s := s.markTxMru slot
        match ← Outcome.getAt s.txStates slot.toNat with
        -- the expect: the slot was found by its state
        | none => .panic
        | some state =>
          match ← (buildCompressedPacket parsed state).result with
          | .error _ =>
            let s ← s.saveTx slot parsed
            s.uncompressedTcpPacket slot parsed
          | .ok compressed =>
            if !options.compSlotId || s.lastXmit != some slot then
              let s ← { s with lastXmit := some slot }.saveTx slot parsed
              return ({ compressed with payload := insertSlot slot compressed.payload }, s)
            else
              let s ← s.saveTx slot parsed
              return (compressed, s)

def tossWith (s : VjState) (e : VjError) : Outcome Empty (Except VjError Bytes × VjState) :=
  return (.error e, { s with toss := true })

/-- A packet in full restores the protocol octet and seeds the slot. -/
def decompressUncompressedTcp (s : VjState) (payload : Bytes) :
    Outcome Empty (Except VjError Bytes × VjState) :=
  match s.rxOptions with
  | none => return (.error .notNegotiated, s)
  | some options =>
    match payload[9]? with
    | none => s.tossWith .malformed
    | some slot =>
      if slot > options.maxSlotId then s.tossWith .malformed
      else do
        let packet := payload.set 9 ipprotoTcp
        match ← (ParsedTcpPacket.parse packet).result with
        | .error _ => s.tossWith .malformed
        | .ok parsed =>
          let state ← TcpHeaderState.fromPacket parsed
          let rxStates ← Outcome.setAt s.rxStates slot.toNat (some state)
          return (.ok packet, { s with rxStates := rxStates, lastRecv := some slot, toss := false })

/-- The slot a compressed packet is for: the one it names, or the last one. -/
def selectSlot (s : VjState) (options : VjCompressionOptions) (changes : UInt8) (rest : Bytes) :
    Except VjError (UInt8 × Bytes × VjState) :=
  if changes &&& newC ≠ 0 then
    match rest with
    | [] => .error .malformed
    | slot :: rest =>
      if slot > options.maxSlotId then .error .malformed
      else .ok (changes &&& ~~~newC, rest, { s with lastRecv := some slot, toss := false })
  else if s.toss then .error .tossing
  else .ok (changes, rest, s)

def decompressCompressedTcp (s : VjState) (payload : Bytes) :
    Outcome Empty (Except VjError Bytes × VjState) :=
  match s.rxOptions with
  | none => return (.error .notNegotiated, s)
  | some options =>
    match payload with
    | [] => s.tossWith .malformed
    | changes :: rest =>
      match s.selectSlot options changes rest with
      | .error e => s.tossWith e
      | .ok (changes, rest, s) =>
        match s.lastRecv with
        | none => s.tossWith .missingState
        | some slot => do
          match ← Outcome.getAt s.rxStates slot.toNat with
          | none => s.tossWith .missingState
          | some state =>
            match ← (rebuildHeader state.header changes rest).result with
            | .error e => s.tossWith e
            | .ok (header, data) =>
              let rxStates ← Outcome.setAt s.rxStates slot.toNat (some ⟨header⟩)
              return (.ok (header ++ data), { s with rxStates := rxStates })

def decompressPacket (s : VjState) (protocol : UInt16) (payload : Bytes) :
    Outcome Empty (Except VjError Bytes × VjState) :=
  if protocol = pppIpProtocol then return (.ok payload, s)
  else if protocol = pppVjUncompressedTcp then s.decompressUncompressedTcp payload
  else if protocol = pppVjCompressedTcp then s.decompressCompressedTcp payload
  else return (.error .malformed, s)

end VjState

end OneXBts.Packet.Vj
