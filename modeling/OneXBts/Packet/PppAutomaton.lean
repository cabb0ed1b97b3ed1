import OneXBts.Lib.BigEndian
import OneXBts.Lib.Runs
import OneXBts.Packet.PppFraming

/-!
What the PPP control protocols share (`ppp/lcp.rs`, `ppp/ipcp.rs`).

LCP and IPCP repeat the same packet format, the same option format and the same bookkeeping of the two
Configure-Requests that are under way, ours and the peer's. Here these stand once: `ControlPacket`,
`ControlOption`, and `Automaton`, the fields that both sessions have and what both do with them.
-/

namespace OneXBts.Packet.Ppp

open Lib

/-! ### Packets -/

def configureRequest : UInt8 := 1
def configureAck : UInt8 := 2
def configureNak : UInt8 := 3
def configureReject : UInt8 := 4
def terminateRequest : UInt8 := 5
def terminateAck : UInt8 := 6
def codeReject : UInt8 := 7

/-- The Rejected-Packet field of a Code-Reject is clamped below the default MRU. -/
def codeRejectMaxData : ℕ := 1400

def configureRestartTicks : UInt16 := 50
def defaultMaxConfigureRestarts : ℕ := 10

/-- A control packet (`LcpPacket`, `IpcpPacket`). -/
structure ControlPacket where
  code : UInt8
  identifier : UInt8
  data : Bytes
  deriving DecidableEq, Repr

namespace ControlPacket

def parse : Bytes → Option ControlPacket
  | code :: identifier :: a :: b :: rest =>
    let length := (be16 a b).toNat
    if length < 4 ∨ length > rest.length + 4 then none
    else some ⟨code, identifier, rest.take (length - 4)⟩
  | _ => none

def toBytes (p : ControlPacket) : Bytes :=
  p.code :: p.identifier :: (octets16 (4 + UInt16.ofNat p.data.length) ++ p.data)

def toPpp (protocol : UInt16) (p : ControlPacket) : PppPacket := ⟨protocol, p.toBytes⟩

end ControlPacket

/-! ### Options -/

/-- An option: type and value (`LcpOption`, `IpcpOption`). -/
structure ControlOption where
  optType : UInt8
  data : Bytes
  deriving DecidableEq, Repr

/-- The options of a packet's data, up to the first whose length is wrong: at most `fuel` rounds. -/
def parseOptionsLoop : ℕ → Bytes → List ControlOption
  | fuel + 1, optType :: optLen :: rest =>
    if optLen.toNat < 2 ∨ optLen.toNat > rest.length + 2 then []
    else ⟨optType, rest.take (optLen.toNat - 2)⟩ :: parseOptionsLoop fuel (rest.drop (optLen.toNat - 2))
  | _, _ => []

def parseOptions (data : Bytes) : List ControlOption := parseOptionsLoop data.length data

def serializeOptions (opts : List ControlOption) : Bytes :=
  opts.flatMap fun opt => opt.optType :: UInt8.ofNat (2 + opt.data.length) :: opt.data

def u32Of : Bytes → Option UInt32
  | [a, b, c, d] => some (be32 a b c d)
  | _ => none

/-! ### The automaton -/

/-- State of a negotiation (`LcpState`, `IpcpState`). -/
inductive ControlState where
  | closed
  | requestSent
  | ackReceived
  | ackSent
  | opened
  deriving DecidableEq, Repr

structure Automaton where
  state : ControlState := .closed
  nextId : UInt8 := 1
  peerAcked : Bool := false
  weAcked : Bool := false
  lastRequestId : Option UInt8 := none
  lastRequestData : Bytes := []
  lastAckedPeerRequestData : Bytes := []
  restartTicksRemaining : UInt16 := 0
  configureRestarts : ℕ := 0
  maxConfigureRestarts : ℕ := defaultMaxConfigureRestarts
  configureFailed : Bool := false
  deriving DecidableEq, Repr

namespace Automaton

def allocId (a : Automaton) : UInt8 × Automaton := (a.nextId, { a with nextId := a.nextId + 1 })

def updateState (a : Automaton) : Automaton :=
  { a with
    state := match a.weAcked, a.peerAcked with
      | true, true => .opened
      | true, false => .ackSent
      | false, true => .ackReceived
      | false, false => a.state }

def sendConfigureRequest (a : Automaton) (data : Bytes) : ControlPacket × Automaton :=
  let (id, a) := a.allocId
  (⟨configureRequest, id, data⟩,
    { a with
      lastRequestId := some id
      lastRequestData := data
      restartTicksRemaining := configureRestartTicks
      state := .requestSent
      configureFailed := false })

/-- The restart timer. `stopped` are the states in which it does not run. -/
def maybeRetransmit (stopped : List ControlState) (a : Automaton) : Option ControlPacket × Automaton :=
  if a.state ∈ stopped then (none, a)
  else
    match a.lastRequestId with
    | none => (none, a)
    | some id =>
      if a.restartTicksRemaining > 0 then (none, { a with restartTicksRemaining := a.restartTicksRemaining - 1 })
      else
        let a := { a with configureRestarts := min (a.configureRestarts + 1) (2 ^ 32 - 1) }
        if a.configureRestarts > a.maxConfigureRestarts then
          (none,
            { a with
              state := .closed
              peerAcked := false
              weAcked := false
              lastRequestId := none
              lastRequestData := []
              restartTicksRemaining := 0
              configureFailed := true })
        else
          (some ⟨configureRequest, id, a.lastRequestData⟩,
            { a with restartTicksRemaining := configureRestartTicks })

def forget (a : Automaton) : Automaton :=
  { a with
    peerAcked := false
    weAcked := false
    lastRequestId := none
    lastRequestData := []
    lastAckedPeerRequestData := []
    restartTicksRemaining := 0 }

def ackPeer (a : Automaton) (data : Bytes) : Automaton :=
  { a with weAcked := true, lastAckedPeerRequestData := data }

def acks (a : Automaton) (p : ControlPacket) : Bool :=
  a.lastRequestId == some p.identifier && p.data == a.lastRequestData

end Automaton

end OneXBts.Packet.Ppp
