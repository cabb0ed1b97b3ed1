import OneXBts.Packet.PppAutomaton
import OneXBts.Packet.Vj

/-!
The IP Control Protocol (`ppp/ipcp.rs`).

A value that is not the configured one is answered with the configured one, up to Max-Failure times; an unknown option is
rejected; an IP-Address option that is missing is suggested. Log lines are left out, and so are the calls that set the state
from outside (`restore_open_state`, `restart_for_simple_ip`, `reassign_peer_ip`). Of the Mobile IP configuration only
`enabled` is read.
-/

namespace OneXBts.Packet.Ipcp

open Lib Packet.Ppp Packet.Vj

def ipcpProtocol : UInt16 := 0x8021

/-- After this many Configure-Naks for an option without a Configure-Ack it is rejected. -/
def maxFailure : ℕ := 5

def ipcpOptIpCompression : UInt8 := 2
def optIpAddress : UInt8 := 3
def optMobileIpv4 : UInt8 := 4
def optPrimaryDns : UInt8 := 129
def optSecondaryDns : UInt8 := 131

structure IpcpConfig where
  ourIp : UInt32 := 0x0A000001
  peerIp : UInt32 := 0x0A000002
  primaryDns : UInt32 := 0x0A370001
  secondaryDns : UInt32 := 0x0A370001
  enableUplinkVjCompression : Bool := false
  enableDownlinkVjCompression : Bool := false
  mobileIpEnabled : Bool := false
  deriving DecidableEq, Repr

def ipToBytes (addr : UInt32) : Bytes := octets32 addr

def bytesToIp (data : Bytes) : Option UInt32 := u32Of data

def parseVjOption (data : Bytes) : Option VjCompressionOptions :=
  ((parseOptions data).find? fun opt => opt.optType = ipcpOptIpCompression).bind fun opt =>
    VjCompressionOptions.fromIpcpData opt.data

/-! ### The session -/

structure IpcpSession extends Automaton where
  config : IpcpConfig
  /-- Configure-Naks for each option since the last Configure-Ack. -/
  consecutiveNaksSent : UInt8 → ℕ := fun _ => 0
  requestLocalIp : Bool := true
  requestVj : Bool
  requestedVj : VjCompressionOptions := {}
  peerVj : Option VjCompressionOptions := none
  localVj : Option VjCompressionOptions := none

def ppp (p : ControlPacket) : PppPacket := p.toPpp ipcpProtocol

def assigned (config : IpcpConfig) (optType : UInt8) : Option UInt32 :=
  if optType = optIpAddress then some config.peerIp
  else if optType = optPrimaryDns then some config.primaryDns
  else if optType = optSecondaryDns then some config.secondaryDns
  else none

def peerNak (config : IpcpConfig) (opt : ControlOption) : Option ControlOption :=
  (assigned config opt.optType).bind fun ip =>
    if bytesToIp opt.data ≠ some ip then some ⟨opt.optType, ipToBytes ip⟩ else none

/-- An option that is not supported, Mobile-IPv4 among them. -/
def isRejected (config : IpcpConfig) (opt : ControlOption) : Bool :=
  if (assigned config opt.optType).isSome then false
  else if opt.optType = ipcpOptIpCompression then
    !config.enableDownlinkVjCompression || (VjCompressionOptions.fromIpcpData opt.data).isNone
  else true

namespace IpcpSession

def new (config : IpcpConfig) : IpcpSession where
  config := config
  requestVj := config.enableUplinkVjCompression

def ourRequestData (s : IpcpSession) : Bytes :=
  serializeOptions
    ((if s.requestLocalIp then [⟨optIpAddress, ipToBytes s.config.ourIp⟩] else []) ++
      if s.requestVj then [⟨ipcpOptIpCompression, s.requestedVj.toIpcpData⟩] else [])

def sendConfigureRequest (s : IpcpSession) (data : Bytes) : PppPacket × IpcpSession :=
  let (p, a) := s.toAutomaton.sendConfigureRequest data
  (ppp p, { s with toAutomaton := a })

def start (s : IpcpSession) : PppPacket × IpcpSession := s.sendConfigureRequest s.ourRequestData

/-- Unlike in LCP the timer does not run in Ack-Received. -/
def maybeRetransmitConfigureRequest (s : IpcpSession) : Option PppPacket × IpcpSession :=
  let (p, a) := s.toAutomaton.maybeRetransmit [.closed, .opened, .ackReceived]
  (p.map ppp, { s with toAutomaton := a })

def updateState (s : IpcpSession) : IpcpSession := { s with toAutomaton := s.toAutomaton.updateState }

def nakCount (s : IpcpSession) (optType : UInt8) : ℕ := s.consecutiveNaksSent optType

/-- A Configure-Nak that Max-Failure turns into a Configure-Reject. The peer's address is not given up in
Simple IP. -/
def converts (s : IpcpSession) (opt : ControlOption) : Bool :=
  !(opt.optType == optIpAddress && !s.config.mobileIpEnabled) && decide (s.nakCount opt.optType ≥ maxFailure)

/-- The address, suggested to a peer that did not ask for one. -/
def appended (s : IpcpSession) (opts : List ControlOption) : List ControlOption :=
  if !opts.any (·.optType == optIpAddress) && !s.config.mobileIpEnabled &&
      decide (s.nakCount optIpAddress < maxFailure) then
    [⟨optIpAddress, ipToBytes s.config.peerIp⟩]
  else []

/-- The options that are rejected: those that are not supported, and those that were answered with a
Configure-Nak too often. -/
def rejectsOf (s : IpcpSession) (opts : List ControlOption) : List ControlOption :=
  opts.filter (isRejected s.config) ++
    ((opts.filterMap (peerNak s.config)).filter s.converts).filterMap fun opt =>
      opts.find? fun o => o.optType = opt.optType

def naksOf (s : IpcpSession) (opts : List ControlOption) : List ControlOption :=
  (opts.filterMap (peerNak s.config)).filter (fun opt => !s.converts opt) ++ s.appended opts

def countNak (n : UInt8 → ℕ) (opt : ControlOption) : UInt8 → ℕ := Function.update n opt.optType (n opt.optType + 1)

/-- A changed request in Opened: the peer restarts the negotiation, and we send our request first. -/
def restart (s : IpcpSession) : PppPacket × IpcpSession :=
  { s with
    toAutomaton := { s.toAutomaton.forget with state := .requestSent }
    consecutiveNaksSent := fun _ => 0
    requestLocalIp := true
    requestVj := s.config.enableUplinkVjCompression
    requestedVj := {}
    peerVj := none
    localVj := none }.start

def answerConfigureRequest (s : IpcpSession) (ipcp : ControlPacket) : PppPacket × IpcpSession :=
  let opts := parseOptions ipcp.data
  let rejects := s.rejectsOf opts
  let naks := s.naksOf opts
  if rejects ≠ [] then
    (ppp ⟨configureReject, ipcp.identifier, serializeOptions rejects⟩,
      { s with weAcked := false, peerVj := none }.updateState)
  else if naks = [] then
    (ppp ⟨configureAck, ipcp.identifier, ipcp.data⟩,
      { s with
        toAutomaton := s.toAutomaton.ackPeer ipcp.data
        peerVj := parseVjOption ipcp.data
        consecutiveNaksSent := fun _ => 0 }.updateState)
  else
    -- the flag of an earlier Configure-Ack stays
    (ppp ⟨configureNak, ipcp.identifier, serializeOptions naks⟩,
      { s with
        consecutiveNaksSent := naks.foldl countNak s.consecutiveNaksSent
        peerVj := none }.updateState)

def receiveConfigureRequest (s : IpcpSession) (ipcp : ControlPacket) : List PppPacket × IpcpSession :=
  if s.state = .opened ∧ ipcp.data = s.lastAckedPeerRequestData then
    -- a duplicate: the peer has not seen our Configure-Ack
    ([ppp ⟨configureAck, ipcp.identifier, ipcp.data⟩], s)
  else if s.state = .opened then
    let (request, s) := s.restart
    let (answer, s) := s.answerConfigureRequest ipcp
    ([request, answer], s)
  else
    let (answer, s) := s.answerConfigureRequest ipcp
    ([answer], s)

def receiveConfigureAck (s : IpcpSession) (ipcp : ControlPacket) : List PppPacket × IpcpSession :=
  if !s.acks ipcp then ([], s)
  else
    ([], { s with peerAcked := true, localVj := parseVjOption ipcp.data, restartTicksRemaining := 0 }.updateState)

/-- The compression options that the peer suggests are taken up, and compression is given up when they are not
readable. The address is kept. -/
def adoptVj (s : IpcpSession) (opt : ControlOption) : IpcpSession :=
  if opt.optType = ipcpOptIpCompression then
    match VjCompressionOptions.fromIpcpData opt.data with
    | some vj => { s with requestedVj := vj }
    | none => { s with requestVj := false }
  else s

def receiveConfigureNak (s : IpcpSession) (ipcp : ControlPacket) : List PppPacket × IpcpSession :=
  if s.lastRequestId ≠ some ipcp.identifier then ([], s)
  else
    let s := (parseOptions ipcp.data).foldl adoptVj s
    let data := s.ourRequestData
    let (request, s) := { s with peerAcked := false, localVj := none }.sendConfigureRequest data
    ([request], s.updateState)

def dropOption (s : IpcpSession) (opt : ControlOption) : IpcpSession :=
  let s := if opt.optType = optIpAddress then { s with requestLocalIp := false } else s
  if opt.optType = ipcpOptIpCompression then { s with requestVj := false } else s

def receiveConfigureReject (s : IpcpSession) (ipcp : ControlPacket) : List PppPacket × IpcpSession :=
  if s.lastRequestId ≠ some ipcp.identifier then ([], s)
  else
    let s := { (parseOptions ipcp.data).foldl dropOption s with peerAcked := false, localVj := none }
    let (request, s) := s.sendConfigureRequest s.ourRequestData
    ([request], s.updateState)

def receiveTerminateRequest (s : IpcpSession) (ipcp : ControlPacket) : List PppPacket × IpcpSession :=
  ([ppp ⟨terminateAck, ipcp.identifier, []⟩],
    { s with
      toAutomaton := { s.toAutomaton.forget with state := .closed, configureFailed := false }
      consecutiveNaksSent := fun _ => 0
      requestLocalIp := true
      requestVj := s.config.enableUplinkVjCompression
      requestedVj := {}
      peerVj := none
      localVj := none })

def receiveTerminateAck (s : IpcpSession) : List PppPacket × IpcpSession :=
  ([], { s with toAutomaton := { s.toAutomaton.forget with state := .closed }, peerVj := none, localVj := none })

def rejectCode (s : IpcpSession) (payload : Bytes) : List PppPacket × IpcpSession :=
  let (id, a) := s.toAutomaton.allocId
  ([ppp ⟨codeReject, id, payload.take codeRejectMaxData⟩], { s with toAutomaton := a })

def receive (s : IpcpSession) (p : PppPacket) : List PppPacket × IpcpSession :=
  match ControlPacket.parse p.payload with
  | none => ([], s)
  | some ipcp =>
    if ipcp.code = configureRequest then s.receiveConfigureRequest ipcp
    else if ipcp.code = configureAck then s.receiveConfigureAck ipcp
    else if ipcp.code = configureNak then s.receiveConfigureNak ipcp
    else if ipcp.code = configureReject then s.receiveConfigureReject ipcp
    else if ipcp.code = terminateRequest then s.receiveTerminateRequest ipcp
    else if ipcp.code = terminateAck then s.receiveTerminateAck
    else if ipcp.code = codeReject then ([], s)
    else s.rejectCode p.payload

end IpcpSession

end OneXBts.Packet.Ipcp
