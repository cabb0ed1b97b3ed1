import OneXBts.Packet.PppAutomaton
import OneXBts.Packet.PppFrame

/-!
The Link Control Protocol (`ppp/lcp.rs`).

A Configure-Request is evaluated option by option and answered with a Configure-Ack, -Nak or -Reject; a Configure-Ack is
accepted when it repeats our last request; after a Configure-Nak or -Reject we send a changed one. Log lines are left out,
and so are the calls that set the state from outside (`force_open`, `restore_open_state`) and the keepalive timer.
-/

namespace OneXBts.Packet.Lcp

open Lib Packet.Ppp

/-! ### Options -/

def echoRequest : UInt8 := 9
def echoReply : UInt8 := 10
def discardRequest : UInt8 := 11

def defaultRequestedRxAccm : UInt32 := 0x00000000

def optMru : UInt8 := 1
def optAccm : UInt8 := 2
def optMagicNumber : UInt8 := 5
def optPfc : UInt8 := 7
def optAcfc : UInt8 := 8

def supportedOptions : List UInt8 := [optMru, optAccm, optMagicNumber, optPfc, optAcfc]

structure NegotiatedOptions where
  peerSendsPfc : Bool := false
  peerSendsAcfc : Bool := false
  weSendPfc : Bool := false
  weSendAcfc : Bool := false
  txAccm : UInt32 := 0xFFFFFFFF
  rxAccm : UInt32 := 0xFFFFFFFF
  deriving DecidableEq, Repr

def rotateLeft13 (v : UInt32) : UInt32 := (v <<< 13) ||| (v >>> 19)

/-- The value that a Configure-Nak suggests in place of our own magic number. -/
def otherMagic (magic : UInt32) : UInt32 := rotateLeft13 magic ^^^ 0x5A5A5A5A

/-- What becomes of an option of the peer: it is acknowledged, answered with another value, or rejected. -/
inductive Verdict where
  | ack
  | nak (suggested : ControlOption)
  | reject
  deriving DecidableEq, Repr

/-- The verdict on one option. A magic number that equals ours may be our own request looped back. -/
def evaluateOption (magic : UInt32) (opt : ControlOption) : Verdict :=
  if opt.optType = optMru then .ack
  else if opt.optType = optAccm then .ack
  else if opt.optType = optMagicNumber then
    if u32Of opt.data = some magic then .nak ⟨optMagicNumber, octets32 (otherMagic magic)⟩ else .ack
  else if opt.optType = optPfc then .ack
  else if opt.optType = optAcfc then .ack
  else .reject

def rejectOpts (magic : UInt32) (opts : List ControlOption) : List ControlOption :=
  opts.filter fun opt => evaluateOption magic opt = .reject

def nakOpts (magic : UInt32) (opts : List ControlOption) : List ControlOption :=
  opts.filterMap fun opt =>
    match evaluateOption magic opt with
    | .nak suggested => some suggested
    | _ => none

def recordPeerOption (n : NegotiatedOptions) (opt : ControlOption) : NegotiatedOptions :=
  if opt.optType = optAccm then
    match u32Of opt.data with
    | some accm => { n with txAccm := accm }
    | none => n
  else if opt.optType = optPfc then { n with peerSendsPfc := true }
  else if opt.optType = optAcfc then { n with peerSendsAcfc := true }
  else n

def recordOurOption (n : NegotiatedOptions × Bool) (opt : ControlOption) : NegotiatedOptions × Bool :=
  if opt.optType = optAccm then
    match u32Of opt.data with
    | some accm => ({ n.1 with rxAccm := accm }, n.2)
    | none => n
  else if opt.optType = optMagicNumber then
    if opt.data.length = 4 then (n.1, true) else n
  else if opt.optType = optPfc then ({ n.1 with weSendPfc := true }, n.2)
  else if opt.optType = optAcfc then ({ n.1 with weSendAcfc := true }, n.2)
  else n

/-- Put a suggestion in place of the first option of its type; `none` when there is none. -/
def replaceOption (suggested : ControlOption) : List ControlOption → Option (List ControlOption)
  | [] => none
  | opt :: opts =>
    if opt.optType = suggested.optType then some (suggested :: opts)
    else (replaceOption suggested opts).map (opt :: ·)

/-- The options of our next request after a Configure-Nak. A suggestion for an option that we did not send is
taken up when it is one that we implement. -/
def applyNakOptions (currentData nakData : Bytes) : List ControlOption :=
  (parseOptions nakData).foldl (fun opts suggested =>
    match replaceOption suggested opts with
    | some opts => opts
    | none => if suggested.optType ∈ supportedOptions then opts ++ [suggested] else opts)
    (parseOptions currentData)

/-! ### The session -/

structure LcpSession extends Automaton where
  ourMru : UInt16 := 1500
  ourMagic : UInt32
  /-- The peer has acknowledged a request of ours with a magic number. -/
  magicNegotiated : Bool := false
  negotiated : NegotiatedOptions := {}
  /-- Identifier of the outstanding Echo-Request. -/
  echoPendingId : Option UInt8 := none
  echoFailures : UInt8 := 0
  deriving DecidableEq, Repr

def ppp (p : ControlPacket) : PppPacket := p.toPpp lcpProtocol

namespace LcpSession

def new (magic : UInt32) : LcpSession where
  ourMagic := magic

def ourRequestOptions (s : LcpSession) : List ControlOption :=
  [⟨optMru, octets16 s.ourMru⟩, ⟨optAccm, octets32 defaultRequestedRxAccm⟩, ⟨optMagicNumber, octets32 s.ourMagic⟩,
    ⟨optPfc, []⟩, ⟨optAcfc, []⟩]

def sendConfigureRequest (s : LcpSession) (data : Bytes) : PppPacket × LcpSession :=
  let (p, a) := s.toAutomaton.sendConfigureRequest data
  (ppp p, { s with toAutomaton := a })

def start (s : LcpSession) : PppPacket × LcpSession := s.sendConfigureRequest (serializeOptions s.ourRequestOptions)

def maybeRetransmitConfigureRequest (s : LcpSession) : Option PppPacket × LcpSession :=
  let (p, a) := s.toAutomaton.maybeRetransmit [.closed, .opened]
  (p.map ppp, { s with toAutomaton := a })

def updateState (s : LcpSession) : LcpSession := { s with toAutomaton := s.toAutomaton.updateState }

def echoMagic (s : LcpSession) : UInt32 := if s.magicNegotiated then s.ourMagic else 0

def applyPeerAckToOurOptions (s : LcpSession) (opts : List ControlOption) : LcpSession :=
  let n := opts.foldl recordOurOption
    ({ s.negotiated with rxAccm := 0xFFFFFFFF, weSendPfc := false, weSendAcfc := false }, s.magicNegotiated)
  { s with negotiated := n.1, magicNegotiated := n.2 }

/-- A changed request in Opened: the peer restarts the negotiation, and we send our request first. -/
def restart (s : LcpSession) : PppPacket × LcpSession :=
  { s with
    toAutomaton := { s.toAutomaton.forget with state := .requestSent }
    magicNegotiated := false
    negotiated := {} }.start

/-- Evaluate a request and answer it. A rejected or suggested option leaves everything but the state as it
is. -/
def answerConfigureRequest (s : LcpSession) (lcp : ControlPacket) : PppPacket × LcpSession :=
  let opts := parseOptions lcp.data
  let rejects := rejectOpts s.ourMagic opts
  let naks := nakOpts s.ourMagic opts
  if rejects ≠ [] then (ppp ⟨configureReject, lcp.identifier, serializeOptions rejects⟩, s.updateState)
  else if naks ≠ [] then (ppp ⟨configureNak, lcp.identifier, serializeOptions naks⟩, s.updateState)
  else
    (ppp ⟨configureAck, lcp.identifier, lcp.data⟩,
      { s with
        negotiated := opts.foldl recordPeerOption s.negotiated
        toAutomaton := s.toAutomaton.ackPeer lcp.data }.updateState)

def receiveConfigureRequest (s : LcpSession) (lcp : ControlPacket) : List PppPacket × LcpSession :=
  if s.state = .opened ∧ lcp.data = s.lastAckedPeerRequestData then
    -- a duplicate: the peer has not seen our Configure-Ack
    ([ppp ⟨configureAck, lcp.identifier, lcp.data⟩], s)
  else if s.state = .opened then
    let (request, s) := s.restart
    let (answer, s) := s.answerConfigureRequest lcp
    ([request, answer], s)
  else
    let (answer, s) := s.answerConfigureRequest lcp
    ([answer], s)

def receiveConfigureAck (s : LcpSession) (lcp : ControlPacket) : List PppPacket × LcpSession :=
  if !s.acks lcp then ([], s)
  else
    let s := s.applyPeerAckToOurOptions (parseOptions lcp.data)
    ([], { s with peerAcked := true, restartTicksRemaining := configureRestartTicks }.updateState)

def adoptMagic (magic : UInt32) (opt : ControlOption) : UInt32 :=
  if opt.optType = optMagicNumber then (u32Of opt.data).getD magic else magic

def receiveConfigureNak (s : LcpSession) (lcp : ControlPacket) : List PppPacket × LcpSession :=
  if s.lastRequestId ≠ some lcp.identifier then ([], s)
  else
    let opts := applyNakOptions s.lastRequestData lcp.data
    let s := { s with ourMagic := opts.foldl adoptMagic s.ourMagic, peerAcked := false }
    let (request, s) := s.sendConfigureRequest (serializeOptions opts)
    ([request], s.updateState)

def receiveConfigureReject (s : LcpSession) (lcp : ControlPacket) : List PppPacket × LcpSession :=
  if s.lastRequestId ≠ some lcp.identifier then ([], s)
  else
    let rejectedTypes := (parseOptions lcp.data).map (·.optType)
    let kept := (parseOptions s.lastRequestData).filter fun opt => opt.optType ∉ rejectedTypes
    let (request, s) := { s with peerAcked := false }.sendConfigureRequest (serializeOptions kept)
    ([request], s.updateState)

def receiveEchoRequest (s : LcpSession) (lcp : ControlPacket) : List PppPacket × LcpSession :=
  ([ppp ⟨echoReply, lcp.identifier, octets32 s.echoMagic ++ lcp.data.drop 4⟩], s)

def receiveEchoReply (s : LcpSession) (lcp : ControlPacket) : List PppPacket × LcpSession :=
  if s.echoPendingId = some lcp.identifier then ([], { s with echoPendingId := none, echoFailures := 0 })
  else ([], s)

def receiveTerminateRequest (s : LcpSession) (lcp : ControlPacket) : List PppPacket × LcpSession :=
  ([ppp ⟨terminateAck, lcp.identifier, []⟩],
    { s with
      toAutomaton := { s.toAutomaton.forget with state := .closed, configureFailed := false }
      magicNegotiated := false
      negotiated := {} })

def rejectCode (s : LcpSession) (payload : Bytes) : List PppPacket × LcpSession :=
  let (id, a) := s.toAutomaton.allocId
  ([ppp ⟨codeReject, id, payload.take codeRejectMaxData⟩], { s with toAutomaton := a })

def receive (s : LcpSession) (p : PppPacket) : List PppPacket × LcpSession :=
  match ControlPacket.parse p.payload with
  | none => ([], s)
  | some lcp =>
    if lcp.code = configureRequest then s.receiveConfigureRequest lcp
    else if lcp.code = configureAck then s.receiveConfigureAck lcp
    else if lcp.code = configureNak then s.receiveConfigureNak lcp
    else if lcp.code = configureReject then s.receiveConfigureReject lcp
    else if lcp.code = echoRequest then s.receiveEchoRequest lcp
    else if lcp.code = echoReply then s.receiveEchoReply lcp
    else if lcp.code = terminateRequest then s.receiveTerminateRequest lcp
    else if lcp.code = discardRequest then ([], s)
    else if lcp.code = codeReject then ([], s)
    else s.rejectCode p.payload

end LcpSession

end OneXBts.Packet.Lcp
