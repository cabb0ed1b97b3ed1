import Mathlib.Data.List.AList
import OneXBts.Msc.Authentication
import OneXBts.Msc.OtaspSteps

/-!
The coordinator of the provisioning sessions (`otasp/coordinator.rs`, `otasp/history.rs`).

It owns the sessions by device, hands their messages to the A1 interface with a tag each, feeds messages, failed deliveries
and the answers of the HLR back into them, and keeps the record of every session. What the HLR answers is given with the
operation; times are milliseconds. Records are numbered in the order they are opened; `saved` has gone to the HLR, `sent` to
the A1 interface, oldest first.
-/

namespace OneXBts.Msc

open Lib Otasp

/-! ### Sessions and records -/

inductive SessionKey where
  | esn (esn : UInt32)
  | meid (meid : String)
deriving Repr, DecidableEq

structure SessionEntry (Identity : Type) where
  initiation : SessionInitiation
  codecs : BlockCodecs
  session : OtaspSession
  callId : ℕ
  recordId : ℕ
  lastActivity : ℕ
  lastPhase : String
  requests : List OtaspAuthRequest
  identity : Option Identity
  imsi : Option String
  airImsi : Option String
  esn : Option UInt32
  originationVerified : Option Bool

structure OtaspSsdUpdate (Identity : Type) where
  callId : ℕ
  context : CallAuthContext Identity

/-- An ADDS Deliver: the record of its session, the phase the session is in and the message. -/
structure Delivery where
  recordId : ℕ
  phase : Phase
  tag : UInt32
  message : OtaspMessage
deriving Repr, DecidableEq

structure OtaspCoordinator (Identity : Type) where
  cfg : OtaspConfig
  sessions : AList fun _ : SessionKey => SessionEntry Identity
  records : AList fun _ : ℕ => List OtaspEvent
  nextRecord : ℕ
  saved : List (ℕ × List OtaspEvent)
  pendingAcks : AList fun _ : UInt32 => SessionKey
  nextTag : UInt32
  ssdUpdates : List (OtaspSsdUpdate Identity)
  sent : List Delivery

def DEFAULT_INBOUND_TIMEOUT : ℕ := 5000
def KEY_EXCHANGE_RESPONSE_TIMEOUT : ℕ := 35000
def OTASP_TAG_NAMESPACE_BIT : UInt32 := 0x80000000
def BURST_TYPE_OTASP : UInt8 := 0x04

def hexOctet (b : UInt8) : List Char := [Nat.digitChar (b.toNat / 16), Nat.digitChar (b.toNat % 16)]

def encodeMeidHex (bytes : Bytes) : String := String.ofList (bytes.flatMap hexOctet)

def labelForLatestPhase (events : List OtaspEvent) : Option String :=
  events.reverse.findSome? fun
    | .protocolCapabilityReceived .. => some "Validation Response"
    | .spcVerified => some "Block Configuration Response"
    | .blockDownloaded blockId _ _ => some ("Block 0x" ++ String.ofList (hexOctet blockId) ++ " response")
    | .blockSkipped .. => some "Block Configuration Response"
    | .commitResult _ => some "Session release"
    | _ => none

def eventsOf (es : List Effect) : List OtaspEvent :=
  es.filterMap fun
    | .emit event => some event
    | _ => none

def messagesOf (es : List Effect) : List OtaspMessage :=
  es.filterMap fun
    | .send message => some message
    | _ => none

def requestsOf (es : List Effect) : List OtaspAuthRequest :=
  es.filterMap fun
    | .request request => some request
    | _ => none

def sessionTimeout {Identity : Type} (entry : SessionEntry Identity) (threshold : ℕ) : ℕ :=
  if entry.session.awaitedKeyExchangeResponse.isSome then max threshold KEY_EXCHANGE_RESPONSE_TIMEOUT
  else threshold

namespace OtaspCoordinator

variable {Identity : Type}

def new (cfg : OtaspConfig) : OtaspCoordinator Identity where
  cfg := cfg
  sessions := ∅
  records := ∅
  nextRecord := 0
  saved := []
  pendingAcks := ∅
  nextTag := 0
  ssdUpdates := []
  sent := []

def setEntry (c : OtaspCoordinator Identity) (key : SessionKey) (entry : SessionEntry Identity) :
    OtaspCoordinator Identity := { c with sessions := c.sessions.insert key entry }

def append (c : OtaspCoordinator Identity) (recordId : ℕ) (events : List OtaspEvent) :
    OtaspCoordinator Identity :=
  match c.records.lookup recordId with
  | some recorded => { c with records := c.records.insert recordId (recorded ++ events) }
  | none => c

def takeFinished (c : OtaspCoordinator Identity) (recordId : ℕ) : OtaspCoordinator Identity :=
  match c.records.lookup recordId with
  | some recorded => { c with records := c.records.erase recordId, saved := c.saved ++ [(recordId, recorded)] }
  | none => c

/-- Give the record of a session the network started to the HLR as it grows. -/
def persistNetworkProgress (c : OtaspCoordinator Identity) (recordId : ℕ) : OtaspCoordinator Identity :=
  if c.sessions.entries.any fun e => e.2.recordId == recordId && e.2.initiation == .network then
    match c.records.lookup recordId with
    | some recorded => { c with saved := c.saved ++ [(recordId, recorded)] }
    | none => c
  else c

def deliver (key : SessionKey) (recordId : ℕ) (phase : Phase) (c : OtaspCoordinator Identity)
    (message : OtaspMessage) : OtaspCoordinator Identity :=
  let tag := OTASP_TAG_NAMESPACE_BIT ||| (c.nextTag &&& ~~~OTASP_TAG_NAMESPACE_BIT)
  { c with
    nextTag := c.nextTag + 1
    pendingAcks := c.pendingAcks.insert tag key
    sent := c.sent ++ [⟨recordId, phase, tag, message⟩] }

def flushOutbound (c : OtaspCoordinator Identity) (key : SessionKey) (recordId : ℕ) (phase : Phase)
    (messages : List OtaspMessage) : OtaspCoordinator Identity :=
  messages.foldl (deliver key recordId phase) c

/-- What follows a call of a session: its record gets the events and A1 the messages. -/
def handOver (c : OtaspCoordinator Identity) (key : SessionKey) (entry : SessionEntry Identity)
    (now : ℕ) (t : Turn) : OtaspCoordinator Identity :=
  let events := eventsOf t.log
  let told := (c.setEntry key { entry with
    session := t.session
    lastActivity := now
    lastPhase := (labelForLatestPhase events).getD entry.lastPhase
    requests := entry.requests ++ requestsOf t.log }).append entry.recordId events
  let kept := if events.isEmpty then told else told.persistNetworkProgress entry.recordId
  kept.flushOutbound key entry.recordId t.session.phase (messagesOf t.log)

def withSession (c : OtaspCoordinator Identity) (key : SessionKey) (now : ℕ) (i : SessionInput) :
    OtaspCoordinator Identity × Option SessionOutcome :=
  match c.sessions.lookup key with
  | none => (c, none)
  | some entry =>
    (c.handOver key entry now (entry.session.call entry.codecs i).1,
      (entry.session.call entry.codecs i).2)

end OtaspCoordinator

/-! ### Requests to the HLR -/

/-- What the HLR answers in the course of an operation. -/
structure HlrAnswers (Identity : Type) where
  otapaSignature : Identity → (esn randOtapa imsiS1 : UInt32) → Option UInt32
  credentialsProvisioned : Identity → Bool
  beginKeyExchange : Identity → (aKeyPRev : UInt8) → Option KeyExchangeOffer
  completeKeyExchange : Identity → (msResult : Bytes) → Bool
  verifyReauthentication : Identity → (esn rand : UInt32) → ReAuthenticateResponse → Bool

inductive RequestAnswer (Identity : Type) where
  /-- The session is called. -/
  | call (input : SessionInput)
  /-- The session is called, and no further request is looked at. -/
  | callLast (input : SessionInput)
  /-- An SSD update is to be run on the traffic channel. -/
  | update (update : OtaspSsdUpdate Identity)
  /-- Only the HLR is told. -/
  | nothing

section Requests

variable {Identity : Type} (hlr : HlrAnswers Identity) (entry : SessionEntry Identity)

def aKeyOnFile : Option AKeySkipReason :=
  match entry.identity with
  | none => none
  | some identity =>
    if hlr.credentialsProvisioned identity then
      some (match entry.originationVerified with
        | some true => .keyOnFileVerified
        | some false => .keyOnFileUnverified
        | none => .keyOnFileNotChecked)
    else none

def spasmSignature (randOtapa : UInt32) : Option UInt32 := do
  let identity ← entry.identity
  let imsi ← entry.airImsi.orElse fun _ => entry.imsi
  let esn ← entry.esn
  let imsiS ← imsiSFromImsi imsi
  hlr.otapaSignature identity esn randOtapa imsiS.1

def answerRequest : OtaspAuthRequest → RequestAnswer Identity
  | .validateSpasm randOtapa => .call (.spasmSignature (spasmSignature hlr entry randOtapa))
  | .beginKeyExchange aKeyPRev =>
    match aKeyOnFile hlr entry with
    | some reason => .callLast (.keyExchangeSkipped reason)
    | none => .call (.keyExchangeOffer (entry.identity.bind (hlr.beginKeyExchange · aKeyPRev)))
  | .completeKeyExchange msResult =>
    .call (.keyExchangeCompleted (entry.identity.any (hlr.completeKeyExchange · msResult)))
  | .ssdUpdate =>
    match entry.identity, entry.airImsi.orElse (fun _ => entry.imsi), entry.esn with
    | some identity, some imsi, some esn => .update ⟨entry.callId, identity, imsi, esn, .success⟩
    | _, _, _ => .call (.ssdUpdateFinished false 0)
  | .verifyReauthentication rand response =>
    .call (.reauthenticationVerified (match entry.identity, entry.esn with
      | some identity, some esn => (rand >>> 24).toNat == response.randc &&
        hlr.verifyReauthentication identity esn rand response
      | _, _ => false))
  | .commitKey | .abortKeyExchange => .nothing

/-- How many requests can follow from one, itself included. -/
def requestWeight : OtaspAuthRequest → ℕ
  | .beginKeyExchange _ | .completeKeyExchange _ => 2
  | _ => 1

def requestsWeight (requests : List OtaspAuthRequest) : ℕ := (requests.map requestWeight).sum

end Requests

namespace OtaspCoordinator

variable {Identity : Type}

def processAuthRequests (hlr : HlrAnswers Identity) (key : SessionKey) (now : ℕ) :
    ℕ → OtaspCoordinator Identity → OtaspCoordinator Identity × Option SessionOutcome
  | 0, c => (c, none)
  | fuel + 1, c =>
    match c.sessions.lookup key with
    | none => (c, none)
    | some entry =>
      match entry.requests with
      | [] => (c, none)
      | request :: requests =>
        let taken := c.setEntry key { entry with requests }
        match answerRequest hlr entry request with
        | .call input =>
          let r := taken.withSession key now input
          if r.2.isSome then r else processAuthRequests hlr key now fuel r.1
        | .callLast input => taken.withSession key now input
        | .update update =>
          processAuthRequests hlr key now fuel { taken with ssdUpdates := taken.ssdUpdates ++ [update] }
        | .nothing => processAuthRequests hlr key now fuel taken

/-- The loop, with as many rounds as there can be requests. -/
def processAll (c : OtaspCoordinator Identity) (hlr : HlrAnswers Identity) (key : SessionKey) (now : ℕ) :
    OtaspCoordinator Identity × Option SessionOutcome :=
  processAuthRequests hlr key now
    (requestsWeight ((c.sessions.lookup key).elim [] (·.requests))) c

/-- The HLR is told to forget an exchange that was not committed; that changes nothing here. -/
def finalizeSession (c : OtaspCoordinator Identity) (key : SessionKey) (recordId : ℕ) :
    OtaspCoordinator Identity :=
  { c with sessions := c.sessions.erase key }.takeFinished recordId

/-! ### Operations -/

structure ResolvedSubscriber where
  input : ResolvedSubscriberInput
  imsi : String

structure BeginRequest (Identity : Type) where
  initiation : SessionInitiation
  device : HardwareIdentity
  featureCode : String
  serviceOption : UInt16
  airImsi : Option String
  originationVerified : Option Bool
  callId : ℕ
  target : Option Identity

/-- What the HLR answers when a session begins; `none` outside is a failed lookup. `identityKey` makes
an identity of its parts. -/
structure SessionLookup (Identity : Type) where
  authorized : Option ResolvedSubscriber
  byHardware : Option (Option ResolvedSubscriber)
  byIdentity : Option (Option ResolvedSubscriber)
  identityKey : (imsi : Option String) → (esn : Option UInt32) → (meid : Option String) → Option Identity
  codecs : BlockCodecs

def lookupSubscriber (request : BeginRequest Identity) (lookup : SessionLookup Identity) :
    Option (Option ResolvedSubscriber) :=
  match request.target with
  | some _ => lookup.authorized.map some
  | none =>
    some (match lookup.byHardware with
      | none => none
      | some (some subscriber) => some subscriber
      | some none =>
        match request.airImsi.bind fun imsi =>
            lookup.identityKey (some imsi) request.device.esn request.device.meid with
        | some _ => lookup.byIdentity.getD none
        | none => none)

def deviceKey (device : HardwareIdentity) : Option SessionKey :=
  match device.esn, device.meid with
  | _, some meid => some (.meid (meid.map Char.toLower))
  | some esn, none => some (.esn esn)
  | none, none => none

def beginSessionWithInitiation (c : OtaspCoordinator Identity) (request : BeginRequest Identity)
    (lookup : SessionLookup Identity) (now : ℕ) : OtaspCoordinator Identity × Bool :=
  match lookupSubscriber request lookup with
  | none => (c, false)
  | some subscriber =>
    match deviceKey request.device with
    | none => (c, false)
    | some key =>
      let imsi := (subscriber.map (·.imsi)).filter (!·.isEmpty)
      let started := (OtaspSession.new c.cfg request.device request.featureCode request.serviceOption
        (subscriber.map (·.input))).startWithInitiation request.initiation
      let recordId := c.nextRecord
      let opened := { c with
        nextRecord := c.nextRecord + 1
        records := c.records.insert recordId (eventsOf started.log) }
      let flushed := opened.flushOutbound key recordId started.session.phase (messagesOf started.log)
      ((flushed.setEntry key {
        initiation := request.initiation
        codecs := lookup.codecs
        session := started.session
        callId := request.callId
        recordId
        lastActivity := now
        lastPhase := if request.initiation = .network then "OTAPA Start" else "Protocol Capability"
        requests := requestsOf started.log
        identity := match request.target with
          | some identity => some identity
          | none => lookup.identityKey imsi request.device.esn request.device.meid
        imsi
        airImsi := request.airImsi
        esn := request.device.esn
        originationVerified := request.originationVerified }).persistNetworkProgress recordId, true)

structure AddsTransfer where
  burstType : UInt8
  meid : Option Bytes
  esn : Option UInt32
  data : Bytes

def AddsTransfer.sessionKey (msg : AddsTransfer) : Option SessionKey :=
  match msg.meid, msg.esn with
  | some meid, _ => some (.meid (encodeMeidHex meid))
  | none, some esn => some (.esn esn)
  | none, none => none

/-- An inbound message. The call to release, if the session is over. -/
def handleAddsTransfer (c : OtaspCoordinator Identity) (msg : AddsTransfer) (hlr : HlrAnswers Identity)
    (now : ℕ) : OtaspCoordinator Identity × Option ℕ :=
  if msg.burstType ≠ BURST_TYPE_OTASP then (c, none)
  else match AddsTransfer.sessionKey msg with
    | none => (c, none)
    | some key =>
      match c.sessions.lookup key with
      | none => (c, none)
      | some entry =>
        let r := c.withSession key now (.inbound msg.data)
        let followUp := r.1.processAll hlr key now
        if (r.2.or followUp.2).isSome then (followUp.1.finalizeSession key entry.recordId, some entry.callId)
        else (followUp.1, none)

/-- The base station's word on a delivery. What becomes of the session is not looked at. -/
def handleAddsDeliverAck (c : OtaspCoordinator Identity) (tag : Option UInt32) (cause : Option UInt8)
    (hlr : HlrAnswers Identity) (now : ℕ) : OtaspCoordinator Identity :=
  match tag with
  | none => c
  | some tag =>
    match c.pendingAcks.lookup tag with
    | none => c
    | some key =>
      let acked := { c with pendingAcks := c.pendingAcks.erase tag }
      match cause with
      | none => acked
      | some cause =>
        match acked.sessions.lookup key with
        | none => acked
        | some entry =>
          let r := acked.withSession key now (.dbmFailed cause)
          let followUp := r.1.processAll hlr key now
          if followUp.2.isSome then followUp.1.finalizeSession key entry.recordId else followUp.1

def onSsdUpdateFinished (c : OtaspCoordinator Identity) (callId : ℕ) (ok : Bool) (rand : UInt32)
    (hlr : HlrAnswers Identity) (now : ℕ) : OtaspCoordinator Identity × Option ℕ :=
  match c.sessions.entries.find? fun e => e.2.callId == callId with
  | none => (c, none)
  | some found =>
    let r := c.withSession found.1 now (.ssdUpdateFinished ok rand)
    let followUp := r.1.processAll hlr found.1 now
    if (r.2.or followUp.2).isSome then
      match followUp.1.sessions.lookup found.1 with
      | some entry => (followUp.1.finalizeSession found.1 entry.recordId, some callId)
      | none => (followUp.1, none)
    else (followUp.1, none)

def stale (now threshold : ℕ) (entry : SessionEntry Identity) : Bool :=
  decide (sessionTimeout entry threshold ≤ now - entry.lastActivity)

def expire (c : OtaspCoordinator Identity) (key : SessionKey) : OtaspCoordinator Identity :=
  match c.sessions.lookup key with
  | none => c
  | some entry =>
    let phase := entry.session.awaitedKeyExchangeResponse.getD entry.lastPhase
    ({ c with sessions := c.sessions.erase key }.append entry.recordId
      [.timeout phase, .sessionEnded 0 .timedOut]).takeFinished entry.recordId

def staleKeys (c : OtaspCoordinator Identity) (now threshold : ℕ) : List SessionKey :=
  (c.sessions.entries.filter fun e => stale now threshold e.2).map fun e => e.1

def tickTimeouts (c : OtaspCoordinator Identity) (now threshold : ℕ) : OtaspCoordinator Identity :=
  (c.staleKeys now threshold).foldl expire c

end OtaspCoordinator

inductive CoordinatorOp (Identity : Type) where
  | beginSession (request : OtaspCoordinator.BeginRequest Identity)
    (lookup : OtaspCoordinator.SessionLookup Identity) (now : ℕ)
  | addsTransfer (msg : OtaspCoordinator.AddsTransfer) (hlr : HlrAnswers Identity) (now : ℕ)
  | addsDeliverAck (tag : Option UInt32) (cause : Option UInt8) (hlr : HlrAnswers Identity) (now : ℕ)
  | ssdUpdateFinished (callId : ℕ) (ok : Bool) (rand : UInt32) (hlr : HlrAnswers Identity) (now : ℕ)
  | tick (now threshold : ℕ)

def OtaspCoordinator.step {Identity : Type} (c : OtaspCoordinator Identity) :
    CoordinatorOp Identity → OtaspCoordinator Identity
  | .beginSession request lookup now => (c.beginSessionWithInitiation request lookup now).1
  | .addsTransfer msg hlr now => (c.handleAddsTransfer msg hlr now).1
  | .addsDeliverAck tag cause hlr now => c.handleAddsDeliverAck tag cause hlr now
  | .ssdUpdateFinished callId ok rand hlr now => (c.onSsdUpdateFinished callId ok rand hlr now).1
  | .tick now threshold => c.tickTimeouts now threshold

end OneXBts.Msc
