import OneXBts.Msc.Authentication

/-!
The calls of the MSC as far as authentication and voice privacy go (`runtime.rs`, `runtime/access.rs`).

The state is what the tables hold of one call. An operation is given what it is answered from outside: by the HLR, the A1
interface, the provisioning coordinator, the time and the random numbers. What goes out, and what else has to be remembered,
is a list of events, oldest first.
-/

namespace OneXBts.Msc

open Lib Hlr

/-! ### State -/

inductive MscVoiceLeg where
  | primary
  | secondary
deriving Repr, DecidableEq

structure HeldAssignment where
  completedCircuitId : Option UInt16
  completedLeg : Option MscVoiceLeg
deriving Repr, DecidableEq

/-- What the tables of the MSC hold of one call. -/
structure CallState (Identity : Type) where
  /-- The call is one to provision a mobile over the air. -/
  pendingOtapa : Bool
  callKeys : Option CallKeyMaterial
  privacyDeadline : Option ℕ
  pendingPrivacy : Option EncryptionInformation
  privacyAuthenticated : Bool
  trafficAuthStarted : Bool
  callAuthContext : Option (CallAuthContext Identity)
  trafficAuth : Option (TrafficAuthentication Identity)
  pendingSsd : Bool
  heldAssignment : Option HeldAssignment
  /-- The mobile a held call dials, and the calling number. -/
  heldM2mCallee : Option (Identity × Option String)
  provisioningAuthorized : Bool
  provisioningChallenge : Option (CallAuthContext Identity)
  provisioningHold : Option HeldAssignment
deriving Repr, DecidableEq

inductive CallEvent (Identity : Type) where
  /-- An access set the context of the call. -/
  | contextSet
  /-- Procedures start on the traffic channel. -/
  | started
  /-- A message of a procedure is given to the A1 interface, which may refuse it. -/
  | sent (message : TrafficMessage) (accepted : Bool)
  /-- The HLR is asked to verify a unique challenge. -/
  | verified (challenge : UniqueChallenge) (outcome : Option CaveAuthOutcome)
  | reported (procedure : TrafficProcedure) (result : ReportedResult)
  | assignmentRequest (info : Option EncryptionInformation)
  | privacyModeCommand (info : EncryptionInformation)
  | clearCommand
  /-- The provisioning session of the call is told the result of its SSD update. -/
  | otaspSsdUpdateFinished (ok : Bool)
  /-- The mobile the call dials is called. -/
  | calleeStarted (destination : Identity) (callingNumber : Option String)
  /-- The assignment of a call that was not held goes on. -/
  | continued (completed : HeldAssignment)
  /-- A held call connects. -/
  | released (held : HeldAssignment)
  /-- A provisioning session that was not held starts. -/
  | provisioningFired (completed : HeldAssignment)
  /-- A held provisioning session starts. -/
  | provisioningReleased (held : HeldAssignment)
deriving Repr, DecidableEq

structure SubscriberAuthState where
  credentialsProvisioned : Bool
  ssdProvisioned : Bool
deriving Repr, DecidableEq

/-- What is answered from outside in one round of an operation. -/
structure Answers where
  now : ℕ
  /-- The HLR's lookup of the subscriber; none if it fails, and nothing found inside. -/
  authState : Option (Option SubscriberAuthState)
  /-- The HLR's number for an SSD update, if it can start one. -/
  randssd : Option UInt64
  random : UInt32
  /-- The A1 interface takes a message of a procedure. -/
  accepted : Bool
  /-- The A1 interface takes a Privacy Mode Command. -/
  privacyAccepted : Bool
  /-- A provisioning session owns the call. -/
  ownsCall : Bool

def PRIVACY_MODE_TIMEOUT : ℕ := 15000

def ssdUnset : Option (Option SubscriberAuthState) → Bool
  | some (some state) => state.credentialsProvisioned && !state.ssdProvisioned
  | _ => false

namespace CallState

variable {Identity : Type}

def new (pendingOtapa : Bool) : CallState Identity where
  pendingOtapa := pendingOtapa
  callKeys := none
  privacyDeadline := none
  pendingPrivacy := none
  privacyAuthenticated := false
  trafficAuthStarted := false
  callAuthContext := none
  trafficAuth := none
  pendingSsd := false
  heldAssignment := none
  heldM2mCallee := none
  provisioningAuthorized := false
  provisioningChallenge := none
  provisioningHold := none

def stopMediaForCall (_ : CallState Identity) : CallState Identity := new false

/-! ### Voice privacy -/

/-- The encryption information of an Assignment Request. An active private long code waits for the
authentication on the traffic channel. -/
def assignmentPrivacy (call : CallState Identity) (config : AuthenticationConfig)
    (handsetRequested : Bool) : CallState Identity × Option EncryptionInformation :=
  match config.voicePrivacy.encryptionInformation call.callKeys handsetRequested with
  | none => ({ call with pendingPrivacy := none }, none)
  | some info =>
    if info.active && !call.privacyAuthenticated then
      ({ call with pendingPrivacy := some info }, some ⟨info.mask, false⟩)
    else ({ call with pendingPrivacy := none }, some info)

def sendPrivacyCommand (call : CallState Identity) (info : EncryptionInformation) (a : Answers) :
    CallState Identity × List (CallEvent Identity) :=
  ({ call with
      privacyDeadline := if a.privacyAccepted then some (a.now + PRIVACY_MODE_TIMEOUT)
        else call.privacyDeadline },
    [.privacyModeCommand info])

def settlePrivacy (call : CallState Identity) (procedure : TrafficProcedure) (result : ReportedResult)
    (a : Answers) : CallState Identity × List (CallEvent Identity) :=
  if procedure = .uniqueChallenge then
    if result = .success then
      let authenticated := { call with privacyAuthenticated := true, pendingPrivacy := none }
      match call.pendingPrivacy with
      | some info => authenticated.sendPrivacyCommand info a
      | none => (authenticated, [])
    else ({ call with pendingPrivacy := none }, [])
  else (call, [])

/-! ### The procedures on the traffic channel -/

def withTrafficAuth (call : CallState Identity) (t : TrafficAuthentication Identity) :
    CallState Identity := { call with trafficAuth := some t }

def withoutTrafficAuth (call : CallState Identity) : CallState Identity := { call with trafficAuth := none }

def prepare (call : CallState Identity) (config : AuthenticationConfig) (node : String) (a : Answers) :
    Option (CallState Identity × TrafficAction) :=
  if call.trafficAuth.isSome || (call.trafficAuthStarted && call.pendingPrivacy.isNone) then none
  else do
    let context ← call.callAuthContext
    let planned ← TrafficAuthentication.plan
      { config with
        uniqueChallengeOnCall := config.uniqueChallengeOnCall || call.pendingPrivacy.isSome }
      context node (ssdUnset a.authState) a.now
    let r := planned.advance config a.now a.randssd a.random
    pure ({ call with trafficAuthStarted := true }.withTrafficAuth r.1, r.2)

/-- A held call must not fail an SSD update or a unique challenge. -/
def heldFailed (call : CallState Identity) (procedure : TrafficProcedure) (result : ReportedResult) :
    Bool :=
  result != .success && (procedure == .ssdUpdate || procedure == .uniqueChallenge) &&
    call.heldAssignment.isSome

def refuse (call : CallState Identity) : CallState Identity :=
  { call with
    trafficAuth := none
    heldAssignment := none
    provisioningHold := none
    provisioningAuthorized := call.provisioningAuthorized && call.provisioningHold.isNone }

def dropFinished (call : CallState Identity) : CallState Identity :=
  if call.trafficAuth.any (·.awaiting.isNone) then call.withoutTrafficAuth else call

/-- The base station to challenge the mobile through once more, for a private long code that waits. -/
def restartNode (call : CallState Identity) : Option String :=
  if call.pendingPrivacy.isSome && !call.privacyAuthenticated then call.trafficAuth.map (·.baseStation)
  else none

def release (call : CallState Identity) : CallState Identity × List (CallEvent Identity) :=
  match call.provisioningHold with
  | some held => ({ call with provisioningHold := none }, [.provisioningReleased held])
  | none =>
    match call.heldAssignment with
    | some held =>
      ({ call with heldAssignment := none, heldM2mCallee := none },
        (call.heldM2mCallee.toList.map fun callee => .calleeStarted callee.1 callee.2) ++
          [.released held])
    | none => (call, [])

/-- Carry out what a procedure asks for; a report leads to the next procedure. `answers` are those of
the rounds to come. -/
def applyTrafficAction (config : AuthenticationConfig) :
    ℕ → (ℕ → Answers) → CallState Identity → TrafficAction → CallState Identity × List (CallEvent Identity)
  | 0, _, call, _ => (call, [])
  | _ + 1, answers, call, .send message =>
    (if (answers 0).accepted then call else call.withoutTrafficAuth,
      [.sent message (answers 0).accepted])
  | fuel + 1, answers, call, .report procedure result clearCall =>
    match call.trafficAuth with
    | none => (call, [])
    | some entry =>
      if clearCall || call.heldFailed procedure result then
        (call.refuse, [.reported procedure result, .clearCommand])
      else if procedure = .ssdUpdate ∧ (answers 0).ownsCall then
        (call.withoutTrafficAuth,
          [.reported procedure result, .otaspSsdUpdateFinished (result == .success)])
      else
        let settled := call.settlePrivacy procedure result (answers 0)
        let next := entry.advance config (answers 0).now (answers 0).randssd (answers 0).random
        let r := applyTrafficAction config fuel (fun n => answers (n + 1))
          (settled.1.withTrafficAuth next.1) next.2
        (r.1, .reported procedure result :: (settled.2 ++ r.2))
  | fuel + 1, answers, call, .done =>
    let restarted : CallState Identity × List (CallEvent Identity) :=
      match call.restartNode.bind fun node => call.dropFinished.prepare config node (answers 0) with
      | some prepared =>
        let r := applyTrafficAction config fuel (fun n => answers (n + 1)) prepared.1 prepared.2
        (r.1, .started :: r.2)
      | none => (call.dropFinished, [])
    (restarted.1.release.1, restarted.2 ++ restarted.1.release.2)

def rounds (call : CallState Identity) : ℕ := call.trafficAuth.elim 0 (·.pending.length) + 5

def applyAction (call : CallState Identity) (config : AuthenticationConfig) (answers : ℕ → Answers)
    (action : TrafficAction) : CallState Identity × List (CallEvent Identity) :=
  applyTrafficAction config call.rounds answers call action

def startTrafficAuthentication (call : CallState Identity) (config : AuthenticationConfig)
    (answers : ℕ → Answers) (node : String) : CallState Identity × List (CallEvent Identity) :=
  match call.prepare config node (answers 0) with
  | some prepared =>
    let r := prepared.1.applyAction config (fun n => answers (n + 1)) prepared.2
    (r.1, .started :: r.2)
  | none => (call, [])

/-- Hold a call that failed the global challenge until an SSD update and a unique challenge on its
traffic channel pass. -/
def holdUntilAuthenticated (call : CallState Identity) (config : AuthenticationConfig)
    (answers : ℕ → Answers) (node : String) (held : HeldAssignment) :
    CallState Identity × List (CallEvent Identity) :=
  let r := call.startTrafficAuthentication config answers node
  if r.1.trafficAuth.isNone then (r.1, r.2 ++ [.clearCommand])
  else ({ r.1 with heldAssignment := some held }, r.2)

def holdForProvisioningChallenge (call : CallState Identity) (config : AuthenticationConfig)
    (answers : ℕ → Answers) (node : String) (held : HeldAssignment) :
    Option (CallState Identity × List (CallEvent Identity)) :=
  call.provisioningChallenge.map fun context =>
    let next := (TrafficAuthentication.provisioningChallenge context node (answers 0).now).advance
      config (answers 0).now (answers 0).randssd (answers 0).random
    let r := ({ call with
      provisioningChallenge := none
      trafficAuthStarted := true
      provisioningHold := some held }.withTrafficAuth next.1).applyAction config
        (fun n => answers (n + 1)) next.2
    (r.1, .started :: r.2)

def startOtaspSsdUpdate (call : CallState Identity) (config : AuthenticationConfig)
    (answers : ℕ → Answers) (context : CallAuthContext Identity) :
    CallState Identity × List (CallEvent Identity) :=
  let next := (TrafficAuthentication.ssdUpdateOnly context "" (answers 0).now).advance
    config (answers 0).now (answers 0).randssd (answers 0).random
  let r := (call.withTrafficAuth next.1).applyAction config (fun n => answers (n + 1)) next.2
  (r.1, .started :: r.2)

end CallState

/-! ### Replies and timers -/

inductive TrafficReply where
  | baseStationChallenge (randbs : UInt32)
  | ssdUpdateResponse (confirmed : Bool)
  | authenticationResponse (authu : UInt32)
  | parameterUpdateConfirm
deriving Repr, DecidableEq

/-- What the HLR answers when a reply is handled. -/
structure ReplyAnswers where
  authbs : (randbs : UInt32) → Option UInt32
  finished : Bool
  verify : UniqueChallenge → Option CaveAuthOutcome
  incremented : Bool

namespace TrafficAuthentication

variable {Identity : Type}

def onReply (t : TrafficAuthentication Identity) (config : AuthenticationConfig) (now : ℕ)
    (hlr : ReplyAnswers) : TrafficReply → TrafficAuthentication Identity × TrafficAction
  | .baseStationChallenge randbs => t.onBaseStationChallenge config now (hlr.authbs randbs)
  | .ssdUpdateResponse confirmed => t.onSsdUpdateResponse confirmed hlr.finished
  | .authenticationResponse authu => t.onAuthenticationResponse config authu hlr.verify
  | .parameterUpdateConfirm => t.onParameterUpdateConfirm hlr.incremented

def verification (t : TrafficAuthentication Identity) (hlr : ReplyAnswers) :
    TrafficReply → List (CallEvent Identity)
  | .authenticationResponse authu =>
    match t.awaiting with
    | some (.authenticationResponse randu) =>
      ((t.uniqueChallenge randu authu).map fun challenge => .verified challenge (hlr.verify challenge)).toList
    | _ => []
  | _ => []

def asked (t : TrafficAuthentication Identity) : TrafficReply → Bool
  | .baseStationChallenge _ => t.awaiting == some .baseStationChallenge
  | .ssdUpdateResponse _ => t.awaiting == some .ssdUpdateResponse
  | .authenticationResponse _ => t.awaiting.any (·.procedure == .uniqueChallenge)
  | .parameterUpdateConfirm => t.awaiting == some .parameterUpdateConfirm

end TrafficAuthentication

namespace CallState

variable {Identity : Type}

def handleTrafficAuthenticationReply (call : CallState Identity) (config : AuthenticationConfig)
    (answers : ℕ → Answers) (reply : TrafficReply) (hlr : ReplyAnswers) :
    CallState Identity × List (CallEvent Identity) :=
  match call.trafficAuth with
  | none => (call, [])
  | some entry =>
    let next := entry.onReply config (answers 0).now hlr reply
    let r := (call.withTrafficAuth next.1).applyAction config (fun n => answers (n + 1)) next.2
    (r.1, entry.verification hlr reply ++ r.2)

def overdue (call : CallState Identity) (now : ℕ) : Option (TrafficAuthentication Identity) :=
  call.trafficAuth.filter fun entry => entry.awaiting.isSome && decide (entry.deadline ≤ now)

def tickTrafficAuthentication (call : CallState Identity) (config : AuthenticationConfig)
    (answers : ℕ → Answers) : CallState Identity × List (CallEvent Identity) :=
  let expired := call.privacyDeadline.any fun deadline => decide (deadline ≤ (answers 0).now)
  let swept := if expired then { call with privacyDeadline := none } else call
  let cleared := if expired then [CallEvent.clearCommand] else []
  match swept.overdue (answers 0).now with
  | none => (swept, cleared)
  | some entry =>
    let r := (swept.withTrafficAuth entry.onTimeout.1).applyAction config
      (fun n => answers (n + 1)) entry.onTimeout.2
    (r.1, cleared ++ r.2)

end CallState

/-! ### Accesses and assignments -/

/-- What the global challenge of an access came to. -/
structure AuthenticationDecision (Identity : Type) where
  result : AuthenticationResult
  /-- The HLR has an A-key an SSD update can start from. -/
  recoverable : Bool
  callKeys : Option CallKeyMaterial
  subject : Option (Identity × String × UInt32)

namespace AuthenticationDecision

variable {Identity : Type}

def pendingSsdUpdate (d : AuthenticationDecision Identity) (config : AuthenticationConfig) : Bool :=
  config.mode == .enforce && d.result == .signatureMismatch && d.recoverable

def context (d : AuthenticationDecision Identity) : Option (CallAuthContext Identity) :=
  if d.result = .notRequested then none
  else d.subject.map fun subject => ⟨subject.1, subject.2.1, subject.2.2, d.result⟩

end AuthenticationDecision

/-- What an assignment that is complete was for. -/
inductive AssignedService where
  | voice
  | shortMessage
  | provisioning
  | nonVoice
deriving Repr, DecidableEq

namespace CallState

variable {Identity : Type}

def onAccess (call : CallState Identity) (config : AuthenticationConfig) (otaspOrigination : Bool)
    (decision : AuthenticationDecision Identity) : CallState Identity × List (CallEvent Identity) :=
  let provisioning := call.pendingOtapa || otaspOrigination
  let admitted := { call with
    pendingSsd := call.pendingSsd || (decision.pendingSsdUpdate config && !provisioning)
    callKeys := decision.callKeys.or call.callKeys }
  match if provisioning then none else decision.context with
  | some context =>
    ({ admitted with
        privacyAuthenticated := false
        trafficAuthStarted := false
        callAuthContext := some context }, [.contextSet])
  | none => (admitted, [])

/-- The mobile to provision answers; it may have to be challenged first. -/
def onOtapaAuthorized (call : CallState Identity) (challenge : Option (CallAuthContext Identity)) :
    CallState Identity :=
  if call.pendingOtapa then
    { call with
      provisioningChallenge := challenge.or call.provisioningChallenge
      provisioningAuthorized := true }
  else call

def onM2mDestination (call : CallState Identity) (destination : Identity)
    (callingNumber : Option String) : CallState Identity × List (CallEvent Identity) :=
  if call.pendingSsd then ({ call with heldM2mCallee := some (destination, callingNumber) }, [])
  else (call, [.calleeStarted destination callingNumber])

def onAssignmentComplete (call : CallState Identity) (config : AuthenticationConfig)
    (answers : ℕ → Answers) (service : AssignedService) (node : String) (completed : HeldAssignment) :
    CallState Identity × List (CallEvent Identity) :=
  if service = .shortMessage then (call.stopMediaForCall, [])
  else if call.pendingOtapa then
    (call.holdForProvisioningChallenge config answers node completed).getD
      (call, [.provisioningFired completed])
  else
    match service with
    | .provisioning => (call, [.provisioningFired completed])
    | .nonVoice => (call.stopMediaForCall, [])
    | _ =>
      if call.pendingSsd then { call with pendingSsd := false }.holdUntilAuthenticated config answers node completed
      else
        let r := call.startTrafficAuthentication config answers node
        (r.1, r.2 ++ [.continued completed])

def onPrivacyModeComplete (call : CallState Identity) (config : AuthenticationConfig)
    (answers : ℕ → Answers) (requested : Bool) (node : String) :
    CallState Identity × List (CallEvent Identity) :=
  let completed := { call with privacyDeadline := none }
  if !requested then (completed, [])
  else
    let info := (config.voicePrivacy.encryptionInformation call.callKeys true).getD ⟨0, false⟩
    if info.active && !call.privacyAuthenticated then
      { completed with pendingPrivacy := some info }.startTrafficAuthentication config answers node
    else completed.sendPrivacyCommand info (answers 0)

end CallState

/-- What happens to a call. The assignment of a second leg, which follows when an assignment goes on, is
an assignment of its own. -/
inductive CallInput (Identity : Type) where
  | access (otaspOrigination : Bool) (decision : AuthenticationDecision Identity)
  | otapaAuthorized (challenge : Option (CallAuthContext Identity))
  | m2mDestination (destination : Identity) (callingNumber : Option String)
  | assignment (handsetRequested : Bool)
  | assignmentComplete (service : AssignedService) (node : String) (completed : HeldAssignment)
  | privacyModeComplete (requested : Bool) (node : String)
  | otaspSsdUpdate (context : CallAuthContext Identity)
  | reply (reply : TrafficReply) (hlr : ReplyAnswers)
  | tick
  | stop

def CallState.step {Identity : Type} (config : AuthenticationConfig) (call : CallState Identity)
    (answers : ℕ → Answers) : CallInput Identity → CallState Identity × List (CallEvent Identity)
  | .access otaspOrigination decision => call.onAccess config otaspOrigination decision
  | .otapaAuthorized challenge => (call.onOtapaAuthorized challenge, [])
  | .m2mDestination destination callingNumber => call.onM2mDestination destination callingNumber
  | .assignment handsetRequested =>
    ((call.assignmentPrivacy config handsetRequested).1,
      [.assignmentRequest (call.assignmentPrivacy config handsetRequested).2])
  | .assignmentComplete service node completed => call.onAssignmentComplete config answers service node completed
  | .privacyModeComplete requested node => call.onPrivacyModeComplete config answers requested node
  | .otaspSsdUpdate context => call.startOtaspSsdUpdate config answers context
  | .reply reply hlr => call.handleTrafficAuthenticationReply config answers reply hlr
  | .tick => call.tickTrafficAuthentication config answers
  | .stop => (call.stopMediaForCall, [])

end OneXBts.Msc
