import OneXBts.Hlr.CaveAuth

/-!
The authentication procedures the MSC runs on the traffic channel of a call (`authentication.rs`), one at a time: an SSD
update with the base station challenge in it, a unique challenge, an update of the call history count. Each function is given
what the HLR answered and the random numbers it draws. The A1 messages are of fixed sizes, so encoding one never fails.
-/

namespace OneXBts.Msc

open Lib Hlr

/-! ### Policy -/

inductive AuthenticationMode where
  | off
  | monitor
  | enforce
deriving Repr, DecidableEq

inductive SsdUpdatePolicy where
  | never
  | whenNeeded
  | everyCall
deriving Repr, DecidableEq

inductive VoicePrivacyPolicy where
  | optional
  | never
  | always
deriving Repr, DecidableEq

structure AuthenticationConfig where
  mode : AuthenticationMode
  voicePrivacy : VoicePrivacyPolicy
  ssdUpdate : SsdUpdatePolicy
  uniqueChallengeOnCall : Bool
  countUpdateOnCall : Bool
  procedureTimeoutMs : ℕ
deriving Repr, DecidableEq

structure EncryptionInformation where
  mask : UInt64
  active : Bool
deriving Repr, DecidableEq

def VoicePrivacyPolicy.encryptionInformation (policy : VoicePrivacyPolicy)
    (keys : Option CallKeyMaterial) (handsetRequested : Bool) : Option EncryptionInformation :=
  if policy = .never then none
  else keys.map fun keys => ⟨keys.privateLongCodeMask, policy == .always || handsetRequested⟩

/-! ### The identity of a call -/

inductive AuthenticationResult where
  | notRequested
  | success
  | signatureMismatch
  | countMismatch
  | notProvisioned
  | parametersMissing
  | randMismatch
  | hlrError
deriving Repr, DecidableEq

structure CallAuthContext (Identity : Type) where
  identity : Identity
  imsi : String
  esn : UInt32
  globalResult : AuthenticationResult
deriving Repr, DecidableEq

def encodeThreeDigits (d₁ d₂ d₃ : ℕ) : ℕ :=
  let v := fun d => if d = 0 then 10 else d
  100 * v d₁ + 10 * v d₂ + v d₃ - 111

/-- The last ten digits of an IMSI in 24 and 10 bits. -/
def imsiSFromImsi (imsi : String) : Option (UInt32 × UInt16) :=
  let digits := (imsi.toList.filter Char.isDigit).map fun c => c.toNat - '0'.toNat
  if digits.isEmpty ∨ digits.length > 15 then none
  else
    match (List.replicate (15 - digits.length) 0 ++ digits).drop 5 with
    | [a, b, c, d, e, f, g, h, i, j] =>
      some (UInt32.ofNat (encodeThreeDigits d e f * 2 ^ 14 + (if g = 0 then 10 else g) * 2 ^ 10 +
        encodeThreeDigits h i j), UInt16.ofNat (encodeThreeDigits a b c))
    | _ => none

/-! ### The procedures of a call -/

inductive TrafficProcedure where
  | ssdUpdate
  | uniqueChallenge
  | countUpdate
deriving Repr, DecidableEq

inductive TrafficAwaiting where
  | baseStationChallenge
  | ssdUpdateResponse
  | authenticationResponse (randu : UInt32)
  | parameterUpdateConfirm
deriving Repr, DecidableEq

def TrafficAwaiting.procedure : TrafficAwaiting → TrafficProcedure
  | .baseStationChallenge | .ssdUpdateResponse => .ssdUpdate
  | .authenticationResponse _ => .uniqueChallenge
  | .parameterUpdateConfirm => .countUpdate

/-- The result of a procedure, as it is reported. -/
inductive ReportedResult where
  | success
  | signatureMismatch
  | notProvisioned
  | parametersMissing
  | hlrError
  | ssdUpdateRejected
  | timeout
deriving Repr, DecidableEq

inductive TrafficMessage where
  | ssdUpdateRequest (randssd : Bytes)
  | authenticationRequest (randu : UInt32)
  | parameterUpdateRequest
  | baseStationChallengeResponse (authbs : UInt32)
deriving Repr, DecidableEq

inductive TrafficAction where
  | send (message : TrafficMessage)
  | report (procedure : TrafficProcedure) (result : ReportedResult) (clearCall : Bool)
  | done
deriving Repr, DecidableEq

structure TrafficAuthentication (Identity : Type) where
  context : CallAuthContext Identity
  baseStation : String
  pending : List TrafficProcedure
  awaiting : Option TrafficAwaiting
  deadline : ℕ
  /-- A failed or unanswered unique challenge clears the call in every mode. -/
  strict : Bool
deriving Repr, DecidableEq

def RANDU_MASK : UInt32 := ((1 : UInt32) <<< 24) - 1
def RANDOM_NUMBER_TYPE_RANDSSD : UInt8 := 0b0100

namespace TrafficAuthentication

variable {Identity : Type}

def needsSsdUpdate (policy : SsdUpdatePolicy) (result : AuthenticationResult) (ssdUnset : Bool) : Bool :=
  match policy with
  | .never => false
  | .whenNeeded => ssdUnset || result == .signatureMismatch
  | .everyCall => true

def procedures (config : AuthenticationConfig) (result : AuthenticationResult) (ssdUnset : Bool) :
    List TrafficProcedure :=
  let failed := result == .signatureMismatch || result == .countMismatch
  let ssdUpdate := needsSsdUpdate config.ssdUpdate result ssdUnset
  (if ssdUpdate then [.ssdUpdate] else []) ++
  (if ssdUpdate || failed || config.uniqueChallengeOnCall then [.uniqueChallenge] else []) ++
  (if config.countUpdateOnCall then [.countUpdate] else [])

def plan (config : AuthenticationConfig) (context : CallAuthContext Identity) (baseStation : String)
    (ssdUnset : Bool) (now : ℕ) : Option (TrafficAuthentication Identity) :=
  let pending := procedures config context.globalResult ssdUnset
  if pending.isEmpty ∨ context.globalResult = .notProvisioned then none
  else some ⟨context, baseStation, pending, none, now, false⟩

def provisioningChallenge (context : CallAuthContext Identity) (baseStation : String) (now : ℕ) :
    TrafficAuthentication Identity :=
  ⟨context, baseStation, [.uniqueChallenge], none, now, true⟩

def ssdUpdateOnly (context : CallAuthContext Identity) (baseStation : String) (now : ℕ) :
    TrafficAuthentication Identity :=
  ⟨context, baseStation, [.ssdUpdate], none, now, false⟩

def arm (t : TrafficAuthentication Identity) (config : AuthenticationConfig) (now : ℕ)
    (awaiting : TrafficAwaiting) : TrafficAuthentication Identity :=
  { t with awaiting := some awaiting, deadline := now + config.procedureTimeoutMs }

/-- Start the next procedure. `randssd` is the number the HLR draws for an SSD update, if it can
start one, and `random` the one drawn here for a unique challenge. -/
def advance (t : TrafficAuthentication Identity) (config : AuthenticationConfig) (now : ℕ)
    (randssd : Option UInt64) (random : UInt32) : TrafficAuthentication Identity × TrafficAction :=
  match t.pending with
  | [] => ({ t with awaiting := none }, .done)
  | .ssdUpdate :: pending =>
    let t := { t with awaiting := none, pending }
    match randssd with
    | none => (t, .report .ssdUpdate .hlrError false)
    | some randssd =>
      (t.arm config now .baseStationChallenge, .send (.ssdUpdateRequest
        (RANDOM_NUMBER_TYPE_RANDSSD :: (octets32 (randssd >>> 32).toUInt32).drop 1 ++
          octets32 randssd.toUInt32)))
  | .uniqueChallenge :: pending =>
    let randu := random &&& RANDU_MASK
    ({ t with pending }.arm config now (.authenticationResponse randu),
      .send (.authenticationRequest randu))
  | .countUpdate :: pending =>
    ({ t with pending }.arm config now .parameterUpdateConfirm, .send .parameterUpdateRequest)

/-- The HLR is told to forget the update, whatever it answers. -/
def failSsdUpdate (t : TrafficAuthentication Identity) (result : ReportedResult) :
    TrafficAuthentication Identity × TrafficAction :=
  ({ t with pending := t.pending.filter (· ≠ .uniqueChallenge), awaiting := none },
    .report .ssdUpdate result false)

/-- `authbs` is the HLR's answer to the challenge of the mobile. -/
def onBaseStationChallenge (t : TrafficAuthentication Identity) (config : AuthenticationConfig)
    (now : ℕ) (authbs : Option UInt32) : TrafficAuthentication Identity × TrafficAction :=
  if t.awaiting ≠ some .baseStationChallenge then (t, .done)
  else match imsiSFromImsi t.context.imsi, authbs with
    | none, _ => t.failSsdUpdate .parametersMissing
    | some _, some authbs => (t.arm config now .ssdUpdateResponse, .send (.baseStationChallengeResponse authbs))
    | some _, none => t.failSsdUpdate .hlrError

/-- `finished` tells whether the HLR took the new SSD. -/
def onSsdUpdateResponse (t : TrafficAuthentication Identity) (confirmed finished : Bool) :
    TrafficAuthentication Identity × TrafficAction :=
  if t.awaiting ≠ some .ssdUpdateResponse then (t, .done)
  else if !confirmed then t.failSsdUpdate .ssdUpdateRejected
  else if finished then ({ t with awaiting := none }, .report .ssdUpdate .success false)
  else t.failSsdUpdate .hlrError

def uniqueChallenge (t : TrafficAuthentication Identity) (randu authu : UInt32) :
    Option UniqueChallenge :=
  (imsiSFromImsi t.context.imsi).map fun imsiS => ⟨t.context.esn, randu, authu, imsiS.1, imsiS.2, false⟩

def reportedOutcome : CaveAuthOutcome → ReportedResult
  | .success => .success
  | .signatureMismatch | .countMismatch => .signatureMismatch
  | .notProvisioned => .notProvisioned

/-- `verify` is the HLR: what it answers to a unique challenge, if it answers. -/
def onAuthenticationResponse (t : TrafficAuthentication Identity) (config : AuthenticationConfig)
    (authu : UInt32) (verify : UniqueChallenge → Option CaveAuthOutcome) :
    TrafficAuthentication Identity × TrafficAction :=
  match t.awaiting with
  | some (.authenticationResponse randu) =>
    let report := fun result : ReportedResult => TrafficAction.report .uniqueChallenge result
      (result != .success && (t.strict || config.mode == .enforce))
    ({ t with awaiting := none },
      match t.uniqueChallenge randu authu with
      | none => report .parametersMissing
      | some challenge =>
        match verify challenge with
        | some outcome => report (reportedOutcome outcome)
        | none => report .hlrError)
  | _ => (t, .done)

def onParameterUpdateConfirm (t : TrafficAuthentication Identity) (incremented : Bool) :
    TrafficAuthentication Identity × TrafficAction :=
  if t.awaiting ≠ some .parameterUpdateConfirm then (t, .done)
  else ({ t with awaiting := none },
    .report .countUpdate (if incremented then .success else .hlrError) false)

def onTimeout (t : TrafficAuthentication Identity) : TrafficAuthentication Identity × TrafficAction :=
  match t.awaiting with
  | none => (t, .done)
  | some awaiting =>
    if awaiting.procedure = .ssdUpdate then t.failSsdUpdate .timeout
    else ({ t with awaiting := none }, .report awaiting.procedure .timeout t.strict)

end TrafficAuthentication

end OneXBts.Msc
