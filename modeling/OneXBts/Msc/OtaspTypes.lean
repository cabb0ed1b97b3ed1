import OneXBts.Otasp.Message

/-!
What a provisioning session is made of (`otasp/session.rs`, `otasp/event.rs`, `otasp/nam.rs`).

The codecs of the NAM blocks and of the roaming lists, and the assembly of a NAM, are parameters (`BlockCodecs`): the session
only asks whether they succeed and reads a few fields. Texts for the operator are left out; a reason is a constructor of
`SkipReason`.
-/

namespace OneXBts.Msc

open Lib Otasp

/-! ### Configuration and input -/

structure OtaspWritesConfig where
  cdmaAnalogNam : Bool
  mdn : Bool
  cdmaNam : Bool
  homeSystemTag : Bool
  mmsUri : Bool
  prl : Bool
  aKey : Bool
deriving Repr, DecidableEq

structure OtaspConfig where
  mmsUri : Bytes
  writes : OtaspWritesConfig
deriving Repr, DecidableEq

structure HardwareIdentity where
  esn : Option UInt32
  meid : Option String
deriving Repr, DecidableEq

structure ResolvedPrlMeta where
  prListId : UInt16
  ssprPRev : UInt8
deriving Repr, DecidableEq

structure ResolvedSubscriberInput where
  prlBytes : Option Bytes
  prlMeta : Option ResolvedPrlMeta
  serviceProgrammingCode : Option Bytes
deriving Repr, DecidableEq

structure NamReadback where
  scm : UInt8
  mobPRev : UInt8
  maxSidNid : UInt8
  slottedMode : Bool
  ex : Bool
  localControl : Bool
  firstchp : UInt16
deriving Repr, DecidableEq

def NamReadback.empty : NamReadback := ⟨0, 0, 0, false, false, false, 0⟩

structure NamCdmaAnalog where
  scm : UInt8
  mobPRev : UInt8
  maxSidNid : UInt8
  ex : Bool
  localControl : Bool
  firstchp : UInt16
deriving Repr, DecidableEq

structure NamCdma where
  mobPRev : UInt8
  maxSidNid : UInt8
  slottedMode : Bool
  localControl : Bool
deriving Repr, DecidableEq

structure AssembledNam where
  cdmaAnalog : Option Bytes
  mdn : Option Bytes
  cdma : Option Bytes
  homeSystemTag : Option Bytes
deriving Repr, DecidableEq

structure DecodedPrl where
  prListId : ℕ
  crcOk : Bool
deriving Repr, DecidableEq

/-- The codecs of the parameter blocks, for the subscriber and the home network of the session. -/
structure BlockCodecs where
  namCdmaAnalog : Bytes → Option NamCdmaAnalog
  namCdma : Bytes → Option NamCdma
  assembleNam : NamReadback → Option AssembledNam
  prl : Bytes → Option DecodedPrl
  prlExt : Bytes → Option DecodedPrl

/-! ### Events and requests -/

inductive BlockFeature where
  | nam
  | systemTag
  | mmsUri
  | prl
deriving Repr, DecidableEq

inductive SessionOutcomeKind where
  | committed
  | nothingToCommit
  | spcRejected
  | hlrUnknown
  | rejected
  | noCapacity
  | protocolError
  | timedOut
  | keyExchangeFailed
deriving Repr, DecidableEq

inductive AKeyStep where
  | requested
  | msKeyResponse
  | keyGenerationResponse
  | keyDerived
  | ssdUpdate
  | reAuthentication
  | committed
  | skipped
deriving Repr, DecidableEq

inductive AKeySkipReason where
  | keyOnFileVerified
  | keyOnFileUnverified
  | keyOnFileNotChecked
deriving Repr, DecidableEq

inductive SkipReason where
  | spasmUnavailable
  | spasmRejected
  | deliveryFailure (cause : UInt8)
  | featureNotAdvertised (featureId : UInt8)
  | responseDecodeFailed
  | blockNotReturned
  | blockDecodeFailed
  | encoderFailure
  | noPrlBytes
  | noSubscriber
deriving Repr, DecidableEq

inductive PrlOutcome where
  | decoded (prl : DecodedPrl)
  | decodedExtended (prl : DecodedPrl) (rawBytes : Bytes)
  | absent
  | featureNotAdvertised
  | rejected (blockId resultCode : UInt8)
  | decodeFailed (rawBytes : Bytes)
deriving Repr, DecidableEq

structure PrlReadback where
  prListId : Option ℕ
  maxPrListSize : ℕ
  curPrListSize : ℕ
  segmentCount : ℕ
  outcome : PrlOutcome
deriving Repr, DecidableEq

inductive OtaspEvent where
  | sessionStart (device : HardwareIdentity) (featureCode : String) (serviceOption : UInt16)
  | protocolCapabilityReceived (response : ProtocolCapabilityResponse) (otaspPRev : Option UInt8)
  | stationClassMark (raw : UInt8)
  | spcVerified
  | spcMismatch
  | timeout (phase : String)
  | hlrMiss (device : HardwareIdentity)
  | noNamCapacity (blockId : UInt8) (feature : BlockFeature)
  | blockSkipped (blockId : UInt8) (reason : SkipReason) (feature : BlockFeature)
  | namReadback (blockId : UInt8) (feature : BlockFeature)
  | prlReadback (readback : PrlReadback)
  | blockDownloaded (blockId resultCode : UInt8) (feature : BlockFeature)
  | blockRejected (blockId resultCode : UInt8) (feature : BlockFeature)
  | commitResult (resultCode : UInt8)
  | aKeyProgress (step : AKeyStep) (success : Bool) (aKeyPRev : UInt8) (resultCode : Option UInt8)
    (skipReason : Option AKeySkipReason)
  | sessionEnded (completedBlocks : ℕ) (outcome : SessionOutcomeKind)
deriving Repr, DecidableEq

/-- The steps that need the HLR or an SSD update on the traffic channel. -/
inductive OtaspAuthRequest where
  | validateSpasm (randOtapa : UInt32)
  | beginKeyExchange (aKeyPRev : UInt8)
  | completeKeyExchange (msResult : Bytes)
  | ssdUpdate
  | verifyReauthentication (rand : UInt32) (response : ReAuthenticateResponse)
  | commitKey
  | abortKeyExchange
deriving Repr, DecidableEq

structure KeyExchangeOffer where
  aKeyPRev : UInt8
  params : Option (Bytes × Bytes)
  bsResult : Bytes
deriving Repr, DecidableEq

inductive Effect where
  | send (message : OtaspMessage)
  | emit (event : OtaspEvent)
  | request (request : OtaspAuthRequest)
deriving Repr, DecidableEq

/-! ### The state of a session -/

inductive AKeyProgress where
  | notPlanned
  | planned (aKeyPRev : UInt8)
  | exchanging (bsResult : Bytes)
  | ready
  | abandoned
  | skipped
deriving Repr, DecidableEq

structure SessionOutcome where
  kind : SessionOutcomeKind
  completedBlocks : ℕ
deriving Repr, DecidableEq

inductive StepResult where
  | continue
  | terminal (kind : SessionOutcomeKind)
deriving Repr, DecidableEq

def BLOCK_CDMA_ANALOG_NAM : UInt8 := 0x00
def BLOCK_MDN : UInt8 := 0x01
def BLOCK_CDMA_NAM : UInt8 := 0x02
def BLOCK_HOME_SYSTEM_TAG : UInt8 := 0x00
def BLOCK_MMS_URI : UInt8 := 0x00
def BLOCK_PRL_CLASSIC : UInt8 := 0x00
def BLOCK_PRL_EXTENDED : UInt8 := 0x01
def VBLOCK_VERIFY_SPC : UInt8 := 0x00
def VBLOCK_VALIDATE_SPASM : UInt8 := 0x02

def FEATURE_NAM_DOWNLOAD : UInt8 := 0x00
def FEATURE_KEY_EXCHANGE : UInt8 := 0x01
def FEATURE_SSPR : UInt8 := 0x02
def FEATURE_OTASP : UInt8 := 0x04
def FEATURE_SYSTEM_TAG_DOWNLOAD : UInt8 := 0x09
def FEATURE_MMS : UInt8 := 0x0A

def A_KEY_P_REV_2G : UInt8 := 0b00000010
def A_KEY_P_REV_2G_3G : UInt8 := 0b00000011

def PRL_SEGMENT_LIMIT : ℕ := 64
def PRL_SEGMENT_REQUEST_SIZE : UInt8 := 200
def PRL_DOWNLOAD_SEGMENT_SIZE : ℕ := 200
def PRL_DOWNLOAD_SEGMENT_LIMIT : ℕ := 64

inductive WriteTarget where
  | cdmaAnalogNam
  | mdn
  | cdmaNam
  | homeSystemTag
  | mmsUri
  | prl
deriving Repr, DecidableEq

namespace WriteTarget

def blockId : WriteTarget → UInt8
  | cdmaAnalogNam => BLOCK_CDMA_ANALOG_NAM
  | mdn => BLOCK_MDN
  | cdmaNam => BLOCK_CDMA_NAM
  | homeSystemTag => BLOCK_HOME_SYSTEM_TAG
  | mmsUri => BLOCK_MMS_URI
  | prl => BLOCK_PRL_CLASSIC

def feature : WriteTarget → BlockFeature
  | cdmaAnalogNam | mdn | cdmaNam => .nam
  | homeSystemTag => .systemTag
  | mmsUri => .mmsUri
  | prl => .prl

def neededFeature : WriteTarget → UInt8
  | cdmaAnalogNam | mdn | cdmaNam => FEATURE_NAM_DOWNLOAD
  | homeSystemTag => FEATURE_SYSTEM_TAG_DOWNLOAD
  | mmsUri => FEATURE_MMS
  | prl => FEATURE_SSPR

end WriteTarget

structure PlanStep where
  target : WriteTarget
  doDownload : Bool
deriving Repr, DecidableEq

inductive Phase where
  | awaitingOtapaStart
  | awaitingSpasmSignature
  | awaitingSpasmValidation
  | awaitingProtocolCapability
  | awaitingValidation
  | awaitingPrlDimensions
  | awaitingPrlExtendedDimensions
  | awaitingPrlSegment
  | awaitingNamConfig (target : WriteTarget)
  | awaitingNamDownload (target : WriteTarget)
  | awaitingSystemTagConfig
  | awaitingSystemTagDownload
  | awaitingMmsConfig
  | awaitingMmsDownload
  | awaitingSsprDownloadResponse
  | awaitingKeyExchangeOffer
  | awaitingMsKeyResponse
  | awaitingKeyGenerationResponse
  | awaitingKeyExchangeCompletion
  | awaitingSsdUpdate
  | awaitingReAuthenticateResponse (rand : UInt32)
  | awaitingReauthenticationVerdict
  | awaitingCommit
  | terminated
deriving Repr, DecidableEq

/-- What has been fetched of the mobile's roaming list. -/
structure PrlFetchState where
  dimensions : Option PrlDimensions
  buffer : Bytes
  nextOffset : UInt16
  segmentsFetched : ℕ
  curSsprPRev : UInt8
deriving Repr, DecidableEq

def PrlFetchState.empty : PrlFetchState := ⟨none, [], 0, 0, 1⟩

structure PrlPushState where
  blockId : UInt8
  bytes : Bytes
  nextOffset : UInt16
  segmentsSent : ℕ
deriving Repr, DecidableEq

inductive SessionInitiation where
  | user
  | network
deriving Repr, DecidableEq

structure OtaspSession where
  cfg : OtaspConfig
  device : HardwareIdentity
  featureCode : String
  serviceOption : UInt16
  hlr : Option ResolvedSubscriberInput
  readback : Option NamReadback
  plan : List PlanStep
  planIdx : ℕ
  completedBlocks : ℕ
  phase : Phase
  aKeyPRev : UInt8
  advertisedFeatures : List UInt8
  prlFetch : Option PrlFetchState
  prlPush : Option PrlPushState
  aKey : AKeyProgress
deriving Repr, DecidableEq

/-- The blocks a session reads, and writes where the configuration says so. -/
def initialPlan (cfg : OtaspConfig) (hlr : Option ResolvedSubscriberInput) : List PlanStep :=
  [⟨.cdmaAnalogNam, cfg.writes.cdmaAnalogNam⟩, ⟨.mdn, cfg.writes.mdn⟩,
    ⟨.cdmaNam, cfg.writes.cdmaNam⟩] ++
  (if cfg.writes.homeSystemTag then [⟨.homeSystemTag, true⟩] else []) ++
  (if cfg.writes.mmsUri && !cfg.mmsUri.isEmpty then [⟨.mmsUri, true⟩] else []) ++
  (if cfg.writes.prl && (hlr.bind (·.prlBytes)).any (!·.isEmpty) then [⟨.prl, true⟩] else [])

def OtaspSession.new (cfg : OtaspConfig) (device : HardwareIdentity) (featureCode : String)
    (serviceOption : UInt16) (hlr : Option ResolvedSubscriberInput) : OtaspSession where
  cfg := cfg
  device := device
  featureCode := featureCode
  serviceOption := serviceOption
  hlr := hlr
  readback := none
  plan := initialPlan cfg hlr
  planIdx := 0
  completedBlocks := 0
  phase := .awaitingProtocolCapability
  aKeyPRev := 0
  advertisedFeatures := []
  prlFetch := none
  prlPush := none
  aKey := if cfg.writes.aKey then .planned A_KEY_P_REV_2G else .notPlanned

end OneXBts.Msc
