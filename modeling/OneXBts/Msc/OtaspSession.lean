import OneXBts.Common.Bitstream
import OneXBts.Msc.OtaspTypes

/-!
The provisioning session of one mobile (`otasp/session.rs`).

A session walks from the Protocol Capability Request over the roaming list, the blocks of its write
plan and the A-key exchange to the Commit Request. A call of the session is a `Turn`: the session it
leaves and what it hands the transport, in order. The functions keep the source's names; the ones
that go on with the plan stand before the handlers that use them.
-/

namespace OneXBts.Msc

open Lib Common Otasp

/-! ### A turn of the session -/

/-- The session in the course of a call, and what the call has handed the transport so far. -/
structure Turn where
  session : OtaspSession
  log : List Effect
deriving Repr, DecidableEq

namespace Turn

def send (t : Turn) (message : OtaspMessage) : Turn := { t with log := t.log ++ [.send message] }
def emit (t : Turn) (event : OtaspEvent) : Turn := { t with log := t.log ++ [.emit event] }
def request (t : Turn) (request : OtaspAuthRequest) : Turn := { t with log := t.log ++ [.request request] }

def setPhase (t : Turn) (phase : Phase) : Turn := { t with session := { t.session with phase } }
def setAKey (t : Turn) (aKey : AKeyProgress) : Turn := { t with session := { t.session with aKey } }
def setPrlPush (t : Turn) (prlPush : Option PrlPushState) : Turn := { t with session := { t.session with prlPush } }
def setPrlFetch (t : Turn) (prlFetch : Option PrlFetchState) : Turn :=
  { t with session := { t.session with prlFetch } }
def setReadback (t : Turn) (readback : NamReadback) : Turn :=
  { t with session := { t.session with readback := some readback } }
def nextTarget (t : Turn) : Turn := { t with session := { t.session with planIdx := t.session.planIdx + 1 } }
def completeBlock (t : Turn) : Turn :=
  { t with session := { t.session with completedBlocks := t.session.completedBlocks + 1 } }

def terminate (t : Turn) (kind : SessionOutcomeKind) : Turn :=
  (t.emit (.sessionEnded t.session.completedBlocks kind)).setPhase .terminated

section Fields

variable (t : Turn)

@[simp] lemma send_session (m : OtaspMessage) : (t.send m).session = t.session := rfl
@[simp] lemma send_log (m : OtaspMessage) : (t.send m).log = t.log ++ [.send m] := rfl
@[simp] lemma emit_session (e : OtaspEvent) : (t.emit e).session = t.session := rfl
@[simp] lemma emit_log (e : OtaspEvent) : (t.emit e).log = t.log ++ [.emit e] := rfl
@[simp] lemma request_session (r : OtaspAuthRequest) : (t.request r).session = t.session := rfl
@[simp] lemma request_log (r : OtaspAuthRequest) : (t.request r).log = t.log ++ [.request r] := rfl

@[simp] lemma setPhase_log (p : Phase) : (t.setPhase p).log = t.log := rfl
@[simp] lemma setPhase_phase (p : Phase) : (t.setPhase p).session.phase = p := rfl
@[simp] lemma setPhase_aKey (p : Phase) : (t.setPhase p).session.aKey = t.session.aKey := rfl
@[simp] lemma setAKey_log (k : AKeyProgress) : (t.setAKey k).log = t.log := rfl
@[simp] lemma setAKey_aKey (k : AKeyProgress) : (t.setAKey k).session.aKey = k := rfl
@[simp] lemma setAKey_phase (k : AKeyProgress) : (t.setAKey k).session.phase = t.session.phase := rfl

end Fields

def fail (t : Turn) (kind : SessionOutcomeKind) : Turn × StepResult := (t.terminate kind, .terminal kind)

/-- Send a request and wait for its answer; a request that does not encode ends the session. -/
def ask (t : Turn) (message : OtaspMessage) (phase : Phase) : Turn × StepResult :=
  match message.encode with
  | some _ => ((t.send message).setPhase phase, .continue)
  | none => t.fail .protocolError

def sendProtocolCapability (t : Turn) : Turn :=
  (t.setPhase .awaitingProtocolCapability |>.ask .protocolCapabilityRequest
    .awaitingProtocolCapability).1

/-! ### Ending -/

/-- Commit is always sent, even with no block downloaded. -/
def sendCommit (t : Turn) : Turn × StepResult := ((t.send .commitRequest).setPhase .awaitingCommit, .continue)

def abandonKeyExchange (t : Turn) : Turn × StepResult :=
  ((t.setAKey .abandoned).request .abortKeyExchange).sendCommit

def failKeyExchange (t : Turn) : Turn × StepResult := (t.setAKey .abandoned).fail .keyExchangeFailed

def emitAKey (t : Turn) (step : AKeyStep) (success : Bool) (resultCode : Option UInt8) : Turn :=
  t.emit (.aKeyProgress step success t.session.aKeyPRev resultCode none)

/-! ### The plan -/

def sendNextPrlPushSegment (t : Turn) : Turn × StepResult :=
  match t.session.prlPush with
  | none => t.fail .protocolError
  | some state =>
    if state.segmentsSent ≥ PRL_DOWNLOAD_SEGMENT_LIMIT then (t.setPrlPush none).fail .protocolError
    else
      let total := state.bytes.length
      let offset := state.nextOffset.toNat
      if offset > total then (t.setPrlPush none).fail .protocolError
      else
        let remaining := total - offset
        let take := min remaining PRL_DOWNLOAD_SEGMENT_SIZE
        match encodeSsprParamData (take == remaining) state.nextOffset
          ((state.bytes.drop offset).take take) with
        | none => t.fail .protocolError
        | some paramData =>
          match (OtaspMessage.ssprDownloadRequest state.blockId paramData).encode with
          | none => t.fail .protocolError
          | some _ =>
            (((t.send (.ssprDownloadRequest state.blockId paramData)).setPrlPush
              (some { state with segmentsSent := state.segmentsSent + 1 })).setPhase
              .awaitingSsprDownloadResponse, .continue)

def prlToPush (session : OtaspSession) : Except SkipReason (Bytes × UInt8) :=
  match session.hlr with
  | none => .error .noSubscriber
  | some hlr =>
    match hlr.prlBytes, hlr.prlMeta with
    | some bytes, some prlMeta => if bytes.isEmpty then .error .noPrlBytes else .ok (bytes, prlMeta.ssprPRev)
    | _, _ => .error .noPrlBytes

def startPrlPush (t : Turn) (bytes : Bytes) (ssprPRev : UInt8) : Turn × StepResult :=
  (t.setPrlPush (some {
    blockId := if ssprPRev ≥ 3 then BLOCK_PRL_EXTENDED else BLOCK_PRL_CLASSIC
    bytes := bytes
    nextOffset := 0
    segmentsSent := 0 })).sendNextPrlPushSegment

def finishPlan (t : Turn) : Turn × StepResult :=
  match t.session.aKey with
  | .planned aKeyPRev =>
    (({ t with session := { t.session with aKeyPRev := aKeyPRev } }.request
      (.beginKeyExchange aKeyPRev)).setPhase .awaitingKeyExchangeOffer, .continue)
  | _ => t.sendCommit

/-- Go on with the first of the steps that are left; a roaming list that is not there is skipped. -/
def advance (t : Turn) : List PlanStep → Turn × StepResult
  | [] => t.finishPlan
  | step :: steps =>
    match step.target with
    | .homeSystemTag => t.ask (.systemTagConfigRequest BLOCK_HOME_SYSTEM_TAG) .awaitingSystemTagConfig
    | .mmsUri => t.ask (.mmsConfigurationRequest [BLOCK_MMS_URI]) .awaitingMmsConfig
    | .prl =>
      match prlToPush t.session with
      | .ok prl => t.startPrlPush prl.1 prl.2
      | .error reason => ((t.emit (.blockSkipped BLOCK_PRL_CLASSIC reason .prl)).nextTarget).advance steps
    | target => t.ask (.configurationRequest [target.blockId]) (.awaitingNamConfig target)

def advanceToNextTarget (t : Turn) : Turn × StepResult := t.advance (t.session.plan.drop t.session.planIdx)

def skipBlock (t : Turn) (blockId : UInt8) (reason : SkipReason) (feature : BlockFeature) :
    Turn × StepResult :=
  ((t.emit (.blockSkipped blockId reason feature)).nextTarget).advanceToNextTarget

def downloadedBlock (t : Turn) (blockId resultCode : UInt8) (feature : BlockFeature) :
    Turn × StepResult :=
  (((t.emit (.blockDownloaded blockId resultCode feature)).completeBlock).nextTarget).advanceToNextTarget

def wantsDownload (t : Turn) : Bool := (t.session.plan[t.session.planIdx]?).any (·.doDownload)

/-! ### Reading the roaming list -/

def finishPrlOutcome (t : Turn) (outcome : PrlOutcome) (dims : Option PrlDimensions) :
    Turn × StepResult :=
  let segmentCount := (t.session.prlFetch.map (·.segmentsFetched)).getD 0
  let prListId := match outcome with
    | .decoded prl | .decodedExtended prl _ => some prl.prListId
    | _ => dims.map (·.prListId)
  ((t.emit (.prlReadback {
    prListId := prListId
    maxPrListSize := (dims.map (·.maxPrListSize)).getD 0
    curPrListSize := (dims.map (·.curPrListSize)).getD 0
    segmentCount := segmentCount
    outcome := outcome })).setPrlFetch none).advanceToNextTarget

def finishPrlDecodeFailure (t : Turn) (rawBytes : Bytes) : Turn × StepResult :=
  t.finishPrlOutcome (.decodeFailed rawBytes) (t.session.prlFetch.bind (·.dimensions))

def fetchState (t : Turn) : PrlFetchState := t.session.prlFetch.getD .empty

def sendNextPrlSegmentRequest (t : Turn) : Turn × StepResult :=
  if t.fetchState.segmentsFetched ≥ PRL_SEGMENT_LIMIT then t.finishPrlDecodeFailure t.fetchState.buffer
  else
    t.ask (.ssprConfigurationRequest 0x01 t.fetchState.nextOffset PRL_SEGMENT_REQUEST_SIZE)
      .awaitingPrlSegment

def startPrlPhaseOrAdvance (t : Turn) : Turn × StepResult :=
  if !t.session.advertisedFeatures.contains FEATURE_SSPR then
    (t.emit (.prlReadback ⟨none, 0, 0, 0, .featureNotAdvertised⟩)).advanceToNextTarget
  else (t.setPrlFetch (some .empty)).ask (.ssprConfigurationRequest 0x00 0 0) .awaitingPrlDimensions

def startSegments (t : Turn) (dims : PrlDimensions) (curSsprPRev : UInt8) : Turn × StepResult :=
  if dims.curPrListSize = 0 then t.finishPrlOutcome .absent (some dims)
  else
    (t.setPrlFetch (some { t.fetchState with
      dimensions := some dims
      curSsprPRev := curSsprPRev
      nextOffset := 0 })).sendNextPrlSegmentRequest

def handlePrlDimensions (t : Turn) (bytes : Bytes) : Turn × StepResult :=
  match SsprConfigurationResponse.decode bytes with
  | none => t.finishPrlDecodeFailure bytes
  | some resp =>
    if resp.resultCode.toU8 = 0x23 then t.ask (.ssprConfigurationRequest 0x02 0 0) .awaitingPrlExtendedDimensions
    else if !resp.resultCode.isAccepted then t.finishPrlOutcome (.rejected resp.blockId resp.resultCode.toU8) none
    else
      match PrlDimensions.decode resp.paramData with
      | none => t.finishPrlDecodeFailure resp.paramData
      | some dims => t.startSegments dims t.fetchState.curSsprPRev

def handlePrlExtendedDimensions (t : Turn) (bytes : Bytes) : Turn × StepResult :=
  match SsprConfigurationResponse.decode bytes with
  | none => t.finishPrlDecodeFailure bytes
  | some resp =>
    if !resp.resultCode.isAccepted then t.finishPrlOutcome (.rejected resp.blockId resp.resultCode.toU8) none
    else
      match ExtendedPrlDimensions.decode resp.paramData with
      | none => t.finishPrlDecodeFailure resp.paramData
      | some ext => t.startSegments ⟨ext.maxPrListSize, ext.curPrListSize, ext.prListId⟩ ext.curSsprPRev

/-- The revision selects the decoder, but a list that is not a valid classic one may still be an
extended one. -/
def decodePrlOutcome (codecs : BlockCodecs) (buffer : Bytes) (curSsprPRev : UInt8) : PrlOutcome :=
  let extended := match codecs.prlExt buffer with
    | some prl => if prl.crcOk then .decodedExtended prl buffer else .decodeFailed buffer
    | none => .decodeFailed buffer
  if curSsprPRev ≥ 3 then extended
  else match codecs.prl buffer with
    | some prl => if prl.crcOk then .decoded prl else extended
    | none => extended

def handlePrlSegment (codecs : BlockCodecs) (t : Turn) (bytes : Bytes) : Turn × StepResult :=
  match SsprConfigurationResponse.decode bytes with
  | none => t.finishPrlDecodeFailure bytes
  | some resp =>
    if !resp.resultCode.isAccepted then
      t.finishPrlOutcome (.rejected resp.blockId resp.resultCode.toU8)
        (t.session.prlFetch.bind (·.dimensions))
    else
      match PrlSegment.decode resp.paramData with
      | none => t.finishPrlDecodeFailure resp.paramData
      | some segment =>
        let counted := { t.fetchState with segmentsFetched := t.fetchState.segmentsFetched + 1 }
        if counted.dimensions.any fun dims =>
            counted.buffer.length + segment.segmentData.length > dims.curPrListSize then
          (t.setPrlFetch (some counted)).finishPrlDecodeFailure counted.buffer
        else
          let state := { counted with
            buffer := counted.buffer ++ segment.segmentData
            nextOffset := UInt16.ofNat (min 65535 (counted.nextOffset.toNat + segment.segmentData.length)) }
          if segment.lastSegment then
            (t.setPrlFetch (some state)).finishPrlOutcome
              (decodePrlOutcome codecs state.buffer state.curSsprPRev) state.dimensions
          else (t.setPrlFetch (some state)).sendNextPrlSegmentRequest

/-! ### The start of a session -/

def handleOtapaStart (t : Turn) (bytes : Bytes) : Turn × StepResult :=
  match OtapaResponse.decode bytes with
  | none => t.fail .protocolError
  | some response =>
    if response.result ≠ .accepted then t.fail .rejected
    else match response.randOtapa with
      | some randOtapa => ((t.setPhase .awaitingSpasmSignature).request (.validateSpasm randOtapa), .continue)
      | none => (t.sendProtocolCapability, .continue)

def handleSpasmValidation (t : Turn) (bytes : Bytes) : Turn × StepResult :=
  if ValidationResponse.decode bytes = some [(VBLOCK_VALIDATE_SPASM, .accepted)] then
    (t.sendProtocolCapability, .continue)
  else (t.emit (.blockSkipped VBLOCK_VALIDATE_SPASM .spasmRejected .nam)).fail .rejected

/-- Drop the steps whose feature the mobile does not advertise, with an event for each. -/
def prunePlanForUnsupportedFeatures (t : Turn) : Turn :=
  let supported := fun step : PlanStep => t.session.advertisedFeatures.contains step.target.neededFeature
  { session := { t.session with plan := t.session.plan.filter supported }
    log := t.log ++ (t.session.plan.filter (!supported ·)).map fun step =>
      .emit (.blockSkipped step.target.blockId (.featureNotAdvertised step.target.neededFeature)
        step.target.feature) }

def keyExchangePRev (features : List (UInt8 × UInt8)) : Option UInt8 := do
  let feature ← features.find? (·.1 == FEATURE_KEY_EXCHANGE)
  if feature.2 = A_KEY_P_REV_2G then some A_KEY_P_REV_2G
  else if feature.2 = A_KEY_P_REV_2G_3G then some A_KEY_P_REV_2G_3G
  else none

/-- A planned key exchange needs a mobile that has it. -/
def planAKey (aKey : AKeyProgress) (features : List (UInt8 × UInt8)) : AKeyProgress :=
  match aKey with
  | .planned _ =>
    match keyExchangePRev features with
    | some aKeyPRev => .planned aKeyPRev
    | none => .notPlanned
  | other => other

def DEFAULT_SPC : Bytes := [0x30, 0x30, 0x30, 0x30, 0x30, 0x30]

def handleProtocolCapability (t : Turn) (bytes : Bytes) : Turn × StepResult :=
  match ProtocolCapabilityResponse.decode bytes with
  | none => t.fail .protocolError
  | some resp =>
    let otaspPRev := (resp.features.find? (·.1 == FEATURE_OTASP)).map (·.2)
    let known : Turn := { t with session := { t.session with
      advertisedFeatures := resp.features.map Prod.fst } }
    let pruned := (known.emit (.protocolCapabilityReceived resp otaspPRev)).prunePlanForUnsupportedFeatures
    let planned := pruned.setAKey (planAKey pruned.session.aKey resp.features)
    match verifySpc ((t.session.hlr.bind (·.serviceProgrammingCode)).getD DEFAULT_SPC) with
    | none => planned.fail .protocolError
    | some paramData => planned.ask (.validationRequest [⟨VBLOCK_VERIFY_SPC, paramData⟩]) .awaitingValidation

def handleValidation (t : Turn) (bytes : Bytes) : Turn × StepResult :=
  match ValidationResponse.decode bytes with
  | none => t.fail .protocolError
  | some results =>
    if !((results.find? (·.1 == VBLOCK_VERIFY_SPC)).any (·.2.isAccepted)) then
      (t.emit .spcMismatch).fail .spcRejected
    else
      let verified := t.emit .spcVerified
      if t.session.hlr.isNone then (verified.emit (.hlrMiss t.session.device)).fail .hlrUnknown
      else verified.startPrlPhaseOrAdvance

/-! ### NAM blocks -/

def mergeReadback (existing : Option NamReadback) (new : NamReadback) : NamReadback :=
  let out := existing.getD .empty
  { scm := if new.scm ≠ 0 then new.scm else out.scm
    mobPRev := if new.mobPRev ≠ 0 then new.mobPRev else out.mobPRev
    maxSidNid := if new.maxSidNid ≠ 0 then new.maxSidNid else out.maxSidNid
    slottedMode := new.slottedMode || out.slottedMode
    ex := new.ex
    localControl := new.localControl
    firstchp := if new.firstchp ≠ 0 then new.firstchp else out.firstchp }

/-- What a block says of the mobile; a block without such fields keeps what is known. -/
def readBlock (codecs : BlockCodecs) (t : Turn) (target : WriteTarget) (data : Bytes) :
    Option NamReadback :=
  let known := t.session.readback.getD .empty
  match target with
  | .cdmaAnalogNam => (codecs.namCdmaAnalog data).map fun d =>
      ⟨d.scm, d.mobPRev, d.maxSidNid, known.slottedMode, d.ex, d.localControl, d.firstchp⟩
  | .cdmaNam => (codecs.namCdma data).map fun d =>
      ⟨known.scm, d.mobPRev, d.maxSidNid, d.slottedMode, known.ex, d.localControl, known.firstchp⟩
  | _ => some known

/-- The parameter data of a NAM block. The other targets have their own messages and never come
here. -/
def AssembledNam.block (nam : AssembledNam) : WriteTarget → Option Bytes
  | .cdmaAnalogNam => nam.cdmaAnalog
  | .mdn => nam.mdn
  | .cdmaNam => nam.cdma
  | .homeSystemTag | .mmsUri | .prl => none

def sendNamDownload (codecs : BlockCodecs) (t : Turn) (target : WriteTarget) : Turn × StepResult :=
  if t.session.hlr.isNone then t.fail .hlrUnknown
  else match codecs.assembleNam (t.session.readback.getD .empty) with
    | none => t.fail .protocolError
    | some nam =>
      match AssembledNam.block nam target with
      | none => t.fail .protocolError
      | some paramData => t.ask (.downloadRequest [⟨target.blockId, paramData⟩]) (.awaitingNamDownload target)

def isCdmaBlock (target : WriteTarget) : Bool := target == .cdmaAnalogNam || target == .cdmaNam

def handleNamConfig (codecs : BlockCodecs) (t : Turn) (target : WriteTarget) (bytes : Bytes) :
    Turn × StepResult :=
  match ConfigurationResponse.decode bytes with
  | none => t.skipBlock target.blockId .responseDecodeFailed target.feature
  | some blocks =>
    match blocks.find? (·.blockId == target.blockId) with
    | none => t.skipBlock target.blockId .blockNotReturned target.feature
    | some block =>
      match readBlock codecs t target block.paramData with
      | none => t.skipBlock target.blockId .blockDecodeFailed target.feature
      | some readback =>
        if isCdmaBlock target && readback.maxSidNid == 0 then
          (t.emit (.noNamCapacity target.blockId target.feature)).fail .noCapacity
        else
          let merged := mergeReadback t.session.readback readback
          let known := t.setReadback merged
          let marked := if target = .cdmaAnalogNam then known.emit (.stationClassMark merged.scm)
            else known
          let shown := marked.emit (.namReadback target.blockId target.feature)
          if !t.wantsDownload then shown.nextTarget.advanceToNextTarget
          else sendNamDownload codecs shown target

def handleNamDownload (t : Turn) (target : WriteTarget) (bytes : Bytes) : Turn × StepResult :=
  match DownloadResponse.decode bytes with
  | none => t.fail .protocolError
  | some results =>
    match results.head? with
    | none => t.fail .protocolError
    | some result =>
      if result.2.isAccepted then t.downloadedBlock target.blockId result.2.toU8 target.feature
      else (t.emit (.blockRejected target.blockId result.2.toU8 target.feature)).fail .rejected

/-! ### System tag, MMS URI and roaming list -/

def handleSystemTagConfig (codecs : BlockCodecs) (t : Turn) (bytes : Bytes) : Turn × StepResult :=
  match SystemTagConfigResponse.decode bytes with
  | none => t.fail .protocolError
  | some result =>
    if !result.isAccepted then (t.emit (.blockRejected BLOCK_HOME_SYSTEM_TAG result.toU8 .systemTag)).fail .rejected
    else if t.session.hlr.isNone then t.fail .hlrUnknown
    else match codecs.assembleNam (t.session.readback.getD .empty) with
      | none => t.fail .protocolError
      | some nam =>
        match nam.homeSystemTag with
        | none => t.fail .protocolError
        | some paramData =>
          t.ask (.systemTagDownloadRequest BLOCK_HOME_SYSTEM_TAG paramData) .awaitingSystemTagDownload

def handleSystemTagDownload (t : Turn) (bytes : Bytes) : Turn × StepResult :=
  match SystemTagDownloadResponse.decode bytes with
  | none => t.fail .protocolError
  | some result =>
    if result.isAccepted then t.downloadedBlock BLOCK_HOME_SYSTEM_TAG result.toU8 .systemTag
    else (t.emit (.blockRejected BLOCK_HOME_SYSTEM_TAG result.toU8 .systemTag)).fail .rejected

def handleMmsConfig (t : Turn) (bytes : Bytes) : Turn × StepResult :=
  match MmsConfigurationResponse.decode bytes with
  | none => t.skipBlock BLOCK_MMS_URI .responseDecodeFailed .mmsUri
  | some blocks =>
    let shown := if blocks.any (·.blockId == BLOCK_MMS_URI) then t.emit (.namReadback BLOCK_MMS_URI .mmsUri) else t
    if !t.wantsDownload then shown.nextTarget.advanceToNextTarget
    else match mmsUriParameters t.session.cfg.mmsUri with
      | none => shown.skipBlock BLOCK_MMS_URI .encoderFailure .mmsUri
      | some paramData => shown.ask (.mmsDownloadRequest [⟨BLOCK_MMS_URI, paramData⟩]) .awaitingMmsDownload

/-- A rejected MMS URI does not end the session. -/
def handleMmsDownload (t : Turn) (bytes : Bytes) : Turn × StepResult :=
  match MmsDownloadResponse.decode bytes with
  | none => t.fail .protocolError
  | some confirmations =>
    match confirmations.find? (·.1 == BLOCK_MMS_URI) with
    | none => t.skipBlock BLOCK_MMS_URI .blockNotReturned .mmsUri
    | some confirmation =>
      if confirmation.2.isAccepted then t.downloadedBlock BLOCK_MMS_URI confirmation.2.toU8 .mmsUri
      else ((t.emit (.blockRejected BLOCK_MMS_URI confirmation.2.toU8 .mmsUri)).nextTarget).advanceToNextTarget

def handleSsprDownloadResponse (t : Turn) (bytes : Bytes) : Turn × StepResult :=
  match SsprDownloadResponse.decode bytes with
  | none => t.fail .protocolError
  | some resp =>
    match t.session.prlPush with
    | none => t.fail .protocolError
    | some state =>
      let total := state.bytes.length
      let size := min (total - state.nextOffset.toNat) PRL_DOWNLOAD_SEGMENT_SIZE
      if resp.blockId ≠ state.blockId ∨ resp.segmentOffset ≠ state.nextOffset ∨
          resp.segmentSize.toNat ≠ size then
        (t.setPrlPush none).fail .protocolError
      else if !resp.resultCode.isAccepted then
        ((t.emit (.blockRejected state.blockId resp.resultCode.toU8 .prl)).setPrlPush none).fail .rejected
      else
        let newOffset := state.nextOffset.toNat + size
        if newOffset ≥ total then (t.setPrlPush none).downloadedBlock state.blockId resp.resultCode.toU8 .prl
        else (t.setPrlPush (some { state with nextOffset := UInt16.ofNat newOffset })).sendNextPrlPushSegment

/-! ### The key exchange -/

def handleMsKeyResponse (t : Turn) (bytes : Bytes) : Turn × StepResult :=
  let result := MsKeyResponse.decode bytes
  let accepted := result.any (·.isAccepted)
  let told := t.emitAKey .msKeyResponse accepted (result.map (·.toU8))
  match t.session.aKey with
  | .exchanging bsResult =>
    if !accepted then told.abandonKeyExchange
    else match (OtaspMessage.keyGenerationRequest bsResult).encode with
      | some _ => ((told.send (.keyGenerationRequest bsResult)).setPhase .awaitingKeyGenerationResponse, .continue)
      | none => told.abandonKeyExchange
  | _ => told.abandonKeyExchange

def handleKeyGenerationResponse (t : Turn) (bytes : Bytes) : Turn × StepResult :=
  let response := KeyGenerationResponse.decode bytes
  let told := t.emitAKey .keyGenerationResponse (response.any (·.result.isAccepted))
    (response.map (·.result.toU8))
  match response with
  | some response =>
    if response.result.isAccepted then
      ((told.request (.completeKeyExchange response.msResult)).setPhase
        .awaitingKeyExchangeCompletion, .continue)
    else told.abandonKeyExchange
  | none => told.abandonKeyExchange

def handleReauthenticateResponse (t : Turn) (rand : UInt32) (bytes : Bytes) : Turn × StepResult :=
  match ReAuthenticateResponse.decode bytes with
  | some response =>
    ((t.request (.verifyReauthentication rand response)).setPhase .awaitingReauthenticationVerdict,
      .continue)
  | none => t.failKeyExchange

def handleCommit (t : Turn) (bytes : Bytes) : Turn × StepResult :=
  match CommitResponse.decode bytes with
  | none => t.fail .protocolError
  | some result =>
    let told := t.emit (.commitResult result.toU8)
    let asked := if t.session.aKey = .ready then
        (told.emitAKey .committed result.isAccepted (some result.toU8)).request
          (if result.isAccepted then .commitKey else .abortKeyExchange)
      else told
    asked.fail (if result.isAccepted then .committed else .rejected)

/-! ### Entry points -/

def outcome (t : Turn) (kind : SessionOutcomeKind) : Turn × Option SessionOutcome :=
  (t.setPhase .terminated, some ⟨kind, t.session.completedBlocks⟩)

def stepOutcome (r : Turn × StepResult) : Turn × Option SessionOutcome :=
  match r.2 with
  | .continue => (r.1, none)
  | .terminal kind => r.1.outcome kind

def dispatch (codecs : BlockCodecs) (t : Turn) (bytes : Bytes) : Turn × StepResult :=
  match t.session.phase with
  | .awaitingOtapaStart => t.handleOtapaStart bytes
  | .awaitingSpasmValidation => t.handleSpasmValidation bytes
  | .awaitingProtocolCapability => t.handleProtocolCapability bytes
  | .awaitingValidation => t.handleValidation bytes
  | .awaitingPrlDimensions => t.handlePrlDimensions bytes
  | .awaitingPrlExtendedDimensions => t.handlePrlExtendedDimensions bytes
  | .awaitingPrlSegment => handlePrlSegment codecs t bytes
  | .awaitingNamConfig target => handleNamConfig codecs t target bytes
  | .awaitingNamDownload target => t.handleNamDownload target bytes
  | .awaitingSystemTagConfig => handleSystemTagConfig codecs t bytes
  | .awaitingSystemTagDownload => t.handleSystemTagDownload bytes
  | .awaitingMmsConfig => t.handleMmsConfig bytes
  | .awaitingMmsDownload => t.handleMmsDownload bytes
  | .awaitingSsprDownloadResponse => t.handleSsprDownloadResponse bytes
  | .awaitingMsKeyResponse => t.handleMsKeyResponse bytes
  | .awaitingKeyGenerationResponse => t.handleKeyGenerationResponse bytes
  | .awaitingReAuthenticateResponse rand => t.handleReauthenticateResponse rand bytes
  | .awaitingSpasmSignature | .awaitingKeyExchangeOffer | .awaitingKeyExchangeCompletion
  | .awaitingSsdUpdate | .awaitingReauthenticationVerdict => t.fail .protocolError
  | .awaitingCommit => t.handleCommit bytes
  -- a terminated session is answered before this
  | .terminated => (t, .continue)

def onInbound (codecs : BlockCodecs) (t : Turn) (bytes : Bytes) : Turn × Option SessionOutcome :=
  if t.session.phase = .terminated then t.outcome .protocolError
  else if bytes.isEmpty then (t.terminate .protocolError).outcome .protocolError
  else stepOutcome (dispatch codecs t bytes)

def spasmParamData (signature : UInt32) : Bytes :=
  toPackedBytes (writeU64 1 1 ++ writeU64 signature.toNat 18 ++ writeU64 1 1 ++ writeU64 0 4)

def onSpasmSignature (t : Turn) (signature : Option UInt32) : Turn × Option SessionOutcome :=
  match signature.filter fun _ => t.session.phase == .awaitingSpasmSignature with
  | none =>
    ((t.emit (.blockSkipped VBLOCK_VALIDATE_SPASM .spasmUnavailable .nam)).terminate .rejected).outcome
      .rejected
  | some signature =>
    stepOutcome (t.ask (.validationRequest [⟨VBLOCK_VALIDATE_SPASM, spasmParamData signature⟩])
      .awaitingSpasmValidation)

/-- The delivery of a message failed. The outcome of what follows is dropped. -/
def onDbmFailed (t : Turn) (cause : UInt8) : Turn :=
  match t.session.phase with
  | .awaitingNamConfig target | .awaitingNamDownload target =>
    (t.skipBlock target.blockId (.deliveryFailure cause) target.feature).1
  | .awaitingSystemTagConfig | .awaitingSystemTagDownload =>
    (t.skipBlock BLOCK_HOME_SYSTEM_TAG (.deliveryFailure cause) .systemTag).1
  | .awaitingMmsConfig | .awaitingMmsDownload => (t.skipBlock BLOCK_MMS_URI (.deliveryFailure cause) .mmsUri).1
  | .awaitingSsprDownloadResponse =>
    ((t.setPrlPush none).skipBlock ((t.session.prlPush.map (·.blockId)).getD BLOCK_PRL_CLASSIC)
      (.deliveryFailure cause) .prl).1
  | .awaitingMsKeyResponse | .awaitingKeyGenerationResponse => t.abandonKeyExchange.1
  | .awaitingReAuthenticateResponse _ => t.failKeyExchange.1
  | .awaitingSpasmSignature | .awaitingKeyExchangeOffer | .awaitingKeyExchangeCompletion
  | .awaitingSsdUpdate | .awaitingReauthenticationVerdict => t
  | .awaitingOtapaStart | .awaitingSpasmValidation | .awaitingProtocolCapability
  | .awaitingValidation | .awaitingPrlDimensions | .awaitingPrlExtendedDimensions
  | .awaitingPrlSegment | .awaitingCommit => t.terminate .protocolError
  | .terminated => t

def onKeyExchangeSkipped (t : Turn) (reason : AKeySkipReason) : Turn × Option SessionOutcome :=
  if t.session.phase ≠ .awaitingKeyExchangeOffer then (t, none)
  else stepOutcome ((t.setAKey .skipped).emit
    (.aKeyProgress .skipped true t.session.aKeyPRev none (some reason))).sendCommit

def onKeyExchangeOffer (t : Turn) (offer : Option KeyExchangeOffer) : Turn × Option SessionOutcome :=
  if t.session.phase ≠ .awaitingKeyExchangeOffer then (t, none)
  else match offer with
    | none => stepOutcome ((t.emitAKey .requested false none).setAKey .abandoned).sendCommit
    | some offer =>
      let named := { t with session := { t.session with aKeyPRev := offer.aKeyPRev } }
      let message := OtaspMessage.msKeyRequest offer.aKeyPRev offer.params
      match message.encode with
      | some _ =>
        ((((named.send message).emitAKey .requested true none).setAKey
          (.exchanging offer.bsResult)).setPhase .awaitingMsKeyResponse, none)
      | none => stepOutcome named.abandonKeyExchange

def onKeyExchangeCompleted (t : Turn) (ok : Bool) : Turn × Option SessionOutcome :=
  if t.session.phase ≠ .awaitingKeyExchangeCompletion then (t, none)
  else
    let told := t.emitAKey .keyDerived ok none
    if ok then ((told.request .ssdUpdate).setPhase .awaitingSsdUpdate, none)
    else stepOutcome told.failKeyExchange

/-- `rand` is the random number of the Re-Authenticate Request. -/
def onSsdUpdateFinished (t : Turn) (ok : Bool) (rand : UInt32) : Turn × Option SessionOutcome :=
  if t.session.phase ≠ .awaitingSsdUpdate then (t, none)
  else
    let told := t.emitAKey .ssdUpdate ok none
    if ok then ((told.send (.reAuthenticateRequest rand)).setPhase (.awaitingReAuthenticateResponse rand), none)
    else stepOutcome told.failKeyExchange

def onReauthenticationVerified (t : Turn) (ok : Bool) : Turn × Option SessionOutcome :=
  if t.session.phase ≠ .awaitingReauthenticationVerdict then (t, none)
  else
    let told := t.emitAKey .reAuthentication ok none
    if ok then stepOutcome (told.setAKey .ready).sendCommit
    else stepOutcome told.failKeyExchange

end Turn

namespace OtaspSession

def startWithInitiation (s : OtaspSession) (initiation : SessionInitiation) : Turn :=
  let started : Turn := ⟨s, [.emit (.sessionStart s.device s.featureCode s.serviceOption)]⟩
  match initiation with
  | .network => (started.setPhase .awaitingOtapaStart).send .otapaStart
  | .user => started.sendProtocolCapability

def awaitedKeyExchangeResponse (s : OtaspSession) : Option String :=
  match s.phase with
  | .awaitingMsKeyResponse => some "MS Key Response"
  | .awaitingKeyGenerationResponse => some "Key Generation Response"
  | _ => none

def keyExchangeStarted (s : OtaspSession) : Bool :=
  match s.aKey with
  | .exchanging _ | .ready | .abandoned => true
  | _ => false

end OtaspSession

/-! ### Inputs -/

inductive SessionInput where
  | inbound (bytes : Bytes)
  | dbmFailed (cause : UInt8)
  | spasmSignature (signature : Option UInt32)
  | keyExchangeSkipped (reason : AKeySkipReason)
  | keyExchangeOffer (offer : Option KeyExchangeOffer)
  | keyExchangeCompleted (ok : Bool)
  | ssdUpdateFinished (ok : Bool) (rand : UInt32)
  | reauthenticationVerified (ok : Bool)
deriving Repr, DecidableEq

def Turn.call (codecs : BlockCodecs) (t : Turn) : SessionInput → Turn × Option SessionOutcome
  | .inbound bytes => Turn.onInbound codecs t bytes
  | .dbmFailed cause => (t.onDbmFailed cause, none)
  | .spasmSignature signature => t.onSpasmSignature signature
  | .keyExchangeSkipped reason => t.onKeyExchangeSkipped reason
  | .keyExchangeOffer offer => t.onKeyExchangeOffer offer
  | .keyExchangeCompleted ok => t.onKeyExchangeCompleted ok
  | .ssdUpdateFinished ok rand => t.onSsdUpdateFinished ok rand
  | .reauthenticationVerified ok => t.onReauthenticationVerified ok

end OneXBts.Msc
