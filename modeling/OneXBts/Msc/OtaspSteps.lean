import OneXBts.Msc.OtaspSession

/-!
What one call of a provisioning session can do (`Step`).

A handler of the phases before the key exchange stays among them, starts the key exchange, sends the Commit Request or ends
the session, and before that it hands the transport events only (`Leads`). `step_call` says that every call is one of these
steps; the invariants of whole runs are read off them.
-/

namespace OneXBts.Msc

open Lib Otasp List Option

/-! ### Phases before the key exchange -/

def Phase.early : Phase → Bool
  | .awaitingKeyExchangeOffer | .awaitingMsKeyResponse | .awaitingKeyGenerationResponse
  | .awaitingKeyExchangeCompletion | .awaitingSsdUpdate | .awaitingReAuthenticateResponse _
  | .awaitingReauthenticationVerdict | .awaitingCommit | .terminated => false
  | _ => true

def AKeyProgress.unstarted : AKeyProgress → Bool
  | .notPlanned | .planned _ => true
  | _ => false

/-- A message other than those of the key exchange and the commit. -/
def ordinary : OtaspMessage → Bool
  | .msKeyRequest _ _ | .keyGenerationRequest _ | .reAuthenticateRequest _ | .commitRequest => false
  | _ => true

def Effect.told : Effect → Bool
  | .emit (.sessionEnded ..) => false
  | .emit _ => true
  | _ => false

/-- Only events, and the session does not end. -/
def Told (es : List Effect) : Prop := ∀ e ∈ es, e.told = true

@[simp] lemma Told.nil : Told [] := by simp [Told]

lemma Told.cons (he : e.told = true) (h : Told es) :
    Told (e :: es) := by grind [Told]

lemma Told.append (h : Told es) (h' : Told es') : Told (es ++ es') := by grind [Told]

/-- Where a handler of an early phase leads, from what had been handed to the transport before: events,
and then a message, a request or the end of the session. -/
inductive Leads (log : List Effect) (r : Turn × StepResult) : Prop
  | asks (es : List Effect) (message : OtaspMessage) (hes : Told es)
    (hmessage : ordinary message = true) (hlog : r.1.log = log ++ (es ++ [.send message]))
    (hphase : r.1.session.phase.early = true) (hkey : r.1.session.aKey.unstarted = true)
    (hresult : r.2 = .continue)
  | signs (es : List Effect) (randOtapa : UInt32) (hes : Told es)
    (hlog : r.1.log = log ++ (es ++ [.request (.validateSpasm randOtapa)]))
    (hphase : r.1.session.phase = .awaitingSpasmSignature)
    (hkey : r.1.session.aKey.unstarted = true) (hresult : r.2 = .continue)
  | offers (es : List Effect) (rev : UInt8) (hes : Told es)
    (hlog : r.1.log = log ++ (es ++ [.request (.beginKeyExchange rev)]))
    (hphase : r.1.session.phase = .awaitingKeyExchangeOffer)
    (hkey : r.1.session.aKey = .planned rev) (hresult : r.2 = .continue)
  | commits (es : List Effect) (hes : Told es) (hlog : r.1.log = log ++ (es ++ [.send .commitRequest]))
    (hphase : r.1.session.phase = .awaitingCommit) (hkey : r.1.session.aKey = .notPlanned)
    (hresult : r.2 = .continue)
  | ends (es : List Effect) (n : ℕ) (kind : SessionOutcomeKind) (hes : Told es)
    (hlog : r.1.log = log ++ (es ++ [.emit (.sessionEnded n kind)]))
    (hphase : r.1.session.phase = .terminated) (hresult : r.2 = .terminal kind)

/-- On the way through a handler: since `log` there are events only, and the key exchange has not begun. -/
structure Early (log : List Effect) (t : Turn) : Prop where
  told : ∃ es, Told es ∧ t.log = log ++ es
  unstarted : t.session.aKey.unstarted = true

namespace Turn

variable {log : List Effect} {t : Turn}

lemma early_self (hkey : t.session.aKey.unstarted = true) : Early t.log t := ⟨⟨[], Told.nil, by simp⟩, hkey⟩

@[simp] lemma early_emit (h : Early log t) (he : ∀ n kind, e ≠ .sessionEnded n kind) :
    Early log (t.emit e) := by
  obtain ⟨⟨es, hes, hlog⟩, hkey⟩ := h
  refine ⟨⟨es ++ [.emit e], hes.append (Told.nil.cons ?_), by simp [hlog]⟩, hkey⟩
  cases e <;> simp_all [Effect.told]

lemma early_congr (hlog : t'.log = t.log) (hkey : t'.session.aKey = t.session.aKey) : Early log t' ↔ Early log t := by
  constructor <;> exact fun ⟨h, h'⟩ => ⟨by simpa [hlog] using h, by simpa [hkey] using h'⟩

@[simp] lemma early_setPrlPush : Early log (t.setPrlPush p) ↔ Early log t := early_congr rfl rfl

@[simp] lemma early_setPrlFetch : Early log (t.setPrlFetch f) ↔ Early log t := early_congr rfl rfl

@[simp] lemma early_setReadback : Early log (t.setReadback r) ↔ Early log t := early_congr rfl rfl

@[simp] lemma early_nextTarget : Early log t.nextTarget ↔ Early log t := early_congr rfl rfl

@[simp] lemma early_completeBlock : Early log t.completeBlock ↔ Early log t := early_congr rfl rfl

lemma unstarted_planAKey (hkey : k.unstarted = true)
    (features : List (UInt8 × UInt8)) : (planAKey k features).unstarted = true := by
  unfold planAKey
  split
  · split <;> rfl
  · exact hkey

section

variable (h : Early log t) (bytes : Bytes)
include h

@[simp] lemma leads_fail : Leads log (t.fail kind) := by
  obtain ⟨⟨es, hes, hlog⟩, -⟩ := h
  exact .ends es t.session.completedBlocks kind hes (by simp [fail, terminate, hlog]) rfl rfl

lemma leads_ask (hm : ordinary msg = true) (hp : phase.early = true) :
    Leads log (t.ask msg phase) := by
  unfold ask
  split
  · obtain ⟨⟨es, hes, hlog⟩, hkey⟩ := h
    exact .asks es msg hes hm (by simp [hlog]) hp hkey rfl
  · exact leads_fail h

lemma leads_finishPlan : Leads log t.finishPlan := by
  obtain ⟨⟨es, hes, hlog⟩, hkey⟩ := h
  unfold finishPlan
  split
  · rename_i rev hp
    exact .offers es rev hes (by simp [hlog]) rfl (by simpa using hp) rfl
  · refine .commits es hes (by simp [sendCommit, hlog]) rfl ?_ rfl
    grind [sendCommit, AKeyProgress.unstarted, send_session, setPhase_aKey]

@[simp] lemma leads_sendNextPrlPushSegment : Leads log t.sendNextPrlPushSegment := by
  unfold sendNextPrlPushSegment
  split
  · exact leads_fail h
  dsimp only
  split_ifs
  · simp [h]
  · simp [h]
  split
  · exact leads_fail h
  split
  · exact leads_fail h
  · rename_i paramData _ _ _ _
    obtain ⟨⟨es, hes, hlog⟩, hkey⟩ := h
    exact .asks es (.ssprDownloadRequest _ paramData) hes rfl (by rw [← append_assoc, ← hlog]; rfl) rfl hkey rfl

lemma leads_advance (steps : List PlanStep) : Leads log (t.advance steps) := by
  induction steps generalizing t with
  | nil => exact leads_finishPlan h
  | cons _ steps ih =>
    unfold advance
    repeat' split
    any_goals exact leads_ask h rfl rfl
    all_goals simp [h, ih, startPrlPush]

@[simp] lemma leads_advanceToNextTarget : Leads log t.advanceToNextTarget := leads_advance h _

@[simp] lemma leads_skipBlock
    : Leads log (t.skipBlock blockId reason feature) := by simp [skipBlock, h]

@[simp] lemma leads_downloadedBlock
    : Leads log (t.downloadedBlock blockId resultCode feature) := by simp [downloadedBlock, h]

/-! ### Handlers of the early phases -/

@[simp] lemma leads_finishPrlOutcome {outcome : PrlOutcome}
    {dims : Option PrlDimensions} : Leads log (t.finishPrlOutcome outcome dims) := by simp [finishPrlOutcome, h]

@[simp] lemma leads_sendNextPrlSegmentRequest :
    Leads log t.sendNextPrlSegmentRequest := by
  unfold sendNextPrlSegmentRequest
  split
  · simp [h, finishPrlDecodeFailure]
  · exact leads_ask h rfl rfl

lemma leads_startPrlPhaseOrAdvance : Leads log t.startPrlPhaseOrAdvance := by
  unfold startPrlPhaseOrAdvance
  split
  · simp [h]
  · exact leads_ask (by simp [h]) rfl rfl

@[simp] lemma leads_startSegments {dims : PrlDimensions} {rev : UInt8} :
    Leads log (t.startSegments dims rev) := by
  unfold startSegments
  split <;> simp [h]

lemma leads_handlePrlDimensions :
    Leads log (t.handlePrlDimensions bytes) := by
  unfold handlePrlDimensions
  repeat' split
  any_goals exact leads_ask h rfl rfl
  all_goals simp [h, finishPrlDecodeFailure]

lemma leads_handlePrlExtendedDimensions :
    Leads log (t.handlePrlExtendedDimensions bytes) := by
  unfold handlePrlExtendedDimensions
  repeat' split
  all_goals simp [h, finishPrlDecodeFailure]

lemma leads_handlePrlSegment (codecs : BlockCodecs) :
    Leads log (handlePrlSegment codecs t bytes) := by
  unfold handlePrlSegment
  dsimp only
  repeat' split
  all_goals simp [h, finishPrlDecodeFailure]

lemma leads_sendProtocolCapability :
    Leads log (t.sendProtocolCapability, .continue) := by
  obtain ⟨⟨es, hes, hlog⟩, hkey⟩ := h
  refine .asks es .protocolCapabilityRequest hes rfl ?_ rfl hkey rfl
  rw [← append_assoc, ← hlog]
  rfl

lemma leads_handleOtapaStart :
    Leads log (t.handleOtapaStart bytes) := by
  unfold handleOtapaStart
  repeat' split
  · exact leads_fail h
  · exact leads_fail h
  · rename_i randOtapa _
    obtain ⟨⟨es, hes, hlog⟩, hkey⟩ := h
    exact .signs es randOtapa hes (by simp [hlog]) rfl hkey rfl
  · exact leads_sendProtocolCapability h

lemma leads_handleSpasmValidation :
    Leads log (t.handleSpasmValidation bytes) := by
  unfold handleSpasmValidation
  split
  · exact leads_sendProtocolCapability h
  · simp [h]

lemma early_pruned : Early log t.prunePlanForUnsupportedFeatures := by
  obtain ⟨⟨es, hes, hlog⟩, hkey⟩ := h
  refine ⟨⟨_, hes.append ?_, by rw [← append_assoc, ← hlog]; rfl⟩, hkey⟩
  intro e he
  obtain ⟨step, -, rfl⟩ := mem_map.mp he
  rfl

lemma leads_handleProtocolCapability :
    Leads log (t.handleProtocolCapability bytes) := by
  unfold handleProtocolCapability
  split
  · exact leads_fail h
  rename_i resp _
  dsimp only
  -- what is known of the mobile changes neither the log nor the key exchange
  have hk : Early log ⟨{ t.session with advertisedFeatures := resp.features.map Prod.fst }, t.log⟩ :=
    ⟨h.told, h.unstarted⟩
  have hp := early_pruned (early_emit hk (e := .protocolCapabilityReceived resp
    ((resp.features.find? (·.1 == FEATURE_OTASP)).map (·.2))) (by simp))
  generalize (Turn.emit _ _).prunePlanForUnsupportedFeatures = pruned at hp
  have hpl : Early log (pruned.setAKey (planAKey pruned.session.aKey resp.features)) :=
    ⟨hp.told, unstarted_planAKey hp.unstarted _⟩
  split
  · exact leads_fail hpl
  · exact leads_ask hpl rfl rfl

lemma leads_handleValidation :
    Leads log (t.handleValidation bytes) := by
  unfold handleValidation
  repeat' split
  any_goals exact leads_fail (by simp [h])
  exact leads_startPrlPhaseOrAdvance (by simp [h])

@[simp] lemma leads_sendNamDownload (codecs : BlockCodecs) :
    Leads log (sendNamDownload codecs t target) := by
  unfold sendNamDownload
  repeat' split
  any_goals exact leads_ask (by simp [h]) rfl rfl
  all_goals simp [h]

lemma leads_handleNamConfig (codecs : BlockCodecs) (target : WriteTarget) : Leads log (handleNamConfig codecs t target bytes) := by
  unfold handleNamConfig
  repeat' split
  any_goals exact leads_advanceToNextTarget (by simp [h])
  any_goals exact leads_sendNamDownload (by simp [h]) codecs
  all_goals simp [h]

lemma leads_handleNamDownload (target : WriteTarget) :
    Leads log (t.handleNamDownload target bytes) := by
  unfold handleNamDownload
  repeat' split
  all_goals simp [h]

lemma leads_handleSystemTagConfig (codecs : BlockCodecs) :
    Leads log (handleSystemTagConfig codecs t bytes) := by
  unfold handleSystemTagConfig
  repeat' split
  any_goals exact leads_ask (by simp [h]) rfl rfl
  all_goals simp [h]

lemma leads_handleSystemTagDownload :
    Leads log (t.handleSystemTagDownload bytes) := by
  unfold handleSystemTagDownload
  repeat' split
  all_goals simp [h]

lemma leads_handleMmsConfig :
    Leads log (t.handleMmsConfig bytes) := by
  unfold handleMmsConfig
  repeat' split
  any_goals exact leads_ask (by simp [h]) rfl rfl
  all_goals simp [h]

lemma leads_handleMmsDownload :
    Leads log (t.handleMmsDownload bytes) := by
  unfold handleMmsDownload
  repeat' split
  all_goals simp [h]

lemma leads_handleSsprDownloadResponse :
    Leads log (t.handleSsprDownloadResponse bytes) := by
  unfold handleSsprDownloadResponse
  dsimp only
  repeat' split
  all_goals simp [h]

end

/-- **An early phase and an inbound message.** -/
theorem leads_dispatch (codecs : BlockCodecs) (he : t.session.phase.early = true)
    (h : Early log t) (bytes : Bytes) : Leads log (dispatch codecs t bytes) := by
  unfold dispatch
  cases hp : t.session.phase with
  | awaitingOtapaStart => exact leads_handleOtapaStart h bytes
  | awaitingSpasmSignature => exact leads_fail h
  | awaitingSpasmValidation => exact leads_handleSpasmValidation h bytes
  | awaitingProtocolCapability => exact leads_handleProtocolCapability h bytes
  | awaitingValidation => exact leads_handleValidation h bytes
  | awaitingPrlDimensions => exact leads_handlePrlDimensions h bytes
  | awaitingPrlExtendedDimensions => exact leads_handlePrlExtendedDimensions h bytes
  | awaitingPrlSegment => exact leads_handlePrlSegment h bytes codecs
  | awaitingNamConfig target => exact leads_handleNamConfig h bytes codecs target
  | awaitingNamDownload target => exact leads_handleNamDownload h bytes target
  | awaitingSystemTagConfig => exact leads_handleSystemTagConfig h bytes codecs
  | awaitingSystemTagDownload => exact leads_handleSystemTagDownload h bytes
  | awaitingMmsConfig => exact leads_handleMmsConfig h bytes
  | awaitingMmsDownload => exact leads_handleMmsDownload h bytes
  | awaitingSsprDownloadResponse => exact leads_handleSsprDownloadResponse h bytes
  | _ =>
    rw [hp] at he
    cases he

/-- **An early phase and a failed delivery.** It leads on, is ignored or ends the session. -/
theorem onDbmFailed_early (he : t.session.phase.early = true) (h : Early log t) (cause : UInt8) :
    (∃ r, Leads log r ∧ t.onDbmFailed cause = r.1) ∨ t.onDbmFailed cause = t := by
  unfold onDbmFailed
  split
  any_goals exact .inl ⟨_, leads_skipBlock (by simpa using h), rfl⟩
  any_goals exact .inr rfl
  any_goals exact .inl ⟨_, (leads_fail h : Leads log (t.fail .protocolError)), rfl⟩
  all_goals
    rename_i hp
    rw [hp] at he
    cases he

end Turn

/-! ### Steps -/

/-- The answer to a Key Generation Request is waited for, and its delivery fails or something arrives
that cannot be decoded. -/
def loses : Phase → SessionInput → Bool
  | .awaitingKeyGenerationResponse, .dbmFailed _ => true
  | .awaitingKeyGenerationResponse, .inbound bytes => !bytes.isEmpty && (KeyGenerationResponse.decode bytes).isNone
  | _, _ => false

/-- The Key Generation Response that was waited for, with a result other than accepted. -/
def refuses : Phase → SessionInput → Bool
  | .awaitingKeyGenerationResponse, .inbound bytes =>
    (KeyGenerationResponse.decode bytes).any (!·.result.isAccepted)
  | _, _ => false

def verifies : Phase → SessionInput → Bool
  | .awaitingReauthenticationVerdict, .reauthenticationVerified ok => ok
  | _, _ => false

/-- What is handed over when a key exchange is given up: events, and perhaps the request to forget the
exchange. -/
def Winding (es : List Effect) : Prop :=
  ∃ told abort, Told told ∧ (abort = [] ∨ abort = [.request .abortKeyExchange]) ∧ es = told ++ abort

lemma Told.winding (h : Told es) : Winding es := ⟨es, [], h, .inl rfl, by simp⟩

lemma Winding.mem (h : Winding es) (he : e ∈ es) :
    e.told = true ∨ e = .request .abortKeyExchange := by
  obtain ⟨told, abort, ht, ha, rfl⟩ := h
  obtain he | he := mem_append.mp he
  · exact .inl (ht e he)
  grind

/-- **What one call of a session can do.** -/
inductive Step (s : OtaspSession) (i : SessionInput) (s' : OtaspSession) : List Effect → Prop
  /-- The call does not belong to the phase. -/
  | ignored (hloss : ¬ loses s.phase i) (hrefusal : ¬ refuses s.phase i)
    (hverdict : ¬ verifies s.phase i) (hsame : s' = s) : Step s i s' []
  /-- On with the plan. -/
  | asked (es : List Effect) (message : OtaspMessage) (hes : Told es)
    (hmessage : ordinary message = true) (hphase : s.phase.early = true)
    (hphase' : s'.phase.early = true) (hkey' : s'.aKey.unstarted = true) :
    Step s i s' (es ++ [.send message])
  /-- The HLR is asked to sign for the mobile. -/
  | signing (es : List Effect) (randOtapa : UInt32) (hes : Told es) (hphase : s.phase.early = true)
    (hphase' : s'.phase = .awaitingSpasmSignature) (hkey' : s'.aKey.unstarted = true) :
    Step s i s' (es ++ [.request (.validateSpasm randOtapa)])
  /-- The plan is done and a key is to be exchanged. -/
  | offered (es : List Effect) (rev : UInt8) (hes : Told es) (hphase : s.phase.early = true)
    (hphase' : s'.phase = .awaitingKeyExchangeOffer) :
    Step s i s' (es ++ [.request (.beginKeyExchange rev)])
  /-- The plan is done and no key is to be exchanged. -/
  | committed (es : List Effect) (hes : Told es) (hphase : s.phase.early = true)
    (hphase' : s'.phase = .awaitingCommit) (hkey' : s'.aKey = .notPlanned) :
    Step s i s' (es ++ [.send .commitRequest])
  /-- The HLR's offer goes to the mobile. -/
  | exchanging (offer : KeyExchangeOffer) (message : OtaspMessage) (rev : UInt8)
    (hphase : s.phase = .awaitingKeyExchangeOffer) (hi : i = .keyExchangeOffer (some offer))
    (hmessage : message = .msKeyRequest offer.aKeyPRev offer.params)
    (hphase' : s'.phase = .awaitingMsKeyResponse) :
    Step s i s' [.send message, .emit (.aKeyProgress .requested true rev none none)]
  /-- No key is exchanged after all; the mobile has not begun to compute one. -/
  | givenUp (es : List Effect) (hes : Winding es)
    (hphase : s.phase = .awaitingKeyExchangeOffer ∨ s.phase = .awaitingMsKeyResponse)
    (hphase' : s'.phase = .awaitingCommit) (hkey' : s'.aKey ≠ .ready) :
    Step s i s' (es ++ [.send .commitRequest])
  /-- The mobile is asked for its half of the key. -/
  | keyRequested (bytes bsResult : Bytes) (result : ResultCode) (rev : UInt8)
    (hphase : s.phase = .awaitingMsKeyResponse) (hi : i = .inbound bytes)
    (hdecode : MsKeyResponse.decode bytes = some result) (haccepted : result.isAccepted = true)
    (hphase' : s'.phase = .awaitingKeyGenerationResponse) :
    Step s i s' [.emit (.aKeyProgress .msKeyResponse true rev (some result.toU8) none),
      .send (.keyGenerationRequest bsResult)]
  /-- The mobile's half arrives. -/
  | generated (bytes : Bytes) (response : KeyGenerationResponse) (rev : UInt8)
    (hphase : s.phase = .awaitingKeyGenerationResponse) (hi : i = .inbound bytes)
    (hdecode : KeyGenerationResponse.decode bytes = some response)
    (haccepted : response.result.isAccepted = true)
    (hphase' : s'.phase = .awaitingKeyExchangeCompletion) :
    Step s i s' [.emit (.aKeyProgress .keyGenerationResponse true rev (some response.result.toU8) none),
      .request (.completeKeyExchange response.msResult)]
  /-- The mobile refuses to generate a key. -/
  | refused (es : List Effect) (hes : Winding es) (hrefusal : refuses s.phase i)
    (hphase' : s'.phase = .awaitingCommit) (hkey' : s'.aKey ≠ .ready) :
    Step s i s' (es ++ [.send .commitRequest])
  /-- What the mobile answered, if anything, is not known. -/
  | lost (es : List Effect) (hes : Winding es) (hloss : loses s.phase i)
    (hphase' : s'.phase = .awaitingCommit) (hkey' : s'.aKey ≠ .ready) :
    Step s i s' (es ++ [.send .commitRequest])
  /-- The HLR has derived the key. -/
  | derived (rev : UInt8) (hphase : s.phase = .awaitingKeyExchangeCompletion)
    (hi : i = .keyExchangeCompleted true) (hphase' : s'.phase = .awaitingSsdUpdate) :
    Step s i s' [.emit (.aKeyProgress .keyDerived true rev none none), .request .ssdUpdate]
  /-- Both sides have the SSD of the new key. -/
  | updated (rand : UInt32) (rev : UInt8) (hphase : s.phase = .awaitingSsdUpdate)
    (hi : i = .ssdUpdateFinished true rand)
    (hphase' : s'.phase = .awaitingReAuthenticateResponse rand) :
    Step s i s' [.emit (.aKeyProgress .ssdUpdate true rev none none),
      .send (.reAuthenticateRequest rand)]
  /-- The mobile has answered with the new SSD. -/
  | answered (rand : UInt32) (bytes : Bytes) (response : ReAuthenticateResponse)
    (hphase : s.phase = .awaitingReAuthenticateResponse rand) (hi : i = .inbound bytes)
    (hdecode : ReAuthenticateResponse.decode bytes = some response)
    (hphase' : s'.phase = .awaitingReauthenticationVerdict) :
    Step s i s' [.request (.verifyReauthentication rand response)]
  /-- The HLR accepts the answer. -/
  | verified (rev : UInt8) (hphase : s.phase = .awaitingReauthenticationVerdict)
    (hi : i = .reauthenticationVerified true) (hphase' : s'.phase = .awaitingCommit)
    (hkey' : s'.aKey = .ready) :
    Step s i s' [.emit (.aKeyProgress .reAuthentication true rev none none), .send .commitRequest]
  /-- The mobile answers the commit of a new key. -/
  | closed (bytes : Bytes) (result : ResultCode) (rev : UInt8) (n : ℕ)
    (hphase : s.phase = .awaitingCommit) (hkey : s.aKey = .ready) (hi : i = .inbound bytes)
    (hdecode : CommitResponse.decode bytes = some result) (hphase' : s'.phase = .terminated) :
    Step s i s' [.emit (.commitResult result.toU8),
      .emit (.aKeyProgress .committed result.isAccepted rev (some result.toU8) none),
      .request (if result.isAccepted then .commitKey else .abortKeyExchange),
      .emit (.sessionEnded n (if result.isAccepted then .committed else .rejected))]
  /-- The session ends without a commit of a new key. -/
  | ended (es : List Effect) (n : ℕ) (kind : SessionOutcomeKind)
    (hes : Told es) (hloss : ¬ loses s.phase i)
    (hlive : s.phase ≠ .terminated ∨ ∃ signature, i = .spasmSignature signature)
    (hphase' : s'.phase = .terminated) : Step s i s' (es ++ [.emit (.sessionEnded n kind)])

/-- The key exchange has not begun in a phase before it. -/
def Coherent (s : OtaspSession) : Prop := s.phase.early = true → s.aKey.unstarted = true

lemma not_loses_of_ne (h : p ≠ .awaitingKeyGenerationResponse) :
    ¬ loses p i := by
  unfold loses
  split <;> simp_all

lemma not_refuses_of_ne (h : p ≠ .awaitingKeyGenerationResponse) :
    ¬ refuses p i := by
  unfold refuses
  split <;> simp_all

lemma not_verifies_of_ne (h : p ≠ .awaitingReauthenticationVerdict) :
    ¬ verifies p i := by
  unfold verifies
  split <;> simp_all

lemma Phase.early_ne {p q : Phase} (h : p.early = true) (hq : q.early = false) : p ≠ q := by
  rintro rfl
  rw [h] at hq
  cases hq

lemma Leads.step (he : s.phase.early = true) (h : Leads [] r) : Step s i r.1.session r.1.log := by
  cases h with
  | asks es msg hes hm hlog hp hkey => exact hlog ▸ .asked es msg hes hm he hp hkey
  | signs es rand hes hlog hp hkey => exact hlog ▸ .signing es rand hes he hp hkey
  | offers es rev hes hlog hp => exact hlog ▸ .offered es rev hes he hp
  | commits es hes hlog hp hkey => exact hlog ▸ .committed es hes he hp hkey
  | ends es n kind hes hlog hp =>
    exact hlog ▸ .ended es n kind hes (not_loses_of_ne (Phase.early_ne he rfl))
      (.inl (Phase.early_ne he rfl)) hp

/-! ### Every call is a step -/

namespace OtaspSession

def call (codecs : BlockCodecs) (s : OtaspSession) (i : SessionInput) : Turn × Option SessionOutcome :=
  Turn.call codecs ⟨s, []⟩ i

end OtaspSession

/-- What a call answers is a step of the session. -/
def IsStep (s : OtaspSession) (i : SessionInput) (t : Turn) : Prop := Step s i t.session t.log

lemma Turn.outcome_terminated {t : Turn} (h : t.session.phase = .terminated)
    (kind : SessionOutcomeKind) : (t.outcome kind).1 = t := by
  obtain ⟨session, log⟩ := t
  obtain ⟨⟩ := session
  cases h
  rfl

lemma Leads.stepOutcome {r : Turn × StepResult} (h : Leads log r) :
    (Turn.stepOutcome r).1 = r.1 := by
  unfold Turn.stepOutcome
  cases h with
  | ends _ _ kind _ _ hp hr =>
    rw [hr]
    exact Turn.outcome_terminated hp kind
  | _ => simp_all

variable {s : OtaspSession} {i : SessionInput}

lemma isStep_ignored (hl : ¬ loses s.phase i) (hr : ¬ refuses s.phase i)
    (hv : ¬ verifies s.phase i) : IsStep s i ⟨s, []⟩ := .ignored hl hr hv rfl

lemma isStep_unasked (hin : ∀ bytes, i ≠ .inbound bytes) (hdbm : ∀ cause, i ≠ .dbmFailed cause)
    (hv : s.phase = .awaitingReauthenticationVerdict → ∀ ok, i ≠ .reauthenticationVerified ok) :
    IsStep s i ⟨s, []⟩ := by
  apply isStep_ignored
  · unfold loses
    split <;> simp_all
  · unfold refuses
    split <;> simp_all
  · unfold verifies
    split <;> simp_all

lemma isStep_fail {t : Turn} (hlog : Told t.log) (hl : ¬ loses s.phase i)
    (hli : s.phase ≠ .terminated) (kind : SessionOutcomeKind) :
    IsStep s i (Turn.stepOutcome (t.fail kind)).1 :=
  .ended t.log t.session.completedBlocks kind hlog hl (.inl hli) rfl

lemma isStep_failKeyExchange {t : Turn} (hlog : Told t.log)
    (hne : s.phase ≠ .awaitingKeyGenerationResponse) (hl : s.phase ≠ .terminated) :
    IsStep s i (Turn.stepOutcome t.failKeyExchange).1 :=
  isStep_fail (t := t.setAKey .abandoned) hlog (not_loses_of_ne hne) hl _

lemma told_emitAKey (step : AKeyStep) (success : Bool) (code : Option UInt8) :
    Told ((Turn.mk s []).emitAKey step success code).log := Told.nil.cons rfl

lemma isStep_abandon {told : Turn} (ht : Told told.log)
    (hwhy : (s.phase = .awaitingKeyExchangeOffer ∨ s.phase = .awaitingMsKeyResponse) ∨
      loses s.phase i ∨ refuses s.phase i) : IsStep s i told.abandonKeyExchange.1 := by
  have hes : Winding (told.log ++ [.request .abortKeyExchange]) := ⟨_, _, ht, .inr rfl, rfl⟩
  have hkey : told.abandonKeyExchange.1.session.aKey ≠ .ready := nofun
  obtain hp | hl | hr := hwhy
  · exact Step.givenUp _ hes hp rfl hkey
  · exact Step.lost _ hes hl rfl hkey
  · exact Step.refused _ hes hr rfl hkey

/-! ### Messages in the phases of the key exchange -/

lemma isStep_handleMsKeyResponse (hp : s.phase = .awaitingMsKeyResponse) (bytes : Bytes) :
    IsStep s (.inbound bytes) (Turn.stepOutcome ((Turn.mk s []).handleMsKeyResponse bytes)).1 := by
  unfold Turn.handleMsKeyResponse
  dsimp only
  repeat' split
  any_goals exact isStep_abandon (told_emitAKey _ _ _) (.inl (.inr hp))
  rename_i bsResult _ hany _ _ _
  obtain ⟨result, hde, ha⟩ : ∃ result, MsKeyResponse.decode bytes = some result ∧ result.isAccepted = true := by
    simpa [Option.any_eq_true] using hany
  rw [hde, Option.any_some, ha]
  exact Step.keyRequested bytes bsResult result s.aKeyPRev hp rfl hde ha rfl

lemma isStep_handleKeyGenerationResponse (hp : s.phase = .awaitingKeyGenerationResponse)
    {bytes : Bytes} (hb : bytes ≠ []) :
    IsStep s (.inbound bytes) (Turn.stepOutcome ((Turn.mk s []).handleKeyGenerationResponse bytes)).1 := by
  unfold Turn.handleKeyGenerationResponse
  dsimp only
  cases hde : KeyGenerationResponse.decode bytes with
  | none => exact isStep_abandon (told_emitAKey _ _ _) (.inr (.inl (by simp [hp, loses, hb, hde])))
  | some response =>
    dsimp only
    split
    · rename_i ha
      rw [any_some, ha]
      exact Step.generated bytes response s.aKeyPRev hp rfl hde ha rfl
    · exact isStep_abandon (told_emitAKey _ _ _) (.inr (.inr (by simp_all [refuses])))

lemma isStep_handleReauthenticateResponse {rand : UInt32}
    (hp : s.phase = .awaitingReAuthenticateResponse rand) (bytes : Bytes) :
    IsStep s (.inbound bytes)
      (Turn.stepOutcome ((Turn.mk s []).handleReauthenticateResponse rand bytes)).1 := by
  unfold Turn.handleReauthenticateResponse
  split
  · rename_i response hde
    exact Step.answered rand bytes response hp rfl hde rfl
  · exact isStep_failKeyExchange (t := Turn.mk s []) (by simp) (by simp [hp]) (by simp [hp])

lemma isStep_handleCommit (hp : s.phase = .awaitingCommit) (bytes : Bytes) :
    IsStep s (.inbound bytes) (Turn.stepOutcome ((Turn.mk s []).handleCommit bytes)).1 := by
  have hl : ¬ loses s.phase (.inbound bytes) := not_loses_of_ne (by simp [hp])
  have hli : s.phase ≠ .terminated := by simp [hp]
  unfold Turn.handleCommit
  split
  · exact isStep_fail Told.nil hl hli _
  rename_i result hde
  dsimp only
  by_cases hr : s.aKey = .ready
  · rw [if_pos hr]
    exact Step.closed bytes result s.aKeyPRev s.completedBlocks hp hr rfl hde rfl
  · rw [if_neg hr]
    exact isStep_fail (Told.nil.cons rfl) hl hli _

/-- **A message is a step.** -/
theorem isStep_onInbound (codecs : BlockCodecs) (hs : Coherent s) (bytes : Bytes) :
    IsStep s (.inbound bytes) (Turn.onInbound codecs ⟨s, []⟩ bytes).1 := by
  unfold Turn.onInbound
  split_ifs with ht hem
  · grind [Turn.outcome_terminated, isStep_ignored, not_loses_of_ne, not_refuses_of_ne, not_verifies_of_ne]
  · rw [Turn.outcome_terminated rfl]
    refine isStep_fail (t := Turn.mk s []) (by simp) ?_ ht .protocolError
    rw [List.isEmpty_iff.mp hem]
    unfold loses
    split <;> simp_all
  · have hb : bytes ≠ [] := by simpa using hem
    -- a phase that expects no message
    have hf : s.phase ≠ .awaitingKeyGenerationResponse →
        IsStep s (.inbound bytes) (Turn.stepOutcome ((Turn.mk s []).fail .protocolError)).1 := by
      intro hne
      exact isStep_fail (by simp) (not_loses_of_ne hne) ht _
    by_cases he : s.phase.early = true
    · have hl := Turn.leads_dispatch codecs he (Turn.early_self (t := ⟨s, []⟩) (hs he)) bytes
      rw [hl.stepOutcome]
      exact hl.step he
    unfold Turn.dispatch
    cases hp : s.phase with
    | awaitingMsKeyResponse => exact isStep_handleMsKeyResponse hp bytes
    | awaitingKeyGenerationResponse => exact isStep_handleKeyGenerationResponse hp hb
    | awaitingReAuthenticateResponse => exact isStep_handleReauthenticateResponse hp bytes
    | awaitingCommit => exact isStep_handleCommit hp bytes
    | terminated => exact absurd hp ht
    | _ => first | exact hf (by simp [hp]) | exact absurd (by rw [hp]; rfl) he

/-! ### The other calls -/

/-- **A failed delivery is a step.** -/
theorem isStep_onDbmFailed (hs : Coherent s) (cause : UInt8) :
    IsStep s (.dbmFailed cause) ((Turn.mk s []).onDbmFailed cause) := by
  have hig : s.phase ≠ .awaitingKeyGenerationResponse → IsStep s (.dbmFailed cause) ⟨s, []⟩ := by
    grind [isStep_ignored, not_loses_of_ne, not_refuses_of_ne, verifies]
  by_cases he : s.phase.early = true
  · obtain ⟨r, hl, hr⟩ | hsa := Turn.onDbmFailed_early he
      (Turn.early_self (t := ⟨s, []⟩) (hs he)) cause
    · rw [hr]
      exact hl.step he
    · rw [hsa]
      exact hig (Phase.early_ne he rfl)
  · unfold Turn.onDbmFailed
    cases hp : s.phase with
    | awaitingMsKeyResponse => exact isStep_abandon (by simp) (.inl (.inr hp))
    | awaitingKeyGenerationResponse => exact isStep_abandon (by simp) (.inr (.inl (by simp [hp, loses])))
    | awaitingReAuthenticateResponse =>
      exact isStep_failKeyExchange (t := Turn.mk s []) (by simp) (by simp [hp]) (by simp [hp])
    | awaitingCommit =>
      exact isStep_fail (t := Turn.mk s []) (by simp) (not_loses_of_ne (by simp [hp]))
        (by simp [hp]) .protocolError
    | _ => first | exact hig (by simp [hp]) | exact absurd (by rw [hp]; rfl) he

lemma isStep_onSpasmSignature (hs : Coherent s) (sig : Option UInt32) :
    IsStep s (.spasmSignature sig) ((Turn.mk s []).onSpasmSignature sig).1 := by
  unfold Turn.onSpasmSignature
  split
  · rw [Turn.outcome_terminated rfl]
    refine Step.ended [.emit (.blockSkipped VBLOCK_VALIDATE_SPASM .spasmUnavailable .nam)]
      s.completedBlocks .rejected (Told.nil.cons rfl) ?_ (.inr ⟨sig, rfl⟩) rfl
    unfold loses
    split <;> simp_all
  · rename_i awaited ha
    have hp : s.phase = .awaitingSpasmSignature := by simpa using (filter_eq_some_iff.mp ha).2
    have he : s.phase.early = true := by rw [hp]; rfl
    have hl : Leads [] ((Turn.mk s []).ask
        (.validationRequest [⟨VBLOCK_VALIDATE_SPASM, Turn.spasmParamData awaited⟩])
        .awaitingSpasmValidation) := Turn.leads_ask (Turn.early_self (t := ⟨s, []⟩) (hs he)) rfl rfl
    rw [hl.stepOutcome]
    exact hl.step he

lemma isStep_onKeyExchangeSkipped (reason : AKeySkipReason) :
    IsStep s (.keyExchangeSkipped reason) ((Turn.mk s []).onKeyExchangeSkipped reason).1 := by
  unfold Turn.onKeyExchangeSkipped
  split_ifs with hp
  · exact isStep_unasked (by simp) (by simp) (by simp)
  · exact Step.givenUp [.emit (.aKeyProgress .skipped true s.aKeyPRev none (some reason))]
      (Told.nil.cons rfl).winding (.inl (not_not.mp hp)) rfl nofun

lemma isStep_onKeyExchangeOffer (offer : Option KeyExchangeOffer) :
    IsStep s (.keyExchangeOffer offer) ((Turn.mk s []).onKeyExchangeOffer offer).1 := by
  unfold Turn.onKeyExchangeOffer
  split_ifs with hp
  · exact isStep_unasked (by simp) (by simp) (by simp)
  replace hp : s.phase = .awaitingKeyExchangeOffer := not_not.mp hp
  split
  · exact Step.givenUp [.emit (.aKeyProgress .requested false s.aKeyPRev none none)]
      (Told.nil.cons rfl).winding (.inl hp) rfl nofun
  rename_i offer
  dsimp only
  split
  · exact Step.exchanging offer _ offer.aKeyPRev hp rfl rfl rfl
  · exact isStep_abandon (by simp) (.inl (.inl hp))

lemma isStep_onKeyExchangeCompleted (ok : Bool) :
    IsStep s (.keyExchangeCompleted ok) ((Turn.mk s []).onKeyExchangeCompleted ok).1 := by
  unfold Turn.onKeyExchangeCompleted
  split_ifs with hp hok
  · exact isStep_unasked (by simp) (by simp) (by simp)
  · subst hok
    exact Step.derived s.aKeyPRev (not_not.mp hp) rfl rfl
  · exact isStep_failKeyExchange (told_emitAKey _ _ _) (by simp_all) (by simp_all)

lemma isStep_onSsdUpdateFinished (ok : Bool) (rand : UInt32) :
    IsStep s (.ssdUpdateFinished ok rand) ((Turn.mk s []).onSsdUpdateFinished ok rand).1 := by
  unfold Turn.onSsdUpdateFinished
  split_ifs with hp hok
  · exact isStep_unasked (by simp) (by simp) (by simp)
  · subst hok
    exact Step.updated rand s.aKeyPRev (not_not.mp hp) rfl rfl
  · exact isStep_failKeyExchange (told_emitAKey _ _ _) (by simp_all) (by simp_all)

lemma isStep_onReauthenticationVerified (ok : Bool) :
    IsStep s (.reauthenticationVerified ok) ((Turn.mk s []).onReauthenticationVerified ok).1 := by
  unfold Turn.onReauthenticationVerified
  split_ifs with hp hok
  · exact isStep_unasked (by simp) (by simp) (fun h => absurd h hp)
  · subst hok
    exact Step.verified s.aKeyPRev (not_not.mp hp) rfl rfl rfl
  · exact isStep_failKeyExchange (told_emitAKey _ _ _) (by simp_all) (by simp_all)

/-- **Every call of a session is a step.** -/
theorem step_call (codecs : BlockCodecs) (hs : Coherent s) (i : SessionInput) :
    Step s i (s.call codecs i).1.session (s.call codecs i).1.log := by
  cases i with
  | inbound bytes => exact isStep_onInbound codecs hs bytes
  | dbmFailed cause => exact isStep_onDbmFailed hs cause
  | spasmSignature sig => exact isStep_onSpasmSignature hs sig
  | keyExchangeSkipped reason => exact isStep_onKeyExchangeSkipped reason
  | keyExchangeOffer offer => exact isStep_onKeyExchangeOffer offer
  | keyExchangeCompleted ok => exact isStep_onKeyExchangeCompleted ok
  | ssdUpdateFinished ok rand => exact isStep_onSsdUpdateFinished ok rand
  | reauthenticationVerified ok => exact isStep_onReauthenticationVerified ok

lemma Step.coherent (h : Step s i s' es) (hs : Coherent s) : Coherent s' := by
  intro he
  cases h with
  | ignored _ _ _ hsa =>
    subst hsa
    exact hs he
  | asked _ _ _ _ _ _ hk | signing _ _ _ _ _ hk => exact hk
  | _ =>
    -- the phase after the step is not an early one
    rw [‹s'.phase = _›] at he
    cases he

lemma start_spec (cfg : OtaspConfig) (device : HardwareIdentity) (feature : String)
    (option : UInt16) (hlr : Option ResolvedSubscriberInput) (init : SessionInitiation) :
    ∃ (started : Turn) (es : List Effect) (msg : OtaspMessage),
      (OtaspSession.new cfg device feature option hlr).startWithInitiation init = started ∧
      Told es ∧ ordinary msg = true ∧ started.log = es ++ [.send msg] ∧
      started.session.phase.early = true ∧ started.session.aKey.unstarted = true := by
  have hkey : (OtaspSession.new cfg device feature option hlr).aKey.unstarted = true := by
    simp only [OtaspSession.new]
    split <;> rfl
  cases init with
  | user | network => exact ⟨_, [_], _, rfl, Told.nil.cons rfl, rfl, rfl, rfl, hkey⟩

end OneXBts.Msc
