import OneXBts.Lib.Traces
import OneXBts.Msc.OtaspSteps

/-!
The key exchange over whole runs of a provisioning session.

The trace of a run has every call, with the phase it found the session in, and what the call handed the transport. Read off
the steps are when a Commit Request can reach a mobile that may hold a key the HLR does not have (`CommitsSafely`), and
what precedes the request that makes the HLR store the new key.
-/

namespace OneXBts.Msc

open Lib Otasp List Effect

/-! ### Runs -/

/-- A call, with the phase it found the session in, or something handed to the transport. -/
inductive Item where
  | call (phase : Phase) (input : SessionInput)
  | effect (e : Effect)
deriving Repr, DecidableEq

structure Traced where
  session : OtaspSession
  trace : List Item
deriving Repr, DecidableEq

namespace Traced

def start (s : OtaspSession) (initiation : SessionInitiation) : Traced where
  session := (s.startWithInitiation initiation).session
  trace := (s.startWithInitiation initiation).log.map .effect

def call (codecs : BlockCodecs) (t : Traced) (i : SessionInput) : Traced where
  session := (t.session.call codecs i).1.session
  trace := t.trace ++ .call t.session.phase i :: (t.session.call codecs i).1.log.map .effect

def run (codecs : BlockCodecs) (cfg : OtaspConfig) (device : HardwareIdentity) (featureCode : String)
    (serviceOption : UInt16) (hlr : Option ResolvedSubscriberInput) (initiation : SessionInitiation)
    (inputs : List SessionInput) : Traced :=
  inputs.foldl (call codecs)
    (start (OtaspSession.new cfg device featureCode serviceOption hlr) initiation)

end Traced

section Runs

variable (codecs : BlockCodecs) (cfg : OtaspConfig) (device : HardwareIdentity) (featureCode : String)
  (serviceOption : UInt16) (hlr : Option ResolvedSubscriberInput) (initiation : SessionInitiation)
  (inputs : List SessionInput)

/-- **The invariant rule of session runs**: what holds of a session that has sent an ordinary message, and
is kept by every step, holds after every run. -/
theorem run_inv (I : OtaspSession → List Item → Prop)
    (h0 : ∀ s es msg, Told es → ordinary msg = true → s.phase.early = true →
      I s ((es ++ [send msg]).map .effect))
    (hs : ∀ s trace i s' es, I s trace → Step s i s' es → I s' (trace ++ .call s.phase i :: es.map .effect)) :
    I (Traced.run codecs cfg device featureCode serviceOption hlr initiation inputs).session
      (Traced.run codecs cfg device featureCode serviceOption hlr initiation inputs).trace := by
  suffices h : Coherent
      (Traced.run codecs cfg device featureCode serviceOption hlr initiation inputs).session ∧
      I (Traced.run codecs cfg device featureCode serviceOption hlr initiation inputs).session
        (Traced.run codecs cfg device featureCode serviceOption hlr initiation inputs).trace from h.2
  induction inputs using reverseRecOn with
  | nil =>
    obtain ⟨started, es, msg, hst, hes, hm, hlog, he, hkey⟩ :=
      start_spec cfg device featureCode serviceOption hlr initiation
    simp only [Traced.run, Traced.start, foldl_nil, hst, hlog]
    exact ⟨fun _ => hkey, h0 _ es msg hes hm he⟩
  | append_singleton inputs i ih =>
    obtain ⟨hc, hI⟩ := ih
    simp only [Traced.run, foldl_append]
    have hca := step_call codecs hc i
    exact ⟨hca.coherent hc, hs _ _ _ _ _ hI hca⟩

end Runs

/-! ### Commits and the key the mobile may hold -/

def Item.owes (x : Item) : Prop := ∃ bsResult, x = .effect (.send (.keyGenerationRequest bsResult))

/-- The mobile's refusal to generate a key, or the proof that it has the HLR's key. -/
def Item.settles : Item → Prop
  | .call phase input => refuses phase input ∨ verifies phase input
  | .effect _ => False

def Item.lost : Item → Bool
  | .call phase input => loses phase input
  | .effect _ => false

/-- A Commit Request after a Key Generation Request goes out only if the mobile has refused in between,
or its key has been verified. -/
def CommitsSafely (trace : List Item) : Prop :=
  ∀ before between after bsResult,
    trace = before ++ .effect (.send (.keyGenerationRequest bsResult)) ::
      (between ++ .effect (.send .commitRequest) :: after) →
    ∃ x ∈ between, x.settles

/-- The mobile was asked for a key, and since then it may hold one the HLR does not have. -/
def InDebt (trace : List Item) : Prop := Since (fun x => ¬ x.settles) Item.owes trace

lemma commitsSafely_iff_guards :
    CommitsSafely trace ↔ Guards (· = .effect (.send .commitRequest)) (fun before => ¬ InDebt before) trace := by
  constructor
  · rintro h before x after rfl rfl ⟨first, y, between, rfl, ⟨bsResult, rfl⟩, hb⟩
    obtain ⟨x, hx, hs⟩ := h first between after bsResult (by simp)
    exact hb x hx hs
  rintro h before between after bsResult rfl
  by_contra hn
  push Not at hn
  refine h (before ++ .effect (.send (.keyGenerationRequest bsResult)) :: between) _ after (by simp) rfl ?_
  exact ⟨before, _, between, rfl, ⟨bsResult, rfl⟩, hn⟩

def Effect.plain : Effect → Bool
  | .send (.keyGenerationRequest _) | .send .commitRequest => false
  | _ => true

lemma plain_of_told {e : Effect} (h : e.told = true) : e.plain = true := by
  unfold plain
  split <;> simp_all [told]

lemma plain_of_ordinary (h : ordinary msg = true) :
    (send msg).plain = true := by cases msg <;> first | rfl | cases h

lemma plain_snoc {e : Effect} (hes : Told es) (he : e.plain = true) :
    ∀ x ∈ es ++ [e], x.plain = true := by grind [plain_of_told, Told]

lemma plain_of_winding (h : Winding es) : ∀ e ∈ es, e.plain = true := by
  intro e he
  obtain ht | rfl := h.mem he
  · exact plain_of_told ht
  · rfl

section Debt

variable {trace : List Item} {p : Phase} {i : SessionInput} {es : List Effect}

lemma inDebt_call : InDebt (trace ++ [.call p i]) ↔ InDebt trace ∧ ¬ (Item.call p i).settles := by
  unfold InDebt
  rw [since_snoc]
  simp [Item.owes]

lemma inDebt_plain (hes : ∀ e ∈ es, e.plain = true) :
    InDebt (trace ++ .call p i :: es.map .effect) ↔ InDebt trace ∧ ¬ (Item.call p i).settles := by
  rw [← inDebt_call, ← singleton_append, ← append_assoc]
  apply since_append
  grind [Item.owes, Item.settles, plain]

lemma commitsSafely_call (hes : ∀ e ∈ es, e ≠ .send .commitRequest) :
    CommitsSafely (trace ++ .call p i :: es.map .effect) ↔ CommitsSafely trace := by
  grind [commitsSafely_iff_guards, guards_append]

section

variable (hes : ∀ e ∈ es, e.plain = true)
include hes

lemma ne_commit_of_plain : ∀ e ∈ es, e ≠ .send .commitRequest := by
  rintro e he rfl
  cases hes _ he

lemma not_mem_keyGenerationRequest (bsResult : Bytes) :
    Item.effect (.send (.keyGenerationRequest bsResult)) ∉ es.map .effect := by
  intro hmem
  obtain ⟨e, he, heq⟩ := mem_map.mp hmem
  cases heq
  cases hes _ he

lemma commitsSafely_commit :
    CommitsSafely (trace ++ .call p i :: (es ++ [send .commitRequest]).map .effect) ↔
      CommitsSafely trace ∧ ¬ (InDebt trace ∧ ¬ (Item.call p i).settles) := by
  have hc : CommitsSafely (trace ++ .call p i :: es.map .effect) ↔ CommitsSafely trace :=
    commitsSafely_call (ne_commit_of_plain hes)
  grind [inDebt_plain, commitsSafely_iff_guards, guards_snoc]

end

end Debt

def Phase.keyless (p : Phase) : Bool := p.early || p == .awaitingKeyExchangeOffer || p == .awaitingMsKeyResponse

/-- The phases in which the mobile may hold a key that is not verified yet. -/
def Phase.owing : Phase → Bool
  | .awaitingKeyGenerationResponse | .awaitingKeyExchangeCompletion | .awaitingSsdUpdate
  | .awaitingReAuthenticateResponse _ | .awaitingReauthenticationVerdict => true
  | _ => false

structure Debts (s : OtaspSession) (trace : List Item) : Prop where
  free : s.phase.keyless = true → ¬ InDebt trace
  owing : s.phase.owing = true → InDebt trace

lemma keyless_of_early {p : Phase} (h : p.early = true) : p.keyless = true := by simp [Phase.keyless, h]

lemma owing_of_early {p : Phase} (h : p.early = true) : p.owing = false := by cases p <;> first | rfl | cases h

section Step

variable {s s' : OtaspSession} {trace : List Item} {i : SessionInput} {es : List Effect}

lemma not_settles (hkey : p ≠ .awaitingKeyGenerationResponse)
    (hv : p ≠ .awaitingReauthenticationVerdict) : ¬ (Item.call p i).settles := by
  rintro (h | h)
  · exact not_refuses_of_ne hkey h
  · exact not_verifies_of_ne hv h

lemma Debts.still (h : Debts s trace) (ho : s.phase.owing = true)
    (hs : ¬ (Item.call s.phase i).settles) (hes : ∀ e ∈ es, e.plain = true) (hp' : s'.phase.keyless = false) :
    Debts s' (trace ++ .call s.phase i :: es.map .effect) where
  free hk := by rw [hp'] at hk; cases hk
  owing _ := (inDebt_plain hes).mpr ⟨h.owing ho, hs⟩

lemma Debts.unasked (h : Debts s trace) (hk : s.phase.keyless = true)
    (hes : ∀ e ∈ es, e.plain = true) (hp' : s'.phase.owing = false) :
    Debts s' (trace ++ .call s.phase i :: es.map .effect) where
  free _ hde := h.free hk ((inDebt_plain hes).mp hde).1
  owing ho := by rw [hp'] at ho; cases ho

lemma Debts.done (hp' : s'.phase = .awaitingCommit ∨ s'.phase = .terminated)
    (trace : List Item) : Debts s' trace := by
  rcases hp' with hp' | hp'
  all_goals
    constructor
    · intro hk
      rw [hp'] at hk
      cases hk
    · intro ho
      rw [hp'] at ho
      cases ho

/-- **A step and the debts.** -/
theorem Step.debts (hs : Step s i s' es) (h : Debts s trace) :
    Debts s' (trace ++ .call s.phase i :: es.map .effect) := by
  cases hs with
  | ignored hl hr hv hsa =>
    subst hsa
    have hse : ¬ (Item.call s'.phase i).settles := by
      rintro (h | h)
      · exact hr h
      · exact hv h
    refine ⟨fun hk hdebt => h.free hk ?_, fun ho => ?_⟩ <;> grind [inDebt_plain,
      cases Debts]
  | asked es msg hes hm hp hp' =>
    exact h.unasked (keyless_of_early hp) (plain_snoc hes (plain_of_ordinary hm))
      (owing_of_early hp')
  | signing _ _ hes hp hp' | offered _ _ hes hp hp' =>
    exact h.unasked (keyless_of_early hp) (plain_snoc hes rfl) (by rw [hp']; rfl)
  | exchanging _ msg rev hp hi hm hp' =>
    refine h.unasked (by simp [hp, Phase.keyless]) ?_ (by rw [hp']; rfl)
    simp [hm, plain]
  | keyRequested bytes bsResult result rev hp hi hde ha hp' =>
    refine ⟨fun hk => ?_, fun _ => ?_⟩
    · rw [hp'] at hk
      cases hk
    -- the request is the last item
    have hla : InDebt ((trace ++ [.call s.phase i, .effect (.emit
        (.aKeyProgress .msKeyResponse true rev (some result.toU8) none))]) ++
        [.effect (.send (.keyGenerationRequest bsResult))]) := since_snoc.mpr (.inl ⟨bsResult, rfl⟩)
    simpa using hla
  | generated bytes response rev hp hi hde ha hp' =>
    refine h.still (by rw [hp]; rfl) ?_ (by simp [plain])
      (by rw [hp']; rfl)
    rw [hp, hi]
    simp [Item.settles, refuses, verifies, hde, ha]
  | derived _ hp _ hp' | updated _ _ hp _ hp' | answered _ _ _ hp _ _ hp' =>
    exact h.still (by rw [hp]; rfl) (not_settles (by simp [hp]) (by simp [hp]))
      (by simp [plain]) (by rw [hp']; rfl)
  | committed _ _ _ hp' | givenUp _ _ _ hp' | refused _ _ _ hp' | lost _ _ _ hp' | verified _ _ _ hp' =>
    exact .done (.inl hp') _
  | closed _ _ _ _ _ _ _ _ hp' | ended _ _ _ _ _ _ hp' => exact .done (.inr hp') _

lemma not_loses_of_refuses (h : refuses p i) : ¬ loses p i := by
  intro hl
  unfold refuses at h
  split at h
  · rename_i bytes
    cases hde : KeyGenerationResponse.decode bytes <;> grind [loses]
  · cases h

/-- **A step and the safety of commits**: only a lost answer makes a commit unsafe. -/
theorem Step.commitsSafely_iff (hst : Step s i s' es) (h : Debts s trace) :
    CommitsSafely (trace ++ .call s.phase i :: es.map .effect) ↔ CommitsSafely trace ∧ ¬ loses s.phase i := by
  -- a call without a Commit Request, and a commit of a mobile that is not in debt
  have hpl : (∀ e ∈ es, e ≠ .send .commitRequest) → ¬ loses s.phase i →
      (CommitsSafely (trace ++ .call s.phase i :: es.map .effect) ↔ CommitsSafely trace ∧ ¬ loses s.phase i) := by
    intro hes hl
    rw [commitsSafely_call hes]
    simp [hl]
  have hc : ∀ es : List Effect, (∀ e ∈ es, e.plain = true) → ¬ loses s.phase i →
      ¬ (InDebt trace ∧ ¬ (Item.call s.phase i).settles) →
      (CommitsSafely (trace ++ .call s.phase i :: (es ++ [send .commitRequest]).map .effect) ↔
        CommitsSafely trace ∧ ¬ loses s.phase i) := by
    intro es hes hl hde
    rw [commitsSafely_commit hes]
    simp [hl, hde]
  cases hst with
  | ignored hl => exact hpl (by simp) hl
  | asked es msg hes hm hp =>
    exact hpl (ne_commit_of_plain (plain_snoc hes (plain_of_ordinary hm)))
      (not_loses_of_ne (Phase.early_ne hp rfl))
  | signing _ _ hes hp | offered _ _ hes hp =>
    exact hpl (ne_commit_of_plain (plain_snoc hes rfl))
      (not_loses_of_ne (Phase.early_ne hp rfl))
  | committed es hes hp =>
    exact hc es (fun e he => plain_of_told (hes e he)) (not_loses_of_ne (Phase.early_ne hp rfl))
      fun hde => h.free (keyless_of_early hp) hde.1
  | exchanging _ msg rev hp hi hm => exact hpl (by simp [hm]) (not_loses_of_ne (by simp [hp]))
  | givenUp => grind [Phase.keyless, plain_of_winding, not_loses_of_ne, cases Debts]
  | keyRequested _ _ _ _ hp | derived _ hp | updated _ _ hp | answered _ _ _ hp | closed _ _ _ _ hp =>
    exact hpl (by simp) (not_loses_of_ne (by simp [hp]))
  | generated bytes response rev hp hi hdec =>
    refine hpl (by simp) ?_
    rw [hp, hi]
    simp [loses, hdec]
  | refused => grind [plain_of_winding, not_loses_of_refuses, Item.settles]
  | lost es hes hl =>
    have hp : s.phase = .awaitingKeyGenerationResponse := by
      by_contra hne
      exact not_loses_of_ne hne hl
    have hs : ¬ (Item.call s.phase i).settles := by grind [not_loses_of_refuses, not_verifies_of_ne, Item.settles]
    have hde : InDebt trace := h.owing (by rw [hp]; rfl)
    rw [commitsSafely_commit (plain_of_winding hes)]
    simp [hl, hde, hs]
  | verified rev hp hi =>
    refine hc [.emit (.aKeyProgress .reAuthentication true rev none none)] (by simp [plain])
      (not_loses_of_ne (by simp [hp])) ?_
    rintro ⟨-, hs⟩
    apply hs
    rw [hp, hi]
    exact .inr rfl
  | ended es n _ hes hl => exact hpl (ne_commit_of_plain (plain_snoc hes rfl)) hl

end Step

/-! ### Results -/

section Results

variable (codecs : BlockCodecs) (cfg : OtaspConfig) (device : HardwareIdentity) (featureCode : String)
  (serviceOption : UInt16) (hlr : Option ResolvedSubscriberInput) (initiation : SessionInitiation)
  (inputs : List SessionInput)

/-- **When commits are safe.** In a run of a session, no Commit Request goes out to a mobile that was
sent a Key Generation Request and has neither refused it nor been verified since, exactly if no answer
to a Key Generation Request was lost: neither did its delivery fail while the session waited for the
answer, nor did something arrive then that cannot be decoded. -/
theorem commits_safely_iff :
    CommitsSafely
      (Traced.run codecs cfg device featureCode serviceOption hlr initiation inputs).trace ↔
    ∀ x ∈ (Traced.run codecs cfg device featureCode serviceOption hlr initiation inputs).trace, x.lost = false := by
  refine (run_inv codecs cfg device featureCode serviceOption hlr initiation inputs (fun s trace => Debts s trace ∧
      (CommitsSafely trace ↔ ∀ x ∈ trace, x.lost = false))
    ?_ ?_).2
  · intro s es message hes hm he
    have hp := plain_snoc hes (plain_of_ordinary hm)
    generalize es ++ [send message] = es at hp ⊢
    refine ⟨⟨?_, ?_⟩, ?_⟩
    · rintro - ⟨before, x, after, ht, ⟨bsResult, rfl⟩, -⟩
      exact not_mem_keyGenerationRequest hp bsResult (by simp [ht])
    · intro ho
      rw [owing_of_early he] at ho
      cases ho
    · refine iff_of_true ?_ (by simp [Item.lost])
      intro before between after bsResult ht
      exact absurd (by simp [ht]) (not_mem_keyGenerationRequest hp bsResult)
  · rintro s trace i s' es ⟨hde, hsa⟩ hs
    refine ⟨hs.debts hde, ?_⟩
    rw [hs.commitsSafely_iff hde, hsa]
    simp [Item.lost, forall_and, or_imp]

end Results

/-! ### Two exchanges -/

def noBlocks : BlockCodecs where
  namCdmaAnalog _ := none
  namCdma _ := none
  assembleNam _ := none
  prl _ := none
  prlExt _ := none

def keyOnly : OtaspConfig where
  mmsUri := []
  writes := ⟨false, false, false, false, false, false, true⟩

def untilKeyGeneration : List SessionInput :=
  [.inbound [PROTOCOL_CAPABILITY, 0, 1, 1, 1, FEATURE_KEY_EXCHANGE, A_KEY_P_REV_2G, 1, 0],
    .inbound [VALIDATION, 1, VBLOCK_VERIFY_SPC, 0],
    .keyExchangeOffer (some ⟨A_KEY_P_REV_2G, some ([23], [5]), [8]⟩), .inbound [MS_KEY, 0]]

def fromKeyGeneration : List SessionInput :=
  [.inbound [KEY_GENERATION, 0, 1, 7], .keyExchangeCompleted true, .ssdUpdateFinished true 9,
    .inbound [RE_AUTHENTICATE, 0, 0, 0, 0, 0, 0, 0], .reauthenticationVerified true,
    .inbound [COMMIT_REQ_AND_RESP, 0]]

def keyExchangeRun (inputs : List SessionInput) : Traced :=
  Traced.run noBlocks keyOnly ⟨some 1, none⟩ "*228" 19 (some ⟨none, none, none⟩) .user
    (untilKeyGeneration ++ inputs)

/-- A complete exchange commits safely. -/
theorem commits_safely_verified :
    Item.effect (.send (.keyGenerationRequest [8])) ∈ (keyExchangeRun fromKeyGeneration).trace ∧
    Item.effect (.send .commitRequest) ∈ (keyExchangeRun fromKeyGeneration).trace ∧
    CommitsSafely (keyExchangeRun fromKeyGeneration).trace := by
  refine ⟨by decide +kernel, by decide +kernel, ?_⟩
  apply (commits_safely_iff noBlocks keyOnly ⟨some 1, none⟩ "*228" 19 (some ⟨none, none, none⟩) .user
    (untilKeyGeneration ++ fromKeyGeneration)).mpr
  decide +kernel

/-- **A commit to a mobile that may hold a key of its own**: the delivery of the Key Generation Request
is reported as failed, or the answer cannot be decoded, and the Commit Request goes out all the same. -/
theorem commits_after_lost_answer :
    ¬ CommitsSafely (keyExchangeRun [.dbmFailed 1]).trace ∧
    ¬ CommitsSafely (keyExchangeRun [.inbound [KEY_GENERATION]]).trace := by
  constructor
  · intro h
    obtain ⟨x, hx, hs⟩ := h ((keyExchangeRun []).trace.take 17)
      [.call .awaitingKeyGenerationResponse (.dbmFailed 1), .effect (.request .abortKeyExchange)] [] [8]
      (by decide +kernel)
    grind [Item.settles, refuses, verifies]
  · intro h
    obtain ⟨x, hx, hs⟩ := h ((keyExchangeRun []).trace.take 17)
      [.call .awaitingKeyGenerationResponse (.inbound [KEY_GENERATION]),
        .effect (.emit (.aKeyProgress .keyGenerationResponse false A_KEY_P_REV_2G none none)),
        .effect (.request .abortKeyExchange)] [] [8] (by decide +kernel)
    grind [Item.settles, refuses, verifies, KeyGenerationResponse.decode]

end OneXBts.Msc
