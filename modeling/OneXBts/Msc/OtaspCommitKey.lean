import OneXBts.Msc.OtaspKeyExchange

/-!
What precedes the request to commit a key.

The exchange has nine stages, each a call that the phase of the session was waiting for, or the request
that begins it. How many of them a run has passed can be told from the phase (`OtaspSession.reached`);
the accepted Commit Response is the last.
-/

namespace OneXBts.Msc

open Lib Otasp OtaspSession Effect Item

/-! ### The stages of a key exchange -/

def Item.begins (x : Item) : Prop := ∃ rev, x = .effect (.request (.beginKeyExchange rev))

def Item.offers (x : Item) : Prop := ∃ offer, x = .call .awaitingKeyExchangeOffer (.keyExchangeOffer (some offer))

def Item.acceptsParameters (x : Item) : Prop :=
  ∃ bytes result, x = .call .awaitingMsKeyResponse (.inbound bytes) ∧
    MsKeyResponse.decode bytes = some result ∧ result.isAccepted = true

def Item.generatesKey (x : Item) : Prop :=
  ∃ bytes response, x = .call .awaitingKeyGenerationResponse (.inbound bytes) ∧
    KeyGenerationResponse.decode bytes = some response ∧ response.result.isAccepted = true

def Item.completes (x : Item) : Prop := x = .call .awaitingKeyExchangeCompletion (.keyExchangeCompleted true)

def Item.updatesSsd (x : Item) : Prop := ∃ rand, x = .call .awaitingSsdUpdate (.ssdUpdateFinished true rand)

def Item.answersChallenge (x : Item) : Prop :=
  ∃ rand bytes response, x = .call (.awaitingReAuthenticateResponse rand) (.inbound bytes) ∧
    ReAuthenticateResponse.decode bytes = some response

def Item.verifiesAnswer (x : Item) : Prop :=
  x = .call .awaitingReauthenticationVerdict (.reauthenticationVerified true)

def Item.acceptsCommit (x : Item) : Prop :=
  ∃ bytes result, x = .call .awaitingCommit (.inbound bytes) ∧
    CommitResponse.decode bytes = some result ∧ result.isAccepted = true

def keyExchangeStages : List (Item → Prop) :=
  [Item.begins, Item.offers, Item.acceptsParameters, Item.generatesKey, Item.completes,
    Item.updatesSsd, Item.answersChallenge, Item.verifiesAnswer, Item.acceptsCommit]

def OtaspSession.reached (s : OtaspSession) : ℕ :=
  match s.phase with
  | .awaitingKeyExchangeOffer => 1
  | .awaitingMsKeyResponse => 2
  | .awaitingKeyGenerationResponse => 3
  | .awaitingKeyExchangeCompletion => 4
  | .awaitingSsdUpdate => 5
  | .awaitingReAuthenticateResponse _ => 6
  | .awaitingReauthenticationVerdict => 7
  | .awaitingCommit => if s.aKey = .ready then 8 else 0
  | _ => 0

lemma reached_of_early {s : OtaspSession} (h : s.phase.early = true) : s.reached = 0 := by
  rw [reached]
  cases hp : s.phase <;> first | rfl | rw [hp] at h; cases h

/-! ### Requests about the key -/

def Item.commitsKey : Item := .effect (.request .commitKey)
def Item.abortsExchange : Item := .effect (.request .abortKeyExchange)

def Effect.pending : Effect → Bool
  | .request .commitKey | .request .abortKeyExchange => false
  | _ => true

lemma pending_snoc (hes : Told es) (he : e.pending = true) :
    ∀ x ∈ es ++ [e], x.pending = true := by grind +splitImp [told, pending, Told]

def ExchangeComplete (before : List Item) : Prop :=
  OccurInOrder keyExchangeStages before ∧ .commitsKey ∉ before ∧ .abortsExchange ∉ before

structure Progress (s : OtaspSession) (trace : List Item) : Prop where
  order : OccurInOrder (keyExchangeStages.take s.reached) trace
  uncommitted : s.phase ≠ .terminated → .commitsKey ∉ trace
  unaborted : s.phase ≠ .terminated → (s.phase = .awaitingCommit → s.aKey = .ready) →
    .abortsExchange ∉ trace
  guarded : Guards (· = .commitsKey) ExchangeComplete trace

section Step

variable {s s' : OtaspSession} {trace : List Item} {i : SessionInput} {es : List Effect}

lemma not_mem_call (hmem : .effect (.request r) ∉ trace) (hes : ∀ e ∈ es, e ≠ .request r) :
    .effect (.request r) ∉ trace ++ .call p i :: es.map effect := by grind

lemma guarded_call (hes : ∀ e ∈ es, e ≠ .request .commitKey) (h : Guards (· = .commitsKey) φ trace) :
    Guards (· = .commitsKey) φ (trace ++ .call p i :: es.map effect) := by
  refine (guards_append ?_).mpr h
  rintro y hy rfl
  exact not_mem_call (p := p) (i := i) List.not_mem_nil hes hy

lemma commitKey_ne_of_pending (hes : ∀ e ∈ es, e.pending = true) :
    ∀ e ∈ es, e ≠ .request .commitKey := by
  rintro e he rfl
  cases hes _ he

lemma abortKeyExchange_ne_of_pending (hes : ∀ e ∈ es, e.pending = true) :
    ∀ e ∈ es, e ≠ .request .abortKeyExchange := by
  rintro e he rfl
  cases hes _ he

lemma commitKey_ne_of_winding (hes : Winding es) : ∀ e ∈ es, e ≠ .request .commitKey := by
  rintro e he rfl
  obtain ht | heq := hes.mem he
  · cases ht
  · cases heq

lemma Progress.pending (h : Progress s trace) (hl : s.phase ≠ .terminated)
    (hr : s.phase = .awaitingCommit → s.aKey = .ready) (hes : ∀ e ∈ es, e.pending = true)
    (ho : OccurInOrder (keyExchangeStages.take s'.reached) (trace ++ .call s.phase i :: es.map .effect)) :
    Progress s' (trace ++ .call s.phase i :: es.map .effect) where
  order := ho
  uncommitted _ := not_mem_call (h.uncommitted hl) (commitKey_ne_of_pending hes)
  unaborted _ _ := not_mem_call (h.unaborted hl hr) (abortKeyExchange_ne_of_pending hes)
  guarded := guarded_call (commitKey_ne_of_pending hes) h.guarded

lemma unreached (h : s.reached = 0) : OccurInOrder (keyExchangeStages.take s.reached) trace := h ▸ .nil

lemma Progress.wound (h : Progress s trace) (hl : s.phase ≠ .terminated)
    (hes : Winding es) (hp' : s'.phase = .awaitingCommit) (hkey' : s'.aKey ≠ .ready) :
    Progress s' (trace ++ .call s.phase i :: (es ++ [send .commitRequest]).map .effect) := by
  have hne : ∀ e ∈ es ++ [send .commitRequest], e ≠ .request .commitKey := by grind [commitKey_ne_of_winding]
  refine ⟨unreached (by simp [reached, hp', hkey']), fun _ => not_mem_call (h.uncommitted hl) hne, ?_,
    guarded_call hne h.guarded⟩
  intro _ hre
  exact absurd (hre hp') hkey'

lemma Progress.early (h : Progress s trace) (hp : s.phase.early = true) (hes : Told es) (he : e.pending = true)
    (ho : OccurInOrder (keyExchangeStages.take s'.reached) (trace ++ .call s.phase i :: (es ++ [e]).map .effect)) :
    Progress s' (trace ++ .call s.phase i :: (es ++ [e]).map .effect) :=
  h.pending (Phase.early_ne hp rfl) (fun hc => absurd hc (Phase.early_ne hp rfl)) (pending_snoc hes he) ho

lemma live_of_reached (h : s.reached ≠ 0) :
    s.phase ≠ .terminated ∧ (s.phase = .awaitingCommit → s.aKey = .ready) := by
  constructor
  · intro hp
    exact h (by rw [reached, hp])
  · intro hp
    by_contra hk
    exact h (by rw [reached, hp]; exact if_neg hk)

lemma occurInOrder_call (h : OccurInOrder ps trace) (hq : q (.call p i)) (es : List Effect) :
    OccurInOrder (ps ++ [q]) (trace ++ .call p i :: es.map .effect) := by
  simpa using (h.snoc hq).append (es.map .effect)

lemma Progress.stage (h : Progress s trace) (hr : s.reached = n + 1)
    (hs : keyExchangeStages.take (n + 2) = keyExchangeStages.take (n + 1) ++ [q])
    (hq : q (.call s.phase i)) (hes : ∀ e ∈ es, e.pending = true) (hr' : s'.reached = n + 2) :
    Progress s' (trace ++ .call s.phase i :: es.map .effect) := by
  obtain ⟨hl, hre⟩ := live_of_reached (s := s) (by omega)
  refine h.pending hl hre hes ?_
  grind [occurInOrder_call, cases Progress]

lemma Progress.answered (h : Progress s trace) (hr : s.reached = 8) {result : ResultCode}
    (hq : result.isAccepted = true → acceptsCommit (.call s.phase i)) {e₁ e₂ e₃ : OtaspEvent}
    (hp' : s'.phase = .terminated) :
    Progress s' (trace ++ .call s.phase i :: [emit e₁, .emit e₂,
      .request (if result.isAccepted then .commitKey else .abortKeyExchange), .emit e₃].map .effect) := by
  obtain ⟨hl, hre⟩ := live_of_reached (s := s) (by omega)
  refine ⟨unreached (by simp [reached, hp']), fun hl => absurd hp' hl, fun hl => absurd hp' hl, ?_⟩
  cases ha : result.isAccepted with
  | false => exact guarded_call (by simp) h.guarded
  | true =>
    -- the key is committed last but one, after what tells of it
    have ht : Guards (· = .commitsKey) ExchangeComplete
        (trace ++ .call s.phase i :: [emit e₁, .emit e₂].map .effect) :=
      guarded_call (by simp) h.guarded
    have ho := h.order
    rw [hr] at ho
    have hc : ExchangeComplete
        (trace ++ .call s.phase i :: [emit e₁, .emit e₂].map .effect) :=
      ⟨occurInOrder_call ho (hq ha) _, not_mem_call (h.uncommitted hl) (by simp),
        not_mem_call (h.unaborted hl hre) (by simp)⟩
    have he : Guards (· = .commitsKey) ExchangeComplete
        (((trace ++ .call s.phase i :: [emit e₁, .emit e₂].map .effect) ++ [.commitsKey]) ++
          [.effect (.emit e₃)]) :=
      (guards_append (by simp [commitsKey])).mpr (guards_snoc.mpr ⟨ht, fun _ => hc⟩)
    simpa [commitsKey] using he

/-- **A step and the progress of the exchange.** -/
theorem Step.progress (hs : Step s i s' es) (h : Progress s trace) :
    Progress s' (trace ++ .call s.phase i :: es.map .effect) := by
  cases hs with
  | ignored hlo hre _ hsa =>
    subst hsa
    exact ⟨h.order.append _, fun hl => not_mem_call (h.uncommitted hl) (by simp),
      fun hl hrea => not_mem_call (h.unaborted hl hrea) (by simp),
      guarded_call (by simp) h.guarded⟩
  | asked es msg hes hm hp hp' =>
    exact h.early hp hes rfl (unreached (reached_of_early hp'))
  | signing es rand hes hp hp' =>
    exact h.early hp hes rfl (unreached (by simp [reached, hp']))
  | offered es rev hes hp hp' =>
    refine h.early hp hes rfl ?_
    have hr : s'.reached = 1 := by simp [reached, hp']
    rw [hr]
    have hb : OccurInOrder ([] ++ [begins]) ((trace ++ .call s.phase i :: es.map .effect) ++
        [.effect (.request (.beginKeyExchange rev))]) := OccurInOrder.nil.snoc ⟨rev, rfl⟩
    simpa [keyExchangeStages] using hb
  | committed es hes hp hp' hkey' =>
    exact h.early hp hes rfl (unreached (by simp [reached, hp', hkey']))
  | exchanging offer msg rev hp hi hm hp' =>
    exact h.stage (n := 0) (q := offers) (by simp [reached, hp]) rfl
      ⟨offer, by rw [hp, hi]⟩ (by simp [pending]) (by simp [reached, hp'])
  | givenUp es hes hp hp' hkey' =>
    refine h.wound ?_ hes hp' hkey'
    obtain hp | hp := hp
    · simp [hp]
    · simp [hp]
  | keyRequested bytes _ result rev hp hi hde ha hp' =>
    exact h.stage (n := 1) (q := acceptsParameters) (by simp [reached, hp]) rfl
      ⟨bytes, result, by rw [hp, hi], hde, ha⟩ (by simp [pending])
      (by simp [reached, hp'])
  | generated bytes response rev hp hi hde ha hp' =>
    exact h.stage (n := 2) (q := generatesKey) (by simp [reached, hp]) rfl
      ⟨bytes, response, by rw [hp, hi], hde, ha⟩ (by simp [pending])
      (by simp [reached, hp'])
  | refused es hes hre hp' hkey' =>
    refine h.wound ?_ hes hp' hkey'
    intro hp
    exact not_refuses_of_ne (by simp [hp]) hre
  | lost es hes hlo hp' hkey' =>
    refine h.wound ?_ hes hp' hkey'
    intro hp
    exact not_loses_of_ne (by simp [hp]) hlo
  | derived rev hp hi hp' =>
    exact h.stage (n := 3) (q := completes) (by simp [reached, hp]) rfl
      (by rw [hp, hi]; rfl) (by simp [pending]) (by simp [reached, hp'])
  | updated rand rev hp hi hp' =>
    exact h.stage (n := 4) (q := updatesSsd) (by simp [reached, hp]) rfl
      ⟨rand, by rw [hp, hi]⟩ (by simp [pending]) (by simp [reached, hp'])
  | answered rand bytes response hp hi hde hp' =>
    exact h.stage (n := 5) (q := answersChallenge) (by simp [reached, hp]) rfl
      ⟨rand, bytes, response, by rw [hp, hi], hde⟩ (by simp [pending])
      (by simp [reached, hp'])
  | verified rev hp hi hp' hkey' =>
    exact h.stage (n := 6) (q := verifiesAnswer) (by simp [reached, hp]) rfl
      (by rw [hp, hi]; rfl) (by simp [pending])
      (by simp [reached, hp', hkey'])
  | closed bytes result rev n hp hkey hi hde hp' =>
    refine h.answered (by simp [reached, hp, hkey]) ?_ hp'
    intro ha
    exact ⟨bytes, result, by rw [hp, hi], hde, ha⟩
  | ended es n _ hes hlo hl hp' =>
    exact ⟨unreached (by simp [reached, hp']), fun hl => absurd hp' hl, fun hl => absurd hp' hl,
      guarded_call (commitKey_ne_of_pending (pending_snoc hes rfl)) h.guarded⟩

end Step

/-! ### Results -/

section Results

variable (codecs : BlockCodecs) (cfg : OtaspConfig) (device : HardwareIdentity) (featureCode : String)
  (serviceOption : UInt16) (hlr : Option ResolvedSubscriberInput) (initiation : SessionInitiation)
  (inputs : List SessionInput)

lemma progress_run :
    Progress (Traced.run codecs cfg device featureCode serviceOption hlr initiation inputs).session
      (Traced.run codecs cfg device featureCode serviceOption hlr initiation inputs).trace := by
  apply run_inv
  · intro s es msg hes hm he
    have hp : ∀ e ∈ es ++ [.send msg], e.pending = true := pending_snoc hes rfl
    generalize es ++ [.send msg] = es at hp ⊢
    have hnot : ∀ r, (∀ e ∈ es, e ≠ .request r) → effect (.request r) ∉ es.map .effect := by grind
    refine ⟨?_, fun _ => hnot _ (commitKey_ne_of_pending hp),
      fun _ _ => hnot _ (abortKeyExchange_ne_of_pending hp), ?_⟩
    · exact unreached (reached_of_early he)
    · rintro before x after ht rfl
      grind [commitsKey, commitKey_ne_of_pending]
  · intro s trace i s' es h hs
    exact hs.progress h

/-- **A key is committed only at the end of a complete exchange.** Wherever a run asks the HLR to commit
a key, the nine stages of the exchange lie before, in their order, and neither a commit nor an abort
of the exchange was asked for before. -/
theorem commit_key_after_exchange {before after : List Item}
    (htrace : (Traced.run codecs cfg device featureCode serviceOption hlr initiation inputs).trace =
      before ++ .effect (.request .commitKey) :: after) :
    OccurInOrder keyExchangeStages before ∧ .effect (.request .commitKey) ∉ before ∧
      .effect (.request .abortKeyExchange) ∉ before :=
  (progress_run codecs cfg device featureCode serviceOption hlr initiation inputs).guarded
    before _ after htrace rfl

end Results

/-- A complete exchange. -/
theorem commit_key_after_exchange_complete :
    OccurInOrder keyExchangeStages ((keyExchangeRun fromKeyGeneration).trace.take 35) := by
  have ht : (keyExchangeRun fromKeyGeneration).trace =
      (keyExchangeRun fromKeyGeneration).trace.take 35 ++ .effect (.request .commitKey) ::
        [.effect (.emit (.sessionEnded 0 .committed))] := by decide +kernel
  exact (commit_key_after_exchange noBlocks keyOnly ⟨some 1, none⟩ "*228" 19
    (some ⟨none, none, none⟩) .user (untilKeyGeneration ++ fromKeyGeneration) ht).1

end OneXBts.Msc
