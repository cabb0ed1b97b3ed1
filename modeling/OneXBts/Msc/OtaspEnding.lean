import OneXBts.Lib.Traces
import OneXBts.Msc.OtaspCoordinator

/-!
How a provisioning session ends.

A session tells its end with its last event, sends nothing in that call and then stays terminated
(`Handed`, `Step.stays_terminated`). A call leaves at most one request to the HLR, and the answer to a
request leads to fewer requests (`weight_answer`), so that the coordinator can answer all of them.
-/

namespace OneXBts.Msc

open Lib Otasp List Turn

/-! ### Ends of records -/

def OtaspEvent.isEnd : OtaspEvent → Bool
  | .sessionEnded .. => true
  | _ => false

/-- The end of the session is among the events. -/
def Ended (events : List OtaspEvent) : Prop := ∃ e ∈ events, e.isEnd = true

/-- Nothing follows the end of the session, so that there is at most one. -/
def EndsOnce (events : List OtaspEvent) : Prop :=
  ∀ before e after, events = before ++ e :: after → e.isEnd = true → after = []

lemma endsOnce_of_not_ended (h : ¬ Ended events) : EndsOnce events := by
  rintro before e after rfl he
  exact absurd ⟨e, by simp, he⟩ h

lemma ended_append : Ended (events ++ new) ↔ Ended events ∨ Ended new := by
  simp only [Ended, mem_append, or_and_right, exists_or]

lemma endsOnce_append_singleton (h : ¬ Ended events) (e : OtaspEvent) :
    EndsOnce (events ++ [e]) := by
  intro before x after he hx
  obtain ⟨ha, -, -⟩ | ⟨rest, -, rfl⟩ := snoc_eq_append_cons he <;> grind [Ended]

lemma not_endsOnce_append (h : Ended events) (hnew : new ≠ []) :
    ¬ EndsOnce (events ++ new) := by
  intro ho
  obtain ⟨e, he, hend⟩ := h
  obtain ⟨before, after, rfl⟩ := append_of_mem he
  have ha := ho before e (after ++ new) (by simp) hend
  exact hnew (append_eq_nil_iff.mp ha).2

/-! ### What a call hands over -/

section Parts

variable {es es' : List Effect}

@[simp] lemma eventsOf_append : eventsOf (es ++ es') = eventsOf es ++ eventsOf es' := filterMap_append

@[simp] lemma messagesOf_append : messagesOf (es ++ es') = messagesOf es ++ messagesOf es' := filterMap_append

@[simp] lemma requestsOf_append : requestsOf (es ++ es') = requestsOf es ++ requestsOf es' := filterMap_append

lemma Told.messagesOf (h : Told es) : messagesOf es = [] := by
  rw [Msc.messagesOf, filterMap_eq_nil_iff]
  intro e he
  cases e with
  | send => cases h _ he
  | _ => rfl

lemma Told.requestsOf (h : Told es) : requestsOf es = [] := by
  rw [Msc.requestsOf, filterMap_eq_nil_iff]
  intro e he
  cases e with
  | request => cases h _ he
  | _ => rfl

lemma Told.not_ended (h : Told es) : ¬ Ended (eventsOf es) := by
  rintro ⟨event, hmem, hend⟩
  obtain ⟨e, he, heq⟩ := mem_filterMap.mp hmem
  have ht := h e he
  cases e with
  | emit =>
    cases heq
    cases event with
    | sessionEnded => cases ht
    | _ => cases hend
  | _ => cases heq

lemma Winding.not_ended (h : Winding es) : ¬ Ended (eventsOf es) := by
  obtain ⟨told, abort, ht, rfl | rfl, rfl⟩ := h
  · simpa using ht.not_ended
  · simpa [Msc.eventsOf] using ht.not_ended

lemma Winding.requestsOf (h : Winding es) :
    requestsOf es = [] ∨ requestsOf es = [.abortKeyExchange] := by
  obtain ⟨told, abort, ht, rfl | rfl, rfl⟩ := h
  · exact .inl (by simpa using ht.requestsOf)
  · right
    rw [requestsOf_append, ht.requestsOf]
    rfl

end Parts

/-- At most one request, and the HLR is asked to sign only for a session that goes on. -/
def Queued (s : OtaspSession) (requests : List OtaspAuthRequest) : Prop :=
  requests = [] ∨ ∃ r, requests = [r] ∧ ∀ randOtapa, r = .validateSpasm randOtapa → s.phase ≠ .terminated

inductive Handed (s s' : OtaspSession) (es : List Effect) : Prop
  /-- Nothing happens. -/
  | silent (hsame : s' = s) (hes : es = [])
  /-- The session goes on. -/
  | goesOn (hlive : s.phase ≠ .terminated) (hlive' : s'.phase ≠ .terminated)
    (hevents : ¬ Ended (eventsOf es)) (hrequests : (requestsOf es).length ≤ 1)
  /-- The session ends, with its last event and without a message. -/
  | ends (before : List OtaspEvent) (e : OtaspEvent) (hlive : s.phase ≠ .terminated)
    (hended : s'.phase = .terminated) (hevents : eventsOf es = before ++ [e])
    (hbefore : ¬ Ended before) (hend : e.isEnd = true) (hmessages : messagesOf es = [])
    (hrequests : Queued s' (requestsOf es))

lemma not_ended_append (ha : ¬ Ended a) (hb : ¬ Ended b) : ¬ Ended (a ++ b) := by
  rw [ended_append]
  exact not_or.mpr ⟨ha, hb⟩

lemma not_ended_nil : ¬ Ended [] := by simp [Ended]

lemma handed_snoc (hes : Told es)
    (he : ¬ Ended (eventsOf [e])) (hl : s.phase ≠ .terminated) (hl' : s'.phase ≠ .terminated) :
    Handed s s' (es ++ [e]) := by
  refine .goesOn hl hl' ?_ ?_
  · rw [eventsOf_append]
    exact not_ended_append hes.not_ended he
  · rw [requestsOf_append, hes.requestsOf]
    cases e <;> simp [requestsOf]

lemma handed_winding (hes : Winding es) (hl : s.phase ≠ .terminated) (hl' : s'.phase ≠ .terminated) :
    Handed s s' (es ++ [.send .commitRequest]) := by
  refine .goesOn hl hl' ?_ ?_
  · rw [eventsOf_append]
    exact not_ended_append hes.not_ended not_ended_nil
  · rw [requestsOf_append]
    obtain h | h := hes.requestsOf <;> grind [requestsOf]

/-- **Every step treats the end of the session in one of these ways**; only a sig for a mobile may
not be handed to a session that has ended. -/
theorem Step.handed (h : Step s i s' es)
    (hli : s.phase = .terminated → ∀ sig, i ≠ .spasmSignature sig) : Handed s s' es := by
  cases h with
  | ignored hl hre _ hs => exact .silent hs rfl
  | asked es message hes hm hp hp' =>
    exact handed_snoc hes not_ended_nil (Phase.early_ne hp rfl) (Phase.early_ne hp' rfl)
  | signing _ _ hes hp hp' | offered _ _ hes hp hp' | committed _ hes hp hp' =>
    exact handed_snoc hes not_ended_nil (Phase.early_ne hp rfl) (by simp [hp'])
  | exchanging _ message rev hp hi hm hp' =>
    exact .goesOn (by simp [hp]) (by simp [hp']) (by simp [eventsOf, Ended, OtaspEvent.isEnd])
      (by simp [requestsOf])
  | givenUp => grind [handed_winding]
  | keyRequested _ _ _ _ hp _ _ _ hp' | generated _ _ _ hp _ _ _ hp' | derived _ hp _ hp' | updated _ _ hp _ hp'
  | verified _ hp _ hp' => exact handed_snoc (Told.nil.cons rfl) not_ended_nil (by simp [hp]) (by simp [hp'])
  | refused => grind [handed_winding, not_refuses_of_ne]
  | lost => grind [handed_winding, not_loses_of_ne]
  | answered rand bytes response hp hi hde hp' =>
    exact handed_snoc Told.nil not_ended_nil (by simp [hp]) (by simp [hp'])
  | closed bytes result rev n hp _ hi hde hp' =>
    refine .ends [.commitResult result.toU8,
      .aKeyProgress .committed result.isAccepted rev (some result.toU8) none] _ (by simp [hp]) hp'
      rfl (by simp [Ended, OtaspEvent.isEnd]) rfl rfl (.inr ⟨_, rfl, ?_⟩)
    intro randOtapa hr
    split at hr <;> cases hr
  | ended es n kind hes hl _ hp' =>
    refine .ends (eventsOf es) (.sessionEnded n kind) ?_ hp' (by rw [eventsOf_append]; rfl)
      hes.not_ended rfl ?_ (.inl ?_)
    · grind
    · rw [messagesOf_append, hes.messagesOf]
      rfl
    · rw [requestsOf_append, hes.requestsOf]
      rfl

/-- **A terminated session stays terminated and sends nothing**, whatever it is called with. -/
theorem Step.stays_terminated
    (h : Step s i s' es) (hs : s.phase = .terminated) : s'.phase = .terminated ∧ messagesOf es = [] := by
  cases h with
  | ignored hl hr _ hsa => exact ⟨hsa ▸ hs, rfl⟩
  | ended es _ _ hes hl _ hp' =>
    refine ⟨hp', ?_⟩
    rw [messagesOf_append, hes.messagesOf]
    rfl
  | refused es hes hr => exact absurd hr (not_refuses_of_ne (by simp [hs]))
  | lost es hes hl => exact absurd hl (not_loses_of_ne (by simp [hs]))
  | givenUp es hes hp => simp [hs] at hp
  | asked _ _ _ _ hp | signing _ _ _ hp | offered _ _ _ hp | committed _ _ hp =>
    rw [hs] at hp
    cases hp
  | _ => simp_all

section

variable (h : Handed s s' es)
include h

lemma Handed.queued :
    Queued s' (requestsOf es) := by
  cases h with
  | silent _ hes => exact .inl (by rw [hes]; rfl)
  | goesOn => grind [length_eq_zero_iff, length_eq_one_iff, Queued]
  | ends _ _ hl _ he _ _ _ hr => exact hr

lemma Handed.ended_iff (he : Ended recorded ↔ s.phase = .terminated) :
    Ended (recorded ++ eventsOf es) ↔ s'.phase = .terminated := by
  rw [ended_append, he]
  cases h <;> grind [Ended, eventsOf]

lemma Handed.endsOnce (he : Ended recorded ↔ s.phase = .terminated)
    (ho : EndsOnce recorded) : EndsOnce (recorded ++ eventsOf es) := by
  cases h with
  | silent _ hes => simpa [hes, eventsOf] using ho
  | goesOn hl _ hev =>
    have hnot : ¬ Ended recorded := fun h => hl (he.mp h)
    exact endsOnce_of_not_ended (not_ended_append hnot hev)
  | ends _ _ hl =>
    have hnot : ¬ Ended recorded := fun h => hl (he.mp h)
    grind [endsOnce_append_singleton, not_ended_append]

lemma Handed.messagesOf (hs' : s'.phase = .terminated) : messagesOf es = [] := by cases h <;> grind [messagesOf]

end

/-! ### Requests and their answers -/

section Answers

variable (codecs : BlockCodecs) (s : OtaspSession)

lemma requestsOf_spasmSignature (sig : Option UInt32) :
    requestsOf (s.call codecs (.spasmSignature sig)).1.log = [] := by
  change requestsOf ((mk s []).onSpasmSignature sig).1.log = []
  unfold onSpasmSignature
  split
  · rfl
  · unfold ask stepOutcome
    split <;> rfl

lemma requestsOf_keyExchangeSkipped (reason : AKeySkipReason) :
    requestsOf (s.call codecs (.keyExchangeSkipped reason)).1.log = [] := by
  change requestsOf ((mk s []).onKeyExchangeSkipped reason).1.log = []
  unfold onKeyExchangeSkipped
  split <;> rfl

lemma weight_keyExchangeOffer (offer : Option KeyExchangeOffer) :
    requestsWeight (requestsOf (s.call codecs (.keyExchangeOffer offer)).1.log) ≤ 1 := by
  change requestsWeight (requestsOf ((mk s []).onKeyExchangeOffer offer).1.log) ≤ 1
  unfold onKeyExchangeOffer
  split
  · exact Nat.zero_le 1
  split
  · exact Nat.zero_le 1
  dsimp only
  split
  · exact Nat.zero_le 1
  · exact le_refl 1

lemma weight_keyExchangeCompleted (ok : Bool) :
    requestsWeight (requestsOf (s.call codecs (.keyExchangeCompleted ok)).1.log) ≤ 1 := by
  change requestsWeight (requestsOf ((mk s []).onKeyExchangeCompleted ok).1.log) ≤ 1
  unfold onKeyExchangeCompleted
  split
  · exact Nat.zero_le 1
  · split
    · exact le_refl 1
    · exact Nat.zero_le 1

lemma requestsOf_ssdUpdateFinished (ok : Bool) (rand : UInt32) :
    requestsOf (s.call codecs (.ssdUpdateFinished ok rand)).1.log = [] := by
  change requestsOf ((mk s []).onSsdUpdateFinished ok rand).1.log = []
  unfold onSsdUpdateFinished
  split
  · rfl
  · split <;> rfl

lemma requestsOf_reauthenticationVerified (ok : Bool) :
    requestsOf (s.call codecs (.reauthenticationVerified ok)).1.log = [] := by
  change requestsOf ((mk s []).onReauthenticationVerified ok).1.log = []
  unfold onReauthenticationVerified
  split
  · rfl
  · split <;> rfl

def RequestAnswer.input {Identity : Type} : RequestAnswer Identity → Option SessionInput
  | .call input | .callLast input => some input
  | .update _ | .nothing => none

/-- **The answer to a request leads to fewer requests.** -/
theorem weight_answer {Identity : Type} (hlr : HlrAnswers Identity) (entry : SessionEntry Identity)
    {r : OtaspAuthRequest} {i : SessionInput} (h : (answerRequest hlr entry r).input = some i) :
    requestsWeight (requestsOf (s.call codecs i).1.log) < requestWeight r := by
  cases r with
  | validateSpasm =>
    cases h
    rw [requestsOf_spasmSignature]
    exact Nat.one_pos
  | beginKeyExchange =>
    unfold answerRequest at h
    dsimp only at h
    split at h
    · cases h
      rw [requestsOf_keyExchangeSkipped]
      exact Nat.two_pos
    · cases h
      exact Nat.lt_succ_of_le (weight_keyExchangeOffer codecs s _)
  | completeKeyExchange =>
    cases h
    exact Nat.lt_succ_of_le (weight_keyExchangeCompleted codecs s _)
  | ssdUpdate =>
    unfold answerRequest at h
    dsimp only at h
    split at h
    · cases h
    · cases h
      rw [requestsOf_ssdUpdateFinished]
      exact Nat.one_pos
  | verifyReauthentication =>
    cases h
    rw [requestsOf_reauthenticationVerified]
    exact Nat.one_pos
  | commitKey => cases h
  | abortKeyExchange => cases h

lemma eq_validateSpasm_of_answer {Identity : Type} {hlr : HlrAnswers Identity}
    {entry : SessionEntry Identity} {r : OtaspAuthRequest} {sig : Option UInt32}
    (h : (answerRequest hlr entry r).input = some (.spasmSignature sig)) :
    ∃ randOtapa, r = .validateSpasm randOtapa := by cases r <;> grind [RequestAnswer.input, answerRequest]

end Answers

end OneXBts.Msc
