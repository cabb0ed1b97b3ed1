import OneXBts.Msc.CallAuthentication

/-!
What the procedures on a traffic channel can do: what starting the next one asks for (`Advances`), what a reply or a timeout
asks for (`Reacts`), what a call starts with (`Prepares`). The loop that carries an action out is related to a relation without
fuel (`Applies`), along which the invariants of a call are proved.
-/

namespace OneXBts.Msc

open Lib Hlr Option

variable {Identity : Type}

/-! ### Starting a procedure -/

/-- What starting the next procedure asks for. -/
inductive Advances (t t' : TrafficAuthentication Identity) : TrafficAction → Prop
  | finished (hpending : t.pending = []) (hpending' : t'.pending = []) (hawaiting : t'.awaiting = none) :
    Advances t t' .done
  /-- The HLR cannot start an SSD update. -/
  | unready (hpending : t.pending = .ssdUpdate :: t'.pending) (hawaiting : t'.awaiting = none) :
    Advances t t' (.report .ssdUpdate .hlrError false)
  | updating (randssd : Bytes) (hpending : t.pending = .ssdUpdate :: t'.pending)
    (hawaiting : t'.awaiting = some .baseStationChallenge) :
    Advances t t' (.send (.ssdUpdateRequest randssd))
  | challenging (randu : UInt32) (hpending : t.pending = .uniqueChallenge :: t'.pending)
    (hawaiting : t'.awaiting = some (.authenticationResponse randu)) :
    Advances t t' (.send (.authenticationRequest randu))
  | counting (hpending : t.pending = .countUpdate :: t'.pending)
    (hawaiting : t'.awaiting = some .parameterUpdateConfirm) :
    Advances t t' (.send .parameterUpdateRequest)

namespace TrafficAuthentication

variable (t : TrafficAuthentication Identity) (config : AuthenticationConfig)

lemma advances (now : ℕ) (randssd : Option UInt64) (random : UInt32) :
    Advances t (t.advance config now randssd random).1 (t.advance config now randssd random).2 := by
  unfold advance
  split
  · rename_i hp
    exact .finished hp hp rfl
  · rename_i hp
    split
    · exact .unready hp rfl
    · exact .updating _ hp rfl
  · rename_i hp
    exact .challenging _ hp rfl
  · rename_i hp
    exact .counting hp rfl

lemma advance_strict (now : ℕ) (randssd : Option UInt64) (random : UInt32) :
    (t.advance config now randssd random).1.strict = t.strict := by
  unfold advance
  split
  · rfl
  · split <;> rfl
  · rfl
  · rfl

end TrafficAuthentication

/-! ### Replies and timeouts -/

/-- What a reply or a timeout asks for. `randu` is that of a challenge the HLR found answered. -/
inductive Reacts (t t' : TrafficAuthentication Identity) : TrafficAction → Option UInt32 → Prop
  /-- An SSD update fails; there is no SSD to challenge the mobile with. -/
  | updateFailed (awaiting : TrafficAwaiting) (result : ReportedResult) (hresult : result ≠ .success)
    (hbefore : t.awaiting = some awaiting) (hprocedure : awaiting.procedure = .ssdUpdate)
    (hpending : t'.pending = t.pending.filter (· ≠ .uniqueChallenge)) (hawaiting : t'.awaiting = none) :
    Reacts t t' (.report .ssdUpdate result false) none
  | challenged (authbs : UInt32) (hpending : t'.pending = t.pending)
    (hbefore : t.awaiting = some .baseStationChallenge)
    (hawaiting : t'.awaiting = some .ssdUpdateResponse) :
    Reacts t t' (.send (.baseStationChallengeResponse authbs)) none
  | updated (hpending : t'.pending = t.pending) (hbefore : t.awaiting = some .ssdUpdateResponse)
    (hawaiting : t'.awaiting = none) : Reacts t t' (.report .ssdUpdate .success false) none
  | passed (randu : UInt32) (hpending : t'.pending = t.pending)
    (hbefore : t.awaiting = some (.authenticationResponse randu)) (hawaiting : t'.awaiting = none) :
    Reacts t t' (.report .uniqueChallenge .success false) (some randu)
  | failed (result : ReportedResult) (clearCall : Bool) (hresult : result ≠ .success)
    (hstrict : t.strict = true → clearCall = true) (hpending : t'.pending = t.pending)
    (hawaiting : t'.awaiting = none) :
    Reacts t t' (.report .uniqueChallenge result clearCall) none
  | counted (result : ReportedResult) (clearCall : Bool) (hpending : t'.pending = t.pending)
    (hbefore : t.awaiting = some .parameterUpdateConfirm) (hawaiting : t'.awaiting = none) :
    Reacts t t' (.report .countUpdate result clearCall) none

/-- The HLR has found the answer to the challenge `randu` right. -/
def VerifiedOn (randu : UInt32) (es : List (CallEvent Identity)) : Prop :=
  ∃ challenge : UniqueChallenge, challenge.randu = randu ∧ es = [.verified challenge (some .success)]

namespace TrafficAuthentication

variable {t : TrafficAuthentication Identity} {config : AuthenticationConfig}

lemma reacts_failSsdUpdate {awaiting : TrafficAwaiting} (hb : t.awaiting = some awaiting)
    (hp : awaiting.procedure = .ssdUpdate) {result : ReportedResult} (hr : result ≠ .success) :
    Reacts t (t.failSsdUpdate result).1 (t.failSsdUpdate result).2 none :=
  .updateFailed awaiting result hr hb hp rfl rfl

/-- **A reply that was not asked for is answered like the end of all procedures.** -/
theorem onReply_unasked (h : t.asked reply = false) : t.onReply config now hlr reply = (t, .done) := by
  cases reply with
  | baseStationChallenge | ssdUpdateResponse | parameterUpdateConfirm => exact if_pos (by simpa [asked] using h)
  | authenticationResponse authu =>
    change t.onAuthenticationResponse config authu hlr.verify = (t, .done)
    unfold onAuthenticationResponse
    split
    · rename_i randu ha
      rw [asked, ha] at h
      cases h
    · rfl

lemma uniqueChallenge_randu
    (h : t.uniqueChallenge randu authu = some challenge) : challenge.randu = randu := by
  obtain ⟨imsiS, -, rfl⟩ := Option.map_eq_some_iff.mp h
  rfl

lemma reacts_onAuthenticationResponse
    (ha : t.awaiting = some (.authenticationResponse randu)) (authu : UInt32) :
    ∃ passed, Reacts t (t.onAuthenticationResponse config authu hlr.verify).1
      (t.onAuthenticationResponse config authu hlr.verify).2 passed ∧
      ∀ randu, passed = some randu → VerifiedOn randu (t.verification hlr (.authenticationResponse authu)) := by
  -- any other result than a success
  have hf : ∀ (result : ReportedResult) (es : List (CallEvent Identity)), result ≠ .success →
      ∃ passed, Reacts t { t with awaiting := none } (.report .uniqueChallenge result
        (result != .success && (t.strict || config.mode == .enforce))) passed ∧
        ∀ randu, passed = some randu → VerifiedOn randu es := by
    intro result es hr
    refine ⟨none, .failed result _ hr ?_ rfl rfl, by simp⟩
    intro hs
    simp [hr, hs]
  unfold onAuthenticationResponse verification
  rw [ha]
  dsimp only
  cases hc : t.uniqueChallenge randu authu with
  | none => exact hf .parametersMissing _ (by simp)
  | some challenge =>
    dsimp only
    cases hv : hlr.verify challenge with
    | none => exact hf .hlrError _ (by simp)
    | some outcome =>
      cases outcome with
      | success =>
        refine ⟨some randu, .passed randu rfl ha rfl, ?_⟩
        rintro _ ⟨⟩
        exact ⟨challenge, uniqueChallenge_randu hc, by simp [hv]⟩
      | signatureMismatch | countMismatch => exact hf .signatureMismatch _ (by simp)
      | notProvisioned => exact hf .notProvisioned _ (by simp)

/-- **What a reply that was asked for leads to.** -/
theorem reacts_onReply {now : ℕ} {hlr : ReplyAnswers} {reply : TrafficReply} (h : t.asked reply = true) :
    ∃ passed, Reacts t (t.onReply config now hlr reply).1 (t.onReply config now hlr reply).2 passed ∧
      ∀ randu, passed = some randu → VerifiedOn randu (t.verification hlr reply) := by
  cases reply with
  | baseStationChallenge randbs =>
    refine ⟨none, ?_, by simp⟩
    have ha : t.awaiting = some .baseStationChallenge := by simpa [asked] using h
    change Reacts t (t.onBaseStationChallenge config now (hlr.authbs randbs)).1
      (t.onBaseStationChallenge config now (hlr.authbs randbs)).2 none
    unfold onBaseStationChallenge
    rw [if_neg (not_not.mpr ha)]
    split
    any_goals exact reacts_failSsdUpdate ha rfl (by simp)
    · exact .challenged _ rfl ha rfl
  | ssdUpdateResponse confirmed =>
    refine ⟨none, ?_, by simp⟩
    have ha : t.awaiting = some .ssdUpdateResponse := by simpa [asked] using h
    change Reacts t (t.onSsdUpdateResponse confirmed hlr.finished).1
      (t.onSsdUpdateResponse confirmed hlr.finished).2 none
    unfold onSsdUpdateResponse
    rw [if_neg (not_not.mpr ha)]
    split_ifs
    any_goals exact reacts_failSsdUpdate ha rfl (by simp)
    · exact .updated rfl ha rfl
  | parameterUpdateConfirm =>
    refine ⟨none, ?_, by simp⟩
    have ha : t.awaiting = some .parameterUpdateConfirm := by simpa [asked] using h
    change Reacts t (t.onParameterUpdateConfirm hlr.incremented).1
      (t.onParameterUpdateConfirm hlr.incremented).2 none
    unfold onParameterUpdateConfirm
    rw [if_neg (not_not.mpr ha)]
    exact .counted _ false rfl ha rfl
  | authenticationResponse authu =>
    obtain ⟨awaiting, ha, hp⟩ : ∃ awaiting, t.awaiting = some awaiting ∧
        (awaiting.procedure == .uniqueChallenge) = true := by simpa [asked, any_eq_true] using h
    cases awaiting with
    | authenticationResponse => exact reacts_onAuthenticationResponse ha authu
    | _ => cases hp

lemma onReply_strict (now : ℕ) (hlr : ReplyAnswers) (reply : TrafficReply) :
    (t.onReply config now hlr reply).1.strict = t.strict := by
  cases reply with
  | baseStationChallenge randbs =>
    change (t.onBaseStationChallenge config now (hlr.authbs randbs)).1.strict = t.strict
    unfold onBaseStationChallenge
    split
    · rfl
    · split <;> rfl
  | ssdUpdateResponse confirmed =>
    change (t.onSsdUpdateResponse confirmed hlr.finished).1.strict = t.strict
    unfold onSsdUpdateResponse
    split_ifs <;> rfl
  | authenticationResponse authu =>
    change (t.onAuthenticationResponse config authu hlr.verify).1.strict = t.strict
    unfold onAuthenticationResponse
    split <;> rfl
  | parameterUpdateConfirm => grind [onParameterUpdateConfirm, TrafficAuthentication.onReply]

lemma onTimeout_strict : t.onTimeout.1.strict = t.strict := by
  unfold onTimeout
  split
  · rfl
  · split <;> rfl

/-- **What a timeout leads to.** -/
theorem reacts_onTimeout (h : t.awaiting.isSome) : Reacts t t.onTimeout.1 t.onTimeout.2 none := by
  obtain ⟨awaiting, ha⟩ := Option.isSome_iff_exists.mp h
  unfold onTimeout
  rw [ha]
  cases awaiting with
  | baseStationChallenge | ssdUpdateResponse => exact reacts_failSsdUpdate ha rfl (by simp)
  | authenticationResponse => exact .failed .timeout t.strict (by simp) id rfl rfl
  | parameterUpdateConfirm => exact .counted .timeout t.strict rfl ha rfl

end TrafficAuthentication

/-! ### Starting the procedures of a call -/

lemma procedures_cases (config : AuthenticationConfig) (result : AuthenticationResult)
    (ssdUnset : Bool) : ∃ rest, (rest = [] ∨ rest = [.countUpdate]) ∧
      (TrafficAuthentication.procedures config result ssdUnset = .ssdUpdate :: .uniqueChallenge :: rest ∨
        TrafficAuthentication.procedures config result ssdUnset = .uniqueChallenge :: rest ∨
        (TrafficAuthentication.procedures config result ssdUnset = rest ∧
          config.uniqueChallengeOnCall = false ∧ result ≠ .signatureMismatch ∧
          result ≠ .countMismatch)) := by
  refine ⟨if config.countUpdateOnCall then [.countUpdate] else [], ?_, ?_⟩
  · split <;> simp
  · unfold TrafficAuthentication.procedures
    grind

/-- What a call that starts its procedures starts with. -/
inductive Prepares (call : CallState Identity) (t : TrafficAuthentication Identity) :
    TrafficAction → Prop
  | updating (randssd : Bytes) (hunique : .uniqueChallenge ∈ t.pending)
    (hawaiting : t.awaiting = some .baseStationChallenge) :
    Prepares call t (.send (.ssdUpdateRequest randssd))
  /-- The HLR cannot start an SSD update, and the mobile is challenged all the same. -/
  | unready (hunique : .uniqueChallenge ∈ t.pending) (hlength : t.pending.length ≤ 2)
    (hawaiting : t.awaiting = none) : Prepares call t (.report .ssdUpdate .hlrError false)
  | challenging (randu : UInt32) (hawaiting : t.awaiting = some (.authenticationResponse randu)) :
    Prepares call t (.send (.authenticationRequest randu))
  /-- The global challenge has passed, and no private long code waits. -/
  | counting (hprivacy : call.pendingPrivacy = none)
    (hglobal : ∃ context, call.callAuthContext = some context ∧
      context.globalResult ≠ .signatureMismatch ∧ context.globalResult ≠ .countMismatch)
    (hawaiting : t.awaiting = some .parameterUpdateConfirm) :
    Prepares call t (.send .parameterUpdateRequest)

lemma prepares_of_advances {call : CallState Identity}
    (hco : call.callAuthContext = some context) {config : AuthenticationConfig}
    {ssdUnset : Bool} {t t' : TrafficAuthentication Identity} {action : TrafficAction}
    (h : Advances t t' action) (hp : t.pending = TrafficAuthentication.procedures { config with
        uniqueChallengeOnCall := config.uniqueChallengeOnCall || call.pendingPrivacy.isSome }
      context.globalResult ssdUnset)
    (hne : t.pending ≠ []) : Prepares call t' action := by
  obtain ⟨rest, hrest, hc⟩ := procedures_cases
    { config with
      uniqueChallengeOnCall := config.uniqueChallengeOnCall || call.pendingPrivacy.isSome }
    context.globalResult ssdUnset
  rw [← hp] at hc
  obtain hp | hp | ⟨hp, hu, hs, hcou⟩ := hc
  · have ht : ∀ p, t.pending = p :: t'.pending → p = .ssdUpdate ∧ t'.pending = .uniqueChallenge :: rest := by grind
    cases h with
    | finished hpe => exact absurd hpe hne
    | unready hpe ha =>
      obtain ⟨-, ht⟩ := ht _ hpe
      refine .unready (by simp [ht]) ?_ ha
      obtain rfl | rfl := hrest <;> simp [ht]
    | updating randssd hpe ha =>
      obtain ⟨-, ht⟩ := ht _ hpe
      exact .updating randssd (by simp [ht]) ha
    | challenging _ hpe | counting hpe => cases (ht _ hpe).1
  · have hh : ∀ p, t.pending = p :: t'.pending → p = .uniqueChallenge := by grind
    cases h with
    | finished hpe => exact absurd hpe hne
    | unready hpe | updating _ hpe | counting hpe => cases hh _ hpe
    | challenging randu hpe ha => exact .challenging randu ha
  · have hh : ∀ p, t.pending = p :: t'.pending → p = .countUpdate := by grind
    cases h with
    | finished hpe => exact absurd hpe hne
    | unready hpe | updating _ hpe | challenging _ hpe => cases hh _ hpe
    | counting hpe ha =>
      refine .counting ?_ ⟨context, hco, hs, hcou⟩ ha
      simpa using (Bool.or_eq_false_iff.mp hu).2

/-- **What a call starts with** when it starts its procedures. -/
theorem prepares {node : String} {a : Answers}
    {prep : CallState Identity × TrafficAction} (h : call.prepare config node a = some prep) :
    call.trafficAuth = none ∧ ∃ t, t.strict = false ∧ Prepares call t prep.2 ∧
      prep.1 = { call with trafficAuthStarted := true }.withTrafficAuth t := by
  unfold CallState.prepare at h
  split_ifs at h with hs
  have hn : call.trafficAuth = none := by
    simp only [Bool.or_eq_true, not_or, Bool.not_eq_true, isSome_eq_false_iff, isNone_iff_eq_none] at hs
    exact hs.1
  obtain ⟨context, hc, h⟩ := Option.bind_eq_some_iff.mp h
  obtain ⟨planned, hp, h⟩ := Option.bind_eq_some_iff.mp h
  obtain rfl := Option.some.inj h
  unfold TrafficAuthentication.plan at hp
  dsimp only at hp
  split_ifs at hp with he
  obtain rfl := Option.some.inj hp
  refine ⟨hn, _, TrafficAuthentication.advance_strict _ config a.now a.randssd a.random, ?_, rfl⟩
  apply prepares_of_advances hc (TrafficAuthentication.advances _ config a.now a.randssd a.random) rfl
  intro hnil
  exact he (.inl (List.isEmpty_iff.mpr hnil))

/-! ### Carrying an action out -/

/-- **What carrying an action out can come to**, with answers that all have the property `P`. -/
inductive Applies (config : AuthenticationConfig) (P : Answers → Prop) :
    CallState Identity → TrafficAction → CallState Identity → List (CallEvent Identity) → Prop
  | sent (call : CallState Identity) (message : TrafficMessage) :
    Applies config P call (.send message) call [.sent message true]
  | refused (call : CallState Identity) (message : TrafficMessage) (a : Answers) (ha : P a)
    (hrefused : a.accepted = false) :
    Applies config P call (.send message) call.withoutTrafficAuth [.sent message false]
  | absent (call : CallState Identity) (procedure : TrafficProcedure) (result : ReportedResult)
    (clearCall : Bool) (hentry : call.trafficAuth = none) :
    Applies config P call (.report procedure result clearCall) call []
  | cleared (call : CallState Identity) (procedure : TrafficProcedure) (result : ReportedResult)
    (clearCall : Bool) (hclear : clearCall = true ∨ call.heldFailed procedure result = true) :
    Applies config P call (.report procedure result clearCall) call.refuse
      [.reported procedure result, .clearCommand]
  | handed (call : CallState Identity) (result : ReportedResult) (a : Answers) (ha : P a)
    (howns : a.ownsCall = true) :
    Applies config P call (.report .ssdUpdate result false) call.withoutTrafficAuth
      [.reported .ssdUpdate result, .otaspSsdUpdateFinished (result == .success)]
  | advanced (call call' : CallState Identity) (procedure : TrafficProcedure) (result : ReportedResult)
    (t t' : TrafficAuthentication Identity) (action : TrafficAction) (a : Answers)
    (log : List (CallEvent Identity)) (hentry : call.trafficAuth = some t)
    (hheld : call.heldFailed procedure result = false) (hadvances : Advances t t' action)
    (hstrict : t'.strict = t.strict)
    (hrest : Applies config P ((call.settlePrivacy procedure result a).1.withTrafficAuth t')
      action call' log) :
    Applies config P call (.report procedure result false) call'
      (.reported procedure result :: ((call.settlePrivacy procedure result a).2 ++ log))
  | finished (call : CallState Identity) :
    Applies config P call .done call.dropFinished.release.1 call.dropFinished.release.2
  | restarted (call call' : CallState Identity) (node : String) (a : Answers)
    (prepared : CallState Identity × TrafficAction) (log : List (CallEvent Identity))
    (hnode : call.restartNode = some node)
    (hprepared : call.dropFinished.prepare config node a = some prepared)
    (hrest : Applies config P prepared.1 prepared.2 call' log) :
    Applies config P call .done call'.release.1 (.started :: (log ++ call'.release.2))

structure Fixed (call call' : CallState Identity) : Prop where
  pendingOtapa : call'.pendingOtapa = call.pendingOtapa
  callAuthContext : call'.callAuthContext = call.callAuthContext

lemma Fixed.trans (h : Fixed call call') (h' : Fixed call' call'') : Fixed call call'' :=
  ⟨h'.pendingOtapa.trans h.pendingOtapa, h'.callAuthContext.trans h.callAuthContext⟩

lemma fixed_settlePrivacy (call : CallState Identity) (proc : TrafficProcedure)
    (result : ReportedResult) (a : Answers) : Fixed call (call.settlePrivacy proc result a).1 := by
  unfold CallState.settlePrivacy
  split_ifs
  · split <;> exact ⟨rfl, rfl⟩
  · exact ⟨rfl, rfl⟩
  · exact ⟨rfl, rfl⟩

lemma fixed_dropFinished (call : CallState Identity) : Fixed call call.dropFinished := by
  unfold CallState.dropFinished
  split <;> exact ⟨rfl, rfl⟩

lemma fixed_release (call : CallState Identity) : Fixed call call.release.1 := by
  unfold CallState.release
  split
  · exact ⟨rfl, rfl⟩
  · split <;> exact ⟨rfl, rfl⟩

lemma fixed_prepared {node : String} {a : Answers} {prep : CallState Identity × TrafficAction}
    (h : call.prepare config node a = some prep) : Fixed call prep.1 := by
  obtain ⟨-, t, -, -, hc⟩ := prepares h
  rw [hc]
  exact ⟨rfl, rfl⟩

lemma Applies.fixed
     (h : Applies config P call action call' es) :
    Fixed call call' := by
  induction h with
  | sent | refused | absent | cleared | handed => exact ⟨rfl, rfl⟩
  | advanced call call' proc result _ _ action a log _ _ _ _ hrest ih =>
    obtain ⟨ho, hc⟩ := fixed_settlePrivacy call proc result a
    exact ⟨ih.pendingOtapa.trans ho, ih.callAuthContext.trans hc⟩
  | finished call => exact (fixed_dropFinished call).trans (fixed_release _)
  | restarted call call' _ a _ log _ hp hrest ih =>
    exact (((fixed_dropFinished call).trans (fixed_prepared hp)).trans ih).trans (fixed_release _)

namespace CallState

variable {config : AuthenticationConfig} {P : Answers → Prop} {ans : ℕ → Answers}
  {call : CallState Identity}

section

variable (hok : ∀ n, P (ans n))
include hok

lemma applies_send (hf : 0 < fuel) (msg : TrafficMessage) :
    Applies config P call (.send msg)
      (applyTrafficAction config fuel ans call (.send msg)).1
      (applyTrafficAction config fuel ans call (.send msg)).2 := by
  obtain ⟨fuel, rfl⟩ := Nat.exists_eq_add_of_lt hf
  simp only [applyTrafficAction]
  cases ha : (ans 0).accepted with
  | true => exact .sent call msg
  | false => exact .refused call msg (ans 0) (hok 0) ha

lemma applies_report
    (hrest : ∀ (t t' : TrafficAuthentication Identity) (settled : CallState Identity)
      (action : TrafficAction), call.trafficAuth = some t → Advances t t' action →
      Applies config P (settled.withTrafficAuth t') action
        (applyTrafficAction config fuel (fun n => ans (n + 1)) (settled.withTrafficAuth t') action).1
        (applyTrafficAction config fuel (fun n => ans (n + 1)) (settled.withTrafficAuth t') action).2) :
    Applies config P call (.report proc result clearCall)
      (applyTrafficAction config (fuel + 1) ans call (.report proc result clearCall)).1
      (applyTrafficAction config (fuel + 1) ans call (.report proc result clearCall)).2 := by
  simp only [applyTrafficAction]
  cases he : call.trafficAuth with
  | none => exact .absent call proc result clearCall he
  | some t =>
    split_ifs with hc ho
    · exact .cleared call proc result clearCall (by simpa using hc)
    · simp only [Bool.or_eq_true, not_or, Bool.not_eq_true] at hc
      obtain ⟨rfl, ho⟩ := ho
      rw [hc.1]
      exact .handed call result (ans 0) (hok 0) ho
    · simp only [Bool.or_eq_true, not_or, Bool.not_eq_true] at hc
      rw [hc.1]
      have ha := t.advances config (ans 0).now (ans 0).randssd (ans 0).random
      exact .advanced call _ proc result t _ _ (ans 0) _ he hc.2 ha
        (t.advance_strict config _ _ _) (hrest t _ _ _ he ha)

lemma applies_unique
    (he : call.trafficAuth = some t) (hu : .uniqueChallenge ∈ t.pending) (hf : t.pending.length < fuel)
    :
    Applies config P call (.report proc result clearCall)
      (applyTrafficAction config fuel ans call (.report proc result clearCall)).1
      (applyTrafficAction config fuel ans call (.report proc result clearCall)).2 := by
  induction fuel generalizing ans call t proc result clearCall with
  | zero => omega
  | succ fuel ih =>
    apply applies_report hok
    intro t₀ t' settled action he' ha
    rw [he] at he'
    obtain rfl := Option.some.inj he'
    have hok' : ∀ n, P (ans (n + 1)) := fun n => hok (n + 1)
    have hpos : 0 < t.pending.length := List.length_pos_of_mem hu
    cases ha with
    | finished hp => simp [hp] at hu
    | unready hp =>
      rw [hp] at hu hf
      exact ih hok' rfl (by simpa using hu) (by simpa using hf)
    | updating | challenging | counting => exact applies_send hok' (by omega) _

lemma applies_prepared
    {prep : CallState Identity × TrafficAction} (h : call.prepare config node a = some prep)
    {fuel : ℕ} (hf : 3 ≤ fuel) :
    Applies config P prep.1 prep.2
      (applyTrafficAction config fuel ans prep.1 prep.2).1
      (applyTrafficAction config fuel ans prep.1 prep.2).2 := by
  obtain ⟨-, t, -, hp, hc⟩ := prepares h
  obtain ⟨prep, action⟩ := prep
  obtain rfl := hc
  cases hp with
  | updating | challenging | counting => exact applies_send hok (by omega) _
  | unready hu => exact applies_unique hok rfl hu (by omega)

lemma applies_done (hf : 4 ≤ fuel) :
    Applies config P call .done (applyTrafficAction config fuel ans call .done).1
      (applyTrafficAction config fuel ans call .done).2 := by
  obtain ⟨fuel, rfl⟩ := Nat.exists_eq_add_of_le hf
  rw [show 4 + fuel = (3 + fuel) + 1 by omega]
  simp only [applyTrafficAction]
  cases hp : call.restartNode.bind fun node => call.dropFinished.prepare config node (ans 0) with
  | none => exact .finished call
  | some prep =>
    obtain ⟨node, hn, hp⟩ := Option.bind_eq_some_iff.mp hp
    exact .restarted call _ node (ans 0) prep _ hn hp
      (applies_prepared (fun n => hok (n + 1)) hp (by omega))

/-- **The loop has rounds enough.** -/
theorem applies_applyAction (action : TrafficAction) :
    Applies config P call action (call.applyAction config ans action).1
      (call.applyAction config ans action).2 := by
  unfold applyAction rounds
  cases action with
  | send msg => exact applies_send hok (by omega) msg
  | done => exact applies_done hok (by omega)
  | report proc result clearCall =>
    -- each round takes a proc off the list, and the last leaves enough to restart
    suffices h : ∀ fuel, call.trafficAuth.elim 0 (·.pending.length) + 5 ≤ fuel →
        Applies config P call (.report proc result clearCall)
          (applyTrafficAction config fuel ans call (.report proc result clearCall)).1
          (applyTrafficAction config fuel ans call (.report proc result clearCall)).2 from
      h _ le_rfl
    intro fuel hf
    induction fuel generalizing ans call proc result clearCall with
    | zero => omega
    | succ =>
      apply applies_report hok
      intro t t' settled action he ha
      have hok' : ∀ n, P (ans (n + 1)) := fun n => hok (n + 1)
      rw [he, elim_some] at hf
      cases ha with
      | finished => exact applies_done hok' (by omega)
      | unready => grind [withTrafficAuth]
      | updating | challenging | counting => exact applies_send hok' (by omega) _

end

lemma applies_any (ans : ℕ → Answers) (action : TrafficAction) :
    Applies config (fun _ => True) call action (call.applyAction config ans action).1
      (call.applyAction config ans action).2 := applies_applyAction (fun _ => trivial) action

lemma onAssignmentComplete_cases (call : CallState Identity) (config : AuthenticationConfig)
    (ans : ℕ → Answers) (service : AssignedService) (node : String) (comp : HeldAssignment) :
    (call.onAssignmentComplete config ans service node comp = (call.stopMediaForCall, []) ∨
      call.onAssignmentComplete config ans service node comp = (call, [.provisioningFired comp])) ∨
    (call.pendingOtapa = true ∧ call.holdForProvisioningChallenge config ans node comp =
      some (call.onAssignmentComplete config ans service node comp)) ∨
    (call.pendingOtapa = false ∧ (call.onAssignmentComplete config ans service node comp =
        { call with pendingSsd := false }.holdUntilAuthenticated config ans node comp ∨
      call.onAssignmentComplete config ans service node comp =
        ((call.startTrafficAuthentication config ans node).1,
          (call.startTrafficAuthentication config ans node).2 ++ [.continued comp]))) := by
  unfold onAssignmentComplete
  by_cases hsms : service = .shortMessage
  · exact .inl (.inl (if_pos hsms))
  rw [if_neg hsms]
  cases ho : call.pendingOtapa with
  | true =>
    rw [if_pos rfl]
    cases call.holdForProvisioningChallenge config ans node comp <;> grind
  | false => grind

end CallState

end OneXBts.Msc
