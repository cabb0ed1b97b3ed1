import OneXBts.Msc.HeldCalls

/-!
The release of held calls.

The trace of a run has every operation, with the state of the call before it, and what the operation led to. A held call is to
be released only after the mobile has answered its last Authentication Request right (`Passed`). The procedures keep to
that, but a reply that nobody asked for is answered like the end of all procedures, and releases the call.
-/

namespace OneXBts.Msc

open Lib Hlr List Option CallState TrafficAuthentication TrafficAwaiting

variable {Identity : Type}

/-! ### Runs and traces -/

inductive TrafficInput where
  | holdUntilAuthenticated (node : String) (held : HeldAssignment)
  | holdForProvisioningChallenge (node : String) (held : HeldAssignment)
  | reply (reply : TrafficReply) (hlr : ReplyAnswers)
  | tick

inductive TrafficItem (Identity : Type) where
  /-- An operation, with the state of the call before it. -/
  | input (call : CallState Identity) (i : TrafficInput)
  | event (e : CallEvent Identity)

namespace CallState

def trafficStep (config : AuthenticationConfig) (call : CallState Identity) (answers : ℕ → Answers) :
    TrafficInput → CallState Identity × List (CallEvent Identity)
  | .holdUntilAuthenticated node held => call.holdUntilAuthenticated config answers node held
  | .holdForProvisioningChallenge node held =>
    (call.holdForProvisioningChallenge config answers node held).getD (call, [])
  | .reply reply hlr => call.handleTrafficAuthenticationReply config answers reply hlr
  | .tick => call.tickTrafficAuthentication config answers

/-- The call after a run, and its trace, oldest first. -/
def traffic (config : AuthenticationConfig) (call : CallState Identity)
    (inputs : List ((ℕ → Answers) × TrafficInput)) : CallState Identity × List (TrafficItem Identity) :=
  inputs.foldl (fun r i => ((r.1.trafficStep config i.1 i.2).1,
    r.2 ++ .input r.1 i.2 :: (r.1.trafficStep config i.1 i.2).2.map .event)) (call, [])

/-- The call is held, and gets a reply that its current step did not ask for. -/
def Unasked (call : CallState Identity) : TrafficInput → Prop
  | .reply reply _ => call.held = true ∧ ∃ t, call.trafficAuth = some t ∧ t.asked reply = false
  | _ => False

/-- The access of the call failed its global challenge. -/
def FailedGlobally (call : CallState Identity) : Prop :=
  ∀ context, call.callAuthContext = some context →
    context.globalResult = .signatureMismatch ∨ context.globalResult = .countMismatch

end CallState

namespace TrafficItem

def releases : TrafficItem Identity → Bool
  | .event (.released _) | .event (.provisioningReleased _) => true
  | _ => false

def opens : TrafficItem Identity → Bool
  | .event .started | .event (.sent (.authenticationRequest _) _) => true
  | _ => false

def isInput : TrafficItem Identity → Bool
  | .input .. => true
  | .event _ => false

end TrafficItem

/-- The procedures have started, and the last Authentication Request has this number. -/
def Requested (randu : UInt32) (trace : List (TrafficItem Identity)) : Prop :=
  .event .started ∈ trace ∧ Since (fun x => x.opens = false)
    (fun x => ∃ accepted, x = .event (.sent (.authenticationRequest randu) accepted)) trace

/-- The HLR has found the answer to the last Authentication Request right. -/
def Passed (trace : List (TrafficItem Identity)) : Prop :=
  ∃ before challenge after, trace = before ++ .event (.verified challenge (some .success)) :: after ∧
    Requested challenge.randu before ∧ ∀ x ∈ after, x.opens = false

/-- The operation that is going on is a reply nobody asked for. -/
def UnaskedLast (trace : List (TrafficItem Identity)) : Prop :=
  Since (fun x => x.isInput = false) (fun x => ∃ call i, x = .input call i ∧ call.Unasked i) trace

/-- **A held call is released only by a passed unique challenge**, and not on a reply nobody asked for. -/
def ReleasesProperly (trace : List (TrafficItem Identity)) : Prop :=
  Guards (fun x => x.releases = true) (fun before => Passed before ∧ ¬ UnaskedLast before) trace

section Past

variable {trace items : List (TrafficItem Identity)} {randu : UInt32}

lemma Requested.append (h : Requested randu trace) (hit : ∀ x ∈ items, x.opens = false) :
    Requested randu (trace ++ items) := ⟨mem_append_left _ h.1, h.2.append hit⟩

lemma Passed.append (h : Passed trace) (hit : ∀ x ∈ items, x.opens = false) :
    Passed (trace ++ items) := by grind [Passed]

lemma Requested.passed (h : Requested randu trace)
    (hv : VerifiedOn randu es) : Passed (trace ++ es.map .event) := by
  obtain ⟨challenge, rfl, rfl⟩ := hv
  exact ⟨trace, challenge, [], rfl, h, by simp⟩

lemma unaskedLast_events (es : List (CallEvent Identity)) :
    UnaskedLast (trace ++ es.map .event) ↔ UnaskedLast trace := by
  apply since_append
  intro x hx
  obtain ⟨e, -, rfl⟩ := mem_map.mp hx
  exact ⟨by simp, rfl⟩

lemma unaskedLast_input (call : CallState Identity) (i : TrafficInput) :
    UnaskedLast (trace ++ [.input call i]) ↔ call.Unasked i := by
  rw [UnaskedLast, since_snoc]
  simp [TrafficItem.isInput]

end Past

/-! ### Events that do not matter -/

/-- Events that start nothing and release nothing. -/
def Plain (es : List (CallEvent Identity)) : Prop :=
  ∀ e ∈ es, (TrafficItem.event e).opens = false ∧ (TrafficItem.event e).releases = false

section Plain

variable {es es' : List (CallEvent Identity)} {trace : List (TrafficItem Identity)}

lemma Plain.opens (h : Plain es) : ∀ x ∈ es.map TrafficItem.event, x.opens = false := by
  intro x hx
  obtain ⟨e, he, rfl⟩ := mem_map.mp hx
  exact (h e he).1

lemma Plain.releasesProperly (h : Plain es) (hp : ReleasesProperly trace) :
    ReleasesProperly (trace ++ es.map .event) := by
  apply (guards_append fun x hx => ?_).mpr hp
  obtain ⟨e, he, rfl⟩ := mem_map.mp hx
  simp [(h e he).2]

lemma plain_verification (t : TrafficAuthentication Identity) (hlr : ReplyAnswers)
    (reply : TrafficReply) : Plain (t.verification hlr reply) := by
  intro e he
  unfold verification at he
  split at he
  · split at he
    · obtain ⟨challenge, -, rfl⟩ := map_eq_some_iff.mp (mem_toList.mp he)
      exact ⟨rfl, rfl⟩
    · cases he
  · cases he

lemma plain_settlePrivacy (call : CallState Identity) (proc : TrafficProcedure)
    (result : ReportedResult) (a : Answers) :
    Plain (.reported proc result :: (call.settlePrivacy proc result a).2) := by
  unfold settlePrivacy
  split_ifs
  · split <;> simp [Plain, sendPrivacyCommand, TrafficItem.opens, TrafficItem.releases]
  all_goals simp [Plain, TrafficItem.opens, TrafficItem.releases]

lemma releasesProperly_release (hp : ReleasesProperly trace) (hpa : Passed trace)
    (hu : ¬ UnaskedLast trace) (call : CallState Identity) :
    ReleasesProperly (trace ++ call.release.2.map .event) := by
  unfold release
  split
  · exact guards_snoc.mpr ⟨hp, fun _ => ⟨hpa, hu⟩⟩
  split
  · generalize hc : call.heldM2mCallee.toList.map
      (fun callee => (CallEvent.calleeStarted callee.1 callee.2 : CallEvent Identity)) = es
    have hpl : Plain es := by
      intro e he
      rw [← hc] at he
      obtain ⟨callee, -, rfl⟩ := mem_map.mp he
      exact ⟨rfl, rfl⟩
    rw [map_append, ← append_assoc]
    refine guards_snoc.mpr ⟨hpl.releasesProperly hp, fun _ => ⟨hpa.append hpl.opens, ?_⟩⟩
    rwa [unaskedLast_events]
  · simpa using hp

end Plain

/-! ### The invariant -/

/-- The mobile has passed, and the call knows. -/
def HasPassed (call : CallState Identity) (trace : List (TrafficItem Identity)) : Prop :=
  Passed trace ∧ call.privacyAuthenticated = true

/-- The procedures of a call wait, with a unique challenge ahead, under way or passed. -/
structure Awaits (call : CallState Identity) (t : TrafficAuthentication Identity)
    (trace : List (TrafficItem Identity)) : Prop where
  started : .event .started ∈ trace
  armed : t.awaiting.isSome = true
  requested : ∀ randu, t.awaiting = some (.authenticationResponse randu) → Requested randu trace
  ahead : .uniqueChallenge ∈ t.pending ∨ (∃ randu, t.awaiting = some (.authenticationResponse randu)) ∨
    HasPassed call trace
  /-- The procedures of a provisioning call are one unique challenge. -/
  strict : t.strict = true → t.pending = [] ∧ ∃ randu, t.awaiting = some (.authenticationResponse randu)

lemma Awaits.append {t : TrafficAuthentication Identity}
    {trace items : List (TrafficItem Identity)} (h : Awaits call t trace)
    (hc : call'.privacyAuthenticated = call.privacyAuthenticated)
    (hit : ∀ x ∈ items, x.opens = false) : Awaits call' t (trace ++ items) := by
  obtain ⟨hs, ha, hr, hah, hst⟩ := h
  constructor <;> grind [Requested.append, Passed.append, HasPassed]

/-- A report after which the procedures go on. -/
def GoesOn (call : CallState Identity) (t : TrafficAuthentication Identity)
    (trace : List (TrafficItem Identity)) (procedure : TrafficProcedure) (result : ReportedResult) : Prop :=
  (t.strict = true → t.pending = []) ∧
    ((procedure = .uniqueChallenge ∧ result = .success ∧ Passed trace) ∨
      (procedure ≠ .uniqueChallenge ∧ (.uniqueChallenge ∈ t.pending ∨ HasPassed call trace)))

def Ready (call : CallState Identity) (trace : List (TrafficItem Identity)) : TrafficAction → Prop
  | .send message => ∃ t, call.trafficAuth = some t ∧
      Awaits call t (trace ++ [.event (.sent message true)])
  | .report procedure result clearCall => .event .started ∈ trace ∧ ∃ t, call.trafficAuth = some t ∧
      ((clearCall = true ∨ call.heldFailed procedure result = true) ∨
        GoesOn call t trace procedure result)
  | .done => HasPassed call trace ∧ ∀ t, call.trafficAuth = some t → t.awaiting = none

section Ready

variable {call call' : CallState Identity} {t t' : TrafficAuthentication Identity}
  {trace : List (TrafficItem Identity)} {action : TrafficAction}

lemma ready_advances (h : Advances t t' action) (hst : t'.strict = t.strict)
    (hs : .event .started ∈ trace) (hpe : t.strict = true → t.pending = [])
    (hah : .uniqueChallenge ∈ t.pending ∨ HasPassed call trace) :
    Ready (call.withTrafficAuth t') trace action := by
  -- a proc that starts is not strict, and one other than the challenge leaves it ahead
  have hlax : ∀ p, t.pending = p :: t'.pending → t'.strict = false := by grind
  have hah' : ∀ p, t.pending = p :: t'.pending → p ≠ .uniqueChallenge →
      .uniqueChallenge ∈ t'.pending ∨ HasPassed call trace := by grind
  have hse : ∀ p msg awaiting, t.pending = p :: t'.pending → p ≠ .uniqueChallenge →
      t'.awaiting = some awaiting → awaiting.procedure ≠ .uniqueChallenge →
      (TrafficItem.event (.sent msg true) : TrafficItem Identity).opens = false →
      Ready (call.withTrafficAuth t') trace (.send msg) := by
    intro p msg awaiting hp hne ha hpr hpl
    refine ⟨t', rfl, ?_⟩
    constructor <;> grind [procedure, HasPassed, Passed.append, withTrafficAuth]
  cases h with
  | finished hp _ ha =>
    refine ⟨hah.resolve_left (by simp [hp]), ?_⟩
    rintro _ ⟨⟩
    exact ha
  | unready hp => exact ⟨hs, t', rfl, .inr ⟨by simp [hlax _ hp], .inr ⟨by simp, hah' _ hp (by simp)⟩⟩⟩
  | challenging randu hp ha =>
    refine ⟨t', rfl, mem_append_left _ hs, by simp [ha], ?_, .inr (.inl ⟨randu, ha⟩),
      by simp [hlax _ hp]⟩
    grind [since_snoc, Requested]
  | _ => exact hse _ _ _ (by assumption) (by simp) (by assumption) (by simp [procedure]) rfl

structure Carried (call call' : CallState Identity) (trace : List (TrafficItem Identity)) : Prop where
  proper : ReleasesProperly trace
  /-- Procedures that are still there are those of before. -/
  awaits : ∀ t', call'.trafficAuth = some t' → Awaits call' t' trace ∧
    call'.heldAssignment = call.heldAssignment ∧ call'.provisioningHold = call.provisioningHold ∧
    ∀ t, call.trafficAuth = some t → t'.strict = t.strict

lemma settlePrivacy_success (a : Answers) :
    (call.settlePrivacy .uniqueChallenge .success a).1.privacyAuthenticated = true := by
  unfold settlePrivacy
  rw [if_pos rfl, if_pos rfl]
  split <;> rfl

lemma settlePrivacy_other (h : proc ≠ .uniqueChallenge)
    (result : ReportedResult) (a : Answers) : call.settlePrivacy proc result a = (call, []) := by
  unfold settlePrivacy
  rw [if_neg h]

/-- **Carrying out an action that may be carried out.** -/
theorem carried_applies (hap : Applies config P call action call' es)
    (hr : Ready call trace action) (hp : ReleasesProperly trace)
    (hu : ¬ UnaskedLast trace) : Carried call call' (trace ++ es.map .event) := by
  induction hap generalizing trace with
  | sent =>
    obtain ⟨t, ht, haw⟩ := hr
    refine ⟨(guards_append (by simp [TrafficItem.releases])).mpr hp, ?_⟩
    grind
  | refused | handed =>
    exact ⟨(guards_append (by simp [TrafficItem.releases])).mpr hp, by simp [withoutTrafficAuth]⟩
  | absent call proc result clearCall he =>
    obtain ⟨-, t, ht, -⟩ := hr
    rw [he] at ht
    cases ht
  | cleared => exact ⟨(guards_append (by simp [TrafficItem.releases])).mpr hp, by simp [refuse]⟩
  | advanced call call' proc result t t' action a log he hh had hs hrest ih =>
    obtain ⟨hst, t₀, ht₀, hc | ⟨hpe, hg⟩⟩ := hr
    · simp [hh] at hc
    rw [he] at ht₀
    obtain rfl := some.inj ht₀
    have hpl := plain_settlePrivacy call proc result a
    -- the state after the report: the challenge has passed, or is ahead as before
    have hah : .uniqueChallenge ∈ t.pending ∨ HasPassed (call.settlePrivacy proc result a).1 (trace ++
          (.reported proc result :: (call.settlePrivacy proc result a).2).map .event) := by
      obtain ⟨rfl, rfl, hpa⟩ | ⟨ho, hun | ⟨hpa, hau⟩⟩ := hg
      · exact .inr ⟨hpa.append hpl.opens, settlePrivacy_success a⟩
      · exact .inl hun
      · refine .inr ⟨hpa.append hpl.opens, ?_⟩
        rw [settlePrivacy_other ho]
        exact hau
    have hn := ih (ready_advances had hs (mem_append_left _ hst) hpe hah)
      (hpl.releasesProperly hp) (by rwa [unaskedLast_events])
    have htr : trace ++ (CallEvent.reported proc result ::
        ((call.settlePrivacy proc result a).2 ++ log)).map .event =
      trace ++ (CallEvent.reported proc result ::
        (call.settlePrivacy proc result a).2).map .event ++ log.map .event := by simp
    rw [htr]
    refine ⟨hn.proper, fun t'' ht'' => ?_⟩
    obtain ⟨haw, hh', hho', hs'⟩ := hn.awaits t'' ht''
    have hsa : CallState.SameHolds call (call.settlePrivacy proc result a).1 :=
      sameHolds_settlePrivacy proc result a
    grind [cases CallState.SameHolds, withTrafficAuth]
  | finished =>
    obtain ⟨⟨hpa, -⟩, hdo⟩ := hr
    refine ⟨releasesProperly_release hp hpa hu _, ?_⟩
    intro t' ht'
    rw [release_trafficAuth] at ht'
    unfold dropFinished at ht'
    grind [withoutTrafficAuth]
  | restarted call call' _ a _ log hno =>
    obtain ⟨⟨-, hau⟩, -⟩ := hr
    simp [restartNode, hau] at hno

end Ready

/-! ### Every step that was asked for -/

structure ReleaseInv (call : CallState Identity) (trace : List (TrafficItem Identity)) : Prop where
  failed : call.FailedGlobally
  proper : ReleasesProperly trace
  awaits : ∀ t, call.trafficAuth = some t → Awaits call t trace ∧
    (t.strict = false → call.heldAssignment.isSome = true) ∧
    (t.strict = true → call.provisioningHold.isSome = true)

section Steps

variable {call : CallState Identity} {trace : List (TrafficItem Identity)}
  {config : AuthenticationConfig} {ans : ℕ → Answers}

lemma ReleaseInv.held (h : ReleaseInv call trace) (ht : call.trafficAuth = some t) : call.held = true := by
  grind [held, cases ReleaseInv]

lemma ReleaseInv.input (h : ReleaseInv call trace) (i : TrafficInput) :
    ReleaseInv call (trace ++ [.input call i]) := by
  refine ⟨h.failed, (guards_append (by simp [TrafficItem.releases])).mpr h.proper, ?_⟩
  intro t ht
  obtain ⟨ha, hh⟩ := h.awaits t ht
  exact ⟨ha.append rfl (by simp [TrafficItem.opens]), hh⟩

lemma ReleaseInv.carried (hf : call.FailedGlobally)
    (ha : Applies config P (call.withTrafficAuth t') action call' es)
    (hc : Carried (call.withTrafficAuth t') call' trace')
    (hh : (t'.strict = false → call.heldAssignment.isSome = true) ∧
      (t'.strict = true → call.provisioningHold.isSome = true)) : ReleaseInv call' trace' := by
  refine ⟨?_, hc.proper, ?_⟩
  · intro context hco
    exact hf context (ha.fixed.callAuthContext ▸ hco)
  grind [cases Carried, withTrafficAuth]

lemma ReleaseInv.ready {items : List (TrafficItem Identity)} (h : ReleaseInv call trace)
    (ht : call.trafficAuth = some t) (hr : Reacts t t' action passed) (hsa : t'.strict = t.strict)
    (hit : ∀ x ∈ items, x.opens = false)
    (hpa : ∀ randu, passed = some randu → Requested randu trace → Passed (trace ++ items)) :
    Ready (call.withTrafficAuth t') (trace ++ items) action := by
  obtain ⟨haw, hlax, hstr⟩ := h.awaits t ht
  have hst : .event .started ∈ trace ++ items := mem_append_left _ haw.started
  -- a proc other than the challenge is not strict, and has the challenge ahead or passed
  have ho : ∀ awaiting, t.awaiting = some awaiting → awaiting.procedure ≠ .uniqueChallenge →
      t.strict = false ∧ (.uniqueChallenge ∈ t.pending ∨ HasPassed call (trace ++ items)) := by
    grind [cases Awaits, procedure, HasPassed, Passed]
  cases hr with
  | updateFailed awaiting result hre hb hpr =>
    obtain ⟨hnot, -⟩ := ho awaiting hb (by simp [hpr])
    grind [heldFailed, Ready, withTrafficAuth]
  | challenged _ hp hb ha =>
    obtain ⟨hnot, hah⟩ := ho _ hb (by simp [procedure])
    refine ⟨t', rfl, mem_append_left _ hst, by simp [ha], by simp [ha], ?_,
      by simp [hsa, hnot]⟩
    grind [HasPassed, Passed.append, TrafficItem.opens, withTrafficAuth]
  | passed randu hp hb =>
    refine ⟨hst, t', rfl, .inr ⟨?_, .inl ⟨rfl, rfl, hpa randu rfl (haw.requested randu hb)⟩⟩⟩
    rw [hsa, hp]
    exact fun hs => (haw.strict hs).1
  | failed =>
    refine ⟨hst, t', rfl, .inl ?_⟩
    grind [heldFailed, withTrafficAuth]
  | updated hp hb | counted _ _ hp hb =>
    obtain ⟨hnot, hah⟩ := ho _ hb (by simp [procedure])
    refine ⟨hst, t', rfl, .inr ⟨by simp [hsa, hnot], .inr ⟨by simp, ?_⟩⟩⟩
    rw [hp]
    exact hah

lemma ReleaseInv.reacted
     (h : ReleaseInv call trace)
    (hu : ¬ UnaskedLast trace) (ht : call.trafficAuth = some t)
    (hr : Reacts t t' action passed) (hs : t'.strict = t.strict) (hb : Plain before)
    (hp : ∀ randu, passed = some randu → VerifiedOn randu before) (ans : ℕ → Answers) :
    ReleaseInv ((call.withTrafficAuth t').applyAction config ans action).1 (trace ++
      (before ++ ((call.withTrafficAuth t').applyAction config ans action).2).map .event) := by
  have hre : Ready (call.withTrafficAuth t') (trace ++ before.map .event) action := by
    apply h.ready ht hr hs hb.opens
    exact fun randu hra hreq => hreq.passed (hp randu hra)
  have ha : Applies config (fun _ => True) (call.withTrafficAuth t') action _ _ := applies_any ans action
  have hc := carried_applies ha hre (hb.releasesProperly h.proper)
    (by rwa [unaskedLast_events])
  grind [ReleaseInv.carried, cases ReleaseInv]

lemma ReleaseInv.congr {call' : CallState Identity} (h : ReleaseInv call trace)
    (hco : call'.callAuthContext = call.callAuthContext) (ha : call'.trafficAuth = call.trafficAuth)
    (hp : call'.privacyAuthenticated = call.privacyAuthenticated)
    (hh : call'.heldAssignment = call.heldAssignment)
    (hho : call'.provisioningHold = call.provisioningHold) : ReleaseInv call' trace := by
  refine ⟨fun context hc => h.failed context (hco ▸ hc), h.proper, fun t ht => ?_⟩
  obtain ⟨haw, hhol⟩ := h.awaits t (ha ▸ ht)
  have hk : Awaits call' t (trace ++ []) := haw.append hp (by simp)
  rw [append_nil] at hk
  exact ⟨hk, by rw [hh, hho]; exact hhol⟩

lemma ReleaseInv.plain (h : ReleaseInv call trace) {es : List (CallEvent Identity)} (hes : Plain es) :
    ReleaseInv call (trace ++ es.map .event) := by
  refine ⟨h.failed, hes.releasesProperly h.proper, ?_⟩
  intro t ht
  obtain ⟨ha, hh⟩ := h.awaits t ht
  exact ⟨ha.append rfl hes.opens, hh⟩

lemma ReleaseInv.reply (h : ReleaseInv call trace) (hu : ¬ UnaskedLast trace)
    {reply : TrafficReply} (ha : ∀ t, call.trafficAuth = some t → t.asked reply = true)
    (hlr : ReplyAnswers) :
    ReleaseInv (call.handleTrafficAuthenticationReply config ans reply hlr).1 (trace ++
      (call.handleTrafficAuthenticationReply config ans reply hlr).2.map .event) := by
  unfold handleTrafficAuthenticationReply
  split
  · simpa using h
  rename_i t ht
  obtain ⟨passed, hr, hp⟩ := reacts_onReply (ha t ht)
  exact h.reacted hu ht hr (onReply_strict _ hlr reply)
    (plain_verification t hlr reply) hp _

lemma ReleaseInv.tick (h : ReleaseInv call trace) (hu : ¬ UnaskedLast trace) :
    ReleaseInv (call.tickTrafficAuthentication config ans).1 (trace ++
      (call.tickTrafficAuthentication config ans).2.map .event) := by
  unfold tickTrafficAuthentication
  dsimp only
  generalize (call.privacyDeadline.any fun due => decide (due ≤ (ans 0).now)) = expired
  have hs : ReleaseInv (if expired then { call with privacyDeadline := none } else call) trace := by
    cases expired <;> exact h.congr rfl rfl rfl rfl rfl
  have hp : Plain (if expired then [CallEvent.clearCommand] else [] : List (CallEvent Identity)) := by
    cases expired <;> simp [Plain, TrafficItem.opens, TrafficItem.releases]
  split
  · exact hs.plain hp
  rename_i t ho
  obtain ⟨ht, ho⟩ := filter_eq_some_iff.mp ho
  have ha : t.awaiting.isSome = true := (Bool.and_eq_true _ _ ▸ ho).1
  exact hs.reacted hu ht (reacts_onTimeout ha)
    onTimeout_strict hp (by simp) _

lemma ready_prepares (h : Prepares call t action) (hf : call.FailedGlobally) (hs : t.strict = false)
    (hst : .event .started ∈ trace) (ht : call'.trafficAuth = some t) :
    Ready call' trace action := by
  cases h with
  | updating _ hu ha =>
    exact ⟨t, ht, mem_append_left _ hst, by simp [ha], by simp [ha], .inl hu,
      by simp [hs]⟩
  | unready hu => exact ⟨hst, t, ht, .inr ⟨by simp [hs], .inr ⟨by simp, .inl hu⟩⟩⟩
  | challenging randu ha =>
    refine ⟨t, ht, mem_append_left _ hst, by simp [ha], ?_, .inr (.inl ⟨randu, ha⟩), by simp [hs]⟩
    grind [since_snoc, Requested]
  | counting =>
    -- a call that failed has a unique challenge first
    grind [CallState.FailedGlobally]

lemma ReleaseInv.hold (hf : call'.FailedGlobally)
    (hp : ReleasesProperly trace) (ha : ∀ t, call'.trafficAuth = some t →
      Awaits call' t trace ∧ (t.strict = true → call'.provisioningHold.isSome = true))
    (held : HeldAssignment) : ReleaseInv { call' with heldAssignment := some held } trace := by
  refine ⟨hf, hp, fun t ht => ?_⟩
  obtain ⟨⟨hs, har, hr, hah, hst⟩, hh⟩ := ha t ht
  exact ⟨⟨hs, har, hr, hah, hst⟩, fun _ => rfl, hh⟩

lemma ReleaseInv.holdUntilAuthenticated (h : ReleaseInv call trace) (hu : ¬ UnaskedLast trace)
    (node : String) (held : HeldAssignment) :
    ReleaseInv (call.holdUntilAuthenticated config ans node held).1 (trace ++
      (call.holdUntilAuthenticated config ans node held).2.map .event) := by
  have hc : Plain [(CallEvent.clearCommand : CallEvent Identity)] := by
    simp [Plain, TrafficItem.opens, TrafficItem.releases]
  unfold CallState.holdUntilAuthenticated CallState.startTrafficAuthentication
  cases hp : call.prepare config node (ans 0) with
  | none =>
    dsimp only
    split_ifs
    · exact h.plain hc
    grind [ReleaseInv.hold, cases ReleaseInv]
  | some prep =>
    obtain ⟨-, t, hs, hpr, hcall⟩ := prepares hp
    have ht : prep.1.trafficAuth = some t := by rw [hcall]; rfl
    have hr : Ready prep.1 (trace ++ [.event .started]) prep.2 := ready_prepares hpr h.failed hs (by simp) ht
    have ha : Applies config (fun _ => True) prep.1 prep.2 _ _ :=
      CallState.applies_any (fun n => ans (n + 1)) prep.2
    have hca := carried_applies ha hr
      ((guards_append (by simp [TrafficItem.releases])).mpr h.proper)
      (mt (unaskedLast_events [.started]).mp hu)
    have hf : (prep.1.applyAction config (fun n => ans (n + 1)) prep.2).1.FailedGlobally := by
      intro context hco
      rw [ha.fixed.callAuthContext, (fixed_prepared hp).callAuthContext] at hco
      exact h.failed context hco
    rw [append_assoc] at hca
    dsimp only
    split_ifs with hg
    · have hinv : ReleaseInv _ _ := ⟨hf, hca.proper, ?_⟩
      · simpa using hinv.plain hc
      · intro t' ht'
        rw [ht'] at hg
        cases hg
    grind [ReleaseInv.hold, cases Carried]

lemma ReleaseInv.holdForProvisioningChallenge (h : ReleaseInv call trace)
    (hu : ¬ UnaskedLast trace) {held : HeldAssignment} {r : CallState Identity × List (CallEvent Identity)}
    (hr : call.holdForProvisioningChallenge config ans node held = some r) :
    ReleaseInv r.1 (trace ++ r.2.map .event) := by
  obtain ⟨context, -, rfl⟩ := map_eq_some_iff.mp hr
  have ha := (TrafficAuthentication.provisioningChallenge context node (ans 0).now).advances
    config (ans 0).now (ans 0).randssd (ans 0).random
  have hs := (TrafficAuthentication.provisioningChallenge context node
    (ans 0).now).advance_strict config (ans 0).now (ans 0).randssd (ans 0).random
  dsimp only
  generalize (TrafficAuthentication.provisioningChallenge context node (ans 0).now).advance config
    (ans 0).now (ans 0).randssd (ans 0).random = next at ha hs
  obtain ⟨t', action⟩ := next
  dsimp only at ha hs
  generalize hcall₁ : ({ call with
    provisioningChallenge := none
    trafficAuthStarted := true
    provisioningHold := some held } : CallState Identity) = call₁
  have hre : Ready (call₁.withTrafficAuth t') (trace ++ [.event .started]) action := by
    cases ha with
    | challenging randu hp haw =>
      have he : t'.pending = [] := (List.cons.inj hp).2.symm
      refine ⟨t', rfl, by simp, by simp [haw], ?_, .inr (.inl ⟨randu, haw⟩), fun _ => ⟨he, randu, haw⟩⟩
      grind [since_snoc, Requested]
    | finished hp => cases hp
    | unready hp => cases hp
    | updating randssd hp => cases hp
    | counting hp => cases hp
  have hap : Applies config (fun _ => True) (call₁.withTrafficAuth t') action _ _ :=
    applies_any (fun n => ans (n + 1)) action
  have hc := carried_applies hap hre
    ((guards_append (by simp [TrafficItem.releases])).mpr h.proper)
    (mt (unaskedLast_events [.started]).mp hu)
  rw [append_assoc] at hc
  refine ReleaseInv.carried ?_ hap hc ?_
  · rw [← hcall₁]
    exact h.failed
  grind [TrafficAuthentication.provisioningChallenge]

/-- **Every step that is not a reply nobody asked for keeps the invariant.** -/
theorem ReleaseInv.step (h : ReleaseInv call trace) (ha : ¬ call.Unasked i) :
    ReleaseInv (call.trafficStep config ans i).1
      (trace ++ .input call i :: (call.trafficStep config ans i).2.map .event) := by
  have hin := h.input i
  have hu : ¬ UnaskedLast (trace ++ [.input call i]) := by rwa [unaskedLast_input]
  rw [append_cons]
  cases i with
  | holdUntilAuthenticated node held => exact hin.holdUntilAuthenticated hu node held
  | holdForProvisioningChallenge node held =>
    change ReleaseInv ((call.holdForProvisioningChallenge config ans node held).getD (call, [])).1
      (_ ++ ((call.holdForProvisioningChallenge config ans node held).getD (call, [])).2.map .event)
    cases hr : call.holdForProvisioningChallenge config ans node held with
    | none => simpa using hin
    | some => exact hin.holdForProvisioningChallenge hu hr
  | reply reply hlr =>
    refine hin.reply hu (fun t ht => ?_) hlr
    rw [← Bool.not_eq_false]
    exact fun hnot => ha ⟨h.held ht, t, ht, hnot⟩
  | tick => exact hin.tick hu

lemma release_held (hh : call.held = true) :
    ∃ before e, call.release.2 = before ++ [e] ∧ (TrafficItem.event e).releases = true := by
  unfold release
  split
  · exact ⟨[], _, rfl, rfl⟩
  · split
    · exact ⟨_, _, rfl, rfl⟩
    grind [held]

lemma applyAction_done (ht : call.trafficAuth = some t)
    (ha : t.awaiting.isSome = true) : (call.applyAction config ans .done).2 = call.release.2 := by
  have hk : call.dropFinished = call := by
    rw [dropFinished, if_neg]
    simpa [ht, isSome_iff_ne_none] using ha
  have hr : (call.restartNode.bind fun node => call.prepare config node (ans 0)) = none := by
    cases call.restartNode <;> simp [prepare, ht]
  simp only [applyAction, rounds, applyTrafficAction, hr, hk, nil_append]

/-- **A reply nobody asked for releases a held call.** -/
theorem ReleaseInv.unasked (h : ReleaseInv call trace) (hu : call.Unasked i) :
    ¬ ReleasesProperly (trace ++ .input call i :: (call.trafficStep config ans i).2.map .event) := by
  cases i with
  | reply reply hlr =>
    obtain ⟨hh, t, ht, hnot⟩ := id hu
    have hs : call.withTrafficAuth t = call := by rw [withTrafficAuth, ← ht]
    have hst : (call.trafficStep config ans (.reply reply hlr)).2 =
        t.verification hlr reply ++ call.release.2 := by
      simp only [trafficStep, handleTrafficAuthenticationReply, ht,
        onReply_unasked hnot, hs, applyAction_done ht (h.awaits t ht).1.armed]
    obtain ⟨before, e, hr, he⟩ := release_held hh
    grind [append_cons, guards_snoc, unaskedLast_events, unaskedLast_input, ReleasesProperly]
  | holdUntilAuthenticated | holdForProvisioningChallenge | tick => cases hu

end Steps

/-! ### Runs -/

lemma traffic_snoc (config : AuthenticationConfig) (call : CallState Identity)
    (inputs : List ((ℕ → Answers) × TrafficInput)) (i : (ℕ → Answers) × TrafficInput) :
    call.traffic config (inputs ++ [i]) = (((call.traffic config inputs).1.trafficStep config i.1 i.2).1,
        (call.traffic config inputs).2 ++ .input (call.traffic config inputs).1 i.2 ::
          ((call.traffic config inputs).1.trafficStep config i.1 i.2).2.map .event) := by simp [traffic]

lemma traffic_cases (config : AuthenticationConfig) (call : CallState Identity)
    (inputs : List ((ℕ → Answers) × TrafficInput)) (hid : call.trafficAuth = none)
    (hf : call.FailedGlobally) :
    ((∀ call' i, .input call' i ∈ (call.traffic config inputs).2 → ¬ call'.Unasked i) ∧
      ReleaseInv (call.traffic config inputs).1 (call.traffic config inputs).2) ∨
    (∃ call' i, .input call' i ∈ (call.traffic config inputs).2 ∧ call'.Unasked i) ∧
      ¬ ReleasesProperly (call.traffic config inputs).2 := by
  induction inputs using reverseRecOn with
  | nil => exact .inl ⟨by simp [traffic], hf, Guards.nil, by simp [traffic, hid]⟩
  | append_singleton inputs i ih =>
    rw [traffic_snoc]
    generalize call.traffic config inputs = r at ih
    obtain ⟨ha, hinv⟩ | ⟨⟨call', i', hmem, hu⟩, hr⟩ := ih
    · by_cases hu : r.1.Unasked i.2
      · exact .inr ⟨⟨r.1, i.2, by simp, hu⟩, hinv.unasked hu⟩
      · refine .inl ⟨?_, hinv.step hu⟩
        grind
    · exact .inr ⟨⟨call', i', mem_append_left _ hmem, hu⟩, fun hp => hr hp.of_append⟩

/-- **Held calls are released properly exactly when every reply to a held call was asked for.** -/
theorem held_released_iff (config : AuthenticationConfig) (call : CallState Identity)
    (inputs : List ((ℕ → Answers) × TrafficInput)) (hidle : call.trafficAuth = none)
    (hfailed : call.FailedGlobally) :
    ReleasesProperly (call.traffic config inputs).2 ↔
      ∀ call' i, .input call' i ∈ (call.traffic config inputs).2 → ¬ call'.Unasked i := by
  obtain ⟨ha, hinv⟩ | ⟨⟨call', i, hmem, hu⟩, hr⟩ := traffic_cases config call inputs hidle hfailed
  · exact ⟨fun _ => ha, fun _ => hinv.proper⟩
  · exact ⟨fun hp => absurd hp hr, fun ha => absurd hu (ha call' i hmem)⟩

instance (call : CallState Identity) (i : TrafficInput) : Decidable (call.Unasked i) :=
  match i with
  | .reply reply _ =>
    decidable_of_iff (call.held = true ∧ call.trafficAuth.any (fun t => !t.asked reply) = true)
      (by simp [CallState.Unasked, Option.any_eq_true])
  | .holdUntilAuthenticated .. | .holdForProvisioningChallenge .. | .tick => isFalse id

def failedCall : CallState Unit :=
  { CallState.new false with callAuthContext := some ⟨(), "310150123456789", 1, .signatureMismatch⟩ }

/-- The call is held, and the mobile answers every step of its procedures. -/
def answeredCall : List ((ℕ → Answers) × TrafficInput) :=
  [(answering true, .holdUntilAuthenticated "bs" ⟨none, none⟩),
    (answering true, .reply (.baseStationChallenge 3) agreeingHlr),
    (answering true, .reply (.ssdUpdateResponse true) agreeingHlr),
    (answering true, .reply (.authenticationResponse 9) agreeingHlr)]

theorem held_released_answered :
    ReleasesProperly (failedCall.traffic enforced answeredCall).2 ∧
    (failedCall.traffic enforced answeredCall).2.any TrafficItem.releases = true := by
  refine ⟨(held_released_iff enforced failedCall answeredCall rfl ?_).mpr ?_, by decide +kernel⟩
  · rintro context ⟨⟩
    exact .inl rfl
  intro call' i hmem
  have ha : (failedCall.traffic enforced answeredCall).2.all
      (fun x => match x with
        | .input call i => !decide (call.Unasked i)
        | .event _ => true) = true := by decide +kernel
  simpa using all_eq_true.mp ha _ hmem

def TrafficItem.verifies : TrafficItem Identity → Bool
  | .event (.verified _ (some .success)) => true
  | _ => false

lemma ReleasesProperly.verifies (h : ReleasesProperly trace)
    (hr : trace.any TrafficItem.releases = true) : trace.any TrafficItem.verifies = true := by
  obtain ⟨x, hx, hre⟩ := any_eq_true.mp hr
  obtain ⟨before, after, rfl⟩ := append_of_mem hx
  obtain ⟨⟨earlier, challenge, later, rfl, -⟩, -⟩ := h before x after rfl hre
  simp [TrafficItem.verifies]

/-- The mobile is asked for a Base Station Challenge, and sends an SSD Update Response. -/
def strayResponse : List ((ℕ → Answers) × TrafficInput) :=
  [(answering true, .holdUntilAuthenticated "bs" ⟨none, none⟩),
    (answering true, .reply (.ssdUpdateResponse true) agreeingHlr)]

/-- A mobile to provision is asked for an Authentication Response, and confirms a parameter update. -/
def strayConfirm : List ((ℕ → Answers) × TrafficInput) :=
  [(answering true, .holdForProvisioningChallenge "bs" ⟨none, none⟩),
    (answering true, .reply .parameterUpdateConfirm agreeingHlr)]

def provisioningCall : CallState Unit := { CallState.new true with provisioningChallenge := some mobileContext }

/-- **Released without a challenge**: a reply the procedures say they ignore is the end of them. -/
theorem held_released_unasked :
    ¬ ReleasesProperly (failedCall.traffic enforced strayResponse).2 ∧
    ¬ ReleasesProperly (provisioningCall.traffic enforced strayConfirm).2 := by
  constructor
  all_goals
    intro h
    have hv := h.verifies (by decide +kernel)
    revert hv
    decide +kernel

end OneXBts.Msc
