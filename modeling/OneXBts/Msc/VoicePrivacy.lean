import OneXBts.Lib.Traces
import OneXBts.Msc.TrafficActions

/-!
Voice privacy over whole runs of a call.

A private long code is activated only once the mobile has passed a unique challenge in the context the
call has now: `privacyAuthenticated` is set by the report of such a challenge and by nothing else, and
every access that sets the context takes it back.
-/

namespace OneXBts.Msc

open Lib Hlr List CallState CallEvent

variable {Identity : Type}

def CallEvent.activatesPrivacy : CallEvent Identity → Bool
  | .assignmentRequest (some info) => info.active
  | .privacyModeCommand info => info.active
  | _ => false

/-- The mobile has passed a unique challenge since the context of the call was set. -/
def PassedInContext (log : List (CallEvent Identity)) : Prop :=
  Since (· ≠ .contextSet) (· = .reported .uniqueChallenge .success) log

/-- Every active private long code has such a challenge before it. -/
def PrivacyAuthenticated (log : List (CallEvent Identity)) : Prop :=
  Guards (·.activatesPrivacy = true) PassedInContext log

/-! ### The invariant -/

structure PrivacyInv (call : CallState Identity) (log : List (CallEvent Identity)) : Prop where
  authenticated : call.privacyAuthenticated = true → PassedInContext log
  guarded : PrivacyAuthenticated log

/-- Events that have nothing to do with privacy. -/
def Unprivate (es : List (CallEvent Identity)) : Prop := ∀ e ∈ es, e.activatesPrivacy = false ∧ e ≠ .contextSet

variable {call call' : CallState Identity} {log es : List (CallEvent Identity)}

lemma PrivacyInv.congr (h : PrivacyInv call log)
    (hc : call'.privacyAuthenticated = call.privacyAuthenticated) : PrivacyInv call' log :=
  ⟨fun ha => h.authenticated (hc ▸ ha), h.guarded⟩

lemma PrivacyInv.append (h : PrivacyInv call log) (hes : Unprivate es)
    (hc : call'.privacyAuthenticated = call.privacyAuthenticated) : PrivacyInv call' (log ++ es) := by
  constructor
  · intro ha
    exact (h.authenticated (hc ▸ ha)).append fun e he => (hes e he).2
  · apply (guards_append fun e he => ?_).mpr h.guarded
    simp [(hes e he).1]

lemma PrivacyInv.snoc (h : PrivacyInv call log) (he : e ≠ .contextSet)
    (ha : e.activatesPrivacy = true → call.privacyAuthenticated = true)
    (hc : call'.privacyAuthenticated = call.privacyAuthenticated) : PrivacyInv call' (log ++ [e]) := by
  constructor
  · intro hau
    exact (h.authenticated (hc ▸ hau)).append (by simpa using he)
  · exact guards_snoc.mpr ⟨h.guarded, fun hac => h.authenticated (ha hac)⟩

lemma unprivate_release (call : CallState Identity) : Unprivate call.release.2 := by
  unfold release
  intro e he
  grind [activatesPrivacy]

@[simp] lemma release_privacyAuthenticated (call : CallState Identity) :
    call.release.1.privacyAuthenticated = call.privacyAuthenticated := by
  unfold release
  split
  · rfl
  · split <;> rfl

@[simp] lemma dropFinished_privacyAuthenticated (call : CallState Identity) :
    call.dropFinished.privacyAuthenticated = call.privacyAuthenticated := by
  unfold dropFinished
  split <;> rfl

lemma unprivate_verification (t : TrafficAuthentication Identity) (hlr : ReplyAnswers)
    (reply : TrafficReply) : Unprivate (t.verification hlr reply) := by
  intro e he
  unfold TrafficAuthentication.verification at he
  grind [Option.map_eq_some_iff, activatesPrivacy]

lemma unprivate_singleton (he : e.activatesPrivacy = false) (hc : e ≠ .contextSet) : Unprivate [e] := by
  intro e' he'
  obtain rfl := mem_singleton.mp he'
  exact ⟨he, hc⟩

lemma PrivacyInv.sendPrivacyCommand (h : PrivacyInv call log)
    (ha : info.active = true → call.privacyAuthenticated = true) (a : Answers) :
    PrivacyInv (call.sendPrivacyCommand info a).1 (log ++ (call.sendPrivacyCommand info a).2) :=
  h.snoc (by simp) ha rfl

/-- **A report settles privacy**: a unique challenge that passed is what the private long code that
waits is sent on. -/
theorem PrivacyInv.settlePrivacy (h : PrivacyInv call log) (proc : TrafficProcedure)
    (result : ReportedResult) (a : Answers) :
    PrivacyInv (call.settlePrivacy proc result a).1
      (log ++ .reported proc result :: (call.settlePrivacy proc result a).2) := by
  have hr : PrivacyInv call (log ++ [.reported proc result]) := h.append (unprivate_singleton rfl (by simp)) rfl
  rw [append_cons]
  unfold CallState.settlePrivacy
  split_ifs with hpr hre
  · subst hpr hre
    have hp : PrivacyInv { call with privacyAuthenticated := true, pendingPrivacy := none }
        (log ++ [.reported .uniqueChallenge .success]) :=
      ⟨fun _ => since_snoc.mpr (.inl rfl), hr.guarded⟩
    split
    · exact hp.sendPrivacyCommand (fun _ => rfl) a
    · simpa using hp
  · rw [append_nil]
    exact hr.congr rfl
  · rw [append_nil]
    exact hr

/-- **Carrying an action out keeps the invariant.** -/
theorem PrivacyInv.applies (hap : Applies config P call action call' es) (h : PrivacyInv call log) :
    PrivacyInv call' (log ++ es) := by
  induction hap generalizing log with
  | sent | refused => exact h.append (unprivate_singleton rfl (by simp)) rfl
  | absent => simpa using h
  | cleared | handed =>
    refine h.append ?_ rfl
    simp [Unprivate, activatesPrivacy]
  | advanced call call' proc result t _ action a log' he _ _ _ hrest ih =>
    have hs := h.settlePrivacy proc result a
    have hn := ih (hs.congr rfl)
    simpa using hn
  | finished => exact h.append (unprivate_release _) (by simp)
  | restarted call call' _ a prep log' _ hp hrest ih =>
    obtain ⟨-, t, -, -, hc⟩ := prepares hp
    have hst : PrivacyInv prep.1 (log ++ [.started]) := by
      refine h.append (unprivate_singleton rfl (by simp)) ?_
      rw [hc]
      exact dropFinished_privacyAuthenticated call
    have hr := (ih hst).append (unprivate_release call') (release_privacyAuthenticated call')
    simpa using hr

/-! ### Every step keeps it -/

section Steps

variable {config : AuthenticationConfig} {ans : ℕ → Answers}

section

variable (h : PrivacyInv call log)
include h

lemma PrivacyInv.applyAction (ans : ℕ → Answers) (action : TrafficAction) :
    PrivacyInv (call.applyAction config ans action).1
      (log ++ (call.applyAction config ans action).2) :=
  h.applies (applies_any ans action)

lemma PrivacyInv.started
    (hc : call'.privacyAuthenticated = call.privacyAuthenticated) (ans : ℕ → Answers)
    (action : TrafficAction) :
    PrivacyInv (call'.applyAction config ans action).1
      (log ++ .started :: (call'.applyAction config ans action).2) := by
  have hs : PrivacyInv call' (log ++ [.started]) := h.append (unprivate_singleton rfl (by simp)) hc
  simpa using hs.applyAction ans action

lemma PrivacyInv.startTrafficAuthentication (node : String) :
    PrivacyInv (call.startTrafficAuthentication config ans node).1
      (log ++ (call.startTrafficAuthentication config ans node).2) := by
  unfold CallState.startTrafficAuthentication
  split
  · rename_i prep hp
    obtain ⟨-, t, -, -, hc⟩ := prepares hp
    refine h.started ?_ _ _
    rw [hc]
    rfl
  · simpa using h

lemma PrivacyInv.holdUntilAuthenticated (node : String)
    (held : HeldAssignment) :
    PrivacyInv (call.holdUntilAuthenticated config ans node held).1
      (log ++ (call.holdUntilAuthenticated config ans node held).2) := by
  have hs : PrivacyInv (call.startTrafficAuthentication config ans node).1
      (log ++ (call.startTrafficAuthentication config ans node).2) :=
    h.startTrafficAuthentication node
  unfold CallState.holdUntilAuthenticated
  dsimp only
  split_ifs
  · rw [← append_assoc]
    exact hs.append (unprivate_singleton rfl (by simp)) rfl
  · exact hs.congr rfl

lemma PrivacyInv.holdForProvisioningChallenge
    (hr : call.holdForProvisioningChallenge config ans node held = some r) :
    PrivacyInv r.1 (log ++ r.2) := by
  obtain ⟨context, -, rfl⟩ := Option.map_eq_some_iff.mp hr
  refine h.started ?_ _ _
  rfl

lemma PrivacyInv.onAssignmentComplete (service : AssignedService)
    (node : String) (comp : HeldAssignment) :
    PrivacyInv (call.onAssignmentComplete config ans service node comp).1
      (log ++ (call.onAssignmentComplete config ans service node comp).2) := by
  have hf : PrivacyInv call (log ++ [.provisioningFired comp]) := h.append (unprivate_singleton rfl (by simp)) rfl
  have hs : PrivacyInv call.stopMediaForCall (log ++ []) := by
    rw [append_nil]
    exact ⟨by simp [stopMediaForCall, new], h.guarded⟩
  obtain (heq | heq) | ⟨-, hh⟩ | ⟨-, heq | heq⟩ := call.onAssignmentComplete_cases config ans service node comp
  · rw [heq]
    exact hs
  · rw [heq]
    exact hf
  · exact h.holdForProvisioningChallenge hh
  · rw [heq]
    refine PrivacyInv.holdUntilAuthenticated ?_ node comp
    exact h.congr rfl
  · rw [heq, ← append_assoc]
    exact (h.startTrafficAuthentication node).append (unprivate_singleton rfl (by simp)) rfl

lemma PrivacyInv.onPrivacyModeComplete (requested : Bool) (node : String) :
    PrivacyInv (call.onPrivacyModeComplete config ans requested node).1
      (log ++ (call.onPrivacyModeComplete config ans requested node).2) := by
  have hc : PrivacyInv { call with privacyDeadline := none } log := h.congr rfl
  unfold CallState.onPrivacyModeComplete
  dsimp only
  split_ifs with hr hw
  · simpa using hc
  · refine PrivacyInv.startTrafficAuthentication ?_ node
    exact h.congr rfl
  · apply hc.sendPrivacyCommand
    intro ha
    simpa [ha] using hw

lemma PrivacyInv.tick :
    PrivacyInv (call.tickTrafficAuthentication config ans).1
      (log ++ (call.tickTrafficAuthentication config ans).2) := by
  unfold tickTrafficAuthentication
  dsimp only
  generalize he : (call.privacyDeadline.any fun due => decide (due ≤ (ans 0).now)) = expired
  have hs : PrivacyInv (if expired then { call with privacyDeadline := none } else call)
      (log ++ if expired then [clearCommand] else []) := by
    cases expired with
    | true => exact h.append (unprivate_singleton rfl (by simp)) rfl
    | false => simpa using h
  split
  · exact hs
  · rw [← append_assoc]
    refine PrivacyInv.applyAction ?_ _ _
    exact hs.congr rfl

/-- **Every step keeps the invariant.** -/
theorem PrivacyInv.step (i : CallInput Identity) :
    PrivacyInv (call.step config ans i).1 (log ++ (call.step config ans i).2) := by
  cases i with
  | access otaspOrigination decision =>
    change PrivacyInv (call.onAccess config otaspOrigination decision).1
      (log ++ (call.onAccess config otaspOrigination decision).2)
    unfold onAccess
    dsimp only
    split
    · refine ⟨by simp, ?_⟩
      exact guards_snoc.mpr ⟨h.guarded, by simp [activatesPrivacy]⟩
    · rw [append_nil]
      exact h.congr rfl
  | otapaAuthorized => grind [onOtapaAuthorized, cases PrivacyInv, intro PrivacyInv, step]
  | m2mDestination destination callingNumber =>
    change PrivacyInv (call.onM2mDestination destination callingNumber).1
      (log ++ (call.onM2mDestination destination callingNumber).2)
    unfold onM2mDestination
    split_ifs
    · rw [append_nil]
      exact h.congr rfl
    · exact h.append (unprivate_singleton rfl (by simp)) rfl
  | assignment ha =>
    change PrivacyInv (call.assignmentPrivacy config ha).1
      (log ++ [.assignmentRequest (call.assignmentPrivacy config ha).2])
    unfold assignmentPrivacy
    split
    · exact h.append (unprivate_singleton rfl (by simp)) rfl
    split_ifs with hw
    · exact h.append (unprivate_singleton rfl (by simp)) rfl
    · refine h.snoc (by simp) ?_ rfl
      grind [activatesPrivacy]
  | assignmentComplete service node comp => exact h.onAssignmentComplete service node comp
  | privacyModeComplete requested node => exact h.onPrivacyModeComplete requested node
  | otaspSsdUpdate =>
    refine h.started ?_ _ _
    rfl
  | reply reply hlr =>
    change PrivacyInv (call.handleTrafficAuthenticationReply config ans reply hlr).1
      (log ++ (call.handleTrafficAuthenticationReply config ans reply hlr).2)
    unfold handleTrafficAuthenticationReply
    split
    · simpa using h
    rename_i entry he
    dsimp only
    rw [← append_assoc]
    refine PrivacyInv.applyAction ?_ _ _
    exact h.append (unprivate_verification entry hlr reply) rfl
  | tick => exact h.tick
  | stop => grind [stopMediaForCall, new, cases PrivacyInv, intro PrivacyInv, step]

end

end Steps

/-! ### Runs -/

/-- What happens to a call, with what is answered to it: the state and the events so far. -/
def CallState.run (config : AuthenticationConfig) (call : CallState Identity)
    (inputs : List ((ℕ → Answers) × CallInput Identity)) : CallState Identity × List (CallEvent Identity) :=
  inputs.foldl (fun r i => ((r.1.step config i.1 i.2).1, r.2 ++ (r.1.step config i.1 i.2).2)) (call, [])

lemma PrivacyInv.run (config : AuthenticationConfig) (pendingOtapa : Bool)
    (inputs : List ((ℕ → Answers) × CallInput Identity)) :
    PrivacyInv ((CallState.new pendingOtapa).run config inputs).1
      ((CallState.new pendingOtapa).run config inputs).2 := by
  induction inputs using reverseRecOn with
  | nil => exact ⟨by simp [CallState.run, CallState.new], Guards.nil⟩
  | append_singleton inputs i ih =>
    simp only [CallState.run, foldl_append]
    exact ih.step i.2

/-- **Voice privacy is never activated before a unique challenge passes**: in every run of a call, an
active private long code goes out only if the report of a passed challenge has been applied since the
context of the call was last set. -/
theorem voice_privacy_after_challenge (config : AuthenticationConfig) (pendingOtapa : Bool)
    (inputs : List ((ℕ → Answers) × CallInput Identity)) :
    PrivacyAuthenticated ((CallState.new pendingOtapa).run config inputs).2 :=
  (PrivacyInv.run config pendingOtapa inputs).guarded

def enforced : AuthenticationConfig where
  mode := .enforce
  voicePrivacy := .optional
  ssdUpdate := .whenNeeded
  uniqueChallengeOnCall := false
  countUpdateOnCall := false
  procedureTimeoutMs := 5000

def answering (accepted : Bool) : ℕ → Answers := fun _ => ⟨0, some none, some 0, 7, accepted, true, false⟩

/-- The HLR takes the new SSD and finds every answer to a challenge right. -/
def agreeingHlr : ReplyAnswers := ⟨fun _ => some 0, true, fun _ => some .success, true⟩

/-- A mobile with keys asks for privacy, and is challenged on its traffic channel first. -/
def privateCall : List ((ℕ → Answers) × CallInput Unit) :=
  [(answering true, .access false ⟨.success, false, some ⟨[], 5⟩, some ((), "310150123456789", 1)⟩),
    (answering true, .assignment true), (answering true, .assignmentComplete .voice "bs" ⟨none, none⟩),
    (answering true, .reply (.authenticationResponse 9) agreeingHlr)]

-- the code is inactive in the Assignment Request, and active once the challenge has passed
example : (((CallState.new false).run enforced privateCall).2.filter fun e =>
    e matches .assignmentRequest _ | .reported .. | .privacyModeCommand _) =
    [.assignmentRequest (some ⟨5, false⟩), .reported .uniqueChallenge .success,
      .privacyModeCommand ⟨5, true⟩] := by decide +kernel

end OneXBts.Msc
