import OneXBts.Msc.VoicePrivacy

/-!
Held calls over whole runs.

A call that is held waits for a procedure on its traffic channel. It must not be left without one: a
reply or the deadline of the procedure is what releases or clears it (`Watched`). That is so as long as
the A1 interface takes the messages of the procedures, and no provisioning session owns the call.
-/

namespace OneXBts.Msc

open Lib Hlr Option CallState TrafficAuthentication

variable {Identity : Type}

namespace CallState

def held (call : CallState Identity) : Bool := call.heldAssignment.isSome || call.provisioningHold.isSome

/-- A held call has a procedure that waits for a reply. -/
def Watched (call : CallState Identity) : Prop :=
  call.held = true → ∃ t, call.trafficAuth = some t ∧ t.awaiting.isSome = true

/-- Calls to provision a mobile and other calls are held in different tables. -/
structure Sorted (call : CallState Identity) : Prop where
  otapa : call.pendingOtapa = true → call.heldAssignment = none ∧ call.pendingSsd = false
  voice : call.pendingOtapa = false → call.provisioningHold = none ∧ call.provisioningChallenge = none

structure HoldInv (call : CallState Identity) : Prop extends Sorted call where
  /-- Procedures that are there wait for a reply. -/
  armed : ∀ t, call.trafficAuth = some t → t.awaiting.isSome = true
  watched : call.held = true → call.trafficAuth.isSome = true

variable {call call' : CallState Identity} {es : List (CallEvent Identity)}

lemma HoldInv.toWatched (h : HoldInv call) : Watched call := by
  intro hh
  grind [isSome_iff_exists, cases CallState.HoldInv]

structure SameHolds (call call' : CallState Identity) : Prop where
  pendingOtapa : call'.pendingOtapa = call.pendingOtapa
  pendingSsd : call'.pendingSsd = call.pendingSsd
  heldAssignment : call'.heldAssignment = call.heldAssignment
  provisioningChallenge : call'.provisioningChallenge = call.provisioningChallenge
  provisioningHold : call'.provisioningHold = call.provisioningHold

lemma SameHolds.held (h : SameHolds call call') : call'.held = call.held := by
  rw [CallState.held, CallState.held, h.heldAssignment, h.provisioningHold]

lemma SameHolds.sorted (h : SameHolds call call') (hs : Sorted call) : Sorted call' := by
  constructor <;> grind [cases CallState.SameHolds, cases CallState.Sorted]

lemma HoldInv.congr (h : HoldInv call) (hs : SameHolds call call')
    (ha : call'.trafficAuth = call.trafficAuth) : HoldInv call' := by
  obtain ⟨hso, har, hw⟩ := h
  exact ⟨hs.sorted hso, by grind, by grind [hs.held]⟩

lemma sameHolds_settlePrivacy (proc : TrafficProcedure) (result : ReportedResult) (a : Answers) :
    SameHolds call (call.settlePrivacy proc result a).1 := by
  unfold settlePrivacy
  grind [intro CallState.SameHolds, sendPrivacyCommand]

lemma sameHolds_dropFinished : SameHolds call call.dropFinished := by
  unfold dropFinished
  split <;> exact ⟨rfl, rfl, rfl, rfl, rfl⟩

lemma sameHolds_prepared (h : call.prepare config node a = some prep) :
    SameHolds call prep.1 := by
  obtain ⟨-, t, -, -, hc⟩ := prepares h
  rw [hc]
  exact ⟨rfl, rfl, rfl, rfl, rfl⟩

@[simp] lemma release_trafficAuth (call : CallState Identity) :
    call.release.1.trafficAuth = call.trafficAuth := by
  unfold release
  split
  · rfl
  · split <;> rfl

lemma HoldInv.release (hs : Sorted call)
    (ha : ∀ t, call.trafficAuth = some t → t.awaiting.isSome = true) : HoldInv call.release.1 := by
  grind [Sorted, release, held, intro CallState.HoldInv]

/-! ### Carrying an action out -/

/-- An action that belongs to the procedures of the call. -/
def Fits (call : CallState Identity) : TrafficAction → Prop
  | .send _ => ∃ t, call.trafficAuth = some t ∧ t.awaiting.isSome = true
  | .report .. => call.trafficAuth.isSome = true
  | .done => True

lemma fits_advances (h : Advances t t' action) : Fits (call.withTrafficAuth t') action := by
  cases h <;> grind [CallState.Fits, withTrafficAuth]

lemma fits_prepared (h : call.prepare config node a = some prep) :
    Fits prep.1 prep.2 := by
  obtain ⟨-, t, -, hp, hc⟩ := prepares h
  obtain ⟨prep, action⟩ := prep
  obtain rfl := hc
  cases hp <;> grind [CallState.Fits, withTrafficAuth]

lemma fits_reacts (h : Reacts t t' action passed) : Fits (call.withTrafficAuth t') action := by
  cases h with
  | challenged _ _ _ ha => exact ⟨t', rfl, by simp [ha]⟩
  | _ => rfl

/-- The A1 interface takes every message, and no provisioning session owns the call. -/
def Favourable (a : Answers) : Prop := a.accepted = true ∧ a.ownsCall = false

/-- **Carrying an action out keeps a held call watched.** -/
theorem HoldInv.applies
    (ha : Applies config P call action call' es) (hso : Sorted call) (hf : Fits call action)
    (hok : call.held = true → ∀ a, P a → Favourable a) : HoldInv call' := by
  induction ha with
  | sent => grind [Fits, intro HoldInv]
  | refused | handed => grind [withoutTrafficAuth, held, Favourable, cases Sorted, intro HoldInv, intro Sorted]
  | absent call proc result clearCall he => simp [Fits, he] at hf
  | cleared => grind [refuse, held, cases Sorted, intro HoldInv, intro Sorted]
  | advanced call call' proc result t t' action a log he _ had _ hrest ih =>
    have hs : SameHolds call ((call.settlePrivacy proc result a).1.withTrafficAuth t') := by
      obtain ⟨h₁, h₂, h₃, h₄, h₅⟩ : SameHolds call (call.settlePrivacy proc result a).1 :=
        sameHolds_settlePrivacy proc result a
      exact ⟨h₁, h₂, h₃, h₄, h₅⟩
    exact ih (hs.sorted hso) (fits_advances had) (hs.held ▸ hok)
  | finished =>
    apply HoldInv.release (sameHolds_dropFinished.sorted hso)
    intro t ht
    unfold dropFinished at ht
    grind [isSome_iff_ne_none, withoutTrafficAuth]
  | restarted call call' _ a prep log _ hp hrest ih =>
    have hs : SameHolds call prep.1 := by
      have hdr : SameHolds call call.dropFinished := sameHolds_dropFinished
      grind [sameHolds_prepared hp, cases SameHolds, intro SameHolds]
    have hinv := ih (hs.sorted hso) (fits_prepared hp) (hs.held ▸ hok)
    exact HoldInv.release hinv.toSorted hinv.armed

/-! ### Every step keeps it -/

section Steps

variable {config : AuthenticationConfig} {ans : ℕ → Answers}

lemma HoldInv.applyAction (hs : Sorted call) (hf : Fits call action)
    (hok : call.held = true → ∀ n, Favourable (ans n)) :
    HoldInv (call.applyAction config ans action).1 := by
  refine HoldInv.applies (P := fun a => call.held = true → Favourable a)
    (applies_applyAction (fun n hh => hok hh n) action) hs hf ?_
  exact fun hh a ha => ha hh

lemma HoldInv.startTrafficAuthentication (h : HoldInv call) (node : String)
    (hok : call.held = true → ∀ n, Favourable (ans n)) :
    HoldInv (call.startTrafficAuthentication config ans node).1 ∧
      (call.startTrafficAuthentication config ans node).1.pendingOtapa = call.pendingOtapa := by
  unfold CallState.startTrafficAuthentication
  split
  · rename_i prep hp
    have hs := sameHolds_prepared hp
    constructor
    · apply HoldInv.applyAction (hs.sorted h.toSorted) (fits_prepared hp)
      rw [hs.held]
      exact fun hh n => hok hh (n + 1)
    · exact (applies_any _ prep.2).fixed.pendingOtapa.trans hs.pendingOtapa
  · exact ⟨h, rfl⟩

lemma HoldInv.holdUntilAuthenticated (h : HoldInv call) (ho : call.pendingOtapa = false)
    (node : String) (held : HeldAssignment) (hok : call.held = true → ∀ n, Favourable (ans n)) :
    HoldInv (call.holdUntilAuthenticated config ans node held).1 := by
  obtain ⟨hs, hsa⟩ : HoldInv (call.startTrafficAuthentication config ans node).1 ∧
      (call.startTrafficAuthentication config ans node).1.pendingOtapa = call.pendingOtapa :=
    h.startTrafficAuthentication node hok
  unfold CallState.holdUntilAuthenticated
  dsimp only
  split_ifs with hn
  · exact hs
  refine ⟨⟨?_, hs.voice⟩, hs.armed, ?_⟩ <;> grind [isSome_iff_ne_none]

lemma HoldInv.holdForProvisioningChallenge (h : HoldInv call) (ho : call.pendingOtapa = true)
    {held : HeldAssignment} {r : CallState Identity × List (CallEvent Identity)}
    (hr : call.holdForProvisioningChallenge config ans node held = some r)
    (hok : ∀ n, Favourable (ans n)) : HoldInv r.1 := by
  obtain ⟨context, -, rfl⟩ := map_eq_some_iff.mp hr
  refine HoldInv.applyAction ?_ (fits_advances (advances _ config _ _ _))
    (fun _ n => hok (n + 1))
  refine ⟨h.otapa, ?_⟩
  intro hv
  cases ho.symm.trans hv

/-- The step may lose the procedure of a held call. -/
def Exposed (call : CallState Identity) : CallInput Identity → Prop
  | .assignmentComplete .. => call.held = true ∨ call.provisioningChallenge.isSome = true
  | _ => call.held = true

/-- What a step with a held call must be spared: a message of its procedures that the A1 interface does
not take, and a provisioning session that owns the call. -/
def Undisturbed (call : CallState Identity) (answers : ℕ → Answers) (i : CallInput Identity) : Prop :=
  Exposed call i → (∀ n, Favourable (answers n)) ∧ ∀ context, i ≠ .otaspSsdUpdate context

/-- **Every undisturbed step keeps held calls watched.** -/
theorem HoldInv.step (h : HoldInv call) (hu : Undisturbed call ans i) :
    HoldInv (call.step config ans i).1 := by
  obtain ⟨⟨ho, hv⟩, har, hw⟩ := id h
  have hst : HoldInv call.stopMediaForCall := by grind [stopMediaForCall, new, held, intro HoldInv, intro Sorted]
  cases i with
  | access => grind [step, onAccess, held, intro HoldInv, intro Sorted]
  | otapaAuthorized => grind [step, onOtapaAuthorized, held, intro HoldInv, intro Sorted]
  | m2mDestination => grind [step, onM2mDestination, held, intro HoldInv, intro Sorted]
  | assignment => grind [step, assignmentPrivacy, held, intro HoldInv, intro Sorted]
  | assignmentComplete service node comp =>
    have hok : call.held = true → ∀ n, Favourable (ans n) := fun hh => (hu (.inl hh)).1
    change HoldInv (call.onAssignmentComplete config ans service node comp).1
    obtain (heq | heq) | ⟨ho, hh⟩ | ⟨ho, heq | heq⟩ :=
      call.onAssignmentComplete_cases config ans service node comp
    · rwa [heq]
    · rwa [heq]
    · obtain ⟨context, hc, -⟩ := map_eq_some_iff.mp hh
      exact h.holdForProvisioningChallenge ho hh (hu (.inr (by simp [hc]))).1
    · rw [heq]
      refine HoldInv.holdUntilAuthenticated ?_ ?_ node comp ?_
      · grind [held, intro HoldInv, intro Sorted]
      · exact ho
      · exact hok
    · rw [heq]
      exact (h.startTrafficAuthentication node hok).1
  | privacyModeComplete requested node =>
    change HoldInv (call.onPrivacyModeComplete config ans requested node).1
    unfold onPrivacyModeComplete
    dsimp only
    split_ifs
    any_goals exact h.congr ⟨rfl, rfl, rfl, rfl, rfl⟩ rfl
    · refine (HoldInv.startTrafficAuthentication ?_ node ?_).1
      · exact h.congr ⟨rfl, rfl, rfl, rfl, rfl⟩ rfl
      · exact fun hh => (hu hh).1
  | otaspSsdUpdate context =>
    refine HoldInv.applyAction ?_ (fits_advances (advances _ config _ _ _)) ?_
    · exact ⟨ho, hv⟩
    · exact fun hh => absurd rfl ((hu hh).2 context)
  | reply reply hlr =>
    change HoldInv (call.handleTrafficAuthenticationReply config ans reply hlr).1
    unfold handleTrafficAuthenticationReply
    split
    · exact h
    rename_i entry he
    refine HoldInv.applyAction ?_ ?_ ?_
    · exact ⟨ho, hv⟩
    · cases ha : entry.asked reply with
      | true =>
        obtain ⟨passed, hr, -⟩ := reacts_onReply ha
        exact fits_reacts hr
      | false =>
        rw [onReply_unasked ha]
        trivial
    · exact fun hh n => (hu hh).1 (n + 1)
  | tick =>
    change HoldInv (call.tickTrafficAuthentication config ans).1
    unfold tickTrafficAuthentication
    dsimp only
    generalize (call.privacyDeadline.any fun due => decide (due ≤ (ans 0).now)) = expired
    have hs : SameHolds call (if expired then { call with privacyDeadline := none } else call) := by
      cases expired <;> exact ⟨rfl, rfl, rfl, rfl, rfl⟩
    split
    · exact h.congr hs (by cases expired <;> rfl)
    rename_i entry hov
    have haw : entry.awaiting.isSome = true := by
      simpa using (Bool.and_eq_true_iff.mp (filter_eq_some_iff.mp hov).2).1
    refine HoldInv.applyAction ?_ (fits_reacts (reacts_onTimeout haw)) ?_
    · exact ⟨(hs.sorted h.toSorted).otapa, (hs.sorted h.toSorted).voice⟩
    · exact fun hh n => (hu (hs.held.symm.trans hh)).1 (n + 1)
  | stop => exact hst

/-! ### Runs -/

def UndisturbedRun (config : AuthenticationConfig) :
    CallState Identity → List ((ℕ → Answers) × CallInput Identity) → Prop
  | _, [] => True
  | call, i :: inputs => Undisturbed call i.1 i.2 ∧ UndisturbedRun config (call.step config i.1 i.2).1 inputs

lemma HoldInv.run (h : HoldInv call)
    (hrun : UndisturbedRun config call inputs) (log : List (CallEvent Identity)) :
    HoldInv (inputs.foldl (fun r i => ((r.1.step config i.1 i.2).1, r.2 ++ (r.1.step config i.1 i.2).2))
      (call, log)).1 := by
  induction inputs generalizing call log with
  | nil => exact h
  | cons i inputs ih => exact ih (h.step hrun.1) hrun.2 _

end Steps

end CallState

/-- **A held call always has a procedure that waits**, in every run in which no step with a held call is
disturbed. -/
theorem held_calls_watched (config : AuthenticationConfig) (pendingOtapa : Bool)
    (inputs : List ((ℕ → Answers) × CallInput Identity))
    (hrun : CallState.UndisturbedRun config (.new pendingOtapa) inputs) :
    ((CallState.new pendingOtapa).run config inputs).1.Watched := by
  have hnew : (new pendingOtapa : CallState Identity).HoldInv :=
    ⟨⟨by simp [new], by simp [new]⟩, by simp [new],
      by simp [new, held]⟩
  exact (hnew.run hrun []).toWatched

def mobileContext : CallAuthContext Unit := ⟨(), "310150123456789", 1, .notRequested⟩

/-- A call that fails its global challenge is held at its assignment; the mobile answers the SSD
update. `last` tells whether the Authentication Request that follows goes out. -/
def heldForUpdate (last : Bool) : List ((ℕ → Answers) × CallInput Unit) :=
  [(answering true, .access false ⟨.signatureMismatch, true, none, some ((), "310150123456789", 1)⟩),
    (answering true, .assignmentComplete .voice "bs" ⟨none, none⟩),
    (answering true, .reply (.baseStationChallenge 3) agreeingHlr),
    (answering last, .reply (.ssdUpdateResponse true) agreeingHlr)]

def heldForProvisioning (accepted : Bool) : List ((ℕ → Answers) × CallInput Unit) :=
  [(answering true, .otapaAuthorized (some mobileContext)),
    (answering accepted, .assignmentComplete .voice "bs" ⟨none, none⟩)]

theorem held_calls_watched_updating :
    ((CallState.new false).run enforced (heldForUpdate true)).1.held = true ∧
    ((CallState.new false).run enforced (heldForUpdate true)).1.Watched := by
  refine ⟨by decide +kernel, held_calls_watched enforced false (heldForUpdate true) ?_⟩
  have hf : ∀ n, CallState.Favourable (answering true n) := fun _ => ⟨rfl, rfl⟩
  exact ⟨fun _ => ⟨hf, by simp⟩, fun _ => ⟨hf, by simp⟩, fun _ => ⟨hf, by simp⟩, fun _ => ⟨hf, by simp⟩, trivial⟩

/-- **Held for ever**: the message that starts or continues the procedure of a held call is not taken,
and the procedure is forgotten, but the call is still held. -/
theorem held_call_orphaned :
    ¬ ((CallState.new false).run enforced (heldForUpdate false)).1.Watched ∧
    ¬ ((CallState.new true).run enforced (heldForProvisioning false)).1.Watched := by
  constructor
  · intro h
    obtain ⟨t, ht, -⟩ := h (by decide +kernel)
    have hn : ((new false).run enforced (heldForUpdate false)).1.trafficAuth = none := by decide +kernel
    rw [hn] at ht
    cases ht
  · intro h
    obtain ⟨t, ht, -⟩ := h (by decide +kernel)
    have hn : ((new true).run enforced (heldForProvisioning false)).1.trafficAuth = none := by decide +kernel
    cases ht

end OneXBts.Msc
