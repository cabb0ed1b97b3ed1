import OneXBts.Msc.OtaspEnding
import OneXBts.Msc.OtaspKeyExchange

/-!
The records of provisioning sessions.

The record of a session that is owned has its end exactly if the session is terminated (`Owned`); so calls of a session append
at most one end, and nothing after it. The exception is a tick: it appends an end of its own to the record of every session
that has been silent for long, and a session that a failed delivery has terminated is still owned.
-/

namespace OneXBts.Msc

open Lib Otasp List OtaspCoordinator

namespace OtaspCoordinator

variable {Identity : Type} {c c' c'' : OtaspCoordinator Identity} {key : SessionKey}
  {entry entry' : SessionEntry Identity} {recorded : List OtaspEvent}

/-! ### Sound coordinators -/

structure Owned (c : OtaspCoordinator Identity) (entry : SessionEntry Identity) : Prop where
  coherent : Coherent entry.session
  queued : Queued entry.session entry.requests
  record : ∃ recorded, c.records.lookup entry.recordId = some recorded ∧
    (Ended recorded ↔ entry.session.phase = .terminated)

structure Sound (c : OtaspCoordinator Identity) : Prop where
  owned : ∀ key entry, c.sessions.lookup key = some entry → Owned c entry
  /-- No two sessions share a record. -/
  apart : ∀ key key' entry entry', c.sessions.lookup key = some entry →
    c.sessions.lookup key' = some entry' → entry.recordId = entry'.recordId → key = key'
  fresh : ∀ r recorded, c.records.lookup r = some recorded → r < c.nextRecord
  endsOnce : ∀ r recorded, c.records.lookup r = some recorded → EndsOnce recorded
  silent : ∀ d ∈ c.sent, d.phase ≠ .terminated

structure Settled (c : OtaspCoordinator Identity) : Prop extends Sound c where
  drained : ∀ key entry, c.sessions.lookup key = some entry → entry.requests = []

lemma settled_new (cfg : OtaspConfig) : Settled (new cfg : OtaspCoordinator Identity) := by
  refine ⟨⟨?_, ?_, ?_, ?_, ?_⟩, ?_⟩ <;> simp [new]

lemma Sound.put (h : Sound c) (hc : Coherent entry.session) (hq : Queued entry.session entry.requests)
    (he : Ended recorded ↔ entry.session.phase = .terminated) (ho : EndsOnce recorded)
    (hown : ∀ k e, k ≠ key → c.sessions.lookup k = some e → e.recordId ≠ entry.recordId)
    (hs : c'.sessions.lookup key = some entry)
    (hse : ∀ k, k ≠ key → c'.sessions.lookup k = c.sessions.lookup k)
    (hr : c'.records.lookup entry.recordId = some recorded)
    (hre : ∀ r, r ≠ entry.recordId → c'.records.lookup r = c.records.lookup r)
    (hn : c.nextRecord ≤ c'.nextRecord) (hf : entry.recordId < c'.nextRecord)
    (hsi : ∀ d ∈ c'.sent, d.phase ≠ .terminated) : Sound c' := by
  obtain ⟨how, ha, hl, ho', -⟩ := h
  constructor <;> grind +splitImp [cases Owned, intro Owned]

lemma Sound.recordId_lt (h : Sound c) (he : c.sessions.lookup key = some entry) :
    entry.recordId < c.nextRecord := by
  obtain ⟨-, -, recorded, hr, -⟩ := h.owned key entry he
  exact h.fresh _ _ hr

lemma Sound.replace (h : Sound c) (hen : c.sessions.lookup key = some entry)
    (hid : entry'.recordId = entry.recordId) (hc : Coherent entry'.session)
    (hq : Queued entry'.session entry'.requests)
    (hend : Ended recorded ↔ entry'.session.phase = .terminated) (ho : EndsOnce recorded)
    (hs : c'.sessions.lookup key = some entry')
    (hse : ∀ k, k ≠ key → c'.sessions.lookup k = c.sessions.lookup k)
    (hr : c'.records.lookup entry.recordId = some recorded)
    (hre : ∀ r, r ≠ entry.recordId → c'.records.lookup r = c.records.lookup r)
    (hn : c'.nextRecord = c.nextRecord) (hsi : ∀ d ∈ c'.sent, d.phase ≠ .terminated) :
    Sound c' := by
  rw [← hid] at hr hre
  apply h.put hc hq hend ho ?_ hs hse hr hre hn.ge ?_ hsi
  · intro k e hk he hsa
    exact hk (h.apart _ _ _ _ he hen (hsa.trans hid))
  · rw [hid, hn]
    exact h.recordId_lt hen

lemma Sound.congr (h : Sound c) (hs : c'.sessions = c.sessions)
    (hr : c'.records = c.records) (hn : c'.nextRecord = c.nextRecord) (hse : c'.sent = c.sent) :
    Sound c' := by
  obtain ⟨ho, ha, hf, hon, hsi⟩ := h
  constructor <;> grind [cases Owned, intro Owned]

lemma Sound.drop (h : Sound c) (he : c.sessions.lookup key = some entry)
    (hs : c'.sessions.lookup key = none) (hse : ∀ k, k ≠ key → c'.sessions.lookup k = c.sessions.lookup k)
    (hr : c'.records.lookup entry.recordId = none)
    (hre : ∀ r, r ≠ entry.recordId → c'.records.lookup r = c.records.lookup r)
    (hn : c'.nextRecord = c.nextRecord) (hsent : c'.sent = c.sent) : Sound c' := by
  obtain ⟨ho, ha, hf, hon, hsi⟩ := h
  constructor <;> grind +splitImp [cases Owned, intro Owned]

/-! ### What is given to the HLR -/

def Grows (c c' : OtaspCoordinator Identity) : Prop := ∃ more, c'.saved = c.saved ++ more ∧ ∀ x ∈ more, EndsOnce x.2

lemma Grows.of_eq (h : c'.saved = c.saved) : Grows c c' := ⟨[], by simp [h], by simp⟩

lemma Grows.snoc (h : c'.saved = c.saved ++ [(r, recorded)]) (ho : EndsOnce recorded) :
    Grows c c' := ⟨_, h, by simpa using ho⟩

lemma Grows.trans (h : Grows c c') (h' : Grows c' c'') : Grows c c'' := by grind [OtaspCoordinator.Grows]

lemma append_eq (hr : c.records.lookup entry.recordId = some recorded) (events : List OtaspEvent) :
    c.append entry.recordId events =
      { c with records := c.records.insert entry.recordId (recorded ++ events) } := by
  unfold append
  rw [hr]

lemma takeFinished_eq (hr : c.records.lookup r = some recorded) :
    c.takeFinished r = { c with records := c.records.erase r, saved := c.saved ++ [(r, recorded)] } := by
  unfold takeFinished
  rw [hr]

lemma persistNetworkProgress_cases (c : OtaspCoordinator Identity) (r : ℕ) :
    c.persistNetworkProgress r = c ∨ ∃ recorded, c.records.lookup r = some recorded ∧
      c.persistNetworkProgress r = { c with saved := c.saved ++ [(r, recorded)] } := by
  grind [persistNetworkProgress]

lemma grows_persistNetworkProgress
    (ho : ∀ recorded, c.records.lookup r = some recorded → EndsOnce recorded) :
    Grows c (c.persistNetworkProgress r) := by
  obtain heq | ⟨recorded, hr, heq⟩ := c.persistNetworkProgress_cases r
  · exact .of_eq (by rw [heq])
  · exact .snoc (by rw [heq]) (ho recorded hr)

@[simp] lemma persistNetworkProgress_frame (r : ℕ) :
    (c.persistNetworkProgress r).sessions = c.sessions ∧
    (c.persistNetworkProgress r).records = c.records ∧
    (c.persistNetworkProgress r).nextRecord = c.nextRecord ∧
    (c.persistNetworkProgress r).sent = c.sent := by
  obtain heq | ⟨recorded, hr, heq⟩ := c.persistNetworkProgress_cases r <;> simp [heq]

/-! ### What is sent -/

section Flush

variable (c) (key) (r : ℕ) (phase : Phase) (messages : List OtaspMessage)

@[simp] lemma flushOutbound_frame :
    (c.flushOutbound key r phase messages).sessions = c.sessions ∧
    (c.flushOutbound key r phase messages).records = c.records ∧
    (c.flushOutbound key r phase messages).nextRecord = c.nextRecord ∧
    (c.flushOutbound key r phase messages).saved = c.saved := by
  induction messages generalizing c with
  | nil => exact ⟨rfl, rfl, rfl, rfl⟩
  | cons _ messages ih => exact ih _

lemma silent_flushOutbound (h : ∀ d ∈ c.sent, d.phase ≠ .terminated)
    (hm : phase = .terminated → messages = []) :
    ∀ d ∈ (c.flushOutbound key r phase messages).sent, d.phase ≠ .terminated := by
  induction messages generalizing c with
  | nil => exact h
  | cons msg messages ih => exact ih (deliver key r phase c msg) (by grind [deliver]) (by grind)

end Flush

/-! ### Calls -/

structure Served (key : SessionKey) (c c' : OtaspCoordinator Identity) : Prop where
  sound : Sound c'
  grows : Grows c c'
  others : ∀ k, k ≠ key → c'.sessions.lookup k = c.sessions.lookup k
  kept : ∀ entry, c.sessions.lookup key = some entry →
    ∃ entry', c'.sessions.lookup key = some entry' ∧ entry'.recordId = entry.recordId

lemma Served.refl (h : Sound c) : Served key c c :=
  ⟨h, .of_eq rfl, fun _ _ => rfl, fun entry he => ⟨entry, he, rfl⟩⟩

lemma Served.trans (h : Served key c c') (h' : Served key c' c'') : Served key c c'' :=
  ⟨h'.sound, h.grows.trans h'.grows, by grind [cases Served], by grind [cases Served]⟩

def called (entry : SessionEntry Identity) (now : ℕ) (t : Turn) : SessionEntry Identity :=
  { entry with
    session := t.session
    lastActivity := now
    lastPhase := (labelForLatestPhase (eventsOf t.log)).getD entry.lastPhase
    requests := entry.requests ++ requestsOf t.log }

def told (c : OtaspCoordinator Identity) (key : SessionKey) (entry : SessionEntry Identity) (now : ℕ)
    (t : Turn) (recorded : List OtaspEvent) : OtaspCoordinator Identity :=
  { c with
    sessions := c.sessions.insert key (called entry now t)
    records := c.records.insert entry.recordId (recorded ++ eventsOf t.log) }

section HandOver

variable {now : ℕ} {t : Turn}

lemma handOver_eq (hr : c.records.lookup entry.recordId = some recorded) :
    c.handOver key entry now t = (if (eventsOf t.log).isEmpty then c.told key entry now t recorded
        else (c.told key entry now t recorded).persistNetworkProgress entry.recordId).flushOutbound
        key entry.recordId t.session.phase (messagesOf t.log) := by
  unfold handOver
  dsimp only
  rw [append_eq (c := c.setEntry key _) hr]
  rfl

lemma handOver_frame (key : SessionKey) (now : ℕ) (t : Turn)
    (hr : c.records.lookup entry.recordId = some recorded) :
    (c.handOver key entry now t).sessions = c.sessions.insert key (called entry now t) ∧
    (c.handOver key entry now t).records = c.records.insert entry.recordId (recorded ++ eventsOf t.log) ∧
    (c.handOver key entry now t).nextRecord = c.nextRecord := by
  rw [handOver_eq hr]
  split_ifs <;> simp [told]

lemma grows_handOver (hr : c.records.lookup entry.recordId = some recorded)
    (ho : EndsOnce (recorded ++ eventsOf t.log)) : Grows c (c.handOver key entry now t) := by
  rw [handOver_eq hr]
  split_ifs
  · exact .of_eq (by simp [told])
  have hg : Grows (c.told key entry now t recorded)
      ((c.told key entry now t recorded).persistNetworkProgress entry.recordId) :=
    grows_persistNetworkProgress (by simpa [told] using ho)
  exact hg.trans (.of_eq (by simp))

lemma silent_handOver (hr : c.records.lookup entry.recordId = some recorded)
    (hs : ∀ d ∈ c.sent, d.phase ≠ .terminated)
    (hm : t.session.phase = .terminated → messagesOf t.log = []) :
    ∀ d ∈ (c.handOver key entry now t).sent, d.phase ≠ .terminated := by
  rw [handOver_eq hr]
  apply silent_flushOutbound _ _ _ _ _ _ hm
  split_ifs <;> simpa [told] using hs

end HandOver

/-- **A call of a session keeps the coordinator sound.** -/
theorem Sound.withSession (h : Sound c) (he : c.sessions.lookup key = some entry)
    (hq : entry.requests = [])
    (hl : entry.session.phase = .terminated → ∀ sig, i ≠ .spasmSignature sig) (now : ℕ) :
    Served key c (c.withSession key now i).1 ∧
      ∃ entry', (c.withSession key now i).1.sessions.lookup key = some entry' ∧
        entry'.requests = requestsOf (entry.session.call entry.codecs i).1.log := by
  obtain ⟨hc, -, recorded, hre, hen⟩ := h.owned key entry he
  have hst := step_call entry.codecs hc i
  have hh := hst.handed hl
  have ho := hh.endsOnce hen (h.endsOnce _ _ hre)
  unfold OtaspCoordinator.withSession
  rw [he]
  dsimp only
  generalize (entry.session.call entry.codecs i).1 = t at hst hh ho
  obtain ⟨hs, hr, hn⟩ := handOver_frame key now t hre
  have hse : (c.handOver key entry now t).sessions.lookup key = some (called entry now t) := by
    rw [hs, AList.lookup_insert]
  have hses : ∀ k, k ≠ key → (c.handOver key entry now t).sessions.lookup k = c.sessions.lookup k := by
    intro k hk
    rw [hs, AList.lookup_insert_ne hk]
  have hreq : (called entry now t).requests = requestsOf t.log := by simp [called, hq]
  have hid : (called entry now t).recordId = entry.recordId := rfl
  refine ⟨⟨?_, grows_handOver hre ho, hses, by grind⟩, _, hse, hreq⟩
  apply h.replace he hid (hst.coherent hc) (hreq ▸ hh.queued)
    (hh.ended_iff hen) ho hse hses ?_ ?_ hn
    (silent_handOver hre h.silent hh.messagesOf)
  · rw [hr, AList.lookup_insert]
  · intro r hne
    rw [hr, AList.lookup_insert_ne hne]

lemma Sound.setEntry (h : Sound c) (he : c.sessions.lookup key = some entry) :
    Served key c (c.setEntry key { entry with requests := [] }) := by
  obtain ⟨hc, -, recorded, hr, hen⟩ := h.owned key entry he
  have hid : ({ entry with requests := [] } : SessionEntry Identity).recordId = entry.recordId := rfl
  refine ⟨?_, .of_eq rfl, fun k hk => AList.lookup_insert_ne hk, ?_⟩
  · exact h.replace he hid hc (.inl rfl) hen (h.endsOnce _ _ hr)
      (AList.lookup_insert _) (fun k hk => AList.lookup_insert_ne hk) hr (fun _ _ => rfl) rfl h.silent
  · exact fun entry' he' => ⟨_, AList.lookup_insert _, by grind⟩

/-! ### Requests -/

lemma requestWeight_pos (r : OtaspAuthRequest) : 0 < requestWeight r := by cases r <;> simp [requestWeight]

lemma eq_nil_of_requestsWeight (h : requestsWeight reqs ≤ 0) :
    reqs = [] := by
  cases reqs with
  | nil => rfl
  | cons => grind [requestWeight_pos, requestsWeight]

lemma requestsOf_callLast
    (h : answerRequest hlr entry r = .callLast i) (codecs : BlockCodecs) (s : OtaspSession) :
    requestsOf (s.call codecs i).1.log = [] := by
  unfold answerRequest at h
  grind [requestsOf_keyExchangeSkipped]

def DrainedAt (key : SessionKey) (c : OtaspCoordinator Identity) : Prop :=
  ∀ entry, c.sessions.lookup key = some entry → entry.requests = []

lemma DrainedAt.of_lookup (he : c.sessions.lookup key = some entry) (hq : entry.requests = []) :
    DrainedAt key c := by grind [DrainedAt]

/-- **All requests of a session are answered**, unless the session comes to its end. -/
theorem Sound.processAuthRequests (hlr : HlrAnswers Identity) (key : SessionKey) (now : ℕ) (fuel : ℕ)
     (h : Sound c)
    (he : c.sessions.lookup key = some entry) (hf : requestsWeight entry.requests ≤ fuel) :
    Served key c (processAuthRequests hlr key now fuel c).1 ∧ ((processAuthRequests hlr key now fuel c).2 = none →
        DrainedAt key (processAuthRequests hlr key now fuel c).1) := by
  induction fuel generalizing c entry with
  | zero => exact ⟨.refl h, fun _ => .of_lookup he (eq_nil_of_requestsWeight hf)⟩
  | succ fuel ih =>
    unfold processAuthRequests
    rw [he]
    dsimp only
    obtain hnil | ⟨req, hre, hsi⟩ := (h.owned key entry he).queued
    · rw [hnil]
      exact ⟨.refl h, fun _ => .of_lookup he hnil⟩
    have hw : requestWeight req ≤ fuel + 1 := by simpa [hre, requestsWeight] using hf
    rw [hre]
    dsimp only
    have ht := h.setEntry he
    have he' : (c.setEntry key { entry with requests := [] }).sessions.lookup key =
        some { entry with requests := [] } := AList.lookup_insert _
    generalize c.setEntry key { entry with requests := [] } = c' at ht he'
    -- the session is called with the answer
    have hc : ∀ i, (answerRequest hlr entry req).input = some i → Served key c' (c'.withSession key now i).1 ∧
          ∃ entry'', (c'.withSession key now i).1.sessions.lookup key = some entry'' ∧
            entry''.requests = requestsOf (entry.session.call entry.codecs i).1.log := by
      intro i hi
      apply ht.sound.withSession he' rfl
      rintro hte sig rfl
      obtain ⟨rand, rfl⟩ := eq_validateSpasm_of_answer hi
      exact hsi rand rfl hte
    cases ha : answerRequest hlr entry req with
    | call i =>
      have hi : (answerRequest hlr entry req).input = some i := by rw [ha]; rfl
      obtain ⟨hs, entry'', he'', hr⟩ := hc i hi
      have hl := weight_answer entry.codecs entry.session hlr entry hi
      dsimp only
      split_ifs with hsome
      · exact ⟨ht.trans hs, by grind⟩
      · obtain ⟨hs', hdr⟩ := ih hs.sound he'' (by rw [hr]; omega)
        exact ⟨(ht.trans hs).trans hs', hdr⟩
    | callLast i =>
      obtain ⟨hs, entry'', he'', hr⟩ := hc i (by rw [ha]; rfl)
      exact ⟨ht.trans hs, fun _ => .of_lookup he'' (hr.trans (requestsOf_callLast ha _ _))⟩
    | update update =>
      have hso : Sound { c' with ssdUpdates := c'.ssdUpdates ++ [update] } := ht.sound.congr rfl rfl rfl rfl
      obtain ⟨hs, hdr⟩ := ih hso he' (Nat.zero_le _)
      have ht' : Served key c { c' with ssdUpdates := c'.ssdUpdates ++ [update] } :=
        ⟨hso, ht.grows, ht.others, ht.kept⟩
      exact ⟨ht'.trans hs, hdr⟩
    | nothing =>
      obtain ⟨hs, hdr⟩ := ih ht.sound he' (Nat.zero_le _)
      exact ⟨ht.trans hs, hdr⟩

lemma Sound.processAll (h : Sound c) (he : c.sessions.lookup key = some entry)
    (hlr : HlrAnswers Identity) (now : ℕ) :
    Served key c (c.processAll hlr key now).1 ∧
      ((c.processAll hlr key now).2 = none → DrainedAt key (c.processAll hlr key now).1) := by
  unfold OtaspCoordinator.processAll
  rw [he]
  exact h.processAuthRequests hlr key now _ he le_rfl

/-! ### Operations -/

structure Released (key : SessionKey) (c c' : OtaspCoordinator Identity) : Prop where
  sound : Sound c'
  others : ∀ k, k ≠ key → c'.sessions.lookup k = c.sessions.lookup k
  gone : c'.sessions.lookup key = none

lemma Served.settled (h : Settled c) (hs : Served key c c') (hdr : DrainedAt key c') :
    Settled c' := by
  have := h.drained
  have := hs.others
  exact ⟨hs.sound, by grind +splitImp [DrainedAt]⟩

lemma Released.drained (h : Released key c c')
    (hdr : ∀ k e, k ≠ key → c.sessions.lookup k = some e → e.requests = []) : Settled c' :=
  ⟨h.sound, by grind +splitImp [cases Released]⟩

lemma Sound.finalizeSession (h : Sound c) (he : c.sessions.lookup key = some entry) :
    Released key c (c.finalizeSession key entry.recordId) ∧ Grows c (c.finalizeSession key entry.recordId) := by
  obtain ⟨-, -, recorded, hre, -⟩ := h.owned key entry he
  unfold OtaspCoordinator.finalizeSession
  rw [takeFinished_eq (c := { c with sessions := c.sessions.erase key }) hre]
  refine ⟨⟨?_, fun k hk => AList.lookup_erase_ne hk, AList.lookup_erase _ _⟩, ?_⟩
  · exact h.drop he (AList.lookup_erase _ _) (fun k hk => AList.lookup_erase_ne hk)
      (AList.lookup_erase _ _) (fun r hr => AList.lookup_erase_ne hr) rfl rfl
  · exact .snoc rfl (h.endsOnce _ _ hre)

section

variable (h : Settled c)
include h

lemma Settled.served (he : c.sessions.lookup key = some entry)
    (hi : ∀ sig, i ≠ .spasmSignature sig) (hlr : HlrAnswers Identity) (now : ℕ) :
    Served key c ((c.withSession key now i).1.processAll hlr key now).1 ∧
      (((c.withSession key now i).1.processAll hlr key now).2 = none →
        DrainedAt key ((c.withSession key now i).1.processAll hlr key now).1) := by
  obtain ⟨hs, entry', he', -⟩ := h.toSound.withSession he (h.drained key entry he) (fun _ => hi) now
  obtain ⟨hs', hdr⟩ := hs.sound.processAll he' hlr now
  exact ⟨hs.trans hs', hdr⟩

lemma Settled.finalized (hen : c.sessions.lookup key = some entry)
    (hs : Served key c c') :
    Settled (c'.finalizeSession key entry.recordId) ∧ Grows c (c'.finalizeSession key entry.recordId) := by
  obtain ⟨entry', hen', hid⟩ := hs.kept entry hen
  obtain ⟨hr, hg⟩ := hs.sound.finalizeSession hen'
  rw [hid] at hr hg
  exact ⟨hr.drained fun k e hk he => h.drained k e (hs.others k hk ▸ he), hs.grows.trans hg⟩

lemma Settled.handleAddsTransfer (msg : AddsTransfer) (hlr : HlrAnswers Identity)
    (now : ℕ) :
    Settled (c.handleAddsTransfer msg hlr now).1 ∧ Grows c (c.handleAddsTransfer msg hlr now).1 := by
  have hs : Settled c ∧ Grows c c := ⟨h, .of_eq rfl⟩
  unfold OtaspCoordinator.handleAddsTransfer
  split_ifs
  · exact hs
  cases msg.sessionKey with
  | none => exact hs
  | some key =>
    cases he : c.sessions.lookup key with
    | none => simpa [he] using hs
    | some =>
      obtain ⟨hse, hdr⟩ := h.served he (i := .inbound msg.data) (by simp) hlr now
      dsimp only
      rw [he]
      dsimp only
      split_ifs with hso
      · exact h.finalized he hse
      · exact ⟨hse.settled h (hdr (by simp_all)), hse.grows⟩

lemma Settled.handleAddsDeliverAck (tag : Option UInt32) (cause : Option UInt8)
    (hlr : HlrAnswers Identity) (now : ℕ) :
    Settled (c.handleAddsDeliverAck tag cause hlr now) ∧ Grows c (c.handleAddsDeliverAck tag cause hlr now) := by
  unfold OtaspCoordinator.handleAddsDeliverAck
  cases tag with
  | none => exact ⟨h, .of_eq rfl⟩
  | some tag =>
    dsimp only
    cases c.pendingAcks.lookup tag with
    | none => exact ⟨h, .of_eq rfl⟩
    | some key =>
      have ha : Settled { c with pendingAcks := c.pendingAcks.erase tag } :=
        ⟨h.toSound.congr rfl rfl rfl rfl, h.drained⟩
      cases cause with
      | none => exact ⟨ha, .of_eq rfl⟩
      | some cause =>
        dsimp only
        cases he : c.sessions.lookup key with
        | none => exact ⟨ha, .of_eq rfl⟩
        | some =>
          obtain ⟨hs, hdr⟩ := ha.served he (i := .dbmFailed cause) (by simp) hlr now
          split_ifs with hso
          · exact ha.finalized he hs
          · exact ⟨hs.settled ha (hdr (by simpa using hso)), hs.grows⟩

lemma Settled.onSsdUpdateFinished (callId : ℕ) (ok : Bool) (rand : UInt32)
    (hlr : HlrAnswers Identity) (now : ℕ) :
    Settled (c.onSsdUpdateFinished callId ok rand hlr now).1 ∧
      Grows c (c.onSsdUpdateFinished callId ok rand hlr now).1 := by
  unfold OtaspCoordinator.onSsdUpdateFinished
  cases hf : c.sessions.entries.find? fun e => e.2.callId == callId with
  | none => exact ⟨h, .of_eq rfl⟩
  | some found =>
    have he : c.sessions.lookup found.1 = some found.2 := AList.mem_lookup_iff.mpr (List.mem_of_find?_eq_some hf)
    obtain ⟨hs, hdr⟩ := h.served he (i := .ssdUpdateFinished ok rand) (by simp) hlr now
    obtain ⟨entry', he', hid⟩ := hs.kept found.2 he
    dsimp only
    split_ifs with hso
    · simpa only [he', hid] using h.finalized he hs
    · exact ⟨hs.settled h (hdr (by simp_all)), hs.grows⟩

lemma Settled.opened {t : Turn} (hl : t.session.phase ≠ .terminated)
    (hen : ¬ Ended (eventsOf t.log)) (hc : Coherent t.session)
    (hs : entry.session = t.session) (hid : entry.recordId = c.nextRecord)
    (hq : entry.requests = []) {messages : List OtaspMessage} :
    let c' := (({ c with
      nextRecord := c.nextRecord + 1
      records := c.records.insert c.nextRecord (eventsOf t.log) }.flushOutbound key c.nextRecord
        t.session.phase messages).setEntry key entry).persistNetworkProgress c.nextRecord
    Settled c' ∧ Grows c c' := by
  intro c'
  have ho : EndsOnce (eventsOf t.log) := endsOnce_of_not_ended hen
  have hent : c'.sessions.lookup key = some entry := by simp [c', setEntry]
  have hse : ∀ k, k ≠ key → c'.sessions.lookup k = c.sessions.lookup k := by
    intro k hk
    simp [c', setEntry, AList.lookup_insert_ne hk]
  have hre : c'.records = c.records.insert c.nextRecord (eventsOf t.log) := by simp [c', setEntry]
  have hso : Sound c' := by
    apply h.toSound.put (hs ▸ hc) (.inl hq) ?_ ho ?_ hent hse ?_ ?_ ?_ ?_ ?_
    · simp [hs, hl, hen]
    · exact fun k e hk he hsa => absurd (hsa.trans hid) (h.toSound.recordId_lt he).ne
    · rw [hre, hid, AList.lookup_insert]
    · intro r hr
      rw [hre, AList.lookup_insert_ne (hid ▸ hr)]
    · simp [c', setEntry]
    · simp [c', setEntry, hid]
    · simp only [c', persistNetworkProgress_frame]
      exact silent_flushOutbound _ _ _ _ _ h.silent (fun hp => absurd hp hl)
  refine ⟨⟨hso, ?_⟩, (Grows.of_eq ?_).trans (grows_persistNetworkProgress ?_)⟩
  · have := h.drained
    grind +splitImp
  · simp [setEntry]
  · simpa [setEntry] using ho

lemma Settled.beginSession (req : BeginRequest Identity)
    (lookup : SessionLookup Identity) (now : ℕ) :
    Settled (c.beginSessionWithInitiation req lookup now).1 ∧
      Grows c (c.beginSessionWithInitiation req lookup now).1 := by
  unfold beginSessionWithInitiation
  cases lookupSubscriber req lookup with
  | none => exact ⟨h, .of_eq rfl⟩
  | some subscriber =>
    cases deviceKey req.device with
    | none => exact ⟨h, .of_eq rfl⟩
    | some =>
      dsimp only
      obtain ⟨started, es, msg, hs, hes, -, hlog, he, hkey⟩ :=
        start_spec c.cfg req.device req.featureCode req.serviceOption
          (subscriber.map (·.input)) req.initiation
      rw [hs]
      have hl : started.session.phase ≠ .terminated := Phase.early_ne he rfl
      have hen : ¬ Ended (eventsOf started.log) := by
        rw [hlog, eventsOf_append]
        exact not_ended_append hes.not_ended not_ended_nil
      have hr : requestsOf started.log = [] := by
        rw [hlog, requestsOf_append, hes.requestsOf]
        rfl
      exact h.opened hl hen (fun _ => hkey) rfl rfl hr

end

/-! ### Ticks -/

lemma endsOnce_timeout (phase : String) :
    EndsOnce (recorded ++ [.timeout phase, .sessionEnded 0 .timedOut]) ↔ ¬ Ended recorded := by
  refine ⟨fun ho he => not_endsOnce_append he (by simp) ho, fun he => ?_⟩
  have hb : ¬ Ended (recorded ++ [.timeout phase]) := not_ended_append he (by simp [Ended, OtaspEvent.isEnd])
  simpa using endsOnce_append_singleton hb (.sessionEnded 0 .timedOut)

lemma Settled.expire (h : Settled c) (hen : c.sessions.lookup key = some entry) :
    Settled (c.expire key) ∧ (∀ k, k ≠ key → (c.expire key).sessions.lookup k = c.sessions.lookup k) ∧
      ∃ x, (c.expire key).saved = c.saved ++ [x] ∧ (EndsOnce x.2 ↔ entry.session.phase ≠ .terminated) := by
  obtain ⟨-, -, recorded, hre, hend⟩ := h.owned key entry hen
  have ho : ∀ k, k ≠ key → (c.sessions.erase key).lookup k = c.sessions.lookup k :=
    fun k hk => AList.lookup_erase_ne hk
  unfold OtaspCoordinator.expire
  rw [hen]
  dsimp only
  rw [append_eq (c := { c with sessions := c.sessions.erase key }) hre, takeFinished_eq (AList.lookup_insert _)]
  refine ⟨(?_ : Released key c _).drained fun k e _ he => h.drained k e he, ho, _, rfl, ?_⟩
  · refine ⟨?_, ho, AList.lookup_erase _ _⟩
    refine h.toSound.drop hen (AList.lookup_erase _ _) ho (AList.lookup_erase _ _) ?_ rfl rfl
    intro r hr
    rw [AList.lookup_erase_ne hr, AList.lookup_insert_ne hr]
  · rw [endsOnce_timeout, hend]

/-- **A tick** stores one record for every session it releases, well ended if the session had not
ended before. -/
theorem Settled.expireAll {keys : List SessionKey} (h : Settled c) (hn : keys.Nodup)
    (hke : ∀ k ∈ keys, ∃ entry, c.sessions.lookup k = some entry) :
    Settled (keys.foldl OtaspCoordinator.expire c) ∧
      ∃ more, (keys.foldl OtaspCoordinator.expire c).saved = c.saved ++ more ∧
        ((∀ x ∈ more, EndsOnce x.2) ↔ ∀ k ∈ keys, ∀ entry, c.sessions.lookup k = some entry →
          entry.session.phase ≠ .terminated) := by
  induction keys generalizing c with
  | nil => exact ⟨h, [], by simp⟩
  | cons key keys ih =>
    obtain ⟨hkey, hn⟩ := nodup_cons.mp hn
    obtain ⟨entry, he⟩ := hke key mem_cons_self
    obtain ⟨hs, ho, x, hsa, hx⟩ := h.expire he
    -- the sessions of the other keys are still there
    have hsame : ∀ k ∈ keys, (c.expire key).sessions.lookup k = c.sessions.lookup k :=
      fun k hk => ho k fun heq => hkey (heq ▸ hk)
    obtain ⟨hs', more, hsa', hm⟩ := ih hs hn (by grind)
    exact ⟨hs', x :: more, by simp [hsa', hsa], by grind⟩

lemma mem_staleKeys :
    key ∈ c.staleKeys now threshold ↔
      ∃ entry, c.sessions.lookup key = some entry ∧ stale now threshold entry = true := by
  simp only [staleKeys, mem_map, mem_filter]
  constructor
  · rintro ⟨e, ⟨he, hs⟩, rfl⟩
    exact ⟨e.2, AList.mem_lookup_iff.mpr he, hs⟩
  · rintro ⟨entry, hen, hs⟩
    exact ⟨⟨key, entry⟩, ⟨AList.mem_lookup_iff.mp hen, hs⟩, rfl⟩

lemma nodup_staleKeys (now threshold : ℕ) : (c.staleKeys now threshold).Nodup := by
  have hk : c.sessions.entries.keys.Nodup := c.sessions.nodupKeys
  exact hk.sublist (List.Sublist.map _ filter_sublist)

end OtaspCoordinator

/-! ### Runs of the coordinator -/

section Runs

variable {Identity : Type}

/-- A tick that releases a session that has ended already. -/
def ExpiresEnded (c : OtaspCoordinator Identity) : CoordinatorOp Identity → Prop
  | .tick now threshold => ∃ e ∈ c.sessions.entries,
      OtaspCoordinator.stale now threshold e.2 = true ∧ e.2.session.phase = .terminated
  | _ => False

instance decidableExpiresEnded (c : OtaspCoordinator Identity) :
    ∀ op : CoordinatorOp Identity, Decidable (ExpiresEnded c op)
  | .tick _ _ => inferInstanceAs (Decidable (∃ e ∈ c.sessions.entries, _ ∧ _))
  | .beginSession .. | .addsTransfer .. | .addsDeliverAck .. | .ssdUpdateFinished .. =>
    inferInstanceAs (Decidable False)

/-- No tick of the run releases a session that has ended already. -/
def Timely : OtaspCoordinator Identity → List (CoordinatorOp Identity) → Prop
  | _, [] => True
  | c, op :: ops => ¬ ExpiresEnded c op ∧ Timely (c.step op) ops

instance decidableTimely : ∀ (c : OtaspCoordinator Identity) (ops : List (CoordinatorOp Identity)),
    Decidable (Timely c ops)
  | _, [] => inferInstanceAs (Decidable True)
  | c, op :: ops =>
    have := decidableTimely (c.step op) ops
    inferInstanceAs (Decidable (¬ ExpiresEnded c op ∧ Timely (c.step op) ops))

namespace OtaspCoordinator

def run (cfg : OtaspConfig) (ops : List (CoordinatorOp Identity)) : OtaspCoordinator Identity :=
  ops.foldl step (new cfg)

/-- A record that is open, or has been given to the HLR. -/
def Recorded (c : OtaspCoordinator Identity) (r : ℕ) (events : List OtaspEvent) : Prop :=
  c.records.lookup r = some events ∨ (r, events) ∈ c.saved

end OtaspCoordinator

/-- **What one operation stores is well ended, unless it is a tick that comes too late.** -/
theorem settled_step {c : OtaspCoordinator Identity} (h : c.Settled) (op : CoordinatorOp Identity) :
    (c.step op).Settled ∧ ∃ more, (c.step op).saved = c.saved ++ more ∧
      ((∀ x ∈ more, EndsOnce x.2) ↔ ¬ ExpiresEnded c op) := by
  have hg : ∀ {c' : OtaspCoordinator Identity}, c.Grows c' → ∃ more, c'.saved = c.saved ++ more ∧
      ((∀ x ∈ more, EndsOnce x.2) ↔ ¬ False) := by
    rintro c' ⟨more, hsa, hm⟩
    exact ⟨more, hsa, by simpa using hm⟩
  cases op with
  | beginSession req lookup now =>
    obtain ⟨hs, hm⟩ := h.beginSession req lookup now
    exact ⟨hs, hg hm⟩
  | addsTransfer msg hlr now =>
    obtain ⟨hs, hm⟩ := h.handleAddsTransfer msg hlr now
    exact ⟨hs, hg hm⟩
  | addsDeliverAck tag cause hlr now =>
    obtain ⟨hs, hm⟩ := h.handleAddsDeliverAck tag cause hlr now
    exact ⟨hs, hg hm⟩
  | ssdUpdateFinished callId ok rand hlr now =>
    obtain ⟨hs, hm⟩ := h.onSsdUpdateFinished callId ok rand hlr now
    exact ⟨hs, hg hm⟩
  | tick now threshold =>
    have hke : ∀ k ∈ c.staleKeys now threshold, ∃ entry, c.sessions.lookup k = some entry := by
      intro k hk
      obtain ⟨entry, hen, -⟩ := OtaspCoordinator.mem_staleKeys.mp hk
      exact ⟨entry, hen⟩
    obtain ⟨hs, more, hsa, hm⟩ := h.expireAll (OtaspCoordinator.nodup_staleKeys now threshold) hke
    refine ⟨hs, more, hsa, hm.trans ?_⟩
    constructor
    · rintro hall ⟨e, he, hst, hend⟩
      have hen : c.sessions.lookup e.1 = some e.2 := AList.mem_lookup_iff.mpr he
      grind [OtaspCoordinator.mem_staleKeys]
    intro hn k hk entry hen hend
    obtain ⟨entry', hen', hst⟩ := OtaspCoordinator.mem_staleKeys.mp hk
    rw [hen] at hen'
    obtain rfl := Option.some.inj hen'
    exact hn ⟨⟨k, entry⟩, AList.mem_lookup_iff.mp hen, hst, hend⟩

/-- **What a whole run stores.** -/
theorem settled_run (h : c.Settled) (ops : List (CoordinatorOp Identity)) :
    (ops.foldl step c).Settled ∧ ∃ more, (ops.foldl step c).saved = c.saved ++ more ∧
        ((∀ x ∈ more, EndsOnce x.2) ↔ Timely c ops) := by
  induction ops generalizing c with
  | nil => exact ⟨h, [], by simp, by simp [Timely]⟩
  | cons op ops ih =>
    obtain ⟨hs, more, hsa, hm⟩ := settled_step h op
    obtain ⟨hs', more', hsa', hm'⟩ := ih hs
    refine ⟨hs', more ++ more', by simp [hsa', hsa], ?_⟩
    rw [forall_mem_append, hm, hm', Timely]

lemma EndsOnce.countP_le_one (h : EndsOnce events) :
    events.countP OtaspEvent.isEnd ≤ 1 := by
  obtain rfl | ⟨before, last, rfl⟩ := events.eq_nil_or_concat'
  · simp
  · have hb : ¬ Ended before := fun he => not_endsOnce_append he (by simp) h
    grind [countP_eq_zero, Ended]

/-- What is asked of the records and messages of all sessions. -/
def EndsProperly (c : OtaspCoordinator Identity) : Prop :=
  (∀ r events, c.Recorded r events → events.countP OtaspEvent.isEnd ≤ 1 ∧ EndsOnce events) ∧
    ∀ d ∈ c.sent, d.phase ≠ .terminated

/-- **Sessions end properly exactly in the runs in which no tick releases a session that has ended
already.** In every run, a terminated session stays so and sends nothing. -/
theorem sessions_end_properly_iff (cfg : OtaspConfig) (ops : List (CoordinatorOp Identity)) :
    (EndsProperly (OtaspCoordinator.run cfg ops) ↔ Timely (.new cfg) ops) ∧
      ∀ (codecs : BlockCodecs) (s : OtaspSession) (i : SessionInput), s.phase = .terminated →
        (s.call codecs i).1.session.phase = .terminated ∧ messagesOf (s.call codecs i).1.log = [] := by
  obtain ⟨hse, more, hsa, hm⟩ := settled_run (settled_new cfg) ops
  have hst : (run cfg ops).saved = more := hsa
  refine ⟨⟨?_, ?_⟩, ?_⟩
  · rintro ⟨he, -⟩
    apply hm.mp
    intro x hx
    exact (he x.1 x.2 (.inr (hst ▸ hx))).2
  · intro ht
    have ho : ∀ r events, (run cfg ops).Recorded r events → EndsOnce events := by
      rintro r events (hop | hst')
      · exact hse.endsOnce r events hop
      · exact hm.mpr ht (r, events) (hst ▸ hst')
    exact ⟨fun r events hr => ⟨(ho r events hr).countP_le_one, ho r events hr⟩, hse.silent⟩
  · intro codecs s i hs
    have hc : Coherent s := fun hea => absurd hs (Phase.early_ne hea rfl)
    exact (step_call codecs hc i).stays_terminated hs

end Runs

def noSubscribers : HlrAnswers Unit where
  otapaSignature _ _ _ _ := none
  credentialsProvisioned _ := false
  beginKeyExchange _ _ := none
  completeKeyExchange _ _ := false
  verifyReauthentication _ _ _ _ := false

def beginAtZero : CoordinatorOp Unit :=
  .beginSession ⟨.user, ⟨some 1, none⟩, "*228", 19, none, none, 7, none⟩
    ⟨none, none, none, fun _ _ _ => none, noBlocks⟩ 0

/-- An answer that cannot be read ends the session, which is then released at once. -/
def endedByAnswer : List (CoordinatorOp Unit) :=
  [beginAtZero, .addsTransfer ⟨BURST_TYPE_OTASP, none, some 1, []⟩ noSubscribers 100, .tick 9000 5000]

/-- The delivery of the first message fails, and nothing more is heard. -/
def endedByFailure : List (CoordinatorOp Unit) :=
  [beginAtZero, .addsDeliverAck (some OTASP_TAG_NAMESPACE_BIT) (some 1) noSubscribers 100,
    .tick 9000 5000]

theorem sessions_end_properly_answered :
    (OtaspCoordinator.run keyOnly endedByAnswer).saved.map (·.2.countP OtaspEvent.isEnd) = [1] ∧
    EndsProperly (OtaspCoordinator.run keyOnly endedByAnswer) := by
  refine ⟨by decide +kernel, ?_⟩
  apply (sessions_end_properly_iff keyOnly endedByAnswer).1.mpr
  decide +kernel

/-- **A record with two ends**: the failed delivery ends the session, but the session stays with the
coordinator, and the tick ends it again. -/
theorem session_ends_twice :
    (OtaspCoordinator.run keyOnly endedByFailure).saved.map (·.2.countP OtaspEvent.isEnd) = [2] ∧
    ¬ EndsProperly (OtaspCoordinator.run keyOnly endedByFailure) := by
  have hc : (run keyOnly endedByFailure).saved.map
      (·.2.countP OtaspEvent.isEnd) = [2] := by decide +kernel
  refine ⟨hc, fun h => ?_⟩
  have htwo : 2 ∈ (run keyOnly endedByFailure).saved.map
      (·.2.countP OtaspEvent.isEnd) := by
    rw [hc]
    simp
  obtain ⟨x, hx, hc'⟩ := mem_map.mp htwo
  have hle := (h.1 x.1 x.2 (.inr hx)).1
  omega

end OneXBts.Msc
