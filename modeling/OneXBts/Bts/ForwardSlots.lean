import OneXBts.Bts.ForwardScheduler

/-!
The slot discipline of the forward scheduler.

Between two calls of `next_slot` how far an active packet has come determines all of its timing (`Flying`). So a call sends
nothing and only loses packets, sends the next slot of a packet, or starts one (`nextSlot_cases`).
-/

namespace OneXBts.Bts.Hrpd

open Lib Common Common.HrpdTraffic HrpdForwardScheduler List Option

/-! ### What a run has sent -/

/-- A log of events with what the calls of `next_slot` reported. -/
abbrev SchedulerLog := List (SchedulerEvent × Option SlotReport)

def SchedulerEvent.slot? : SchedulerEvent → Option ℕ
  | .nextSlot slotIndex _ => some slotIndex
  | _ => none

def slots (log : SchedulerLog) : List ℕ := log.filterMap fun entry => entry.1.slot?

structure Transmission where
  macIndex : UInt8
  event : HarqEmissionEvent
  dataChips : Option SlotChips
  deriving DecidableEq, Repr

def HrpdForwardScheduler.SlotReport.transmission (report : SlotReport) : Option Transmission :=
  report.emission.map fun e => ⟨e.1, e.2, report.output.dataChips⟩

def sent (log : SchedulerLog) : List Transmission := log.filterMap fun entry => entry.2.bind SlotReport.transmission

def starts (log : SchedulerLog) : List (ℕ × Start) :=
  log.filterMap fun entry =>
    entry.1.slot?.bind fun slot => (entry.2.bind fun report => report.promoted).map fun start => (slot, start)

/-- Slot `k` of a packet that starts at a slot: four slots after the one before, and marked if it is the last one. -/
def trainSlot (start : ℕ) (s : HarqState) (k : ℕ) : Transmission where
  macIndex := s.packet.macIndex
  event := {
    packetId := s.packetId
    subpacket := 0
    packetStartSlot := start
    forwardSlot := start + 4 * k
    expectedAckReverseSlot := start + 4 * k + 3
    terminal := k + 1 = s.rate.slots }
  dataChips := some ⟨s.packet, s.rate, k⟩

def train (start : ℕ) (s : HarqState) (n : ℕ) : List Transmission := (List.range n).map (trainSlot start s)

/-- **What holds of a call.** A packet that is promoted is sent, at the rate of the DRC value for the slot, and on the
phase of the control channel only if it has one slot. -/
structure CallDiscipline (s : HrpdForwardScheduler) (slot : ℕ) (report : SlotReport) : Prop where
  at_slot : ∀ tx, report.transmission = some tx → tx.event.forwardSlot = slot
  transmitted : ∀ start, report.promoted = some start → report.transmission.toList = train slot start.state 1
  governed : ∀ start, report.promoted = some start → ∃ drc,
    s.governingDrcForMac slot start.state.packet.macIndex = some drc ∧
    implementedForwardRateByDrc drc start.state.packet.forwardTrafficMacSubtype = some start.state.rate
  phase : ∀ start, report.promoted = some start → 1 < start.state.rate.slots → slot % 4 ≠ 0

/-- **What holds of a run.** No two transmissions are in one slot; those of a promoted packet are its first slots, at most
as many as its rate has; there are no others; and at most 64 packets of a MAC index are active. -/
structure RunDiscipline (s : HrpdForwardScheduler) (log : SchedulerLog) : Prop where
  one_packet : (sent log).Pairwise fun a b => a.event.forwardSlot < b.event.forwardSlot
  trains : ∀ t start, (t, start) ∈ starts log → ∃ n, 1 ≤ n ∧ n ≤ start.state.rate.slots ∧
    ((sent log).filter fun tx => tx.event.packetStartSlot = t) = train t start.state n
  promoted : ∀ tx ∈ sent log, ∃ start, (tx.event.packetStartSlot, start) ∈ starts log
  bounded : ∀ mac, (s.active.filter fun st => st.packet.macIndex = mac).length ≤ 64

/-! ### Losing packets -/

structure Retires (s s' : HrpdForwardScheduler) : Prop where
  active : s'.active.Sublist s.active
  queue : s'.queue = s.queue
  governing : s'.governingDrcForMac = s.governingDrcForMac

namespace Retires

variable {s s' s'' : HrpdForwardScheduler}

lemma refl (s : HrpdForwardScheduler) : Retires s s := ⟨.refl _, rfl, rfl⟩

lemma trans (h : Retires s s') (h' : Retires s' s'') : Retires s s'' :=
  ⟨h'.active.trans h.active, h'.queue.trans h.queue, h'.governing.trans h.governing⟩

lemma foldl {α : Type} {f : HrpdForwardScheduler → α → HrpdForwardScheduler} (hf : ∀ s a, Retires s (f s a))
    (l : List α) (s : HrpdForwardScheduler) : Retires s (l.foldl f s) := by
  induction l generalizing s with
  | nil => exact refl s
  | cons a l ih => exact (hf s a).trans (ih (f s a))

lemma handleAck (s : HrpdForwardScheduler) (macIndex : UInt8) (packetId subpacket : ℕ) (response : HarqResponse) :
    Retires s (s.handleAck macIndex packetId subpacket response) := by
  cases response with
  | unknown => exact refl s
  | ack | nak => exact ⟨eraseP_sublist, rfl, rfl⟩

lemma governingDrc_drainFeedback (bus : HarqBus) (mac : UInt8) :
    (bus.drainFeedback mac).1.governingDrc = bus.governingDrc := by
  unfold HarqBus.drainFeedback
  split_ifs <;> rfl

lemma applyFeedback (s : HrpdForwardScheduler) (mac : UInt8) : Retires s (s.applyFeedback mac) := by
  unfold HrpdForwardScheduler.applyFeedback
  cases hbus : s.harqBus with
  | none => exact refl s
  | some bus =>
    have hdr : Retires s { s with harqBus := some (bus.drainFeedback mac).1 } := by
      refine ⟨.refl _, rfl, ?_⟩
      funext slot m
      simp [governingDrcForMac, hbus, governingDrc_drainFeedback]
    exact hdr.trans (foldl (fun s (event : HarqFeedbackEvent) => handleAck s mac event.packetId event.subpacket event.response) _ _)

lemma retireExpiredFeedbackWaits (s : HrpdForwardScheduler) (slot : ℕ) :
    Retires s (s.retireExpiredFeedbackWaits slot) := ⟨filter_sublist, rfl, rfl⟩

lemma settled (s : HrpdForwardScheduler) (slot : ℕ) : Retires s (s.settled slot) := by
  have hdr : Retires s s.drainFeedback := by grind [drainFeedback, foldl, applyFeedback]
  exact hdr.trans (retireExpiredFeedbackWaits _ slot)

end Retires

/-! ### Starting a packet -/

structure Fresh (s : HarqState) : Prop where
  awaiting : s.awaitingAck = false
  eligible : s.nextEligibleSlot = 0
  last : s.lastTxSlot = none
  first : s.firstTxSlot = none
  sent : s.slotInSubpacket = 0
  whole : s.currentSubpacket = 0 ∧ s.subpacketCount = 1

lemma buildHarqState_fresh (h : buildHarqState pkt rate packetId = some s) : Fresh s := by
  grind [buildHarqState, intro Fresh]

structure Startable (slot : ℕ) (governing : UInt8 → Option UInt8) (active : List HarqState) (start : Start) : Prop where
  fresh : Fresh start.state
  room : (active.filter fun st => st.packet.macIndex = start.state.packet.macIndex).length < 64
  governed : ∃ drc, governing start.state.packet.macIndex = some drc ∧
    implementedForwardRateByDrc drc start.state.packet.forwardTrafficMacSubtype = some start.state.rate
  phase : 1 < start.state.rate.slots → slot % 4 ≠ 0

lemma Startable.of_binding {active : List HarqState} {start : Start}
    (h : Binding slot gov active start) : Startable slot gov active start := by
  obtain ⟨hr, atDrc, atRate, rebound, _, hdrc, hra, hph, hre, -, hs⟩ := h
  obtain ⟨hmac, hsu⟩ := rebind_packet hre
  obtain ⟨hp, rfl⟩ := buildHarqState_some hs
  rw [← hmac, ← hp] at hr hdrc
  rw [← hsu, ← hp] at hra
  exact ⟨buildHarqState_fresh hs, hr, ⟨atDrc, hdrc, hra⟩, fun hsl hslot => hph ⟨hslot, hsl⟩⟩

lemma one_le_slots (h : implementedForwardRateByDrc drc subtype = some rate) : 1 ≤ rate.slots := by
  have hr : ∀ rate ∈ forwardRates, 1 ≤ rate.slots := by decide
  unfold implementedForwardRateByDrc at h
  grind [byDrc]

/-! ### Packets in flight -/

def HarqState.start (s : HarqState) : ℕ := s.firstTxSlot.getD 0

/-- **A packet in flight**: some of its slots have been sent, the last one when it should, and what follows is determined. -/
structure Flying (s : HarqState) : Prop where
  first : s.firstTxSlot = some s.start
  last : s.lastTxSlot = some (s.start + 4 * (s.slotInSubpacket - 1))
  sent : 1 ≤ s.slotInSubpacket
  within : s.slotInSubpacket ≤ s.rate.slots
  awaiting : s.awaitingAck = decide (s.slotInSubpacket = s.rate.slots)
  eligible : s.awaitingAck = false → s.nextEligibleSlot = s.start + 4 * s.slotInSubpacket
  whole : s.currentSubpacket = 0 ∧ s.subpacketCount = 1
  phase : 1 < s.rate.slots → s.start % 4 ≠ 0

section Flight

variable {s : HarqState} {slot : ℕ}

lemma Flying.lt_slots (h : Flying s) (hw : s.awaitingAck = false) : s.slotInSubpacket < s.rate.slots := by
  grind [cases Flying]

lemma due_iff (h : Flying s) : due slot s = true ↔ s.awaitingAck = false ∧ s.nextEligibleSlot ≤ slot := by
  simp [due, h.last]

lemma Flying.missed_iff (h : Flying s) :
    missedContinuation slot s = true ↔ s.awaitingAck = false ∧ s.nextEligibleSlot < slot := by
  have hs : s.slotInSubpacket > 0 := h.sent
  simp [missedContinuation, hs]

lemma lt_eligible_advance (hw : (advance slot s).awaitingAck = false) :
    slot < (advance slot s).nextEligibleSlot := by grind [advance, interlace]

lemma Flying.start_advance (h : Flying s) : (advance slot s).start = s.start := by
  change s.firstTxSlot.getD slot = s.start
  rw [h.first, getD_some]

lemma not_startable (h : Flying s) : startable slot s = false := by simp [startable, h.last]

lemma Flying.advance (h : Flying s) (hw : s.awaitingAck = false) (hs : s.nextEligibleSlot = slot) :
    Flying (advance slot s) := by
  have hlt := h.lt_slots hw
  have hst : (HrpdForwardScheduler.advance slot s).start = s.start := h.start_advance
  obtain ⟨hf, hl, hse, hwi, ha, he, hwh, hp⟩ := h
  constructor
  all_goals grind [HrpdForwardScheduler.advance, terminalSlot, interlace]

lemma Fresh.not_due (h : Fresh s) : due slot s = false := by simp [due, h.last]

lemma Fresh.startable (h : Fresh s) (hs : 1 ≤ s.rate.slots) (hp : 1 < s.rate.slots → slot % 4 ≠ 0) :
    startable slot s = true := by
  have hone : slot % 4 ≠ 0 ∨ s.rate.slots = 1 := by omega
  simpa [HrpdForwardScheduler.startable, h.last, h.eligible, interlace] using hone

lemma Fresh.not_missed (h : Fresh s) : missedContinuation slot s = false := by simp [missedContinuation, h.sent]

lemma Fresh.start_advance (h : Fresh s) : (advance slot s).start = slot := by
  simp [HarqState.start, advance, h.first]

lemma Fresh.advance (h : Fresh s) (hs : 1 ≤ s.rate.slots) (hp : 1 < s.rate.slots → slot % 4 ≠ 0) :
    Flying (advance slot s) := by
  have hst : (HrpdForwardScheduler.advance slot s).start = slot := h.start_advance
  constructor
  all_goals grind [HrpdForwardScheduler.advance, terminalSlot, interlace, cases Fresh]

end Flight

/-! ### One call -/

def sentReport (slot : ℕ) (st : HarqState) (promoted : Option Start) : SlotReport :=
  ⟨⟨.traffic st.packet.macIndex, some (slotChips st)⟩, some (st.packet.macIndex, emission slot st), promoted⟩

def silentReport (channel : SlotKind) : SlotReport := ⟨⟨channel, none⟩, none, none⟩

/-- What a call may decide, from the active packets that are left when it does: the packets after it, and its report. -/
inductive Decision (governing : UInt8 → Option UInt8) (slot : ℕ) (active : List HarqState) :
    Bool → List HarqState → SlotReport → Prop
  | control : Decision governing slot active true active (silentReport .control)
  | idle : (∀ st ∈ active, due slot st = false) → Decision governing slot active false active (silentReport .idle)
  | missed {front back : List HarqState} {st : HarqState} : active = front ++ st :: back →
    (∀ a ∈ front, due slot a = false) → due slot st = true → st.nextEligibleSlot < slot →
    Decision governing slot active false (front ++ back) (silentReport .idle)
  | continued {front back : List HarqState} {st : HarqState} : active = front ++ st :: back →
    (∀ a ∈ front, due slot a = false) → due slot st = true → st.nextEligibleSlot = slot →
    Decision governing slot active false (front ++ advance slot st :: back) (sentReport slot st none)
  | started {start : Start} : (∀ st ∈ active, due slot st = false) → Startable slot governing active start →
    Decision governing slot active false (active ++ [advance slot start.state]) (sentReport slot start.state (some start))

lemma findIdx?_split {α : Type} {p : α → Bool} {l : List α} {i : ℕ} (h : l.findIdx? p = some i) :
    ∃ front a back, l = front ++ a :: back ∧ front.length = i ∧ p a = true ∧ ∀ b ∈ front, p b = false := by
  obtain ⟨hlt, hp, hbe⟩ := List.findIdx?_eq_some_iff_getElem.1 h
  refine ⟨l.take i, l[i], l.drop (i + 1), ?_, length_take_of_le hlt.le, hp, ?_⟩
  · rw [getElem_cons_drop, take_append_drop]
  · intro b hb
    obtain ⟨j, hj, rfl⟩ := mem_take_iff_getElem.1 hb
    exact Bool.eq_false_iff.2 (hbe j (by omega))

section Serve

variable {s s' : HrpdForwardScheduler} {slot : ℕ} {front back : List HarqState} {st : HarqState} {promoted : Option Start}
  {report : SlotReport}

lemma serve_cases (ha : s.active = front ++ st :: back) (hw : st.currentSubpacket = 0 ∧ st.subpacketCount = 1)
    (h : s.serve slot front.length st promoted = some (s', report)) :
    (missedContinuation slot st = true ∧ s'.active = front ++ back ∧ report = ⟨⟨.idle, none⟩, none, promoted⟩) ∨
    (missedContinuation slot st = false ∧ s'.active = front ++ advance slot st :: back ∧
      report = sentReport slot st promoted) := by grind [sentReport, HrpdForwardScheduler.serve]

end Serve

section Call

variable {s s' : HrpdForwardScheduler} {slot : ℕ} {control : Bool} {report : SlotReport}

lemma pickActive_due (hdue : s.hasDueContinuation slot = true) : ∃ front st back, s.active = front ++ st :: back ∧
    s.pickActive slot = some front.length ∧ due slot st = true ∧ ∀ a ∈ front, due slot a = false := by
  obtain ⟨i, hi⟩ : ∃ i, s.active.findIdx? (due slot) = some i := by
    rw [← isSome_iff_exists, List.findIdx?_isSome]
    exact hdue
  obtain ⟨front, st, back, hs, rfl, hst, hf⟩ := findIdx?_split hi
  exact ⟨front, st, back, hs, by simp only [pickActive, hi], hst, hf⟩

lemma pickActive_none (hn : ∀ st ∈ s.active, due slot st = false)
    (hold : ∀ st ∈ s.active, startable slot st = false) : s.pickActive slot = none := by
  rw [pickActive, List.findIdx?_eq_none_iff.2 hn, List.findIdx?_eq_none_iff.2 hold]

lemma pickActive_new {active : List HarqState} {st : HarqState} (ha : s.active = active ++ [st])
    (hn : ∀ a ∈ active, due slot a = false) (hold : ∀ a ∈ active, startable slot a = false)
    (hdue : due slot st = false) (hs : startable slot st = true) : s.pickActive slot = some active.length := by
  grind [HrpdForwardScheduler.pickActive]

lemma promoteQueue_cases (h : s.promoteQueue slot = u) :
    (u.1.active = s.active ∧ u.2 = none) ∨
    ∃ start, u.1.active = s.active ++ [start.state] ∧ u.2 = some start ∧
      Startable slot (s.governingDrcForMac slot) s.active start := by
  subst h
  unfold promoteQueue promoteQueueWithDrc
  dsimp only
  cases hs : (scan slot (s.governingDrcForMac slot) s.active [] s.nextPacketId s.queue).start with
  | none => exact .inl ⟨append_nil _, rfl⟩
  | some start => exact .inr ⟨start, rfl, rfl, .of_binding (scan_start hs).1⟩

/-- **Every call decides as described**, if the active packets are in flight. -/
theorem nextSlot_decision (hfl : ∀ st ∈ s.active, Flying st) (h : s.nextSlot slot control = some (s', report)) :
    Decision (s.governingDrcForMac slot) slot (s.settled slot).active control s'.active report := by
  have hr := Retires.settled s slot
  have hse : ∀ st ∈ (s.settled slot).active, Flying st := fun st hst => hfl st (hr.active.subset hst)
  unfold nextSlot at h
  rw [← hr.governing]
  generalize s.settled slot = t at h hse ⊢
  dsimp only at h
  cases control with
  | true =>
    obtain ⟨rfl, rfl⟩ := Prod.mk.inj (some.inj h)
    exact .control
  | false =>
    rw [if_neg (by decide)] at h
    by_cases hdue : t.hasDueContinuation slot = true
    · -- the first packet that is due is served
      rw [if_neg (by simp [hdue])] at h
      obtain ⟨front, st, back, hsp, hp, hst, hf⟩ := pickActive_due hdue
      have hget : t.active[front.length]? = some st := by rw [hsp]; simp
      simp only [hp, hget] at h
      have hfly := hse st (by rw [hsp]; simp)
      obtain ⟨hw, hle⟩ := (due_iff hfly).1 hst
      rcases serve_cases hsp hfly.whole h with ⟨hm, ha, rfl⟩ | ⟨hm, ha, rfl⟩
      · rw [ha]
        exact .missed hsp hf hst (hfly.missed_iff.1 hm).2
      rw [ha]
      refine .continued hsp hf hst (le_antisymm hle (Nat.le_of_not_lt fun hlt => ?_))
      rw [hfly.missed_iff.2 ⟨hw, hlt⟩] at hm
      cases hm
    · rw [if_pos (by simpa using hdue)] at h
      have hn : ∀ st ∈ t.active, due slot st = false := by simpa [hasDueContinuation] using hdue
      have hold : ∀ st ∈ t.active, startable slot st = false := fun st hst => not_startable (hse st hst)
      obtain ⟨u, hu⟩ : ∃ u, t.promoteQueue slot = u := ⟨_, rfl⟩
      rw [hu] at h
      rcases promoteQueue_cases hu with ⟨ha, hpr⟩ | ⟨start, ha, hpr, hs⟩
      · -- nothing can be started
        rw [pickActive_none (ha ▸ hn) (ha ▸ hold)] at h
        obtain ⟨rfl, rfl⟩ := Prod.mk.inj (some.inj h)
        rw [ha, hpr]
        exact .idle hn
      · -- the packet that was promoted is the only one to serve
        obtain ⟨drc, -, hra⟩ := hs.governed
        have hp : u.1.pickActive slot = some t.active.length :=
          pickActive_new ha hn hold hs.fresh.not_due
            (hs.fresh.startable (one_le_slots hra) hs.phase)
        have hget : u.1.active[t.active.length]? = some start.state := by rw [ha]; simp
        simp only [hp, hget, hpr] at h
        rcases serve_cases ha hs.fresh.whole h with ⟨hm, -, -⟩ | ⟨-, ha', rfl⟩
        · rw [hs.fresh.not_missed] at hm
          cases hm
        · rw [ha']
          exact .started hn hs

end Call

/-! ### Trains -/

section Train

variable {t n m slot : ℕ} {a b st : HarqState}

lemma train_succ (t : ℕ) (st : HarqState) (n : ℕ) : train t st (n + 1) = train t st n ++ [trainSlot t st n] := by
  simp [train, range_succ]

lemma train_inj (hn : 1 ≤ n) (h : train t a n = train t b m) :
    n = m ∧ a.packetId = b.packetId ∧ a.packet = b.packet ∧ a.rate = b.rate := by
  have hlen : n = m := by simpa [train] using congrArg List.length h
  obtain ⟨n, rfl⟩ : ∃ k, n = k + 1 := ⟨n - 1, by omega⟩
  grind [train_succ, append_inj_right', trainSlot]

lemma train_congr (hid : a.packetId = b.packetId) (hp : a.packet = b.packet) (hr : a.rate = b.rate) :
    train t a n = train t b n := by
  unfold train trainSlot
  rw [hid, hp, hr]

lemma transmission_flying (h : Flying st) (hw : st.awaitingAck = false) (hs : st.nextEligibleSlot = slot)
    (promoted : Option Start) :
    (sentReport slot st promoted).transmission = some (trainSlot st.start st st.slotInSubpacket) := by
  have hlt := h.lt_slots hw
  have he := h.eligible hw
  have ht : terminalSlot st = decide (st.slotInSubpacket + 1 = st.rate.slots) := by
    unfold terminalSlot
    congr 1
    apply propext
    omega
  simp [SlotReport.transmission, sentReport, trainSlot, emission, slotChips, h.first, h.whole.1, ht,
    ackForwardToReverseSlotOffset, ← hs, he]

lemma transmission_fresh (h : Fresh st) (hs : 1 ≤ st.rate.slots) (promoted : Option Start) :
    (sentReport slot st promoted).transmission = some (trainSlot slot st 0) := by
  have ht : terminalSlot st = decide (0 + 1 = st.rate.slots) := by
    unfold terminalSlot
    rw [h.sent]
    congr 1
    apply propext
    omega
  simp [SlotReport.transmission, sentReport, trainSlot, emission, slotChips, h.first, h.sent, h.whole.1, ht,
    ackForwardToReverseSlotOffset]

end Train

/-! ### Every run -/

section Logs

variable (log : SchedulerLog) (event : SchedulerEvent) (report : Option SlotReport)

lemma slots_append (log' : SchedulerLog) : slots (log ++ log') = slots log ++ slots log' := filterMap_append

lemma slots_snoc : slots (log ++ [(event, report)]) = slots log ++ event.slot?.toList := by
  cases hs : event.slot? <;> simp [slots, filterMap_append, hs]

lemma sent_snoc : sent (log ++ [(event, report)]) = sent log ++ (report.bind SlotReport.transmission).toList := by
  grind [sent]

lemma starts_snoc {report : SlotReport} (slot : ℕ) (control : Bool) :
    starts (log ++ [(.nextSlot slot control, some report)]) =
      starts log ++ (report.promoted.map fun start => (slot, start)).toList := by
  grind [starts, SchedulerEvent.slot?]

variable {log} in
lemma mem_slots_of_starts (h : (u, start) ∈ starts log) : u ∈ slots log := by
  obtain ⟨entry, he, h⟩ := mem_filterMap.1 h
  obtain ⟨slot, hs, h⟩ := bind_eq_some_iff.1 h
  obtain ⟨_, -, h⟩ := map_eq_some_iff.1 h
  cases h
  exact mem_filterMap.2 ⟨entry, he, hs⟩

end Logs

/-- **What holds after every run**: its discipline, and of every active packet, that it is in flight and that what the log
has of it is what it has sent. -/
structure Tracked (s : HrpdForwardScheduler) (log : SchedulerLog) : Prop extends RunDiscipline s log where
  flying : ∀ st ∈ s.active, Flying st
  ordered : s.active.Pairwise fun a b => a.start < b.start
  past : ∀ st ∈ s.active, st.start ∈ slots log
  tracked : ∀ st ∈ s.active,
    ((sent log).filter fun tx => tx.event.packetStartSlot = st.start) = train st.start st st.slotInSubpacket
  at_slots : ∀ tx ∈ sent log, tx.event.forwardSlot ∈ slots log

section Steps

variable {s s' : HrpdForwardScheduler} {log log' : SchedulerLog}

lemma Tracked.quiet (h : Tracked s log) (ha : s'.active.Sublist s.active) (hs : sent log' = sent log)
    (hsta : starts log' = starts log) (hsl : ∀ u ∈ slots log, u ∈ slots log') : Tracked s' log' where
  one_packet := by rw [hs]; exact h.one_packet
  trains := by rw [hs, hsta]; exact h.trains
  promoted := by rw [hs, hsta]; exact h.promoted
  bounded := fun mac => (ha.filter _).length_le.trans (h.bounded mac)
  flying := fun st hst => h.flying st (ha.subset hst)
  ordered := h.ordered.sublist ha
  past := fun st hst => hsl _ (h.past st (ha.subset hst))
  tracked := by rw [hs]; exact fun st hst => h.tracked st (ha.subset hst)
  at_slots := by rw [hs]; exact fun tx htx => hsl _ (h.at_slots tx htx)

lemma Tracked.settled (h : Tracked s log) (slot : ℕ) : Tracked (s.settled slot) log :=
  h.quiet (Retires.settled s slot).active rfl rfl fun _ hu => hu

lemma Tracked.promoted_active (h : Tracked s log) (hst : st ∈ s.active) :
    ∃ start, (st.start, start) ∈ starts log := by
  have ht := h.tracked st hst
  obtain ⟨k, hk⟩ : ∃ k, st.slotInSubpacket = k + 1 := ⟨st.slotInSubpacket - 1, by have := (h.flying st hst).sent; omega⟩
  rw [hk, train_succ] at ht
  have hmem : trainSlot st.start st k ∈ train st.start st k ++ [trainSlot st.start st k] := by simp
  rw [← ht, mem_filter] at hmem
  exact h.promoted _ hmem.1

lemma filter_snoc (l : List Transmission) (t u k : ℕ) (st : HarqState) :
    ((l ++ [trainSlot t st k]).filter fun tx => tx.event.packetStartSlot = u) =
      (l.filter fun tx => tx.event.packetStartSlot = u) ++ if t = u then [trainSlot t st k] else [] := by
  split_ifs with h <;> simp [trainSlot, h]

structure SamePacket (a b : HarqState) : Prop where
  packetId : a.packetId = b.packetId
  packet : a.packet = b.packet
  rate : a.rate = b.rate

/-- **One more slot.** The packet that starts at `t` sends its slot `k`, and is `st` after that. -/
theorem Tracked.send (h : Tracked s log) (t k : ℕ) (st : HarqState) (hla : ∀ u ∈ slots log, u < t + 4 * k)
    (hs : sent log' = sent log ++ [trainSlot t st k]) (hsl : slots log' = slots log ++ [t + 4 * k])
    (hold : ∀ p ∈ starts log, p ∈ starts log') (hsta : ∃ start, (t, start) ∈ starts log')
    (hnew : ∀ u start, (u, start) ∈ starts log' → (u ≠ t ∧ (u, start) ∈ starts log) ∨ (u = t ∧ SamePacket start.state st))
    (hown : ((sent log).filter fun tx => tx.event.packetStartSlot = t) = train t st k)
    (hfly : Flying st) (hstart : st.start = t) (hk : st.slotInSubpacket = k + 1) (hp : t ∈ slots log')
    (ho : ∀ a ∈ s'.active, a = st ∨ (a.start ≠ t ∧ a ∈ s.active))
    (hor : s'.active.Pairwise fun a b => a.start < b.start)
    (hbo : ∀ mac, (s'.active.filter fun a => a.packet.macIndex = mac).length ≤ 64) : Tracked s' log' := by
  -- one packet of the log gets longer, and the others stay
  have hl : ((sent log').filter fun tx => tx.event.packetStartSlot = t) = train t st (k + 1) := by
    rw [hs, filter_snoc, if_pos rfl, hown, train_succ]
  have hst : ∀ u, u ≠ t → ((sent log').filter fun tx => tx.event.packetStartSlot = u) =
      (sent log).filter fun tx => tx.event.packetStartSlot = u := by
    intro u hu
    rw [hs, filter_snoc, if_neg hu.symm, append_nil]
  constructor
  · constructor
    · rw [hs]
      refine pairwise_append.2 ⟨h.one_packet, pairwise_singleton _ _, fun a ha b hb => ?_⟩
      rw [mem_singleton.1 hb]
      exact hla _ (h.at_slots a ha)
    · intro u start hmem
      rcases hnew u start hmem with ⟨hne, hmem⟩ | ⟨rfl, hsa⟩
      · rw [hst u hne]
        exact h.trains u start hmem
      · refine ⟨k + 1, by omega, ?_, hl.trans (train_congr hsa.packetId hsa.packet hsa.rate).symm⟩
        rw [hsa.rate, ← hk]
        exact hfly.within
    · rw [hs]
      intro tx htx
      rcases mem_append.1 htx with htx | htx
      · obtain ⟨start, hmem⟩ := h.promoted tx htx
        exact ⟨start, hold _ hmem⟩
      · rw [mem_singleton.1 htx]
        exact hsta
    · exact hbo
  · grind [cases Tracked]
  · exact hor
  · grind [cases Tracked]
  · intro a ha
    rcases ho a ha with rfl | ⟨hne, ha⟩
    · rw [hstart, hk]
      exact hl
    · rw [hst _ hne]
      exact h.tracked a ha
  grind [cases Tracked, trainSlot]

section Send

variable {front back : List HarqState} {st : HarqState} {slot : ℕ} {control : Bool}

lemma Tracked.continued (h : Tracked s log) (hl : ∀ u ∈ slots log, u < slot) (hsp : s.active = front ++ st :: back)
    (hw : st.awaitingAck = false) (hs : st.nextEligibleSlot = slot)
    (ha : s'.active = front ++ advance slot st :: back) :
    Tracked s' (log ++ [(.nextSlot slot control, some (sentReport slot st none))]) := by
  have hmem : st ∈ s.active := by rw [hsp]; simp
  have hfly := h.flying st hmem
  have hstart : (advance slot st).start = st.start := hfly.start_advance
  have hat : st.start + 4 * st.slotInSubpacket = slot := (hfly.eligible hw).symm.trans hs
  have hsl : slots (log ++ [(.nextSlot slot control, some (sentReport slot st none))]) = slots log ++ [slot] :=
    slots_snoc _ _ _
  have hst : starts (log ++ [(.nextSlot slot control, some (sentReport slot st none))]) = starts log :=
    (starts_snoc _ _ _).trans (append_nil _)
  have ho := h.ordered
  rw [hsp, pairwise_append, pairwise_cons] at ho
  obtain ⟨hf, ⟨haf, hb⟩, hbe⟩ := ho
  refine h.send st.start st.slotInSubpacket (advance slot st) (by rwa [hat]) ?_ (by rw [hsl, hat]) ?_ ?_ ?_
    (h.tracked st hmem) (hfly.advance hw hs) hstart rfl ?_ ?_ ?_ ?_
  · rw [sent_snoc, bind_some, transmission_flying hfly hw hs]
    rfl
  · rw [hst]
    exact fun p hp => hp
  · rw [hst]
    exact h.promoted_active hmem
  · rw [hst]
    intro u start hsta
    by_cases hu : u = st.start
    · subst hu
      obtain ⟨n, hone, -, ht⟩ := h.trains _ start hsta
      obtain ⟨-, hid, hpa, hr⟩ := train_inj hone (ht.symm.trans (h.tracked st hmem))
      exact .inr ⟨rfl, hid, hpa, hr⟩
    · exact .inl ⟨hu, hsta⟩
  · rw [hsl]
    exact mem_append_left _ (h.past st hmem)
  · grind
  · grind [pairwise_cons]
  · intro mac
    have hle := h.bounded mac
    grind [advance]

lemma Tracked.started (h : Tracked s log) (hl : ∀ u ∈ slots log, u < slot)
    (hs : Startable slot gov s.active start) (hac : s'.active = s.active ++ [advance slot start.state]) :
    Tracked s' (log ++ [(.nextSlot slot control, some (sentReport slot start.state (some start)))]) := by
  have hf := hs.fresh
  obtain ⟨drc, -, hr⟩ := hs.governed
  have hone := one_le_slots hr
  have hsl : slots (log ++ [(.nextSlot slot control, some (sentReport slot start.state (some start)))]) =
      slots log ++ [slot] := slots_snoc _ _ _
  have hst : starts (log ++ [(.nextSlot slot control, some (sentReport slot start.state (some start)))]) =
      starts log ++ [(slot, start)] := starts_snoc _ _ _
  refine h.send slot 0 (advance slot start.state) (by simpa using hl) ?_ hsl ?_ ?_ ?_
    ?_ (hf.advance hone hs.phase) hf.start_advance (by simp [advance, hf.sent]) ?_ ?_ ?_ ?_
  · rw [sent_snoc, bind_some, transmission_fresh hf hone]
    rfl
  · rw [hst]
    exact fun p hp => mem_append_left _ hp
  · rw [hst]
    exact ⟨start, mem_append_right _ mem_cons_self⟩
  · rw [hst]
    intro u start' hmem
    rcases mem_append.1 hmem with hmem | hmem
    · exact .inl ⟨(hl u (mem_slots_of_starts hmem)).ne, hmem⟩
    · obtain ⟨rfl, rfl⟩ := Prod.mk.inj (mem_singleton.1 hmem)
      exact .inr ⟨rfl, rfl, rfl, rfl⟩
  · -- nothing was sent of a packet that starts now
    refine filter_eq_nil_iff.2 fun tx htx => ?_
    obtain ⟨_, hmem⟩ := h.promoted tx htx
    simpa using (hl _ (mem_slots_of_starts hmem)).ne
  · rw [hsl]
    exact mem_append_right _ mem_cons_self
  · grind [cases Tracked]
  · rw [hac]
    refine pairwise_append.2 ⟨h.ordered, pairwise_singleton _ _, fun a ha b hb => ?_⟩
    rw [mem_singleton.1 hb, hf.start_advance]
    exact hl _ (h.past a ha)
  · intro mac
    rw [hac, filter_append, length_append]
    by_cases hmac : start.state.packet.macIndex = mac
    · have hro := hs.room
      rw [hmac] at hro
      simp [advance, hmac]
      omega
    · simpa [advance, hmac] using h.bounded mac

end Send

end Steps

section Runs

variable {s s' : HrpdForwardScheduler} {log : SchedulerLog}

lemma active_enqueue (s : HrpdForwardScheduler) (pkt : ForwardTrafficPacket) : (s.enqueue pkt).active = s.active := by
  grind [enqueue, enqueuePrepared]

lemma step_cases (h : step s event = some (s', report)) :
    (event.slot? = none ∧ report = none ∧ s'.active.Sublist s.active) ∨
    ∃ slot control r, event = .nextSlot slot control ∧ report = some r ∧ s.nextSlot slot control = some (s', r) := by
  cases event with
  | nextSlot =>
    obtain ⟨⟨t, r⟩, hc, heq⟩ := map_eq_some_iff.1 h
    grind
  | _ =>
    obtain ⟨rfl, rfl⟩ := Prod.mk.inj (some.inj h)
    refine .inl ⟨rfl, rfl, ?_⟩
    first
    | exact (Retires.handleAck s _ _ _ _).active
    | rw [active_enqueue]
    | exact filter_sublist
    | exact .refl _

lemma Tracked.nextSlot {control : Bool} {report : SlotReport} (h : Tracked s log)
    (hl : ∀ u ∈ slots log, u < slot) (hc : s.nextSlot slot control = some (s', report)) :
    Tracked s' (log ++ [(.nextSlot slot control, some report)]) := by
  have hsl : ∀ u ∈ slots log, u ∈ slots (log ++ [(.nextSlot slot control, some report)]) := by
    rw [slots_snoc]
    exact fun u hu => mem_append_left _ hu
  have hs := h.settled slot
  have hde := nextSlot_decision h.flying hc
  generalize ha : (s.settled slot).active = active at hde
  generalize ha' : s'.active = active' at hde
  cases hde with
  | @continued front back st hsp hf hdue heq =>
    have hfly : Flying st := hs.flying st (by rw [ha, hsp]; simp)
    exact hs.continued hl (ha.trans hsp) ((due_iff hfly).1 hdue).1 heq ha'
  | started _ hst =>
    subst ha
    exact hs.started hl hst ha'
  | _ =>
    refine hs.quiet (by grind) ?_ ?_ hsl
    · exact (sent_snoc _ _ _).trans (append_nil _)
    · exact (starts_snoc _ _ _).trans (append_nil _)

lemma tracked_new : Tracked .new [] where
  one_packet := List.Pairwise.nil
  trains := fun _ _ h => absurd h not_mem_nil
  promoted := fun _ h => absurd h not_mem_nil
  bounded := fun _ => Nat.zero_le _
  flying := fun _ h => absurd h not_mem_nil
  ordered := List.Pairwise.nil
  past := fun _ h => absurd h not_mem_nil
  tracked := fun _ h => absurd h not_mem_nil
  at_slots := fun _ h => absurd h not_mem_nil

lemma tracked_run (hrun : Run (steps step) .new s log) (hs : (slots log).Pairwise (· < ·)) : Tracked s log := by
  refine hrun.inv (fun s log => (slots log).Pairwise (· < ·) → Tracked s log) (fun _ => tracked_new) ?_ hs
  intro s event s' report log ih hst hs
  rw [slots_snoc, pairwise_append] at hs
  obtain ⟨hb, -, hl⟩ := hs
  rcases step_cases hst.2 with ⟨hsl, rfl, ha⟩ | ⟨slot, control, r, rfl, rfl, hc⟩
  · refine (ih hb).quiet ha ?_ ?_ ?_
    · exact (sent_snoc _ _ _).trans (append_nil _)
    · simp [starts]
    · rw [slots_snoc]
      exact fun u hu => mem_append_left _ hu
  · exact (ih hb).nextSlot (fun u hu => hl u hu slot mem_cons_self) hc

lemma call_discipline {control : Bool} {report : SlotReport} (hf : ∀ st ∈ s.active, Flying st)
    (hc : s.nextSlot slot control = some (s', report)) : CallDiscipline s slot report := by
  have hde := nextSlot_decision hf hc
  generalize s'.active = active' at hde
  cases hde with
  | @started start hn hs =>
    obtain ⟨drc, hdrc, hr⟩ := hs.governed
    have htx : (sentReport slot start.state (some start)).transmission = some (trainSlot slot start.state 0) :=
      transmission_fresh hs.fresh (one_le_slots hr) _
    refine ⟨by grind [trainSlot], ?_, ?_, ?_⟩ <;> rintro _ ⟨⟩
    · rw [htx]
      rfl
    · exact ⟨drc, hdrc, hr⟩
    · exact hs.phase
  | _ => constructor <;> rintro _ ⟨⟩ <;> rfl

/-- **The slot discipline.** In every run with increasing slots, and in every further call of it: each slot carries one
packet at most, a packet that is promoted is sent in the same call, at the rate of the DRC value that governs the slot; its
slots are four apart without gaps, at most as many as the rate has, the last of them marked; a packet of several slots does
not start on the phase of the control channel; and a MAC index has at most 64 active packets. -/
theorem slot_discipline {s : HrpdForwardScheduler} {log : SchedulerLog} (hrun : Run (steps step) .new s log)
    (hslots : (slots log).Pairwise (· < ·)) :
    RunDiscipline s log ∧ ∀ slot control s' report, s.nextSlot slot control = some (s', report) →
      CallDiscipline s slot report := by
  have ht := tracked_run hrun hslots
  exact ⟨ht.toRunDiscipline, fun _ _ _ _ hc => call_discipline ht.flying hc⟩

end Runs

/-- A packet of two slots, which does not start on slot 8. -/
theorem slot_discipline_two_slots : ∃ s log, Run (steps step) .new s log ∧ slots log = [8, 9, 13] ∧
    (sent log).map (fun tx => tx.event.forwardSlot) = [9, 13] ∧ RunDiscipline s log := by
  obtain ⟨s, log, hrun, hs, hse⟩ := exists_run step (fun _ _ => True) .new
    [.setHarqBus .new, .setCurrentDrcAtSlot 5 7 4, .enqueue ⟨5, 0, 0, false, replicate 1024 1⟩, .nextSlot 8 false,
      .nextSlot 9 false, .nextSlot 13 false]
    (fun _ log => slots log = [8, 9, 13] ∧ (sent log).map (fun tx => tx.event.forwardSlot) = [9, 13]) (by decide +kernel)
  exact ⟨s, log, hrun, hs, hse, (slot_discipline hrun (by rw [hs]; decide)).1⟩

end OneXBts.Bts.Hrpd
