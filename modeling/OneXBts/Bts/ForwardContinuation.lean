import OneXBts.Bts.ForwardSlots

/-!
Continuations of packets in flight.

The next slot of a started packet is four later, and nothing else can be sent there. But a packet whose slot was taken by the
control channel stays active, is picked later as if it had a slot to send, and is then dropped: the slot stays empty, also
if it is that of another packet behind it.
-/

namespace OneXBts.Bts.Hrpd

open Lib Common Common.HrpdTraffic HrpdForwardScheduler List Option

/-- An event takes a packet away by feedback or by a purge. -/
def RetiredBy (st : HarqState) (s : HrpdForwardScheduler) : SchedulerEvent → Prop
  | .purgeMac macIndex => st ∉ (s.purgeMac macIndex).1.active
  | .handleAck macIndex packetId subpacket response => st ∉ (s.handleAck macIndex packetId subpacket response).active
  | .nextSlot _ _ => st ∉ s.drainFeedback.active
  | _ => False

structure Waiting (slot : ℕ) (st : HarqState) (s : HrpdForwardScheduler) : Prop where
  active : st ∈ s.active
  inFlight : st.awaitingAck = false
  eligible : st.nextEligibleSlot = slot

section Waiting

variable {s s' : HrpdForwardScheduler} {st : HarqState} {slot : ℕ}

lemma mem_retireExpiredFeedbackWaits (u : ℕ) (hst : st ∈ s.active) (hf : st.awaitingAck = false) :
    st ∈ (s.retireExpiredFeedbackWaits u).active := by
  refine mem_filter.2 ⟨hst, ?_⟩
  simp [hf]

lemma Waiting.nextSlot {control : Bool} {report : SlotReport} (hf : ∀ a ∈ s.active, Flying a)
    (h : Waiting slot st s) (hu : u < slot) (hsp : st ∈ s.drainFeedback.active)
    (hc : s.nextSlot u control = some (s', report)) : Waiting slot st s' := by
  refine ⟨?_, h.inFlight, h.eligible⟩
  have hmem : st ∈ (s.settled u).active := mem_retireExpiredFeedbackWaits u hsp h.inFlight
  have hn : due u st = false := by simp [due, h.eligible, hu]
  have hde := nextSlot_decision hf hc
  generalize (s.settled u).active = active at hde hmem
  generalize s'.active = active' at hde ⊢
  -- the packet that is served is due, so it is another one
  have ho : ∀ {front back : List HarqState} {a : HarqState}, active = front ++ a :: back → due u a = true →
      st ∈ front ∨ st ∈ back := by grind
  cases hde with
  | control => exact hmem
  | idle => exact hmem
  | missed hs _ hdue =>
    rw [mem_append]
    exact ho hs hdue
  | continued =>
    rw [mem_append, mem_cons]
    grind
  | started => exact mem_append_left _ hmem

lemma Waiting.step (hf : ∀ a ∈ s.active, Flying a)
    (h : Waiting slot st s) (hsp : ¬ RetiredBy st s event) (hu : ∀ u ∈ event.slot?, u < slot)
    (hs : step s event = some (s', report)) : Waiting slot st s' := by
  cases event with
  | nextSlot u =>
    obtain ⟨⟨t, r⟩, hc, heq⟩ := map_eq_some_iff.1 hs
    obtain ⟨rfl, rfl⟩ := Prod.mk.inj heq
    exact h.nextSlot hf (hu u rfl) (not_not.1 hsp) hc
  | handleAck | purgeMac =>
    obtain ⟨rfl, rfl⟩ := Prod.mk.inj (some.inj hs)
    exact ⟨not_not.1 hsp, h.inFlight, h.eligible⟩
  | enqueue => grind [active_enqueue, cases Waiting, intro Waiting, step]
  | _ =>
    obtain ⟨rfl, rfl⟩ := Prod.mk.inj (some.inj hs)
    exact ⟨h.active, h.inFlight, h.eligible⟩

end Waiting

section Deadline

variable {s s' : HrpdForwardScheduler} {log : SchedulerLog} {a b : HarqState} {slot : ℕ}

section

variable (h : Tracked s log)
include h

lemma Tracked.last_sent (ha : a ∈ s.active) :
    trainSlot a.start a (a.slotInSubpacket - 1) ∈ sent log := by
  have hs := (h.flying a ha).sent
  grind [train, mem_of_mem_filter, cases Tracked]

lemma Tracked.eq_of_start (ha : a ∈ s.active) (hb : b ∈ s.active) (hs : a.start = b.start) :
    a = b := by
  have hn : (s.active.map HarqState.start).Nodup := by
    refine List.Pairwise.map _ (fun _ _ hlt => ?_) h.ordered
    exact hlt.ne
  exact inj_on_of_nodup_map hn ha hb hs

lemma Tracked.eq_of_waiting (ha : Waiting slot a s) (hb : Waiting slot b s) : a = b := by
  have hs : a.start + 4 * (a.slotInSubpacket - 1) = b.start + 4 * (b.slotInSubpacket - 1) := by
    have hfa := h.flying a ha.active
    have hfb := h.flying b hb.active
    have := hfa.eligible ha.inFlight
    have := hfb.eligible hb.inFlight
    have := hfa.sent
    have := hfb.sent
    have := ha.eligible
    have := hb.eligible
    omega
  have hn : ((sent log).map fun tx => tx.event.forwardSlot).Nodup := by
    refine List.Pairwise.map _ (fun _ _ hlt => ?_) h.one_packet
    exact hlt.ne
  have htx := inj_on_of_nodup_map hn (h.last_sent ha.active) (h.last_sent hb.active) hs
  exact h.eq_of_start ha.active hb.active (congrArg (fun tx : Transmission => tx.event.packetStartSlot) htx)

/-- **What becomes of the slot that a packet waits for**: it is the packet's, or it stays empty because a packet that was
started before has missed its own. -/
theorem Tracked.deadline (hb : Waiting slot b s) (hspa : b ∈ s.drainFeedback.active)
    (hca : s.nextSlot slot false = some (s', report)) :
    (report.transmission = some (trainSlot b.start b b.slotInSubpacket) ∧
      ∀ a ∈ (s.settled slot).active, a.start < b.start → missedContinuation slot a = false) ∨
    (report.transmission = none ∧
      ∃ a ∈ (s.settled slot).active, a.start < b.start ∧ missedContinuation slot a = true) := by
  have hs := h.settled slot
  have hmem : b ∈ (s.settled slot).active := mem_retireExpiredFeedbackWaits slot hspa hb.inFlight
  have hdue : due slot b = true := (due_iff (hs.flying b hmem)).2 ⟨hb.inFlight, hb.eligible.le⟩
  have hde := nextSlot_decision h.flying hca
  generalize ha : (s.settled slot).active = active at hde hmem ⊢
  generalize s'.active = active' at hde
  have ho := hs.ordered
  rw [ha] at ho
  cases hde with
  | idle hn | started hn =>
    rw [hn b hmem] at hdue
    cases hdue
  | @missed front back a hsp hf hdu hlt =>
    -- the packet that is dropped is another one, and in front
    have hfly := hs.flying a (by rw [ha, hsp]; simp)
    have hm : missedContinuation slot a = true := hfly.missed_iff.2 ⟨((due_iff hfly).1 hdu).1, hlt⟩
    grind [pairwise_cons, cases Waiting, HrpdForwardScheduler.SlotReport.transmission, silentReport]
  | @continued front back a hsp hf hdu heq =>
    have ham : a ∈ (s.settled slot).active := by rw [ha, hsp]; simp
    have hfly := hs.flying a ham
    have hw := ((due_iff hfly).1 hdu).1
    -- the packet that is served has the same slot, so it is the one that waits
    have hwa : Waiting slot a (s.settled slot) := ⟨ham, hw, heq⟩
    obtain rfl : a = b := hs.eq_of_waiting hwa ⟨ha ▸ hmem, hb.inFlight, hb.eligible⟩
    rw [hsp, pairwise_append, pairwise_cons] at ho
    have haf := ho.2.1.1
    refine .inl ⟨transmission_flying hfly hw heq none, fun c hc hlt => ?_⟩
    grind [cases Tracked, cases Flying, HrpdForwardScheduler.missedContinuation, HrpdForwardScheduler.due]

end

/-- Every active packet that has slots left to send has the next of them ahead. -/
def OnTime (s : HrpdForwardScheduler) (log : SchedulerLog) : Prop :=
  ∀ a ∈ s.active, a.awaitingAck = false → ∀ u ∈ slots log, u < a.nextEligibleSlot

lemma OnTime.nextSlot {control : Bool} {report : SlotReport} (ht : Tracked s log) (h : OnTime s log)
    (hl : ∀ u ∈ slots log, u < slot) (hnext : slots log ≠ [] → slot - 1 ∈ slots log)
    (hco : control = true → slot % 4 = 0) (hc : s.nextSlot slot control = some (s', report)) :
    OnTime s' (log ++ [(.nextSlot slot control, some report)]) := by
  have hse := ht.settled slot
  -- no packet has missed its slot
  have hle : ∀ a ∈ (s.settled slot).active, a.awaitingAck = false → slot ≤ a.nextEligibleSlot := by
    intro a ha hf
    have hne : slots log ≠ [] := ne_nil_of_mem (hse.past a ha)
    have := h a ((Retires.settled s slot).active.subset ha) hf _ (hnext hne)
    omega
  have hde := nextSlot_decision ht.flying hc
  have haf : ∀ a ∈ s'.active, a.awaitingAck = false → slot < a.nextEligibleSlot := by
    generalize hac : (s.settled slot).active = active at hde hle
    generalize s'.active = active' at hde ⊢
    have hfly : ∀ a ∈ active, Flying a := hac ▸ hse.flying
    have hn : ∀ a ∈ active, due slot a = false → a.awaitingAck = false → slot < a.nextEligibleSlot := by
      grind [cases Flying, HrpdForwardScheduler.due]
    cases hde with
    | control =>
      intro a ha hf
      grind [cases Flying]
    | idle hno => exact fun a ha hf => hn a ha (hno a ha) hf
    | @missed front back b hs hfr hdue hlt =>
      have hb : b ∈ active := by rw [hs]; simp
      have := hle b hb ((due_iff (hfly b hb)).1 hdue).1
      omega
    | @continued front back b hs hfr hdue heq =>
      intro a ha hf
      have hb : b ∈ active := by rw [hs]; simp
      have hbf := ((due_iff (hfly b hb)).1 hdue).1
      rw [mem_append, mem_cons] at ha
      rcases ha with ha | rfl | ha
      · exact hn a (by rw [hs]; simp [ha]) (hfr a ha) hf
      · exact lt_eligible_advance hf
      -- a packet behind has another slot
      have ham : a ∈ active := by rw [hs]; simp [ha]
      refine lt_of_le_of_ne (hle a ham hf) fun heqa => ?_
      have hbw : Waiting slot b (s.settled slot) := ⟨by rw [hac]; exact hb, hbf, heq⟩
      obtain rfl : b = a := hse.eq_of_waiting hbw ⟨by rw [hac]; exact ham, hf, heqa.symm⟩
      have ho := hse.ordered
      rw [hac, hs, pairwise_append, pairwise_cons] at ho
      exact absurd (ho.2.1.1 b ha) (lt_irrefl _)
    | started => grind [lt_eligible_advance]
  intro a ha hf u hu
  grind [slots_snoc, SchedulerEvent.slot?]

end Deadline

/-! ### Every run -/

structure Continues (tx tx' : Transmission) : Prop where
  packet : tx'.macIndex = tx.macIndex ∧ tx'.event.packetId = tx.event.packetId ∧
    tx'.event.packetStartSlot = tx.event.packetStartSlot
  slot : tx'.event.forwardSlot = tx.event.forwardSlot + 4
  chips : tx'.dataChips = tx.dataChips.map fun chips => { chips with packetSlot := chips.packetSlot + 1 }

lemma continues_trainSlot (t k : ℕ) (st : HarqState) : Continues (trainSlot t st k) (trainSlot t st (k + 1)) :=
  ⟨⟨rfl, rfl, rfl⟩, by simp only [trainSlot]; omega, rfl⟩

section Runs

variable {s₀ s₁ s s' : HrpdForwardScheduler} {log₁ log₂ : SchedulerLog} {u : ℕ} {control : Bool}
  {report₁ report : SlotReport} {tx : Transmission} {b : HarqState}

lemma active_of_sent (hf : ∀ a ∈ s₀.active, Flying a) (hc : s₀.nextSlot u control = some (s₁, report₁))
    (htx : report₁.transmission = some tx) :
    ∃ a ∈ s₁.active, tx = trainSlot a.start a (a.slotInSubpacket - 1) ∧ tx.event.forwardSlot = u := by
  have hse : ∀ a ∈ (s₀.settled u).active, Flying a := fun a ha => hf a ((Retires.settled s₀ u).active.subset ha)
  have hsl := (call_discipline hf hc).at_slot tx htx
  have hde := nextSlot_decision hf hc
  generalize s₁.active = active' at hde ⊢
  cases hde with
  | @continued front back a hsp hfr hdue heq =>
    have hfly := hse a (by rw [hsp]; simp)
    rw [transmission_flying hfly ((due_iff hfly).1 hdue).1 heq] at htx
    refine ⟨advance u a, by simp, ?_, hsl⟩
    rw [hfly.start_advance]
    exact (some.inj htx).symm
  | @started start hn hs =>
    obtain ⟨drc, -, hr⟩ := hs.governed
    rw [transmission_fresh hs.fresh (one_le_slots hr)] at htx
    refine ⟨advance u start.state, by simp, ?_, hsl⟩
    rw [hs.fresh.start_advance, show (advance u start.state).slotInSubpacket - 1 = 0 by
      simp [advance, hs.fresh.sent]]
    exact (some.inj htx).symm
  | _ => cases htx

lemma waiting_of_sent (h : Tracked s₁ log₁) (hb : b ∈ s₁.active) (htx : tx = trainSlot b.start b (b.slotInSubpacket - 1))
    (hs : tx.event.forwardSlot = u) (ht : tx.event.terminal = false) : Waiting (u + 4) b s₁ := by
  have hfly := h.flying b hb
  have hse := hfly.sent
  rw [htx] at ht hs
  simp only [trainSlot, decide_eq_false_iff_not] at ht hs
  have hw : b.awaitingAck = false := by
    rw [hfly.awaiting, decide_eq_false_iff_not]
    omega
  refine ⟨hb, hw, ?_⟩
  rw [hfly.eligible hw]
  omega

lemma waiting_run (hrun : Run (steps step) .new s₁ log₁) (hb : Waiting slot b s₁)
    (hsp : Run (guarded step fun s event => ¬ RetiredBy b s event) s₁ s log₂)
    (hs : (slots (log₁ ++ log₂)).Pairwise (· < ·)) (hl : ∀ v ∈ slots (log₁ ++ log₂), v < slot) :
    Waiting slot b s ∧ Run (steps step) .new s (log₁ ++ log₂) := by
  induction hsp with
  | nil => exact ⟨hb, by simpa using hrun⟩
  | @snoc s s' log₂ event report _ hst ih =>
    rw [← append_assoc, slots_snoc] at hs hl
    rw [← append_assoc]
    have hs' := (pairwise_append.1 hs).1
    obtain ⟨hw, hrun'⟩ := ih hs' fun v hv => hl v (mem_append_left _ hv)
    have he : ∀ v ∈ event.slot?, v < slot := fun v hv => hl v (mem_append_right _ (by simpa using hv))
    exact ⟨hw.step (tracked_run hrun' hs').flying hst.1 he hst.2, hrun'.snoc ⟨trivial, hst.2⟩⟩

/-- **Who gets a continuation slot.** In every run with increasing slots: a packet sends a slot `u` that is not its last,
no feedback or purge takes it away, and slot `u + 4` is not a control slot. Then the next slot of the packet is sent there
exactly if no packet that was started before it, and is still active when the feedback has been applied, has missed its own
slot. -/
theorem continuation_sent_iff (hrun : Run (steps step) .new s₀ log₁)
    (hcall₁ : s₀.nextSlot u control = some (s₁, report₁)) (htx : report₁.transmission = some tx)
    (hterminal : tx.event.terminal = false) (hb : b ∈ s₁.active) (hpacket : b.start = tx.event.packetStartSlot)
    (hspared : Run (guarded step fun s event => ¬ RetiredBy b s event) s₁ s log₂)
    (hspared' : ¬ RetiredBy b s (.nextSlot (u + 4) false)) (hcall : s.nextSlot (u + 4) false = some (s', report))
    (hslots : (slots (log₁ ++ (.nextSlot u control, some report₁) :: log₂ ++
      [(.nextSlot (u + 4) false, some report)])).Pairwise (· < ·)) :
    (∃ tx', report.transmission = some tx' ∧ Continues tx tx') ↔
      ∀ a ∈ (s.settled (u + 4)).active, a.start < b.start → missedContinuation (u + 4) a = false := by
  -- the log up to slot `u`, and from there to the call in question
  rw [slots_snoc, append_cons log₁, pairwise_append] at hslots
  obtain ⟨hslots, -, hl⟩ := hslots
  replace hl : ∀ v ∈ slots ((log₁ ++ [(.nextSlot u control, some report₁)]) ++ log₂), v < u + 4 := fun v hv =>
    hl v hv (u + 4) (by simp [SchedulerEvent.slot?])
  have hs : Run (steps step) .new s₁ (log₁ ++ [(.nextSlot u control, some report₁)]) :=
    hrun.snoc ⟨trivial, by rw [step, hcall₁]; rfl⟩
  have hslots₁ := hslots
  rw [slots_append, pairwise_append] at hslots₁
  have hslots₀ := hslots₁.1
  rw [slots_append, pairwise_append] at hslots₀
  -- the packet waits for the slot until the call
  have htracked₁ := tracked_run hs hslots₁.1
  obtain ⟨a, ha, rfl, hsl⟩ := active_of_sent (tracked_run hrun hslots₀.1).flying hcall₁ htx
  obtain rfl : b = a := htracked₁.eq_of_start hb ha hpacket
  have hb₁ := waiting_of_sent htracked₁ hb rfl hsl hterminal
  obtain ⟨hw, hrun'⟩ := waiting_run hs hb₁ hspared hslots hl
  have ht := tracked_run hrun' hslots
  have hn : b.slotInSubpacket - 1 + 1 = b.slotInSubpacket := Nat.sub_add_cancel (htracked₁.flying b hb).sent
  rcases ht.deadline hw (not_not.1 hspared') hcall with ⟨htx', hc⟩ | ⟨htx', a, ha, hlt,
    hm⟩ <;> grind [continues_trainSlot]

/-- **With control slots on their phase only, no packet misses its slot**, in every run over consecutive slots. -/
theorem onTime_run (hrun : Run (steps step) .new s log₁) (hs : (slots log₁).IsChain fun u v => v = u + 1)
    (hc : ∀ u report, (SchedulerEvent.nextSlot u true, report) ∈ log₁ → u % 4 = 0) : OnTime s log₁ := by
  have hin : ∀ {l : List ℕ}, (l.IsChain fun u v => v = u + 1) → l.Pairwise (· < ·) := by
    intro l hl
    exact isChain_iff_pairwise.1 (hl.imp fun u v huv => by omega)
  induction hrun with
  | nil => exact fun a ha => absurd ha not_mem_nil
  | @snoc s s' log event report hrun hst ih =>
    have hs' := hs
    rw [slots_snoc, isChain_append] at hs'
    have ho := ih hs'.1 fun u r hmem => hc u r (mem_append_left _ hmem)
    have ht := tracked_run hrun (hin hs'.1)
    rcases step_cases hst.2 with ⟨hsl, rfl, hac⟩ | ⟨slot, control, r, rfl, rfl, hca⟩
    · intro a ha hf u hu
      rw [slots_snoc, hsl, toList_none, append_nil] at hu
      exact ho a (hac.subset ha) hf u hu
    have hla := hin hs
    rw [slots_snoc, pairwise_append] at hla
    refine ho.nextSlot ht (fun u hu => hla.2.2 u hu slot mem_cons_self) ?_ ?_ hca
    · intro hne
      have hn : slot = (slots log).getLast hne + 1 := hs'.2.2 _ (List.getLast?_eq_some_getLast hne) slot rfl
      rw [hn]
      exact getLast_mem hne
    · rintro rfl
      exact hc slot (some r) (mem_append_right _ mem_cons_self)

end Runs

instance (st : HarqState) (s : HrpdForwardScheduler) (event : SchedulerEvent) : Decidable (RetiredBy st s event) := by
  cases event <;> unfold RetiredBy <;> infer_instance

def twoPackets : List SchedulerEvent :=
  [.setHarqBus .new, .setCurrentDrcAtSlot 5 0 4, .setCurrentDrcAtSlot 6 0 4,
    .enqueue ⟨5, 0, 0, false, List.replicate 1024 1⟩, .enqueue ⟨6, 0, 0, false, List.replicate 1024 1⟩]

/-- Without the control slot the first packet sends its second slot at slot 5. -/
theorem continuation_sent_iff_two : ∃ (s s' : HrpdForwardScheduler) (report : SlotReport) (tx' : Transmission),
    s.nextSlot 5 false = some (s', report) ∧ report.transmission = some tx' ∧
    tx'.event.packetStartSlot = 1 ∧ tx'.event.forwardSlot = 5 := by
  have he : (exec step (fun _ _ => True) .new twoPackets).any (fun x => slots x.2 = [] ∧
      (x.1.nextSlot 1 false).any fun r => r.2.transmission.any fun tx => tx.event.terminal = false ∧
        tx.event.packetStartSlot = 1 ∧ tx.event.forwardSlot = 1 ∧ r.1.active.any fun b => b.start = 1 ∧
        (exec step (fun s event => ¬ RetiredBy b s event) r.1
          [.nextSlot 2 false, .nextSlot 3 false, .nextSlot 4 false]).any fun y =>
            slots y.2 = [2, 3, 4] ∧ b ∈ y.1.drainFeedback.active ∧ (y.1.nextSlot 5 false).isSome ∧
            ∀ a ∈ (y.1.settled 5).active, a.start < b.start → missedContinuation 5 a = false) = true := by
    decide +kernel
  obtain ⟨⟨s₀, log₁⟩, hx, h⟩ := (any_eq_true _ _).1 he
  obtain ⟨hlog₁, h⟩ := of_decide_eq_true h
  obtain ⟨⟨s₁, report₁⟩, hcall₁, h⟩ := (any_eq_true _ _).1 h
  obtain ⟨tx, htx, h⟩ := (any_eq_true _ _).1 h
  obtain ⟨ht, hs, hsl, h⟩ := of_decide_eq_true h
  obtain ⟨b, hb, h⟩ := any_eq_true.1 h
  obtain ⟨hp, h⟩ := of_decide_eq_true h
  obtain ⟨⟨s, log₂⟩, hy, h⟩ := (any_eq_true _ _).1 h
  obtain ⟨hlog₂, hsp, hc, hcl⟩ := of_decide_eq_true h
  obtain ⟨⟨s', report⟩, hc⟩ := isSome_iff_exists.1 hc
  have hslo : slots (log₁ ++ (.nextSlot 1 false, some report₁) :: log₂ ++ [(.nextSlot 5 false, some report)]) =
      [1, 2, 3, 4, 5] := by
    rw [slots_snoc, append_cons, slots_append, slots_snoc, hlog₁, hlog₂]
    rfl
  obtain ⟨tx', htx', hco⟩ := (continuation_sent_iff (run_of_exec _ hx) hcall₁ htx ht hb
    (hp.trans hs.symm) (run_of_exec _ hy) (not_not.2 hsp) hc (by rw [hslo]; decide)).2 hcl
  exact ⟨s, s', report, tx', hc, htx', hco.packet.2.2.trans hs, by rw [hco.slot, hsl]⟩

def SchedulerEvent.mayRetire : SchedulerEvent → Bool
  | .purgeMac _ | .handleAck _ _ _ _ | .publishFeedback _ _ => true
  | _ => false

def SchedulerEvent.isControl : SchedulerEvent → Bool
  | .nextSlot _ true => true
  | _ => false

/-- Slot 5 is a control slot, and the first packet misses it. At slot 6, which is not, it is dropped, and the second one,
which has sent its first slot at slot 2 and was not retired, does not send the other. -/
theorem continuation_sacrificed : ∃ s log, Run (steps step) .new s log ∧ slots log = [1, 2, 3, 4, 5, 6] ∧
    (log.filter fun entry => entry.1.isControl).map (fun entry => entry.1.slot?) = [some 5] ∧
    (∀ entry ∈ log, entry.1.mayRetire = false) ∧
    (sent log).map (fun tx => (tx.event.packetStartSlot, tx.event.forwardSlot, tx.event.terminal)) =
      [(1, 1, false), (2, 2, false)] :=
  exists_run step (fun _ _ => True) .new
    (twoPackets ++ [.nextSlot 1 false, .nextSlot 2 false, .nextSlot 3 false, .nextSlot 4 false, .nextSlot 5 true,
      .nextSlot 6 false]) _ (by decide +kernel)

/-- Two packets in the air after a control slot on its phase. -/
theorem onTime_run_control : ∃ s log, slots log = [1, 2, 3, 4] ∧ s.active.length = 2 ∧ OnTime s log := by
  obtain ⟨s, log, hrun, hs, ha, hc⟩ := exists_run step (fun _ _ => True) .new
    (twoPackets ++ [.nextSlot 1 false, .nextSlot 2 false, .nextSlot 3 false, .nextSlot 4 true])
    (fun s log => slots log = [1, 2, 3, 4] ∧ s.active.length = 2 ∧
      ∀ e ∈ log, e.1.isControl = true → e.1.slot? = some 4) (by decide +kernel)
  refine ⟨s, log, hs, ha, onTime_run hrun (by rw [hs]; decide) fun u report hu => ?_⟩
  cases hc _ hu rfl
  rfl

end OneXBts.Bts.Hrpd
