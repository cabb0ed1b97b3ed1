import OneXBts.An.SlpDReceiver

/-!
The sender of reliable stream 0 messages.

The buffer has at most seven packets, but not always the last seven sent. What keeps the sequence numbers apart is that no
message is sent while the one eight before it is outstanding, and nothing in the code sees to that.
-/

namespace OneXBts.An.Air

open Lib SlpD List AtSession

def slpDSequence (m : ℕ) : UInt8 := UInt8.ofNat (m % 8)

def AtSession.outstanding (session : AtSession) : List PendingReliableStream0Packet :=
  (session.pendingTrafficAssignment.map (·.reliableStream0Tx)).getD []

def AtSession.sequenceNumbers (session : AtSession) : List UInt8 := session.outstanding.map (·.sequenceNumber)

structure Sender where
  session : AtSession
  next : ℕ
  outstanding : List ℕ := []
  deriving DecidableEq

inductive SenderOp where
  | send (message : ReliableMessage) (now : ℕ)
  | acknowledge (uati : UInt32) (ackSequenceNumber : UInt8)
  | tick (lastDrcByUati : UInt32 → Option UInt8) (now : ℕ)

/-- The sequence numbers that are outstanding after a step; and for a send the number of the message and those that were
still outstanding when it was added. -/
structure SenderOutput where
  sequenceNumbers : List UInt8
  sent : Option (ℕ × List ℕ) := none
  deriving DecidableEq

def Sender.keep (t : Sender) (session : AtSession) : Sender :=
  { t with
    session := session
    outstanding := t.outstanding.filter fun m => slpDSequence m ∈ session.sequenceNumbers }

def senderStep (build : Stream0Builder) (t : Sender) : SenderOp → Option (Sender × SenderOutput)
  | .send message now =>
    let session := sendReliableStream0 t.session message now
    let kept := if t.outstanding.length ≥ 7 then t.outstanding.drop 1 else t.outstanding
    some (⟨session, t.next + 1, kept ++ [t.next]⟩,
      { sequenceNumbers := session.sequenceNumbers, sent := some (t.next, kept) })
  | .acknowledge uati ackSequenceNumber =>
    let session := (markReliableStream0Acknowledged t.session uati ackSequenceNumber).1
    some (t.keep session, { sequenceNumbers := session.sequenceNumbers })
  | .tick lastDrcByUati now =>
    let session := (maybeRetransmitReliableStream0 build lastDrcByUati t.session now).1
    some (t.keep session, { sequenceNumbers := session.sequenceNumbers })

/-- A message is sent when the one eight before it is not outstanding. -/
def SenderOutput.Free (o : SenderOutput) : Prop := ∀ sent ∈ o.sent, ∀ m ∈ sent.2, m + 8 ≠ sent.1

/-- The packets are those of the messages, in the order they were sent. -/
structure Numbered (t : Sender) : Prop where
  assigned : t.session.pendingTrafficAssignment.isSome = true
  counter : t.session.slpDVsStream0Fl.toNat % 8 = t.next % 8
  numbers : t.session.sequenceNumbers = t.outstanding.map slpDSequence
  increasing : t.outstanding.Pairwise (· < ·)
  sent : ∀ m ∈ t.outstanding, m < t.next

section Sender

variable {build : Stream0Builder} {t t' : Sender} {op : SenderOp} {o : SenderOutput}

lemma slpDSequence_inj : slpDSequence m = slpDSequence n ↔ m % 8 = n % 8 := by
  have hnat : ∀ m, (slpDSequence m).toNat = m % 8 := fun m =>
    UInt8.toNat_ofNat_of_lt ((Nat.mod_lt m (by decide : 0 < 8)).trans (by decide))
  rw [← UInt8.toNat_inj, hnat, hnat]

lemma Numbered.next_sequence (h : Numbered t) : (t.session.slpDVsStream0Fl &&& 0x07) &&& 0x07 = slpDSequence t.next := by
  have hnat : (slpDSequence t.next).toNat = t.next % 8 :=
    UInt8.toNat_ofNat_of_lt ((Nat.mod_lt _ (by decide : 0 < 8)).trans (by decide))
  rw [← UInt8.toNat_inj, toNat_and_seven, toNat_and_seven, Nat.mod_mod, h.counter, hnat]

/-- An acknowledgement or a tick takes away all the packets of some sequence numbers. -/
def Removes (session session' : AtSession) : Prop :=
  session'.pendingTrafficAssignment.isSome = session.pendingTrafficAssignment.isSome ∧
  session'.slpDVsStream0Fl = session.slpDVsStream0Fl ∧
  ∃ keep : UInt8 → Bool, session'.sequenceNumbers = session.sequenceNumbers.filter keep

lemma Removes.refl (session : AtSession) : Removes session session :=
  ⟨rfl, rfl, fun _ => true, (filter_true _).symm⟩

lemma sequenceNumber_filter (pkts : List PendingReliableStream0Packet) (keep : UInt8 → Bool) :
    (pkts.filter fun pkt => keep pkt.sequenceNumber).map (·.sequenceNumber) =
      (pkts.map (·.sequenceNumber)).filter keep := by
  rw [filter_map]
  rfl

lemma removes_acknowledge (session : AtSession) (uati : UInt32) (ack : UInt8) :
    Removes session (markReliableStream0Acknowledged session uati ack).1 := by
  unfold markReliableStream0Acknowledged
  cases hp : session.pendingTrafficAssignment.filter (·.trafficUati = uati) with
  | none => exact Removes.refl session
  | some pend =>
    have hs := (Option.filter_eq_some_iff.1 hp).1
    refine ⟨by rw [hs]; rfl, rfl, fun s => s ≠ ack &&& 0x07, ?_⟩
    unfold sequenceNumbers outstanding
    rw [hs]
    exact sequenceNumber_filter pend.reliableStream0Tx fun s => s ≠ ack &&& 0x07

lemma tick_sequenceNumber (now : ℕ) (pkt : PendingReliableStream0Packet) :
    (pkt.tick now).sequenceNumber = pkt.sequenceNumber := by
  unfold PendingReliableStream0Packet.tick
  split_ifs <;> rfl

lemma removes_tick (build : Stream0Builder) (lastDrcByUati : UInt32 → Option UInt8) (session : AtSession) (now : ℕ) :
    Removes session (maybeRetransmitReliableStream0 build lastDrcByUati session now).1 := by
  unfold maybeRetransmitReliableStream0
  cases hp : session.pendingTrafficAssignment.filter fun pend => pend.reliableStream0Tx ≠ [] with
  | none => exact Removes.refl session
  | some pend =>
    have hs := (Option.filter_eq_some_iff.1 hp).1
    dsimp only
    split
    · exact Removes.refl session
    split
    · exact Removes.refl session
    generalize (pend.reliableStream0Tx.filter (·.timer now = .failed)).map (·.sequenceNumber) = failed
    refine ⟨by rw [hs]; rfl, rfl, fun s => s ∉ failed, ?_⟩
    have ht : (pend.reliableStream0Tx.map (·.tick now)).map (·.sequenceNumber) =
        pend.reliableStream0Tx.map (·.sequenceNumber) := by
      rw [map_map]
      exact map_congr_left fun pkt _ => tick_sequenceNumber now pkt
    have hse : session.sequenceNumbers = pend.reliableStream0Tx.map (·.sequenceNumber) := by
      rw [sequenceNumbers, outstanding, hs]
      rfl
    rw [hse, ← ht]
    exact sequenceNumber_filter (pend.reliableStream0Tx.map (·.tick now)) fun s => s ∉ failed

lemma Numbered.keep (h : Numbered t) (hrem : Removes t.session session) :
    Numbered (t.keep session) ∧ (t.keep session).outstanding.Sublist t.outstanding := by
  obtain ⟨hs, hc, keep, hk⟩ := hrem
  rw [h.numbers, filter_map] at hk
  have hsub : (t.keep session).outstanding.Sublist t.outstanding := filter_sublist
  -- a message is kept exactly when its sequence number is
  have hsa : (t.keep session).outstanding = t.outstanding.filter (keep ∘ slpDSequence) := by
    refine filter_congr fun m hm => ?_
    grind
  refine ⟨⟨hs.trans h.assigned, ?_, ?_, h.increasing.sublist hsub, fun m hm => h.sent m (hsub.mem hm)⟩, hsub⟩
  · exact (congrArg (fun s => s.toNat % 8) hc).trans h.counter
  · rw [hsa]
    exact hk

lemma Numbered.send (h : Numbered t) (msg : ReliableMessage) (now : ℕ)
    (hs : senderStep build t (.send msg now) = some (t', o)) :
    Numbered t' ∧ t'.next = t.next + 1 ∧ ∃ kept, kept.Sublist t.outstanding ∧ o.sent = some (t.next, kept) ∧
      t'.outstanding = kept ++ [t.next] := by
  cases hs
  obtain ⟨pend, hp⟩ := Option.isSome_iff_exists.1 h.assigned
  have hn := h.numbers
  have hlen : t.outstanding.length = pend.reliableStream0Tx.length := by
    grind [length_map, sequenceNumbers, outstanding]
  have hsub : (if t.outstanding.length ≥ 7 then t.outstanding.drop 1 else t.outstanding).Sublist t.outstanding := by
    split_ifs
    · exact drop_sublist _ _
    · exact List.Sublist.refl _
  refine ⟨⟨?_, ?_, ?_, ?_, ?_⟩, rfl, _, hsub, rfl, rfl⟩
  · unfold sendReliableStream0
    rw [hp]
    rfl
  · unfold sendReliableStream0
    rw [hp]
    change ((t.session.slpDVsStream0Fl + 1) &&& 0x07).toNat % 8 = (t.next + 1) % 8
    have := h.counter
    rw [toNat_and_seven, UInt8.toNat_add, show (1 : UInt8).toNat = 1 from rfl]
    omega
  · rw [sequenceNumbers, outstanding, hp] at hn
    unfold sendReliableStream0 sequenceNumbers outstanding
    rw [hp]
    change (makeRoom pend.reliableStream0Tx ++ [_]).map _ = _
    rw [map_append, map_append, makeRoom, hlen]
    refine congrArg₂ (· ++ ·) ?_ (congrArg ([·]) h.next_sequence)
    grind [map_drop]
  · rw [pairwise_append]
    grind [cases Numbered]
  grind [cases Numbered]

lemma Numbered.nodup (h : Numbered t) (hne : ∀ m ∈ t.outstanding, t.next ≤ m + 8) :
    t.session.sequenceNumbers.Nodup := by
  rw [h.numbers, List.Nodup, pairwise_map]
  refine h.increasing.imp_of_mem fun {m n} hm hn hlt heq => ?_
  have := slpDSequence_inj.1 heq
  have := h.sent n hn
  have := hne m hm
  omega

/-- **One step**: as long as the outstanding messages are among the last eight, the sequence numbers stay distinct exactly
when a message that is sent finds its number free, and then this is so again. -/
theorem sender_step (h : Numbered t) (hn : ∀ m ∈ t.outstanding, t.next ≤ m + 8)
    (hs : senderStep build t op = some (t', o)) :
    o.sequenceNumbers = t'.session.sequenceNumbers ∧ Numbered t' ∧ (o.sequenceNumbers.Nodup ↔ o.Free) ∧
      (o.Free → ∀ m ∈ t'.outstanding, t'.next ≤ m + 8) := by
  have hk : ∀ {session : AtSession}, Removes t.session session →
      Numbered (t.keep session) ∧ session.sequenceNumbers.Nodup ∧ ∀ m ∈ (t.keep session).outstanding, t.next ≤ m + 8 := by
    intro session hrem
    obtain ⟨hnum, hsub⟩ := h.keep hrem
    have hn' : ∀ m ∈ (t.keep session).outstanding, t.next ≤ m + 8 := fun m hm => hn m (hsub.mem hm)
    exact ⟨hnum, hnum.nodup hn', hn'⟩
  cases op with
  | send msg now =>
    have hout : o.sequenceNumbers = t'.session.sequenceNumbers := by
      cases hs
      rfl
    obtain ⟨hnum, hne, kept, hsub, hse, hall⟩ := h.send msg now hs
    have hfr : o.Free ↔ ∀ m ∈ kept, m + 8 ≠ t.next := by
      rw [SenderOutput.Free, hse]
      simp
    have hn' : o.Free → ∀ m ∈ t'.outstanding, t'.next ≤ m + 8 := by grind
    refine ⟨hout, hnum, ⟨fun hno => hfr.2 fun m hm heq => ?_, fun hf => hout ▸ hnum.nodup (hn' hf)⟩, hn'⟩
    rw [hout, hnum.numbers, hall, map_append, nodup_append] at hno
    refine hno.2.2 (slpDSequence m) (mem_map_of_mem hm) (slpDSequence t.next) (by simp) ?_
    rw [slpDSequence_inj]
    omega
  | acknowledge uati ack =>
    cases hs
    obtain ⟨hnum, hno, hn'⟩ := hk (removes_acknowledge t.session uati ack)
    exact ⟨rfl, hnum, iff_of_true hno (by simp [SenderOutput.Free]), fun _ => hn'⟩
  | tick => cases hs <;> grind [removes_tick, SenderOutput.Free, Sender.keep]

lemma acknowledge_removes_one (hn : session.sequenceNumbers.Nodup) (uati : UInt32)
    (ack : UInt8) : session.outstanding.length ≤
      (markReliableStream0Acknowledged session uati ack).1.outstanding.length + 1 := by
  unfold markReliableStream0Acknowledged
  cases hp : session.pendingTrafficAssignment.filter (·.trafficUati = uati) with
  | none => exact Nat.le_succ _
  | some pend =>
    have hs := (Option.filter_eq_some_iff.1 hp).1
    unfold sequenceNumbers outstanding at hn
    unfold outstanding
    rw [hs] at hn ⊢
    dsimp only [Option.map_some, Option.getD_some] at hn ⊢
    have hc := List.nodup_iff_count_le_one.1 hn (ack &&& 0x07)
    rw [count_eq_countP, countP_map, countP_eq_length_filter] at hc
    have hsp := length_eq_length_filter_add (l := pend.reliableStream0Tx)
      (f := fun pkt => decide (pkt.sequenceNumber = ack &&& 0x07))
    have hne : (pend.reliableStream0Tx.filter fun pkt => !decide (pkt.sequenceNumber = ack &&& 0x07)) =
        pend.reliableStream0Tx.filter fun pkt => pkt.sequenceNumber ≠ ack &&& 0x07 := by simp
    have heq : (pend.reliableStream0Tx.filter ((fun s => s == ack &&& 0x07) ∘
        fun pkt => pkt.sequenceNumber)) =
        pend.reliableStream0Tx.filter fun pkt => decide (pkt.sequenceNumber = ack &&& 0x07) := by
      refine filter_congr fun pkt _ => ?_
      rw [Function.comp_apply, Bool.eq_iff_iff, beq_iff_eq, decide_eq_true_eq]
    rw [heq] at hc
    rw [hne] at hsp
    omega

end Sender

/-- **The sequence numbers that are outstanding are distinct, if no message is sent while the one eight before it is
outstanding.** From a fresh traffic assignment, for every sequence of sends, acknowledgements and ticks: the numbers are
distinct in all the states on the way if and only if every message that is sent finds its number free; and then an
acknowledgement removes one message at most. -/
theorem outstanding_distinct_iff (build : Stream0Builder) (pending : PendingTrafficAssignment)
    (hempty : pending.reliableStream0Tx = []) (vs : UInt8) {t : Sender} {log : List (SenderOp × SenderOutput)}
    (hrun : Run (steps (senderStep build)) { session := ⟨some pending, vs⟩, next := vs.toNat } t log) :
    ((∀ e ∈ log, e.2.sequenceNumbers.Nodup) ↔ ∀ e ∈ log, e.2.Free) ∧
    ((∀ e ∈ log, e.2.Free) → t.session.sequenceNumbers.Nodup ∧ ∀ uati ackSequenceNumber,
      t.session.outstanding.length ≤
        (markReliableStream0Acknowledged t.session uati ackSequenceNumber).1.outstanding.length + 1) := by
  have h : ((∀ e ∈ log, e.2.sequenceNumbers.Nodup) ↔ ∀ e ∈ log, e.2.Free) ∧
      ((∀ e ∈ log, e.2.Free) → Numbered t ∧ ∀ m ∈ t.outstanding, t.next ≤ m + 8) := by
    refine hrun.inv (fun t log => ((∀ e ∈ log, e.2.sequenceNumbers.Nodup) ↔ ∀ e ∈ log, e.2.Free) ∧
      ((∀ e ∈ log, e.2.Free) → Numbered t ∧ ∀ m ∈ t.outstanding, t.next ≤ m + 8)) ?_ ?_
    · refine ⟨by simp, fun _ => ⟨⟨rfl, rfl, ?_, by simp, by simp⟩, by simp⟩⟩
      simp [sequenceNumbers, outstanding, hempty]
    rintro t op t' o log ⟨hiff, hnum⟩ ⟨-, hs⟩
    simp only [forall_mem_append, forall_mem_singleton]
    by_cases hf : ∀ e ∈ log, e.2.Free
    · obtain ⟨hnu, hn⟩ := hnum hf
      obtain ⟨-, hnum', hiff', hn'⟩ := sender_step hnu hn hs
      exact ⟨and_congr hiff hiff', fun h => ⟨hnum', hn' h.2⟩⟩
    grind
  refine ⟨h.1, fun hf => ?_⟩
  obtain ⟨hnum, hn⟩ := h.2 hf
  exact ⟨hnum.nodup hn, fun uati ack => acknowledge_removes_one (hnum.nodup hn) uati ack⟩

def sampleMessage : ReliableMessage := ⟨0x12, [0x50], false, none, "AttributeUpdateReject"⟩

/-- Ten messages; every second one is acknowledged, and the others are given up on the way. -/
theorem outstanding_distinct_iff_given_up :
    ∃ t log, Run (steps (senderStep fun _ _ _ _ _ _ => none))
      { session := ⟨some freshAssignment, 1⟩, next := (1 : UInt8).toNat } t log ∧
      t.next = 11 ∧ t.session.sequenceNumbers = [1, 2] ∧ (∀ e ∈ log, e.2.sequenceNumbers.Nodup) := by
  obtain ⟨t, log, hrun, hn, hnu, hf⟩ := exists_run (senderStep fun _ _ _ _ _ _ => none) (fun _ _ => True)
    { session := ⟨some freshAssignment, 1⟩, next := (1 : UInt8).toNat }
    ([1, 3, 5, 7].flatMap (fun n => [.send sampleMessage 0, .send sampleMessage 0, .acknowledge 7 n]) ++
      [.tick (fun _ => some 1) 400, .tick (fun _ => some 1) 800, .tick (fun _ => none) 1200,
        .tick (fun _ => some 1) 1200, .send sampleMessage 1200, .send sampleMessage 1200])
    (fun t log => t.next = 11 ∧ t.session.sequenceNumbers = [1, 2] ∧
      ∀ e ∈ log, ∀ sent ∈ e.2.sent, ∀ m ∈ sent.2, m + 8 ≠ sent.1) (by decide +kernel)
  exact ⟨t, log, hrun, hn, hnu, (outstanding_distinct_iff _ freshAssignment rfl 1 hrun).1.2 hf⟩

/-- Message 0 is not acknowledged and messages 1 to 7 are. Message 8 then has the number of message 0, and one
acknowledgement removes both. -/
theorem sequence_number_reused :
    ∃ t log, Run (steps (senderStep fun _ _ _ _ _ _ => none)) { session := ⟨some freshAssignment, 0⟩, next := 0 } t log ∧
      t.session.sequenceNumbers = [0, 0] ∧
      (markReliableStream0Acknowledged t.session 7 0).1.outstanding = [] := by
  obtain ⟨t, log, hrun, hn, hack⟩ := exists_run (senderStep fun _ _ _ _ _ _ => none) (fun _ _ => True)
    { session := ⟨some freshAssignment, 0⟩, next := 0 }
    ([.send sampleMessage 0] ++
      [1, 2, 3, 4, 5, 6, 7].flatMap (fun n => [.send sampleMessage 0, .acknowledge 7 n]) ++ [.send sampleMessage 0])
    (fun t _ => t.session.sequenceNumbers = [0, 0] ∧
      (markReliableStream0Acknowledged t.session 7 0).1.outstanding = []) (by decide +kernel)
  exact ⟨t, log, hrun, hn, hack⟩

end OneXBts.An.Air
